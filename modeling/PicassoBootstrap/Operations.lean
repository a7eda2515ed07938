import PicassoBootstrap.BondedFinance
import PicassoBootstrap.CrowdloanFunds
import PicassoBootstrap.Submissions

set_option autoImplicit false

namespace PicassoBootstrap

open Async

-- What the library and the bootstrap scripts can be asked to do, apart from the
-- seven functions of Trading.
inductive Operation where
  | underSudo (operation : SudoOperation) (walletSudo : KeyringPair)
  | createLiquidityBootstrappingPool (ownerKey : KeyringPair) (config : PoolInitConfiguration)
  | createConstantProductPool (sudoKey : KeyringPair) (config : PoolInitConfiguration)
  | createStableSwapPool (sudoKey : KeyringPair)
      (baseAssetId quoteAssetId amplificationCoefficient feeRate : JsNumber)
  | addLiquidity (wallet : KeyringPair) (poolId : BigNumber) (baseAmount quoteAmount : String)
  | createOffer (wallet : KeyringPair) (beneficiary : AccountId32) (requestParameters : BondOffer)
  | associateKSM (contributorAccount rewardAccount : KeyringPair)
  | associateEth (signer : EthereumSigner) (rewardAccount : KeyringPair)
  | addFundsToCrowdloan (walletSudo : KeyringPair) (relayAccounts : List (List UInt8)) (ethAccounts : List String)
      (rewardsPerAccount palletAccountId : String)
  | bootstrapAssets (walletSudo : KeyringPair) (mint : List (String × String × String))
  | bootstrapBondOffers (bondOffers : List BondOfferEntry) (wallet walletSudo : KeyringPair)
  | bootstrapPools (pools : List PoolEntry) (wallets : List KeyringPair) (walletSudo : KeyringPair)

namespace Operation

-- The result is the error that the operation has caught and printed, if any.
def run (operation : Operation) (api : Api) : ChainTask (Option String) :=
  match operation with
  | .underSudo operation walletSudo => do
      operation.run api walletSudo
      return none
  | .createLiquidityBootstrappingPool ownerKey config => do
      let _ ← PicassoBootstrap.createLiquidityBootstrappingPool api ownerKey config
      return none
  | .createConstantProductPool sudoKey config => do
      let _ ← PicassoBootstrap.createConstantProductPool api sudoKey config
      return none
  | .createStableSwapPool sudoKey baseAssetId quoteAssetId amplificationCoefficient feeRate => do
      let _ ← PicassoBootstrap.createStableSwapPool api sudoKey baseAssetId quoteAssetId amplificationCoefficient
        feeRate
      return none
  | .addLiquidity wallet poolId baseAmount quoteAmount => do
      let _ ← PicassoBootstrap.addLiquidity api wallet poolId baseAmount quoteAmount
      return none
  | .createOffer wallet beneficiary requestParameters => do
      let _ ← PicassoBootstrap.createOffer api wallet beneficiary requestParameters
      return none
  | .associateKSM contributorAccount rewardAccount => do
      let _ ← PicassoBootstrap.associateKSM api contributorAccount rewardAccount
      return none
  | .associateEth signer rewardAccount => do
      let _ ← PicassoBootstrap.associateEth api signer rewardAccount
      return none
  | .addFundsToCrowdloan walletSudo relayAccounts ethAccounts rewardsPerAccount palletAccountId => do
      PicassoBootstrap.addFundsToCrowdloan api walletSudo relayAccounts ethAccounts rewardsPerAccount palletAccountId
      return none
  | .bootstrapAssets walletSudo mint => do
      PicassoBootstrap.bootstrapAssets api walletSudo mint
      return none
  | .bootstrapBondOffers bondOffers wallet walletSudo => do
      PicassoBootstrap.bootstrapBondOffers api bondOffers wallet walletSudo
      return none
  | .bootstrapPools pools wallets walletSudo => PicassoBootstrap.bootstrapPools api pools wallets walletSudo

-- The key an operation is given for sudo, and the wallets it is given to sign with.
def sudoKey : Operation → Option KeyringPair
  | .underSudo _ walletSudo => some walletSudo
  | .addFundsToCrowdloan walletSudo _ _ _ _ => some walletSudo
  | .bootstrapAssets walletSudo _ => some walletSudo
  | .bootstrapBondOffers _ _ walletSudo => some walletSudo
  | .bootstrapPools _ _ walletSudo => some walletSudo
  | _ => none

def wallets : Operation → List KeyringPair
  | .createLiquidityBootstrappingPool ownerKey _ => [ownerKey]
  | .createConstantProductPool sudoKey _ => [sudoKey]
  | .createStableSwapPool sudoKey _ _ _ _ => [sudoKey]
  | .addLiquidity wallet _ _ _ => [wallet]
  | .createOffer wallet _ _ => [wallet]
  | .addFundsToCrowdloan walletSudo _ _ _ _ => [walletSudo]
  | .bootstrapBondOffers _ wallet _ => [wallet]
  | .bootstrapPools _ wallets _ => wallets
  | _ => []

end Operation

-- Privileged calls go out inside one sudo.sudo under the sudo key, and nothing
-- else does; associations go out unsigned; all other calls under a wallet.
def Authorized (sudoKey : Option KeyringPair) (wallets : List KeyringPair) (submission : Submission) : Prop :=
  match submission.call with
  | .sudoSudo call => call.privileged = true ∧ ∃ key, sudoKey = some key ∧ submission.signer = some key.publicKey
  | .crowdloanRewardsAssociate _ _ => submission.signer = none
  | call => call.privileged = false ∧ ∃ wallet ∈ wallets, submission.signer = some wallet.publicKey

theorem authorized_mono (sudoKey : Option KeyringPair) (fewer more : List KeyringPair) (submission : Submission)
    (included : fewer ⊆ more) (authorized : Authorized sudoKey fewer submission) :
    Authorized sudoKey more submission := by
  rcases submission with ⟨signer, call⟩
  cases call with
  | sudoSudo call => exact authorized
  | crowdloanRewardsAssociate rewardAccount proof => exact authorized
  | _ =>
      obtain ⟨unprivileged, wallet, member, signed⟩ := authorized
      exact ⟨unprivileged, wallet, included member, signed⟩

section Sends

variable (api : Api) (walletSudo : KeyringPair) (wallets : List KeyringPair)

theorem sudo_sends (operation : SudoOperation) :
    Task.Sends (Authorized (some walletSudo) wallets) (operation.run api walletSudo) :=
  sudo_submits _ api walletSudo operation fun _ privileged => ⟨privileged, walletSudo, rfl, rfl⟩

theorem mints_send (holders : List KeyringPair) (assetIDs : List String) (amount : BigNumber) :
    Task.Sends (Authorized (some walletSudo) wallets)
      (mintAssetsToWallets api holders walletSudo assetIDs amount) :=
  sudo_sends api walletSudo wallets (.mintAssetsToWallets holders assetIDs amount)

-- A call under one of the wallets.
theorem wallet_sends (sudoKey : Option KeyringPair) (wallet : KeyringPair) (member : wallet ∈ wallets)
    (filter : Event → Bool) (call : Except String Call)
    (plain : ∀ encoded, call = .ok encoded → Authorized sudoKey [wallet] ⟨some wallet.publicKey, encoded⟩) :
    Task.Sends (Authorized sudoKey wallets) (sendAndWaitForSuccess api wallet filter call) := by
  refine Task.sends_submit _ _ ?_
  intro action encoded
  obtain ⟨sent, rfl, rfl⟩ := (Fallible.map_ok_iff _ _ _).mp encoded
  exact authorized_mono sudoKey [wallet] wallets _ (by simpa using member) (plain sent rfl)

theorem plain_call (sudoKey : Option KeyringPair) (wallet : KeyringPair) (call : Call)
    (authorized : Authorized sudoKey [wallet] ⟨some wallet.publicKey, call⟩) :
    ∀ encoded, (.ok call : Except String Call) = .ok encoded →
      Authorized sudoKey [wallet] ⟨some wallet.publicKey, encoded⟩ := by
  intro encoded same
  rw [← Except.ok.inj same]
  exact authorized

theorem create_pool_sends (sudoKey : Option KeyringPair) (wallet : KeyringPair) (member : wallet ∈ wallets)
    (config : PoolInitConfiguration) :
    Task.Sends (Authorized sudoKey wallets) (createLiquidityBootstrappingPool api wallet config) :=
  wallet_sends api wallets sudoKey wallet member _ _ (plain_call sudoKey wallet _ ⟨rfl, wallet, by simp, rfl⟩)

theorem stable_swap_sends (sudoKey : Option KeyringPair) (wallet : KeyringPair) (member : wallet ∈ wallets)
    (baseAssetId quoteAssetId amplificationCoefficient feeRate : JsNumber) :
    Task.Sends (Authorized sudoKey wallets)
      (createStableSwapPool api wallet baseAssetId quoteAssetId amplificationCoefficient feeRate) := by
  refine Task.sends_bind _ _ _ (Task.sends_of_except _ _) fun base => ?_
  refine Task.sends_bind _ _ _ (Task.sends_of_except _ _) fun quote => ?_
  refine Task.sends_bind _ _ _ (Task.sends_of_except _ _) fun amplification => ?_
  refine Task.sends_bind _ _ _ (Task.sends_of_except _ _) fun fee => ?_
  exact create_pool_sends api wallets sudoKey wallet member _

theorem add_liquidity_sends (sudoKey : Option KeyringPair) (wallet : KeyringPair) (member : wallet ∈ wallets)
    (poolId : BigNumber) (baseAmount quoteAmount : String) :
    Task.Sends (Authorized sudoKey wallets) (addLiquidity api wallet poolId baseAmount quoteAmount) := by
  refine wallet_sends api wallets sudoKey wallet member _ _ ?_
  intro call encoded
  simp only [Tx.pabloAddLiquidity, Fallible.bind_ok_iff, Fallible.pure_ok_iff] at encoded
  obtain ⟨base, _, quote, _, pool, _, rfl⟩ := encoded
  exact ⟨rfl, wallet, by simp, rfl⟩

theorem create_offer_sends (sudoKey : Option KeyringPair) (wallet : KeyringPair) (member : wallet ∈ wallets)
    (beneficiary : AccountId32) (requestParameters : BondOffer) :
    Task.Sends (Authorized sudoKey wallets) (createOffer api wallet beneficiary requestParameters) :=
  wallet_sends api wallets sudoKey wallet member _ _ (plain_call sudoKey wallet _ ⟨rfl, wallet, by simp, rfl⟩)

theorem association_sends (sudoKey : Option KeyringPair) (rewardAccount : KeyringPair) (proof : Schema.Input) :
    Task.Sends (Authorized sudoKey wallets) (sendUnsignedAndWaitForSuccess api Event.isAssociated
      (Tx.crowdloanRewardsAssociate rewardAccount.publicKey proof)) := by
  refine Task.sends_submit _ _ ?_
  intro action encoded
  obtain ⟨sent, listed, rfl⟩ := (Fallible.map_ok_iff _ _ _).mp encoded
  simp only [Tx.crowdloanRewardsAssociate] at listed
  cases decoded : Schema.decode palletCrowdloanRewardsModelsProof proof with
  | none => simp [decoded] at listed
  | some value =>
      rw [decoded] at listed
      rw [← Except.ok.inj listed]
      rfl

theorem add_funds_sends {α : Type} (relayAccounts : List α) (ethAccounts : List String)
    (rewardsPerAccount palletAccountId : String) :
    Task.Sends (Authorized (some walletSudo) [walletSudo])
      (addFundsToCrowdloan api walletSudo relayAccounts ethAccounts rewardsPerAccount palletAccountId) := by
  refine Task.sends_bind _ _ _ (mints_send api walletSudo _ _ _ _) fun _ => ?_
  refine Task.sends_then _ _ _ (wallet_sends api _ _ walletSudo (by simp) _ _ ?_)
  intro call encoded
  simp only [Tx.assetsTransfer, Fallible.bind_ok_iff, Fallible.pure_ok_iff] at encoded
  obtain ⟨amount, _, asset, _, dest, _, rfl⟩ := encoded
  exact ⟨rfl, walletSudo, by simp, rfl⟩

theorem assets_send (mint : List (String × String × String)) :
    Task.Sends (Authorized (some walletSudo) wallets) (bootstrapAssets api walletSudo mint) :=
  Task.sends_for_m _ mint _ fun (address, assetId, amount) _ =>
    sudo_sends api walletSudo wallets (.mintAssetsToAddress [address] [assetId] amount)

theorem bond_offers_send (bondOffers : List BondOfferEntry) (wallet : KeyringPair) (member : wallet ∈ wallets) :
    Task.Sends (Authorized (some walletSudo) wallets) (bootstrapBondOffers api bondOffers wallet walletSudo) := by
  refine Task.sends_bind _ _ _ (mints_send api walletSudo wallets _ _ _) fun _ => ?_
  refine Task.sends_for_m _ bondOffers _ fun offer _ => ?_
  refine Task.sends_bind _ _ _ (mints_send api walletSudo wallets _ _ _) fun _ => ?_
  refine Task.sends_bind _ _ _ (Task.sends_of_except _ _) fun bondOffer => ?_
  exact Task.sends_then _ _ _ (create_offer_sends api wallets _ wallet member _ bondOffer)

theorem authorized_policy (pools : List PoolEntry) :
    PoolPolicy (Authorized (some walletSudo) wallets) walletSudo wallets pools where
  privileged := fun _ privileged => ⟨privileged, walletSudo, rfl, rfl⟩
  creation := fun wallet member _ _ _ _ => ⟨rfl, wallet, member, rfl⟩
  liquidity := fun wallet member _ _ _ _ _ => ⟨rfl, wallet, member, rfl⟩

theorem pools_send (pools : List PoolEntry) :
    Task.Sends (Authorized (some walletSudo) wallets) (bootstrapPools api pools wallets walletSudo) :=
  pools_submit _ api walletSudo wallets pools (authorized_policy walletSudo wallets pools)

theorem operation_sends (operation : Operation) :
    Task.Sends (Authorized operation.sudoKey operation.wallets) (operation.run api) := by
  cases operation with
  | underSudo operation walletSudo =>
      exact Task.sends_then _ _ _ (sudo_sends api walletSudo _ operation)
  | createLiquidityBootstrappingPool ownerKey config =>
      exact Task.sends_then _ _ _ (create_pool_sends api _ _ ownerKey (by simp [Operation.wallets]) config)
  | createConstantProductPool sudoKey config =>
      exact Task.sends_then _ _ _ (create_pool_sends api _ _ sudoKey (by simp [Operation.wallets]) config)
  | createStableSwapPool sudoKey baseAssetId quoteAssetId amplificationCoefficient feeRate =>
      exact Task.sends_then _ _ _ (stable_swap_sends api _ _ sudoKey (by simp [Operation.wallets]) _ _ _ _)
  | addLiquidity wallet poolId baseAmount quoteAmount =>
      exact Task.sends_then _ _ _ (add_liquidity_sends api _ _ wallet (by simp [Operation.wallets]) _ _ _)
  | createOffer wallet beneficiary requestParameters =>
      exact Task.sends_then _ _ _ (create_offer_sends api _ _ wallet (by simp [Operation.wallets]) _ _)
  | associateKSM contributorAccount rewardAccount =>
      exact Task.sends_then _ _ _ (association_sends api _ _ rewardAccount _)
  | associateEth signer rewardAccount =>
      exact Task.sends_then _ _ _ (association_sends api _ _ rewardAccount _)
  | addFundsToCrowdloan walletSudo relayAccounts ethAccounts rewardsPerAccount palletAccountId =>
      exact Task.sends_then _ _ _ (add_funds_sends api walletSudo _ _ _ _)
  | bootstrapAssets walletSudo mint =>
      exact Task.sends_then _ _ _ (assets_send api walletSudo _ mint)
  | bootstrapBondOffers bondOffers wallet walletSudo =>
      exact Task.sends_then _ _ _ (bond_offers_send api walletSudo _ bondOffers wallet (by simp [Operation.wallets]))
  | bootstrapPools pools wallets walletSudo => exact pools_send api walletSudo wallets pools

-- In every run of every operation, accepted or not: nothing privileged goes out
-- without sudo or under another key, and nothing else is ever sent through sudo.
theorem operation_authorized (operation : Operation) (log : ChainLog) :
    ∀ exchange ∈ added log (operation.run api log).2,
      Authorized operation.sudoKey operation.wallets exchange.request := by
  obtain ⟨new, grown, fine⟩ := operation_sends api operation log
  rw [grown, added_append]
  exact fine

theorem gas_of_pools_authorized :
    Authorized (some (devWallet 9)) [devWallet 1, devWallet 2]
      ⟨some (devWallet 9).publicKey, .sudoSudo (.assetsMintInto 1 (devWallet 2).publicKey 50000000000000)⟩ :=
  operation_authorized (promptNode 100) (.bootstrapPools samplePools [devWallet 1, devWallet 2] (devWallet 9)) []
    ⟨_, .resolved (.sudoSudid .ok)⟩ (by decide +kernel)

end Sends

section FailsFast

variable (api : Api)

-- The only query of the operations, which a sale waits for.
def heightUnanswered (log : ChainLog) : Prop := api.systemNumber log = .pending

theorem send_fails_fast (sender : KeyringPair) (filter : Event → Bool) (call : Except String Call) :
    Task.FailsFast (heightUnanswered api) Task.unrefused (sendAndWaitForSuccess api sender filter call) :=
  Task.fails_fast_submit _ _

theorem sudo_fails_fast (operation : SudoOperation) (walletSudo : KeyringPair) :
    Task.FailsFast (heightUnanswered api) Task.unrefused (operation.run api walletSudo) := by
  rw [sudo_run_flat]
  exact Task.fails_fast_submit_all _ _

theorem mints_fail_fast (holders : List KeyringPair) (walletSudo : KeyringPair) (assetIDs : List String)
    (amount : BigNumber) :
    Task.FailsFast (heightUnanswered api) Task.unrefused
      (mintAssetsToWallets api holders walletSudo assetIDs amount) :=
  sudo_fails_fast api (.mintAssetsToWallets holders assetIDs amount) walletSudo

theorem bond_offers_fail_fast (bondOffers : List BondOfferEntry) (wallet walletSudo : KeyringPair) :
    Task.FailsFast (heightUnanswered api) Task.unrefused
      (bootstrapBondOffers api bondOffers wallet walletSudo) := by
  refine Task.fails_fast_bind _ _ _ _ (mints_fail_fast api _ _ _ _) fun _ => ?_
  refine Task.fails_fast_for_m _ bondOffers _ fun offer _ => ?_
  refine Task.fails_fast_bind _ _ _ _ (mints_fail_fast api _ _ _ _) fun _ => ?_
  refine Task.fails_fast_bind _ _ _ _ (Task.fails_fast_of_except _ _) fun bondOffer => ?_
  exact Task.fails_fast_then _ _ _ _ rfl (send_fails_fast api wallet _ _)

theorem stable_swap_fails_fast (wallet : KeyringPair)
    (baseAssetId quoteAssetId amplificationCoefficient feeRate : JsNumber) :
    Task.FailsFast (heightUnanswered api) Task.unrefused
      (createStableSwapPool api wallet baseAssetId quoteAssetId amplificationCoefficient feeRate) := by
  refine Task.fails_fast_bind _ _ _ _ (Task.fails_fast_of_except _ _) fun base => ?_
  refine Task.fails_fast_bind _ _ _ _ (Task.fails_fast_of_except _ _) fun quote => ?_
  refine Task.fails_fast_bind _ _ _ _ (Task.fails_fast_of_except _ _) fun amplification => ?_
  refine Task.fails_fast_bind _ _ _ _ (Task.fails_fast_of_except _ _) fun fee => ?_
  exact send_fails_fast api wallet _ _

theorem config_fails_fast (wallet : KeyringPair) (config : Except String PoolInitConfiguration) :
    Task.FailsFast (heightUnanswered api) Task.unrefused (submitConfig api wallet config) := by
  refine Task.fails_fast_bind _ _ _ _ (Task.fails_fast_of_except _ _) fun decoded => ?_
  refine Task.fails_fast_bind _ _ _ _ (send_fails_fast api wallet _ _) fun created => ?_
  refine Task.fails_fast_bind _ _ _ _ (Task.fails_fast_of_except _ _) fun poolId => ?_
  exact Task.fails_fast_pure _ _ _ rfl

theorem pool_creation_fails_fast (wallets : List KeyringPair) (walletIndex : Nat) (pool : PoolEntry) :
    Task.FailsFast (heightUnanswered api) Task.unrefused (createPool api wallets walletIndex pool) := by
  have creation : ∀ build : KeyringPair → Except String PoolInitConfiguration,
      Task.FailsFast (heightUnanswered api) Task.unrefused
        (Task.ofExcept (walletAt wallets walletIndex) >>= fun wallet => submitConfig api wallet (build wallet)) :=
    fun build => Task.fails_fast_bind _ _ _ _ (Task.fails_fast_of_except _ _) fun wallet =>
      config_fails_fast api wallet (build wallet)
  rcases create_pool_cases api wallets walletIndex pool with ⟨_, same⟩ | ⟨_, same⟩ | ⟨_, same⟩ | ⟨_, same⟩
  · rw [same]
    refine Task.fails_fast_bind _ _ _ _ (Task.fails_fast_read _ _ fun _ stalled => stalled) fun start => ?_
    exact creation _
  · rw [same]
    exact creation _
  · rw [same]
    exact creation _
  · rw [same]
    exact Task.fails_fast_pure _ _ _ rfl

theorem pool_liquidity_fails_fast (wallet walletSudo : KeyringPair) (pool : PoolEntry) (poolId : BigNumber) :
    Task.FailsFast (heightUnanswered api) Task.unrefused (addPoolLiquidity api wallet walletSudo pool poolId) := by
  unfold addPoolLiquidity
  by_cases wanted : pool.addLiquidity = true
  · rw [if_pos wanted]
    refine Task.fails_fast_bind _ _ _ _ (Task.fails_fast_of_except _ _) fun pair => ?_
    refine Task.fails_fast_bind _ _ _ _ (Task.fails_fast_of_except _ _) fun liquidityAmount => ?_
    refine Task.fails_fast_bind _ _ _ _ (mints_fail_fast api _ _ _ _) fun _ => ?_
    refine Task.fails_fast_bind _ _ _ _ (mints_fail_fast api _ _ _ _) fun _ => ?_
    exact Task.fails_fast_then _ _ _ _ rfl (send_fails_fast api wallet _ _)
  · rw [if_neg wanted]
    exact Task.fails_fast_pure _ _ _ rfl

theorem pool_route_fails_fast (walletSudo : KeyringPair) (pool : PoolEntry) (poolId : BigNumber) :
    Task.FailsFast (heightUnanswered api) Task.unrefused (addPoolDexRoute api walletSudo pool poolId) := by
  unfold addPoolDexRoute
  by_cases wanted : pool.addDexRoute = true
  · rw [if_pos wanted]
    refine Task.fails_fast_bind _ _ _ _ (Task.fails_fast_of_except _ _) fun pairEntry => ?_
    refine Task.fails_fast_bind _ _ _ _ (Task.fails_fast_of_except _ _) fun pair => ?_
    exact sudo_fails_fast api (.updateDexRoute pair poolId.toNumber) walletSudo
  · rw [if_neg wanted]
    exact Task.fails_fast_pure _ _ _ rfl

theorem pool_twap_fails_fast (walletSudo : KeyringPair) (pool : PoolEntry) (poolId : BigNumber) :
    Task.FailsFast (heightUnanswered api) Task.unrefused (enablePoolTwap api walletSudo pool poolId) := by
  unfold enablePoolTwap
  by_cases wanted : pool.enableTwap = true
  · rw [if_pos wanted]
    exact sudo_fails_fast api (.enableTwap poolId.toNumber) walletSudo
  · rw [if_neg wanted]
    exact Task.fails_fast_pure _ _ _ rfl

theorem pool_fails_fast (wallets : List KeyringPair) (walletIndex : Nat) (walletSudo : KeyringPair) (pool : PoolEntry) :
    Task.FailsFast (heightUnanswered api) Task.unrefused
      (bootstrapPool api wallets walletIndex walletSudo pool) := by
  refine Task.fails_fast_bind _ _ _ _ (pool_creation_fails_fast api wallets walletIndex pool) fun created => ?_
  cases created with
  | none => exact Task.fails_fast_pure _ _ _ rfl
  | some poolId =>
      refine Task.fails_fast_bind _ _ _ _ (Task.fails_fast_of_except _ _) fun wallet => ?_
      refine Task.fails_fast_bind _ _ _ _ (pool_liquidity_fails_fast api wallet walletSudo pool poolId) fun _ => ?_
      refine Task.fails_fast_bind _ _ _ _ (pool_route_fails_fast api walletSudo pool poolId) fun _ => ?_
      exact pool_twap_fails_fast api walletSudo pool poolId

theorem pools_loop_fails_fast (pools : List PoolEntry) (wallets : List KeyringPair) (walletSudo : KeyringPair)
    (walletIndex : Nat) :
    Task.FailsFast (heightUnanswered api) id (bootstrapPoolsLoop api wallets walletSudo pools walletIndex) := by
  induction pools generalizing walletIndex with
  | nil => exact Task.fails_fast_pure _ _ _ rfl
  | cons pool rest ih =>
      -- The caught error is what the loop returns.
      exact Task.fails_fast_handle _ id _ _ some (pool_fails_fast api wallets walletIndex walletSudo pool)
        (fun _ => rfl) (fun _ => rfl) fun _ => ih _

theorem operation_fails_fast (operation : Operation) :
    Task.FailsFast (heightUnanswered api) id (operation.run api) := by
  cases operation with
  | underSudo operation walletSudo =>
      exact Task.fails_fast_then _ _ _ _ rfl (sudo_fails_fast api operation walletSudo)
  | createLiquidityBootstrappingPool ownerKey config =>
      exact Task.fails_fast_then _ _ _ _ rfl (send_fails_fast api ownerKey _ _)
  | createConstantProductPool sudoKey config =>
      exact Task.fails_fast_then _ _ _ _ rfl (send_fails_fast api sudoKey _ _)
  | createStableSwapPool sudoKey baseAssetId quoteAssetId amplificationCoefficient feeRate =>
      exact Task.fails_fast_then _ _ _ _ rfl (stable_swap_fails_fast api sudoKey _ _ _ _)
  | addLiquidity wallet poolId baseAmount quoteAmount =>
      exact Task.fails_fast_then _ _ _ _ rfl (send_fails_fast api wallet _ _)
  | createOffer wallet beneficiary requestParameters =>
      exact Task.fails_fast_then _ _ _ _ rfl (send_fails_fast api wallet _ _)
  | associateKSM contributorAccount rewardAccount =>
      exact Task.fails_fast_then _ _ _ _ rfl (Task.fails_fast_submit _ _)
  | associateEth signer rewardAccount =>
      exact Task.fails_fast_then _ _ _ _ rfl (Task.fails_fast_submit _ _)
  | addFundsToCrowdloan walletSudo relayAccounts ethAccounts rewardsPerAccount palletAccountId =>
      refine Task.fails_fast_then _ _ _ _ rfl ?_
      rw [add_funds_flat]
      exact Task.fails_fast_submit_all _ _
  | bootstrapAssets walletSudo mint =>
      refine Task.fails_fast_then _ _ _ _ rfl (Task.fails_fast_for_m _ mint _ ?_)
      intro (address, assetId, amount) _
      exact sudo_fails_fast api (.mintAssetsToAddress [address] [assetId] amount) walletSudo
  | bootstrapBondOffers bondOffers wallet walletSudo =>
      exact Task.fails_fast_then _ _ _ _ rfl (bond_offers_fail_fast api bondOffers wallet walletSudo)
  | bootstrapPools pools wallets walletSudo =>
      refine Task.fails_fast_bind _ _ _ _ (mints_fail_fast api wallets walletSudo _ _) fun _ => ?_
      exact pools_loop_fails_fast api pools wallets walletSudo 0

-- Every run of every operation: all submissions but the last were accepted; the
-- last one, when it was not, is what the operation throws, prints or waits for.
theorem operation_tells_failure (operation : Operation) (log : ChainLog) :
    ∃ done last, (operation.run api log).2 = log ++ done ++ last ∧
      (∀ exchange ∈ done, exchange.outcome.isResolved = true) ∧
      match (operation.run api log).1 with
      | .resolved none => last = []
      | .resolved (some error) => last = [] ∨ ∃ request, last = [⟨request, .rejected error⟩]
      | .rejected error => last = [] ∨ ∃ request, last = [⟨request, .rejected error⟩]
      | .pending =>
          last = [] ∧ api.systemNumber (log ++ done) = .pending ∨ ∃ request, last = [⟨request, .pending⟩] := by
  obtain ⟨done, last, grown, fine, told⟩ :=
    Task.fails_fast_run _ id _ (operation_fails_fast api operation) log
  refine ⟨done, last, grown, fine, ?_⟩
  cases outcome : (operation.run api log).1 with
  | resolved value => cases value <;> simpa only [outcome, id] using told
  | rejected error => simpa only [outcome] using told
  | pending => simpa only [outcome, heightUnanswered] using told

end FailsFast

end PicassoBootstrap

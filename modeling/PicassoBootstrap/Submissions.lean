import PicassoBootstrap.Lib.TaskLogic
import PicassoBootstrap.PoolPlan
import PicassoBootstrap.Sudo

set_option autoImplicit false

namespace PicassoBootstrap

open Async

-- What the chain leaves to sudo.
def Call.privileged : Call → Bool
  | .assetsMintInto _ _ _ => true
  | .pabloEnableTwap _ => true
  | .dexRouterUpdateRoute _ _ => true
  | .crowdloanRewardsInitialize => true
  | .crowdloanRewardsPopulate _ => true
  | .mosaicSetRelayer _ => true
  | .mosaicSetBudget _ _ _ => true
  | _ => false

-- The configurations that an entry is turned into, of whichever kind it is.
inductive Built (wallet : KeyringPair) (pool : PoolEntry) (config : PoolInitConfiguration) : Prop where
  | sale (currentBlock : BigNumber)
      (built : toLiquidityBootstrappingPoolInitConfig wallet pool currentBlock (some 25) = .ok config)
  | weighted (built : toConstantProductPoolInitConfig wallet pool = .ok config)
  | amplified (built : toStableSwapPoolInitConfig wallet pool = .ok config)

-- Enough to allow everything that bootstrapPools may submit.
structure PoolPolicy (allowed : Submission → Prop) (walletSudo : KeyringPair) (wallets : List KeyringPair)
    (pools : List PoolEntry) : Prop where
  privileged : ∀ call : Call, call.privileged = true → allowed ⟨some walletSudo.publicKey, .sudoSudo call⟩
  creation : ∀ wallet ∈ wallets, ∀ pool ∈ pools, ∀ config, Built wallet pool config →
    allowed ⟨some wallet.publicKey, .pabloCreate config⟩
  liquidity : ∀ wallet ∈ wallets, ∀ poolId baseAmount quoteAmount minMintAmount keepAlive,
    allowed ⟨some wallet.publicKey, .pabloAddLiquidity poolId baseAmount quoteAmount minMintAmount keepAlive⟩

section Submissions

variable (allowed : Submission → Prop) (api : Api) (walletSudo : KeyringPair)

theorem sudo_calls_privileged (operation : SudoOperation) (call : Call)
    (member : .ok call ∈ operation.calls api) : call.privileged = true := by
  cases operation with
  | mintAssetsToWallets holders assetIDs amount =>
      obtain ⟨args, _, encoded⟩ := List.mem_map.mp member
      obtain ⟨mint, _, rfl⟩ := (Fallible.map_ok_iff _ _ _).mp encoded
      rfl
  | mintAssetsToAddress holders assetIDs amount =>
      obtain ⟨args, _, encoded⟩ := List.mem_map.mp member
      obtain ⟨mint, _, rfl⟩ := (Fallible.map_ok_iff _ _ _).mp encoded
      rfl
  | updateDexRoute pair poolId =>
      have encoded := (List.mem_singleton.mp member).symm
      simp only [Tx.dexRouterUpdateRoute, Fallible.bind_ok_iff, Fallible.pure_ok_iff] at encoded
      obtain ⟨pool, _, rfl⟩ := encoded
      rfl
  | enableTwap poolId =>
      have encoded := (List.mem_singleton.mp member).symm
      simp only [Tx.pabloEnableTwap, Fallible.bind_ok_iff, Fallible.pure_ok_iff] at encoded
      obtain ⟨pool, _, rfl⟩ := encoded
      rfl
  | crowdloanInitialize =>
      rw [Except.ok.inj (List.mem_singleton.mp member)]
      rfl
  | populate relayAccounts ethAccounts rewardsPerAccount vestingPeriod =>
      have encoded := (List.mem_singleton.mp member).symm
      obtain ⟨rewards, _, rfl⟩ := (Fallible.map_ok_iff _ _ _).mp encoded
      rfl
  | setRelayer relayerAccount =>
      rw [Except.ok.inj (List.mem_singleton.mp member)]
      rfl
  | setBudget assetId =>
      have encoded := (List.mem_singleton.mp member).symm
      simp only [Tx.mosaicSetBudget, Fallible.bind_ok_iff, Fallible.pure_ok_iff] at encoded
      obtain ⟨asset, _, amount, _, linear, _, rfl⟩ := encoded
      rfl

theorem sudo_submits (operation : SudoOperation)
    (fine : ∀ call : Call, call.privileged = true → allowed ⟨some walletSudo.publicKey, .sudoSudo call⟩) :
    Task.Sends allowed (operation.run api walletSudo) := by
  rw [sudo_run_flat]
  refine Task.sends_submit_all _ _ ?_
  intro item member action encoded
  obtain ⟨call, listed, rfl⟩ := List.mem_map.mp member
  simp only [sudoItem, Tx.sudoSudo, Fallible.map_ok_iff] at encoded
  obtain ⟨_, ⟨inner, rfl, rfl⟩, rfl⟩ := encoded
  exact fine inner (sudo_calls_privileged api operation inner listed)

theorem signed_submits (wallet : KeyringPair) (filter : Event → Bool) (call : Except String Call)
    (fine : ∀ encoded, call = .ok encoded → allowed ⟨some wallet.publicKey, encoded⟩) :
    Task.Sends allowed (sendAndWaitForSuccess api wallet filter call) := by
  refine Task.sends_submit _ _ ?_
  intro action encoded
  obtain ⟨sent, rfl, rfl⟩ := (Fallible.map_ok_iff _ _ _).mp encoded
  exact fine sent rfl

theorem liquidity_submits (wallet : KeyringPair) (poolId : BigNumber) (baseAmount quoteAmount : String)
    (fine : ∀ poolId baseAmount quoteAmount minMintAmount keepAlive,
      allowed ⟨some wallet.publicKey, .pabloAddLiquidity poolId baseAmount quoteAmount minMintAmount keepAlive⟩) :
    Task.Sends allowed (addLiquidity api wallet poolId baseAmount quoteAmount) := by
  refine signed_submits allowed api wallet _ _ ?_
  intro call encoded
  simp only [Tx.pabloAddLiquidity, Fallible.bind_ok_iff, Fallible.pure_ok_iff] at encoded
  obtain ⟨base, _, quote, _, pool, _, rfl⟩ := encoded
  exact fine _ _ _ _ _

section Pools

variable (wallets : List KeyringPair) (pools : List PoolEntry)
  (policy : PoolPolicy allowed walletSudo wallets pools)

theorem wallet_at_mem (walletIndex : Nat) (wallet : KeyringPair) (found : walletAt wallets walletIndex = .ok wallet) :
    wallet ∈ wallets := by
  simp only [walletAt] at found
  cases entry : wallets[walletIndex]? with
  | none => simp [entry] at found
  | some holder =>
      rw [entry] at found
      rw [← Except.ok.inj found]
      exact List.mem_of_getElem? entry

theorem config_submits (wallet : KeyringPair) (config : Except String PoolInitConfiguration)
    (fine : ∀ decoded, config = .ok decoded → allowed ⟨some wallet.publicKey, .pabloCreate decoded⟩) :
    Task.Sends allowed (submitConfig api wallet config) := by
  refine Task.sends_convert _ _ _ fun decoded built => ?_
  refine Task.sends_bind _ _ _ (signed_submits allowed api wallet _ _ ?_) fun created => ?_
  · intro encoded same
    rw [← Except.ok.inj same]
    exact fine decoded built
  · exact Task.sends_bind _ _ _ (Task.sends_of_except _ _) fun poolId => Task.sends_pure _ _

include policy

theorem mints_submit (holders : List KeyringPair) (assetIDs : List String) (amount : BigNumber) :
    Task.Sends allowed (mintAssetsToWallets api holders walletSudo assetIDs amount) :=
  sudo_submits allowed api walletSudo (.mintAssetsToWallets holders assetIDs amount) policy.privileged

theorem pool_creation_submits (walletIndex : Nat) (pool : PoolEntry) (listed : pool ∈ pools) :
    Task.Sends allowed (createPool api wallets walletIndex pool) := by
  have creation : ∀ build : KeyringPair → Except String PoolInitConfiguration,
      (∀ wallet config, build wallet = .ok config → Built wallet pool config) →
        Task.Sends allowed (Task.ofExcept (walletAt wallets walletIndex) >>= fun wallet =>
          submitConfig api wallet (build wallet)) := by
    intro build builds
    refine Task.sends_convert _ _ _ fun wallet found => config_submits allowed api wallet _ fun config built => ?_
    exact policy.creation wallet (wallet_at_mem wallets walletIndex wallet found) pool listed config
      (builds wallet config built)
  rcases create_pool_cases api wallets walletIndex pool with ⟨_, same⟩ | ⟨_, same⟩ | ⟨_, same⟩ | ⟨_, same⟩
  · rw [same]
    exact Task.sends_bind _ _ _ (Task.sends_read _ _) fun start => creation _ fun wallet config => .sale _
  · rw [same]
    exact creation _ fun wallet config => .weighted
  · rw [same]
    exact creation _ fun wallet config => .amplified
  · rw [same]
    exact Task.sends_pure _ _

theorem pool_liquidity_submits (wallet : KeyringPair) (member : wallet ∈ wallets) (pool : PoolEntry)
    (poolId : BigNumber) : Task.Sends allowed (addPoolLiquidity api wallet walletSudo pool poolId) := by
  unfold addPoolLiquidity
  by_cases wanted : pool.addLiquidity = true
  · rw [if_pos wanted]
    refine Task.sends_bind _ _ _ (Task.sends_of_except _ _) fun pair => ?_
    refine Task.sends_bind _ _ _ (Task.sends_of_except _ _) fun liquidityAmount => ?_
    refine Task.sends_bind _ _ _ (mints_submit allowed api walletSudo wallets pools policy _ _ _) fun _ => ?_
    refine Task.sends_bind _ _ _ (mints_submit allowed api walletSudo wallets pools policy _ _ _) fun _ => ?_
    exact Task.sends_then _ _ _ (liquidity_submits allowed api wallet _ _ _ (policy.liquidity wallet member))
  · rw [if_neg wanted]
    exact Task.sends_pure _ _

theorem pool_route_submits (pool : PoolEntry) (poolId : BigNumber) :
    Task.Sends allowed (addPoolDexRoute api walletSudo pool poolId) := by
  unfold addPoolDexRoute
  by_cases wanted : pool.addDexRoute = true
  · rw [if_pos wanted]
    refine Task.sends_bind _ _ _ (Task.sends_of_except _ _) fun pairEntry => ?_
    refine Task.sends_bind _ _ _ (Task.sends_of_except _ _) fun pair => ?_
    exact sudo_submits allowed api walletSudo (.updateDexRoute pair poolId.toNumber) policy.privileged
  · rw [if_neg wanted]
    exact Task.sends_pure _ _

theorem pool_twap_submits (pool : PoolEntry) (poolId : BigNumber) :
    Task.Sends allowed (enablePoolTwap api walletSudo pool poolId) := by
  unfold enablePoolTwap
  by_cases wanted : pool.enableTwap = true
  · rw [if_pos wanted]
    exact sudo_submits allowed api walletSudo (.enableTwap poolId.toNumber) policy.privileged
  · rw [if_neg wanted]
    exact Task.sends_pure _ _

theorem pool_submits (walletIndex : Nat) (pool : PoolEntry) (listed : pool ∈ pools) :
    Task.Sends allowed (bootstrapPool api wallets walletIndex walletSudo pool) := by
  refine Task.sends_bind _ _ _ ?_ fun created => ?_
  · exact pool_creation_submits allowed api walletSudo wallets pools policy walletIndex pool listed
  · cases created with
    | none => exact Task.sends_pure _ _
    | some poolId =>
        refine Task.sends_convert _ _ _ fun wallet found => ?_
        have member := wallet_at_mem wallets walletIndex wallet found
        refine Task.sends_bind _ _ _ ?_ fun _ => Task.sends_bind _ _ _ ?_ fun _ => ?_
        · exact pool_liquidity_submits allowed api walletSudo wallets pools policy wallet member pool poolId
        · exact pool_route_submits allowed api walletSudo wallets pools policy pool poolId
        · exact pool_twap_submits allowed api walletSudo wallets pools policy pool poolId

theorem pools_loop_submits (rest : List PoolEntry) (listed : rest ⊆ pools) (walletIndex : Nat) :
    Task.Sends allowed (bootstrapPoolsLoop api wallets walletSudo rest walletIndex) := by
  induction rest generalizing walletIndex with
  | nil => exact Task.sends_pure _ _
  | cons pool later ih =>
      have here := pool_submits allowed api walletSudo wallets pools policy walletIndex pool (listed (by simp))
      refine Task.sends_bind _ _ _ (Task.sends_attempt _ _ here) ?_
      intro result
      cases result with
      | error err => exact Task.sends_pure _ _
      | ok done => exact ih (List.subset_of_cons_subset listed) _

theorem pools_submit : Task.Sends allowed (bootstrapPools api pools wallets walletSudo) :=
  Task.sends_bind _ _ _ (mints_submit allowed api walletSudo wallets pools policy _ _ _) fun _ =>
    pools_loop_submits allowed api walletSudo wallets pools policy pools (List.Subset.refl pools) 0

end Pools

end Submissions

end PicassoBootstrap

import PicassoBootstrap.MainRuns

set_option autoImplicit false

namespace PicassoBootstrap

open Async

-- The event that the sender of an extrinsic waits for; what needs sudo is sent
-- inside a sudo.sudo only.
def Call.awaits : Call → Event → Bool
  | .assetsTransfer _ _ _ _ => Event.isTransfer
  | .pabloCreate _ => Event.isPoolCreated
  | .pabloAddLiquidity _ _ _ _ _ => Event.isLiquidityAdded
  | .crowdloanRewardsAssociate _ _ => Event.isAssociated
  | .bondedFinanceOffer _ _ _ => Event.isNewOffer
  | _ => Event.isSudid

-- A node that never refuses, never leaves a question open and numbers its pools
-- within what a JavaScript number can hold.
structure Api.Obliging (api : Api) : Prop where
  accepts : ∀ log (request : Submission), request.call.privileged = false → ∃ event,
    sendAndWaitFor api.registry request.call.awaits (api.deliver log request) = .resolved event
  answers : ∀ log, ∃ height, api.systemNumber log = .resolved height
  numbers : ∀ log request poolId, sendAndWaitFor api.registry Event.isPoolCreated (api.deliver log request) =
    .resolved (.pabloPoolCreated poolId) → poolId ≤ Double.maxSafeInteger

-- An amount that is read alike by the mint, which prints it again, and by the
-- extrinsic that spends it.
def Spendable (amount : String) : Prop :=
  ∃ n, BigNumber.ofString amount = BigNumber.ofNat n ∧ n < 10 ^ 21 ∧ createUInt 128 amount = .ok n

def PoolEntry.Converts (pool : PoolEntry) (height : Nat) : Prop :=
  match pool.kind with
  | none => True
  | some .liquidityBootstrapping => ∀ wallet, ∃ config,
      toLiquidityBootstrappingPoolInitConfig wallet pool (BigNumber.ofString (toString height)) (some 25) = .ok config
  | some .constantProduct => ∀ wallet, ∃ config, toConstantProductPoolInitConfig wallet pool = .ok config
  | some .stableSwap => ∀ wallet, ∃ config, toStableSwapPoolInitConfig wallet pool = .ok config

-- An entry of no kind may hold anything.
structure PoolEntry.WellFormed (pool : PoolEntry) (api : Api) : Prop where
  converts : ∀ log height, api.systemNumber log = .resolved height → pool.Converts height
  liquidity : pool.kind.isSome = true → pool.addLiquidity = true →
    ∃ amount, pool.liquidityAmount = some amount ∧ Spendable amount.base ∧ Spendable amount.quote

structure BondOfferEntry.WellFormed (entry : BondOfferEntry) : Prop where
  converts : ∃ offer, toBondOffer entry = .ok offer
  reward : Spendable entry.reward.amount

structure Config.WellFormed (config : Config) (api : Api) : Prop where
  bonds : config.bootstrapBonds = true → ∀ entry ∈ config.bondOffers, entry.WellFormed
  pools : config.bootstrapPools = true → ∀ pool ∈ config.pools, pool.WellFormed api
  assets : config.mintAssetsToWallets = true → ∀ args ∈ listedArgs config.mintAssets, ∃ mint, args.decode api = .ok mint

theorem printed_mint_decodes (api : Api) (asset : String) (account : AccountId32) (amount : BigNumber)
    (n assetId : Nat) (decoded : createUInt 128 asset = .ok assetId) (carried : amount = BigNumber.ofNat n)
    (printed : n < 10 ^ 21) :
    MintArgs.decode api ⟨asset, .publicKey account, amount.toString⟩ = .ok ⟨assetId, account, n⟩ := by
  simp only [MintArgs.decode, Destination.decode, decoded, (create_u128_to_string amount n).mpr ⟨carried, printed⟩]
  rfl

theorem safe_number_small (number : Nat) (safe : number ≤ Double.maxSafeInteger) : number < 10 ^ 21 := by
  simp only [Double.maxSafeInteger] at safe
  omega

theorem safe_number_encodes (number : Nat) (safe : number ≤ Double.maxSafeInteger) :
    createUIntOfNumber 128 (BigNumber.ofNat number).toNumber = .ok number := by
  have small := safe_number_small number safe
  exact (create_uint_to_number 128 number number).mpr ⟨rfl, safe, by omega⟩

section Completes

variable (api : Api) (obliging : api.Obliging) (walletSudo : KeyringPair)

include obliging

theorem send_completes (sender : KeyringPair) (filter : Event → Bool) (call : Call) (awaited : call.awaits = filter)
    (plain : call.privileged = false) :
    Task.Completes (fun _ => True) (sendAndWaitForSuccess api sender filter (.ok call)) := by
  refine Task.completes_submit _ _ fun log => ?_
  obtain ⟨event, resolved⟩ := obliging.accepts log ⟨some sender.publicKey, call⟩ plain
  rw [awaited] at resolved
  exact ⟨event, resolved, trivial⟩

theorem intents_complete (intents : List Intent)
    (encodes : ∀ intent ∈ intents, ∃ step, intent.step api walletSudo = .ok step) :
    Task.Completes (fun _ => True) (Task.submitAll (intents.map (Intent.item api walletSudo))) := by
  refine Task.completes_submit_all _ fun item member => ?_
  obtain ⟨intent, listed, rfl⟩ := List.mem_map.mp member
  obtain ⟨step, encoded⟩ := encodes intent listed
  cases intent with
  | mint args =>
      obtain ⟨mint, decoded, _⟩ := (Fallible.map_ok_iff _ _ _).mp encoded
      refine ⟨mintAction api walletSudo mint, by rw [Intent.item, mintItem, decoded]; rfl, fun log => ?_⟩
      exact obliging.accepts log ⟨some walletSudo.publicKey, .sudoSudo mint.call⟩ rfl
  | offer wallet entry =>
      obtain ⟨offer, converted, _⟩ := (Fallible.map_ok_iff _ _ _).mp encoded
      refine ⟨offerAction api wallet offer, by rw [Intent.item, converted]; rfl, fun log => ?_⟩
      exact obliging.accepts log ⟨some wallet.publicKey, .bondedFinanceOffer wallet.publicKey offer false⟩ rfl

omit obliging in
theorem gas_encodes (wallets : List KeyringPair) :
    ∀ intent ∈ gasIntents wallets, ∃ step, intent.step api walletSudo = .ok step := by
  intro intent listed
  simp only [gasIntents, gasArgs, productArgs, List.flatMap_singleton, List.map_map, List.mem_map] at listed
  obtain ⟨wallet, _, rfl⟩ := listed
  have units : toChainUnits (BigNumber.ofNat 50) none = BigNumber.ofNat 50000000000000 := by decide
  have decoded := printed_mint_decodes api "1" wallet.publicKey _ _ 1 (by decide) units (by decide)
  exact ⟨_, (Fallible.map_ok_iff _ _ _).mpr ⟨_, decoded, rfl⟩⟩

theorem bonds_complete (bondOffers : List BondOfferEntry) (wallet : KeyringPair)
    (wellFormed : ∀ entry ∈ bondOffers, entry.WellFormed) :
    Task.Completes (fun _ => True) (bootstrapBondOffers api bondOffers wallet walletSudo) := by
  rw [bond_offers_flat]
  refine intents_complete api obliging walletSudo _ fun intent listed => ?_
  rcases List.mem_append.mp listed with gas | offers
  · exact gas_encodes api walletSudo [wallet] intent gas
  · obtain ⟨entry, member, from_entry⟩ := List.mem_flatMap.mp offers
    obtain ⟨⟨offer, converted⟩, n, carried, printed, _⟩ := wellFormed entry member
    rcases List.mem_pair.mp from_entry with rfl | rfl
    · obtain ⟨assetId, decoded⟩ : ∃ assetId, createUInt 128 entry.reward.asset = .ok assetId := by
        simp only [toBondOffer, Fallible.bind_ok_iff] at converted
        obtain ⟨_, _, _, _, _, _, _, _, assetId, decoded, _⟩ := converted
        exact ⟨assetId, decoded⟩
      have mint := printed_mint_decodes api entry.reward.asset wallet.publicKey _ n assetId decoded carried printed
      exact ⟨_, (Fallible.map_ok_iff _ _ _).mpr ⟨_, mint, rfl⟩⟩
    · exact ⟨_, (Fallible.map_ok_iff _ _ _).mpr ⟨offer, converted, rfl⟩⟩

theorem assets_complete (mint : List (String × String × String))
    (wellFormed : ∀ args ∈ listedArgs mint, ∃ decoded, args.decode api = .ok decoded) :
    Task.Completes (fun _ => True) (bootstrapAssets api walletSudo mint) := by
  rw [assets_flat]
  refine intents_complete api obliging walletSudo _ fun intent listed => ?_
  obtain ⟨args, member, rfl⟩ := List.mem_map.mp listed
  obtain ⟨decoded, found⟩ := wellFormed args member
  exact ⟨_, (Fallible.map_ok_iff _ _ _).mpr ⟨decoded, found, rfl⟩⟩

def Created (pool : PoolEntry) (created : Option BigNumber) : Prop :=
  ∀ poolId, created = some poolId → pool.kind.isSome = true ∧
    (∃ number, poolId = BigNumber.ofNat number ∧ number ≤ Double.maxSafeInteger) ∧
    ∃ entry pair, pool.pair = some entry ∧ toPabloPoolPair entry.base entry.quote = .ok pair

omit obliging in
theorem built_pair (wallet : KeyringPair) (pool : PoolEntry) (config : PoolInitConfiguration)
    (built : Built wallet pool config) :
    ∃ entry pair, pool.pair = some entry ∧ toPabloPoolPair entry.base entry.quote = .ok pair := by
  have field : ∀ entry, objectField pool.pair = .ok entry → pool.pair = some entry := fun entry =>
    object_field_ok pool.pair entry
  cases built with
  | sale currentBlock built =>
      simp only [toLiquidityBootstrappingPoolInitConfig, Fallible.bind_ok_iff] at built
      obtain ⟨entry, present, pair, converted, _⟩ := built
      exact ⟨entry, pair, field entry present, converted⟩
  | weighted built =>
      simp only [toConstantProductPoolInitConfig, Fallible.bind_ok_iff] at built
      obtain ⟨entry, present, pair, converted, _⟩ := built
      exact ⟨entry, pair, field entry present, converted⟩
  | amplified built =>
      simp only [toStableSwapPoolInitConfig, Fallible.bind_ok_iff] at built
      obtain ⟨entry, present, pair, converted, _⟩ := built
      exact ⟨entry, pair, field entry present, converted⟩

theorem config_completes (wallet : KeyringPair) (pool : PoolEntry) (config : PoolInitConfiguration)
    (recognised : pool.kind.isSome = true) (built : Built wallet pool config) :
    Task.Completes (Created pool) (submitConfig api wallet (.ok config)) := by
  have numbered : Task.Completes
      (fun event => ∃ number, event = .pabloPoolCreated number ∧ number ≤ Double.maxSafeInteger)
      (createLiquidityBootstrappingPool api wallet config) := by
    refine Task.completes_submit _ _ fun log => ?_
    obtain ⟨event, resolved⟩ := obliging.accepts log ⟨some wallet.publicKey, .pabloCreate config⟩ rfl
    obtain ⟨number, rfl⟩ := (Event.is_pool_created_iff event).mp (send_and_wait_for_accepted _ _ _ _ resolved)
    exact ⟨_, resolved, number, rfl, obliging.numbers log _ number resolved⟩
  refine Task.completes_convert _ _ config _ rfl (Task.completes_bind _ _ _ _ numbered ?_)
  rintro _ ⟨number, rfl, safe⟩
  refine Task.completes_convert _ _ _ _ (pool_id_of_created number) (Task.completes_pure _ _ ?_)
  rintro _ ⟨⟩
  exact ⟨recognised, ⟨number, rfl, safe⟩, built_pair wallet pool config built⟩

theorem pool_creation_completes (wallets : List KeyringPair) (walletIndex : Nat) (wallet : KeyringPair)
    (pool : PoolEntry) (turn : walletAt wallets walletIndex = .ok wallet) (wellFormed : pool.WellFormed api) :
    Task.Completes (Created pool) (createPool api wallets walletIndex pool) := by
  have converts := wellFormed.converts
  simp only [PoolEntry.Converts] at converts
  have asked : Task.Completes (fun height => ∃ log, api.systemNumber log = .resolved height)
      (Task.read api.systemNumber : ChainTask Nat) := by
    refine Task.completes_read _ _ fun log => ?_
    obtain ⟨height, answered⟩ := obliging.answers log
    exact ⟨height, answered, log, answered⟩
  obtain ⟨first, known⟩ := obliging.answers []
  rcases create_pool_cases api wallets walletIndex pool with
    ⟨kind, same⟩ | ⟨kind, same⟩ | ⟨kind, same⟩ | ⟨kind, same⟩
  · rw [same]
    refine Task.completes_bind _ _ _ _ asked ?_
    rintro height ⟨log, answered⟩
    have builds := converts log height answered
    rw [kind] at builds
    obtain ⟨config, built⟩ := builds wallet
    refine Task.completes_convert _ _ wallet _ turn ?_
    rw [built]
    exact config_completes api obliging wallet pool config (by rw [kind]; rfl) (.sale _ built)
  · have builds := converts [] first known
    rw [kind] at builds
    obtain ⟨config, built⟩ := builds wallet
    rw [same]
    refine Task.completes_convert _ _ wallet _ turn ?_
    rw [built]
    exact config_completes api obliging wallet pool config (by rw [kind]; rfl) (.weighted built)
  · have builds := converts [] first known
    rw [kind] at builds
    obtain ⟨config, built⟩ := builds wallet
    rw [same]
    refine Task.completes_convert _ _ wallet _ turn ?_
    rw [built]
    exact config_completes api obliging wallet pool config (by rw [kind]; rfl) (.amplified built)
  · rw [same]
    exact Task.completes_pure _ _ fun _ absent => absurd absent (by simp)

theorem single_mint_completes (wallet : KeyringPair) (asset : String) (assetId : Nat) (amount : String)
    (decoded : createUInt 128 asset = .ok assetId) (spendable : Spendable amount) :
    Task.Completes (fun _ => True)
      (mintAssetsToWallets api [wallet] walletSudo [asset] (BigNumber.ofString amount)) := by
  obtain ⟨n, carried, printed, _⟩ := spendable
  have mint := printed_mint_decodes api asset wallet.publicKey _ n assetId decoded carried printed
  rw [single_mint]
  refine intents_complete api obliging walletSudo [.mint _] fun intent listed => ?_
  rw [List.mem_singleton.mp listed]
  exact ⟨_, (Fallible.map_ok_iff _ _ _).mpr ⟨_, mint, rfl⟩⟩

theorem pool_liquidity_completes (wallet : KeyringPair) (pool : PoolEntry) (poolId : BigNumber)
    (created : Created pool (some poolId)) (wellFormed : pool.WellFormed api) :
    Task.Completes (fun _ => True) (addPoolLiquidity api wallet walletSudo pool poolId) := by
  obtain ⟨recognised, ⟨number, rfl, safe⟩, entry, pair, present, converted⟩ := created poolId rfl
  unfold addPoolLiquidity
  by_cases wanted : pool.addLiquidity = true
  · obtain ⟨amount, given, base, quote⟩ := wellFormed.liquidity recognised wanted
    simp only [toPabloPoolPair, Fallible.bind_ok_iff] at converted
    obtain ⟨baseId, baseDecoded, quoteId, quoteDecoded, _⟩ := converted
    obtain ⟨baseAmount, _, _, baseRaw⟩ := id base
    obtain ⟨quoteAmount, _, _, quoteRaw⟩ := id quote
    have named : createUInt 128 (BigNumber.ofNat number).toString = .ok number :=
      (create_u128_to_string _ _).mpr ⟨rfl, safe_number_small number safe⟩
    have call : Tx.pabloAddLiquidity (BigNumber.ofNat number) amount.base amount.quote =
        .ok (.pabloAddLiquidity number baseAmount quoteAmount 0 false) := by
      simp only [Tx.pabloAddLiquidity, baseRaw, quoteRaw, named]
      rfl
    rw [if_pos wanted, present, given]
    refine Task.completes_convert _ _ entry _ rfl (Task.completes_convert _ _ amount _ rfl ?_)
    refine Task.completes_bind _ _ _ _
      (single_mint_completes api obliging walletSudo wallet _ baseId _ baseDecoded base) fun _ _ => ?_
    refine Task.completes_bind _ _ _ _
      (single_mint_completes api obliging walletSudo wallet _ quoteId _ quoteDecoded quote) fun _ _ => ?_
    rw [addLiquidity, call]
    exact Task.completes_bind _ _ _ _ (send_completes api obliging wallet _ _ rfl rfl) fun _ _ =>
      Task.completes_pure _ _ trivial
  · rw [if_neg wanted]
    exact Task.completes_pure _ _ trivial

theorem pool_route_completes (pool : PoolEntry) (poolId : BigNumber) (created : Created pool (some poolId)) :
    Task.Completes (fun _ => True) (addPoolDexRoute api walletSudo pool poolId) := by
  obtain ⟨_, ⟨number, rfl, safe⟩, entry, pair, present, converted⟩ := created poolId rfl
  unfold addPoolDexRoute
  by_cases wanted : pool.addDexRoute = true
  · have call : Tx.sudoSudo (Tx.dexRouterUpdateRoute pair (BigNumber.ofNat number).toNumber) =
        .ok (.sudoSudo (.dexRouterUpdateRoute pair [number])) := by
      rw [Tx.dexRouterUpdateRoute, safe_number_encodes number safe]
      rfl
    rw [if_pos wanted, present]
    refine Task.completes_convert _ _ entry _ rfl (Task.completes_convert _ _ pair _ converted ?_)
    rw [updateDexRoute, call]
    exact Task.completes_bind _ _ _ _ (send_completes api obliging walletSudo _ _ rfl rfl) fun _ _ =>
      Task.completes_pure _ _ trivial
  · rw [if_neg wanted]
    exact Task.completes_pure _ _ trivial

theorem pool_twap_completes (pool : PoolEntry) (poolId : BigNumber) (created : Created pool (some poolId)) :
    Task.Completes (fun _ => True) (enablePoolTwap api walletSudo pool poolId) := by
  obtain ⟨_, ⟨number, rfl, safe⟩, _⟩ := created poolId rfl
  unfold enablePoolTwap
  by_cases wanted : pool.enableTwap = true
  · have call : Tx.sudoSudo (Tx.pabloEnableTwap (BigNumber.ofNat number).toNumber) =
        .ok (.sudoSudo (.pabloEnableTwap number)) := by
      rw [Tx.pabloEnableTwap, safe_number_encodes number safe]
      rfl
    rw [if_pos wanted, enableTwap, call]
    exact Task.completes_bind _ _ _ _ (send_completes api obliging walletSudo _ _ rfl rfl) fun _ _ =>
      Task.completes_pure _ _ trivial
  · rw [if_neg wanted]
    exact Task.completes_pure _ _ trivial

theorem pool_completes (wallets : List KeyringPair) (walletIndex : Nat) (wallet : KeyringPair) (pool : PoolEntry)
    (turn : walletAt wallets walletIndex = .ok wallet) (wellFormed : pool.WellFormed api) :
    Task.Completes (fun _ => True) (bootstrapPool api wallets walletIndex walletSudo pool) := by
  refine Task.completes_bind _ _ _ _
    (pool_creation_completes api obliging wallets walletIndex wallet pool turn wellFormed) fun created known => ?_
  cases created with
  | none => exact Task.completes_pure _ _ trivial
  | some poolId =>
      refine Task.completes_convert _ _ wallet _ turn ?_
      refine Task.completes_bind _ _ _ _
        (pool_liquidity_completes api obliging walletSudo wallet pool poolId known wellFormed) fun _ _ => ?_
      refine Task.completes_bind _ _ _ _
        (pool_route_completes api obliging walletSudo pool poolId known) fun _ _ => ?_
      exact pool_twap_completes api obliging walletSudo pool poolId known

theorem pools_loop_completes (wallets : List KeyringPair) (pools : List PoolEntry) (walletIndex : Nat)
    (within : walletIndex < wallets.length) (wellFormed : ∀ pool ∈ pools, pool.WellFormed api) :
    Task.Completes (fun caught => caught = none) (bootstrapPoolsLoop api wallets walletSudo pools walletIndex) := by
  induction pools generalizing walletIndex with
  | nil => exact Task.completes_pure _ _ rfl
  | cons pool rest ih =>
      have turn : walletAt wallets walletIndex = .ok wallets[walletIndex] := by simp [walletAt, within]
      have here := pool_completes api obliging walletSudo wallets walletIndex _ pool turn (wellFormed pool (by simp))
      refine Task.completes_bind _ _ _ _ (Task.completes_attempt _ _ here) ?_
      rintro _ ⟨_, rfl, _⟩
      exact ih _ (Nat.mod_lt _ (by omega)) fun other member => wellFormed other (List.mem_cons_of_mem _ member)

theorem bootstrap_completes (config : Config) (dotWallets : List KeyringPair) (some_wallet : dotWallets ≠ [])
    (wellFormed : config.WellFormed api) :
    Task.Completes (fun lines => lines = []) (bootstrap api config dotWallets walletSudo) := by
  have first : 0 < dotWallets.length := List.length_pos_iff.mpr some_wallet
  have bonds : Task.Completes (fun _ => True) (bondsPhase api config dotWallets walletSudo) := by
    unfold bondsPhase
    by_cases wanted : config.bootstrapBonds = true
    · rw [if_pos wanted]
      refine Task.completes_convert _ _ dotWallets[0] _ (by simp [walletAt, first]) ?_
      exact bonds_complete api obliging walletSudo _ _ (wellFormed.bonds wanted)
    · rw [if_neg wanted]
      exact Task.completes_pure _ _ trivial
  have pools : Task.Completes (fun caught => caught = none) (poolsPhase api config dotWallets walletSudo) := by
    unfold poolsPhase
    by_cases wanted : config.bootstrapPools = true
    · rw [if_pos wanted]
      refine Task.completes_bind _ (fun _ => True) _ _ ?_ fun _ _ =>
        pools_loop_completes api obliging walletSudo dotWallets _ 0 first (wellFormed.pools wanted)
      rw [mintGas, gas_flat]
      exact intents_complete api obliging walletSudo _ (gas_encodes api walletSudo dotWallets)
    · rw [if_neg wanted]
      exact Task.completes_pure _ _ rfl
  have assets : Task.Completes (fun _ => True) (assetsPhase api config walletSudo) := by
    unfold assetsPhase
    by_cases wanted : config.mintAssetsToWallets = true
    · rw [if_pos wanted]
      exact assets_complete api obliging walletSudo _ (wellFormed.assets wanted)
    · rw [if_neg wanted]
      exact Task.completes_pure _ _ trivial
  refine Task.completes_or_report _ _ _ _ _ bonds fun _ _ => ?_
  refine Task.completes_or_report _ _ _ _ _ pools ?_
  rintro _ rfl
  refine Task.completes_bind _ (fun later => later = []) _ _ ?_ ?_
  · exact Task.completes_or_report _ _ _ _ _ assets fun _ _ => Task.completes_pure _ _ rfl
  · rintro _ rfl
    exact Task.completes_pure _ _ rfl

end Completes

-- On an obliging node main completes every well-formed configuration: nothing
-- is printed, nothing hangs.
theorem main_completes {δ ρ : Type} (kr : Keyring) (definitions : Definitions δ ρ)
    (buildApi : String → KeyedMap String δ → KeyedMap String (Option (KeyedMap String ρ)) → Settlement String Api)
    (env : Environment) (config : Config) (log : ChainLog) (walletSudo : KeyringPair) (api : Api)
    (key : sudoWallet kr env = .ok walletSudo) (connected : connection definitions buildApi env = .resolved api)
    (obliging : api.Obliging) (wellFormed : config.WellFormed api) :
    (main kr definitions buildApi env config log).1 = .resolved [] := by
  rw [main_connected kr definitions buildApi env config log walletSudo api key connected]
  obtain ⟨_, rfl, resolved⟩ := Task.completes_run _ _
    (bootstrap_completes api obliging walletSudo config _ (some_substrate_wallet kr) wellFormed) log
  exact resolved

section Sample

theorem prompt_node_obliging (height : Nat) : (promptNode height).Obliging where
  accepts := by
    rintro log ⟨signer, call⟩ plain
    refine ⟨call.expectedEvent, ?_⟩
    cases call <;> first | rfl | exact absurd plain (by simp [Call.privileged])
  answers := fun _ => ⟨height, rfl⟩
  numbers := by
    rintro log ⟨signer, call⟩ poolId resolved
    cases call with
    | pabloCreate pool =>
        change Settlement.resolved (Event.pabloPoolCreated 0) = .resolved (.pabloPoolCreated poolId) at resolved
        cases resolved
        exact Nat.zero_le _
    | _ =>
        change Settlement.pending = .resolved (Event.pabloPoolCreated poolId) at resolved
        cases resolved

theorem spelled_spendable (amount : String) (n : Nat) (spelled : Spells amount n) (printed : n < 10 ^ 21) :
    Spendable amount :=
  ⟨n, of_string_spells amount n spelled, printed, create_uint_spells 128 amount n spelled (by omega)⟩

def shippedSale : PoolEntry :=
  ⟨true, true, true, some ⟨"100000000000000000", "100000000000000000"⟩, some ⟨"1", "129"⟩,
    some ⟨"0", "7200", "750000", "250000"⟩, some ⟨"10000", "10000", "10000"⟩, some "25", none, none, none⟩

def shippedWeighted : PoolEntry :=
  ⟨true, true, true, some ⟨"100000000000000000", "100000000000000000"⟩, some ⟨"4", "129"⟩, none, none, none,
    some "10000", some "500000", none⟩

-- The bonds and pools of config.json as it is. The sample node reads hex
-- addresses only, so the mints go to one of those.
def shippedConfig : Config :=
  ⟨true, true, true, [⟨"4", "100000000000000", "10", .finite "100", ⟨"201", "1000000000000000", "20"⟩⟩],
    [shippedSale, shippedWeighted],
    [("0x0707070707070707070707070707070707070707070707070707070707070707", "1", "50000000000000")]⟩

theorem shipped_sale_well_formed : shippedSale.WellFormed (promptNode 100) where
  converts := by
    intro log height answered
    obtain rfl : 100 = height := Settlement.resolved.inj answered
    intro wallet
    have pair : toPabloPoolPair "1" "129" = .ok ⟨1, 129⟩ := by decide +kernel
    have sale : toDexSale "0" "7200" "750000" "250000" (BigNumber.ofString (toString 100)) (some 25) =
        .ok ⟨125, 7325, 750000, 250000⟩ := by decide +kernel
    have fees : toFeeConfig "10000" "10000" "10000" = .ok ⟨10000, 10000, 10000⟩ := by decide +kernel
    simp only [toLiquidityBootstrappingPoolInitConfig, shippedSale, objectField, Option.getD_some]
    simp only [bind, Except.bind, pair, sale, fees]
    exact ⟨_, rfl⟩
  liquidity := by
    intro _ _
    have amount := spelled_spendable "100000000000000000" 100000000000000000 (by decide) (by decide)
    exact ⟨_, rfl, amount, amount⟩

theorem shipped_weighted_well_formed : shippedWeighted.WellFormed (promptNode 100) where
  converts := by
    intro log height answered wallet
    have pair : toPabloPoolPair "4" "129" = .ok ⟨4, 129⟩ := by decide +kernel
    have fee : toPermill (some "10000") = .ok 10000 := by decide +kernel
    have baseWeight : toPermill (some "500000") = .ok 500000 := by decide +kernel
    simp only [toConstantProductPoolInitConfig, shippedWeighted, objectField]
    simp only [bind, Except.bind, pair, fee, baseWeight]
    exact ⟨_, rfl⟩
  liquidity := by
    intro _ _
    have amount := spelled_spendable "100000000000000000" 100000000000000000 (by decide) (by decide)
    exact ⟨_, rfl, amount, amount⟩

theorem shipped_config_well_formed : shippedConfig.WellFormed (promptNode 100) where
  bonds := by
    intro _ entry listed
    rw [List.mem_singleton.mp listed]
    exact ⟨⟨⟨4, 100000000000000, 10, .finite 100, ⟨201, 1000000000000000, 20⟩⟩, by decide +kernel⟩,
      spelled_spendable "1000000000000000" 1000000000000000 (by decide) (by decide)⟩
  pools := by
    intro _ pool listed
    rcases List.mem_pair.mp listed with rfl | rfl
    · exact shipped_sale_well_formed
    · exact shipped_weighted_well_formed
  assets := by
    intro _ args listed
    rw [List.mem_singleton.mp listed]
    exact ⟨⟨1, (devWallet 7).publicKey, 50000000000000⟩, by decide +kernel⟩

theorem shipped_config_completes :
    (main sampleKeyring sampleDefinitions samplePromptApi localEnvironment shippedConfig []).1 = .resolved [] :=
  main_completes sampleKeyring sampleDefinitions samplePromptApi localEnvironment shippedConfig []
    (sampleKeyring.addFromUri "//Alice") (promptNode 100) rfl rfl (prompt_node_obliging 100) shipped_config_well_formed

end Sample

end PicassoBootstrap

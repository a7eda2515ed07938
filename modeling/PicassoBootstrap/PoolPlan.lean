import PicassoBootstrap.PoolScript

set_option autoImplicit false

namespace PicassoBootstrap

open Async

section Creation

theorem to_pablo_pool_pair_ok (base quote : String) (pair : CurrencyPair)
    (converted : toPabloPoolPair base quote = .ok pair) : pair = ⟨assetOf base, assetOf quote⟩ := by
  simp only [toPabloPoolPair, Fallible.bind_ok_iff, Fallible.pure_ok_iff] at converted
  obtain ⟨asset, first, other, second, rfl⟩ := converted
  simp [assetOf, first, second]

theorem object_field_ok {α : Type} (field : Option α) (value : α) (present : objectField field = .ok value) :
    field = some value := by
  cases field with
  | none => exact absurd present (by simp [objectField])
  | some found => simpa [objectField] using present

theorem entry_pair (pool : PoolEntry) (entry : PairEntry) (pair : CurrencyPair)
    (present : objectField pool.pair = .ok entry) (converted : toPabloPoolPair entry.base entry.quote = .ok pair) :
    pair = pool.currencyPair := by
  rw [to_pablo_pool_pair_ok _ _ _ converted, PoolEntry.currencyPair, object_field_ok _ _ present]

def Describes (config : PoolInitConfiguration) (kind : PoolKind) (wallet : KeyringPair) (pool : PoolEntry) : Prop :=
  config.kind = kind ∧ config.owner = wallet.publicKey ∧ config.pair = pool.currencyPair

theorem lbp_config_describes (wallet : KeyringPair) (pool : PoolEntry) (currentBlock : BigNumber)
    (startDelay : Option Nat) (config : PoolInitConfiguration)
    (built : toLiquidityBootstrappingPoolInitConfig wallet pool currentBlock startDelay = .ok config) :
    Describes config .liquidityBootstrapping wallet pool := by
  simp only [toLiquidityBootstrappingPoolInitConfig, Fallible.bind_ok_iff, Fallible.pure_ok_iff] at built
  obtain ⟨entry, present, pair, converted, _, _, _, _, _, _, _, _, rfl⟩ := built
  exact ⟨rfl, rfl, entry_pair pool entry pair present converted⟩

theorem cpp_config_describes (wallet : KeyringPair) (pool : PoolEntry) (config : PoolInitConfiguration)
    (built : toConstantProductPoolInitConfig wallet pool = .ok config) :
    Describes config .constantProduct wallet pool := by
  simp only [toConstantProductPoolInitConfig, Fallible.bind_ok_iff, Fallible.pure_ok_iff] at built
  obtain ⟨entry, present, pair, converted, _, _, _, _, rfl⟩ := built
  exact ⟨rfl, rfl, entry_pair pool entry pair present converted⟩

theorem ss_config_describes (wallet : KeyringPair) (pool : PoolEntry) (config : PoolInitConfiguration)
    (built : toStableSwapPoolInitConfig wallet pool = .ok config) : Describes config .stableSwap wallet pool := by
  simp only [toStableSwapPoolInitConfig, Fallible.bind_ok_iff, Fallible.pure_ok_iff] at built
  obtain ⟨entry, present, pair, converted, _, _, _, _, rfl⟩ := built
  exact ⟨rfl, rfl, entry_pair pool entry pair present converted⟩

theorem configuration_silent (api : Api) (wallet : KeyringPair) (pool : PoolEntry) (kind : PoolKind) (log : ChainLog) :
    (configuration api wallet pool kind log).2 = log := by
  cases kind with
  | constantProduct => exact Task.of_except_silent _ log
  | stableSwap => exact Task.of_except_silent _ log
  | liquidityBootstrapping =>
      refine Task.bind_silent (fun run => run.2 = log) _ _ log rfl (fun _ _ => rfl) ?_
      intro start _
      exact Task.of_except_silent _ log

theorem configuration_describes (api : Api) (wallet : KeyringPair) (pool : PoolEntry) (kind : PoolKind)
    (log after : ChainLog) (config : PoolInitConfiguration)
    (ran : configuration api wallet pool kind log = (.resolved config, after)) : Describes config kind wallet pool := by
  cases kind with
  | constantProduct => exact cpp_config_describes wallet pool config (Task.of_except_resolved _ _ _ _ ran)
  | stableSwap => exact ss_config_describes wallet pool config (Task.of_except_resolved _ _ _ _ ran)
  | liquidityBootstrapping =>
      obtain ⟨start, asked, _, built⟩ := Task.resolved_of_bind _ _ _ _ _ ran
      exact lbp_config_describes wallet pool _ _ config (Task.of_except_resolved _ _ _ _ built)

def submitCreation (api : Api) (wallet : KeyringPair) (config : PoolInitConfiguration) :
    ChainTask (Option BigNumber) := do
  let created ← createLiquidityBootstrappingPool api wallet config
  let poolId ← Task.ofExcept (poolIdOf created)
  return some poolId

def submitConfig (api : Api) (wallet : KeyringPair) (config : Except String PoolInitConfiguration) :
    ChainTask (Option BigNumber) := do
  let decoded ← Task.ofExcept config
  submitCreation api wallet decoded

-- All that createPool does, kind by kind.
theorem create_pool_cases (api : Api) (wallets : List KeyringPair) (walletIndex : Nat) (pool : PoolEntry) :
    (pool.kind = some .liquidityBootstrapping ∧ createPool api wallets walletIndex pool = (do
      let start ← Task.read api.systemNumber
      let wallet ← Task.ofExcept (walletAt wallets walletIndex)
      submitConfig api wallet
        (toLiquidityBootstrappingPoolInitConfig wallet pool (BigNumber.ofString (toString start)) (some 25)))) ∨
    (pool.kind = some .constantProduct ∧ createPool api wallets walletIndex pool = (do
      let wallet ← Task.ofExcept (walletAt wallets walletIndex)
      submitConfig api wallet (toConstantProductPoolInitConfig wallet pool))) ∨
    (pool.kind = some .stableSwap ∧ createPool api wallets walletIndex pool = (do
      let wallet ← Task.ofExcept (walletAt wallets walletIndex)
      submitConfig api wallet (toStableSwapPoolInitConfig wallet pool))) ∨
    (pool.kind = none ∧ createPool api wallets walletIndex pool = pure none) := by
  unfold createPool PoolEntry.kind
  by_cases sale : pool.sale.isSome = true
  · rw [if_pos sale, if_pos sale]
    exact .inl ⟨rfl, rfl⟩
  · rw [if_neg sale, if_neg sale]
    by_cases weighted : truthy pool.baseWeight = true
    · rw [if_pos weighted, if_pos weighted]
      exact .inr (.inl ⟨rfl, rfl⟩)
    · rw [if_neg weighted, if_neg weighted]
      by_cases amplified : truthy pool.amplificationCoefficient = true
      · rw [if_pos amplified, if_pos amplified]
        exact .inr (.inr (.inl ⟨rfl, rfl⟩))
      · rw [if_neg amplified, if_neg amplified]
        exact .inr (.inr (.inr ⟨rfl, rfl⟩))

theorem create_pool_configured (api : Api) (wallets : List KeyringPair) (walletIndex : Nat) (wallet : KeyringPair)
    (pool : PoolEntry) (kind : PoolKind) (turn : walletAt wallets walletIndex = .ok wallet)
    (recognised : pool.kind = some kind) :
    createPool api wallets walletIndex pool = configuration api wallet pool kind >>= submitCreation api wallet := by
  rcases create_pool_cases api wallets walletIndex pool with
    ⟨found, same⟩ | ⟨found, same⟩ | ⟨found, same⟩ | ⟨found, same⟩
  · obtain rfl := Option.some.inj (found.symm.trans recognised)
    rw [same, turn, configuration, bind_assoc]
    rfl
  · obtain rfl := Option.some.inj (found.symm.trans recognised)
    rw [same, turn]
    rfl
  · obtain rfl := Option.some.inj (found.symm.trans recognised)
    rw [same, turn]
    rfl
  · exact absurd (found.symm.trans recognised) (by simp)

theorem unrecognised_creates_nothing (api : Api) (wallets : List KeyringPair) (walletIndex : Nat) (pool : PoolEntry)
    (unrecognised : pool.kind = none) : createPool api wallets walletIndex pool = pure none := by
  rcases create_pool_cases api wallets walletIndex pool with
    ⟨found, same⟩ | ⟨found, same⟩ | ⟨found, same⟩ | ⟨found, same⟩
  · exact absurd (found.symm.trans unrecognised) (by simp)
  · exact absurd (found.symm.trans unrecognised) (by simp)
  · exact absurd (found.symm.trans unrecognised) (by simp)
  · exact same

-- A creation went along its step, and the id it hands on is the id of its own
-- event.
def Creates (api : Api) (log : ChainLog) (kind : PoolKind) (wallet : KeyringPair) (pool : PoolEntry)
    (run : Settlement String (Option BigNumber) × ChainLog) : Prop :=
  ∃ poolId, Task.Follows observe log run.1.void run.2 [creationStep api wallet pool poolId kind] ∧
    ∀ value, run.1 = .resolved value → value = some (BigNumber.ofNat poolId)

theorem creation_unprepared (api : Api) (log : ChainLog) (kind : PoolKind) (wallet : KeyringPair) (pool : PoolEntry)
    (outcome : Settlement String PoolInitConfiguration)
    (unready : configuration api wallet pool kind log = (outcome, log)) (unresolved : outcome.isResolved = false) :
    Creates api log kind wallet pool (outcome.map fun _ => none, log) := by
  have prepared : (creationStep api wallet pool 0 kind).prepare log = outcome.map (creationAction api wallet) := by
    rw [creation_step_prepare, unready]
  have stopped := Task.follows_unprepared observe log (creationStep api wallet pool 0 kind) []
    (by rw [prepared, Settlement.is_resolved_map, unresolved])
  refine ⟨0, ?_, ?_⟩
  · rw [prepared] at stopped
    cases outcome with
    | resolved config => exact absurd unresolved (by simp [Settlement.isResolved])
    | rejected error => exact stopped
    | pending => exact stopped
  · intro value resolved
    cases outcome <;> simp [Settlement.map, Settlement.isResolved] at resolved unresolved

theorem pool_id_of_created (poolId : Nat) : poolIdOf (.pabloPoolCreated poolId) = .ok (BigNumber.ofNat poolId) := by
  rw [poolIdOf, of_string_spells _ _ (spells_repr poolId)]

theorem created_event (api : Api) (log : ChainLog) (wallet : KeyringPair) (config : PoolInitConfiguration) :
    ∃ poolId, ∀ event, (creationAction api wallet config).answer log = .resolved event →
      event = .pabloPoolCreated poolId := by
  cases answer : (creationAction api wallet config).answer log with
  | pending => exact ⟨0, by simp⟩
  | rejected error => exact ⟨0, by simp⟩
  | resolved event =>
      obtain ⟨poolId, shape⟩ := (Event.is_pool_created_iff event).mp (send_and_wait_for_accepted _ _ _ _ answer)
      exact ⟨poolId, by simp [shape]⟩

theorem creation_run (api : Api) (log : ChainLog) (wallet : KeyringPair) (config : PoolInitConfiguration) (poolId : Nat)
    (named : ∀ event, (creationAction api wallet config).answer log = .resolved event →
      event = .pabloPoolCreated poolId) :
    submitCreation api wallet config log =
      (((creationAction api wallet config).answer log).map fun _ => some (BigNumber.ofNat poolId),
        log ++ [(creationAction api wallet config).exchange log]) := by
  have sent : createLiquidityBootstrappingPool api wallet config log =
      ((creationAction api wallet config).answer log, log ++ [(creationAction api wallet config).exchange log]) := rfl
  unfold submitCreation
  cases answer : (creationAction api wallet config).answer log with
  | pending =>
      rw [Task.bind_pending _ _ _ _ (by rw [sent, answer])]
      rfl
  | rejected error =>
      rw [Task.bind_rejected _ _ _ _ error (by rw [sent, answer])]
      rfl
  | resolved event =>
      rw [Task.bind_resolved _ _ _ _ event (by rw [sent, answer]), named event answer, pool_id_of_created]
      rfl

theorem submitted_creation (api : Api) (log : ChainLog) (wallet : KeyringPair) (pool : PoolEntry) (kind : PoolKind)
    (config : PoolInitConfiguration) (ready : configuration api wallet pool kind log = (.resolved config, log)) :
    Creates api log kind wallet pool (submitCreation api wallet config log) := by
  obtain ⟨rfl, owner, pair⟩ := configuration_describes api wallet pool kind log log config ready
  have observed : ∀ poolId, observe (creationAction api wallet config).request (.pabloPoolCreated poolId) =
      some (creationStep api wallet pool poolId config.kind).shows := by
    intro poolId
    simp [observe, creationAction, signedAction, creationStep, owner, pair]
  obtain ⟨poolId, named⟩ := created_event api log wallet config
  have submitted := Task.follows_prepared observe log (creationStep api wallet pool poolId config.kind)
    (creationAction api wallet config) (by rw [creation_step_prepare, ready]; rfl)
    (fun event resolved => by rw [named event resolved]; exact observed poolId)
  rw [creation_run api log wallet config poolId named]
  refine ⟨poolId, ?_, ?_⟩
  · cases answer : (creationAction api wallet config).answer log <;> simpa [answer, Settlement.map] using submitted
  · intro value resolved
    cases answer : (creationAction api wallet config).answer log <;> simp_all [Settlement.map]

theorem create_pool_creates (api : Api) (wallets : List KeyringPair) (walletIndex : Nat) (wallet : KeyringPair)
    (pool : PoolEntry) (kind : PoolKind) (log : ChainLog) (turn : walletAt wallets walletIndex = .ok wallet)
    (recognised : pool.kind = some kind) :
    Creates api log kind wallet pool (createPool api wallets walletIndex pool log) := by
  rw [create_pool_configured api wallets walletIndex wallet pool kind turn recognised]
  rcases ran : configuration api wallet pool kind log with ⟨outcome, after⟩
  obtain rfl : after = log := by simpa [ran] using configuration_silent api wallet pool kind log
  cases outcome with
  | resolved config =>
      rw [Task.bind_resolved _ _ _ _ config ran]
      exact submitted_creation api after wallet pool kind config ran
  | rejected error =>
      rw [Task.bind_rejected _ _ _ _ error ran]
      exact creation_unprepared api after kind wallet pool (.rejected error) ran rfl
  | pending =>
      rw [Task.bind_pending _ _ _ _ ran]
      exact creation_unprepared api after kind wallet pool .pending ran rfl

end Creation

section FollowUps

variable (api : Api) (wallet walletSudo : KeyringPair)

theorem mint_item_ok (assetId : String) (amount : BigNumber) (action : ChainAction)
    (encoded : mintItem api walletSudo ⟨assetId, .publicKey wallet.publicKey, amount.toString⟩ = .ok action) :
    ∃ value, amount = BigNumber.ofNat value ∧
      action = mintAction api walletSudo ⟨assetOf assetId, wallet.publicKey, value⟩ := by
  obtain ⟨asset, value, decoded, carried, _, rfl⟩ := (mint_item_ok_iff _ _ _ _ _ _).mp encoded
  exact ⟨value, carried, by rw [assetOf, decoded]⟩

theorem amount_of_nat (s : String) (n : Nat) (parsed : BigNumber.ofString s = BigNumber.ofNat n) : amountOf s = n := by
  simp [amountOf, parsed, BigNumber.ofNat, Decimal.ofNat]

theorem single_mint_follows (log : ChainLog) (assetId amount : String) :
    Task.Follows observe log
      (mintAssetsToWallets api [wallet] walletSudo [assetId] (BigNumber.ofString amount) log).1.void
      (mintAssetsToWallets api [wallet] walletSudo [assetId] (BigNumber.ofString amount) log).2
      [.ofItem (.mint walletSudo.publicKey (assetOf assetId) wallet.publicKey (amountOf amount))
        (mintItem api walletSudo ⟨assetId, .publicKey wallet.publicKey, (BigNumber.ofString amount).toString⟩)] := by
  rw [single_mint, Task.submit_all_singleton]
  refine Task.follows_bind observe log _ _ [_] [] ?_ (fun _ after _ => Task.follows_nil observe after)
  apply Task.follows_submit
  intro action event encoded resolved
  obtain ⟨value, parsed, rfl⟩ := mint_item_ok api wallet walletSudo assetId _ action encoded
  obtain ⟨result, rfl⟩ := (Event.is_sudid_iff event).mp (send_and_wait_for_accepted _ _ _ _ resolved)
  rw [amount_of_nat amount value parsed]
  rfl

theorem minted_amount (log after : ChainLog) (assetId amount : String)
    (minted : mintAssetsToWallets api [wallet] walletSudo [assetId] (BigNumber.ofString amount) log =
      (.resolved (), after)) : BigNumber.ofString amount = BigNumber.ofNat (amountOf amount) := by
  rw [single_mint, Task.submit_all_singleton] at minted
  cases encoded : mintItem api walletSudo
      ⟨assetId, .publicKey wallet.publicKey, (BigNumber.ofString amount).toString⟩ with
  | error error =>
      rw [encoded, Task.bind_rejected _ _ _ _ error (Task.submit_error error log)] at minted
      exact absurd (congrArg Prod.fst minted) (by simp)
  | ok action =>
      obtain ⟨value, parsed, _⟩ := mint_item_ok api wallet walletSudo assetId _ action encoded
      rw [amount_of_nat amount value parsed, parsed]

theorem raw_amount (bits : Nat) (amount : String) (value : Nat)
    (parsed : BigNumber.ofString amount = BigNumber.ofNat (amountOf amount))
    (raw : createUInt bits amount = .ok value) :
    value = amountOf amount := by
  have spelled := raw_agrees bits amount value (Decimal.ofNat (amountOf amount)) raw parsed
  exact (amount_of_nat amount value spelled).symm

theorem add_liquidity_follows (log : ChainLog) (poolId : Nat) (base quote : String)
    (baseParsed : BigNumber.ofString base = BigNumber.ofNat (amountOf base))
    (quoteParsed : BigNumber.ofString quote = BigNumber.ofNat (amountOf quote)) :
    Task.Follows observe log (addLiquidity api wallet (BigNumber.ofNat poolId) base quote log).1.void
      (addLiquidity api wallet (BigNumber.ofNat poolId) base quote log).2
      [.ofItem (.addLiquidity wallet.publicKey poolId (amountOf base) (amountOf quote))
        ((Tx.pabloAddLiquidity (BigNumber.ofNat poolId) base quote).map
          (signedAction api wallet.publicKey Event.isLiquidityAdded))] := by
  apply Task.follows_submit
  intro action event encoded resolved
  simp only [Tx.pabloAddLiquidity, Fallible.map_ok_iff, Fallible.bind_ok_iff, Fallible.pure_ok_iff] at encoded
  obtain ⟨_, ⟨baseValue, first, quoteValue, second, pool, third, rfl⟩, rfl⟩ := encoded
  have accepted := send_and_wait_for_accepted _ _ _ _ resolved
  rw [raw_amount 128 base baseValue baseParsed first, raw_amount 128 quote quoteValue quoteParsed second,
    ← BigNumber.of_nat_injective _ _ ((create_uint_to_string _ _ _).mp third).1]
  cases event <;> simp_all [Event.isLiquidityAdded, observe, signedAction]

theorem pool_liquidity_follows (pool : PoolEntry) (poolId : Nat) (log : ChainLog) :
    Task.Follows observe log (addPoolLiquidity api wallet walletSudo pool (BigNumber.ofNat poolId) log).1.void
      (addPoolLiquidity api wallet walletSudo pool (BigNumber.ofNat poolId) log).2
      (liquidityScript api wallet walletSudo pool poolId) := by
  unfold addPoolLiquidity liquidityScript
  split
  · apply Task.follows_guard
    intro pair presentPair
    apply Task.follows_guard
    intro amount presentAmount
    rw [quoteMint, liquidityAddition, presentPair, presentAmount, PoolEntry.currencyPair, PoolEntry.baseAmount,
      PoolEntry.quoteAmount, object_field_ok _ _ presentPair, object_field_ok _ _ presentAmount]
    refine Task.follows_bind observe log _ _ [_] [_, _] (single_mint_follows api wallet walletSudo log _ _) ?_
    intro _ afterBase baseMinted
    refine Task.follows_bind observe afterBase _ _ [_] [_] (single_mint_follows api wallet walletSudo afterBase _ _) ?_
    intro _ afterQuote quoteMinted
    refine Task.follows_bind observe afterQuote _ _ [_] []
      (add_liquidity_follows api wallet afterQuote poolId _ _ (minted_amount api wallet walletSudo _ _ _ _ baseMinted)
        (minted_amount api wallet walletSudo _ _ _ _ quoteMinted)) ?_
    intro _ last _
    exact Task.follows_nil observe last
  · exact Task.follows_nil observe log

theorem privileged_step_follows (log : ChainLog) (payload : Except String Call) (step : PoolStep)
    (matching : ∀ call result, payload = .ok call →
      observe ⟨some walletSudo.publicKey, .sudoSudo call⟩ (.sudoSudid result) = some step) :
    Task.Follows observe log
      ((do let _ ← sendAndWaitForSuccess api walletSudo Event.isSudid (Tx.sudoSudo payload) : ChainTask Unit)
        log).1.void
      ((do let _ ← sendAndWaitForSuccess api walletSudo Event.isSudid (Tx.sudoSudo payload) : ChainTask Unit) log).2
      [.ofItem step (privileged api walletSudo payload)] := by
  refine Task.follows_bind observe log _ _ [_] [] ?_ (fun _ after _ => Task.follows_nil observe after)
  apply Task.follows_submit
  intro action event encoded resolved
  simp only [Tx.sudoSudo, Fallible.map_ok_iff] at encoded
  obtain ⟨_, ⟨call, built, rfl⟩, rfl⟩ := encoded
  obtain ⟨result, rfl⟩ := (Event.is_sudid_iff event).mp (send_and_wait_for_accepted _ _ _ _ resolved)
  exact matching call result built

theorem pool_dex_route_follows (pool : PoolEntry) (poolId : Nat) (log : ChainLog) :
    Task.Follows observe log (addPoolDexRoute api walletSudo pool (BigNumber.ofNat poolId) log).1.void
      (addPoolDexRoute api walletSudo pool (BigNumber.ofNat poolId) log).2
      (routeScript api walletSudo pool poolId) := by
  unfold addPoolDexRoute routeScript
  split
  · apply Task.follows_guard
    intro entry present
    apply Task.follows_guard
    intro pair converted
    rw [← entry_pair pool entry pair present converted]
    apply privileged_step_follows
    intro call result built
    simp only [Tx.dexRouterUpdateRoute, Fallible.bind_ok_iff, Fallible.pure_ok_iff] at built
    obtain ⟨number, carried, rfl⟩ := built
    rw [← ((create_uint_to_number _ _ _).mp carried).1]
    rfl
  · exact Task.follows_nil observe log

theorem pool_twap_follows (pool : PoolEntry) (poolId : Nat) (log : ChainLog) :
    Task.Follows observe log (enablePoolTwap api walletSudo pool (BigNumber.ofNat poolId) log).1.void
      (enablePoolTwap api walletSudo pool (BigNumber.ofNat poolId) log).2 (twapScript api walletSudo pool poolId) := by
  unfold enablePoolTwap twapScript
  split
  · apply privileged_step_follows
    intro call result built
    simp only [Tx.pabloEnableTwap, Fallible.bind_ok_iff, Fallible.pure_ok_iff] at built
    obtain ⟨number, carried, rfl⟩ := built
    rw [← ((create_uint_to_number _ _ _).mp carried).1]
    rfl
  · exact Task.follows_nil observe log

end FollowUps

section Loop

theorem bootstrap_pool_follows (api : Api) (wallets : List KeyringPair) (walletIndex : Nat)
    (wallet walletSudo : KeyringPair) (pool : PoolEntry) (log : ChainLog)
    (turn : walletAt wallets walletIndex = .ok wallet) :
    ∃ poolId, Task.Follows observe log (bootstrapPool api wallets walletIndex walletSudo pool log).1.void
      (bootstrapPool api wallets walletIndex walletSudo pool log).2
      (script api wallet walletSudo pool poolId) := by
  unfold bootstrapPool script
  cases recognised : pool.kind with
  | none =>
      rw [unrecognised_creates_nothing api wallets walletIndex pool recognised]
      exact ⟨0, Task.follows_nil observe log⟩
  | some kind =>
      obtain ⟨poolId, creation, named⟩ :=
        create_pool_creates api wallets walletIndex wallet pool kind log turn recognised
      refine ⟨poolId, Task.follows_bind observe log _ _ [_] _ creation ?_⟩
      intro value after created
      obtain rfl := named value (by rw [created])
      dsimp only
      rw [turn, Task.of_except_ok, pure_bind]
      refine Task.follows_bind observe after _ _ _ _ (pool_liquidity_follows api wallet walletSudo pool poolId after) ?_
      intro _ afterLiquidity _
      refine Task.follows_bind observe afterLiquidity _ _ _ _
        (pool_dex_route_follows api walletSudo pool poolId afterLiquidity) ?_
      intro _ afterRoute _
      exact pool_twap_follows api walletSudo pool poolId afterRoute

-- What comes of the loop when its body ends so: an error is printed.
def caught : Settlement String Unit → Settlement String (Option String)
  | .resolved () => .resolved none
  | .rejected error => .resolved (some error)
  | .pending => .pending

theorem caught_silent (outcome : Settlement String Unit) :
    caught outcome = .resolved none ↔ outcome = .resolved () := by
  cases outcome <;> simp [caught]

theorem bootstrap_pools_loop_follows (api : Api) (wallets : List KeyringPair) (some_wallet : wallets ≠ [])
    (walletSudo : KeyringPair) (pools : List PoolEntry) (k : Nat) (log : ChainLog) :
    ∃ (ids : List Nat) (outcome : Settlement String Unit), ids.length = pools.length ∧
      (bootstrapPoolsLoop api wallets walletSudo pools (k % wallets.length) log).1 = caught outcome ∧
      Task.Follows observe log outcome
        (bootstrapPoolsLoop api wallets walletSudo pools (k % wallets.length) log).2
        (scriptFrom api walletSudo wallets some_wallet pools ids k) := by
  induction pools generalizing k log with
  | nil => exact ⟨[], .resolved (), rfl, rfl, Task.follows_nil observe log⟩
  | cons pool rest ih =>
      obtain ⟨poolId, turn⟩ := bootstrap_pool_follows api wallets _ _ walletSudo pool log
        (wallet_at_turn wallets some_wallet k)
      have next : (k % wallets.length + 1) % wallets.length = (k + 1) % wallets.length := Nat.mod_add_mod k _ 1
      rw [bootstrapPoolsLoop, next]
      rcases ran : bootstrapPool api wallets (k % wallets.length) walletSudo pool log with ⟨outcome, after⟩
      rw [ran] at turn
      cases outcome with
      | resolved value =>
          obtain ⟨ids, outcome, sized, printed, tail⟩ := ih (k + 1) after
          refine ⟨poolId :: ids, outcome, by simp [sized], ?_⟩
          rw [Task.bind_resolved _ _ log after (.ok value) (by simp only [Task.attempt, ran]), script_from_cons]
          exact ⟨printed, Task.follows_append observe log outcome after _ _ _ turn tail⟩
      | rejected error =>
          refine ⟨poolId :: List.replicate rest.length 0, .rejected error, by simp, ?_⟩
          rw [Task.bind_resolved _ _ log after (.error error) (by simp only [Task.attempt, ran]), script_from_cons]
          exact ⟨rfl, Task.follows_stop observe log _ after _ _ rfl turn⟩
      | pending =>
          refine ⟨poolId :: List.replicate rest.length 0, .pending, by simp, ?_⟩
          rw [Task.bind_pending _ _ log after (by simp only [Task.attempt, ran]), script_from_cons]
          exact ⟨rfl, Task.follows_stop observe log _ after _ _ rfl turn⟩

-- A run of the loop from `funded` on. It goes along its script to the end, or to
-- the first step that could not be made or was not accepted, and prints or waits
-- as that step ended.
structure FollowsPlan (funded : ChainLog) (script : List (PreparedStep PoolStep)) (fullPlan : List PoolStep)
    (run : Settlement String (Option String) × ChainLog) : Prop where
  planned : script.map Step.shows = fullPlan
  caused : ∃ outcome, run.1 = caught outcome ∧ Task.Follows observe funded outcome run.2 script
  grown : run.2 = funded ++ added funded run.2
  part : Task.steps observe (added funded run.2) <+: fullPlan
  accounted : (Task.steps observe (added funded run.2)).length + (Task.unaccepted (added funded run.2)).length =
    (added funded run.2).length
  few : (Task.unaccepted (added funded run.2)).length ≤ 1
  whole : run.1 = .resolved none ↔ Task.steps observe (added funded run.2) = fullPlan
  accepted : (∀ step ∈ script, ∀ log, ∃ action, step.prepare log = .resolved action ∧
    (action.answer log).isResolved = true) → run.1 = .resolved none

theorem follows_plan (funded : ChainLog) (script : List (PreparedStep PoolStep)) (outcome : Settlement String Unit)
    (run : Settlement String (Option String) × ChainLog) (printed : run.1 = caught outcome)
    (follows : Task.Follows observe funded outcome run.2 script) :
    FollowsPlan funded script (script.map Step.shows) run := by
  obtain ⟨new, grown, progress⟩ := Task.follows_progress observe funded outcome run.2 script follows
  have same : added funded run.2 = new := by rw [grown, added_append]
  refine ⟨rfl, ⟨outcome, printed, follows⟩, ?_, ?_, ?_, ?_, ?_, ?_⟩
  · rw [same]
    exact grown
  · rw [same]
    exact progress.part
  · rw [same]
    exact progress.accounted
  · rw [same]
    exact progress.few.trans (by split <;> omega)
  · rw [same, printed, caught_silent]
    exact progress.whole
  · intro accepted
    rw [printed, caught_silent]
    exact Task.follows_accepted observe funded outcome run.2 script follows accepted

theorem bootstrap_pools_follows_plan (api : Api) (pools : List PoolEntry) (wallets : List KeyringPair)
    (some_wallet : wallets ≠ []) (walletSudo : KeyringPair) (log funded : ChainLog)
    (gas : mintGas api wallets walletSudo log = (.resolved (), funded)) :
    ∃ ids : List Nat, ids.length = pools.length ∧
      FollowsPlan funded (scriptFrom api walletSudo wallets some_wallet pools ids 0)
        (planFrom walletSudo wallets some_wallet pools ids 0)
        (bootstrapPools api pools wallets walletSudo log) := by
  obtain ⟨ids, outcome, sized, printed, follows⟩ :=
    bootstrap_pools_loop_follows api wallets some_wallet walletSudo pools 0 funded
  refine ⟨ids, sized, ?_⟩
  rw [bootstrapPools, Task.bind_resolved _ _ log funded () gas, ← script_from_shows api]
  rw [Nat.zero_mod] at printed follows
  exact follows_plan funded _ outcome _ printed follows

def samplePools : List PoolEntry :=
  [⟨true, true, true, none, some ⟨"1", "129"⟩, none, none, none, none, none, none⟩,
    ⟨true, true, true, some ⟨"700", "800"⟩, some ⟨"4", "129"⟩, none, none, none, some "10000", some "500000", none⟩]

def fundedLog (walletSudo : KeyringPair) (wallets : List KeyringPair) : ChainLog :=
  wallets.map fun wallet =>
    ⟨⟨some walletSudo.publicKey, .sudoSudo (.assetsMintInto 1 wallet.publicKey 50000000000000)⟩,
      .resolved (.sudoSudid .ok)⟩

def samplePlan : List PoolStep :=
  [.create .constantProduct (devWallet 2).publicKey (devWallet 2).publicKey ⟨4, 129⟩ 0,
    .mint (devWallet 9).publicKey 4 (devWallet 2).publicKey 700,
    .mint (devWallet 9).publicKey 129 (devWallet 2).publicKey 800,
    .addLiquidity (devWallet 2).publicKey 0 700 800,
    .setRoute (devWallet 9).publicKey ⟨4, 129⟩ [0],
    .enableTwap (devWallet 9).publicKey 0]

theorem sample_pools_follow_plan :
    (∃ ids : List Nat, ids.length = 2 ∧
      FollowsPlan (fundedLog (devWallet 9) [devWallet 1, devWallet 2])
        (scriptFrom (promptNode 100) (devWallet 9) [devWallet 1, devWallet 2] (by simp) samplePools ids 0)
        (planFrom (devWallet 9) [devWallet 1, devWallet 2] (by simp) samplePools ids 0)
        (bootstrapPools (promptNode 100) samplePools [devWallet 1, devWallet 2] (devWallet 9) [])) ∧
      Task.steps observe (added (fundedLog (devWallet 9) [devWallet 1, devWallet 2])
        (bootstrapPools (promptNode 100) samplePools [devWallet 1, devWallet 2] (devWallet 9) []).2) = samplePlan :=
  ⟨bootstrap_pools_follows_plan (promptNode 100) samplePools [devWallet 1, devWallet 2] (by simp) (devWallet 9) []
    (fundedLog (devWallet 9) [devWallet 1, devWallet 2]) (by decide +kernel), by decide +kernel⟩

end Loop

end PicassoBootstrap

import PicassoBootstrap.SaleSchedule

set_option autoImplicit false

namespace PicassoBootstrap

open Async

section ExactFollowUps

-- The follow-ups as the plan means them: every call carries the number `poolId`
-- itself, and only the amounts are left to the codec.
variable (api : Api) (wallet walletSudo : KeyringPair) (pool : PoolEntry) (poolId : Nat)

def exactLiquidityCall (base quote : String) : Except String Call := do
  let baseAmount ← createUInt 128 base
  let quoteAmount ← createUInt 128 quote
  return .pabloAddLiquidity poolId baseAmount quoteAmount 0 false

def exactLiquidity : ChainTask Unit :=
  if pool.addLiquidity then do
    let pair ← Task.ofExcept (objectField pool.pair)
    let liquidityAmount ← Task.ofExcept (objectField pool.liquidityAmount)
    mintAssetsToWallets api [wallet] walletSudo [pair.base] (BigNumber.ofString liquidityAmount.base)
    mintAssetsToWallets api [wallet] walletSudo [pair.quote] (BigNumber.ofString liquidityAmount.quote)
    let _ ← sendAndWaitForSuccess api wallet Event.isLiquidityAdded
      (exactLiquidityCall poolId liquidityAmount.base liquidityAmount.quote)
  else return ()

def exactDexRoute : ChainTask Unit :=
  if pool.addDexRoute then do
    let pairEntry ← Task.ofExcept (objectField pool.pair)
    let pair ← Task.ofExcept (toPabloPoolPair pairEntry.base pairEntry.quote)
    let _ ← sendAndWaitForSuccess api walletSudo Event.isSudid
      (.ok (.sudoSudo (.dexRouterUpdateRoute pair [poolId])))
  else return ()

def exactTwap : ChainTask Unit :=
  if pool.enableTwap then do
    let _ ← sendAndWaitForSuccess api walletSudo Event.isSudid (.ok (.sudoSudo (.pabloEnableTwap poolId)))
  else return ()

def exactFollowUps : ChainTask Unit := do
  exactLiquidity api wallet walletSudo pool poolId
  exactDexRoute api walletSudo pool poolId
  exactTwap api walletSudo pool poolId

end ExactFollowUps

-- `reported` is what the loop makes of the id in the PoolCreated event. Each
-- follow-up that the entry asks for takes it to a call with `poolId`, and every
-- run goes on with just these calls.
structure FollowUpsCarry (pool : PoolEntry) (reported : BigNumber) (poolId : Nat) : Prop where
  liquidity : pool.addLiquidity = true → ∀ (base quote : String) (baseAmount quoteAmount : Nat),
    createUInt 128 base = .ok baseAmount → createUInt 128 quote = .ok quoteAmount →
      Tx.pabloAddLiquidity reported base quote = .ok (.pabloAddLiquidity poolId baseAmount quoteAmount 0 false)
  route : pool.addDexRoute = true → ∀ pair : CurrencyPair,
    Tx.dexRouterUpdateRoute pair reported.toNumber = .ok (.dexRouterUpdateRoute pair [poolId])
  twap : pool.enableTwap = true → Tx.pabloEnableTwap reported.toNumber = .ok (.pabloEnableTwap poolId)
  runs : ∀ (api : Api) (wallets : List KeyringPair) (walletIndex : Nat) (wallet walletSudo : KeyringPair)
    (log created : ChainLog), walletAt wallets walletIndex = .ok wallet →
      createPool api wallets walletIndex pool log = (.resolved (some reported), created) →
        bootstrapPool api wallets walletIndex walletSudo pool log =
          exactFollowUps api wallet walletSudo pool poolId created

section Arguments

variable (poolId : Nat)

theorem liquidity_argument_iff :
    createUInt 128 (BigNumber.ofNat poolId).toString = .ok poolId ↔ poolId < 10 ^ 21 := by
  rw [create_u128_to_string]
  exact and_iff_right rfl

theorem number_argument_iff :
    createUIntOfNumber 128 (BigNumber.ofNat poolId).toNumber = .ok poolId ↔ poolId ≤ Double.maxSafeInteger := by
  rw [create_uint_to_number]
  constructor
  · rintro ⟨_, safe, _⟩
    exact safe
  · intro safe
    exact ⟨rfl, safe, by simp only [Double.maxSafeInteger] at safe; omega⟩

theorem add_liquidity_call (small : poolId < 10 ^ 21) (base quote : String) :
    Tx.pabloAddLiquidity (BigNumber.ofNat poolId) base quote = exactLiquidityCall poolId base quote := by
  rw [Tx.pabloAddLiquidity, (liquidity_argument_iff poolId).mpr small]
  rfl

theorem update_route_iff (pair : CurrencyPair) :
    Tx.dexRouterUpdateRoute pair (BigNumber.ofNat poolId).toNumber = .ok (.dexRouterUpdateRoute pair [poolId]) ↔
      poolId ≤ Double.maxSafeInteger := by
  rw [← number_argument_iff, Tx.dexRouterUpdateRoute, Fallible.bind_ok_iff]
  simp

theorem enable_twap_iff :
    Tx.pabloEnableTwap (BigNumber.ofNat poolId).toNumber = .ok (.pabloEnableTwap poolId) ↔
      poolId ≤ Double.maxSafeInteger := by
  rw [← number_argument_iff, Tx.pabloEnableTwap, Fallible.bind_ok_iff]
  simp

end Arguments

section Runs

variable (api : Api) (wallet walletSudo : KeyringPair) (pool : PoolEntry) (poolId : Nat)

theorem add_pool_liquidity_exact (small : pool.addLiquidity = true → poolId < 10 ^ 21) :
    addPoolLiquidity api wallet walletSudo pool (BigNumber.ofNat poolId) =
      exactLiquidity api wallet walletSudo pool poolId := by
  unfold addPoolLiquidity exactLiquidity
  split
  · rename_i asked
    simp only [addLiquidity, add_liquidity_call poolId (small asked)]
  · rfl

theorem add_pool_dex_route_exact (safe : pool.addDexRoute = true → poolId ≤ Double.maxSafeInteger) :
    addPoolDexRoute api walletSudo pool (BigNumber.ofNat poolId) = exactDexRoute api walletSudo pool poolId := by
  unfold addPoolDexRoute exactDexRoute
  split
  · rename_i asked
    simp only [updateDexRoute, (update_route_iff poolId _).mpr (safe asked), Tx.sudoSudo]
    rfl
  · rfl

theorem enable_pool_twap_exact (safe : pool.enableTwap = true → poolId ≤ Double.maxSafeInteger) :
    enablePoolTwap api walletSudo pool (BigNumber.ofNat poolId) = exactTwap api walletSudo pool poolId := by
  unfold enablePoolTwap exactTwap
  split
  · rename_i asked
    rw [enableTwap, (enable_twap_iff poolId).mpr (safe asked)]
    rfl
  · rfl

theorem bootstrap_pool_exact (wallets : List KeyringPair) (walletIndex : Nat) (log created : ChainLog)
    (small : pool.addLiquidity = true → poolId < 10 ^ 21)
    (safe : pool.addDexRoute = true ∨ pool.enableTwap = true → poolId ≤ Double.maxSafeInteger)
    (turn : walletAt wallets walletIndex = .ok wallet)
    (creation : createPool api wallets walletIndex pool log = (.resolved (some (BigNumber.ofNat poolId)), created)) :
    bootstrapPool api wallets walletIndex walletSudo pool log =
      exactFollowUps api wallet walletSudo pool poolId created := by
  rw [bootstrapPool, Task.bind_resolved _ _ _ _ _ creation, exactFollowUps]
  simp only [turn, Task.of_except_ok, pure_bind]
  rw [add_pool_liquidity_exact api wallet walletSudo pool poolId small,
    add_pool_dex_route_exact api walletSudo pool poolId fun asked => safe (.inl asked),
    enable_pool_twap_exact api walletSudo pool poolId fun asked => safe (.inr asked)]

end Runs

theorem follow_ups_carry_iff (pool : PoolEntry) (reported : BigNumber) (poolId : Nat)
    (created : poolIdOf (.pabloPoolCreated poolId) = .ok reported) :
    FollowUpsCarry pool reported poolId ↔
      (pool.addLiquidity = true → poolId < 10 ^ 21) ∧
        (pool.addDexRoute = true ∨ pool.enableTwap = true → poolId ≤ Double.maxSafeInteger) := by
  obtain rfl : BigNumber.ofNat poolId = reported := by
    rw [pool_id_of_created] at created
    exact Except.ok.inj created
  constructor
  · intro carry
    constructor
    · intro asked
      have built := carry.liquidity asked "0" "0" 0 0 (by decide) (by decide)
      simp only [Tx.pabloAddLiquidity, Fallible.bind_ok_iff, Fallible.pure_ok_iff] at built
      obtain ⟨_, _, _, _, pool, argument, same⟩ := built
      obtain rfl : pool = poolId := (Call.pabloAddLiquidity.inj same).1
      exact (liquidity_argument_iff pool).mp argument
    · rintro (asked | asked)
      · exact (update_route_iff poolId ⟨0, 0⟩).mp (carry.route asked ⟨0, 0⟩)
      · exact (enable_twap_iff poolId).mp (carry.twap asked)
  · rintro ⟨small, safe⟩
    refine ⟨?_, ?_, ?_, ?_⟩
    · intro asked base quote baseAmount quoteAmount first second
      rw [add_liquidity_call poolId (small asked), exactLiquidityCall, first, second]
      rfl
    · intro asked pair
      exact (update_route_iff poolId pair).mpr (safe (.inl asked))
    · intro asked
      exact (enable_twap_iff poolId).mpr (safe (.inr asked))
    · intro api wallets walletIndex wallet walletSudo log created turn creation
      exact bootstrap_pool_exact api wallet walletSudo pool poolId wallets walletIndex log created small safe turn
        creation

theorem largest_safe_pool_id :
    FollowUpsCarry (salePool none) (BigNumber.ofNat 9007199254740991) 9007199254740991 :=
  (follow_ups_carry_iff (salePool none) (BigNumber.ofNat 9007199254740991) 9007199254740991 (by decide +kernel)).mpr
    (by decide)

-- A prompt node on which pools already have ids up to `poolId`.
def agedNode (poolId : Nat) : Api where
  registry := (promptNode 100).registry
  deliver log request :=
    match request.call with
    | .pabloCreate _ => [.delivered ⟨.inBlock, [.pabloPoolCreated poolId], none⟩]
    | _ => (promptNode 100).deliver log request
  systemNumber := (promptNode 100).systemNumber
  accountId32 := (promptNode 100).accountId32
  ethereumAccountId := (promptNode 100).ethereumAccountId

-- The liquidity of pool 2 ^ 53 is added, then its route is refused: gas, creation,
-- two mints and the liquidity are all that is ever sent.
theorem unsafe_pool_id_stops :
    (bootstrapPools (agedNode (2 ^ 53)) [salePool none] [devWallet 1] (devWallet 9) []).1 =
        .resolved (some "Number needs to be an integer <= Number.MAX_SAFE_INTEGER, i.e. 2 ^ 53 - 1") ∧
      (bootstrapPools (agedNode (2 ^ 53)) [salePool none] [devWallet 1] (devWallet 9) []).2.getLast? =
        some ⟨⟨some (devWallet 1).publicKey, .pabloAddLiquidity (2 ^ 53) 700 800 0 false⟩,
          .resolved .pabloLiquidityAdded⟩ ∧
      ¬ FollowUpsCarry (salePool none) (BigNumber.ofNat (2 ^ 53)) (2 ^ 53) := by
  refine ⟨by decide +kernel, by decide +kernel, ?_⟩
  intro carry
  have safe := (update_route_iff (2 ^ 53) ⟨1, 129⟩).mp (carry.route rfl ⟨1, 129⟩)
  exact absurd safe (by decide)

end PicassoBootstrap

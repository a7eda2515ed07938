import PicassoBootstrap.BootstrapPools
import PicassoBootstrap.Lib.Fallible
import PicassoBootstrap.Lib.Script

set_option autoImplicit false

namespace PicassoBootstrap

open Async

abbrev PreparedStep (κ : Type) := Step Submission String Event κ

inductive PoolKind where
  | liquidityBootstrapping
  | constantProduct
  | stableSwap
deriving DecidableEq, Repr

def PoolEntry.kind (pool : PoolEntry) : Option PoolKind :=
  if pool.sale.isSome then some .liquidityBootstrapping
  else if truthy pool.baseWeight then some .constantProduct
  else if truthy pool.amplificationCoefficient then some .stableSwap
  else none

namespace PoolInitConfiguration

def kind : PoolInitConfiguration → PoolKind
  | .liquidityBootstrapping _ _ _ _ => .liquidityBootstrapping
  | .constantProduct _ _ _ _ => .constantProduct
  | .stableSwap _ _ _ _ => .stableSwap

def owner : PoolInitConfiguration → AccountId32
  | .liquidityBootstrapping owner _ _ _ => owner
  | .constantProduct owner _ _ _ => owner
  | .stableSwap owner _ _ _ => owner

def pair : PoolInitConfiguration → CurrencyPair
  | .liquidityBootstrapping _ pair _ _ => pair
  | .constantProduct _ pair _ _ => pair
  | .stableSwap _ pair _ _ => pair

end PoolInitConfiguration

-- One accepted extrinsic of the loop. `poolId` in a creation is the id that the
-- PoolCreated event of this creation carries.
inductive PoolStep where
  | create (kind : PoolKind) (signer owner : AccountId32) (pair : CurrencyPair) (poolId : Nat)
  | mint (signer : AccountId32) (asset : Nat) (receiver : AccountId32) (amount : Nat)
  | addLiquidity (signer : AccountId32) (poolId base quote : Nat)
  | setRoute (signer : AccountId32) (pair : CurrencyPair) (route : List Nat)
  | enableTwap (signer : AccountId32) (poolId : Nat)
deriving DecidableEq

def observe (request : Submission) (event : Event) : Option PoolStep :=
  match request.signer, request.call, event with
  | some signer, .pabloCreate config, .pabloPoolCreated poolId =>
      some (.create config.kind signer config.owner config.pair poolId)
  | some signer, .pabloAddLiquidity poolId base quote _ _, .pabloLiquidityAdded =>
      some (.addLiquidity signer poolId base quote)
  | some signer, .sudoSudo (.assetsMintInto asset dest amount), .sudoSudid _ =>
      some (.mint signer asset dest amount)
  | some signer, .sudoSudo (.dexRouterUpdateRoute pair route), .sudoSudid _ => some (.setRoute signer pair route)
  | some signer, .sudoSudo (.pabloEnableTwap poolId), .sudoSudid _ => some (.enableTwap signer poolId)
  | _, _, _ => none

-- The numbers that the strings of an entry stand for. What no codec takes
-- counts as 0: no step that carries it is ever submitted.
def assetOf (s : String) : Nat :=
  match createUInt 128 s with
  | .ok asset => asset
  | .error _ => 0

def amountOf (s : String) : Nat :=
  match BigNumber.ofString s with
  | .finite value => value.coeff.toNat
  | .nan => 0

def PoolEntry.currencyPair (pool : PoolEntry) : CurrencyPair :=
  match pool.pair with
  | some pair => ⟨assetOf pair.base, assetOf pair.quote⟩
  | none => ⟨0, 0⟩

def PoolEntry.baseAmount (pool : PoolEntry) : Nat :=
  match pool.liquidityAmount with
  | some amount => amountOf amount.base
  | none => 0

def PoolEntry.quoteAmount (pool : PoolEntry) : Nat :=
  match pool.liquidityAmount with
  | some amount => amountOf amount.quote
  | none => 0

section Plan

variable (walletSudo wallet : AccountId32) (pool : PoolEntry) (poolId : Nat)

def liquiditySteps : List PoolStep :=
  if pool.addLiquidity then
    [.mint walletSudo pool.currencyPair.base wallet pool.baseAmount,
      .mint walletSudo pool.currencyPair.quote wallet pool.quoteAmount,
      .addLiquidity wallet poolId pool.baseAmount pool.quoteAmount]
  else []

def routeSteps : List PoolStep :=
  if pool.addDexRoute then [.setRoute walletSudo pool.currencyPair [poolId]] else []

def twapSteps : List PoolStep := if pool.enableTwap then [.enableTwap walletSudo poolId] else []

def plan : List PoolStep :=
  match pool.kind with
  | none => []
  | some kind =>
      .create kind wallet wallet pool.currencyPair poolId ::
        (liquiditySteps walletSudo wallet pool poolId ++
          (routeSteps walletSudo pool poolId ++ twapSteps walletSudo pool poolId))

end Plan

section Script

variable (api : Api) (wallet walletSudo : KeyringPair) (pool : PoolEntry) (poolId : Nat)

-- What a creation is made from; a sale starts from the height of that moment.
def configuration : PoolKind → ChainTask PoolInitConfiguration
  | .liquidityBootstrapping => do
      let start ← Task.read api.systemNumber
      Task.ofExcept
        (toLiquidityBootstrappingPoolInitConfig wallet pool (BigNumber.ofString (toString start)) (some 25))
  | .constantProduct => Task.ofExcept (toConstantProductPoolInitConfig wallet pool)
  | .stableSwap => Task.ofExcept (toStableSwapPoolInitConfig wallet pool)

def creationAction (config : PoolInitConfiguration) : ChainAction :=
  signedAction api wallet.publicKey Event.isPoolCreated (.pabloCreate config)

def creationStep (kind : PoolKind) : PreparedStep PoolStep where
  shows := .create kind wallet.publicKey wallet.publicKey pool.currencyPair poolId
  prepare log := (configuration api wallet pool kind log).1.map (creationAction api wallet)

theorem creation_step_prepare (kind : PoolKind) (log : ChainLog) :
    (creationStep api wallet pool poolId kind).prepare log =
      (configuration api wallet pool kind log).1.map (creationAction api wallet) := rfl

def baseMint : Except String ChainAction := do
  let pair ← objectField pool.pair
  let liquidityAmount ← objectField pool.liquidityAmount
  mintItem api walletSudo ⟨pair.base, .publicKey wallet.publicKey, (BigNumber.ofString liquidityAmount.base).toString⟩

def quoteMint : Except String ChainAction := do
  let pair ← objectField pool.pair
  let liquidityAmount ← objectField pool.liquidityAmount
  mintItem api walletSudo
    ⟨pair.quote, .publicKey wallet.publicKey, (BigNumber.ofString liquidityAmount.quote).toString⟩

def liquidityAddition : Except String ChainAction := do
  let liquidityAmount ← objectField pool.liquidityAmount
  (Tx.pabloAddLiquidity (BigNumber.ofNat poolId) liquidityAmount.base liquidityAmount.quote).map
    (signedAction api wallet.publicKey Event.isLiquidityAdded)

def privileged (payload : Except String Call) : Except String ChainAction :=
  (Tx.sudoSudo payload).map (signedAction api walletSudo.publicKey Event.isSudid)

def routeUpdate : Except String ChainAction := do
  let pairEntry ← objectField pool.pair
  let pair ← toPabloPoolPair pairEntry.base pairEntry.quote
  privileged api walletSudo (Tx.dexRouterUpdateRoute pair (BigNumber.ofNat poolId).toNumber)

def twapEnabling : Except String ChainAction :=
  privileged api walletSudo (Tx.pabloEnableTwap (BigNumber.ofNat poolId).toNumber)

def liquidityScript : List (PreparedStep PoolStep) :=
  if pool.addLiquidity then
    [.ofItem (.mint walletSudo.publicKey pool.currencyPair.base wallet.publicKey pool.baseAmount)
        (baseMint api wallet walletSudo pool),
      .ofItem (.mint walletSudo.publicKey pool.currencyPair.quote wallet.publicKey pool.quoteAmount)
        (quoteMint api wallet walletSudo pool),
      .ofItem (.addLiquidity wallet.publicKey poolId pool.baseAmount pool.quoteAmount)
        (liquidityAddition api wallet pool poolId)]
  else []

def routeScript : List (PreparedStep PoolStep) :=
  if pool.addDexRoute then
    [.ofItem (.setRoute walletSudo.publicKey pool.currencyPair [poolId]) (routeUpdate api walletSudo pool poolId)]
  else []

def twapScript : List (PreparedStep PoolStep) :=
  if pool.enableTwap then [.ofItem (.enableTwap walletSudo.publicKey poolId) (twapEnabling api walletSudo poolId)]
  else []

def script : List (PreparedStep PoolStep) :=
  match pool.kind with
  | none => []
  | some kind =>
      creationStep api wallet pool poolId kind ::
        (liquidityScript api wallet walletSudo pool poolId ++
          (routeScript api walletSudo pool poolId ++ twapScript api walletSudo pool poolId))

theorem script_shows : (script api wallet walletSudo pool poolId).map Step.shows =
    plan walletSudo.publicKey wallet.publicKey pool poolId := by
  unfold script plan
  cases pool.kind with
  | none => rfl
  | some kind =>
      simp only [List.map_cons, List.map_append, liquidityScript, liquiditySteps, routeScript, routeSteps, twapScript,
        twapSteps]
      congr 1
      congr 1
      · split <;> rfl
      · congr 1 <;> split <;> rfl

end Script

-- The wallet of turn k. Every entry uses up one turn, recognised or not.
def walletFor (wallets : List KeyringPair) (some_wallet : wallets ≠ []) (k : Nat) : KeyringPair :=
  wallets.get ⟨k % wallets.length, Nat.mod_lt k (List.length_pos_iff.mpr some_wallet)⟩

def planFrom (walletSudo : KeyringPair) (wallets : List KeyringPair) (some_wallet : wallets ≠ [])
    (pools : List PoolEntry) (ids : List Nat) (start : Nat) : List PoolStep :=
  ((pools.zip ids).zipIdx start).flatMap fun ((pool, poolId), k) =>
    plan walletSudo.publicKey (walletFor wallets some_wallet k).publicKey pool poolId

def scriptFrom (api : Api) (walletSudo : KeyringPair) (wallets : List KeyringPair) (some_wallet : wallets ≠ [])
    (pools : List PoolEntry) (ids : List Nat) (start : Nat) : List (PreparedStep PoolStep) :=
  ((pools.zip ids).zipIdx start).flatMap fun ((pool, poolId), k) =>
    script api (walletFor wallets some_wallet k) walletSudo pool poolId

theorem script_from_cons (api : Api) (walletSudo : KeyringPair) (wallets : List KeyringPair)
    (some_wallet : wallets ≠ []) (pool : PoolEntry) (pools : List PoolEntry) (poolId : Nat) (ids : List Nat)
    (start : Nat) :
    scriptFrom api walletSudo wallets some_wallet (pool :: pools) (poolId :: ids) start =
      script api (walletFor wallets some_wallet start) walletSudo pool poolId ++
        scriptFrom api walletSudo wallets some_wallet pools ids (start + 1) := rfl

theorem script_from_shows (api : Api) (walletSudo : KeyringPair) (wallets : List KeyringPair)
    (some_wallet : wallets ≠ []) (pools : List PoolEntry) (ids : List Nat) (start : Nat) :
    (scriptFrom api walletSudo wallets some_wallet pools ids start).map Step.shows =
      planFrom walletSudo wallets some_wallet pools ids start := by
  simp only [scriptFrom, planFrom, List.map_flatMap, script_shows]

theorem wallet_at_turn (wallets : List KeyringPair) (some_wallet : wallets ≠ []) (k : Nat) :
    walletAt wallets (k % wallets.length) = .ok (walletFor wallets some_wallet k) := by
  have inside : k % wallets.length < wallets.length := Nat.mod_lt k (List.length_pos_iff.mpr some_wallet)
  simp [walletAt, walletFor, List.getElem?_eq_getElem inside]

end PicassoBootstrap

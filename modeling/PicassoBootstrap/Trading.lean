import PicassoBootstrap.Api
import PicassoBootstrap.Lib.Fallible

set_option autoImplicit false

namespace PicassoBootstrap

open Async

-- The extrinsics that take numbers, or amounts encoded already, and that no
-- bootstrap script calls.
inductive TradeCall where
  | liquidityBootstrappingBuy (poolId assetId amount : Nat) (keepAlive : Bool)
  | liquidityBootstrappingSell (poolId assetId amount : Nat) (keepAlive : Bool)
  | liquidityBootstrappingRemoveLiquidity (poolId : Nat)
  | pabloSwap (poolId : Nat) (pair : CurrencyPair) (quoteAmount minReceive : Nat) (keepAlive : Bool)
  | bondedFinanceBond (offerId nbOfBonds : Nat) (keepAlive : Bool)
  | mosaicSetNetwork (networkId : Nat) (enabled : Bool) (maxTransferSize : Nat)
  | mosaicClaimTo (assetId : Nat) (dest : AccountId32)
deriving DecidableEq

structure TradeSubmission where
  signer : AccountId32
  call : TradeCall
deriving DecidableEq

structure TradeEvent where
  pallet : String
  method : String
deriving DecidableEq, Repr

abbrev TradeLog := Log TradeSubmission String TradeEvent
abbrev TradeTask (α : Type) := Task TradeSubmission String TradeEvent α

-- The node with what its metadata declares: `api.tx` and `api.events` have
-- these members only, and reading another one throws.
structure TradeApi where
  registry : Registry
  calls : String → String → Bool
  events : String → String → Bool
  deliver : TradeLog → TradeSubmission → List (Signal TradeEvent)

def member (found : Bool) : Except String Unit :=
  if found then .ok () else .error "Cannot read properties of undefined"

def TradeEvent.named (pallet method : String) (event : TradeEvent) : Bool := event = ⟨pallet, method⟩

def tradeAndWaitForSuccess (api : TradeApi) (sender : KeyringPair) (filter : TradeEvent → Bool)
    (call : Except String TradeCall) : TradeTask TradeEvent :=
  Task.submit (call.map fun call => ⟨⟨sender.publicKey, call⟩,
    fun log => sendAndWaitFor api.registry filter (api.deliver log ⟨sender.publicKey, call⟩)⟩)

-- `u128 | number`.
inductive Quantity where
  | codec (value : BitVec 128)
  | number (value : JsNumber)

def Quantity.encode : Quantity → Except String Nat
  | .codec value => .ok value.toNat
  | .number value => createUIntOfNumber 128 value

namespace TradeTx

variable (api : TradeApi)

def liquidityBootstrappingBuy (poolId assetId amountToBuy : JsNumber) : Except String TradeCall := do
  let poolIdParam ← createUIntOfNumber 128 poolId
  let assetIdParam ← createUIntOfNumber 128 assetId
  let amountParam ← createUIntOfNumber 128 amountToBuy
  member (api.events "pablo" "Swapped")
  member (api.calls "liquidityBootstrapping" "buy")
  return .liquidityBootstrappingBuy poolIdParam assetIdParam amountParam true

def liquidityBootstrappingSell (poolId assetId amount : JsNumber) : Except String TradeCall := do
  let poolIdParam ← createUIntOfNumber 128 poolId
  let assetIdParam ← createUIntOfNumber 128 assetId
  let amountParam ← createUIntOfNumber 128 amount
  member (api.events "pablo" "Swapped")
  member (api.calls "liquidityBootstrapping" "sell")
  return .liquidityBootstrappingSell poolIdParam assetIdParam amountParam false

def liquidityBootstrappingRemoveLiquidity (poolId : JsNumber) : Except String TradeCall := do
  let poolIdParam ← createUIntOfNumber 128 poolId
  member (api.events "liquidityBootstrapping" "PoolDeleted")
  member (api.calls "liquidityBootstrapping" "removeLiquidity")
  return .liquidityBootstrappingRemoveLiquidity poolIdParam

def pabloSwap (poolId baseAssetId quoteAssetId quoteAmount minReceiveAmount : JsNumber) : Except String TradeCall := do
  let poolIdParam ← createUIntOfNumber 128 poolId
  let base ← createUIntOfNumber 128 baseAssetId
  let quote ← createUIntOfNumber 128 quoteAssetId
  let quoteAmountParam ← createUIntOfNumber 128 quoteAmount
  let minReceiveParam ← createUIntOfNumber 128 minReceiveAmount
  member (api.events "pablo" "Swapped")
  member (api.calls "pablo" "swap")
  return .pabloSwap poolIdParam ⟨base, quote⟩ quoteAmountParam minReceiveParam true

def bondedFinanceBond (offerId : BitVec 64) (nbOfBonds : Quantity) : Except String TradeCall := do
  member (api.events "bondedFinance" "NewBond")
  member (api.calls "bondedFinance" "bond")
  let nbOfBonds ← nbOfBonds.encode
  return .bondedFinanceBond offerId.toNat nbOfBonds true

def mosaicSetNetwork : Except String TradeCall := do
  member (api.events "mosaic" "NetworksUpdated")
  member (api.calls "mosaic" "setNetwork")
  let maxTransferSize ← createUIntOfNumber 128 (.finite 100000000000000)
  let networkId ← createUIntOfNumber 32 (.finite 1)
  return .mosaicSetNetwork networkId true maxTransferSize

def mosaicClaimTo (assetId : JsNumber) (dest : AccountId32) : Except String TradeCall := do
  member (api.events "mosaic" "TransferClaimed")
  member (api.calls "mosaic" "claimTo")
  let assetIdParam ← createUIntOfNumber 128 assetId
  return .mosaicClaimTo assetIdParam dest

end TradeTx

section Functions

variable (api : TradeApi) (wallet : KeyringPair)

def buyFromPool (poolId assetId amountToBuy : JsNumber) : TradeTask TradeEvent :=
  tradeAndWaitForSuccess api wallet (TradeEvent.named "pablo" "Swapped")
    (TradeTx.liquidityBootstrappingBuy api poolId assetId amountToBuy)

def sellToPool (poolId assetId amount : JsNumber) : TradeTask TradeEvent :=
  tradeAndWaitForSuccess api wallet (TradeEvent.named "pablo" "Swapped")
    (TradeTx.liquidityBootstrappingSell api poolId assetId amount)

def removeLiquidityFromPool (poolId : JsNumber) : TradeTask TradeEvent :=
  tradeAndWaitForSuccess api wallet (TradeEvent.named "liquidityBootstrapping" "PoolDeleted")
    (TradeTx.liquidityBootstrappingRemoveLiquidity api poolId)

-- minReceiveAmount is 0 when it is left out.
def swapTokenPairs (poolId baseAssetId quoteAssetId quoteAmount : JsNumber) (minReceiveAmount : Option JsNumber) :
    TradeTask TradeEvent :=
  tradeAndWaitForSuccess api wallet (TradeEvent.named "pablo" "Swapped")
    (TradeTx.pabloSwap api poolId baseAssetId quoteAssetId quoteAmount (minReceiveAmount.getD (.finite 0)))

def txBondedFinanceBondSuccessTest (offerId : BitVec 64) (nbOfBonds : Quantity) : TradeTask TradeEvent :=
  tradeAndWaitForSuccess api wallet (TradeEvent.named "bondedFinance" "NewBond")
    (TradeTx.bondedFinanceBond api offerId nbOfBonds)

def setNetwork (relayerAccount : KeyringPair) : TradeTask TradeEvent :=
  tradeAndWaitForSuccess api relayerAccount (TradeEvent.named "mosaic" "NetworksUpdated")
    (TradeTx.mosaicSetNetwork api)

def claimTo (assetId : JsNumber) (claimerAccount : KeyringPair) : TradeTask TradeEvent :=
  tradeAndWaitForSuccess api claimerAccount (TradeEvent.named "mosaic" "TransferClaimed")
    (TradeTx.mosaicClaimTo api assetId claimerAccount.publicKey)

end Functions

inductive Trade where
  | buyFromPool (poolId assetId amountToBuy : JsNumber)
  | sellToPool (poolId assetId amount : JsNumber)
  | removeLiquidityFromPool (poolId : JsNumber)
  | swapTokenPairs (poolId baseAssetId quoteAssetId quoteAmount : JsNumber) (minReceiveAmount : Option JsNumber)
  | bond (offerId : BitVec 64) (nbOfBonds : Quantity)
  | setNetwork
  | claimTo (assetId : JsNumber)

namespace Trade

def run (trade : Trade) (api : TradeApi) (wallet : KeyringPair) : TradeTask TradeEvent :=
  match trade with
  | .buyFromPool poolId assetId amountToBuy => PicassoBootstrap.buyFromPool api wallet poolId assetId amountToBuy
  | .sellToPool poolId assetId amount => PicassoBootstrap.sellToPool api wallet poolId assetId amount
  | .removeLiquidityFromPool poolId => PicassoBootstrap.removeLiquidityFromPool api wallet poolId
  | .swapTokenPairs poolId baseAssetId quoteAssetId quoteAmount minReceiveAmount =>
      PicassoBootstrap.swapTokenPairs api wallet poolId baseAssetId quoteAssetId quoteAmount minReceiveAmount
  | .bond offerId nbOfBonds => txBondedFinanceBondSuccessTest api wallet offerId nbOfBonds
  | .setNetwork => PicassoBootstrap.setNetwork api wallet
  | .claimTo assetId => PicassoBootstrap.claimTo api assetId wallet

def call (trade : Trade) (api : TradeApi) (wallet : KeyringPair) : Except String TradeCall :=
  match trade with
  | .buyFromPool poolId assetId amountToBuy => TradeTx.liquidityBootstrappingBuy api poolId assetId amountToBuy
  | .sellToPool poolId assetId amount => TradeTx.liquidityBootstrappingSell api poolId assetId amount
  | .removeLiquidityFromPool poolId => TradeTx.liquidityBootstrappingRemoveLiquidity api poolId
  | .swapTokenPairs poolId baseAssetId quoteAssetId quoteAmount minReceiveAmount =>
      TradeTx.pabloSwap api poolId baseAssetId quoteAssetId quoteAmount (minReceiveAmount.getD (.finite 0))
  | .bond offerId nbOfBonds => TradeTx.bondedFinanceBond api offerId nbOfBonds
  | .setNetwork => TradeTx.mosaicSetNetwork api
  | .claimTo assetId => TradeTx.mosaicClaimTo api assetId wallet.publicKey

-- What a trade asks for, in the order of the arguments of its extrinsic.
def quantities : Trade → List Quantity
  | .buyFromPool poolId assetId amountToBuy => [.number poolId, .number assetId, .number amountToBuy]
  | .sellToPool poolId assetId amount => [.number poolId, .number assetId, .number amount]
  | .removeLiquidityFromPool poolId => [.number poolId]
  | .swapTokenPairs poolId baseAssetId quoteAssetId quoteAmount minReceiveAmount =>
      [.number poolId, .number baseAssetId, .number quoteAssetId, .number quoteAmount,
        .number (minReceiveAmount.getD (.finite 0))]
  | .bond offerId nbOfBonds => [.codec (offerId.setWidth 128), nbOfBonds]
  | .setNetwork => [.number (.finite 1), .number (.finite 100000000000000)]
  | .claimTo assetId => [.number assetId]

def extrinsic : Trade → String × String
  | .buyFromPool _ _ _ => ("liquidityBootstrapping", "buy")
  | .sellToPool _ _ _ => ("liquidityBootstrapping", "sell")
  | .removeLiquidityFromPool _ => ("liquidityBootstrapping", "removeLiquidity")
  | .swapTokenPairs _ _ _ _ _ => ("pablo", "swap")
  | .bond _ _ => ("bondedFinance", "bond")
  | .setNetwork => ("mosaic", "setNetwork")
  | .claimTo _ => ("mosaic", "claimTo")

def awaited : Trade → String × String
  | .removeLiquidityFromPool _ => ("liquidityBootstrapping", "PoolDeleted")
  | .bond _ _ => ("bondedFinance", "NewBond")
  | .setNetwork => ("mosaic", "NetworksUpdated")
  | .claimTo _ => ("mosaic", "TransferClaimed")
  | _ => ("pablo", "Swapped")

end Trade

namespace TradeCall

def quantities : TradeCall → List Nat
  | .liquidityBootstrappingBuy poolId assetId amount _ => [poolId, assetId, amount]
  | .liquidityBootstrappingSell poolId assetId amount _ => [poolId, assetId, amount]
  | .liquidityBootstrappingRemoveLiquidity poolId => [poolId]
  | .pabloSwap poolId pair quoteAmount minReceive _ => [poolId, pair.base, pair.quote, quoteAmount, minReceive]
  | .bondedFinanceBond offerId nbOfBonds _ => [offerId, nbOfBonds]
  | .mosaicSetNetwork networkId _ maxTransferSize => [networkId, maxTransferSize]
  | .mosaicClaimTo assetId _ => [assetId]

def extrinsic : TradeCall → String × String
  | .liquidityBootstrappingBuy _ _ _ _ => ("liquidityBootstrapping", "buy")
  | .liquidityBootstrappingSell _ _ _ _ => ("liquidityBootstrapping", "sell")
  | .liquidityBootstrappingRemoveLiquidity _ => ("liquidityBootstrapping", "removeLiquidity")
  | .pabloSwap _ _ _ _ _ => ("pablo", "swap")
  | .bondedFinanceBond _ _ _ => ("bondedFinance", "bond")
  | .mosaicSetNetwork _ _ _ => ("mosaic", "setNetwork")
  | .mosaicClaimTo _ _ => ("mosaic", "claimTo")

end TradeCall

-- The natural number that a quantity stands for. A JavaScript number stands for
-- one only as long as its neighbours can be told from it.
def Quantity.Denotes (quantity : Quantity) (n : Nat) : Prop :=
  match quantity with
  | .codec value => n = value.toNat
  | .number value => value = .finite n ∧ n ≤ Double.maxSafeInteger

-- The extrinsic exists, the awaited event exists, and all quantities are numbers.
structure Trade.Possible (trade : Trade) (api : TradeApi) : Prop where
  callable : api.calls trade.extrinsic.1 trade.extrinsic.2 = true
  observable : api.events trade.awaited.1 trade.awaited.2 = true
  numeric : ∀ quantity ∈ trade.quantities, ∃ n, quantity.Denotes n

-- The call carries what the trade asks for, digit by digit.
structure Trade.Carries (trade : Trade) (call : TradeCall) : Prop where
  extrinsic : call.extrinsic = trade.extrinsic
  quantities : List.Forall₂ Quantity.Denotes trade.quantities call.quantities

theorem create_u128_of_number (x : JsNumber) (n : Nat) :
    createUIntOfNumber 128 x = .ok n ↔ (Quantity.number x).Denotes n := by
  rw [create_uint_of_number]
  constructor
  · rintro ⟨same, safe, _⟩
    exact ⟨same, safe⟩
  · rintro ⟨same, safe⟩
    refine ⟨same, safe, ?_⟩
    simp only [Double.maxSafeInteger] at safe
    omega

theorem encode_quantity (quantity : Quantity) (n : Nat) : quantity.encode = .ok n ↔ quantity.Denotes n := by
  cases quantity with
  | codec value => simp [Quantity.encode, Quantity.Denotes, eq_comm]
  | number value => exact create_u128_of_number value n

theorem member_ok (found : Bool) (token : Unit) : member found = .ok token ↔ found = true := by
  cases found <;> simp [member]

theorem denoted_numeric (quantities : List Quantity) (values : List Nat)
    (denoted : List.Forall₂ Quantity.Denotes quantities values) :
    ∀ quantity ∈ quantities, ∃ n, quantity.Denotes n := by
  induction denoted with
  | nil => simp
  | cons head tail ih => exact List.forall_mem_cons.mpr ⟨⟨_, head⟩, ih⟩

theorem offer_id_denotes (offerId : BitVec 64) :
    (Quantity.codec (offerId.setWidth 128)).Denotes offerId.toNat := by
  have small := offerId.isLt
  simp only [Quantity.Denotes, BitVec.toNat_setWidth]
  omega

section Exact

variable (api : TradeApi) (wallet : KeyringPair)

theorem trade_call_sound (trade : Trade) (call : TradeCall) (encoded : trade.call api wallet = .ok call) :
    api.calls trade.extrinsic.1 trade.extrinsic.2 = true ∧ api.events trade.awaited.1 trade.awaited.2 = true ∧
      trade.Carries call := by
  cases trade with
  | buyFromPool poolId assetId amountToBuy =>
      simp only [Trade.call, TradeTx.liquidityBootstrappingBuy, Fallible.bind_ok_iff, Fallible.pure_ok_iff,
        create_u128_of_number, member_ok] at encoded
      obtain ⟨pool, first, asset, second, amount, third, _, observable, _, callable, rfl⟩ := encoded
      exact ⟨callable, observable, rfl, .cons first (.cons second (.cons third .nil))⟩
  | sellToPool poolId assetId amount =>
      simp only [Trade.call, TradeTx.liquidityBootstrappingSell, Fallible.bind_ok_iff, Fallible.pure_ok_iff,
        create_u128_of_number, member_ok] at encoded
      obtain ⟨pool, first, asset, second, amount, third, _, observable, _, callable, rfl⟩ := encoded
      exact ⟨callable, observable, rfl, .cons first (.cons second (.cons third .nil))⟩
  | removeLiquidityFromPool poolId =>
      simp only [Trade.call, TradeTx.liquidityBootstrappingRemoveLiquidity, Fallible.bind_ok_iff, Fallible.pure_ok_iff,
        create_u128_of_number, member_ok] at encoded
      obtain ⟨pool, first, _, observable, _, callable, rfl⟩ := encoded
      exact ⟨callable, observable, rfl, .cons first .nil⟩
  | swapTokenPairs poolId baseAssetId quoteAssetId quoteAmount minReceiveAmount =>
      simp only [Trade.call, TradeTx.pabloSwap, Fallible.bind_ok_iff, Fallible.pure_ok_iff, create_u128_of_number,
        member_ok] at encoded
      obtain ⟨pool, first, base, second, quote, third, amount, fourth, least, fifth, _, observable, _, callable,
        rfl⟩ := encoded
      exact ⟨callable, observable, rfl, .cons first (.cons second (.cons third (.cons fourth (.cons fifth .nil))))⟩
  | bond offerId nbOfBonds =>
      simp only [Trade.call, TradeTx.bondedFinanceBond, Fallible.bind_ok_iff, Fallible.pure_ok_iff, encode_quantity,
        member_ok] at encoded
      obtain ⟨_, observable, _, callable, bonds, last, rfl⟩ := encoded
      exact ⟨callable, observable, rfl, .cons (offer_id_denotes offerId) (.cons last .nil)⟩
  | setNetwork =>
      simp only [Trade.call, TradeTx.mosaicSetNetwork, Fallible.bind_ok_iff, Fallible.pure_ok_iff,
        create_uint_of_number, member_ok] at encoded
      obtain ⟨_, observable, _, callable, size, ⟨first, safe, _⟩, network, ⟨second, small, _⟩, rfl⟩ := encoded
      exact ⟨callable, observable, rfl, .cons ⟨second, small⟩ (.cons ⟨first, safe⟩ .nil)⟩
  | claimTo assetId =>
      simp only [Trade.call, TradeTx.mosaicClaimTo, Fallible.bind_ok_iff, Fallible.pure_ok_iff, create_u128_of_number,
        member_ok] at encoded
      obtain ⟨_, observable, _, callable, asset, first, rfl⟩ := encoded
      exact ⟨callable, observable, rfl, .cons first .nil⟩

theorem trade_call_complete (trade : Trade) (possible : trade.Possible api) :
    ∃ call, trade.call api wallet = .ok call := by
  obtain ⟨callable, observable, numeric⟩ := possible
  cases trade with
  | buyFromPool poolId assetId amountToBuy =>
      simp only [Trade.quantities, List.forall_mem_cons] at numeric
      obtain ⟨⟨pool, first⟩, ⟨asset, second⟩, ⟨amount, third⟩, _⟩ := numeric
      simp only [Trade.call, TradeTx.liquidityBootstrappingBuy, Fallible.bind_ok_iff, Fallible.pure_ok_iff,
        create_u128_of_number, member_ok]
      exact ⟨_, pool, first, asset, second, amount, third, (), observable, (), callable, rfl⟩
  | sellToPool poolId assetId amount =>
      simp only [Trade.quantities, List.forall_mem_cons] at numeric
      obtain ⟨⟨pool, first⟩, ⟨asset, second⟩, ⟨amount, third⟩, _⟩ := numeric
      simp only [Trade.call, TradeTx.liquidityBootstrappingSell, Fallible.bind_ok_iff, Fallible.pure_ok_iff,
        create_u128_of_number, member_ok]
      exact ⟨_, pool, first, asset, second, amount, third, (), observable, (), callable, rfl⟩
  | removeLiquidityFromPool poolId =>
      simp only [Trade.quantities, List.forall_mem_cons] at numeric
      obtain ⟨⟨pool, first⟩, _⟩ := numeric
      simp only [Trade.call, TradeTx.liquidityBootstrappingRemoveLiquidity, Fallible.bind_ok_iff, Fallible.pure_ok_iff,
        create_u128_of_number, member_ok]
      exact ⟨_, pool, first, (), observable, (), callable, rfl⟩
  | swapTokenPairs poolId baseAssetId quoteAssetId quoteAmount minReceiveAmount =>
      simp only [Trade.quantities, List.forall_mem_cons] at numeric
      obtain ⟨⟨pool, first⟩, ⟨base, second⟩, ⟨quote, third⟩, ⟨amount, fourth⟩, ⟨least, fifth⟩, _⟩ := numeric
      simp only [Trade.call, TradeTx.pabloSwap, Fallible.bind_ok_iff, Fallible.pure_ok_iff, create_u128_of_number,
        member_ok]
      exact ⟨_, pool, first, base, second, quote, third, amount, fourth, least, fifth, (), observable, (), callable,
        rfl⟩
  | bond offerId nbOfBonds =>
      simp only [Trade.quantities, List.forall_mem_cons] at numeric
      obtain ⟨_, ⟨bonds, last⟩, _⟩ := numeric
      simp only [Trade.call, TradeTx.bondedFinanceBond, Fallible.bind_ok_iff, Fallible.pure_ok_iff, encode_quantity,
        member_ok]
      exact ⟨_, (), observable, (), callable, bonds, last, rfl⟩
  | setNetwork =>
      simp only [Trade.call, TradeTx.mosaicSetNetwork, Fallible.bind_ok_iff, Fallible.pure_ok_iff,
        create_uint_of_number, member_ok]
      exact ⟨_, (), observable, (), callable, 100000000000000, ⟨rfl, by decide, by decide⟩, 1,
        ⟨rfl, by decide, by decide⟩, rfl⟩
  | claimTo assetId =>
      simp only [Trade.quantities, List.forall_mem_cons] at numeric
      obtain ⟨⟨asset, first⟩, _⟩ := numeric
      simp only [Trade.call, TradeTx.mosaicClaimTo, Fallible.bind_ok_iff, Fallible.pure_ok_iff, create_u128_of_number,
        member_ok]
      exact ⟨_, (), observable, (), callable, asset, first, rfl⟩

theorem trade_run_eq (trade : Trade) :
    trade.run api wallet =
      tradeAndWaitForSuccess api wallet (TradeEvent.named trade.awaited.1 trade.awaited.2) (trade.call api wallet) := by
  cases trade <;> rfl

-- A trade that is possible is sent once, under the wallet's key, with exactly
-- the numbers it asks for, and resolves with its own event only; any other is
-- never sent, as are all trades with a pallet that the chain does not have.
theorem trade_exact (trade : Trade) (log : TradeLog) :
    (trade.Possible api → ∃ call outcome, trade.Carries call ∧
      trade.run api wallet log = (outcome, log ++ [⟨⟨wallet.publicKey, call⟩, outcome⟩])) ∧
    (¬ trade.Possible api → ∃ error, trade.run api wallet log = (.rejected error, log)) ∧
    ∀ event, (trade.run api wallet log).1 = .resolved event → (event.pallet, event.method) = trade.awaited := by
  rw [trade_run_eq]
  cases encoded : trade.call api wallet with
  | ok call =>
      obtain ⟨callable, observable, carries⟩ := trade_call_sound api wallet trade call encoded
      have possible : trade.Possible api := ⟨callable, observable, denoted_numeric _ _ carries.quantities⟩
      refine ⟨fun _ => ⟨call, _, carries, rfl⟩, fun impossible => absurd possible impossible, ?_⟩
      intro event resolved
      have accepted := send_and_wait_for_accepted _ _ _ _ resolved
      simp only [TradeEvent.named, decide_eq_true_eq] at accepted
      rw [accepted]
  | error error =>
      refine ⟨?_, fun _ => ⟨error, rfl⟩, ?_⟩
      · intro possible
        obtain ⟨call, found⟩ := trade_call_complete api wallet trade possible
        exact absurd (found.symm.trans encoded) (by simp)
      · intro event resolved
        exact absurd resolved (by simp [tradeAndWaitForSuccess, Except.map, Task.submit_error])

end Exact

end PicassoBootstrap

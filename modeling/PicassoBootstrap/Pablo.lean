import PicassoBootstrap.Assets

set_option autoImplicit false

namespace PicassoBootstrap

open Async

structure PairEntry where
  base : String
  quote : String
deriving DecidableEq, Repr

structure AmountEntry where
  base : String
  quote : String
deriving DecidableEq, Repr

structure SaleEntry where
  start : String
  «end» : String
  initialWeight : String
  finalWeight : String
deriving DecidableEq, Repr

structure FeeEntry where
  feeRate : String
  ownerFeeRate : String
  protocolFeeRate : String
deriving DecidableEq, Repr

-- An entry of config.pools. Which of the optional fields are there decides
-- what kind of pool it describes.
structure PoolEntry where
  addLiquidity : Bool
  addDexRoute : Bool
  enableTwap : Bool
  liquidityAmount : Option AmountEntry
  pair : Option PairEntry
  sale : Option SaleEntry
  feeConfig : Option FeeEntry
  startDelay : Option String
  fee : Option String
  baseWeight : Option String
  amplificationCoefficient : Option String
deriving DecidableEq, Repr

-- Reading a property of a missing object throws; a missing string given to
-- createType is the default value of the type.
def objectField {α : Type} : Option α → Except String α
  | some value => .ok value
  | none => .error "Cannot read properties of undefined"

def createUIntOrDefault (bits : Nat) : Option String → Except String Nat
  | some value => createUInt bits value
  | none => .ok 0

def truthy : Option String → Bool
  | some value => value ≠ ""
  | none => false

def toPabloPoolPair (base quote : String) : Except String CurrencyPair := do
  let base ← createUInt 128 base
  let quote ← createUInt 128 quote
  return ⟨base, quote⟩

def toPermill (value : Option String) : Except String Nat := createUIntOrDefault 32 value

def toFeeConfig (feeRate ownerFeeRate protocolFeeRate : String) : Except String FeeConfig := do
  let feeRate ← createUInt 32 feeRate
  let ownerFeeRate ← createUInt 32 ownerFeeRate
  let protocolFeeRate ← createUInt 32 protocolFeeRate
  return ⟨feeRate, ownerFeeRate, protocolFeeRate⟩

-- An argument left out is `none`; the default is the one written in the source.
def toDexSale (start «end» initialWeight finalWeight : String) (currentBlock : BigNumber) (startDelay : Option Nat) :
    Except String DexSale := do
  let delay := BigNumber.ofNat (startDelay.getD 25)
  let startBlock := ((currentBlock.plus (BigNumber.ofString start)).plus delay).toString
  let endBlock := ((BigNumber.ofString startBlock).plus (BigNumber.ofString «end»)).toString
  let saleStart ← createUInt 32 startBlock
  let saleEnd ← createUInt 32 endBlock
  let initialWeight ← createUInt 32 initialWeight
  let finalWeight ← createUInt 32 finalWeight
  return ⟨saleStart, saleEnd, initialWeight, finalWeight⟩

def toLiquidityBootstrappingPoolInitConfig (owner : KeyringPair) (poolConfig : PoolEntry) (currentBlock : BigNumber)
    (startDelay : Option Nat) : Except String PoolInitConfiguration := do
  let pairEntry ← objectField poolConfig.pair
  let pair ← toPabloPoolPair pairEntry.base pairEntry.quote
  let saleEntry ← objectField poolConfig.sale
  let sale ← toDexSale saleEntry.start saleEntry.«end» saleEntry.initialWeight saleEntry.finalWeight currentBlock
    (some (startDelay.getD 25))
  let feeEntry ← objectField poolConfig.feeConfig
  let feeConfig ← toFeeConfig feeEntry.feeRate feeEntry.ownerFeeRate feeEntry.protocolFeeRate
  return .liquidityBootstrapping owner.publicKey pair sale feeConfig

def toConstantProductPoolInitConfig (owner : KeyringPair) (poolConfig : PoolEntry) :
    Except String PoolInitConfiguration := do
  let pairEntry ← objectField poolConfig.pair
  let pair ← toPabloPoolPair pairEntry.base pairEntry.quote
  let fee ← toPermill poolConfig.fee
  let baseWeight ← toPermill poolConfig.baseWeight
  return .constantProduct owner.publicKey pair fee baseWeight

def toStableSwapPoolInitConfig (owner : KeyringPair) (poolConfig : PoolEntry) :
    Except String PoolInitConfiguration := do
  let pairEntry ← objectField poolConfig.pair
  let pair ← toPabloPoolPair pairEntry.base pairEntry.quote
  let amplificationCoefficient ← createUIntOrDefault 16 poolConfig.amplificationCoefficient
  let fee ← toPermill poolConfig.fee
  return .stableSwap owner.publicKey pair amplificationCoefficient fee

def createLiquidityBootstrappingPool (api : Api) (ownerKey : KeyringPair) (config : PoolInitConfiguration) :
    ChainTask Event :=
  sendAndWaitForSuccess api ownerKey Event.isPoolCreated (.ok (.pabloCreate config))

def createConstantProductPool (api : Api) (sudoKey : KeyringPair) (config : PoolInitConfiguration) :
    ChainTask Event :=
  sendAndWaitForSuccess api sudoKey Event.isPoolCreated (.ok (.pabloCreate config))

def createStableSwapPool (api : Api) (sudoKey : KeyringPair) (baseAssetId quoteAssetId amplificationCoefficient
    feeRate : JsNumber) : ChainTask Event := do
  let base ← Task.ofExcept (createUIntOfNumber 128 baseAssetId)
  let quote ← Task.ofExcept (createUIntOfNumber 128 quoteAssetId)
  let amplificationCoefficient ← Task.ofExcept (createUIntOfNumber 16 amplificationCoefficient)
  let fee ← Task.ofExcept (createUIntOfNumber 32 feeRate)
  sendAndWaitForSuccess api sudoKey Event.isPoolCreated
    (.ok (.pabloCreate (.stableSwap sudoKey.publicKey ⟨base, quote⟩ amplificationCoefficient fee)))

def Tx.pabloAddLiquidity (poolId : BigNumber) (baseAmount quoteAmount : String) : Except String Call := do
  let baseAmountParam ← createUInt 128 baseAmount
  let quoteAmountParam ← createUInt 128 quoteAmount
  let pool ← createUInt 128 poolId.toString
  return .pabloAddLiquidity pool baseAmountParam quoteAmountParam 0 false

def addLiquidity (api : Api) (wallet : KeyringPair) (poolId : BigNumber) (baseAmount quoteAmount : String) :
    ChainTask Event :=
  sendAndWaitForSuccess api wallet Event.isLiquidityAdded (Tx.pabloAddLiquidity poolId baseAmount quoteAmount)

def Tx.dexRouterUpdateRoute (pair : CurrencyPair) (poolId : JsNumber) : Except String Call := do
  let pool ← createUIntOfNumber 128 poolId
  return .dexRouterUpdateRoute pair [pool]

def updateDexRoute (api : Api) (walletSudo : KeyringPair) (pair : CurrencyPair) (poolId : JsNumber) :
    ChainTask Event :=
  sendAndWaitForSuccess api walletSudo Event.isSudid (Tx.sudoSudo (Tx.dexRouterUpdateRoute pair poolId))

def Tx.pabloEnableTwap (poolId : JsNumber) : Except String Call := do
  let poolIdParam ← createUIntOfNumber 128 poolId
  return .pabloEnableTwap poolIdParam

def enableTwap (api : Api) (walletSudo : KeyringPair) (poolId : JsNumber) : ChainTask Event :=
  sendAndWaitForSuccess api walletSudo Event.isSudid (Tx.sudoSudo (Tx.pabloEnableTwap poolId))

end PicassoBootstrap

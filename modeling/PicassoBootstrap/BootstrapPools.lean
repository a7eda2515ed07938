import PicassoBootstrap.Pablo
import PicassoBootstrap.Units

set_option autoImplicit false

namespace PicassoBootstrap

open Async

def walletAt (wallets : List KeyringPair) (walletIndex : Nat) : Except String KeyringPair :=
  match wallets[walletIndex]? with
  | some wallet => .ok wallet
  | none => .error "Cannot read properties of undefined (reading publicKey)"

def poolIdOf : Event → Except String BigNumber
  | .pabloPoolCreated poolId => .ok (BigNumber.ofString (toString poolId))
  | _ => .error "Cannot read properties of undefined (reading toString)"

-- The branches on the kind of the entry. An entry of no kind creates nothing
-- and leaves poolId undefined.
def createPool (api : Api) (wallets : List KeyringPair) (walletIndex : Nat) (pool : PoolEntry) :
    ChainTask (Option BigNumber) :=
  if pool.sale.isSome then do
    let start ← Task.read api.systemNumber
    let wallet ← Task.ofExcept (walletAt wallets walletIndex)
    let lbpConfig ← Task.ofExcept
      (toLiquidityBootstrappingPoolInitConfig wallet pool (BigNumber.ofString (toString start)) (some 25))
    let lbpCreated ← createLiquidityBootstrappingPool api wallet lbpConfig
    let poolId ← Task.ofExcept (poolIdOf lbpCreated)
    return some poolId
  else if truthy pool.baseWeight then do
    let wallet ← Task.ofExcept (walletAt wallets walletIndex)
    let cppConfig ← Task.ofExcept (toConstantProductPoolInitConfig wallet pool)
    let cppCreated ← createConstantProductPool api wallet cppConfig
    let poolId ← Task.ofExcept (poolIdOf cppCreated)
    return some poolId
  else if truthy pool.amplificationCoefficient then do
    let wallet ← Task.ofExcept (walletAt wallets walletIndex)
    let ssConfig ← Task.ofExcept (toStableSwapPoolInitConfig wallet pool)
    let ssCreated ← createConstantProductPool api wallet ssConfig
    let poolId ← Task.ofExcept (poolIdOf ssCreated)
    return some poolId
  else return none

def addPoolLiquidity (api : Api) (wallet walletSudo : KeyringPair) (pool : PoolEntry) (poolId : BigNumber) :
    ChainTask Unit :=
  if pool.addLiquidity then do
    let pair ← Task.ofExcept (objectField pool.pair)
    let liquidityAmount ← Task.ofExcept (objectField pool.liquidityAmount)
    mintAssetsToWallets api [wallet] walletSudo [pair.base] (BigNumber.ofString liquidityAmount.base)
    mintAssetsToWallets api [wallet] walletSudo [pair.quote] (BigNumber.ofString liquidityAmount.quote)
    let _ ← addLiquidity api wallet poolId liquidityAmount.base liquidityAmount.quote
  else return ()

def addPoolDexRoute (api : Api) (walletSudo : KeyringPair) (pool : PoolEntry) (poolId : BigNumber) :
    ChainTask Unit :=
  if pool.addDexRoute then do
    let pairEntry ← Task.ofExcept (objectField pool.pair)
    let pair ← Task.ofExcept (toPabloPoolPair pairEntry.base pairEntry.quote)
    let _ ← updateDexRoute api walletSudo pair poolId.toNumber
  else return ()

def enablePoolTwap (api : Api) (walletSudo : KeyringPair) (pool : PoolEntry) (poolId : BigNumber) : ChainTask Unit :=
  if pool.enableTwap then do
    let _ ← enableTwap api walletSudo poolId.toNumber
  else return ()

-- The body of the loop. A BigNumber is an object, so `if (poolId)` asks only
-- whether a pool was created: the id 0 counts.
def bootstrapPool (api : Api) (wallets : List KeyringPair) (walletIndex : Nat) (walletSudo : KeyringPair)
    (pool : PoolEntry) : ChainTask Unit := do
  match ← createPool api wallets walletIndex pool with
  | none => return ()
  | some poolId =>
      let wallet ← Task.ofExcept (walletAt wallets walletIndex)
      addPoolLiquidity api wallet walletSudo pool poolId
      addPoolDexRoute api walletSudo pool poolId
      enablePoolTwap api walletSudo pool poolId

-- An error is caught, printed and ends the loop; the result is what was printed.
def bootstrapPoolsLoop (api : Api) (wallets : List KeyringPair) (walletSudo : KeyringPair) :
    List PoolEntry → Nat → ChainTask (Option String)
  | [], _ => return none
  | pool :: rest, walletIndex => do
      match ← Task.attempt (bootstrapPool api wallets walletIndex walletSudo pool) with
      | .error err => return some err
      | .ok _ => bootstrapPoolsLoop api wallets walletSudo rest ((walletIndex + 1) % wallets.length)

def mintGas (api : Api) (wallets : List KeyringPair) (walletSudo : KeyringPair) : ChainTask Unit :=
  mintAssetsToWallets api wallets walletSudo ["1"] (toChainUnits (BigNumber.ofNat 50) none)

-- `pools` is config.pools.
def bootstrapPools (api : Api) (pools : List PoolEntry) (wallets : List KeyringPair) (walletSudo : KeyringPair) :
    ChainTask (Option String) := do
  mintGas api wallets walletSudo
  bootstrapPoolsLoop api wallets walletSudo pools 0

end PicassoBootstrap

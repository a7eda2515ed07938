import PicassoBootstrap.Api

set_option autoImplicit false

namespace PicassoBootstrap

open Async

def setRelayer (api : Api) (relayerAccount sudoAccount : KeyringPair) : ChainTask Event :=
  sendAndWaitForSuccess api sudoAccount Event.isSudid (Tx.sudoSudo (.ok (.mosaicSetRelayer relayerAccount.publicKey)))

def Tx.mosaicSetBudget (assetId : JsNumber) : Except String Call := do
  let assetId ← createUIntOfNumber 128 assetId
  let amount ← createUIntOfNumber 128 (.finite 100000000000000)
  let linear ← createUIntOfNumber 128 (.finite 5)
  return .mosaicSetBudget assetId amount linear

def setBudget (assetId : JsNumber) (api : Api) (sudoAccount : KeyringPair) : ChainTask Event :=
  sendAndWaitForSuccess api sudoAccount Event.isSudid (Tx.sudoSudo (Tx.mosaicSetBudget assetId))

end PicassoBootstrap

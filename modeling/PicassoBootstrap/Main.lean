import PicassoBootstrap.BondedFinance
import PicassoBootstrap.BootstrapPools
import PicassoBootstrap.ConnectionHelpers
import PicassoBootstrap.Lib.Staged
import PicassoBootstrap.Wallets

set_option autoImplicit false

namespace PicassoBootstrap

open Async

-- The part of config.json that main and the bootstrap functions read.
structure Config where
  bootstrapBonds : Bool
  bootstrapPools : Bool
  mintAssetsToWallets : Bool
  bondOffers : List BondOfferEntry
  pools : List PoolEntry
  mintAssets : List (String × String × String)

-- process.env; a variable that is not set is `none`.
structure Environment where
  rpcUrl : Option String
  chainName : Option String
  sudoSeed : Option String

-- `value || fallback` for strings.
def orDefault (value : Option String) (fallback : String) : String :=
  match value with
  | some text => if text = "" then fallback else text
  | none => fallback

-- main().catch prints the message of the error, and the process exits.
def printed (message : String) : List String := [message]

section Phases

variable (api : Api) (config : Config) (dotWallets : List KeyringPair) (walletSudo : KeyringPair)

def bondsPhase : ChainTask Unit :=
  if config.bootstrapBonds then do
    let wallet ← Task.ofExcept (walletAt dotWallets 0)
    bootstrapBondOffers api config.bondOffers wallet walletSudo
  else return ()

def poolsPhase : ChainTask (Option String) :=
  if config.bootstrapPools then bootstrapPools api config.pools dotWallets walletSudo else return none

def assetsPhase : ChainTask Unit :=
  if config.mintAssetsToWallets then bootstrapAssets api walletSudo config.mintAssets else return ()

-- main from the connection on. The result is what it prints on the error
-- console before the process exits; it exits with 0 in every case.
def bootstrap : ChainTask (List String) :=
  Task.orReport printed (bondsPhase api config dotWallets walletSudo) fun _ =>
    Task.orReport printed (poolsPhase api config dotWallets walletSudo) fun caught => do
      let later ← Task.orReport printed (assetsPhase api config walletSudo) fun _ => return []
      return caught.toList ++ later

end Phases

-- `buildApi` is the connection to the node, with the types and the rpc methods
-- that the helpers collect.
def main {δ ρ : Type} (kr : Keyring) (definitions : Definitions δ ρ)
    (buildApi : String → KeyedMap String δ → KeyedMap String (Option (KeyedMap String ρ)) → Settlement String Api)
    (env : Environment) (config : Config) : ChainTask (List String) :=
  let rpcUrl := orDefault env.rpcUrl "ws://127.0.0.1:9988"
  let chainName := orDefault env.chainName "dali-local"
  Task.orReport printed (Task.ofExcept (getSudoWallet kr env.sudoSeed chainName)) fun walletSudo =>
    let dotWallets := getSubstrateWallets kr
    let rpc := createRPC definitions
    let types := createTypes definitions
    Task.orReport printed (Task.read fun _ => buildApi rpcUrl types rpc) fun api =>
      bootstrap api config dotWallets walletSudo

end PicassoBootstrap

import PicassoBootstrap.Assets
import PicassoBootstrap.Misc
import PicassoBootstrap.Lib.Fallible
import PicassoBootstrap.Lib.KeyedMap

set_option autoImplicit false

namespace PicassoBootstrap

open Async

-- An Ethereum wallet signs with 65 bytes and hands them out as a hex string.
structure EthereumSigner where
  signMessage : String → String
  signature : ∀ message, ∃ bytes, Schema.hexBytes (signMessage message) = some bytes ∧ bytes.length = 65

def multiSignature : Schema.Shape :=
  .enum (.cons "Ed25519" (.bytes 64) (.cons "Sr25519" (.bytes 64) (.cons "Ecdsa" (.bytes 65) .nil)))

-- PalletCrowdloanRewardsModelsProof as declared in the type definitions.
def palletCrowdloanRewardsModelsProof : Schema.Shape :=
  .enum (.cons "RelayChain" (.tuple (.cons (.bytes 32) (.cons multiSignature .nil)))
    (.cons "Ethereum" (.bytes 65) .nil))

def Tx.crowdloanRewardsAssociate (rewardAccount : AccountId32) (proof : Schema.Input) : Except String Call :=
  match Schema.decode palletCrowdloanRewardsModelsProof proof with
  | some value => .ok (.crowdloanRewardsAssociate rewardAccount value)
  | none => .error "Cannot map Enum JSON"

def associateKSMMessage (rewardAccount : KeyringPair) : String :=
  "<Bytes>picasso-" ++ toHexString rewardAccount.publicKey.bytes ++ "</Bytes>"

def associateKSMProof (contributorAccount rewardAccount : KeyringPair) : Schema.Input :=
  let signature := contributorAccount.sign (associateKSMMessage rewardAccount)
  .object [("RelayChain", .list [.bytes contributorAccount.publicKey.bytes, .object [("Sr25519", .bytes signature)]])]

def associateKSM (api : Api) (contributorAccount rewardAccount : KeyringPair) : ChainTask Event :=
  sendUnsignedAndWaitForSuccess api Event.isAssociated
    (Tx.crowdloanRewardsAssociate rewardAccount.publicKey (associateKSMProof contributorAccount rewardAccount))

def associateEthMessage (rewardAccount : KeyringPair) : String :=
  "picasso-" ++ toHexString rewardAccount.publicKey.bytes

def associateEthProof (signer : EthereumSigner) (rewardAccount : KeyringPair) : Schema.Input :=
  let signature := signer.signMessage (associateEthMessage rewardAccount)
  .object [("proof", .object [("Ethereum", .text signature)])]

def associateEth (api : Api) (signer : EthereumSigner) (rewardAccount : KeyringPair) : ChainTask Event :=
  sendUnsignedAndWaitForSuccess api Event.isAssociated
    (Tx.crowdloanRewardsAssociate rewardAccount.publicKey (associateEthProof signer rewardAccount))

-- `initialize` of the source.
def crowdloanInitialize (api : Api) (sudoAccount : KeyringPair) : ChainTask Event :=
  sendAndWaitForSuccess api sudoAccount Event.isSudid (Tx.sudoSudo (.ok .crowdloanRewardsInitialize))

def relayContributor (api : Api) (reward vesting : Nat) (account : String) : Except String Reward :=
  (api.createAccountId32 account).map fun decoded => ⟨.relayChain decoded, reward, vesting⟩

def ethereumContributor (api : Api) (reward vesting : Nat) (account : String) : Except String Reward :=
  (api.createEthereumAccountId account).map fun decoded => ⟨.ethereum decoded, reward, vesting⟩

-- Every account is decoded, also those that the slices then leave out.
def rewardsToPopulate (api : Api) (relayAccounts ethAccounts : List String) (rewardsPerAccount vestingPeriod : String) :
    Except String (List Reward) := do
  let vesting ← createUInt 32 vestingPeriod
  let reward ← createUInt 128 rewardsPerAccount
  let relayContributors ← relayAccounts.mapM (relayContributor api reward vesting)
  let ethereumContributors ← ethAccounts.mapM (ethereumContributor api reward vesting)
  return relayContributors.take 50 ++ ethereumContributors.take 50

def populate (api : Api) (walletSudo : KeyringPair) (relayAccounts ethAccounts : List String)
    (rewardsPerAccount vestingPeriod : String) : ChainTask Event :=
  sendAndWaitForSuccess api walletSudo Event.isSudid
    (Tx.sudoSudo ((rewardsToPopulate api relayAccounts ethAccounts rewardsPerAccount vestingPeriod).map
      .crowdloanRewardsPopulate))

-- The relay accounts come as byte arrays here; only their number counts.
def netRewards {α : Type} (relayAccounts : List α) (ethAccounts : List String) (rewardsPerAccount : String) : BigNumber :=
  let sliced := (relayAccounts.take 50).length + (ethAccounts.take 50).length
  (BigNumber.ofString rewardsPerAccount).times (BigNumber.ofNat sliced)

def Tx.assetsTransfer (api : Api) (asset : JsNumber) (dest : String) (amount : BigNumber) (keepAlive : Bool) :
    Except String Call := do
  let amount ← createUIntOfBigNumber 128 amount
  let asset ← createUIntOfNumber 128 asset
  let dest ← api.createAccountId32 dest
  return .assetsTransfer asset dest amount keepAlive

def addFundsToCrowdloan {α : Type} (api : Api) (walletSudo : KeyringPair) (relayAccounts : List α)
    (ethAccounts : List String) (rewardsPerAccount palletAccountId : String) : ChainTask Unit := do
  let net := netRewards relayAccounts ethAccounts rewardsPerAccount
  mintAssetsToWallets api [walletSudo] walletSudo ["1"] net
  let _ ← sendAndWaitForSuccess api walletSudo Event.isTransfer
    (Tx.assetsTransfer api (.finite 1) palletAccountId net true)

end PicassoBootstrap

import PicassoBootstrap.Lib.Schema

set_option autoImplicit false

namespace PicassoBootstrap

structure AccountId32 where
  bytes : List UInt8
  size : bytes.length = 32
deriving DecidableEq

structure EthereumAccountId where
  bytes : List UInt8
  size : bytes.length = 20
deriving DecidableEq

def AccountId32.ofHex (text : String) : Option AccountId32 :=
  match Schema.hexBytes text with
  | some bytes => if size : bytes.length = 32 then some ⟨bytes, size⟩ else none
  | none => none

def EthereumAccountId.ofHex (text : String) : Option EthereumAccountId :=
  match Schema.hexBytes text with
  | some bytes => if size : bytes.length = 20 then some ⟨bytes, size⟩ else none
  | none => none

inductive RemoteAccount where
  | relayChain (account : AccountId32)
  | ethereum (account : EthereumAccountId)
deriving DecidableEq

-- An sr25519 pair, as the wallets of this program are: the signature of a
-- message is 64 bytes long.
structure KeyringPair where
  publicKey : AccountId32
  sign : String → List UInt8
  signatureSize : ∀ message, (sign message).length = 64

structure ModuleError where
  index : UInt8
  error : UInt8
deriving DecidableEq, Repr

-- `description` is what toString() of a non-module error prints.
inductive DispatchError where
  | module (error : ModuleError)
  | other (description : String)
deriving DecidableEq, Repr

structure MetaError where
  docs : List String
  name : String
  pallet : String
deriving DecidableEq, Repr

structure Registry where
  findMetaError : ModuleError → Option MetaError

inductive ExtrinsicStatus where
  | future | ready | broadcast
  | inBlock | retracted | finalityTimeout | finalized
  | usurped | dropped | invalid
deriving DecidableEq, Repr

namespace ExtrinsicStatus

def isInBlock (status : ExtrinsicStatus) : Bool := status = .inBlock
def isFinalized (status : ExtrinsicStatus) : Bool := status = .finalized
def isInclusion (status : ExtrinsicStatus) : Bool := status.isInBlock || status.isFinalized

def isDead (status : ExtrinsicStatus) : Bool := status = .invalid ∨ status = .dropped ∨ status = .usurped

end ExtrinsicStatus

structure SubmittableResult (Ev : Type) where
  status : ExtrinsicStatus
  events : List Ev
  dispatchError : Option DispatchError
deriving DecidableEq, Repr

-- What reaches a sender: a result delivered to its callback, or the rejection
-- of the submission call itself.
inductive Signal (Ev : Type) where
  | delivered (result : SubmittableResult Ev)
  | submissionFailed (message : String)
deriving DecidableEq, Repr

-- The arguments of the extrinsics have the fields that the source gives them. The
-- metadata of the chain is taken to name these fields; the generated interfaces
-- are of another version, with other fees and other names for the weights.
structure CurrencyPair where
  base : Nat
  quote : Nat
deriving DecidableEq, Repr

structure DexSale where
  startBlock : Nat
  endBlock : Nat
  initialWeight : Nat
  finalWeight : Nat
deriving DecidableEq, Repr

structure FeeConfig where
  feeRate : Nat
  ownerFeeRate : Nat
  protocolFeeRate : Nat
deriving DecidableEq, Repr

inductive PoolInitConfiguration where
  | liquidityBootstrapping (owner : AccountId32) (pair : CurrencyPair) (sale : DexSale) (feeConfig : FeeConfig)
  | constantProduct (owner : AccountId32) (pair : CurrencyPair) (fee baseWeight : Nat)
  | stableSwap (owner : AccountId32) (pair : CurrencyPair) (amplificationCoefficient fee : Nat)
deriving DecidableEq

inductive BondDuration where
  | infinite
  | finite (returnIn : Nat)
deriving DecidableEq, Repr

structure BondOfferReward where
  asset : Nat
  amount : Nat
  maturity : Nat
deriving DecidableEq, Repr

structure BondOffer where
  asset : Nat
  bondPrice : Nat
  nbOfBonds : Nat
  maturity : BondDuration
  reward : BondOfferReward
deriving DecidableEq, Repr

structure Reward where
  account : RemoteAccount
  amount : Nat
  vestingPeriod : Nat
deriving DecidableEq

inductive Call where
  | assetsMintInto (asset : Nat) (dest : AccountId32) (amount : Nat)
  | assetsTransfer (asset : Nat) (dest : AccountId32) (amount : Nat) (keepAlive : Bool)
  | pabloCreate (pool : PoolInitConfiguration)
  | pabloAddLiquidity (poolId baseAmount quoteAmount minMintAmount : Nat) (keepAlive : Bool)
  | pabloEnableTwap (poolId : Nat)
  | dexRouterUpdateRoute (pair : CurrencyPair) (route : List Nat)
  | crowdloanRewardsInitialize
  | crowdloanRewardsPopulate (rewards : List Reward)
  | crowdloanRewardsAssociate (rewardAccount : AccountId32) (proof : Schema.Value)
  | bondedFinanceOffer (beneficiary : AccountId32) (offer : BondOffer) (keepAlive : Bool)
  | mosaicSetRelayer (relayer : AccountId32)
  | mosaicSetBudget (assetId amount linearDecay : Nat)
  | sudoSudo (call : Call)
deriving DecidableEq

structure Submission where
  signer : Option AccountId32
  call : Call
deriving DecidableEq

inductive DispatchResult where
  | ok
  | err (error : DispatchError)
deriving DecidableEq, Repr

inductive Event where
  | sudoSudid (sudoResult : DispatchResult)
  | pabloPoolCreated (poolId : Nat)
  | pabloLiquidityAdded
  | balancesTransfer
  | crowdloanRewardsAssociated
  | bondedFinanceNewOffer (offerId : Nat)
  | other (pallet method : String)
deriving DecidableEq, Repr

namespace Event

-- The `api.events.<pallet>.<Method>.is` predicates: they look at the kind of
-- the event only, not at its data.
def isSudid : Event → Bool
  | .sudoSudid _ => true
  | _ => false

def isPoolCreated : Event → Bool
  | .pabloPoolCreated _ => true
  | _ => false

def isLiquidityAdded : Event → Bool
  | .pabloLiquidityAdded => true
  | _ => false

def isTransfer : Event → Bool
  | .balancesTransfer => true
  | _ => false

def isAssociated : Event → Bool
  | .crowdloanRewardsAssociated => true
  | _ => false

def isNewOffer : Event → Bool
  | .bondedFinanceNewOffer _ => true
  | _ => false

theorem is_sudid_iff (event : Event) : event.isSudid = true ↔ ∃ result, event = .sudoSudid result := by
  cases event <;> simp [isSudid]

theorem is_pool_created_iff (event : Event) : event.isPoolCreated = true ↔ ∃ id, event = .pabloPoolCreated id := by
  cases event <;> simp [isPoolCreated]

end Event

end PicassoBootstrap

import PicassoBootstrap.Lib.Task
import PicassoBootstrap.Senders
import PicassoBootstrap.Codec

set_option autoImplicit false

namespace PicassoBootstrap

open Async

abbrev ChainLog := Log Submission String Event
abbrev ChainTask (α : Type) := Task Submission String Event α
abbrev ChainAction := Action Submission String Event

def added (log after : ChainLog) : ChainLog := after.drop log.length

theorem added_append (log new : ChainLog) : added log (log ++ new) = new := by
  simp [added]

-- The connected node and its client library. What reaches the sender of an
-- extrinsic, and what a query answers, may depend on everything sent before.
structure Api where
  registry : Registry
  deliver : ChainLog → Submission → List (Signal Event)
  systemNumber : ChainLog → Settlement String Nat
  accountId32 : String → Option AccountId32
  ethereumAccountId : String → Option EthereumAccountId

def Api.createAccountId32 (api : Api) (address : String) : Except String AccountId32 :=
  match api.accountId32 address with
  | some account => .ok account
  | none => .error "Invalid AccountId32 provided"

def Api.createEthereumAccountId (api : Api) (address : String) : Except String EthereumAccountId :=
  match api.ethereumAccountId address with
  | some account => .ok account
  | none => .error "Invalid EthereumAccountId provided"

def signedAction (api : Api) (sender : AccountId32) (filter : Event → Bool) (call : Call) : ChainAction where
  request := ⟨some sender, call⟩
  answer log := sendAndWaitFor api.registry filter (api.deliver log ⟨some sender, call⟩)

def unsignedAction (api : Api) (filter : Event → Bool) (call : Call) : ChainAction where
  request := ⟨none, call⟩
  answer log := sendUnsignedAndWaitFor api.registry filter (api.deliver log ⟨none, call⟩)

-- `call` is the argument expression `api.tx.<..>(..)`: it is evaluated before
-- anything is sent, and encoding its arguments may throw.
def sendAndWaitForSuccess (api : Api) (sender : KeyringPair) (filter : Event → Bool) (call : Except String Call) :
    ChainTask Event :=
  Task.submit (call.map (signedAction api sender.publicKey filter))

def sendUnsignedAndWaitForSuccess (api : Api) (filter : Event → Bool) (call : Except String Call) :
    ChainTask Event :=
  Task.submit (call.map (unsignedAction api filter))

def Tx.sudoSudo (call : Except String Call) : Except String Call := call.map .sudoSudo

def Call.expectedEvent : Call → Event
  | .assetsTransfer _ _ _ _ => .balancesTransfer
  | .pabloCreate _ => .pabloPoolCreated 0
  | .pabloAddLiquidity _ _ _ _ _ => .pabloLiquidityAdded
  | .crowdloanRewardsAssociate _ _ => .crowdloanRewardsAssociated
  | .bondedFinanceOffer _ _ _ => .bondedFinanceNewOffer 0
  | .sudoSudo _ => .sudoSudid .ok
  | _ => .other "system" "ExtrinsicSuccess"

-- A node at block `height` that includes every extrinsic at once, with the
-- event it is waited for. Of the addresses it reads the hex ones only.
def promptNode (height : Nat) : Api where
  registry := ⟨fun _ => none⟩
  deliver _ request := [.delivered ⟨.inBlock, [request.call.expectedEvent], none⟩]
  systemNumber _ := .resolved height
  accountId32 := AccountId32.ofHex
  ethereumAccountId := EthereumAccountId.ofHex

def devWallet (byte : UInt8) : KeyringPair := ⟨⟨List.replicate 32 byte, rfl⟩, fun _ => List.replicate 64 byte, fun _ => rfl⟩

end PicassoBootstrap

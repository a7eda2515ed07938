import PicassoBootstrap.SenderRuns
import PicassoBootstrap.Pablo
import PicassoBootstrap.CrowdloanRewards
import PicassoBootstrap.Mosaic

set_option autoImplicit false

namespace PicassoBootstrap

open Async

inductive SudoOperation where
  | mintAssetsToWallets (wallets : List KeyringPair) (assetIDs : List String) (amount : BigNumber)
  | mintAssetsToAddress (wallets assetIDs : List String) (amount : String)
  | updateDexRoute (pair : CurrencyPair) (poolId : JsNumber)
  | enableTwap (poolId : JsNumber)
  | crowdloanInitialize
  | populate (relayAccounts ethAccounts : List String) (rewardsPerAccount vestingPeriod : String)
  | setRelayer (relayerAccount : KeyringPair)
  | setBudget (assetId : JsNumber)

namespace SudoOperation

def run (operation : SudoOperation) (api : Api) (walletSudo : KeyringPair) : ChainTask Unit :=
  match operation with
  | .mintAssetsToWallets wallets assetIDs amount =>
      PicassoBootstrap.mintAssetsToWallets api wallets walletSudo assetIDs amount
  | .mintAssetsToAddress wallets assetIDs amount =>
      PicassoBootstrap.mintAssetsToAddress api wallets walletSudo assetIDs amount
  | .updateDexRoute pair poolId => do
      let _ ← PicassoBootstrap.updateDexRoute api walletSudo pair poolId
  | .enableTwap poolId => do
      let _ ← PicassoBootstrap.enableTwap api walletSudo poolId
  | .crowdloanInitialize => do
      let _ ← PicassoBootstrap.crowdloanInitialize api walletSudo
  | .populate relayAccounts ethAccounts rewardsPerAccount vestingPeriod => do
      let _ ← PicassoBootstrap.populate api walletSudo relayAccounts ethAccounts rewardsPerAccount vestingPeriod
  | .setRelayer relayerAccount => do
      let _ ← PicassoBootstrap.setRelayer api relayerAccount walletSudo
  | .setBudget assetId => do
      let _ ← PicassoBootstrap.setBudget assetId api walletSudo

def calls (operation : SudoOperation) (api : Api) : List (Except String Call) :=
  match operation with
  | .mintAssetsToWallets wallets assetIDs amount =>
      (productArgs (wallets.map fun wallet => .publicKey wallet.publicKey) assetIDs amount.toString).map fun args =>
        (args.decode api).map Mint.call
  | .mintAssetsToAddress wallets assetIDs amount =>
      (productArgs (wallets.map .address) assetIDs amount).map fun args => (args.decode api).map Mint.call
  | .updateDexRoute pair poolId => [Tx.dexRouterUpdateRoute pair poolId]
  | .enableTwap poolId => [Tx.pabloEnableTwap poolId]
  | .crowdloanInitialize => [.ok .crowdloanRewardsInitialize]
  | .populate relayAccounts ethAccounts rewardsPerAccount vestingPeriod =>
      [(rewardsToPopulate api relayAccounts ethAccounts rewardsPerAccount vestingPeriod).map .crowdloanRewardsPopulate]
  | .setRelayer relayerAccount => [.ok (.mosaicSetRelayer relayerAccount.publicKey)]
  | .setBudget assetId => [Tx.mosaicSetBudget assetId]

end SudoOperation

def sudoItem (api : Api) (walletSudo : KeyringPair) (call : Except String Call) : Except String ChainAction :=
  (Tx.sudoSudo call).map (signedAction api walletSudo.publicKey Event.isSudid)

theorem single_sudo (api : Api) (walletSudo : KeyringPair) (call : Except String Call) :
    (do let _ ← sendAndWaitForSuccess api walletSudo Event.isSudid (Tx.sudoSudo call) : ChainTask Unit) =
      Task.submitAll ([call].map (sudoItem api walletSudo)) :=
  (Task.submit_all_singleton _).symm

theorem mint_items_sudo (api : Api) (walletSudo : KeyringPair) (args : List MintArgs) :
    args.map (mintItem api walletSudo) =
      (args.map fun item => (item.decode api).map Mint.call).map (sudoItem api walletSudo) := by
  rw [List.map_map]
  refine List.map_congr_left fun item _ => ?_
  simp only [Function.comp_apply, mintItem, sudoItem, Tx.sudoSudo]
  cases item.decode api <;> rfl

theorem sudo_run_flat (operation : SudoOperation) (api : Api) (walletSudo : KeyringPair) :
    operation.run api walletSudo = Task.submitAll ((operation.calls api).map (sudoItem api walletSudo)) := by
  cases operation with
  | mintAssetsToWallets wallets assetIDs amount =>
      rw [SudoOperation.run, mintAssetsToWallets, mint_assets_flat, mint_items_sudo]
      rfl
  | mintAssetsToAddress wallets assetIDs amount =>
      rw [SudoOperation.run, mintAssetsToAddress, mint_assets_flat, mint_items_sudo]
      rfl
  | updateDexRoute pair poolId => exact single_sudo api walletSudo _
  | enableTwap poolId => exact single_sudo api walletSudo _
  | crowdloanInitialize => exact single_sudo api walletSudo _
  | populate relayAccounts ethAccounts rewardsPerAccount vestingPeriod => exact single_sudo api walletSudo _
  | setRelayer relayerAccount => exact single_sudo api walletSudo _
  | setBudget assetId => exact single_sudo api walletSudo _

def sudoRequest (walletSudo : KeyringPair) (call : Call) : Submission := ⟨some walletSudo.publicKey, .sudoSudo call⟩

-- What the chain promises about a sudo.sudo that the sudo key signs, whatever
-- becomes of the call inside it: the extrinsic itself does not fail, it is
-- included, and its Sudid event tells how the inner call was dispatched.
structure SudoChain (api : Api) (walletSudo : KeyringPair) (inner : ChainLog → Submission → DispatchResult) :
    Prop where
  clean : ∀ log call, ∀ signal ∈ api.deliver log (sudoRequest walletSudo call),
    ∃ res, signal = .delivered res ∧ res.dispatchError = none
  included : ∀ log call, ∃ res, .delivered res ∈ api.deliver log (sudoRequest walletSudo call) ∧
    res.status.isInclusion = true
  sudid : ∀ log call res, .delivered res ∈ api.deliver log (sudoRequest walletSudo call) →
    res.status.isInclusion = true →
      res.events.find? Event.isSudid = some (.sudoSudid (inner log (sudoRequest walletSudo call)))

section SudoRuns

variable (api : Api) (inner : ChainLog → Submission → DispatchResult) (walletSudo : KeyringPair)

theorem sudo_answer (chain : SudoChain api walletSudo inner) (log : ChainLog) (call : Call) :
    (signedAction api walletSudo.publicKey Event.isSudid (.sudoSudo call)).answer log =
      .resolved (.sudoSudid (inner log (sudoRequest walletSudo call))) := by
  refine (send_and_wait_for_eq _ _ _).trans (Settlement.first_settling_agree _ _ _ ?_ ?_)
  · intro signal member
    obtain ⟨res, rfl, clean⟩ := chain.clean log call signal member
    by_cases included : res.status.isInclusion = true
    · exact .inr (accepted_effect _ _ res _ clean included (chain.sudid log call res member included))
    · exact .inl (indecisive_effect _ _ res (by simp [decisive, clean, included]))
  · obtain ⟨res, member, included⟩ := chain.included log call
    obtain ⟨_, same, clean⟩ := chain.clean log call _ member
    obtain rfl := Signal.delivered.inj same
    exact ⟨_, member, accepted_effect _ _ res _ clean included (chain.sudid log call res member included)⟩

def dispatched (log : ChainLog) (call : Call) : Exchange Submission String Event :=
  ⟨sudoRequest walletSudo call, .resolved (.sudoSudid (inner log (sudoRequest walletSudo call)))⟩

theorem sudo_submit (chain : SudoChain api walletSudo inner) (log : ChainLog) (call : Call) :
    Task.submit (sudoItem api walletSudo (.ok call)) log =
      (.resolved (.sudoSudid (inner log (sudoRequest walletSudo call))),
        log ++ [dispatched inner walletSudo log call]) := by
  have sent := Task.submit_ok (signedAction api walletSudo.publicKey Event.isSudid (.sudoSudo call)) log
  rw [sudo_answer api inner walletSudo chain log call] at sent
  exact sent

def AllDispatched : ChainLog → List (Except String Call) → Prop
  | _, [] => True
  | _, .error _ :: _ => True
  | log, .ok call :: rest =>
      inner log (sudoRequest walletSudo call) = .ok ∧ AllDispatched (log ++ [dispatched inner walletSudo log call]) rest

def Refused (calls : List (Except String Call)) : Prop := ∃ call ∈ calls, ∃ error, call = .error error

-- The run resolves when all calls can be encoded, and rejects otherwise: what
-- the inner calls came to plays no part.
theorem sudo_run_settles (chain : SudoChain api walletSudo inner) (calls : List (Except String Call)) (log : ChainLog) :
    (Refused calls → (Task.submitAll (calls.map (sudoItem api walletSudo)) log).1.isRejected = true) ∧
      (¬ Refused calls → (Task.submitAll (calls.map (sudoItem api walletSudo)) log).1 = .resolved ()) := by
  induction calls generalizing log with
  | nil => exact ⟨by simp [Refused], fun _ => rfl⟩
  | cons call rest ih =>
      rw [List.map_cons, Task.submit_all_cons]
      cases call with
      | error error =>
          refine ⟨fun _ => rfl, fun accepted => absurd ?_ accepted⟩
          exact ⟨.error error, by simp, error, rfl⟩
      | ok call =>
          have tail : Refused (.ok call :: rest) ↔ Refused rest := by simp [Refused]
          rw [tail, Task.bind_resolved _ _ log _ _ (sudo_submit api inner walletSudo chain log call)]
          exact ih _

theorem sudo_run_results (chain : SudoChain api walletSudo inner) (calls : List (Except String Call)) (log : ChainLog) :
    ∃ new : ChainLog, (Task.submitAll (calls.map (sudoItem api walletSudo)) log).2 = log ++ new ∧
      (∀ exchange ∈ new, ∃ result, exchange.outcome = .resolved (.sudoSudid result)) ∧
      ((∀ exchange ∈ new, exchange.outcome = .resolved (.sudoSudid .ok)) ↔
        AllDispatched inner walletSudo log calls) := by
  induction calls generalizing log with
  | nil => exact ⟨[], by simp [Task.submit_all_nil, Task.pure_run], by simp, by simp [AllDispatched]⟩
  | cons call rest ih =>
      rw [List.map_cons, Task.submit_all_cons]
      cases call with
      | error error =>
          refine ⟨[], ?_, by simp, by simp [AllDispatched]⟩
          rw [List.append_nil]
          rfl
      | ok call =>
          rw [Task.bind_resolved _ _ log _ _ (sudo_submit api inner walletSudo chain log call)]
          obtain ⟨new, grown, carried, allOk⟩ := ih (log ++ [dispatched inner walletSudo log call])
          refine ⟨dispatched inner walletSudo log call :: new, ?_, ?_, ?_⟩
          · rw [grown, List.append_assoc]
            rfl
          · intro exchange member
            rcases List.mem_cons.mp member with rfl | member
            · exact ⟨_, rfl⟩
            · exact carried exchange member
          · rw [List.forall_mem_cons, allOk, AllDispatched]
            simp [dispatched]

end SudoRuns

def SuccessMeansDispatched (log : ChainLog) (run : Settlement String Unit × ChainLog) : Prop :=
  (run.1 = .resolved () → ∀ exchange ∈ added log run.2, exchange.outcome = .resolved (.sudoSudid .ok)) ∧
    ((∃ exchange ∈ added log run.2, ∃ error, exchange.outcome = .resolved (.sudoSudid (.err error))) →
      run.1.isRejected = true)

theorem sudo_success_iff (api : Api) (inner : ChainLog → Submission → DispatchResult) (walletSudo : KeyringPair)
    (chain : SudoChain api walletSudo inner) (operation : SudoOperation) (log : ChainLog) :
    SuccessMeansDispatched log (operation.run api walletSudo log) ↔
      Refused (operation.calls api) ∨ AllDispatched inner walletSudo log (operation.calls api) := by
  rw [sudo_run_flat]
  obtain ⟨rejects, resolves⟩ := sudo_run_settles api inner walletSudo chain (operation.calls api) log
  obtain ⟨new, grown, carried, allOk⟩ := sudo_run_results api inner walletSudo chain (operation.calls api) log
  rw [SuccessMeansDispatched, grown, added_append, ← allOk]
  by_cases refused : Refused (operation.calls api)
  · -- Nothing resolves, so nothing is promised; whatever failed, it rejects.
    have rejected := rejects refused
    refine ⟨fun _ => .inl refused, fun _ => ⟨fun resolved => ?_, fun _ => rejected⟩⟩
    rw [resolved] at rejected
    exact absurd rejected (by simp [Settlement.isRejected])
  · have resolved := resolves refused
    constructor
    · rintro ⟨success, _⟩
      exact .inr (success resolved)
    · rintro (impossible | good)
      · exact absurd impossible refused
      · refine ⟨fun _ => good, ?_⟩
        rintro ⟨exchange, member, error, failed⟩
        rw [good exchange member] at failed
        exact absurd failed (by simp)

-- A node with one sudo key: a sudo.sudo that another key signs fails.
def sudoNode (walletSudo : KeyringPair) (inner : ChainLog → Submission → DispatchResult) : Api :=
  { promptNode 100 with
    deliver := fun log request =>
      if request.signer = some walletSudo.publicKey then
        [.delivered ⟨.ready, [], none⟩,
          .delivered ⟨.inBlock, [.other "treasury" "Deposit", .sudoSudid (inner log request)], none⟩]
      else [.delivered ⟨.inBlock, [], some (.other "RequireSudo")⟩] }

theorem sudo_node_delivers (walletSudo : KeyringPair) (inner : ChainLog → Submission → DispatchResult)
    (log : ChainLog) (call : Call) :
    (sudoNode walletSudo inner).deliver log (sudoRequest walletSudo call) =
      [.delivered ⟨.ready, [], none⟩, .delivered ⟨.inBlock,
        [.other "treasury" "Deposit", .sudoSudid (inner log (sudoRequest walletSudo call))], none⟩] :=
  if_pos rfl

theorem sudo_node_chain (walletSudo : KeyringPair) (inner : ChainLog → Submission → DispatchResult) :
    SudoChain (sudoNode walletSudo inner) walletSudo inner where
  clean := by
    intro log call signal member
    simp only [sudo_node_delivers, List.mem_cons, List.not_mem_nil, or_false] at member
    rcases member with rfl | rfl
    · exact ⟨_, rfl, rfl⟩
    · exact ⟨_, rfl, rfl⟩
  included := fun log call =>
    ⟨⟨.inBlock, [.other "treasury" "Deposit", .sudoSudid (inner log (sudoRequest walletSudo call))], none⟩,
      by simp [sudo_node_delivers], rfl⟩
  sudid := by
    intro log call res member included
    simp only [sudo_node_delivers, List.mem_cons, List.not_mem_nil, or_false, Signal.delivered.injEq] at member
    rcases member with rfl | rfl
    · exact absurd included (by decide)
    · rfl

theorem dispatched_budget_resolves :
    SuccessMeansDispatched []
      ((SudoOperation.setBudget (.finite 4)).run (sudoNode (devWallet 9) fun _ _ => .ok) (devWallet 9) []) :=
  (sudo_success_iff (sudoNode (devWallet 9) fun _ _ => .ok) (fun _ _ => .ok) (devWallet 9) (sudo_node_chain _ _)
    (.setBudget (.finite 4)) []).mpr (.inr ⟨rfl, trivial⟩)

def onlyFirstDispatched : ChainLog → Submission → DispatchResult
  | [], _ => .ok
  | _, _ => .err (.other "BadOrigin")

def twoMints : SudoOperation := .mintAssetsToWallets [devWallet 1, devWallet 2] ["1"] (BigNumber.ofNat 50)

-- The second of two mints fails inside sudo.sudo, and the operation resolves.
theorem failed_mint_resolves :
    twoMints.run (sudoNode (devWallet 9) onlyFirstDispatched) (devWallet 9) [] =
      (.resolved (), [⟨sudoRequest (devWallet 9) (.assetsMintInto 1 (devWallet 1).publicKey 50),
          .resolved (.sudoSudid .ok)⟩,
        ⟨sudoRequest (devWallet 9) (.assetsMintInto 1 (devWallet 2).publicKey 50),
          .resolved (.sudoSudid (.err (.other "BadOrigin")))⟩]) ∧
      SudoChain (sudoNode (devWallet 9) onlyFirstDispatched) (devWallet 9) onlyFirstDispatched ∧
      ¬ SuccessMeansDispatched [] (twoMints.run (sudoNode (devWallet 9) onlyFirstDispatched) (devWallet 9) []) := by
  have ran : twoMints.run (sudoNode (devWallet 9) onlyFirstDispatched) (devWallet 9) [] =
      (.resolved (), [⟨sudoRequest (devWallet 9) (.assetsMintInto 1 (devWallet 1).publicKey 50),
          .resolved (.sudoSudid .ok)⟩,
        ⟨sudoRequest (devWallet 9) (.assetsMintInto 1 (devWallet 2).publicKey 50),
          .resolved (.sudoSudid (.err (.other "BadOrigin")))⟩]) := by
    decide +kernel
  refine ⟨ran, sudo_node_chain _ _, ?_⟩
  rw [ran]
  rintro ⟨success, _⟩
  exact absurd (success rfl _ (List.mem_cons_of_mem _ (List.mem_singleton_self _))) (by simp)

end PicassoBootstrap

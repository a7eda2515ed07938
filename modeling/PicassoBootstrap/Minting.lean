import PicassoBootstrap.Assets
import Mathlib.Tactic.Ring

set_option autoImplicit false

namespace PicassoBootstrap

open Async

def requestedMint (request : Submission) : Option Mint :=
  match request.call with
  | .sudoSudo (.assetsMintInto asset account amount) => some ⟨asset, account, amount⟩
  | _ => none

def acceptedMint (exchange : Exchange Submission String Event) : Option Mint :=
  if exchange.outcome.isResolved then requestedMint exchange.request else none

def acceptedMints (log : ChainLog) : List Mint := log.filterMap acceptedMint

def Mint.share (mint : Mint) (asset : Nat) (account : AccountId32) : Nat :=
  if mint.asset = asset ∧ mint.account = account then mint.amount else 0

def mintedTotal (log : ChainLog) (asset : Nat) (account : AccountId32) : Nat :=
  ((acceptedMints log).map fun mint => mint.share asset account).sum

def MintArgs.share (api : Api) (args : MintArgs) (asset : Nat) (account : AccountId32) : Nat :=
  match args.decode api with
  | .ok mint => mint.share asset account
  | .error _ => 0

def decodesTo {ν : Type} [DecidableEq ν] (value : ν) : Except String ν → Bool
  | .ok found => decide (found = value)
  | .error _ => false

def occurrences {ν : Type} [DecidableEq ν] (results : List (Except String ν)) (value : ν) : Nat :=
  results.countP (decodesTo value)

-- The listed mints have been submitted one after the other from `log` on, and
-- the chain has accepted every one of them.
structure AllMinted (api : Api) (sudoKey : KeyringPair) (log : ChainLog) (args : List MintArgs) (new : ChainLog) :
    Prop where
  decoded : args.map (MintArgs.decode api) = (acceptedMints new).map .ok
  answered : Task.Accepted log ((acceptedMints new).map (mintAction api sudoKey)) new
  counted : new.length = args.length
  signed : ∀ exchange ∈ new, exchange.request.signer = some sudoKey.publicKey

-- The mints accepted in a run are the listed ones up to the first one that the
-- codec refuses or the chain does not accept. That one ends the run with its
-- own error, and nothing is submitted after it.
inductive MintsInOrder (api : Api) (sudoKey : KeyringPair) (log : ChainLog) :
    List MintArgs → Settlement String Unit × ChainLog → Prop where
  | completed (args : List MintArgs) (new : ChainLog) (minted : AllMinted api sudoKey log args new) :
      MintsInOrder api sudoKey log args (.resolved (), log ++ new)
  | refused (taken : List MintArgs) (next : MintArgs) (rest : List MintArgs) (new : ChainLog) (error : String)
      (minted : AllMinted api sudoKey log taken new) (refusal : next.decode api = .error error) :
      MintsInOrder api sudoKey log (taken ++ next :: rest) (.rejected error, log ++ new)
  | failed (taken : List MintArgs) (next : MintArgs) (rest : List MintArgs) (new : ChainLog) (mint : Mint)
      (outcome : Settlement String Event) (minted : AllMinted api sudoKey log taken new)
      (decoded : next.decode api = .ok mint)
      (answered : (mintAction api sudoKey mint).answer (log ++ new) = outcome)
      (unresolved : outcome.isResolved = false) :
      MintsInOrder api sudoKey log (taken ++ next :: rest)
        (outcome.void, log ++ new ++ [⟨⟨some sudoKey.publicKey, .sudoSudo mint.call⟩, outcome⟩])

theorem requested_mint_action (api : Api) (sudoKey : KeyringPair) (mint : Mint) :
    requestedMint (mintAction api sudoKey mint).request = some mint := rfl

theorem accepted_mint_resolved (exchange : Exchange Submission String Event)
    (resolved : exchange.outcome.isResolved = true) : acceptedMint exchange = requestedMint exchange.request := by
  simp [acceptedMint, resolved]

theorem accepted_mints_done (api : Api) (sudoKey : KeyringPair) (log : ChainLog) (mints : List Mint) (done : ChainLog)
    (accepted : Task.Accepted log (mints.map (mintAction api sudoKey)) done) : acceptedMints done = mints := by
  have requests := Task.accepted_requests _ _ _ accepted
  have resolved := Task.accepted_resolved _ _ _ accepted
  have seen : acceptedMints done = (done.map Exchange.request).filterMap requestedMint := by
    rw [List.filterMap_map, acceptedMints]
    exact List.filterMap_congr fun exchange member => accepted_mint_resolved exchange (resolved exchange member)
  rw [seen, requests, List.map_map, List.filterMap_map]
  exact (List.filterMap_congr fun mint _ => requested_mint_action api sudoKey mint).trans List.filterMap_some

theorem mint_items_ok (api : Api) (sudoKey : KeyringPair) (args : List MintArgs) (actions : List ChainAction)
    (ready : args.map (mintItem api sudoKey) = actions.map .ok) :
    ∃ mints : List Mint, args.map (MintArgs.decode api) = mints.map .ok ∧
      actions = mints.map (mintAction api sudoKey) := by
  induction args generalizing actions with
  | nil =>
      cases actions with
      | nil => exact ⟨[], rfl, rfl⟩
      | cons action rest => exact absurd ready (by simp)
  | cons first others ih =>
      cases actions with
      | nil => exact absurd ready (by simp)
      | cons action rest =>
          simp only [List.map_cons, List.cons.injEq] at ready
          obtain ⟨head, tail⟩ := ready
          obtain ⟨mints, decoded, same⟩ := ih rest tail
          cases result : first.decode api with
          | error error => simp [mintItem, result, Except.map] at head
          | ok mint =>
              have equal : mintAction api sudoKey mint = action := by simpa [mintItem, result, Except.map] using head
              exact ⟨mint :: mints, by simp [result, decoded], by simp [equal, same]⟩

theorem done_all_minted (api : Api) (sudoKey : KeyringPair) (log : ChainLog) (args : List MintArgs)
    (mints : List Mint) (done : ChainLog) (decoded : args.map (MintArgs.decode api) = mints.map .ok)
    (accepted : Task.Accepted log (mints.map (mintAction api sudoKey)) done) :
    AllMinted api sudoKey log args done := by
  have requests := Task.accepted_requests _ _ _ accepted
  have seen := accepted_mints_done _ _ _ _ _ accepted
  refine ⟨?_, ?_, ?_, ?_⟩
  · rw [seen, decoded]
  · rw [seen]
    exact accepted
  · have sent := congrArg List.length requests
    have listed := congrArg List.length decoded
    simp only [List.length_map] at sent listed
    rw [sent, listed]
  · intro exchange member
    have present : exchange.request ∈ done.map Exchange.request := List.mem_map_of_mem member
    rw [requests, List.map_map] at present
    obtain ⟨mint, _, same⟩ := List.mem_map.mp present
    rw [← same]
    rfl

theorem submitted_mints_in_order (api : Api) (sudoKey : KeyringPair) (args : List MintArgs) (log : ChainLog)
    (run : Settlement String Unit × ChainLog)
    (submitted : Task.Submitted log (args.map (mintItem api sudoKey)) run) :
    MintsInOrder api sudoKey log args run := by
  generalize shape : args.map (mintItem api sudoKey) = items at submitted
  cases submitted with
  | completed actions done accepted =>
      obtain ⟨mints, decoded, rfl⟩ := mint_items_ok api sudoKey args actions shape
      exact .completed args done (done_all_minted api sudoKey log args mints done decoded accepted)
  | refused actions done error rest accepted =>
      obtain ⟨taken, others, rfl, before, after⟩ := List.map_eq_append_iff.mp shape
      obtain ⟨next, later, rfl, stopped, _⟩ := List.map_eq_cons_iff.mp after
      obtain ⟨mints, decoded, rfl⟩ := mint_items_ok api sudoKey taken actions before
      have minted := done_all_minted api sudoKey log taken mints done decoded accepted
      cases result : next.decode api with
      | ok mint => simp [mintItem, result, Except.map] at stopped
      | error cause =>
          have same : cause = error := by simpa [mintItem, result, Except.map] using stopped
          exact .refused taken next later done error minted (by rw [result, same])
  | failed actions done action rest accepted unresolved =>
      obtain ⟨taken, others, rfl, before, after⟩ := List.map_eq_append_iff.mp shape
      obtain ⟨next, later, rfl, sent, _⟩ := List.map_eq_cons_iff.mp after
      obtain ⟨mints, decoded, rfl⟩ := mint_items_ok api sudoKey taken actions before
      have minted := done_all_minted api sudoKey log taken mints done decoded accepted
      cases result : next.decode api with
      | error cause => simp [mintItem, result, Except.map] at sent
      | ok mint =>
          have same : mintAction api sudoKey mint = action := by simpa [mintItem, result, Except.map] using sent
          subst same
          exact .failed taken next later done mint _ minted result rfl unresolved

theorem mint_assets_in_order (api : Api) (wallets : List Destination) (sudoKey : KeyringPair) (assetIDs : List String)
    (amount : String) (log : ChainLog) :
    MintsInOrder api sudoKey log (productArgs wallets assetIDs amount)
      (mintAssets api wallets sudoKey assetIDs amount log) := by
  rw [mint_assets_flat]
  exact submitted_mints_in_order api sudoKey _ log _ (Task.submit_all_submitted _ log)

def listedArgs (mint : List (String × String × String)) : List MintArgs :=
  mint.map fun (wallet, assetId, amount) => ⟨assetId, .address wallet, amount⟩

theorem bootstrap_assets_flat (api : Api) (walletSudo : KeyringPair) (mint : List (String × String × String)) :
    bootstrapAssets api walletSudo mint = Task.submitAll ((listedArgs mint).map (mintItem api walletSudo)) := by
  simp only [bootstrapAssets, mintAssetsToAddress, mint_assets_flat, Task.for_m_submit_all, listedArgs, productArgs,
    List.flatMap_cons, List.flatMap_nil, List.append_nil, List.map_cons, List.map_nil, List.map_map]
  simp only [← List.map_eq_flatMap, Function.comp_def]

theorem bootstrap_assets_in_order (api : Api) (walletSudo : KeyringPair) (mint : List (String × String × String))
    (log : ChainLog) : MintsInOrder api walletSudo log (listedArgs mint) (bootstrapAssets api walletSudo mint log) := by
  rw [bootstrap_assets_flat]
  exact submitted_mints_in_order api walletSudo _ log _ (Task.submit_all_submitted _ log)

section Totals

theorem resolved_iff_all_minted (api : Api) (sudoKey : KeyringPair) (log : ChainLog) (args : List MintArgs)
    (run : Settlement String Unit × ChainLog) (order : MintsInOrder api sudoKey log args run) :
    run.1 = .resolved () ↔ (acceptedMints (added log run.2)).length = args.length := by
  cases order with
  | completed _ new minted =>
      have lengths := congrArg List.length minted.decoded
      simp only [List.length_map] at lengths
      simp [added_append, lengths]
  | refused taken next rest new error minted refusal =>
      have lengths := congrArg List.length minted.decoded
      simp only [List.length_map] at lengths
      simp only [added_append, List.length_append, List.length_cons, reduceCtorEq, false_iff]
      omega
  | failed taken next rest new mint outcome minted decoded answered unresolved =>
      have lengths := congrArg List.length minted.decoded
      simp only [List.length_map] at lengths
      have silent : acceptedMint (⟨⟨some sudoKey.publicKey, .sudoSudo mint.call⟩, outcome⟩ :
          Exchange Submission String Event) = none := by simp [acceptedMint, unresolved]
      rw [List.append_assoc, added_append, acceptedMints, List.filterMap_append, List.filterMap_cons_none silent,
        List.filterMap_nil, List.append_nil]
      rw [acceptedMints] at lengths
      simp only [List.length_append, List.length_cons]
      constructor
      · intro resolved
        cases outcome with
        | resolved value => exact absurd unresolved (by simp [Settlement.isResolved])
        | rejected error => exact absurd resolved (by simp)
        | pending => exact absurd resolved (by simp)
      · intro impossible
        omega

theorem minted_total_listed (api : Api) (sudoKey : KeyringPair) (log : ChainLog) (args : List MintArgs)
    (run : Settlement String Unit × ChainLog) (order : MintsInOrder api sudoKey log args run)
    (resolved : run.1 = .resolved ()) (asset : Nat) (account : AccountId32) :
    mintedTotal (added log run.2) asset account = (args.map fun item => item.share api asset account).sum := by
  have shares : ∀ new, AllMinted api sudoKey log args new →
      mintedTotal new asset account = (args.map fun item => item.share api asset account).sum := by
    intro new minted
    have weights := congrArg (List.map fun result : Except String Mint =>
      match result with
      | .ok mint => mint.share asset account
      | .error _ => 0) minted.decoded
    simp only [List.map_map, Function.comp_def] at weights
    rw [mintedTotal, ← weights]
    rfl
  have complete := (resolved_iff_all_minted api sudoKey log args run order).mp resolved
  cases order with
  | completed _ new minted =>
      rw [added_append]
      exact shares new minted
  | refused taken next rest new error minted refusal => exact absurd resolved (by simp)
  | failed taken next rest new mint outcome minted decoded answered unresolved =>
      cases outcome with
      | resolved value => exact absurd unresolved (by simp [Settlement.isResolved])
      | rejected error => exact absurd resolved (by simp)
      | pending => exact absurd resolved (by simp)

theorem share_eq (api : Api) (asset : Nat) (account : AccountId32) (args : MintArgs) (v : Nat)
    (value : createUInt 128 args.amount = .ok v) :
    args.share api asset account =
      if decodesTo asset (createUInt 128 args.asset) ∧ decodesTo account (args.wallet.decode api) then v else 0 := by
  simp only [MintArgs.share, MintArgs.decode, value]
  cases createUInt 128 args.asset with
  | error _ => simp [decodesTo, bind, Except.bind]
  | ok found =>
      cases args.wallet.decode api with
      | error _ => simp [decodesTo, bind, Except.bind]
      | ok receiver => simp [decodesTo, bind, Except.bind, pure, Except.pure, Mint.share]

theorem row_share (api : Api) (asset : Nat) (account : AccountId32) (wallets : List Destination) (assetId amount : String)
    (v : Nat) (value : createUInt 128 amount = .ok v) :
    ((wallets.map fun wallet => (⟨assetId, wallet, amount⟩ : MintArgs)).map fun item =>
        item.share api asset account).sum =
      if decodesTo asset (createUInt 128 assetId)
      then v * occurrences (wallets.map (Destination.decode api)) account else 0 := by
  induction wallets with
  | nil => simp [occurrences]
  | cons wallet rest ih =>
      simp only [List.map_cons, List.sum_cons, ih, share_eq api asset account ⟨assetId, wallet, amount⟩ v value,
        occurrences, List.countP_cons]
      by_cases hit : decodesTo asset (createUInt 128 assetId) = true
      · by_cases here : decodesTo account (wallet.decode api) = true
        · simp only [hit, here, and_self, if_true]
          ring
        · simp only [hit, here]
          simp
      · simp [hit]

theorem product_share (api : Api) (asset : Nat) (account : AccountId32) (wallets : List Destination)
    (assetIDs : List String) (amount : String) (v : Nat) (value : createUInt 128 amount = .ok v) :
    ((productArgs wallets assetIDs amount).map fun item => item.share api asset account).sum =
      v * occurrences (assetIDs.map (createUInt 128)) asset *
        occurrences (wallets.map (Destination.decode api)) account := by
  induction assetIDs with
  | nil => simp [productArgs, occurrences]
  | cons assetId rest ih =>
      rw [productArgs] at ih
      rw [productArgs, List.flatMap_cons, List.map_append, List.sum_append, ih,
        row_share api asset account wallets assetId amount v value]
      simp only [occurrences, List.map_cons, List.countP_cons]
      by_cases hit : decodesTo asset (createUInt 128 assetId) = true
      · simp only [hit, if_true]
        ring
      · simp [hit]

theorem product_length (wallets : List Destination) (assetIDs : List String) (amount : String) :
    (productArgs wallets assetIDs amount).length = assetIDs.length * wallets.length := by
  simp [productArgs, List.length_flatMap]

end Totals

def MintsProduct (api : Api) (sudoKey : KeyringPair) (wallets : List Destination) (assetIDs : List String)
    (amount : String) (log : ChainLog) (run : Settlement String Unit × ChainLog) : Prop :=
  MintsInOrder api sudoKey log (productArgs wallets assetIDs amount) run ∧
    (run.1 = .resolved () ↔ (acceptedMints (added log run.2)).length = assetIDs.length * wallets.length) ∧
    (run.1 = .resolved () → ∀ v, createUInt 128 amount = .ok v → ∀ asset account,
      mintedTotal (added log run.2) asset account =
        v * occurrences (assetIDs.map (createUInt 128)) asset *
          occurrences (wallets.map (Destination.decode api)) account)

theorem mint_assets_product (api : Api) (wallets : List Destination) (sudoKey : KeyringPair) (assetIDs : List String)
    (amount : String) (log : ChainLog) :
    MintsProduct api sudoKey wallets assetIDs amount log (mintAssets api wallets sudoKey assetIDs amount log) := by
  have order := mint_assets_in_order api wallets sudoKey assetIDs amount log
  refine ⟨order, ?_, ?_⟩
  · rw [resolved_iff_all_minted api sudoKey log _ _ order, product_length]
  · intro resolved v value asset account
    rw [minted_total_listed api sudoKey log _ _ order resolved,
      product_share api asset account wallets assetIDs amount v value]

theorem minting_stops_at_first_failure (api : Api) (sudoKey : KeyringPair) (log : ChainLog) :
    (∀ wallets assetIDs amount,
      MintsProduct api sudoKey (wallets.map fun wallet : KeyringPair => .publicKey wallet.publicKey) assetIDs
        amount.toString log (mintAssetsToWallets api wallets sudoKey assetIDs amount log)) ∧
    (∀ wallets assetIDs amount,
      MintsProduct api sudoKey (wallets.map .address) assetIDs amount log
        (mintAssetsToAddress api wallets sudoKey assetIDs amount log)) ∧
    ∀ mint,
      MintsInOrder api sudoKey log (listedArgs mint) (bootstrapAssets api sudoKey mint log) ∧
      ((bootstrapAssets api sudoKey mint log).1 = .resolved () ↔
        (acceptedMints (added log (bootstrapAssets api sudoKey mint log).2)).length = mint.length) ∧
      ((bootstrapAssets api sudoKey mint log).1 = .resolved () → ∀ asset account,
        mintedTotal (added log (bootstrapAssets api sudoKey mint log).2) asset account =
          ((listedArgs mint).map fun item => item.share api asset account).sum) := by
  refine ⟨?_, ?_, ?_⟩
  · intro wallets assetIDs amount
    exact mint_assets_product api _ sudoKey assetIDs _ log
  · intro wallets assetIDs amount
    exact mint_assets_product api _ sudoKey assetIDs _ log
  · intro mint
    have order := bootstrap_assets_in_order api sudoKey mint log
    refine ⟨order, ?_, minted_total_listed api sudoKey log _ _ order⟩
    rw [resolved_iff_all_minted api sudoKey log _ _ order]
    simp [listedArgs]

end PicassoBootstrap

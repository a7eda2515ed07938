import PicassoBootstrap.Lib.Settlement
import PicassoBootstrap.Chain

set_option autoImplicit false

namespace PicassoBootstrap

open Async

variable {Ev : Type}

def MetaError.message (decoded : MetaError) : String :=
  decoded.pallet ++ "." ++ decoded.name ++ ": " ++ String.intercalate " " decoded.docs

-- The first half of every status callback: module errors are looked up, which
-- throws for an error the runtime metadata does not know.
def rejectDispatchError {α : Type} (registry : Registry) :
    Option DispatchError → Handler String String α Unit
  | none => pure ()
  | some (.module error) => do
      let decoded ← Handler.ofOption "findMetaError: Unable to find Error" (registry.findMetaError error)
      Handler.reject decoded.message
  | some (.other description) => Handler.reject description

def onInclusion (filter : Ev → Bool) (res : SubmittableResult Ev) : Handler String String Ev Unit := do
  if res.status.isInBlock || res.status.isFinalized then
    let event ← Handler.ofOption "Cannot read properties of undefined (reading event)" (res.events.find? filter)
    if filter event then
      Handler.resolve event
    else
      Handler.reject "Event record not found"

-- The callback of sendAndWaitFor and of sendUnsignedAndWaitFor. There is no
-- return after a reject: the inclusion half runs all the same.
def onStatus (registry : Registry) (filter : Ev → Bool) (res : SubmittableResult Ev) :
    Handler String String Ev Unit := do
  rejectDispatchError registry res.dispatchError
  onInclusion filter res

def waitStep (registry : Registry) (filter : Ev → Bool) (cell : Settlement String Ev) :
    Signal Ev → Settlement String Ev
  | .delivered res => (onStatus registry filter res).deliver cell
  | .submissionFailed message => cell.reject message

def sendAndWaitFor (registry : Registry) (filter : Ev → Bool) (signals : List (Signal Ev)) : Settlement String Ev :=
  signals.foldl (waitStep registry filter) .pending

def sendUnsignedAndWaitFor (registry : Registry) (filter : Ev → Bool) (signals : List (Signal Ev)) :
    Settlement String Ev :=
  signals.foldl (waitStep registry filter) .pending

-- sendWait resolves with the result itself, on finality only, and its
-- signAndSend has no catch.
def onWaitStatus (registry : Registry) (result : SubmittableResult Ev) :
    Handler String String (SubmittableResult Ev) Unit := do
  rejectDispatchError registry result.dispatchError
  if result.status.isFinalized then
    Handler.resolve result

def sendWaitStep (registry : Registry) (cell : Settlement String (SubmittableResult Ev)) :
    Signal Ev → Settlement String (SubmittableResult Ev)
  | .delivered result => (onWaitStatus registry result).deliver cell
  | .submissionFailed _ => cell

def sendWait (registry : Registry) (signals : List (Signal Ev)) : Settlement String (SubmittableResult Ev) :=
  signals.foldl (sendWaitStep registry) .pending

def reported (registry : Registry) : Option DispatchError → Option String
  | none => none
  | some (.module error) => (registry.findMetaError error).map MetaError.message
  | some (.other description) => some description

def waitEffect (registry : Registry) (filter : Ev → Bool) : Signal Ev → Settlement String Ev
  | .delivered res =>
      match reported registry res.dispatchError with
      | some message => .rejected message
      | none =>
          if res.dispatchError = none ∧ res.status.isInclusion = true then
            match res.events.find? filter with
            | some event => .resolved event
            | none => .pending
          else .pending
  | .submissionFailed message => .rejected message

def sendWaitEffect (registry : Registry) : Signal Ev → Settlement String (SubmittableResult Ev)
  | .delivered result =>
      match reported registry result.dispatchError with
      | some message => .rejected message
      | none => if result.dispatchError = none ∧ result.status.isFinalized = true then .resolved result else .pending
  | .submissionFailed _ => .pending

theorem reject_dispatch_error_run {α : Type} (registry : Registry) (error : Option DispatchError)
    (cell : Settlement String α) :
    (rejectDispatchError registry error).run.run cell =
      match reported registry error with
      | some message => (.ok (), cell.reject message)
      | none =>
          if error = none then (.ok (), cell)
          else (.error "findMetaError: Unable to find Error", cell) := by
  cases error with
  | none => rfl
  | some failure =>
      cases failure with
      | other description => rfl
      | module error =>
          cases found : registry.findMetaError error with
          | none =>
              simp [rejectDispatchError, reported, found, Handler.ofOption]
              rfl
          | some decoded =>
              simp [rejectDispatchError, reported, found, Handler.ofOption, Handler.reject]
              rfl

-- The branch for a missing event is never reached: `find` has thrown before.
theorem deliver_on_inclusion (filter : Ev → Bool) (res : SubmittableResult Ev) (cell : Settlement String Ev) :
    (onInclusion filter res).deliver cell =
      cell.orElse (if res.status.isInclusion = true then
        match res.events.find? filter with
        | some event => .resolved event
        | none => .pending
      else .pending) := by
  unfold onInclusion ExtrinsicStatus.isInclusion
  by_cases included : (res.status.isInBlock || res.status.isFinalized) = true
  · rw [if_pos included, if_pos included]
    cases found : res.events.find? filter with
    | none =>
        rw [Handler.throw_none]
        exact (Settlement.or_else_pending cell).symm
    | some event =>
        rw [Handler.take_some, if_pos (List.find?_some found)]
        rfl
  · rw [if_neg included, if_neg included]
    exact (Settlement.or_else_pending cell).symm

theorem wait_step_settles (registry : Registry) (filter : Ev → Bool) (cell : Settlement String Ev) (signal : Signal Ev) :
    waitStep registry filter cell signal = cell.orElse (waitEffect registry filter signal) := by
  cases signal with
  | submissionFailed message => rfl
  | delivered res =>
      have run := reject_dispatch_error_run registry res.dispatchError cell
      simp only [waitStep, waitEffect, onStatus]
      cases text : reported registry res.dispatchError with
      | some message =>
          -- Rejected already: whatever the inclusion half asks for comes too late.
          rw [text] at run
          rw [Handler.bind_ok _ _ _ _ _ run, deliver_on_inclusion, Settlement.reject, Settlement.or_else_assoc]
          rfl
      | none =>
          rw [text] at run
          by_cases clean : res.dispatchError = none
          · rw [if_pos clean] at run
            rw [Handler.bind_ok _ _ _ _ _ run, deliver_on_inclusion]
            simp [clean]
          · rw [if_neg clean] at run
            rw [Handler.bind_error _ _ _ _ _ run]
            simp [clean]

theorem send_wait_step_settles (registry : Registry) (cell : Settlement String (SubmittableResult Ev))
    (signal : Signal Ev) :
    sendWaitStep registry cell signal = cell.orElse (sendWaitEffect registry signal) := by
  cases signal with
  | submissionFailed message => exact (Settlement.or_else_pending cell).symm
  | delivered result =>
      have run := reject_dispatch_error_run registry result.dispatchError cell
      simp only [sendWaitStep, sendWaitEffect, onWaitStatus]
      cases text : reported registry result.dispatchError with
      | some message =>
          rw [text] at run
          rw [Handler.bind_ok _ _ _ _ _ run]
          split
          · rw [Handler.deliver_resolve, Settlement.resolve, Settlement.reject, Settlement.or_else_assoc]
            rfl
          · rfl
      | none =>
          rw [text] at run
          by_cases clean : result.dispatchError = none
          · rw [if_pos clean] at run
            rw [Handler.bind_ok _ _ _ _ _ run]
            by_cases final : result.status.isFinalized = true
            · simp [clean, final, Handler.deliver_resolve, Settlement.resolve]
            · simp [clean, final, Handler.deliver_pure]
          · rw [if_neg clean] at run
            rw [Handler.bind_error _ _ _ _ _ run]
            simp [clean]

theorem wait_effect_accepted (registry : Registry) (filter : Ev → Bool) (signal : Signal Ev) (event : Ev)
    (resolved : waitEffect registry filter signal = .resolved event) : filter event = true := by
  cases signal with
  | submissionFailed message => exact absurd resolved (by simp [waitEffect])
  | delivered res =>
      simp only [waitEffect] at resolved
      split at resolved
      · exact absurd resolved (by simp)
      · split at resolved
        · cases found : res.events.find? filter with
          | none => simp [found] at resolved
          | some accepted =>
              have same : accepted = event := by simpa [found] using resolved
              exact same ▸ List.find?_some found
        · exact absurd resolved (by simp)

theorem send_and_wait_for_eq (registry : Registry) (filter : Ev → Bool) (signals : List (Signal Ev)) :
    sendAndWaitFor registry filter signals = Settlement.firstSettling (waitEffect registry filter) signals :=
  Settlement.fold_first_settling _ _ (wait_step_settles registry filter) signals .pending

theorem send_unsigned_and_wait_for_eq (registry : Registry) (filter : Ev → Bool) (signals : List (Signal Ev)) :
    sendUnsignedAndWaitFor registry filter signals = Settlement.firstSettling (waitEffect registry filter) signals :=
  Settlement.fold_first_settling _ _ (wait_step_settles registry filter) signals .pending

theorem send_wait_eq (registry : Registry) (signals : List (Signal Ev)) :
    sendWait registry signals = Settlement.firstSettling (sendWaitEffect registry) signals :=
  Settlement.fold_first_settling _ _ (send_wait_step_settles registry) signals .pending

theorem send_and_wait_for_accepted (registry : Registry) (filter : Ev → Bool) (signals : List (Signal Ev)) (event : Ev)
    (resolved : sendAndWaitFor registry filter signals = .resolved event) : filter event = true := by
  rw [send_and_wait_for_eq] at resolved
  obtain ⟨signal, _, effect⟩ := Settlement.first_settling_resolved _ _ _ resolved
  exact wait_effect_accepted registry filter signal event effect

end PicassoBootstrap

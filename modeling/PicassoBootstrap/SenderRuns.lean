import PicassoBootstrap.Senders

set_option autoImplicit false

namespace PicassoBootstrap

open Async

variable {Ev : Type}

section FirstDecisive

def decisive (filter : Ev → Bool) (res : SubmittableResult Ev) : Bool :=
  res.dispatchError.isSome || (res.status.isInclusion && res.events.any filter)

theorem reported_isSome (registry : Registry) (known : ∀ error, ∃ decoded, registry.findMetaError error = some decoded)
    (failure : DispatchError) : ∃ message, reported registry (some failure) = some message := by
  cases failure with
  | other description => exact ⟨description, rfl⟩
  | module error =>
      obtain ⟨decoded, found⟩ := known error
      exact ⟨decoded.message, by simp [reported, found]⟩

theorem indecisive_effect (registry : Registry) (filter : Ev → Bool) (res : SubmittableResult Ev)
    (indecisive : decisive filter res = false) : waitEffect registry filter (.delivered res) = .pending := by
  simp only [decisive, Bool.or_eq_false_iff, Option.isSome_eq_false_iff, Option.isNone_iff_eq_none] at indecisive
  obtain ⟨clean, quiet⟩ := indecisive
  simp only [waitEffect, clean, reported, true_and]
  split
  · rename_i included
    have none_accepted : res.events.find? filter = none := by
      rw [included, Bool.true_and, List.any_eq_false] at quiet
      exact List.find?_eq_none.mpr quiet
    rw [none_accepted]
  · rfl

theorem accepted_effect (registry : Registry) (filter : Ev → Bool) (res : SubmittableResult Ev) (event : Ev)
    (clean : res.dispatchError = none) (included : res.status.isInclusion = true)
    (found : res.events.find? filter = some event) :
    waitEffect registry filter (.delivered res) = .resolved event := by
  simp [waitEffect, clean, reported, included, found]

theorem failed_effect (registry : Registry) (filter : Ev → Bool) (res : SubmittableResult Ev) (message : String)
    (text : reported registry res.dispatchError = some message) :
    waitEffect registry filter (.delivered res) = .rejected message := by
  simp [waitEffect, text]

theorem decisive_accepts (filter : Ev → Bool) (res : SubmittableResult Ev) (clean : res.dispatchError = none)
    (loud : decisive filter res = true) :
    res.status.isInclusion = true ∧ ∃ event, res.events.find? filter = some event := by
  simp only [decisive, clean, Option.isSome_none, Bool.false_or, Bool.and_eq_true] at loud
  obtain ⟨included, accepts⟩ := loud
  refine ⟨included, ?_⟩
  obtain ⟨event, member, accepted⟩ := List.any_eq_true.mp accepts
  have present : (res.events.find? filter).isSome = true := List.find?_isSome.mpr ⟨event, member, accepted⟩
  exact Option.isSome_iff_exists.mp present

theorem decisive_effect (registry : Registry) (filter : Ev → Bool)
    (known : ∀ error, ∃ decoded, registry.findMetaError error = some decoded) (res : SubmittableResult Ev)
    (loud : decisive filter res = true) : waitEffect registry filter (.delivered res) ≠ .pending := by
  cases failure : res.dispatchError with
  | some error =>
      obtain ⟨message, text⟩ := reported_isSome registry known error
      rw [failed_effect registry filter res message (by rw [failure, text])]
      simp
  | none =>
      obtain ⟨included, event, found⟩ := decisive_accepts filter res failure loud
      rw [accepted_effect registry filter res event failure included found]
      simp

theorem send_and_wait_for_delivered (registry : Registry) (filter : Ev → Bool)
    (known : ∀ error, ∃ decoded, registry.findMetaError error = some decoded)
    (results : List (SubmittableResult Ev)) :
    sendAndWaitFor registry filter (results.map .delivered) =
      match results.find? (decisive filter) with
      | none => .pending
      | some res => waitEffect registry filter (.delivered res) := by
  rw [send_and_wait_for_eq, Settlement.first_settling_map,
    Settlement.first_settling_find _ (decisive filter) (indecisive_effect registry filter)
      (decisive_effect registry filter known) results]
  cases results.find? (decisive filter) <;> rfl

theorem first_decisive_result_settles (registry : Registry) (filter : Ev → Bool)
    (known : ∀ error, ∃ decoded, registry.findMetaError error = some decoded)
    (results : List (SubmittableResult Ev)) :
    (match results.find? (decisive filter) with
      | none => sendAndWaitFor registry filter (results.map .delivered) = .pending
      | some res =>
          match res.dispatchError with
          | some error => ∃ message, reported registry (some error) = some message ∧
              sendAndWaitFor registry filter (results.map .delivered) = .rejected message
          | none => ∃ event, res.events.find? filter = some event ∧
              sendAndWaitFor registry filter (results.map .delivered) = .resolved event) ∧
      sendUnsignedAndWaitFor registry filter (results.map .delivered) =
        sendAndWaitFor registry filter (results.map .delivered) := by
  refine ⟨?_, ?_⟩
  · rw [send_and_wait_for_delivered registry filter known]
    cases found : results.find? (decisive filter) with
    | none => rfl
    | some res =>
        have loud : decisive filter res = true := List.find?_some found
        dsimp only
        cases failure : res.dispatchError with
        | some error =>
            obtain ⟨message, text⟩ := reported_isSome registry known error
            exact ⟨message, text, failed_effect registry filter res message (by rw [failure, text])⟩
        | none =>
            obtain ⟨included, event, accepts⟩ := decisive_accepts filter res failure loud
            exact ⟨event, accepts, accepted_effect registry filter res event failure included accepts⟩
  · rw [send_unsigned_and_wait_for_eq, send_and_wait_for_eq]

theorem failed_dispatch_stays_rejected :
    sendAndWaitFor ⟨fun _ => some ⟨["Amount too low"], "LowAmount", "assets"⟩⟩ Event.isSudid
      ([⟨.ready, [], none⟩, ⟨.inBlock, [.sudoSudid .ok], some (.module ⟨1, 2⟩)⟩,
        ⟨.finalized, [.sudoSudid .ok], none⟩].map .delivered) =
      .rejected "assets.LowAmount: Amount too low" := by
  obtain ⟨message, text, settled⟩ := (first_decisive_result_settles
    ⟨fun _ => some ⟨["Amount too low"], "LowAmount", "assets"⟩⟩ Event.isSudid (fun _ => ⟨_, rfl⟩)
    [⟨.ready, [], none⟩, ⟨.inBlock, [.sudoSudid .ok], some (.module ⟨1, 2⟩)⟩,
      ⟨.finalized, [.sudoSudid .ok], none⟩]).1
  have same : message = "assets.LowAmount: Amount too low" := by
    simpa [reported, MetaError.message] using text.symm
  rw [← same]
  exact settled

end FirstDecisive

section Inclusion

def SettlesOnInclusion (send : Registry → (Ev → Bool) → List (Signal Ev) → Settlement String Ev)
    (registry : Registry) (filter : Ev → Bool) (before : List (SubmittableResult Ev))
    (res : SubmittableResult Ev) : Prop :=
  send registry filter ((before ++ [res]).map .delivered) =
    match res.events.find? filter with
    | some event => .resolved event
    | none => .rejected "Event record not found"

theorem first_inclusion_effect (registry : Registry) (filter : Ev → Bool) (before : List (SubmittableResult Ev))
    (res : SubmittableResult Ev)
    (quiet : ∀ early ∈ before, early.status.isInclusion = false ∧ early.dispatchError = none) :
    Settlement.firstSettling (waitEffect registry filter) ((before ++ [res]).map .delivered) =
      waitEffect registry filter (.delivered res) := by
  rw [Settlement.first_settling_map, Settlement.first_settling_after_silent]
  · simp [Settlement.firstSettling]
  · intro early member
    obtain ⟨excluded, clean⟩ := quiet early member
    exact indecisive_effect registry filter early (by simp [decisive, excluded, clean])

theorem inclusion_effect_matches (registry : Registry) (filter : Ev → Bool) (res : SubmittableResult Ev)
    (included : res.status.isInclusion = true) (clean : res.dispatchError = none) :
    (waitEffect registry filter (.delivered res) =
      match res.events.find? filter with
      | some event => .resolved event
      | none => .rejected "Event record not found") ↔ ∃ event ∈ res.events, filter event = true := by
  cases found : res.events.find? filter with
  | some event =>
      rw [accepted_effect registry filter res event clean included found]
      exact ⟨fun _ => ⟨event, List.mem_of_find?_eq_some found, List.find?_some found⟩, fun _ => rfl⟩
  | none =>
      have absent := List.find?_eq_none.mp found
      simp only [waitEffect, clean, reported, included, found]
      constructor
      · intro impossible
        exact absurd impossible (by simp)
      · rintro ⟨event, member, accepts⟩
        exact absurd accepts (absent event member)

theorem inclusion_settles_iff (registry : Registry) (filter : Ev → Bool) (before : List (SubmittableResult Ev))
    (res : SubmittableResult Ev)
    (quiet : ∀ early ∈ before, early.status.isInclusion = false ∧ early.dispatchError = none)
    (included : res.status.isInclusion = true) (clean : res.dispatchError = none) :
    (SettlesOnInclusion sendAndWaitFor registry filter before res ↔ ∃ event ∈ res.events, filter event = true) ∧
      (SettlesOnInclusion sendUnsignedAndWaitFor registry filter before res ↔
        ∃ event ∈ res.events, filter event = true) := by
  have matching := inclusion_effect_matches registry filter res included clean
  rw [← first_inclusion_effect registry filter before res quiet] at matching
  constructor
  · rw [SettlesOnInclusion, send_and_wait_for_eq]
    exact matching
  · rw [SettlesOnInclusion, send_unsigned_and_wait_for_eq]
    exact matching

theorem included_event_settles :
    SettlesOnInclusion sendAndWaitFor ⟨fun _ => none⟩ Event.isSudid [⟨.broadcast, [], none⟩]
      ⟨.inBlock, [.balancesTransfer, .sudoSudid .ok], none⟩ :=
  (inclusion_settles_iff ⟨fun _ => none⟩ Event.isSudid [⟨.broadcast, [], none⟩]
    ⟨.inBlock, [.balancesTransfer, .sudoSudid .ok], none⟩ (by decide) (by decide) (by decide)).1.mpr
    ⟨.sudoSudid .ok, by decide, by decide⟩

-- An inclusion whose block carries none of the awaited events leaves the
-- promise pending for ever, in both senders.
theorem missing_event_hangs :
    sendAndWaitFor ⟨fun _ => none⟩ Event.isSudid [.delivered ⟨.inBlock, [], none⟩] = .pending ∧
      ¬ SettlesOnInclusion sendAndWaitFor ⟨fun _ => none⟩ Event.isSudid [] ⟨.inBlock, [], none⟩ ∧
      sendUnsignedAndWaitFor ⟨fun _ => none⟩ Event.isSudid [.delivered ⟨.inBlock, [], none⟩] = .pending ∧
      ¬ SettlesOnInclusion sendUnsignedAndWaitFor ⟨fun _ => none⟩ Event.isSudid [] ⟨.inBlock, [], none⟩ := by
  unfold SettlesOnInclusion
  decide

end Inclusion

section Death

def NeverIncluded (results : List (SubmittableResult Ev)) : Prop :=
  ∀ res ∈ results, res.status.isInclusion = false

def ReportsDeath {α : Type} (send : List (Signal Ev) → Settlement String α) : Prop :=
  ∀ results, NeverIncluded results →
    (∀ message, (send (results.map .delivered ++ [.submissionFailed message])).isRejected = true) ∧
      ∀ last, last.status.isDead = true → (send ((results ++ [last]).map .delivered)).isRejected = true

def firstReported (registry : Registry) (results : List (SubmittableResult Ev)) : Option String :=
  results.findSome? fun res => reported registry res.dispatchError

def ofReported {α : Type} : Option String → Settlement String α
  | some message => .rejected message
  | none => .pending

theorem first_settling_reported {α : Type} (registry : Registry) (effect : SubmittableResult Ev → Settlement String α)
    (results : List (SubmittableResult Ev))
    (reports : ∀ res ∈ results, effect res = ofReported (reported registry res.dispatchError)) :
    Settlement.firstSettling effect results = ofReported (firstReported registry results) := by
  induction results with
  | nil => rfl
  | cons res rest ih =>
      have tail := ih fun other member => reports other (by simp [member])
      simp only [Settlement.firstSettling, reports res (by simp), tail, firstReported, List.findSome?_cons]
      cases reported registry res.dispatchError <;> rfl

theorem unincluded_effect (registry : Registry) (filter : Ev → Bool) (res : SubmittableResult Ev)
    (excluded : res.status.isInclusion = false) :
    waitEffect registry filter (.delivered res) = ofReported (reported registry res.dispatchError) := by
  simp only [waitEffect, excluded]
  cases reported registry res.dispatchError <;> simp [ofReported]

theorem unfinalized_effect (registry : Registry) (res : SubmittableResult Ev)
    (excluded : res.status.isInclusion = false) :
    sendWaitEffect registry (.delivered res) = ofReported (reported registry res.dispatchError) := by
  simp only [ExtrinsicStatus.isInclusion, Bool.or_eq_false_iff] at excluded
  simp only [sendWaitEffect, excluded.2]
  cases reported registry res.dispatchError <;> simp [ofReported]

theorem unincluded_wait (registry : Registry) (filter : Ev → Bool) (results : List (SubmittableResult Ev))
    (excluded : NeverIncluded results) :
    Settlement.firstSettling (waitEffect registry filter) (results.map .delivered) =
      ofReported (firstReported registry results) := by
  rw [Settlement.first_settling_map]
  exact first_settling_reported registry _ results fun res member =>
    unincluded_effect registry filter res (excluded res member)

theorem dead_is_not_included (status : ExtrinsicStatus) (dead : status.isDead = true) : status.isInclusion = false := by
  cases status <;> simp_all [ExtrinsicStatus.isDead, ExtrinsicStatus.isInclusion, ExtrinsicStatus.isInBlock,
    ExtrinsicStatus.isFinalized]

theorem rejected_submission_reported (registry : Registry) (filter : Ev → Bool)
    (results : List (SubmittableResult Ev)) (message : String) (excluded : NeverIncluded results) :
    (Settlement.firstSettling (waitEffect registry filter)
      (results.map .delivered ++ [.submissionFailed message])).isRejected = true := by
  rw [Settlement.first_settling_append, unincluded_wait registry filter results excluded]
  cases firstReported registry results <;> rfl

-- A rejected submission is reported by the two senders that catch it. A dead
-- status settles nothing in any of the three: only a dispatch error would.
theorem unincluded_transactions (registry : Registry) (filter : Ev → Bool) (results : List (SubmittableResult Ev))
    (excluded : NeverIncluded results) :
    (∀ message, (sendAndWaitFor registry filter
          (results.map .delivered ++ [.submissionFailed message])).isRejected = true ∧
        (sendUnsignedAndWaitFor registry filter
          (results.map .delivered ++ [.submissionFailed message])).isRejected = true) ∧
      ∀ last : SubmittableResult Ev, last.status.isDead = true →
        sendAndWaitFor registry filter ((results ++ [last]).map .delivered) =
            ofReported (firstReported registry (results ++ [last])) ∧
          sendUnsignedAndWaitFor registry filter ((results ++ [last]).map .delivered) =
            ofReported (firstReported registry (results ++ [last])) ∧
          sendWait registry ((results ++ [last]).map .delivered) =
            ofReported (firstReported registry (results ++ [last])) := by
  constructor
  · intro message
    rw [send_and_wait_for_eq, send_unsigned_and_wait_for_eq]
    have reports := rejected_submission_reported registry filter results message excluded
    exact ⟨reports, reports⟩
  · intro last dead
    have all_excluded : NeverIncluded (results ++ [last]) := by
      intro res member
      rcases List.mem_append.mp member with member | member
      · exact excluded res member
      · rw [List.mem_singleton.mp member]
        exact dead_is_not_included _ dead
    have waiting := unincluded_wait registry filter (results ++ [last]) all_excluded
    refine ⟨?_, ?_, ?_⟩
    · rw [send_and_wait_for_eq]
      exact waiting
    · rw [send_unsigned_and_wait_for_eq]
      exact waiting
    · rw [send_wait_eq, Settlement.first_settling_map]
      exact first_settling_reported registry _ _ fun res member =>
        unfinalized_effect registry res (all_excluded res member)

theorem dropped_transaction_pending :
    sendWait ⟨fun _ => none⟩
      (([⟨.ready, [], none⟩, ⟨.broadcast, [], none⟩] ++ [⟨.dropped, [], none⟩] :
        List (SubmittableResult Event)).map .delivered) = .pending :=
  ((unincluded_transactions ⟨fun _ => none⟩ Event.isSudid [⟨.ready, [], none⟩, ⟨.broadcast, [], none⟩]
    (by unfold NeverIncluded; decide)).2 ⟨.dropped, [], none⟩ (by decide)).2.2

theorem unreported_deaths :
    ¬ ReportsDeath (sendAndWaitFor ⟨fun _ => none⟩ Event.isSudid) ∧
      ¬ ReportsDeath (sendUnsignedAndWaitFor ⟨fun _ => none⟩ Event.isSudid) ∧
      ¬ ReportsDeath (fun signals : List (Signal Event) => sendWait ⟨fun _ => none⟩ signals) := by
  have none_before : NeverIncluded ([] : List (SubmittableResult Event)) := by simp [NeverIncluded]
  refine ⟨fun claim => ?_, fun claim => ?_, fun claim => ?_⟩
  · exact absurd ((claim [] none_before).2 ⟨.invalid, [], none⟩ (by decide)) (by decide)
  · exact absurd ((claim [] none_before).2 ⟨.invalid, [], none⟩ (by decide)) (by decide)
  · exact absurd ((claim [] none_before).2 ⟨.dropped, [], none⟩ (by decide)) (by decide)

end Death

section Finality

def conclusive (res : SubmittableResult Ev) : Bool := res.dispatchError.isSome || res.status.isFinalized

def Signal.result : Signal Ev → Option (SubmittableResult Ev)
  | .delivered res => some res
  | .submissionFailed _ => none

theorem inconclusive_effect (registry : Registry) (res : SubmittableResult Ev) (quiet : conclusive res = false) :
    sendWaitEffect registry (.delivered res) = .pending := by
  simp only [conclusive, Bool.or_eq_false_iff, Option.isSome_eq_false_iff, Option.isNone_iff_eq_none] at quiet
  simp [sendWaitEffect, quiet.1, quiet.2, reported]

theorem conclusive_effect (registry : Registry)
    (known : ∀ error, ∃ decoded, registry.findMetaError error = some decoded) (res : SubmittableResult Ev)
    (loud : conclusive res = true) : sendWaitEffect registry (.delivered res) ≠ .pending := by
  cases failure : res.dispatchError with
  | some error =>
      obtain ⟨message, text⟩ := reported_isSome registry known error
      simp [sendWaitEffect, failure, text]
  | none =>
      have final : res.status.isFinalized = true := by simpa [conclusive, failure] using loud
      simp [sendWaitEffect, failure, reported, final]

-- A failed submission reaches no handler of sendWait: for the promise it is as if
-- it had not happened.
theorem send_wait_delivered (registry : Registry) (signals : List (Signal Ev)) :
    sendWait registry signals =
      Settlement.firstSettling (fun res => sendWaitEffect registry (.delivered res))
        (signals.filterMap Signal.result) := by
  rw [send_wait_eq]
  induction signals with
  | nil => rfl
  | cons signal rest ih =>
      cases signal with
      | delivered res =>
          have listed : (Signal.delivered res :: rest).filterMap Signal.result = res :: rest.filterMap Signal.result :=
            List.filterMap_cons_some rfl
          rw [listed, Settlement.firstSettling, Settlement.firstSettling, ih]
      | submissionFailed message =>
          rw [List.filterMap_cons_none rfl, Settlement.firstSettling, ih]
          rfl

theorem first_conclusive_result_settles (registry : Registry)
    (known : ∀ error, ∃ decoded, registry.findMetaError error = some decoded) (signals : List (Signal Ev)) :
    match (signals.filterMap Signal.result).find? conclusive with
    | none => sendWait registry signals = .pending
    | some res =>
        match res.dispatchError with
        | some error => ∃ message, reported registry (some error) = some message ∧
            sendWait registry signals = .rejected message
        | none => res.status.isFinalized = true ∧ sendWait registry signals = .resolved res := by
  rw [send_wait_delivered, Settlement.first_settling_find _ conclusive (inconclusive_effect registry)
    (conclusive_effect registry known)]
  cases found : (signals.filterMap Signal.result).find? conclusive with
  | none => rfl
  | some res =>
      have loud : conclusive res = true := List.find?_some found
      dsimp only
      cases failure : res.dispatchError with
      | some error =>
          obtain ⟨message, text⟩ := reported_isSome registry known error
          exact ⟨message, text, by simp [sendWaitEffect, failure, text]⟩
      | none =>
          have final : res.status.isFinalized = true := by simpa [conclusive, failure] using loud
          exact ⟨final, by simp [sendWaitEffect, failure, reported, final]⟩

theorem failed_submission_is_forgotten :
    sendWait ⟨fun _ => some ⟨["Amount too low"], "LowAmount", "assets"⟩⟩
      [(.submissionFailed "1010: Invalid Transaction" : Signal Event)] = .pending :=
  first_conclusive_result_settles ⟨fun _ => some ⟨["Amount too low"], "LowAmount", "assets"⟩⟩ (fun _ => ⟨_, rfl⟩)
    [(.submissionFailed "1010: Invalid Transaction" : Signal Event)]

-- sendAndWaitFor never settles after sendWait, and never on another error, on
-- histories that end well only with the awaited event.
theorem inclusion_ahead_of_finality (registry : Registry) (filter : Ev → Bool) (results : List (SubmittableResult Ev))
    (carried : ∀ res ∈ results, res.status.isFinalized = true → res.dispatchError = none →
      ∃ event ∈ res.events, filter event = true) :
    Settlement.Ahead (sendAndWaitFor registry filter (results.map .delivered))
      (sendWait registry (results.map .delivered)) := by
  rw [send_and_wait_for_eq, send_wait_eq, Settlement.first_settling_map, Settlement.first_settling_map]
  refine Settlement.ahead_first_settling _ _ results fun res member => ?_
  cases text : reported registry res.dispatchError with
  | some message => simp only [waitEffect, sendWaitEffect, text, Settlement.Ahead]
  | none =>
      by_cases final : res.dispatchError = none ∧ res.status.isFinalized = true
      · obtain ⟨event, listed, accepts⟩ := carried res member final.2 final.1
        have included : res.status.isInclusion = true := by simp [ExtrinsicStatus.isInclusion, final.2]
        have present : (res.events.find? filter).isSome = true := List.find?_isSome.mpr ⟨event, listed, accepts⟩
        obtain ⟨first, found⟩ := Option.isSome_iff_exists.mp present
        rw [accepted_effect registry filter res first final.1 included found]
        trivial
      · have late : sendWaitEffect registry (.delivered res) = .pending := by simp [sendWaitEffect, text, final]
        rw [late]
        cases early : waitEffect registry filter (.delivered res) with
        | resolved event => trivial
        | pending => rfl
        | rejected message =>
            -- Only a named dispatch error rejects, and there is none here.
            simp only [waitEffect, text] at early
            split at early
            · cases found : res.events.find? filter <;> simp [found] at early
            · exact absurd early (by simp)

theorem failed_inclusion_fails_finally :
    sendWait ⟨fun _ => none⟩ ([⟨.ready, [], none⟩, ⟨.inBlock, [Event.balancesTransfer], some (.other "BadOrigin")⟩,
      ⟨.finalized, [.balancesTransfer], some (.other "BadOrigin")⟩].map .delivered) = .rejected "BadOrigin" :=
  inclusion_ahead_of_finality ⟨fun _ => none⟩ Event.isSudid [⟨.ready, [], none⟩,
    ⟨.inBlock, [.balancesTransfer], some (.other "BadOrigin")⟩,
    ⟨.finalized, [.balancesTransfer], some (.other "BadOrigin")⟩] (by decide)

end Finality

end PicassoBootstrap

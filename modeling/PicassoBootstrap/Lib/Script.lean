import PicassoBootstrap.Lib.Task
import Mathlib.Data.List.Basic

set_option autoImplicit false

namespace Async

-- One step of a script: what shows in the log once it is accepted, and how its
-- request is made from what has happened so far, which may fail or never end.
structure Step (Req Err Resp κ : Type) where
  shows : κ
  prepare : Log Req Err Resp → Settlement Err (Action Req Err Resp)

variable {Req Err Resp α β κ ν : Type}

def Step.map (f : κ → ν) (step : Step Req Err Resp κ) : Step Req Err Resp ν := ⟨f step.shows, step.prepare⟩

def Step.ofItem (shows : κ) (item : Except Err (Action Req Err Resp)) : Step Req Err Resp κ :=
  ⟨shows, fun _ => Settlement.ofExcept item⟩

theorem Step.shows_map (f : κ → ν) (script : List (Step Req Err Resp κ)) :
    (script.map (Step.map f)).map Step.shows = (script.map Step.shows).map f := by
  rw [List.map_map, List.map_map]
  rfl

def Action.exchange (action : Action Req Err Resp) (log : Log Req Err Resp) : Exchange Req Err Resp :=
  ⟨action.request, action.answer log⟩

namespace Task

def shown (view : Req → Resp → Option κ) (exchange : Exchange Req Err Resp) : Option κ :=
  match exchange.outcome with
  | .resolved response => view exchange.request response
  | _ => none

theorem shown_unresolved (view : Req → Resp → Option κ) (exchange : Exchange Req Err Resp)
    (unresolved : exchange.outcome.isResolved = false) : shown view exchange = none := by
  cases answer : exchange.outcome with
  | resolved response => simp [answer, Settlement.isResolved] at unresolved
  | rejected error => simp only [shown, answer]
  | pending => simp only [shown, answer]

-- From `log` on, each step was prepared, its request was answered as the outside
-- world answers it, and the answer shows the step.
def Went (view : Req → Resp → Option κ) :
    Log Req Err Resp → List (Step Req Err Resp κ) → Log Req Err Resp → Prop
  | _, [], [] => True
  | log, step :: rest, exchange :: done =>
      (∃ action, step.prepare log = .resolved action ∧ exchange = action.exchange log) ∧
        shown view exchange = some step.shows ∧ Went view (log ++ [exchange]) rest done
  | _, _, _ => False

-- A run from `log` goes along a script: to its end, or to the first step that
-- cannot be prepared or is not accepted. Then it ends as that step did.
inductive Follows (view : Req → Resp → Option κ) (log : Log Req Err Resp) :
    Settlement Err Unit → Log Req Err Resp → List (Step Req Err Resp κ) → Prop where
  | completed (done : Log Req Err Resp) (script : List (Step Req Err Resp κ)) (went : Went view log script done) :
      Follows view log (.resolved ()) (log ++ done) script
  | unprepared (done : Log Req Err Resp) (taken : List (Step Req Err Resp κ)) (step : Step Req Err Resp κ)
      (rest : List (Step Req Err Resp κ)) (went : Went view log taken done)
      (unready : (step.prepare (log ++ done)).isResolved = false) :
      Follows view log (step.prepare (log ++ done)).void (log ++ done) (taken ++ step :: rest)
  | unaccepted (done : Log Req Err Resp) (taken : List (Step Req Err Resp κ)) (step : Step Req Err Resp κ)
      (rest : List (Step Req Err Resp κ)) (action : Action Req Err Resp) (went : Went view log taken done)
      (ready : step.prepare (log ++ done) = .resolved action)
      (unresolved : (action.answer (log ++ done)).isResolved = false) :
      Follows view log (action.answer (log ++ done)).void (log ++ done ++ [action.exchange (log ++ done)])
        (taken ++ step :: rest)

section Rules

variable (view : Req → Resp → Option κ) (log : Log Req Err Resp)

theorem went_append (middle done : Log Req Err Resp) (left right : List (Step Req Err Resp κ))
    (head : Went view log left middle) (tail : Went view (log ++ middle) right done) :
    Went view log (left ++ right) (middle ++ done) := by
  induction left generalizing log middle with
  | nil =>
      cases middle with
      | nil => simpa using tail
      | cons exchange rest => exact head.elim
  | cons step rest ih =>
      cases middle with
      | nil => exact head.elim
      | cons exchange others =>
          obtain ⟨sent, seen, later⟩ := head
          refine ⟨sent, seen, ih _ _ later ?_⟩
          simpa using tail

theorem went_shown (script : List (Step Req Err Resp κ)) (done : Log Req Err Resp) (went : Went view log script done) :
    done.map (shown view) = (script.map Step.shows).map some := by
  induction script generalizing log done with
  | nil =>
      cases done with
      | nil => rfl
      | cons exchange rest => exact went.elim
  | cons step rest ih =>
      cases done with
      | nil => exact went.elim
      | cons exchange others =>
          obtain ⟨_, seen, later⟩ := went
          simp only [List.map_cons, seen, ih _ _ later]

theorem follows_nil : Follows view log (.resolved ()) log [] := by
  have whole : Follows view log (.resolved ()) (log ++ []) [] := .completed [] [] trivial
  simpa using whole

theorem follows_unprepared (step : Step Req Err Resp κ) (rest : List (Step Req Err Resp κ))
    (unready : (step.prepare log).isResolved = false) :
    Follows view log (step.prepare log).void log (step :: rest) := by
  have stopped : Follows view log (step.prepare (log ++ [])).void (log ++ []) ([] ++ step :: rest) :=
    .unprepared [] [] step rest trivial (by simpa using unready)
  simpa using stopped

theorem follows_unaccepted (step : Step Req Err Resp κ) (rest : List (Step Req Err Resp κ))
    (action : Action Req Err Resp) (ready : step.prepare log = .resolved action)
    (unresolved : (action.answer log).isResolved = false) :
    Follows view log (action.answer log).void (log ++ [action.exchange log]) (step :: rest) := by
  have stopped : Follows view log (action.answer (log ++ [])).void (log ++ [] ++ [action.exchange (log ++ [])])
      ([] ++ step :: rest) :=
    .unaccepted [] [] step rest action trivial (by simpa using ready) (by simpa using unresolved)
  simpa using stopped

theorem follows_prepared (step : Step Req Err Resp κ) (action : Action Req Err Resp)
    (ready : step.prepare log = .resolved action)
    (matching : ∀ response, action.answer log = .resolved response →
      view action.request response = some step.shows) :
    Follows view log (action.answer log).void (log ++ [action.exchange log]) [step] := by
  cases resolved : (action.answer log).isResolved with
  | false => exact follows_unaccepted view log step [] action ready resolved
  | true =>
      obtain ⟨response, answer⟩ := (Settlement.is_resolved_iff _).mp resolved
      rw [answer]
      refine .completed [action.exchange log] [step] ⟨⟨action, ready, rfl⟩, ?_, trivial⟩
      simp only [shown, Action.exchange, answer, matching response answer]

theorem follows_append (outcome : Settlement Err Unit) (after last : Log Req Err Resp)
    (left right : List (Step Req Err Resp κ)) (head : Follows view log (.resolved ()) after left)
    (tail : Follows view after outcome last right) : Follows view log outcome last (left ++ right) := by
  generalize whole : (Settlement.resolved () : Settlement Err Unit) = ended at head
  cases head with
  | completed done script went =>
      cases tail with
      | completed more script' went' =>
          rw [List.append_assoc]
          exact .completed (done ++ more) _ (went_append view log done more left right went went')
      | unprepared more taken step rest went' unready =>
          rw [List.append_assoc log done more, ← List.append_assoc left] at *
          exact .unprepared (done ++ more) (left ++ taken) step rest
            (went_append view log done more left taken went went') unready
      | unaccepted more taken step rest action went' ready unresolved =>
          rw [List.append_assoc log done more, ← List.append_assoc left] at *
          exact .unaccepted (done ++ more) (left ++ taken) step rest action
            (went_append view log done more left taken went went') ready unresolved
  | unprepared done taken step rest went unready =>
      cases prepared : step.prepare (log ++ done) <;> simp [prepared, Settlement.isResolved] at unready whole
  | unaccepted done taken step rest action went ready unresolved =>
      cases answer : action.answer (log ++ done) <;> simp [answer, Settlement.isResolved] at unresolved whole

theorem follows_stop (outcome : Settlement Err Unit) (after : Log Req Err Resp)
    (left right : List (Step Req Err Resp κ)) (stopped : outcome.isResolved = false)
    (head : Follows view log outcome after left) : Follows view log outcome after (left ++ right) := by
  cases head with
  | completed done script went => exact absurd stopped (by simp [Settlement.isResolved])
  | unprepared done taken step rest went unready =>
      rw [List.append_assoc taken]
      exact .unprepared done taken step (rest ++ right) went unready
  | unaccepted done taken step rest action went ready unresolved =>
      rw [List.append_assoc taken]
      exact .unaccepted done taken step (rest ++ right) action went ready unresolved

-- The sequencing rule: the second script has to be followed only from where the
-- first task resolved, with the value it resolved with.
theorem follows_bind (task : Task Req Err Resp α) (next : α → Task Req Err Resp β)
    (left right : List (Step Req Err Resp κ)) (head : Follows view log (task log).1.void (task log).2 left)
    (tail : ∀ value after, task log = (.resolved value, after) →
      Follows view after (next value after).1.void (next value after).2 right) :
    Follows view log ((task >>= next) log).1.void ((task >>= next) log).2 (left ++ right) := by
  rcases ran : task log with ⟨outcome, after⟩
  rw [ran] at head
  cases outcome with
  | resolved value =>
      rw [bind_resolved _ _ _ _ _ ran]
      exact follows_append view log _ after _ left right head (tail value after ran)
  | rejected error =>
      rw [bind_rejected _ _ _ _ _ ran]
      exact follows_stop view log _ after left right rfl head
  | pending =>
      rw [bind_pending _ _ _ _ ran]
      exact follows_stop view log _ after left right rfl head

theorem follows_submit (item : Except Err (Action Req Err Resp)) (shows : κ)
    (matching : ∀ action response, item = .ok action → action.answer log = .resolved response →
      view action.request response = some shows) :
    Follows view log (submit item log).1.void (submit item log).2 [Step.ofItem shows item] := by
  cases item with
  | error error => exact follows_unprepared view log (Step.ofItem shows (.error error)) [] rfl
  | ok action =>
      exact follows_prepared view log (Step.ofItem shows (.ok action)) action rfl fun response =>
        matching action response rfl

-- What a task evaluates before its first step belongs to the making of that step.
theorem follows_guard (guard : Except Err α) (next : α → Task Req Err Resp β) (shows : κ)
    (item : α → Except Err (Action Req Err Resp)) (rest : List (Step Req Err Resp κ))
    (tail : ∀ value, guard = .ok value →
      Follows view log (next value log).1.void (next value log).2 (Step.ofItem shows (item value) :: rest)) :
    Follows view log ((ofExcept guard >>= next) log).1.void ((ofExcept guard >>= next) log).2
      (Step.ofItem shows (guard >>= item) :: rest) := by
  cases guard with
  | error error =>
      have refused : ofExcept (.error error : Except Err α) log = (.rejected error, log) := rfl
      rw [bind_rejected _ next _ _ error refused]
      exact follows_unprepared view log (Step.ofItem shows (.error error)) rest rfl
  | ok value => exact tail value rfl

theorem follows_submit_all {ι : Type} (item : ι → Except Err (Action Req Err Resp)) (shows : ι → κ) (xs : List ι)
    (matching : ∀ x ∈ xs, ∀ action before response, item x = .ok action → action.answer before = .resolved response →
      view action.request response = some (shows x)) :
    Follows view log (submitAll (xs.map item) log).1.void (submitAll (xs.map item) log).2
      (xs.map fun x => Step.ofItem (shows x) (item x)) := by
  induction xs generalizing log with
  | nil => exact follows_nil view log
  | cons x rest ih =>
      rw [List.map_cons, submit_all_cons, List.map_cons]
      refine follows_bind view log _ _ [_] _ ?_ ?_
      · apply follows_submit
        intro action response encoded answered
        exact matching x (by simp) action log response encoded answered
      · intro _ after _
        exact ih after fun other member => matching other (List.mem_cons_of_mem _ member)

-- A script of which every step can be prepared and is accepted, whatever has
-- happened before, is followed to its end.
theorem follows_accepted (outcome : Settlement Err Unit) (after : Log Req Err Resp)
    (script : List (Step Req Err Resp κ)) (follows : Follows view log outcome after script)
    (accepted : ∀ step ∈ script, ∀ before, ∃ action, step.prepare before = .resolved action ∧
      (action.answer before).isResolved = true) : outcome = .resolved () := by
  cases follows with
  | completed done script went => rfl
  | unprepared done taken step rest went unready =>
      obtain ⟨action, ready, _⟩ := accepted step (by simp) (log ++ done)
      rw [ready] at unready
      exact absurd unready (by simp [Settlement.isResolved])
  | unaccepted done taken step rest action went ready unresolved =>
      obtain ⟨sent, prepared, resolved⟩ := accepted step (by simp) (log ++ done)
      obtain rfl : action = sent := Settlement.resolved.inj (ready.symm.trans prepared)
      rw [unresolved] at resolved
      exact absurd resolved (by simp)

end Rules

section Views

theorem shown_translated (view : Req → Resp → Option κ) (other : Req → Resp → Option ν) (f : κ → ν)
    (translated : ∀ request response step, view request response = some step →
      other request response = some (f step)) (exchange : Exchange Req Err Resp) (step : κ)
    (seen : shown view exchange = some step) : shown other exchange = some (f step) := by
  cases answer : exchange.outcome with
  | resolved response =>
      simp only [shown, answer] at seen ⊢
      exact translated _ _ step seen
  | rejected error => simp [shown, answer] at seen
  | pending => simp [shown, answer] at seen

theorem went_translated (view : Req → Resp → Option κ) (other : Req → Resp → Option ν) (f : κ → ν)
    (translated : ∀ request response step, view request response = some step →
      other request response = some (f step)) (log : Log Req Err Resp) (script : List (Step Req Err Resp κ))
    (done : Log Req Err Resp) (went : Went view log script done) :
    Went other log (script.map (Step.map f)) done := by
  induction script generalizing log done with
  | nil =>
      cases done with
      | nil => trivial
      | cons exchange rest => exact went.elim
  | cons step rest ih =>
      cases done with
      | nil => exact went.elim
      | cons exchange others =>
          obtain ⟨sent, seen, later⟩ := went
          exact ⟨sent, shown_translated view other f translated exchange _ seen, ih _ _ later⟩

-- A script seen through one view is the translated script seen through the other.
theorem follows_map (view : Req → Resp → Option κ) (other : Req → Resp → Option ν) (f : κ → ν)
    (translated : ∀ request response step, view request response = some step →
      other request response = some (f step)) (log : Log Req Err Resp) (outcome : Settlement Err Unit)
    (after : Log Req Err Resp) (script : List (Step Req Err Resp κ)) (follows : Follows view log outcome after script) :
    Follows other log outcome after (script.map (Step.map f)) := by
  cases follows with
  | completed done script went =>
      exact .completed done _ (went_translated view other f translated log script done went)
  | unprepared done taken step rest went unready =>
      rw [List.map_append, List.map_cons]
      exact .unprepared done _ (step.map f) _ (went_translated view other f translated log taken done went) unready
  | unaccepted done taken step rest action went ready unresolved =>
      rw [List.map_append, List.map_cons]
      exact .unaccepted done _ (step.map f) _ action (went_translated view other f translated log taken done went) ready
        unresolved

-- Scripts over entries that may be impossible to encode: such an entry shows as
-- an error, and nothing that is accepted ever does.
def planned (view : Req → Resp → Option κ) (request : Req) (response : Resp) : Option (Except Err κ) :=
  (view request response).map .ok

end Views

section Accepted

variable (view : Req → Resp → Option κ)

def steps (log : Log Req Err Resp) : List κ := log.filterMap (shown view)

def unaccepted (log : Log Req Err Resp) : Log Req Err Resp :=
  log.filter fun exchange => !exchange.outcome.isResolved

theorem steps_append (before after : Log Req Err Resp) :
    steps view (before ++ after) = steps view before ++ steps view after := List.filterMap_append

theorem unaccepted_append (before after : Log Req Err Resp) :
    unaccepted (before ++ after) = unaccepted before ++ unaccepted after := List.filter_append before after

theorem steps_planned (log : Log Req Err Resp) :
    (steps (planned view) log : List (Except Err κ)) = (steps view log).map .ok := by
  rw [steps, steps, List.map_filterMap]
  refine List.filterMap_congr fun exchange _ => ?_
  cases answer : exchange.outcome <;> simp only [shown, answer, planned, Option.map_none]

theorem went_steps (log : Log Req Err Resp) (script : List (Step Req Err Resp κ)) (done : Log Req Err Resp)
    (went : Went view log script done) :
    steps view done = script.map Step.shows ∧ unaccepted done = [] ∧ done.length = script.length := by
  have seen := went_shown view log script done went
  refine ⟨?_, ?_, by simpa using congrArg List.length seen⟩
  · have filtered := congrArg (List.filterMap id) seen
    simpa [List.filterMap_map, steps] using filtered
  · rw [unaccepted, List.filter_eq_nil_iff]
    intro exchange member
    have present : shown view exchange ∈ (script.map Step.shows).map some := seen ▸ List.mem_map_of_mem member
    obtain ⟨step, _, same⟩ := List.mem_map.mp present
    cases resolved : exchange.outcome.isResolved with
    | true => simp
    | false => exact absurd same (by simp [shown_unresolved view exchange resolved])

-- What was added to the log by a run along a script: the steps of a part of it,
-- of all of it exactly when the run resolves, and at most one more exchange.
structure Progress (outcome : Settlement Err Unit) (plan : List κ) (new : Log Req Err Resp) : Prop where
  part : steps view new <+: plan
  whole : outcome = .resolved () ↔ steps view new = plan
  accounted : (steps view new).length + (unaccepted new).length = new.length
  few : (unaccepted new).length ≤ if outcome.isResolved then 0 else 1

theorem stopped_progress (outcome : Settlement Err Unit) (stopped : outcome.isResolved = false)
    (log done : Log Req Err Resp) (last : List (Exchange Req Err Resp)) (taken rest : List (Step Req Err Resp κ))
    (step : Step Req Err Resp κ) (went : Went view log taken done) (few : last.length ≤ 1)
    (unresolved : ∀ exchange ∈ last, exchange.outcome.isResolved = false) :
    Progress view outcome ((taken ++ step :: rest).map Step.shows) (done ++ last) := by
  obtain ⟨shows, accepted, counted⟩ := went_steps view log taken done went
  have silent : steps view last = [] := by
    rw [steps, List.filterMap_eq_nil_iff]
    intro exchange member
    exact shown_unresolved view exchange (unresolved exchange member)
  have others : unaccepted last = last := by
    rw [unaccepted, List.filter_eq_self]
    intro exchange member
    simp [unresolved exchange member]
  have taken_only : steps view (done ++ last) = taken.map Step.shows := by
    rw [steps_append, shows, silent, List.append_nil]
  have last_only : unaccepted (done ++ last) = last := by rw [unaccepted_append, accepted, others, List.nil_append]
  refine ⟨?_, ?_, ?_, ?_⟩
  · rw [taken_only, List.map_append]
    exact List.prefix_append _ _
  · rw [taken_only]
    constructor
    · rintro rfl
      exact absurd stopped (by simp [Settlement.isResolved])
    · intro whole
      exact absurd (congrArg List.length whole) (by simp)
  · rw [taken_only, last_only, List.length_map, List.length_append, counted]
  · rw [last_only, stopped]
    exact few

theorem follows_progress (log : Log Req Err Resp) (outcome : Settlement Err Unit) (after : Log Req Err Resp)
    (script : List (Step Req Err Resp κ)) (follows : Follows view log outcome after script) :
    ∃ new : Log Req Err Resp, after = log ++ new ∧ Progress view outcome (script.map Step.shows) new := by
  cases follows with
  | completed done script went =>
      obtain ⟨shows, accepted, counted⟩ := went_steps view log script done went
      exact ⟨done, rfl, shows ▸ List.prefix_rfl, by simp [shows], by simp [shows, accepted, counted],
        by simp [accepted]⟩
  | unprepared done taken step rest went unready =>
      refine ⟨done, rfl, ?_⟩
      have progress := stopped_progress view (step.prepare (log ++ done)).void
        (by simpa [Settlement.void] using unready) log done [] taken rest step went (by simp) (by simp)
      simpa using progress
  | unaccepted done taken step rest action went ready unresolved =>
      exact ⟨done ++ [action.exchange (log ++ done)], by rw [List.append_assoc],
        stopped_progress view _ (by simpa [Settlement.void] using unresolved) log done _ taken rest step went (by simp)
          (by simpa [Action.exchange] using unresolved)⟩

end Accepted

end Task

end Async

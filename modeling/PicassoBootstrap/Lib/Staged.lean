import PicassoBootstrap.Lib.Script
import Mathlib.Data.List.Forall2

set_option autoImplicit false

namespace Async

namespace Task

variable {Req Err Resp α β κ ν : Type}

section Reporting

-- `try { await task } catch (err) { report }`, and what comes after the await.
def orReport (report : Err → β) (task : Task Req Err Resp α) (next : α → Task Req Err Resp β) :
    Task Req Err Resp β := do
  match ← attempt task with
  | .error error => return report error
  | .ok value => next value

variable (report : Err → β) (task : Task Req Err Resp α) (next : α → Task Req Err Resp β)
  (log after : Log Req Err Resp)

theorem or_report_resolved (value : α) (ran : task log = (.resolved value, after)) :
    orReport report task next log = next value after :=
  bind_resolved (attempt task) _ log after (.ok value) (by simp only [attempt, ran])

theorem or_report_rejected (error : Err) (ran : task log = (.rejected error, after)) :
    orReport report task next log = (.resolved (report error), after) :=
  bind_resolved (attempt task) _ log after (.error error) (by simp only [attempt, ran])

theorem or_report_pending (ran : task log = (.pending, after)) :
    orReport report task next log = (.pending, after) :=
  bind_pending (attempt task) _ log after (by simp only [attempt, ran])

theorem or_report_bind {γ : Type} (task : Task Req Err Resp α) (middle : α → Task Req Err Resp γ)
    (next : γ → Task Req Err Resp β) :
    orReport report (task >>= middle) next = orReport report task fun value => orReport report (middle value) next := by
  funext log
  rcases ran : task log with ⟨outcome, after⟩
  cases outcome with
  | resolved value =>
      rw [or_report_resolved report task _ log after value ran]
      simp only [orReport, attempt, bind, ran]
  | rejected error =>
      rw [or_report_rejected report task _ log after error ran,
        or_report_rejected report _ next log after error (bind_rejected task middle log after error ran)]
  | pending =>
      rw [or_report_pending report task _ log after ran,
        or_report_pending report _ next log after (bind_pending task middle log after ran)]

end Reporting

end Task

-- A part of a longer script. When a part that is essential fails, the script is
-- over; the failure of any other part is reported and the script goes on.
structure Stage (Req Err Resp κ : Type) where
  script : List (Step Req Err Resp κ)
  essential : Bool

def Stage.plan {Req Err Resp κ : Type} (stage : Stage Req Err Resp κ) : List κ := stage.script.map Step.shows

namespace Task

variable {Req Err Resp α β κ : Type}

-- A run of a script goes along its stages, and ends with the list of the errors
-- it has reported: it goes along all of the first stage, and then the others; or
-- it stops in the first, and the stage and the error decide what follows.
inductive FollowsStages (view : Req → Resp → Option κ) :
    Log Req Err Resp → Settlement Err (List Err) → Log Req Err Resp → List (Stage Req Err Resp κ) → Prop where
  | finished (log : Log Req Err Resp) : FollowsStages view log (.resolved []) log []
  | completed (log middle after : Log Req Err Resp) (ending : Settlement Err (List Err))
      (stage : Stage Req Err Resp κ) (rest : List (Stage Req Err Resp κ))
      (head : Follows view log (.resolved ()) middle stage.script)
      (tail : FollowsStages view middle ending after rest) : FollowsStages view log ending after (stage :: rest)
  | skipped (log middle after : Log Req Err Resp) (error : Err) (ending : Settlement Err (List Err))
      (stage : Stage Req Err Resp κ) (rest : List (Stage Req Err Resp κ)) (optional : stage.essential = false)
      (head : Follows view log (.rejected error) middle stage.script)
      (tail : FollowsStages view middle ending after rest) :
      FollowsStages view log (ending.map (error :: ·)) after (stage :: rest)
  | thrown (log after : Log Req Err Resp) (error : Err) (stage : Stage Req Err Resp κ)
      (rest : List (Stage Req Err Resp κ)) (essential : stage.essential = true)
      (head : Follows view log (.rejected error) after stage.script) :
      FollowsStages view log (.resolved [error]) after (stage :: rest)
  | waited (log after : Log Req Err Resp) (stage : Stage Req Err Resp κ) (rest : List (Stage Req Err Resp κ))
      (head : Follows view log .pending after stage.script) : FollowsStages view log .pending after (stage :: rest)

section Rules

variable (view : Req → Resp → Option κ) (log : Log Req Err Resp) (report : Err → List Err)

-- The rule for `await` inside a script whose errors end it.
theorem stages_or_report (task : Task Req Err Resp α) (next : α → Task Req Err Resp (List Err))
    (stage : Stage Req Err Resp κ) (rest : List (Stage Req Err Resp κ)) (essential : stage.essential = true)
    (reports : ∀ error, report error = [error])
    (head : Follows view log (task log).1.void (task log).2 stage.script)
    (tail : ∀ value after, task log = (.resolved value, after) →
      FollowsStages view after (next value after).1 (next value after).2 rest) :
    FollowsStages view log (orReport report task next log).1 (orReport report task next log).2 (stage :: rest) := by
  rcases ran : task log with ⟨outcome, after⟩
  rw [ran] at head
  cases outcome with
  | resolved value =>
      rw [or_report_resolved report task next log after value ran]
      exact .completed log after _ _ stage rest head (tail value after ran)
  | rejected error =>
      rw [or_report_rejected report task next log after error ran, reports]
      exact .thrown log after error stage rest essential head
  | pending =>
      rw [or_report_pending report task next log after ran]
      exact .waited log after stage rest head

end Rules

section Summaries

variable (view : Req → Resp → Option κ)

def Parts (parts : List (List κ)) (stages : List (Stage Req Err Resp κ)) : Prop :=
  List.Forall₂ (fun part stage => part <+: stage.plan) parts stages

theorem untouched (stages : List (Stage Req Err Resp κ)) : Parts (List.replicate stages.length []) stages := by
  induction stages with
  | nil => exact .nil
  | cons stage rest ih => exact .cons List.nil_prefix ih

theorem parts_length (parts : List (List κ)) (stages : List (Stage Req Err Resp κ)) (aligned : Parts parts stages) :
    parts.flatten.length ≤ (stages.flatMap Stage.plan).length := by
  induction aligned with
  | nil => exact Nat.le_refl 0
  | cons part _ ih =>
      have short := part.length_le
      simp only [List.flatten_cons, List.flatMap_cons, List.length_append]
      omega

-- A stage of which a part is missing cannot be made up for by the others.
theorem missing_part (part : List κ) (parts : List (List κ)) (stage : Stage Req Err Resp κ)
    (rest : List (Stage Req Err Resp κ))
    (shorter : part <+: stage.plan) (proper : part ≠ stage.plan) (aligned : Parts parts rest) :
    part ++ parts.flatten ≠ stage.plan ++ rest.flatMap Stage.plan := by
  intro same
  have lengths := congrArg List.length same
  have others := parts_length parts rest aligned
  have short := shorter.length_le
  have equal : part.length ≠ stage.plan.length := fun full => proper (shorter.eq_of_length full)
  simp only [List.length_append] at lengths
  omega

-- What a run along stages comes to: of every stage some part is done, and of all
-- stages together the whole exactly in a run that reports nothing. Everything
-- submitted is a step or was not accepted. There is at most one of the latter
-- for each stage that may fail without ending the script, and one where it ends.
structure Summary (ending : Settlement Err (List Err)) (stages : List (Stage Req Err Resp κ))
    (new : Log Req Err Resp) : Prop where
  parts : ∃ parts : List (List κ), steps view new = parts.flatten ∧ Parts parts stages
  quiet : ending = .resolved [] ↔ steps view new = stages.flatMap Stage.plan
  accounted : (steps view new).length + (unaccepted new).length = new.length
  few : (unaccepted new).length ≤ (stages.filter fun stage => !stage.essential).length + 1

theorem halted_summary (log after : Log Req Err Resp) (outcome : Settlement Err Unit)
    (stopped : outcome ≠ .resolved ()) (ending : Settlement Err (List Err)) (loud : ending ≠ .resolved [])
    (stage : Stage Req Err Resp κ) (rest : List (Stage Req Err Resp κ))
    (head : Follows view log outcome after stage.script) :
    ∃ new : Log Req Err Resp, after = log ++ new ∧ Summary view ending (stage :: rest) new := by
  obtain ⟨new, grown, progress⟩ := follows_progress view log outcome after stage.script head
  have missing := missing_part _ _ stage rest progress.part (fun full => stopped (progress.whole.mpr full))
    (untouched rest)
  have few := progress.few
  refine ⟨new, grown, ⟨steps view new :: List.replicate rest.length [], by simp,
    .cons progress.part (untouched rest)⟩, ⟨fun silent => absurd silent loud, fun full => absurd full ?_⟩,
    progress.accounted, ?_⟩
  · simpa using missing
  · split at few <;> omega

theorem head_summary (before after : Log Req Err Resp) (outcome : Settlement Err Unit)
    (ending whole : Settlement Err (List Err)) (stage : Stage Req Err Resp κ) (rest : List (Stage Req Err Resp κ))
    (progress : Progress view outcome stage.plan before)
    (few : (unaccepted before).length ≤ if stage.essential then 0 else 1) (tail : Summary view ending rest after)
    (quiet : whole = .resolved [] ↔ steps view (before ++ after) = (stage :: rest).flatMap Stage.plan) :
    Summary view whole (stage :: rest) (before ++ after) := by
  obtain ⟨⟨parts, shows, aligned⟩, _, counted, bounded⟩ := tail
  have accounted := progress.accounted
  refine ⟨⟨steps view before :: parts, ?_, .cons progress.part aligned⟩, quiet, ?_, ?_⟩
  · rw [steps_append, shows, List.flatten_cons]
  · simp only [steps_append, unaccepted_append, List.length_append]
    omega
  · cases essential : stage.essential <;> simp only [essential, Bool.false_eq_true, if_false, if_true] at few <;>
      simp only [unaccepted_append, List.length_append, List.filter_cons, essential, Bool.not_false, Bool.not_true,
        Bool.false_eq_true, if_false, if_true, List.length_cons] <;>
      omega

theorem stages_summary (log after : Log Req Err Resp) (ending : Settlement Err (List Err))
    (stages : List (Stage Req Err Resp κ)) (follows : FollowsStages view log ending after stages) :
    ∃ new : Log Req Err Resp, after = log ++ new ∧ Summary view ending stages new := by
  induction follows with
  | finished log =>
      exact ⟨[], by simp, ⟨[], rfl, .nil⟩, by simp [steps], by simp [steps, unaccepted], by simp [unaccepted]⟩
  | completed log middle after ending stage rest head tail ih =>
      obtain ⟨first, grown, progress⟩ := follows_progress view log _ middle stage.script head
      obtain ⟨new, later, summary⟩ := ih
      have few : (unaccepted first).length ≤ if stage.essential then 0 else 1 :=
        Nat.le_trans progress.few (Nat.zero_le _)
      refine ⟨first ++ new, by rw [later, grown, List.append_assoc],
        head_summary view first new _ ending _ stage rest progress few summary ?_⟩
      rw [steps_append, progress.whole.mp rfl, List.flatMap_cons, Stage.plan, List.append_cancel_left_eq, summary.quiet]
  | skipped log middle after error ending stage rest optional head tail ih =>
      obtain ⟨first, grown, progress⟩ := follows_progress view log _ middle stage.script head
      obtain ⟨new, later, summary⟩ := ih
      obtain ⟨parts, shows, aligned⟩ := summary.parts
      have missing := missing_part _ parts stage rest progress.part
        (fun full => absurd (progress.whole.mpr full) (by simp)) aligned
      have few : (unaccepted first).length ≤ if stage.essential then 0 else 1 := by
        rw [optional]
        exact progress.few
      refine ⟨first ++ new, by rw [later, grown, List.append_assoc],
        head_summary view first new _ ending _ stage rest progress few summary ⟨?_, ?_⟩⟩
      · intro silent
        cases ending <;> exact absurd silent (by simp [Settlement.map])
      · intro full
        rw [steps_append, shows, List.flatMap_cons] at full
        exact absurd full missing
  | thrown log after error stage rest essential head =>
      exact halted_summary view log after _ (by simp) _ (by simp) stage rest head
  | waited log after stage rest head => exact halted_summary view log after _ (by simp) _ (by simp) stage rest head

end Summaries

end Task

-- What holds of whatever has been done of a script when it holds of the plan of
-- every stage.
structure Composable {κ : Type} (property : List κ → Prop) : Prop where
  empty : property []
  append : ∀ before after, property before → property after → property (before ++ after)
  part : ∀ part whole : List κ, part <+: whole → property whole → property part

-- The property of whatever can be done of a plan with entries that cannot be
-- encoded: such an entry is never got past.
def Throughout {ε κ : Type} (property : List κ → Prop) (plan : List (Except ε κ)) : Prop :=
  ∀ steps : List κ, steps.map .ok <+: plan → property steps

namespace Composable

variable {Req Err Resp ε κ ι : Type} (property : List κ → Prop)

theorem flat_map (composable : Composable property) (xs : List ι) (plan : ι → List κ)
    (each : ∀ x ∈ xs, property (plan x)) : property (xs.flatMap plan) := by
  induction xs with
  | nil => exact composable.empty
  | cons x rest ih =>
      rw [List.flatMap_cons]
      exact composable.append _ _ (each x (by simp)) (ih fun other member => each other (List.mem_cons_of_mem _ member))

theorem throughout (composable : Composable property) : Composable (Throughout (ε := ε) property) where
  empty := by
    intro steps shorter
    obtain rfl : steps = [] := by simpa using shorter
    exact composable.empty
  append := by
    intro before after first second steps shorter
    rcases List.prefix_or_prefix_of_prefix shorter (List.prefix_append before after) with inside | ⟨rest, beyond⟩
    · exact first steps inside
    · obtain ⟨left, right, rfl, whole, _⟩ := List.map_eq_append_iff.mp beyond.symm
      rw [List.map_append, whole, List.prefix_append_right_inj] at shorter
      exact composable.append _ _ (first left (whole ▸ List.prefix_rfl)) (second right shorter)
  part := fun _ _ shorter holds steps within => holds steps (within.trans shorter)

theorem throughout_encoded (composable : Composable property) (plan : List κ) (holds : property plan) :
    Throughout property (plan.map (Except.ok (ε := ε))) := by
  intro steps shorter
  exact composable.part _ _ ((List.prefix_map_iff_of_injective fun _ _ same => Except.ok.inj same).mp shorter) holds

theorem throughout_one (composable : Composable property) (entry : Except ε κ)
    (holds : ∀ step, entry = .ok step → property [step]) : Throughout property [entry] := by
  intro steps shorter
  cases steps with
  | nil => exact composable.empty
  | cons step rest =>
      rw [List.map_cons, List.cons_prefix_cons, List.prefix_nil, List.map_eq_nil_iff] at shorter
      obtain ⟨first, rfl⟩ := shorter
      exact holds step first.symm

theorem throughout_two (composable : Composable property) (entry other : Except ε κ)
    (holds : ∀ step, entry = .ok step → property [step])
    (both : ∀ step next, entry = .ok step → other = .ok next → property [step, next]) :
    Throughout property [entry, other] := by
  intro steps shorter
  cases steps with
  | nil => exact composable.empty
  | cons step rest =>
      rw [List.map_cons, List.cons_prefix_cons] at shorter
      obtain ⟨first, shorter⟩ := shorter
      cases rest with
      | nil => exact holds step first.symm
      | cons next rest =>
          rw [List.map_cons, List.cons_prefix_cons, List.prefix_nil, List.map_eq_nil_iff] at shorter
          obtain ⟨second, rfl⟩ := shorter
          exact both step next first.symm second.symm

theorem parts (composable : Composable property) (parts : List (List κ)) (stages : List (Stage Req Err Resp κ))
    (aligned : Task.Parts parts stages) (plans : ∀ stage ∈ stages, property stage.plan) : property parts.flatten := by
  induction aligned with
  | nil => exact composable.empty
  | cons part _ ih =>
      rw [List.flatten_cons]
      exact composable.append _ _ (composable.part _ _ part (plans _ (by simp)))
        (ih fun stage member => plans stage (List.mem_cons_of_mem _ member))

theorem steps (composable : Composable property) (view : Req → Resp → Option κ)
    (ending : Settlement Err (List Err)) (stages : List (Stage Req Err Resp (Except Err κ))) (new : Log Req Err Resp)
    (summary : Task.Summary (Task.planned view) ending stages new)
    (plans : ∀ stage ∈ stages, Throughout property stage.plan) : property (Task.steps view new) := by
  obtain ⟨parts, shows, aligned⟩ := summary.parts
  rw [Task.steps_planned] at shows
  have kept := composable.throughout.parts (Throughout property) parts stages aligned plans
  exact kept _ (shows ▸ List.prefix_rfl)

end Composable

end Async

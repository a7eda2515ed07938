import PicassoBootstrap.Lib.Staged

set_option autoImplicit false

namespace Async

-- What is promised of a run, for each of the three ways it can end.
structure Post (Req Err Resp α : Type) where
  returned : α → Log Req Err Resp → Prop
  thrown : Err → Log Req Err Resp → Prop
  waiting : Log Req Err Resp → Prop

def Post.Holds {Req Err Resp α : Type} (post : Post Req Err Resp α) (run : Settlement Err α × Log Req Err Resp) :
    Prop :=
  match run.1 with
  | .resolved value => post.returned value run.2
  | .rejected error => post.thrown error run.2
  | .pending => post.waiting run.2

namespace Task

variable {Req Err Resp α β κ : Type}

def Triple (before : Log Req Err Resp → Prop) (task : Task Req Err Resp α) (after : Post Req Err Resp α) : Prop :=
  ∀ log, before log → after.Holds (task log)

section Rules

variable (before : Log Req Err Resp → Prop)

theorem triple_pure (value : α) (after : Post Req Err Resp α)
    (returned : ∀ log, before log → after.returned value log) : Triple before (pure value) after := returned

-- The first task may throw or wait only as the whole may.
theorem triple_bind (between : α → Log Req Err Resp → Prop) (task : Task Req Err Resp α)
    (next : α → Task Req Err Resp β) (after : Post Req Err Resp β)
    (head : Triple before task ⟨between, after.thrown, after.waiting⟩)
    (tail : ∀ value, Triple (between value) (next value) after) : Triple before (task >>= next) after := by
  intro log holds
  have first := head log holds
  rcases ran : task log with ⟨outcome, later⟩
  rw [ran] at first
  cases outcome with
  | resolved value =>
      rw [bind_resolved _ _ _ _ _ ran]
      exact tail value later first
  | rejected error =>
      rw [bind_rejected _ _ _ _ _ ran]
      exact first
  | pending =>
      rw [bind_pending _ _ _ _ ran]
      exact first

theorem triple_of_except (item : Except Err α) (after : Post Req Err Resp α)
    (returned : ∀ value, item = .ok value → ∀ log, before log → after.returned value log)
    (thrown : ∀ error, item = .error error → ∀ log, before log → after.thrown error log) :
    Triple before (ofExcept item) after := by
  cases item with
  | ok value => exact returned value rfl
  | error error => exact thrown error rfl

theorem triple_read (answer : Log Req Err Resp → Settlement Err α) (after : Post Req Err Resp α)
    (answered : ∀ log, before log → after.Holds (answer log, log)) : Triple before (read answer) after := answered

theorem triple_submit (item : Except Err (Action Req Err Resp)) (after : Post Req Err Resp Resp)
    (thrown : ∀ error, item = .error error → ∀ log, before log → after.thrown error log)
    (sent : ∀ action, item = .ok action → ∀ log, before log →
      after.Holds (action.answer log, log ++ [⟨action.request, action.answer log⟩])) :
    Triple before (submit item) after := by
  cases item with
  | ok action => exact sent action rfl
  | error error => exact thrown error rfl

theorem triple_attempt (task : Task Req Err Resp α) (after : Post Req Err Resp (Except Err α))
    (body : Triple before task
      ⟨fun value => after.returned (.ok value), fun error => after.returned (.error error), after.waiting⟩) :
    Triple before (attempt task) after := by
  intro log holds
  have first := body log holds
  rcases ran : task log with ⟨outcome, later⟩
  rw [ran] at first
  simp only [attempt, ran]
  cases outcome with
  | resolved value => exact first
  | rejected error => exact first
  | pending => exact first

theorem triple_or_report (between : α → Log Req Err Resp → Prop) (report : Err → β) (task : Task Req Err Resp α)
    (next : α → Task Req Err Resp β) (after : Post Req Err Resp β)
    (head : Triple before task ⟨between, fun error => after.returned (report error), after.waiting⟩)
    (tail : ∀ value, Triple (between value) (next value) after) : Triple before (orReport report task next) after := by
  intro log holds
  have first := head log holds
  rcases ran : task log with ⟨outcome, later⟩
  rw [ran] at first
  cases outcome with
  | resolved value =>
      rw [or_report_resolved _ _ _ _ _ _ ran]
      exact tail value later first
  | rejected error =>
      rw [or_report_rejected _ _ _ _ _ _ ran]
      exact first
  | pending =>
      rw [or_report_pending _ _ _ _ _ ran]
      exact first

-- The loop rule: `before` is the invariant.
theorem triple_for_m (xs : List κ) (body : κ → Task Req Err Resp Unit) (after : Post Req Err Resp Unit)
    (each : ∀ x ∈ xs, Triple before (body x) ⟨fun _ => before, after.thrown, after.waiting⟩)
    (returned : ∀ log, before log → after.returned () log) : Triple before (xs.forM body) after := by
  induction xs with
  | nil => exact triple_pure before () after returned
  | cons x rest ih =>
      refine triple_bind before (fun _ => before) (body x) (fun _ => rest.forM body) after (each x (by simp)) ?_
      intro _
      exact ih fun other member => each other (List.mem_cons_of_mem _ member)

end Rules

-- What a task asks of the outside world, in every run and from every history.
def Sends (allowed : Req → Prop) (task : Task Req Err Resp α) : Prop :=
  ∀ log, ∃ new, (task log).2 = log ++ new ∧ ∀ exchange ∈ new, allowed exchange.request

section Sends

variable (allowed : Req → Prop)

def SentFrom (start log : Log Req Err Resp) : Prop :=
  ∃ new, log = start ++ new ∧ ∀ exchange ∈ new, allowed exchange.request

def sent (start : Log Req Err Resp) : Post Req Err Resp α :=
  ⟨fun _ => SentFrom allowed start, fun _ => SentFrom allowed start, SentFrom allowed start⟩

theorem sent_holds (start : Log Req Err Resp) (run : Settlement Err α × Log Req Err Resp) :
    (sent allowed start).Holds run ↔ SentFrom allowed start run.2 := by
  rcases run with ⟨outcome, log⟩
  cases outcome <;> rfl

theorem sent_from_self (start : Log Req Err Resp) : SentFrom allowed start start := ⟨[], by simp, by simp⟩

-- One history is as good as another: what is sent is seen from any start.
theorem sends_iff (task : Task Req Err Resp α) :
    Sends allowed task ↔ ∀ start, Triple (SentFrom allowed start) task (sent allowed start) := by
  constructor
  · rintro sends start log ⟨early, rfl, fine⟩
    obtain ⟨new, grown, more⟩ := sends (start ++ early)
    rw [sent_holds]
    refine ⟨early ++ new, by rw [grown, List.append_assoc], ?_⟩
    intro exchange member
    rcases List.mem_append.mp member with member | member
    · exact fine exchange member
    · exact more exchange member
  · intro triples log
    exact (sent_holds allowed log _).mp (triples log log (sent_from_self allowed log))

theorem sends_pure (value : α) : Sends allowed (pure value : Task Req Err Resp α) := by
  rw [sends_iff]
  intro start
  exact triple_pure _ value _ fun _ holds => holds

theorem sends_bind (task : Task Req Err Resp α) (next : α → Task Req Err Resp β) (head : Sends allowed task)
    (tail : ∀ value, Sends allowed (next value)) : Sends allowed (task >>= next) := by
  simp only [sends_iff] at head tail ⊢
  intro start
  exact triple_bind _ (fun _ => SentFrom allowed start) task next _ (head start) fun value => tail value start

theorem sends_of_except (item : Except Err α) : Sends allowed (ofExcept item : Task Req Err Resp α) := by
  rw [sends_iff]
  intro start
  exact triple_of_except _ item _ (fun _ _ _ holds => holds) fun _ _ _ holds => holds

theorem sends_then (task : Task Req Err Resp α) (value : β) (body : Sends allowed task) :
    Sends allowed (task >>= fun _ => pure value) :=
  sends_bind allowed task _ body fun _ => sends_pure allowed value

theorem sends_convert (item : Except Err α) (next : α → Task Req Err Resp β)
    (tail : ∀ value, item = .ok value → Sends allowed (next value)) : Sends allowed (ofExcept item >>= next) := by
  cases item with
  | error error => exact sends_of_except allowed (.error error)
  | ok value =>
      rw [of_except_ok, pure_bind]
      exact tail value rfl

theorem sends_read (answer : Log Req Err Resp → Settlement Err α) :
    Sends allowed (read answer : Task Req Err Resp α) := by
  rw [sends_iff]
  intro start
  refine triple_read _ answer _ fun log holds => ?_
  rw [sent_holds]
  exact holds

theorem sends_submit (item : Except Err (Action Req Err Resp))
    (fine : ∀ action, item = .ok action → allowed action.request) : Sends allowed (submit item) := by
  rw [sends_iff]
  intro start
  refine triple_submit _ item _ (fun _ _ _ holds => holds) ?_
  rintro action encoded _ ⟨new, rfl, early⟩
  rw [sent_holds]
  refine ⟨new ++ [⟨action.request, action.answer (start ++ new)⟩], by simp, ?_⟩
  intro exchange member
  rcases List.mem_append.mp member with member | member
  · exact early exchange member
  · rw [List.mem_singleton.mp member]
    exact fine action encoded

-- What follows a request runs only if that request could be encoded.
theorem sends_submit_then (item : Except Err (Action Req Err Resp)) (next : Resp → Task Req Err Resp β)
    (fine : ∀ action, item = .ok action → allowed action.request)
    (tail : ∀ action, item = .ok action → ∀ response, Sends allowed (next response)) :
    Sends allowed (submit item >>= next) := by
  cases item with
  | error error => exact sends_of_except allowed (.error error)
  | ok action => exact sends_bind allowed _ _ (sends_submit allowed _ fine) (tail action rfl)

theorem sends_attempt (task : Task Req Err Resp α) (body : Sends allowed task) : Sends allowed (attempt task) := by
  rw [sends_iff] at body ⊢
  intro start
  exact triple_attempt _ task _ (body start)

theorem sends_or_report (report : Err → β) (task : Task Req Err Resp α) (next : α → Task Req Err Resp β)
    (head : Sends allowed task) (tail : ∀ value, Sends allowed (next value)) :
    Sends allowed (orReport report task next) := by
  simp only [sends_iff] at head tail ⊢
  intro start
  exact triple_or_report _ (fun _ => SentFrom allowed start) report task next _ (head start) fun value =>
    tail value start

theorem sends_for_m (xs : List κ) (body : κ → Task Req Err Resp Unit) (each : ∀ x ∈ xs, Sends allowed (body x)) :
    Sends allowed (xs.forM body) := by
  rw [sends_iff]
  intro start
  refine triple_for_m _ xs body _ ?_ fun _ holds => holds
  intro x member
  exact (sends_iff allowed (body x)).mp (each x member) start

theorem sends_submit_all (items : List (Except Err (Action Req Err Resp)))
    (fine : ∀ item ∈ items, ∀ action, item = .ok action → allowed action.request) :
    Sends allowed (submitAll items) := by
  refine sends_for_m allowed items _ fun item member => ?_
  exact sends_then allowed _ () (sends_submit allowed item (fine item member))

end Sends

section FailsFast

-- Since `start` everything was accepted; or everything but the last exchange.
def Served (start log : Log Req Err Resp) : Prop :=
  ∃ done, log = start ++ done ∧ ∀ exchange ∈ done, exchange.outcome.isResolved = true

def ServedBut (start log : Log Req Err Resp) (outcome : Settlement Err Resp) : Prop :=
  ∃ done request, Served start done ∧ log = done ++ [⟨request, outcome⟩]

def Stopped (start log : Log Req Err Resp) (error : Err) : Prop :=
  Served start log ∨ ServedBut start log (.rejected error)

-- `stalls` is a query that can hang, `refusal` the error that a returned value
-- stands for, when the task has caught one.
variable (stalls : Log Req Err Resp → Prop)

def fastPost (refusal : α → Option Err) (start : Log Req Err Resp) : Post Req Err Resp α where
  returned value log :=
    match refusal value with
    | some error => Stopped start log error
    | none => Served start log
  thrown error log := Stopped start log error
  waiting log := Served start log ∧ stalls log ∨ ServedBut start log .pending

-- Nothing is asked for after something that was not accepted, and the run ends
-- the way its last exchange did.
def FailsFast (refusal : α → Option Err) (task : Task Req Err Resp α) : Prop :=
  ∀ start, Triple (Served start) task (fastPost stalls refusal start)

theorem served_self (start : Log Req Err Resp) : Served start start := ⟨[], by simp, by simp⟩

theorem served_snoc (start log : Log Req Err Resp) (exchange : Exchange Req Err Resp) (served : Served start log)
    (accepted : exchange.outcome.isResolved = true) : Served start (log ++ [exchange]) := by
  obtain ⟨done, rfl, fine⟩ := served
  refine ⟨done ++ [exchange], by rw [List.append_assoc], ?_⟩
  intro other member
  rcases List.mem_append.mp member with member | member
  · exact fine other member
  · rw [List.mem_singleton.mp member]
    exact accepted

def unrefused (_ : α) : Option Err := none

def caught : Except Err α → Option Err
  | .ok _ => none
  | .error error => some error

theorem fails_fast_pure (refusal : α → Option Err) (value : α) (quiet : refusal value = none) :
    FailsFast stalls refusal (pure value : Task Req Err Resp α) := by
  intro start
  refine triple_pure _ value _ fun log served => ?_
  simp only [fastPost, quiet]
  exact served

theorem fails_fast_bind (refusal : β → Option Err) (task : Task Req Err Resp α) (next : α → Task Req Err Resp β)
    (head : FailsFast stalls unrefused task) (tail : ∀ value, FailsFast stalls refusal (next value)) :
    FailsFast stalls refusal (task >>= next) := by
  intro start
  exact triple_bind _ (fun _ => Served start) task next _ (head start) fun value => tail value start

theorem fails_fast_then (refusal : β → Option Err) (task : Task Req Err Resp α) (value : β)
    (quiet : refusal value = none) (body : FailsFast stalls unrefused task) :
    FailsFast stalls refusal (task >>= fun _ => pure value) :=
  fails_fast_bind stalls refusal task _ body fun _ => fails_fast_pure stalls refusal value quiet

theorem fails_fast_of_except (item : Except Err α) :
    FailsFast stalls unrefused (ofExcept item : Task Req Err Resp α) := by
  intro start
  exact triple_of_except _ item _ (fun _ _ _ served => served) fun _ _ _ served => .inl served

theorem fails_fast_read (answer : Log Req Err Resp → Settlement Err α)
    (stalled : ∀ log, answer log = .pending → stalls log) :
    FailsFast stalls unrefused (read answer : Task Req Err Resp α) := by
  intro start
  refine triple_read _ answer _ fun log served => ?_
  cases outcome : answer log with
  | resolved value => exact served
  | rejected error => exact .inl served
  | pending => exact .inl ⟨served, stalled log outcome⟩

theorem fails_fast_submit (item : Except Err (Action Req Err Resp)) : FailsFast stalls unrefused (submit item) := by
  intro start
  refine triple_submit _ item _ (fun _ _ _ served => .inl served) ?_
  intro action _ log served
  cases outcome : action.answer log with
  | resolved response => exact served_snoc start log ⟨action.request, .resolved response⟩ served rfl
  | rejected error => exact .inr ⟨log, action.request, served, rfl⟩
  | pending => exact .inr ⟨log, action.request, served, rfl⟩

theorem fails_fast_attempt (task : Task Req Err Resp α) (body : FailsFast stalls unrefused task) :
    FailsFast stalls caught (attempt task) := by
  intro start
  exact triple_attempt _ task _ (body start)

-- What a caught error leads to: the task returns a value that stands for it.
theorem fails_fast_handle (refusal : β → Option Err) (task : Task Req Err Resp α)
    (next : Except Err α → Task Req Err Resp β) (report : Err → β) (body : FailsFast stalls unrefused task)
    (handled : ∀ error, next (.error error) = pure (report error))
    (tells : ∀ error, refusal (report error) = some error)
    (tail : ∀ value, FailsFast stalls refusal (next (.ok value))) :
    FailsFast stalls refusal (attempt task >>= next) := by
  intro start
  refine triple_bind _ (fastPost stalls caught start).returned (attempt task) next _
    (fails_fast_attempt stalls task body start) ?_
  intro result
  cases result with
  | ok value => exact tail value start
  | error error =>
      rw [handled]
      refine triple_pure _ _ _ fun log stopped => ?_
      simp only [fastPost, tells]
      exact stopped

theorem fails_fast_for_m (xs : List κ) (body : κ → Task Req Err Resp Unit)
    (each : ∀ x ∈ xs, FailsFast stalls unrefused (body x)) : FailsFast stalls unrefused (xs.forM body) := by
  intro start
  exact triple_for_m _ xs body _ (fun x member => each x member start) fun _ served => served

theorem fails_fast_submit_all (items : List (Except Err (Action Req Err Resp))) :
    FailsFast stalls unrefused (submitAll items) := by
  refine fails_fast_for_m stalls items _ fun item _ => ?_
  exact fails_fast_then stalls _ _ () rfl (fails_fast_submit stalls item)

-- How such a run reads: accepted exchanges, and at most one more that tells the end.
theorem fails_fast_run (refusal : α → Option Err) (task : Task Req Err Resp α)
    (fast : FailsFast stalls refusal task) (log : Log Req Err Resp) :
    ∃ done last, (task log).2 = log ++ done ++ last ∧ (∀ exchange ∈ done, exchange.outcome.isResolved = true) ∧
      match (task log).1 with
      | .resolved value =>
          match refusal value with
          | none => last = []
          | some error => last = [] ∨ ∃ request, last = [⟨request, .rejected error⟩]
      | .rejected error => last = [] ∨ ∃ request, last = [⟨request, .rejected error⟩]
      | .pending => last = [] ∧ stalls (log ++ done) ∨ ∃ request, last = [⟨request, .pending⟩] := by
  have whole := fast log log (served_self log)
  have stopped_run : ∀ (after : Log Req Err Resp) (error : Err), Stopped log after error →
      ∃ done last, after = log ++ done ++ last ∧ (∀ exchange ∈ done, exchange.outcome.isResolved = true) ∧
        (last = [] ∨ ∃ request, last = [⟨request, .rejected error⟩]) := by
    intro after error stopped
    rcases stopped with ⟨done, rfl, fine⟩ | ⟨_, request, ⟨done, rfl, fine⟩, rfl⟩
    · exact ⟨done, [], by simp, fine, .inl rfl⟩
    · exact ⟨done, _, rfl, fine, .inr ⟨request, rfl⟩⟩
  simp only [Post.Holds] at whole
  cases outcome : (task log).1 with
  | resolved value =>
      simp only [outcome, fastPost] at whole ⊢
      cases refused : refusal value with
      | none =>
          rw [refused] at whole
          obtain ⟨done, grown, fine⟩ := whole
          exact ⟨done, [], by rw [grown, List.append_nil], fine, rfl⟩
      | some error =>
          rw [refused] at whole
          exact stopped_run _ error whole
  | rejected error =>
      simp only [outcome, fastPost] at whole ⊢
      exact stopped_run _ error whole
  | pending =>
      simp only [outcome, fastPost] at whole ⊢
      rcases whole with ⟨⟨done, grown, fine⟩, stalled⟩ | ⟨_, request, ⟨done, rfl, fine⟩, grown⟩
      · rw [grown] at stalled
        exact ⟨done, [], by rw [grown, List.append_nil], fine, .inl ⟨rfl, stalled⟩⟩
      · exact ⟨done, _, grown, fine, .inr ⟨request, rfl⟩⟩

end FailsFast

section Completes

variable (good : α → Prop)

-- Every run resolves, with a value that is `good`.
def Completes (task : Task Req Err Resp α) : Prop :=
  Triple (fun _ => True) task ⟨fun value _ => good value, fun _ _ => False, fun _ => False⟩

theorem completes_run (task : Task Req Err Resp α) (body : Completes good task) (log : Log Req Err Resp) :
    ∃ value, good value ∧ (task log).1 = .resolved value := by
  have ends := body log trivial
  simp only [Post.Holds] at ends
  cases outcome : (task log).1 with
  | resolved value =>
      rw [outcome] at ends
      exact ⟨value, ends, rfl⟩
  | rejected error =>
      rw [outcome] at ends
      exact ends.elim
  | pending =>
      rw [outcome] at ends
      exact ends.elim

theorem completes_pure (value : α) (fine : good value) : Completes good (pure value : Task Req Err Resp α) :=
  triple_pure _ value _ fun _ _ => fine

theorem completes_bind (between : β → Prop) (task : Task Req Err Resp β) (next : β → Task Req Err Resp α)
    (head : Completes between task) (tail : ∀ value, between value → Completes good (next value)) :
    Completes good (task >>= next) := by
  refine triple_bind _ (fun value _ => between value) task next _ head fun value log holds => ?_
  exact tail value holds log trivial

theorem completes_convert (item : Except Err β) (value : β) (next : β → Task Req Err Resp α)
    (converted : item = .ok value) (tail : Completes good (next value)) : Completes good (ofExcept item >>= next) := by
  rw [converted, of_except_ok, pure_bind]
  exact tail

theorem completes_read (answer : Log Req Err Resp → Settlement Err α)
    (answered : ∀ log, ∃ value, answer log = .resolved value ∧ good value) :
    Completes good (read answer : Task Req Err Resp α) := by
  refine triple_read _ answer _ fun log _ => ?_
  obtain ⟨value, resolved, fine⟩ := answered log
  simp only [Post.Holds, resolved]
  exact fine

theorem completes_submit (fine : Resp → Prop) (action : Action Req Err Resp)
    (answered : ∀ log, ∃ response, action.answer log = .resolved response ∧ fine response) :
    Completes fine (submit (.ok action)) := by
  refine triple_submit _ _ _ (fun _ refused => absurd refused (by simp)) ?_
  intro sent same log _
  obtain rfl : action = sent := Except.ok.inj same
  obtain ⟨response, resolved, holds⟩ := answered log
  simp only [Post.Holds, resolved]
  exact holds

theorem completes_or_report (between : β → Prop) (report : Err → α) (task : Task Req Err Resp β)
    (next : β → Task Req Err Resp α) (head : Completes between task)
    (tail : ∀ value, between value → Completes good (next value)) : Completes good (orReport report task next) := by
  intro log _
  obtain ⟨value, fine, resolved⟩ := completes_run between task head log
  rw [or_report_resolved report task next log (task log).2 value (Prod.ext resolved rfl)]
  exact tail value fine _ trivial

theorem completes_attempt (task : Task Req Err Resp α) (body : Completes good task) :
    Completes (fun result => ∃ value, result = .ok value ∧ good value) (attempt task) := by
  refine triple_attempt _ task _ fun log _ => ?_
  have ends := body log trivial
  simp only [Post.Holds] at ends ⊢
  cases outcome : (task log).1 with
  | resolved value =>
      rw [outcome] at ends
      exact ⟨value, rfl, ends⟩
  | rejected error =>
      rw [outcome] at ends
      exact ends.elim
  | pending =>
      rw [outcome] at ends
      exact ends.elim

theorem completes_submit_all (items : List (Except Err (Action Req Err Resp)))
    (answered : ∀ item ∈ items, ∃ action, item = .ok action ∧
      ∀ log, ∃ response, action.answer log = .resolved response) :
    Completes (fun _ => True) (submitAll items) := by
  refine triple_for_m _ items _ _ (fun item member => ?_) fun _ _ => trivial
  obtain ⟨action, rfl, resolves⟩ := answered item member
  have sent : Completes (fun _ => True) (submit (.ok action)) := by
    refine completes_submit _ action fun log => ?_
    obtain ⟨response, resolved⟩ := resolves log
    exact ⟨response, resolved, trivial⟩
  exact completes_bind _ _ _ _ sent fun _ _ => completes_pure _ () trivial

end Completes

end Task

end Async

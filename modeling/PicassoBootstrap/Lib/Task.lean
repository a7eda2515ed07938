import PicassoBootstrap.Lib.Settlement

set_option autoImplicit false

namespace Async

structure Exchange (Req Err Resp : Type) where
  request : Req
  outcome : Settlement Err Resp
deriving DecidableEq, Repr

abbrev Log (Req Err Resp : Type) := List (Exchange Req Err Resp)

-- A sequential async function. It sees everything exchanged so far, and ends
-- resolved, rejected, or (`pending`) waiting for a promise that never settles.
def Task (Req Err Resp α : Type) : Type := Log Req Err Resp → Settlement Err α × Log Req Err Resp

structure Action (Req Err Resp : Type) where
  request : Req
  answer : Log Req Err Resp → Settlement Err Resp

namespace Task

variable {Req Err Resp α β γ κ : Type}

instance : Monad (Task Req Err Resp) where
  pure value := fun log => (.resolved value, log)
  bind task next := fun log =>
    match task log with
    | (.resolved value, after) => next value after
    | (.rejected error, after) => (.rejected error, after)
    | (.pending, after) => (.pending, after)

theorem pure_run (value : α) (log : Log Req Err Resp) :
    (pure value : Task Req Err Resp α) log = (.resolved value, log) := rfl

theorem bind_resolved (task : Task Req Err Resp α) (next : α → Task Req Err Resp β) (log after : Log Req Err Resp)
    (value : α) (ran : task log = (.resolved value, after)) : (task >>= next) log = next value after := by
  simp only [bind, ran]

theorem bind_rejected (task : Task Req Err Resp α) (next : α → Task Req Err Resp β) (log after : Log Req Err Resp)
    (error : Err) (ran : task log = (.rejected error, after)) : (task >>= next) log = (.rejected error, after) := by
  simp only [bind, ran]

theorem bind_pending (task : Task Req Err Resp α) (next : α → Task Req Err Resp β) (log after : Log Req Err Resp)
    (ran : task log = (.pending, after)) : (task >>= next) log = (.pending, after) := by
  simp only [bind, ran]

theorem resolved_of_bind (task : Task Req Err Resp α) (next : α → Task Req Err Resp β) (log after : Log Req Err Resp)
    (value : β) (ran : (task >>= next) log = (.resolved value, after)) :
    ∃ first middle, task log = (.resolved first, middle) ∧ next first middle = (.resolved value, after) := by
  rcases head : task log with ⟨outcome, middle⟩
  cases outcome with
  | resolved first =>
      rw [bind_resolved _ _ _ _ _ head] at ran
      exact ⟨first, middle, rfl, ran⟩
  | rejected error =>
      rw [bind_rejected _ _ _ _ _ head] at ran
      exact absurd (congrArg Prod.fst ran) (by simp)
  | pending =>
      rw [bind_pending _ _ _ _ head] at ran
      exact absurd (congrArg Prod.fst ran) (by simp)

theorem map_id_run (task : Task Req Err Resp α) : id <$> task = task := by
  funext log
  rcases ran : task log with ⟨outcome, after⟩
  cases outcome with
  | resolved value =>
      simp only [Functor.map, ran]
      rfl
  | rejected error => simp only [Functor.map, ran]
  | pending => simp only [Functor.map, ran]

theorem bind_assoc_run (task : Task Req Err Resp α) (next : α → Task Req Err Resp β)
    (last : β → Task Req Err Resp γ) :
    task >>= next >>= last = task >>= fun value => next value >>= last := by
  funext log
  rcases ran : task log with ⟨outcome, after⟩
  cases outcome <;> simp only [bind, ran]

instance : LawfulMonad (Task Req Err Resp) :=
  LawfulMonad.mk' _ map_id_run (fun _ _ => rfl) bind_assoc_run

def ofExcept : Except Err α → Task Req Err Resp α
  | .ok value => pure value
  | .error error => fun log => (.rejected error, log)

def read (answer : Log Req Err Resp → Settlement Err α) : Task Req Err Resp α :=
  fun log => (answer log, log)

-- `try { .. } catch (err) { .. }`: a rejection becomes a value, waiting stays waiting.
def attempt (task : Task Req Err Resp α) : Task Req Err Resp (Except Err α) := fun log =>
  match task log with
  | (.resolved value, after) => (.resolved (.ok value), after)
  | (.rejected error, after) => (.resolved (.error error), after)
  | (.pending, after) => (.pending, after)

def perform (action : Action Req Err Resp) : Task Req Err Resp Resp := fun log =>
  (action.answer log, log ++ [⟨action.request, action.answer log⟩])

-- The arguments of a request are evaluated first; when that throws, nothing is sent.
def submit (item : Except Err (Action Req Err Resp)) : Task Req Err Resp Resp := do
  let action ← ofExcept item
  perform action

def submitAll (items : List (Except Err (Action Req Err Resp))) : Task Req Err Resp Unit :=
  items.forM fun item => do
    let _ ← submit item

theorem bind_silent (post : Settlement Err β × Log Req Err Resp → Prop) (task : Task Req Err Resp α)
    (next : α → Task Req Err Resp β) (log : Log Req Err Resp) (silent : (task log).2 = log)
    (stop : ∀ outcome : Settlement Err β, outcome.isResolved = false → post (outcome, log))
    (tail : ∀ value, task log = (.resolved value, log) → post (next value log)) : post ((task >>= next) log) := by
  rcases ran : task log with ⟨outcome, after⟩
  have unchanged : after = log := by simpa [ran] using silent
  subst unchanged
  cases outcome with
  | resolved value =>
      rw [bind_resolved _ _ _ _ _ ran]
      exact tail value ran
  | rejected error =>
      rw [bind_rejected _ _ _ _ _ ran]
      exact stop _ rfl
  | pending =>
      rw [bind_pending _ _ _ _ ran]
      exact stop _ rfl

theorem of_except_ok (value : α) : (ofExcept (.ok value) : Task Req Err Resp α) = pure value := rfl

theorem of_except_silent (item : Except Err α) (log : Log Req Err Resp) : (ofExcept item log).2 = log := by
  cases item <;> rfl

theorem of_except_resolved (item : Except Err α) (log after : Log Req Err Resp) (value : α)
    (ran : ofExcept item log = (.resolved value, after)) : item = .ok value := by
  cases item with
  | error error => exact absurd ran (by simp [ofExcept])
  | ok found =>
      have same : found = value := by simpa [ofExcept, pure_run] using congrArg Prod.fst ran
      rw [same]

theorem submit_error (error : Err) (log : Log Req Err Resp) :
    submit (.error error) log = (.rejected error, log) := rfl

theorem submit_ok (action : Action Req Err Resp) (log : Log Req Err Resp) :
    submit (.ok action) log = (action.answer log, log ++ [⟨action.request, action.answer log⟩]) := rfl

theorem submit_all_nil : submitAll ([] : List (Except Err (Action Req Err Resp))) = pure () := rfl

theorem submit_all_cons (item : Except Err (Action Req Err Resp)) (rest : List (Except Err (Action Req Err Resp))) :
    submitAll (item :: rest) = submit item >>= fun _ => submitAll rest := by
  simp [submitAll]

theorem submit_all_append (left right : List (Except Err (Action Req Err Resp))) :
    submitAll (left ++ right) = submitAll left >>= fun _ => submitAll right := by
  simp [submitAll]

theorem submit_all_singleton (item : Except Err (Action Req Err Resp)) :
    submitAll [item] = submit item >>= fun _ => pure () := by
  simp [submitAll]

theorem for_m_submit_all (xs : List κ) (items : κ → List (Except Err (Action Req Err Resp))) :
    (xs.forM fun x => submitAll (items x)) = submitAll (xs.flatMap items) := by
  induction xs with
  | nil => rfl
  | cons x rest ih =>
      simp only [List.forM_eq_forM] at ih ⊢
      rw [List.forM_cons, List.flatMap_cons, submit_all_append, ih]

def Accepted : Log Req Err Resp → List (Action Req Err Resp) → Log Req Err Resp → Prop
  | _, [], [] => True
  | log, action :: actions, exchange :: done =>
      exchange.request = action.request ∧ exchange.outcome = action.answer log ∧
        exchange.outcome.isResolved = true ∧ Accepted (log ++ [exchange]) actions done
  | _, _, _ => False

theorem accepted_requests (log : Log Req Err Resp) (actions : List (Action Req Err Resp)) (done : Log Req Err Resp)
    (accepted : Accepted log actions done) : done.map Exchange.request = actions.map Action.request := by
  induction actions generalizing log done with
  | nil =>
      cases done with
      | nil => rfl
      | cons exchange rest => exact accepted.elim
  | cons action actions ih =>
      cases done with
      | nil => exact accepted.elim
      | cons exchange rest =>
          obtain ⟨same, _, _, tail⟩ := accepted
          simp only [List.map_cons, same, ih _ _ tail]

theorem accepted_resolved (log : Log Req Err Resp) (actions : List (Action Req Err Resp)) (done : Log Req Err Resp)
    (accepted : Accepted log actions done) : ∀ exchange ∈ done, exchange.outcome.isResolved = true := by
  induction actions generalizing log done with
  | nil =>
      cases done with
      | nil => simp
      | cons exchange rest => exact accepted.elim
  | cons action actions ih =>
      cases done with
      | nil => exact accepted.elim
      | cons exchange rest =>
          obtain ⟨_, _, resolved, tail⟩ := accepted
          intro other member
          rcases List.mem_cons.mp member with rfl | member
          · exact resolved
          · exact ih _ _ tail other member

-- The three ways a sequence of submissions can end: everything accepted, an
-- argument that cannot be evaluated, or a request that is not accepted.
inductive Submitted (log : Log Req Err Resp) :
    List (Except Err (Action Req Err Resp)) → Settlement Err Unit × Log Req Err Resp → Prop where
  | completed (actions : List (Action Req Err Resp)) (done : Log Req Err Resp)
      (accepted : Accepted log actions done) :
      Submitted log (actions.map .ok) (.resolved (), log ++ done)
  | refused (actions : List (Action Req Err Resp)) (done : Log Req Err Resp) (error : Err)
      (rest : List (Except Err (Action Req Err Resp))) (accepted : Accepted log actions done) :
      Submitted log (actions.map .ok ++ .error error :: rest) (.rejected error, log ++ done)
  | failed (actions : List (Action Req Err Resp)) (done : Log Req Err Resp) (action : Action Req Err Resp)
      (rest : List (Except Err (Action Req Err Resp))) (accepted : Accepted log actions done)
      (unresolved : (action.answer (log ++ done)).isResolved = false) :
      Submitted log (actions.map .ok ++ .ok action :: rest)
        ((action.answer (log ++ done)).void,
          log ++ done ++ [⟨action.request, action.answer (log ++ done)⟩])

theorem submitted_cons (log : Log Req Err Resp) (action : Action Req Err Resp)
    (items : List (Except Err (Action Req Err Resp))) (run : Settlement Err Unit × Log Req Err Resp)
    (resolved : (action.answer log).isResolved = true)
    (tail : Submitted (log ++ [⟨action.request, action.answer log⟩]) items run) :
    Submitted log (.ok action :: items) run := by
  cases tail with
  | completed actions done accepted =>
      rw [List.append_assoc]
      exact .completed (action :: actions) (⟨action.request, action.answer log⟩ :: done)
        ⟨rfl, rfl, resolved, accepted⟩
  | refused actions done error rest accepted =>
      rw [List.append_assoc]
      exact .refused (action :: actions) (⟨action.request, action.answer log⟩ :: done) error rest
        ⟨rfl, rfl, resolved, accepted⟩
  | failed actions done last rest accepted unresolved =>
      rw [List.append_assoc] at unresolved ⊢
      exact .failed (action :: actions) (⟨action.request, action.answer log⟩ :: done) last rest
        ⟨rfl, rfl, resolved, accepted⟩ unresolved

theorem submitted_refused (error : Err) (rest : List (Except Err (Action Req Err Resp))) (log : Log Req Err Resp) :
    Submitted log (.error error :: rest) (.rejected error, log) := by
  have refused : Submitted log ([].map .ok ++ .error error :: rest) (.rejected error, log ++ []) :=
    .refused [] [] error rest trivial
  simpa using refused

theorem submitted_failed (action : Action Req Err Resp) (rest : List (Except Err (Action Req Err Resp)))
    (log : Log Req Err Resp) (unresolved : (action.answer log).isResolved = false) :
    Submitted log (.ok action :: rest)
      ((action.answer log).void, log ++ [⟨action.request, action.answer log⟩]) := by
  have failed := Submitted.failed [] [] action rest (show Accepted log [] [] from trivial) (by simpa using unresolved)
  simpa using failed

theorem submit_all_submitted (items : List (Except Err (Action Req Err Resp))) (log : Log Req Err Resp) :
    Submitted log items (submitAll items log) := by
  induction items generalizing log with
  | nil =>
      have done : Submitted log [] ((.resolved () : Settlement Err Unit), log ++ []) :=
        .completed [] [] trivial
      simpa [submit_all_nil, pure_run] using done
  | cons item rest ih =>
      rw [submit_all_cons]
      cases item with
      | error error =>
          rw [bind_rejected _ _ _ _ error (submit_error error log)]
          exact submitted_refused error rest log
      | ok action =>
          cases answer : action.answer log with
          | resolved value =>
              rw [bind_resolved _ _ _ _ value (by rw [submit_ok, answer]), ← answer]
              exact submitted_cons log action rest _ (by simp [answer, Settlement.isResolved]) (ih _)
          | rejected error =>
              have failed := submitted_failed action rest log (by simp [answer, Settlement.isResolved])
              rw [bind_rejected _ _ _ _ error (by rw [submit_ok, answer])]
              rw [answer] at failed
              exact failed
          | pending =>
              have failed := submitted_failed action rest log (by simp [answer, Settlement.isResolved])
              rw [bind_pending _ _ _ _ (by rw [submit_ok, answer])]
              rw [answer] at failed
              exact failed

theorem submitted_requests (items : List (Except Err (Action Req Err Resp))) (log : Log Req Err Resp)
    (run : Settlement Err Unit × Log Req Err Resp) (submitted : Submitted log items run) :
    ∃ (sent : List (Action Req Err Resp)) (new : Log Req Err Resp), run.2 = log ++ new ∧
      new.map Exchange.request = sent.map Action.request ∧ sent.map .ok <+: items ∧
      (run.1.isResolved = true → sent.map .ok = items) := by
  cases submitted with
  | completed actions done accepted =>
      exact ⟨actions, done, rfl, accepted_requests _ _ _ accepted, List.prefix_rfl, fun _ => rfl⟩
  | refused actions done error rest accepted =>
      exact ⟨actions, done, rfl, accepted_requests _ _ _ accepted, List.prefix_append _ _,
        fun resolved => absurd resolved (by simp [Settlement.isResolved])⟩
  | failed actions done action rest accepted unresolved =>
      refine ⟨actions ++ [action], done ++ [⟨action.request, action.answer (log ++ done)⟩], ?_, ?_, ?_, ?_⟩
      · rw [List.append_assoc]
      · simp [accepted_requests _ _ _ accepted]
      · exact ⟨rest, by simp⟩
      · intro resolved
        rw [Settlement.void, Settlement.is_resolved_map, unresolved] at resolved
        exact absurd resolved (by simp)

theorem submit_all_head (action : Action Req Err Resp) (rest : List (Except Err (Action Req Err Resp)))
    (log : Log Req Err Resp) : ∃ later : Log Req Err Resp,
      (submitAll (.ok action :: rest) log).2 = log ++ ⟨action.request, action.answer log⟩ :: later := by
  rw [submit_all_cons]
  cases answer : action.answer log with
  | resolved value =>
      obtain ⟨_, later, grown, _⟩ :=
        submitted_requests rest (log ++ [⟨action.request, action.answer log⟩]) _ (submit_all_submitted rest _)
      rw [bind_resolved _ _ _ _ value (by rw [submit_ok, answer]), ← answer, grown]
      exact ⟨later, by simp⟩
  | rejected error =>
      rw [bind_rejected _ _ _ _ error (by rw [submit_ok, answer])]
      exact ⟨[], rfl⟩
  | pending =>
      rw [bind_pending _ _ _ _ (by rw [submit_ok, answer])]
      exact ⟨[], rfl⟩

theorem submit_all_sends (item : Except Err (Action Req Err Resp)) (action : Action Req Err Resp)
    (rest others : List (Except Err (Action Req Err Resp)))
    (same : submitAll (item :: rest) = submitAll (.ok action :: others)) :
    ∃ sent, item = .ok sent ∧ sent.request = action.request := by
  have logs := congrArg Prod.snd (congrFun same [])
  obtain ⟨later, right⟩ := submit_all_head action others []
  rw [right] at logs
  cases item with
  | error error =>
      rw [submit_all_cons, bind_rejected _ _ _ _ error (submit_error error [])] at logs
      exact absurd logs (by simp)
  | ok sent =>
      obtain ⟨tail, left⟩ := submit_all_head sent rest []
      rw [left] at logs
      exact ⟨sent, rfl, congrArg Exchange.request (List.cons.inj logs).1⟩

end Task

end Async

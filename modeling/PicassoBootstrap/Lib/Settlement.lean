set_option autoImplicit false

namespace Async

-- The state of a promise. A cell leaves `pending` at most once: `resolve` and
-- `reject` on a settled cell have no effect.
inductive Settlement (ε α : Type) where
  | pending
  | resolved (value : α)
  | rejected (error : ε)
deriving DecidableEq, Repr

namespace Settlement

variable {ε α β μ : Type}

def orElse : Settlement ε α → Settlement ε α → Settlement ε α
  | .pending, later => later
  | .resolved value, _ => .resolved value
  | .rejected error, _ => .rejected error

def resolve (value : α) (cell : Settlement ε α) : Settlement ε α := cell.orElse (.resolved value)
def reject (error : ε) (cell : Settlement ε α) : Settlement ε α := cell.orElse (.rejected error)

def map (f : α → β) : Settlement ε α → Settlement ε β
  | .pending => .pending
  | .resolved value => .resolved (f value)
  | .rejected error => .rejected error

def isResolved : Settlement ε α → Bool
  | .resolved _ => true
  | _ => false

def isRejected : Settlement ε α → Bool
  | .rejected _ => true
  | _ => false

def ofExcept : Except ε α → Settlement ε α
  | .ok value => .resolved value
  | .error error => .rejected error

def void (cell : Settlement ε α) : Settlement ε Unit := cell.map fun _ => ()

@[simp] theorem pending_or_else (later : Settlement ε α) : orElse .pending later = later := rfl
@[simp] theorem resolved_or_else (value : α) (later : Settlement ε α) :
    orElse (.resolved value) later = .resolved value := rfl
@[simp] theorem rejected_or_else (error : ε) (later : Settlement ε α) :
    orElse (.rejected error) later = .rejected error := rfl

@[simp] theorem or_else_pending (cell : Settlement ε α) : cell.orElse .pending = cell := by
  cases cell <;> rfl

theorem or_else_assoc (a b c : Settlement ε α) : (a.orElse b).orElse c = a.orElse (b.orElse c) := by
  cases a <;> rfl

theorem or_else_settled (cell later : Settlement ε α) (settled : cell ≠ .pending) :
    cell.orElse later = cell := by
  cases cell with
  | pending => exact absurd rfl settled
  | resolved value => rfl
  | rejected error => rfl

theorem or_else_eq_pending (a b : Settlement ε α) : a.orElse b = .pending ↔ a = .pending ∧ b = .pending := by
  cases a <;> simp

theorem is_resolved_iff (cell : Settlement ε α) : cell.isResolved = true ↔ ∃ value, cell = .resolved value := by
  cases cell <;> simp [isResolved]

@[simp] theorem is_resolved_map (f : α → β) (cell : Settlement ε α) : (cell.map f).isResolved = cell.isResolved := by
  cases cell <;> rfl

@[simp] theorem void_resolved (value : α) : void (.resolved value : Settlement ε α) = .resolved () := rfl
@[simp] theorem void_rejected (error : ε) : void (.rejected error : Settlement ε α) = .rejected error := rfl
@[simp] theorem void_pending : void (.pending : Settlement ε α) = .pending := rfl

-- The settlement a sequence of messages leads to, when each message on its own
-- asks for `effect message` (`pending` for a message that asks for nothing).
def firstSettling (effect : μ → Settlement ε α) : List μ → Settlement ε α
  | [] => .pending
  | message :: rest => (effect message).orElse (firstSettling effect rest)

theorem first_settling_map {ν : Type} (effect : μ → Settlement ε α) (f : ν → μ) (messages : List ν) :
    firstSettling effect (messages.map f) = firstSettling (fun message => effect (f message)) messages := by
  induction messages with
  | nil => rfl
  | cons message rest ih => simp only [List.map_cons, firstSettling, ih]

theorem first_settling_append (effect : μ → Settlement ε α) (before after : List μ) :
    firstSettling effect (before ++ after) = (firstSettling effect before).orElse (firstSettling effect after) := by
  induction before with
  | nil => rfl
  | cons message rest ih => simp only [List.cons_append, firstSettling, ih, or_else_assoc]

theorem first_settling_pending (effect : μ → Settlement ε α) (messages : List μ) :
    firstSettling effect messages = .pending ↔ ∀ message ∈ messages, effect message = .pending := by
  induction messages with
  | nil => simp [firstSettling]
  | cons message rest ih => simp [firstSettling, or_else_eq_pending, ih]

theorem first_settling_after_silent (effect : μ → Settlement ε α) (before after : List μ)
    (silent : ∀ message ∈ before, effect message = .pending) :
    firstSettling effect (before ++ after) = firstSettling effect after := by
  rw [first_settling_append, (first_settling_pending effect before).mpr silent, pending_or_else]

theorem first_settling_agree (effect : μ → Settlement ε α) (messages : List μ) (outcome : Settlement ε α)
    (agree : ∀ message ∈ messages, effect message = .pending ∨ effect message = outcome)
    (asked : ∃ message ∈ messages, effect message = outcome) : firstSettling effect messages = outcome := by
  induction messages with
  | nil => exact absurd asked (by simp)
  | cons message rest ih =>
      have later := fun other (member : other ∈ rest) => agree other (List.mem_cons_of_mem _ member)
      by_cases silent : effect message = .pending
      · rw [firstSettling, silent, pending_or_else]
        obtain ⟨other, member, asks⟩ := asked
        rcases List.mem_cons.mp member with rfl | member
        · have quiet : ∀ next ∈ rest, effect next = .pending := by
            intro next member
            rcases later next member with none | same
            · exact none
            · rw [same, ← asks, silent]
          rw [(first_settling_pending effect rest).mpr quiet, ← asks, silent]
        · exact ih later ⟨other, member, asks⟩
      · have same := (agree message (by simp)).resolve_left silent
        rw [firstSettling, or_else_settled _ _ silent, same]

theorem first_settling_resolved (effect : μ → Settlement ε α) (messages : List μ) (value : α)
    (resolved : firstSettling effect messages = .resolved value) :
    ∃ message ∈ messages, effect message = .resolved value := by
  induction messages with
  | nil => exact absurd resolved (by simp [firstSettling])
  | cons message rest ih =>
      rw [firstSettling] at resolved
      cases asked : effect message with
      | pending =>
          obtain ⟨source, member, same⟩ := ih (by simpa [asked] using resolved)
          exact ⟨source, by simp [member], same⟩
      | resolved found =>
          refine ⟨message, by simp, ?_⟩
          simpa [asked] using resolved
      | rejected error => exact absurd resolved (by simp [asked])

-- A handler that settles through `orElse` is determined by its effect on a
-- fresh cell, so a whole delivery sequence is a search for the first effect.
theorem fold_first_settling (step : Settlement ε α → μ → Settlement ε α) (effect : μ → Settlement ε α)
    (settles : ∀ cell message, step cell message = cell.orElse (effect message))
    (messages : List μ) (cell : Settlement ε α) :
    messages.foldl step cell = cell.orElse (firstSettling effect messages) := by
  induction messages generalizing cell with
  | nil => simp [firstSettling]
  | cons message rest ih =>
      rw [List.foldl_cons, settles, ih, or_else_assoc]
      rfl

theorem first_settling_find (effect : μ → Settlement ε α) (decisive : μ → Bool)
    (silent : ∀ message, decisive message = false → effect message = .pending)
    (loud : ∀ message, decisive message = true → effect message ≠ .pending) (messages : List μ) :
    firstSettling effect messages =
      match messages.find? decisive with
      | none => .pending
      | some message => effect message := by
  induction messages with
  | nil => rfl
  | cons message rest ih =>
      cases h : decisive message with
      | false => simp [firstSettling, silent message h, h, ih]
      | true => simp [firstSettling, h, or_else_settled _ _ (loud message h)]

section Ahead

variable {β : Type}

-- The left settlement is there no later than the right one, and the two report
-- the same errors.
def Ahead (left : Settlement ε α) (right : Settlement ε β) : Prop :=
  match left with
  | .resolved _ => True
  | .rejected error => right = .rejected error
  | .pending => right = .pending

theorem ahead_or_else (left later : Settlement ε α) (right after : Settlement ε β) (first : Ahead left right)
    (second : Ahead later after) : Ahead (left.orElse later) (right.orElse after) := by
  cases left with
  | resolved value => trivial
  | rejected error =>
      have same : right = .rejected error := first
      rw [same]
      rfl
  | pending =>
      have same : right = .pending := first
      rw [same]
      exact second

theorem ahead_first_settling (early : μ → Settlement ε α) (late : μ → Settlement ε β) (messages : List μ)
    (each : ∀ message ∈ messages, Ahead (early message) (late message)) :
    Ahead (firstSettling early messages) (firstSettling late messages) := by
  induction messages with
  | nil => rfl
  | cons message rest ih =>
      exact ahead_or_else _ _ _ _ (each message (by simp)) (ih fun other member => each other (by simp [member]))

end Ahead

end Settlement

-- A callback runs against the cell it settles and may throw. The throw ends
-- the callback but keeps what it had settled before.
abbrev Handler (χ ε α : Type) := ExceptT χ (StateM (Settlement ε α))

namespace Handler

variable {χ ε α β : Type}

def resolve (value : α) : Handler χ ε α Unit := modify (Settlement.resolve value)
def reject (error : ε) : Handler χ ε α Unit := modify (Settlement.reject error)

def ofOption (error : χ) : Option β → Handler χ ε α β
  | none => throw error
  | some value => pure value

def deliver (handler : Handler χ ε α Unit) (cell : Settlement ε α) : Settlement ε α :=
  (handler.run.run cell).2

theorem bind_ok (handler : Handler χ ε α β) (next : β → Handler χ ε α Unit) (cell after : Settlement ε α)
    (value : β) (ran : handler.run.run cell = (.ok value, after)) :
    (handler >>= next).deliver cell = (next value).deliver after := by
  simp only [deliver, ExceptT.run_bind, StateT.run_bind, ran]
  rfl

theorem bind_error (handler : Handler χ ε α β) (next : β → Handler χ ε α Unit) (cell after : Settlement ε α)
    (error : χ) (ran : handler.run.run cell = (.error error, after)) : (handler >>= next).deliver cell = after := by
  simp only [deliver, ExceptT.run_bind, StateT.run_bind, ran]
  rfl

theorem throw_none (error : χ) (next : β → Handler χ ε α Unit) (cell : Settlement ε α) :
    (ofOption error none >>= next).deliver cell = cell :=
  bind_error (ofOption error none) next cell cell error rfl

theorem take_some (error : χ) (value : β) (next : β → Handler χ ε α Unit) (cell : Settlement ε α) :
    (ofOption error (some value) >>= next).deliver cell = (next value).deliver cell :=
  bind_ok (ofOption error (some value)) next cell cell value rfl

theorem deliver_pure (cell : Settlement ε α) : (pure () : Handler χ ε α Unit).deliver cell = cell := rfl
theorem deliver_resolve (value : α) (cell : Settlement ε α) :
    (resolve value : Handler χ ε α Unit).deliver cell = cell.resolve value := rfl

end Handler

end Async

import Mathlib.Algebra.BigOperators.Group.List.Basic
import Mathlib.Algebra.GroupWithZero.Nat
import Mathlib.Algebra.Order.Group.Nat
import Mathlib.Data.List.Infix

set_option autoImplicit false

-- A book of what is given to accounts and what is asked of them, in order: when
-- nothing is asked for that was not given before, and what is left over.
namespace Ledger

inductive Entry (κ : Type) where
  | credit (account : κ) (amount : Nat)
  | debit (account : κ) (amount : Nat)
deriving DecidableEq, Repr

variable {κ : Type} [DecidableEq κ]

namespace Entry

def inflow (holder : κ) : Entry κ → Nat
  | .credit account amount => if account = holder then amount else 0
  | .debit _ _ => 0

def outflow (holder : κ) : Entry κ → Nat
  | .credit _ _ => 0
  | .debit account amount => if account = holder then amount else 0

end Entry

def credited (entries : List (Entry κ)) (holder : κ) : Nat := (entries.map (Entry.inflow holder)).sum
def debited (entries : List (Entry κ)) (holder : κ) : Nat := (entries.map (Entry.outflow holder)).sum

theorem credited_append (before after : List (Entry κ)) (holder : κ) :
    credited (before ++ after) holder = credited before holder + credited after holder := by
  simp [credited]

theorem debited_append (before after : List (Entry κ)) (holder : κ) :
    debited (before ++ after) holder = debited before holder + debited after holder := by
  simp [debited]

theorem debited_prefix (part whole : List (Entry κ)) (shorter : part <+: whole) (holder : κ) :
    debited part holder ≤ debited whole holder := by
  obtain ⟨rest, rfl⟩ := shorter
  rw [debited_append]
  exact Nat.le_add_right _ _

-- At no point has more been asked of an account than was given to it.
def SelfFinanced (entries : List (Entry κ)) : Prop :=
  ∀ part, part <+: entries → ∀ holder, debited part holder ≤ credited part holder

theorem self_financed_nil : SelfFinanced ([] : List (Entry κ)) := by
  intro part shorter holder
  rw [List.prefix_nil.mp shorter]
  exact Nat.le_refl _

theorem self_financed_append (before after : List (Entry κ)) (first : SelfFinanced before)
    (second : SelfFinanced after) : SelfFinanced (before ++ after) := by
  intro part shorter holder
  rcases List.prefix_or_prefix_of_prefix shorter (List.prefix_append before after) with inside | ⟨rest, rfl⟩
  · exact first part inside holder
  · have head := first before List.prefix_rfl holder
    have tail := second rest ((List.prefix_append_right_inj before).mp shorter) holder
    rw [credited_append, debited_append]
    omega

theorem self_financed_prefix (part whole : List (Entry κ)) (shorter : part <+: whole)
    (financed : SelfFinanced whole) : SelfFinanced part :=
  fun smaller within => financed smaller (within.trans shorter)

def credits (payments : List (κ × Nat)) : List (Entry κ) := payments.map fun (account, amount) => .credit account amount
def debits (payments : List (κ × Nat)) : List (Entry κ) := payments.map fun (account, amount) => .debit account amount

theorem credits_debits (payments : List (κ × Nat)) (holder : κ) :
    credited (credits payments) holder = debited (debits payments) holder ∧
      debited (credits payments) holder = 0 ∧ credited (debits payments) holder = 0 := by
  simp [credited, debited, credits, debits, Function.comp_def, Entry.inflow, Entry.outflow]

theorem spent_balances (payments : List (κ × Nat)) (holder : κ) :
    credited (credits payments ++ debits payments) holder = debited (credits payments ++ debits payments) holder := by
  obtain ⟨same, unspent, ungiven⟩ := credits_debits payments holder
  rw [credited_append, debited_append]
  omega

theorem self_financed_credits (payments : List (κ × Nat)) : SelfFinanced (credits payments) := by
  intro part shorter holder
  have bounded := debited_prefix part _ shorter holder
  rw [(credits_debits payments holder).2.1] at bounded
  exact Nat.le_trans bounded (Nat.zero_le _)

-- What was given first can be asked for right after.
theorem self_financed_spent (payments : List (κ × Nat)) : SelfFinanced (credits payments ++ debits payments) := by
  intro part shorter holder
  rcases List.prefix_or_prefix_of_prefix shorter (List.prefix_append _ _) with inside | ⟨rest, rfl⟩
  · exact self_financed_credits payments part inside holder
  · obtain ⟨same, unspent, _⟩ := credits_debits payments holder
    have bounded := debited_prefix rest _ ((List.prefix_append_right_inj _).mp shorter) holder
    rw [credited_append, debited_append]
    omega

end Ledger

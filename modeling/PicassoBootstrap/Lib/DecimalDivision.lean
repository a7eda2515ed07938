import PicassoBootstrap.Lib.Decimal
import Mathlib.Data.Rat.Floor
import Mathlib.Tactic.FieldSimp
import Mathlib.Tactic.Linarith

set_option autoImplicit false

-- Division of decimals, rounded to a number of decimal places, and the values
-- on which it undoes a multiplication and is undone by one.
namespace Decimal

-- To the nearest integer; halfway cases go away from zero.
def roundHalfUp (q : ℚ) : ℤ := if 0 ≤ q then ⌊q + 1 / 2⌋ else -⌊1 / 2 - q⌋

def div (places : Nat) (a b : Decimal) : Decimal := reduce (roundHalfUp (a.toRat / b.toRat * 10 ^ places)) places

theorem round_half_up_int (z : ℤ) : roundHalfUp z = z := by
  have half : ⌊(1 / 2 : ℚ)⌋ = 0 := by
    rw [Int.floor_eq_iff]
    norm_num
  unfold roundHalfUp
  split
  · rw [Int.floor_intCast_add, half, add_zero]
  · have flip : (1 / 2 : ℚ) - z = 1 / 2 + ((-z : ℤ) : ℚ) := by
      push_cast
      ring
    rw [flip, Int.floor_add_intCast, half]
    ring

section Values

theorem to_rat_reduce (coeff : Int) (scale : Nat) : (reduce coeff scale).toRat = coeff / 10 ^ scale := by
  induction scale generalizing coeff with
  | zero => simp [reduce, toRat]
  | succ scale ih =>
      rw [reduce]
      split
      · rename_i divides
        obtain ⟨rest, rfl⟩ := divides
        rw [Int.mul_ediv_cancel_left _ (by decide), ih, pow_succ]
        push_cast
        field_simp
      · rfl

theorem to_rat_mul (a b : Decimal) : (a.mul b).toRat = a.toRat * b.toRat := by
  rw [mul, to_rat_reduce, toRat, toRat, pow_add, div_mul_div_comm]
  push_cast
  rfl

theorem to_rat_scaled (d : Decimal) (places : Nat) (short : d.scale ≤ places) :
    d.toRat * 10 ^ places = ((d.coeff * 10 ^ (places - d.scale) : ℤ) : ℚ) := by
  obtain ⟨extra, rfl⟩ := Nat.exists_eq_add_of_le short
  rw [toRat, Nat.add_sub_cancel_left, pow_add]
  push_cast
  field_simp

theorem scale_le_of_value (a b : Decimal) (same : a.toRat = b.toRat) : a.scale ≤ b.scale := by
  by_contra longer
  have short : b.scale < a.scale := Nat.lt_of_not_le longer
  have coeffs : (a.coeff : ℚ) = ((b.coeff * 10 ^ (a.scale - b.scale) : ℤ) : ℚ) := by
    rw [← to_rat_scaled b a.scale short.le, ← same, toRat]
    field_simp
  have tail : a.coeff = b.coeff * 10 ^ (a.scale - b.scale) := by exact_mod_cast coeffs
  have zero : (10 : Int) ∣ a.coeff := by
    rw [tail]
    exact Dvd.dvd.mul_left (dvd_pow_self 10 (by omega)) b.coeff
  rcases a.normal with whole | odd
  · omega
  · exact odd zero

theorem to_rat_injective (a b : Decimal) (same : a.toRat = b.toRat) : a = b := by
  have scales : a.scale = b.scale := Nat.le_antisymm (scale_le_of_value a b same) (scale_le_of_value b a same.symm)
  have coeffs : (a.coeff : ℚ) = b.coeff := by
    have scaled := to_rat_scaled a b.scale scales.le
    rw [same, to_rat_scaled b b.scale le_rfl] at scaled
    simpa [scales] using scaled.symm
  obtain ⟨coeff, scale, normal⟩ := a
  obtain ⟨otherCoeff, otherScale, otherNormal⟩ := b
  simp only at scales coeffs
  subst scales
  congr
  exact_mod_cast coeffs

end Values

section Division

theorem to_rat_div (places : Nat) (a b : Decimal) :
    (div places a b).toRat = roundHalfUp (a.toRat / b.toRat * 10 ^ places) / 10 ^ places := by
  rw [div, to_rat_reduce]

theorem div_exact (places : Nat) (a b : Decimal) (z : ℤ) (whole : a.toRat / b.toRat * 10 ^ places = z) :
    (div places a b).toRat = a.toRat / b.toRat := by
  rw [to_rat_div, whole, round_half_up_int, ← whole]
  field_simp

-- Multiplying back gives the dividend exactly when nothing was rounded off.
theorem mul_div_iff (places : Nat) (a b : Decimal) (nonzero : b.toRat ≠ 0) :
    (div places a b).mul b = a ↔ ∃ z : ℤ, a.toRat / b.toRat * 10 ^ places = z := by
  constructor
  · intro back
    have value := congrArg toRat back
    rw [to_rat_mul, to_rat_div] at value
    generalize roundHalfUp (a.toRat / b.toRat * 10 ^ places) = steps at value
    refine ⟨steps, ?_⟩
    rw [← value]
    field_simp
  · rintro ⟨z, whole⟩
    apply to_rat_injective
    rw [to_rat_mul, div_exact places a b z whole]
    field_simp

theorem div_mul (places : Nat) (a b : Decimal) (nonzero : b.toRat ≠ 0) (short : a.scale ≤ places) :
    div places (a.mul b) b = a := by
  have quotient : (a.mul b).toRat / b.toRat = a.toRat := by
    rw [to_rat_mul]
    field_simp
  apply to_rat_injective
  rw [div_exact places (a.mul b) b (a.coeff * 10 ^ (places - a.scale)), quotient]
  rw [quotient, to_rat_scaled a places short]

end Division

end Decimal

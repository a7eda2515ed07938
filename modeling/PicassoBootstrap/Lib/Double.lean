import Mathlib.Data.Int.Log
import Mathlib.Data.Rat.Floor
import Mathlib.Algebra.Order.Floor.Semiring
import Mathlib.Tactic.Linarith

set_option autoImplicit false

-- Rounding of a rational number to the nearest binary64 value, ties to even.
-- Overflow to infinity and subnormal results are not represented.
namespace Double

def roundHalfEven (q : ℚ) : ℤ :=
  let low := ⌊q⌋
  if q - low < 1 / 2 then low
  else if 1 / 2 < q - low then low + 1
  else if low % 2 = 0 then low
  else low + 1

def unit (q : ℚ) : ℚ := (2 : ℚ) ^ (Int.log 2 |q| - 52)

def round (q : ℚ) : ℚ := if q = 0 then 0 else roundHalfEven (q / unit q) * unit q

def maxSafeInteger : Nat := 2 ^ 53 - 1

theorem round_half_even_int (z : ℤ) : roundHalfEven z = z := by
  simp [roundHalfEven]

theorem round_half_even_ge (q : ℚ) (z : ℤ) (above : (z : ℚ) ≤ q) : z ≤ roundHalfEven q := by
  have low : z ≤ ⌊q⌋ := Int.le_floor.mpr above
  simp only [roundHalfEven]
  split
  · exact low
  · split
    · omega
    · split <;> omega

theorem unit_pos (q : ℚ) : 0 < unit q := by
  exact zpow_pos (by norm_num) _

theorem log_nat (n : Nat) : Int.log 2 |(n : ℚ)| = Nat.log 2 n := by
  rw [Nat.abs_cast, Int.log_natCast]

theorem round_small (n : Nat) (small : n < 2 ^ 53) : round n = n := by
  unfold round
  split
  · rename_i zero
    exact zero.symm
  · rename_i positive
    have exponent : Nat.log 2 n ≤ 52 := by
      have below : Nat.log 2 n < 53 := Nat.log_lt_of_lt_pow (by exact_mod_cast positive) small
      omega
    have quotient : (n : ℚ) / unit n = ((n * 2 ^ (52 - Nat.log 2 n) : ℤ) : ℚ) := by
      have flip : unit n = ((2 : ℚ) ^ (52 - Nat.log 2 n))⁻¹ := by
        rw [unit, log_nat, ← zpow_natCast, ← zpow_neg]
        congr 1
        push_cast [Nat.cast_sub exponent]
        ring
      rw [flip, div_inv_eq_mul]
      push_cast
      ring
    rw [quotient, round_half_even_int, ← quotient, div_mul_cancel₀ _ (unit_pos _).ne']

theorem round_large (n : Nat) (large : 2 ^ 53 ≤ n) : (2 : ℚ) ^ 53 ≤ round n := by
  have positive : (n : ℚ) ≠ 0 := by
    have : n ≠ 0 := by omega
    exact_mod_cast this
  have exponent : 53 ≤ Nat.log 2 n := (Nat.le_log_iff_pow_le (by decide) (by omega)).mpr large
  have scaled : (2 : ℚ) ≤ unit n := by
    rw [unit, log_nat]
    calc (2 : ℚ) = 2 ^ (1 : ℤ) := by simp
      _ ≤ 2 ^ ((Nat.log 2 n : ℤ) - 52) := zpow_le_zpow_right₀ (by norm_num) (by omega)
  have steps : (2 ^ 52 : ℤ) ≤ roundHalfEven (n / unit n) := by
    apply round_half_even_ge
    rw [le_div_iff₀ (unit_pos _), unit, log_nat]
    calc ((2 ^ 52 : ℤ) : ℚ) * 2 ^ ((Nat.log 2 n : ℤ) - 52) = 2 ^ (Nat.log 2 n) := by
          rw [zpow_sub₀ (by norm_num), zpow_natCast]
          norm_num
          ring
      _ ≤ (n : ℚ) := by exact_mod_cast Nat.pow_log_le_self 2 (by omega)
  unfold round
  rw [if_neg positive]
  calc (2 : ℚ) ^ 53 = ((2 ^ 52 : ℤ) : ℚ) * 2 := by norm_num
    _ ≤ roundHalfEven (n / unit n) * unit n := by
      apply mul_le_mul _ scaled (by norm_num)
      · exact_mod_cast le_trans (by norm_num) steps
      · exact_mod_cast steps

theorem round_safe (n : Nat) (safe : round n ≤ maxSafeInteger) : round n = n := by
  by_cases small : n < 2 ^ 53
  · exact round_small n small
  · have large := round_large n (by omega)
    have bound : (maxSafeInteger : ℚ) < 2 ^ 53 := by norm_num [maxSafeInteger]
    linarith

end Double

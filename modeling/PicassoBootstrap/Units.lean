import PicassoBootstrap.Codec

set_option autoImplicit false

namespace PicassoBootstrap

-- `amount` is what `new BigNumber(amount)` reads. `decimals` left out means the
-- 12 decimals of the chain's own tokens.
def fromChainUnits (amount : BigNumber) (decimals : Option Nat) : BigNumber :=
  amount.div ((BigNumber.ofNat 10).pow (decimals.getD 12))

def toChainUnits (amount : BigNumber) (decimals : Option Nat) : BigNumber :=
  amount.times ((BigNumber.ofNat 10).pow (decimals.getD 12))

theorem from_chain_units_finite (amount : Decimal) (decimals : Nat) :
    fromChainUnits (.finite amount) (some decimals) =
      .finite (Decimal.div 20 amount (Decimal.ofNat (10 ^ decimals))) := by
  have nonzero : ((10 : Int) ^ decimals) ≠ 0 := by positivity
  rw [fromChainUnits, Option.getD_some, BigNumber.pow_of_nat, BigNumber.ofNat, BigNumber.div]
  simp [Decimal.ofNat, nonzero]

theorem to_chain_units_finite (amount : Decimal) (decimals : Nat) :
    toChainUnits (.finite amount) (some decimals) = .finite (amount.mul (Decimal.ofNat (10 ^ decimals))) := by
  rw [toChainUnits, Option.getD_some, BigNumber.pow_of_nat, BigNumber.ofNat, BigNumber.times]

theorem power_nonzero (decimals : Nat) : (Decimal.ofNat (10 ^ decimals)).toRat ≠ 0 := by
  rw [Decimal.to_rat_of_nat]
  positivity

-- The quotient has at most 20 places exactly when the decimals beyond the
-- twentieth only cut zeros off the amount.
theorem quotient_whole_iff (n : Int) (decimals : Nat) :
    (∃ z : ℤ, (n : ℚ) / (10 ^ decimals : ℕ) * 10 ^ 20 = z) ↔ (10 : Int) ^ (decimals - 20) ∣ n := by
  rcases Nat.le_total decimals 20 with short | long
  · obtain ⟨extra, places⟩ := Nat.exists_eq_add_of_le short
    rw [Nat.sub_eq_zero_of_le short, pow_zero]
    refine ⟨fun _ => one_dvd n, fun _ => ⟨n * 10 ^ extra, ?_⟩⟩
    rw [places, pow_add]
    push_cast
    field_simp
  · obtain ⟨extra, rfl⟩ := Nat.exists_eq_add_of_le long
    rw [Nat.add_sub_cancel_left]
    have scaled : (n : ℚ) / (10 ^ (20 + extra) : ℕ) * 10 ^ 20 = n / 10 ^ extra := by
      rw [pow_add]
      push_cast
      field_simp
      norm_num
    rw [scaled]
    constructor
    · rintro ⟨z, whole⟩
      refine ⟨z, ?_⟩
      have product : (n : ℚ) = 10 ^ extra * z := by
        rw [← whole]
        field_simp
      exact_mod_cast product
    · rintro ⟨z, rfl⟩
      refine ⟨z, ?_⟩
      push_cast
      field_simp

theorem chain_units_back_iff (n : Int) (decimals : Nat) :
    toChainUnits (fromChainUnits (BigNumber.ofInt n) (some decimals)) (some decimals) = BigNumber.ofInt n ↔
      (10 : Int) ^ (decimals - 20) ∣ n := by
  rw [BigNumber.ofInt, from_chain_units_finite, to_chain_units_finite, BigNumber.finite.injEq,
    Decimal.mul_div_iff 20 _ _ (power_nonzero decimals), Decimal.to_rat_of_int, Decimal.to_rat_of_nat]
  exact quotient_whole_iff n decimals

theorem chain_units_round_trip (decimals : Nat) :
    (∀ n : Int, decimals ≤ 20 →
      toChainUnits (fromChainUnits (BigNumber.ofInt n) (some decimals)) (some decimals) = BigNumber.ofInt n) ∧
    (∀ n : Int, 20 < decimals →
      (toChainUnits (fromChainUnits (BigNumber.ofInt n) (some decimals)) (some decimals) = BigNumber.ofInt n ↔
        (10 : Int) ^ (decimals - 20) ∣ n)) ∧
    ∀ x : Decimal, x.scale ≤ 20 →
      fromChainUnits (toChainUnits (.finite x) (some decimals)) (some decimals) = .finite x := by
  refine ⟨?_, fun n _ => chain_units_back_iff n decimals, ?_⟩
  · intro n short
    rw [chain_units_back_iff, Nat.sub_eq_zero_of_le short, pow_zero]
    exact one_dvd n
  · intro x short
    rw [to_chain_units_finite, from_chain_units_finite, Decimal.div_mul 20 _ _ (power_nonzero decimals) short]

theorem sample_units_round_trip :
    toChainUnits (fromChainUnits (BigNumber.ofInt (-7)) (some 12)) (some 12) = BigNumber.ofInt (-7) ∧
      toChainUnits (fromChainUnits (BigNumber.ofInt 300000) (some 25)) (some 25) = BigNumber.ofInt 300000 ∧
      fromChainUnits (toChainUnits (.finite ⟨15, 1, by decide⟩) (some 25)) (some 25) = .finite ⟨15, 1, by decide⟩ :=
  ⟨(chain_units_round_trip 12).1 (-7) (by decide), ((chain_units_round_trip 25).2.1 300000 (by decide)).mpr (by decide),
    (chain_units_round_trip 25).2.2 ⟨15, 1, by decide⟩ (by decide)⟩

end PicassoBootstrap

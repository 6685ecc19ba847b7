import ApiGateway.Number.Binary64
import Mathlib.Algebra.Order.Field.Power
import Mathlib.Algebra.Order.Round
import Mathlib.Data.Rat.Floor
import Mathlib.Tactic.FieldSimp
import Mathlib.Tactic.Linarith

/-! # Doubles as rational numbers

A double stands for a rational number. The fraction that it is computed with is
the magnitude of that number, and rounding the fraction is rounding the number.
-/

namespace ApiGateway.Binary64

variable {x : Binary64}

def magnitudeRat (x : Binary64) : ℚ := x.mantissa * 2 ^ x.exponent

/-- The number that a double stands for. -/
def toRat (x : Binary64) : ℚ := if x.negative then -x.magnitudeRat else x.magnitudeRat

theorem magnitudeRat_nonneg (x : Binary64) : 0 ≤ x.magnitudeRat := by
  unfold magnitudeRat
  positivity

theorem magnitudeRat_eq_zero_iff : x.magnitudeRat = 0 ↔ x.isZero = true := by
  have hpow : (2 : ℚ) ^ x.exponent ≠ 0 := zpow_ne_zero _ two_ne_zero
  simp [magnitudeRat, isZero, hpow]

theorem toRat_nonneg_iff : 0 ≤ x.toRat ↔ x.negative = false ∨ x.isZero = true := by
  have hnonneg := x.magnitudeRat_nonneg
  unfold toRat
  cases x.negative with
  | false => simpa using hnonneg
  | true =>
    rw [← magnitudeRat_eq_zero_iff]
    simpa using ⟨fun h => le_antisymm h hnonneg, fun h => h.le⟩

theorem toRat_of_nonneg (h : 0 ≤ x.toRat) : x.toRat = x.magnitudeRat := by
  have hsign := toRat_nonneg_iff.mp h
  unfold toRat
  split
  · next hneg =>
    rw [hneg, ← magnitudeRat_eq_zero_iff] at hsign
    obtain hfalse | hzero := hsign
    · cases hfalse
    · rw [hzero, neg_zero]
  · rfl

theorem fraction_snd_pos (x : Binary64) : 0 < x.fraction.2 := by
  unfold fraction shift
  split <;> simp

theorem fraction_div (x : Binary64) : (x.fraction.1 : ℚ) / x.fraction.2 = x.magnitudeRat := by
  unfold fraction shift magnitudeRat
  split
  · next h =>
    obtain ⟨k, hk⟩ := Int.eq_ofNat_of_zero_le h
    have he : x.exponent = -(k : ℤ) := by omega
    simp [he, div_eq_mul_inv]
  · next h =>
    obtain ⟨k, hk⟩ := Int.eq_ofNat_of_zero_le (show 0 ≤ x.exponent by omega)
    simp [hk]

theorem fraction_lt_iff (bound : Nat) :
    x.fraction.1 < x.fraction.2 * bound ↔ x.magnitudeRat < bound := by
  have hpos : (0 : ℚ) < x.fraction.2 := by exact_mod_cast x.fraction_snd_pos
  rw [← fraction_div, div_lt_iff₀ hpos, mul_comm]
  exact_mod_cast Iff.rfl

theorem roundHalfUp_eq_round (x : Binary64) : (x.roundHalfUp : ℤ) = round x.magnitudeRat := by
  have hpos : (x.fraction.2 : ℚ) ≠ 0 := by exact_mod_cast x.fraction_snd_pos.ne'
  have hhalf : (x.fraction.1 : ℚ) / x.fraction.2 + 1 / 2 =
      ((2 * x.fraction.1 + x.fraction.2 : ℕ) : ℚ) / ((2 * x.fraction.2 : ℕ) : ℚ) := by
    push_cast
    field_simp
  rw [round_eq, ← fraction_div, hhalf, Rat.floor_natCast_div_natCast]
  rfl

end ApiGateway.Binary64

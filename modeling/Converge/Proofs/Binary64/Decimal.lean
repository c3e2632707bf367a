import Converge.Binary64.Decimal
import Converge.Proofs.Binary64.Nearest
import Mathlib.Algebra.Order.Field.Power

/-!
This module contains the rounding of whole numbers with a decimal exponent. Main statement: what is
made of them is the nearest floating point number, also where a look at their size is enough.
-/

namespace Converge.Binary64

open List

variable {negative : Bool} {m : Nat} {e : Int}

theorem limit_le : limit ≤ 10 ^ 310 * one := by
  decide +kernel

theorem two_mul_one_lt : 2 * one < 10 ^ 331 := by
  decide +kernel

/--
The number of digits and the exponent say between which powers of ten a number is.
-/
theorem mul_zpow_bounds (hne : m ≠ 0) :
    (10 : ℚ) ^ ((Nat.toDigits 10 m).length + e - 1) ≤ m * 10 ^ e
      ∧ m * 10 ^ e < (10 : ℚ) ^ ((Nat.toDigits 10 m).length + e) := by
  have hpos : (0 : ℚ) < 10 ^ e := by positivity
  have hlength := length_pos_iff.2 (Nat.toDigits_ne_nil (n := m) (b := 10))
  have hlt := (Nat.length_toDigits_le_iff (by decide) hlength).1 (Nat.le_refl _)
  have hle : 10 ^ ((Nat.toDigits 10 m).length - 1) ≤ m := by
    obtain hone | hmore := Nat.eq_zero_or_pos ((Nat.toDigits 10 m).length - 1)
    · rw [hone]
      omega
    · by_contra hlt
      have hle := (Nat.length_toDigits_le_iff (by decide) hmore).2 (Nat.lt_of_not_le hlt)
      omega
  generalize (Nat.toDigits 10 m).length = k at *
  constructor
  · rw [show (k : ℤ) + e - 1 = (k - 1 : Nat) + e by omega, zpow_add₀ (by norm_num), zpow_natCast]
    exact mul_le_mul_of_nonneg_right (by exact_mod_cast hle) hpos.le
  · rw [zpow_add₀ (by norm_num), zpow_natCast]
    exact mul_lt_mul_of_pos_right (by exact_mod_cast hlt) hpos

theorem exists_nearest {q : ℚ} (h : 0 ≤ q) : ∃ u, Nearest q u := by
  have hq : ((q.num.toNat : Nat) : ℚ) / q.den = q := by
    rw [← Int.cast_natCast, Int.toNat_of_nonneg (Rat.num_nonneg.2 h), Rat.num_div_den]
  have hround := rounds_round q.num.toNat false q.den_pos
  rw [hq] at hround
  generalize round false q.num.toNat q.den = x at hround
  cases hround with
  | finite hunits => exact ⟨_, hunits⟩
  | infinite hunits => exact ⟨_, hunits⟩

theorem representable_limit : Representable limit := by
  rw [limit_eq, one_eq, representable_mul_pow_iff]
  exact ⟨1, 1024, by norm_num, by norm_num⟩

theorem rounds_infinite {q : ℚ} (h : (limit : ℚ) ≤ q) : Rounds q negative (.infinite negative) := by
  have hnonneg : (0 : ℚ) ≤ limit := Nat.cast_nonneg _
  obtain ⟨u, hu⟩ := exists_nearest (hnonneg.trans h)
  have hle : limit ≤ u := hu.le_of_le representable_limit h
  exact .infinite hu hle

theorem limit_pos : 0 < limit := by
  decide +kernel

theorem rounds_zero {q : ℚ} (hnonneg : 0 ≤ q) (hlt : q < 1 / 2) :
    Rounds q negative (.finite negative 0) :=
  .finite (nearest_zero hnonneg hlt) limit_pos

theorem limit_le_of_tooLarge (hne : m ≠ 0) (h : tooLarge < (Nat.toDigits 10 m).length + e) :
    (limit : ℚ) ≤ m * 10 ^ e * one := by
  have hsize : ((10 ^ 310 : Nat) : ℚ) ≤ m * 10 ^ e := by
    rw [Nat.cast_pow, ← zpow_natCast]
    refine (zpow_le_zpow_right₀ (by norm_num) ?_).trans (mul_zpow_bounds hne).1
    unfold tooLarge at h
    omega
  have hunits : (limit : ℚ) ≤ (10 ^ 310 : Nat) * one := by exact_mod_cast limit_le
  exact hunits.trans (mul_le_mul_of_nonneg_right hsize (Nat.cast_nonneg one))

theorem lt_half_of_tooSmall (hne : m ≠ 0) (h : (Nat.toDigits 10 m).length + e < tooSmall) :
    (m * 10 ^ e * one : ℚ) < 1 / 2 := by
  have hsize : (m : ℚ) * 10 ^ e < ((10 ^ 331 : Nat) : ℚ)⁻¹ := by
    rw [Nat.cast_pow, ← zpow_natCast, ← zpow_neg]
    refine (mul_zpow_bounds hne).2.trans_le (zpow_le_zpow_right₀ (by norm_num) ?_)
    unfold tooSmall at h
    omega
  have hunits : (2 * one : ℚ) < (10 ^ 331 : Nat) := by exact_mod_cast two_mul_one_lt
  have hone : (0 : ℚ) ≤ 2 * one := mul_nonneg zero_le_two (Nat.cast_nonneg one)
  have hlt := mul_lt_mul'' hsize hunits (by positivity) hone
  rw [inv_mul_cancel₀ (Nat.cast_ne_zero.2 (Nat.pow_pos (by decide)).ne')] at hlt
  linarith

/--
A size beyond the powers of ten that are looked at first is beyond the limit, or below half a unit.
-/
theorem rounds_ofDecimal : Rounds (m * 10 ^ e * one) negative (ofDecimal negative m e) := by
  unfold ofDecimal
  dsimp only
  split
  next hzero =>
    rw [hzero, Nat.cast_zero, zero_mul, zero_mul]
    exact rounds_zero le_rfl one_half_pos
  next hne =>
    split
    next hlarge => exact rounds_infinite (limit_le_of_tooLarge hne hlarge)
    next hlarge =>
      split
      next hsmall =>
        have hnonneg : 0 ≤ (m * 10 ^ e * one : ℚ) :=
          mul_nonneg (by positivity) (Nat.cast_nonneg one)
        exact rounds_zero hnonneg (lt_half_of_tooSmall hne hsmall)
      next hsmall =>
        split
        next hnonneg =>
          have hround := rounds_ofRatio (m * 10 ^ e.toNat) negative Nat.one_pos
          rw [Nat.cast_one, div_one, Nat.cast_mul, Nat.cast_pow, ← zpow_natCast,
            Int.toNat_of_nonneg hnonneg] at hround
          exact hround
        next hneg =>
          have hden : 0 < 10 ^ (-e).toNat := Nat.pow_pos (by decide)
          have hround := rounds_ofRatio m negative hden
          rw [Nat.cast_pow, ← zpow_natCast, Int.toNat_of_nonneg (by omega), zpow_neg,
            div_inv_eq_mul] at hround
          exact hround

end Converge.Binary64

import Converge.Binary64.Basic
import Mathlib.Algebra.Order.Ring.Abs
import Mathlib.Algebra.Order.Ring.Rat
import Mathlib.Data.Nat.Cast.Order.Field
import Mathlib.Data.Rat.Cast.Order
import Mathlib.Tactic.FieldSimp
import Mathlib.Tactic.Linarith
import Mathlib.Tactic.NormNum
import Mathlib.Tactic.Positivity
import Mathlib.Tactic.Ring

/-!
This module contains the rounding of a number of units to one that a floating point number can have.
Main statements: there is one nearest such number, where a tie goes to the even one, and rounding
finds it.
-/

namespace Converge.Binary64

variable {q t : ℚ} {m n k u v num den : Nat} {negative : Bool}

/--
The numbers of units that a floating point number can have: at most 53 bits with zeros behind them.
-/
def Representable (units : Nat) : Prop :=
  ∃ m k, m < 2 ^ 53 ∧ units = m * 2 ^ k

/--
Whether the last of the 53 bits is zero.
-/
def IsEven (units : Nat) : Prop :=
  ∃ m k, m < 2 ^ 53 ∧ Even m ∧ (k = 0 ∨ 2 ^ 52 ≤ m) ∧ units = m * 2 ^ k

/--
The representable number of units that is nearest, and the even one of two that are.
-/
structure Nearest (q : ℚ) (units : Nat) : Prop where
  representable : Representable units
  closest : ∀ v, Representable v → |q - units| ≤ |q - v|
  even : ∀ v, Representable v → v ≠ units → |q - v| = |q - units| → IsEven units

/--
The whole number that is nearest, and the even one of two that are.
-/
def NearestWhole (t : ℚ) (n : Nat) : Prop :=
  |t - n| < 1 / 2 ∨ |t - n| = 1 / 2 ∧ Even n

namespace NearestWhole

theorem le_half (h : NearestWhole t n) : |t - n| ≤ 1 / 2 := by
  obtain h | ⟨h, -⟩ := h
  · exact h.le
  · exact h.le

theorem half_le (h : NearestWhole t n) (hne : m ≠ n) : 1 / 2 ≤ |t - m| := by
  have hone : (1 : ℚ) ≤ |(m : ℚ) - n| := by
    have hne : (m : ℤ) - n ≠ 0 := by omega
    exact_mod_cast Int.one_le_abs hne
  have htriangle : |(m : ℚ) - n| ≤ |t - n| + |t - m| := by
    rw [show (m : ℚ) - n = (t - n) - (t - m) by ring]
    exact abs_sub _ _
  have hle := h.le_half
  linarith

theorem closest (h : NearestWhole t n) (m : Nat) : |t - n| ≤ |t - m| := by
  by_cases hne : m = n
  · rw [hne]
  · exact h.le_half.trans (h.half_le hne)

theorem even (h : NearestWhole t n) (hne : m ≠ n) (heq : |t - m| = |t - n|) : Even n := by
  have hhalf := h.half_le hne
  obtain h | ⟨-, heven⟩ := h
  · linarith
  · exact heven

theorem le_of_le (h : NearestWhole t n) (hm : (m : ℚ) ≤ t) : m ≤ n := by
  by_contra hlt
  have hle : (n : ℚ) + 1 ≤ m := by exact_mod_cast Nat.lt_of_not_le hlt
  have habs := (abs_le.1 h.le_half).2
  linarith

theorem le_of_lt (h : NearestWhole t n) (hm : t < m) : n ≤ m := by
  by_contra hlt
  have hle : (m : ℚ) + 1 ≤ n := by exact_mod_cast Nat.lt_of_not_le hlt
  have habs := (abs_le.1 h.le_half).1
  linarith

end NearestWhole

theorem div_eq_add_mod_div (hden : 0 < den) :
    (num : ℚ) / den = (num / den : Nat) + ((num % den : Nat) : ℚ) / den := by
  have hpos : (0 : ℚ) < den := by exact_mod_cast hden
  have hsplit : (num : ℚ) = den * (num / den : Nat) + (num % den : Nat) := by
    exact_mod_cast (Nat.div_add_mod num den).symm
  rw [add_div' _ _ _ hpos.ne', mul_comm, ← hsplit]

theorem nearestWhole_roundDiv (num : Nat) (hden : 0 < den) :
    NearestWhole (num / den) (roundDiv num den) := by
  have hpos : (0 : ℚ) < den := by exact_mod_cast hden
  have hnonneg : 0 ≤ ((num % den : Nat) : ℚ) / den := by positivity
  have hlt : ((num % den : Nat) : ℚ) / den < 1 := by
    rw [div_lt_one hpos]
    exact_mod_cast Nat.mod_lt num hden
  unfold roundDiv
  dsimp only
  rw [div_eq_add_mod_div hden]
  split
  next hbelow =>
    left
    rw [add_sub_cancel_left, abs_of_nonneg hnonneg, div_lt_div_iff₀ hpos two_pos]
    exact_mod_cast (by omega : num % den * 2 < 1 * den)
  next hbelow =>
    split
    next habove =>
      have habove : 1 / 2 < ((num % den : Nat) : ℚ) / den := by
        rw [div_lt_div_iff₀ two_pos hpos]
        exact_mod_cast (by omega : 1 * den < num % den * 2)
      left
      push_cast
      rw [abs_of_neg (by linarith)]
      linarith
    next habove =>
      have htie : ((num % den : Nat) : ℚ) / den = 1 / 2 := by
        rw [div_eq_div_iff hpos.ne' two_ne_zero]
        exact_mod_cast (by omega : num % den * 2 = 1 * den)
      right
      rw [htie]
      split
      next heven =>
        refine ⟨?_, Nat.even_iff.2 heven⟩
        rw [add_sub_cancel_left, abs_of_pos one_half_pos]
      next hodd =>
        refine ⟨?_, Nat.even_iff.2 (by omega)⟩
        push_cast
        rw [abs_of_neg (by linarith)]
        linarith

theorem abs_sub_mul_pow (q : ℚ) (n k : Nat) :
    |q - (n * 2 ^ k : Nat)| = 2 ^ k * |q / 2 ^ k - n| := by
  have hpos : (0 : ℚ) < 2 ^ k := by positivity
  rw [← abs_of_pos hpos, ← abs_mul, abs_of_pos hpos]
  congr 1
  push_cast
  field_simp

/--
A representable number is on the grid of the numbers with `k` zeros, or below all that need 53 bits.
-/
theorem Representable.cases (h : Representable v) (k : Nat) :
    (∃ m, v = m * 2 ^ k) ∨ 0 < k ∧ v < 2 ^ 52 * 2 ^ k := by
  obtain ⟨m, j, hm, rfl⟩ := h
  obtain hlt | hle := Nat.lt_or_ge j k
  · right
    refine ⟨by omega, ?_⟩
    calc m * 2 ^ j < 2 ^ 53 * 2 ^ j := Nat.mul_lt_mul_of_pos_right hm (by positivity)
      _ = 2 ^ 52 * 2 ^ (j + 1) := by ring
      _ ≤ 2 ^ 52 * 2 ^ k := Nat.mul_le_mul_left _ (Nat.pow_le_pow_right two_pos hlt)
  · left
    refine ⟨m * 2 ^ (j - k), ?_⟩
    rw [mul_assoc, ← pow_add, Nat.sub_add_cancel hle]

theorem representable_of_le (h : m ≤ 2 ^ 53) (k : Nat) : Representable (m * 2 ^ k) := by
  obtain hlt | rfl := Nat.lt_or_eq_of_le h
  · exact ⟨m, k, hlt, rfl⟩
  · exact ⟨2 ^ 52, k + 1, by norm_num, by ring⟩

theorem isEven_of_le (h : m ≤ 2 ^ 53) (heven : Even m) (hk : k = 0 ∨ 2 ^ 52 ≤ m) :
    IsEven (m * 2 ^ k) := by
  obtain hlt | rfl := Nat.lt_or_eq_of_le h
  · exact ⟨m, k, hlt, heven, hk, rfl⟩
  · exact ⟨2 ^ 52, k + 1, by norm_num, by decide, .inr le_rfl, by ring⟩

/--
The nearest number is the nearest one on the grid that leaves 53 bits.
-/
theorem nearest_of_nearestWhole (h : NearestWhole (q / 2 ^ k) m) (hlt : q / 2 ^ k < 2 ^ 53)
    (hk : k = 0 ∨ 2 ^ 52 ≤ q / 2 ^ k) : Nearest q (m * 2 ^ k) := by
  have hpos : (0 : ℚ) < 2 ^ k := by positivity
  have hm : m ≤ 2 ^ 53 := h.le_of_lt (by exact_mod_cast hlt)
  -- what is not on the grid is farther away than the first number on it that needs 53 bits
  have hcloser (n : Nat) : |q - (m * 2 ^ k : Nat)| ≤ |q - (n * 2 ^ k : Nat)| := by
    rw [abs_sub_mul_pow, abs_sub_mul_pow]
    exact mul_le_mul_of_nonneg_left (h.closest n) hpos.le
  have hbelow {v : Nat} (hk' : 0 < k) (hv : v < 2 ^ 52 * 2 ^ k) :
      |q - (m * 2 ^ k : Nat)| < |q - v| := by
    have hle : ((2 ^ 52 * 2 ^ k : Nat) : ℚ) ≤ q := by
      obtain rfl | hle := hk
      · exact absurd hk' (lt_irrefl 0)
      · push_cast
        rwa [le_div_iff₀ hpos] at hle
    have hlt : (v : ℚ) < (2 ^ 52 * 2 ^ k : Nat) := by exact_mod_cast hv
    refine lt_of_le_of_lt (hcloser (2 ^ 52)) ?_
    rw [abs_of_nonneg (sub_nonneg.2 hle), abs_of_nonneg (by linarith)]
    linarith
  constructor
  · exact representable_of_le hm k
  · intro v hv
    obtain ⟨n, rfl⟩ | ⟨hk', hv⟩ := hv.cases k
    · exact hcloser n
    · exact (hbelow hk' hv).le
  · intro v hv hne heq
    obtain ⟨n, rfl⟩ | ⟨hk', hv⟩ := hv.cases k
    · rw [abs_sub_mul_pow, abs_sub_mul_pow, mul_right_inj' hpos.ne'] at heq
      refine isEven_of_le hm (h.even (fun hnm => hne (by rw [hnm])) heq) ?_
      exact hk.imp_right fun hle => h.le_of_le (by exact_mod_cast hle)
    · exact absurd heq (hbelow hk' hv).ne'

/--
The exponent that rounding takes leaves 53 bits.
-/
theorem div_step_bounds (num : Nat) (hden : 0 < den) :
    (num / den : ℚ) / 2 ^ ((num / den).log2 - 52) < 2 ^ 53
      ∧ ((num / den).log2 - 52 = 0 ∨ 2 ^ 52 ≤ (num / den : ℚ) / 2 ^ ((num / den).log2 - 52)) := by
  have hpos : (0 : ℚ) < den := by exact_mod_cast hden
  have hfloor : ((num / den : Nat) : ℚ) ≤ num / den := Nat.cast_div_le
  have hceil : (num / den : ℚ) < (num / den : Nat) + 1 := by
    rw [div_eq_add_mod_div hden, add_lt_add_iff_left, div_lt_one hpos]
    exact_mod_cast Nat.mod_lt num hden
  generalize (num / den : ℚ) = q at *
  generalize hk : (num / den).log2 - 52 = k
  have hpow : (0 : ℚ) < 2 ^ k := by positivity
  constructor
  · have hlog : num / den < 2 ^ (53 + k) := by
      refine Nat.lt_of_lt_of_le (Nat.lt_log2_self) ?_
      exact Nat.pow_le_pow_right two_pos (by omega)
    have hlog : ((num / den : Nat) : ℚ) + 1 ≤ 2 ^ (53 + k) := by exact_mod_cast hlog
    rw [div_lt_iff₀ hpow, ← pow_add]
    linarith
  · by_cases hzero : k = 0
    · exact .inl hzero
    · right
      have hlog : 2 ^ (52 + k) ≤ num / den := by
        rw [show 52 + k = (num / den).log2 by omega]
        refine Nat.log2_self_le ?_
        rintro h
        rw [h] at hk
        exact hzero (by rw [← hk]; rfl)
      have hlog : (2 : ℚ) ^ (52 + k) ≤ (num / den : Nat) := by exact_mod_cast hlog
      rw [le_div_iff₀ hpow, ← pow_add]
      linarith

/--
Between two even numbers there is always another one.
-/
theorem exists_between_of_isEven (hu : IsEven u) (hv : IsEven v) (hlt : u < v) :
    ∃ w, Representable w ∧ u < w ∧ w < v := by
  obtain ⟨m, k, hm, hmeven, hk, rfl⟩ := hu
  obtain ⟨n, j, hn, hneven, -, rfl⟩ := hv
  have hpos : 0 < 2 ^ k := by positivity
  have hgrid : ∃ i, Even i ∧ n * 2 ^ j = i * 2 ^ k := by
    obtain hlt' | hle := Nat.lt_or_ge j k
    · exfalso
      have hbig : 2 ^ 52 ≤ m := hk.resolve_left (by omega)
      have hle : n * 2 ^ j ≤ m * 2 ^ k := by
        calc n * 2 ^ j ≤ 2 ^ 53 * 2 ^ j := Nat.mul_le_mul_right _ hn.le
          _ = 2 ^ 52 * 2 ^ (j + 1) := by ring
          _ ≤ m * 2 ^ k := Nat.mul_le_mul hbig (Nat.pow_le_pow_right two_pos hlt')
      omega
    · refine ⟨n * 2 ^ (j - k), hneven.mul_right _, ?_⟩
      rw [mul_assoc, ← pow_add, Nat.sub_add_cancel hle]
  obtain ⟨i, hieven, hi⟩ := hgrid
  rw [hi] at hlt ⊢
  have hmi : m < i := Nat.lt_of_mul_lt_mul_right hlt
  -- both are even, so that there is room for one more
  have hnext : m + 1 < i := by
    rcases hmeven with ⟨a, rfl⟩
    rcases hieven with ⟨b, rfl⟩
    omega
  have hbits : m + 1 < 2 ^ 53 := by
    rcases hmeven with ⟨a, rfl⟩
    omega
  exact ⟨(m + 1) * 2 ^ k, ⟨m + 1, k, hbits, rfl⟩, Nat.mul_lt_mul_of_pos_right (by omega) hpos,
    Nat.mul_lt_mul_of_pos_right hnext hpos⟩

namespace Nearest

theorem not_lt (hu : Nearest q u) (hv : Nearest q v) : ¬u < v := by
  intro hlt
  have heq := (hu.closest v hv.representable).antisymm (hv.closest u hu.representable)
  have hueven := hu.even v hv.representable hlt.ne' heq.symm
  have hveven := hv.even u hu.representable hlt.ne heq
  obtain ⟨w, hw, huw, hwv⟩ := exists_between_of_isEven hueven hveven hlt
  have huw : (u : ℚ) < w := by exact_mod_cast huw
  have hwv : (w : ℚ) < v := by exact_mod_cast hwv
  have huw' := hu.closest w hw
  have hvw' := hv.closest w hw
  grind

theorem unique (hu : Nearest q u) (hv : Nearest q v) : u = v :=
  Nat.le_antisymm (Nat.le_of_not_lt (hv.not_lt hu)) (Nat.le_of_not_lt (hu.not_lt hv))

theorem le_of_le (h : Nearest q u) (hv : Representable v) (hle : (v : ℚ) ≤ q) : v ≤ u := by
  have hclose := h.closest v hv
  rw [abs_of_nonneg (sub_nonneg.2 hle)] at hclose
  have hge := (abs_le.1 hclose).2
  exact_mod_cast (by linarith : (v : ℚ) ≤ u)

end Nearest

theorem nearest_self (h : Representable u) : Nearest u u where
  representable := h
  closest := by simp
  even := by
    intro v _ hne heq
    rw [sub_self, abs_zero, abs_eq_zero, sub_eq_zero] at heq
    exact absurd (by exact_mod_cast heq.symm) hne

theorem representable_zero : Representable 0 :=
  ⟨0, 0, by norm_num, by norm_num⟩

theorem nearest_zero (hnonneg : 0 ≤ q) (hlt : q < 1 / 2) : Nearest q 0 := by
  have hfar {v : Nat} (hne : v ≠ 0) : |q - (0 : Nat)| < |q - v| := by
    have hone : (1 : ℚ) ≤ v := by exact_mod_cast Nat.one_le_iff_ne_zero.2 hne
    rw [Nat.cast_zero, sub_zero, abs_of_nonneg hnonneg, abs_of_neg (by linarith)]
    linarith
  constructor
  · exact representable_zero
  · intro v _
    obtain rfl | hne := eq_or_ne v 0
    · exact le_rfl
    · exact (hfar hne).le
  · intro v _ hne heq
    exact absurd heq (hfar hne).ne'

/--
That a number is the nearest one to `q` units that has this sign. From the limit on it is infinite.
-/
inductive Rounds (q : ℚ) (negative : Bool) : Binary64 → Prop
  | finite {units : Nat} (h : Nearest q units) (hlt : units < limit) :
    Rounds q negative (.finite negative units)
  | infinite {units : Nat} (h : Nearest q units) (hle : limit ≤ units) :
    Rounds q negative (.infinite negative)

theorem rounds_ofUnits (h : Nearest q u) : Rounds q negative (ofUnits negative u) := by
  unfold ofUnits
  split
  next hlt => exact .finite h hlt
  next hlt => exact .infinite h (Nat.le_of_not_lt hlt)

theorem rounds_round (num : Nat) (negative : Bool) (hden : 0 < den) :
    Rounds (num / den) negative (round negative num den) := by
  have hstep : 0 < den * step (num / den) := Nat.mul_pos hden (Nat.pow_pos two_pos)
  have hwhole := nearestWhole_roundDiv num hstep
  obtain ⟨hlt, hk⟩ := div_step_bounds num hden
  apply rounds_ofUnits
  apply nearest_of_nearestWhole _ hlt hk
  rw [div_div]
  exact_mod_cast hwhole

theorem rounds_ofRatio (num : Nat) (negative : Bool) (hden : 0 < den) :
    Rounds (num / den * one) negative (ofRatio negative num den) := by
  have hround := rounds_round (num * one) negative hden
  rw [Nat.cast_mul, mul_div_right_comm] at hround
  exact hround

/--
That `n` is the whole number that is nearest to `q` among all floating point numbers.
-/
structure RoundsTo (q : ℚ) (n : ℤ) : Prop where
  nearest : Nearest (|q| * one) (n.natAbs * one : Nat)
  finite : n.natAbs * one < limit
  sign : 0 ≤ q * n

-- the number of units of one is too large a literal for the elaborator to unfold
theorem one_pos : 0 < one := by
  decide +kernel

theorem one_eq : one = 2 ^ 1074 := by
  decide +kernel

theorem limit_eq : limit = 2 ^ 1024 * one := by
  decide +kernel

theorem toInt?_finite_eq_some_iff {n : ℤ} :
    (Binary64.finite negative u).toInt? = some n ↔
      u = n.natAbs * one ∧ if negative then n ≤ 0 else 0 ≤ n := by
  have hone := one_pos
  simp only [toInt?]
  generalize one = w at hone ⊢
  constructor
  · intro h
    split at h
    next hmod =>
      have hdiv : u / w * w = u := Nat.div_mul_cancel (Nat.dvd_of_mod_eq_zero hmod)
      rw [Option.some_inj] at h
      cases negative with
      | true =>
        rw [if_pos rfl] at h
        rw [← h, Int.natAbs_neg, Int.natAbs_natCast, hdiv, if_pos rfl]
        exact ⟨rfl, Int.neg_nonpos_of_nonneg (Int.natCast_nonneg _)⟩
      | false =>
        rw [if_neg Bool.false_ne_true] at h
        rw [← h, Int.natAbs_natCast, hdiv, if_neg Bool.false_ne_true]
        exact ⟨rfl, Int.natCast_nonneg _⟩
    · cases h
  · rintro ⟨rfl, hsign⟩
    rw [if_pos (Nat.mul_mod_left _ _), Nat.mul_div_cancel _ hone, Option.some_inj]
    cases negative with
    | true =>
      rw [if_pos rfl] at hsign ⊢
      omega
    | false =>
      rw [if_neg Bool.false_ne_true] at hsign ⊢
      omega

theorem RoundsTo.signed (negative : Bool) {n : ℤ} (h : RoundsTo q n)
    (hsign : if negative then q ≤ 0 else 0 ≤ q) :
    if negative then n ≤ 0 else 0 ≤ n := by
  have hn := h.sign
  obtain rfl | hne := eq_or_ne q 0
  · have hzero : n.natAbs * one = 0 := by
      refine h.nearest.unique ?_
      rw [abs_zero, zero_mul]
      exact nearest_self representable_zero
    have hn : n = 0 := by simpa [one_pos.ne'] using hzero
    simp [hn]
  · cases negative with
    | true =>
      rw [if_pos rfl] at hsign ⊢
      exact_mod_cast nonpos_of_mul_nonneg_right hn (lt_of_le_of_ne hsign hne)
    | false =>
      rw [if_neg Bool.false_ne_true] at hsign ⊢
      exact_mod_cast nonneg_of_mul_nonneg_right hn (lt_of_le_of_ne hsign hne.symm)

theorem RoundsTo.unique {m n : ℤ} (hm : RoundsTo q m) (hn : RoundsTo q n) : m = n := by
  have hunits := hm.nearest.unique hn.nearest
  have habs : m.natAbs = n.natAbs := Nat.eq_of_mul_eq_mul_right one_pos hunits
  obtain hq | hq := le_total 0 q
  · have hm : 0 ≤ m := hm.signed false hq
    have hn : 0 ≤ n := hn.signed false hq
    omega
  · have hm : m ≤ 0 := hm.signed true hq
    have hn : n ≤ 0 := hn.signed true hq
    omega

theorem Rounds.toInt?_eq_some_iff {x : Binary64} {n : ℤ}
    (h : Rounds (|q| * one) negative x) (hsign : if negative then q ≤ 0 else 0 ≤ q) :
    x.toInt? = some n ↔ RoundsTo q n := by
  cases h with
  | @finite units hunits hlt =>
    rw [toInt?_finite_eq_some_iff]
    constructor
    · rintro ⟨heq, hn⟩
      rw [heq] at hunits hlt
      refine ⟨hunits, hlt, ?_⟩
      cases negative with
      | true => exact mul_nonneg_of_nonpos_of_nonpos hsign (by exact_mod_cast hn)
      | false => exact mul_nonneg hsign (by exact_mod_cast hn)
    · intro hrounds
      exact ⟨hunits.unique hrounds.nearest, hrounds.signed negative hsign⟩
  | infinite hunits hle =>
    constructor
    · intro hnone
      cases hnone
    · intro hrounds
      rw [hunits.unique hrounds.nearest] at hle
      exact absurd hrounds.finite (Nat.not_lt_of_le hle)

theorem representable_mul_pow_iff {j : Nat} : Representable (n * 2 ^ j) ↔ Representable n := by
  constructor
  · rintro ⟨m, k, hm, hmul⟩
    have hpos : 0 < 2 ^ j := Nat.pow_pos two_pos
    obtain hlt | hle := Nat.lt_or_ge k j
    · refine ⟨n, 0, ?_, by rw [pow_zero, mul_one]⟩
      refine Nat.lt_of_le_of_lt ?_ hm
      refine Nat.le_of_mul_le_mul_right ?_ hpos
      rw [hmul]
      exact Nat.mul_le_mul_left _ (Nat.pow_le_pow_right two_pos hlt.le)
    · refine ⟨m, k - j, hm, ?_⟩
      refine Nat.eq_of_mul_eq_mul_right hpos ?_
      rw [hmul, mul_assoc, ← pow_add, Nat.sub_add_cancel hle]
  · rintro ⟨m, k, hm, rfl⟩
    exact ⟨m, k + j, hm, by rw [mul_assoc, pow_add]⟩

theorem roundsTo_self_iff {n : ℤ} :
    RoundsTo n n ↔ Representable n.natAbs ∧ n.natAbs < 2 ^ 1024 := by
  have hunits : |(n : ℚ)| * one = (n.natAbs * one : Nat) := by
    rw [Nat.cast_mul, Nat.cast_natAbs, Int.cast_abs]
  have hlimit : n.natAbs * one < limit ↔ n.natAbs < 2 ^ 1024 := by
    rw [limit_eq, Nat.mul_lt_mul_right one_pos]
  have hrepresentable : Representable (n.natAbs * one) ↔ Representable n.natAbs := by
    rw [one_eq, representable_mul_pow_iff]
  rw [← hrepresentable, ← hlimit]
  constructor
  · intro h
    exact ⟨h.nearest.representable, h.finite⟩
  · rintro ⟨hrepresentable, hlt⟩
    refine ⟨?_, hlt, mul_self_nonneg _⟩
    rw [hunits]
    exact nearest_self hrepresentable

theorem lt_two_pow_of_le (h : m ≤ 2 ^ 53) : m < 2 ^ 1024 :=
  h.trans_lt (by decide +kernel)

theorem roundsTo_self_of_le {n : ℤ} (h : n.natAbs ≤ 2 ^ 53) : RoundsTo n n := by
  have hrepresentable := representable_of_le h 0
  rw [pow_zero, mul_one] at hrepresentable
  exact roundsTo_self_iff.2 ⟨hrepresentable, lt_two_pow_of_le h⟩

end Converge.Binary64

import Converge.Proofs.Endpoint.FormatVersion

/-!
This module contains the round trip of a declared endpoint through a stored one. Main statement: a
valid endpoint comes back with its defaults filled in, whatever represents its format version on the
way, and an invalid one is refused in the same way wherever it is checked.
-/

namespace Converge

open Binary64
open Numeral (Sign Digits Blank)

variable {n : ℤ} {x : Binary64} {v : FormatVersion} {d : Declared} {r : Stored}

namespace Binary64

/--
The rational number that a floating point number is.
-/
def value? : Binary64 → Option ℚ
  | .finite negative units => some (if negative then -(units / one : ℚ) else units / one)
  | _ => none

theorem toInt?_of_value? (h : x.value? = some (n : ℚ)) : x.toInt? = some n := by
  have hone : (0 : ℚ) < one := by exact_mod_cast one_pos
  cases x with
  | infinite => cases h
  | nan => cases h
  | finite negative units =>
    rw [toInt?_finite_eq_some_iff]
    have hnonneg : (0 : ℚ) ≤ units / one := div_nonneg (Nat.cast_nonneg _) hone.le
    have hvalue : (if negative then -(units / one : ℚ) else units / one) = n := Option.some.inj h
    have habs : |(n : ℚ)| = units / one := by
      rw [← hvalue]
      split
      · rw [abs_neg, abs_of_nonneg hnonneg]
      · rw [abs_of_nonneg hnonneg]
    constructor
    · rw [← Int.cast_abs, ← Nat.cast_natAbs, eq_div_iff hone.ne'] at habs
      exact_mod_cast habs.symm
    · cases negative with
      | true =>
        rw [if_pos rfl] at hvalue ⊢
        exact_mod_cast (by linarith : (n : ℚ) ≤ 0)
      | false =>
        rw [if_neg Bool.false_ne_true] at hvalue ⊢
        exact_mod_cast (by linarith : 0 ≤ (n : ℚ))

end Binary64

namespace FormatVersion

/--
What a service may represent the integer `n` by: a floating point number that is exactly `n`, a
numeral of `n` with blanks around it, or the digits of `n` with a fraction of zero behind them.
-/
inductive Represents (n : ℤ) : FormatVersion → Prop
  | float {x : Binary64} (h : x.value? = some (n : ℚ)) : Represents n (.float x)
  | numeral {before after : Text} (s : Sign) (ds : Digits) (hbefore : Blank before)
    (hafter : Blank after) (hne : ds.chars ≠ []) (hlength : ds.length ≤ 4300)
    (hvalue : s.apply ds.value = n) :
    Represents n (.text (before ++ (s.text ++ ds.text) ++ after))
  | pointZero (h : n.natAbs ≤ 2 ^ 53) : Represents n (.text (Numeral.ofInt n ++ ".0"))

/--
The digits of an integer with a fraction of zero behind them.
-/
def pointZero (n : ℤ) : Literal where
  sign := .ofInt n
  whole := .ofNat n.natAbs
  fraction := some (.ofNat 0)
  exponent := none
  nonempty := Digits.ofNat_ne_nil _

theorem text_pointZero (n : ℤ) : (pointZero n).text = Numeral.ofInt n ++ ".0" := by
  rw [Numeral.ofInt_eq, Text.append_assoc]
  rfl

theorem value_pointZero (n : ℤ) : (pointZero n).value = n := by
  have hmagnitude : (pointZero n).magnitude = n.natAbs := by
    unfold Literal.magnitude Literal.exponentValue Literal.fractionDigits pointZero
    simp
  rw [Literal.value_of_magnitude hmagnitude, pointZero, Sign.apply_ofInt]

theorem toInt?_of_represents (h : Represents n v) : v.toInt? = some n := by
  cases h with
  | float h => exact toInt?_of_value? h
  | numeral s ds hbefore hafter hne hlength hvalue =>
    unfold toInt?
    dsimp only
    have hlength : _ ≤ Numeral.maxDigits := hlength
    rw [Numeral.readInt?_padded s hbefore hne hafter, if_pos hlength, hvalue]
  | pointZero h =>
    have hnumeral : ¬(pointZero n).IsNumeral := fun hnumeral => nomatch hnumeral.fraction
    rw [← text_pointZero, toInt?_literal_eq_some_iff, value_pointZero]
    exact .inr ⟨hnumeral, roundsTo_self_of_le h⟩

end FormatVersion

/--
What an endpoint is projected to depends only on the integer that its format version represents.
-/
theorem Stored.project_representation (hversion : r.formatVersion = some (.int n))
    (hv : v.toInt? = some n) :
    ({ r with formatVersion := some v } : Stored).project = r.project := by
  unfold project projectVersion
  rw [hversion]
  dsimp only
  rw [hv]
  rfl

namespace Declared

structure Valid (d : Declared) : Prop where
  name : d.name ≠ .empty
  credential : d.credential ≠ .empty

theorem check_eq_ok_iff : d.check = .ok () ↔ d.Valid := by
  unfold check
  rw [checkRequired_eq_ok_iff]
  exact ⟨fun h => ⟨h.1, h.2⟩, fun h => ⟨h.name, h.credential⟩⟩

/--
What is refused is the first of the required fields that is empty.
-/
theorem check_of_not_valid (h : ¬d.Valid) :
    ∃ f ∈ [Field.name, .credential],
      d.value f = .text .empty ∧ d.check = .error (.invalidRecord f.label d.name none) := by
  unfold check checkRequired
  by_cases hname : d.name = .empty
  · refine ⟨.name, by simp, by rw [value, hname], ?_⟩
    rw [if_pos (Text.isEmpty_iff.2 hname)]
  · have hcredential : d.credential = .empty := by
      by_contra hcredential
      exact h ⟨hname, hcredential⟩
    refine ⟨.credential, by simp, by rw [value, hcredential], ?_⟩
    rw [if_neg (mt Text.isEmpty_iff.1 hname), if_pos (Text.isEmpty_iff.2 hcredential)]

theorem place_of_withDefaults {e : Declared} (h : d.withDefaults = .ok e) (serviceId : Text)
    (version : Int) :
    ∃ r n, d.place serviceId version = .ok r ∧ r.formatVersion = some (.int n) := by
  obtain ⟨-, rfl⟩ := withDefaults_eq_ok_iff.1 h
  unfold place
  rw [h]
  exact ⟨_, _, rfl, rfl⟩

theorem refused_of_check {e : Fault} (h : d.check = .error e) (serviceId : Text) (version : Int) :
    d.withDefaults = .error e ∧ d.place serviceId version = .error e := by
  have hdefaults : d.withDefaults = .error e := by
    unfold withDefaults
    rw [h]
  refine ⟨hdefaults, ?_⟩
  unfold place
  rw [hdefaults]

/--
A valid endpoint comes back with its defaults filled in, which they stay, and an invalid one is
refused in the same way wherever it is checked.
-/
theorem roundTrip (d : Declared) (serviceId : Text) (version : Int) :
    (d.Valid → ∃ e r n, d.withDefaults = .ok e ∧ e.withDefaults = .ok e
        ∧ d.place serviceId version = .ok r ∧ r.project = .ok e ∧ r.formatVersion = some (.int n)
        ∧ ∀ v, FormatVersion.Represents n v →
            ({ r with formatVersion := some v } : Stored).project = .ok e)
      ∧ (¬d.Valid → ∃ f ∈ [Field.name, .credential], d.value f = .text .empty
        ∧ d.withDefaults = .error (.invalidRecord f.label d.name none)
        ∧ d.place serviceId version = .error (.invalidRecord f.label d.name none)) := by
  constructor
  · intro hvalid
    have hcheck := check_eq_ok_iff.2 hvalid
    have hdefaults : d.withDefaults = .ok d.filled := withDefaults_eq_ok_iff.2 ⟨hcheck, rfl⟩
    have hagain : d.filled.withDefaults = .ok d.filled :=
      withDefaults_eq_ok_iff.2 ⟨hcheck, d.filled_filled.symm⟩
    obtain ⟨r, n, hplace, hversion⟩ := place_of_withDefaults hdefaults serviceId version
    have hproject : r.project = .ok d.filled := by
      rw [project_of_place hplace, hdefaults]
    refine ⟨d.filled, r, n, hdefaults, hagain, hplace, hproject, hversion, ?_⟩
    intro v hv
    rw [Stored.project_representation hversion (FormatVersion.toInt?_of_represents hv), hproject]
  · intro hinvalid
    obtain ⟨f, hf, hempty, hcheck⟩ := check_of_not_valid hinvalid
    exact ⟨f, hf, hempty, refused_of_check hcheck serviceId version⟩

/- Neither blanks, nor a sign, nor zeros in front make a difference. -/
theorem project_of_padded_version :
    let d : Declared := { name := "a", credential := "key", formatVersion := some 7 }
    d.Valid ∧ ∃ r, d.place "svc-1" 3 = .ok r
      ∧ ({ r with formatVersion := some (.text " +07 ") } : Stored).project = .ok d := by
  intro d
  have hvalid : d.Valid := ⟨by decide, by decide⟩
  obtain ⟨e, r, n, hdefaults, -, hplace, -, hversion, hrepresented⟩ :=
    (roundTrip d "svc-1" 3).1 hvalid
  obtain rfl : e = d := (withDefaults_eq_ok_iff.1 hdefaults).2
  obtain rfl : n = 7 := by
    cases hplace
    cases hversion
    rfl
  have hblank : Blank " " := by
    unfold Blank
    decide
  have hpadded : FormatVersion.Represents 7 (.text " +07 ") :=
    .numeral .plus ((Digits.ofNat 0).append (.ofNat 7)) hblank hblank (by decide) (by decide)
      (by decide)
  exact ⟨hvalid, r, hplace, hrepresented _ hpadded⟩

end Declared

end Converge

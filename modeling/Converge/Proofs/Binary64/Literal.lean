import Converge.Proofs.Binary64.Decimal
import Converge.Proofs.Numeral

/-!
This module contains decimal literals, the rational numbers that they denote and what is read from
them. Main statements: the floating point number that is read is the nearest one to what a literal
denotes, and a literal is read as an integer if and only if it has no fraction, no exponent and not
too many digits.
-/

namespace Converge.Binary64

open List
open Numeral (Sign Digits IsNumeric)

variable {negative : Bool} {points : List Nat} {t : Text}

structure Exponent where
  capital : Bool
  sign : Sign
  digits : Digits
  nonempty : digits.chars ≠ []

namespace Exponent

def text (e : Exponent) : Text :=
  (if e.capital then "E" else "e") ++ e.sign.text ++ e.digits.text

def value (e : Exponent) : Int :=
  e.sign.apply e.digits.value

end Exponent

/--
A sign, digits, a fraction that may be left out and an exponent that may be.
-/
structure Literal where
  sign : Sign
  whole : Digits
  fraction : Option Digits
  exponent : Option Exponent
  nonempty : whole.chars ≠ []

namespace Literal

variable {l : Literal}

def fractionText (l : Literal) : Text :=
  match l.fraction with
  | some ds => "." ++ ds.text
  | none => .empty

def exponentText (l : Literal) : Text :=
  match l.exponent with
  | some e => e.text
  | none => .empty

/--
What stands behind the digits of a literal that come first.
-/
def rest (l : Literal) : Text :=
  l.fractionText ++ l.exponentText

def text (l : Literal) : Text :=
  l.sign.text ++ (l.whole.text ++ l.rest)

def fractionDigits (l : Literal) : Digits :=
  l.fraction.getD .empty

def exponentValue (l : Literal) : Int :=
  match l.exponent with
  | some e => e.value
  | none => 0

def magnitude (l : Literal) : ℚ :=
  (l.whole.value + l.fractionDigits.value / 10 ^ l.fractionDigits.length) * 10 ^ l.exponentValue

/--
The rational number that a literal denotes.
-/
def value (l : Literal) : ℚ :=
  if l.sign.isMinus then -l.magnitude else l.magnitude

/--
A numeral, which is read as an integer.
-/
structure IsNumeral (l : Literal) : Prop where
  fraction : l.fraction = none
  exponent : l.exponent = none
  length_le : l.whole.length ≤ Numeral.maxDigits

/--
The digits on both sides of the point.
-/
def digits (l : Literal) : Digits :=
  l.whole.append l.fractionDigits

def scale (l : Literal) : Int :=
  l.exponentValue - l.fractionDigits.length

theorem magnitude_eq (l : Literal) : l.magnitude = l.digits.value * 10 ^ l.scale := by
  unfold magnitude digits scale
  rw [Digits.value_append, zpow_sub₀ (by norm_num), zpow_natCast]
  push_cast
  field_simp

theorem magnitude_nonneg (l : Literal) : 0 ≤ l.magnitude := by
  rw [magnitude_eq]
  positivity

theorem abs_value (l : Literal) : |l.value| = l.magnitude := by
  unfold value
  split
  · rw [abs_neg, abs_of_nonneg l.magnitude_nonneg]
  · rw [abs_of_nonneg l.magnitude_nonneg]

theorem value_of_magnitude {k : Nat} (h : l.magnitude = k) :
    l.value = (l.sign.apply k : Int) := by
  unfold value Sign.apply
  rw [h]
  split
  · push_cast
    rfl
  · push_cast
    rfl

theorem value_signed (l : Literal) : if l.sign.isMinus then l.value ≤ 0 else 0 ≤ l.value := by
  unfold value
  have hnonneg := l.magnitude_nonneg
  split
  · linarith
  · exact hnonneg

end Literal

theorem dropUnderscores?_go_of_forall (h : ∀ c ∈ points, c ≠ 95) (kept : List Nat)
    (afterDigit : Bool) :
    dropUnderscores?.go kept afterDigit points = some (kept.reverse ++ points) := by
  induction points generalizing kept afterDigit with
  | nil => rw [dropUnderscores?.go, append_nil]
  | cons c points ih =>
    rw [forall_mem_cons] at h
    rw [dropUnderscores?.go, ih h.2, reverse_cons, append_assoc, singleton_append]
    exact h.1

theorem digitsValue_points (ds : Digits) : digitsValue ds.text.points = ds.value := by
  unfold digitsValue Digits.value Nat.ofDigitChars
  rw [Digits.points_text, foldl_map]
  congr 1
  funext value c
  rw [Nat.mul_comm]
  rfl

theorem isDigit_of_mem {ds : Digits} {c : Nat} (h : c ∈ ds.text.points) :
    Numeral.isDigit c = true := by
  have hbounds := Digits.bounds_of_mem_points h
  simp [Numeral.isDigit, hbounds]

theorem isEmpty_points {ds : Digits} (h : ds.chars ≠ []) : ds.text.points.isEmpty = false := by
  rw [isEmpty_eq_false_iff, Digits.points_text]
  exact fun hnil => h (map_eq_nil_iff.1 hnil)

namespace Exponent

theorem points_text (ex : Exponent) :
    ex.text.points =
      (if ex.capital then 69 else 101) :: (ex.sign.text ++ ex.digits.text).points := by
  unfold text
  rw [Text.append_assoc, Text.points_append]
  split
  · rfl
  · rfl

theorem exponent?_points (ex : Exponent) : exponent? ex.text.points = some ex.value := by
  have hall : ex.digits.text.points.all Numeral.isDigit = true :=
    all_eq_true.2 fun c hc => isDigit_of_mem hc
  have hhead := Numeral.head?_points_append ex.nonempty []
  rw [append_nil] at hhead
  have hread (negative : Bool) :
      (if ex.digits.text.points.isEmpty || !ex.digits.text.points.all Numeral.isDigit then none
        else some (if negative then -(digitsValue ex.digits.text.points : Int)
          else digitsValue ex.digits.text.points)) =
        some (if negative then -(ex.digits.value : Int) else ex.digits.value) := by
    rw [isEmpty_points ex.nonempty, hall, digitsValue_points]
    rfl
  unfold exponent? value
  rw [points_text, Text.points_append]
  dsimp only
  rw [if_pos (by cases ex.capital <;> rfl)]
  cases ex.sign with
  | minus => exact hread true
  | plus => exact hread false
  | none =>
    rw [Sign.points_text_none, nil_append]
    split
    next heq => exact absurd (hhead 45 (by rw [heq]; rfl)) (by decide)
    next heq => exact absurd (hhead 43 (by rw [heq]; rfl)) (by decide)
    next => exact hread false

end Exponent

/--
A sign is split off what begins with a digit.
-/
theorem read?_of_normalize {s : Sign} (hnormalize : Numeral.normalize t = s.text.points ++ points)
    (hne : ∀ c ∈ points, c ≠ 95) (hhead : ∀ c ∈ points.head?, 48 ≤ c) :
    read? t = unsigned? s.isMinus points := by
  have hsign : ∀ c ∈ s.text.points ++ points, c ≠ 95 := by
    rw [forall_mem_append]
    refine ⟨?_, hne⟩
    cases s <;> decide
  unfold read? dropUnderscores?
  rw [hnormalize, dropUnderscores?_go_of_forall hsign, reverse_nil, nil_append]
  cases s with
  | minus => rfl
  | plus => rfl
  | none =>
    rw [Sign.points_text_none, nil_append]
    split
    next heq => cases heq; exact absurd (hhead 45 rfl) (by decide)
    next heq => cases heq; exact absurd (hhead 43 rfl) (by decide)
    next heq => cases heq; rfl
    next heq => cases heq

namespace Literal

variable {l : Literal}

theorem head?_exponentText (l : Literal) :
    ∀ c ∈ l.exponentText.points.head?, c = 69 ∨ c = 101 := by
  unfold exponentText
  cases l.exponent with
  | none => exact fun c hc => nomatch hc
  | some ex =>
    dsimp only
    rw [ex.points_text, head?_cons]
    intro c hc
    cases hc
    cases ex.capital
    · exact .inr rfl
    · exact .inl rfl

theorem exponent?_exponentText (l : Literal) :
    exponent? l.exponentText.points = some l.exponentValue := by
  unfold exponentText exponentValue
  cases l.exponent with
  | some ex => exact ex.exponent?_points
  | none => rfl

/--
The point and the digits behind it, if they are there, are split off.
-/
theorem points_fractionText (l : Literal) :
    l.fractionText.points = [] ∧ l.fractionDigits = .empty
      ∨ l.fractionText.points = 46 :: l.fractionDigits.text.points := by
  unfold fractionText fractionDigits
  cases l.fraction with
  | some ds => exact .inr rfl
  | none => exact .inl ⟨rfl, rfl⟩

theorem isDigit_head?_exponentText (l : Literal) :
    ∀ c ∈ l.exponentText.points.head?, Numeral.isDigit c = false := by
  intro c hc
  obtain rfl | rfl := l.head?_exponentText c hc
  · rfl
  · rfl

theorem isDigit_head?_rest (l : Literal) :
    ∀ c ∈ l.rest.points.head?, Numeral.isDigit c = false := by
  rw [rest, Text.points_append]
  obtain ⟨hnil, -⟩ | hpoint := l.points_fractionText
  · rw [hnil, nil_append]
    exact l.isDigit_head?_exponentText
  · rw [hpoint]
    intro c hc
    cases hc
    rfl

/--
What begins with a digit is no word.
-/
theorem lowerAscii_ne (l : Literal) {word : Text} (hword : ∀ d ∈ word.points.head?, 57 < d) :
    Text.lowerAscii ⟨l.whole.text.points ++ l.rest.points⟩ ≠ word := by
  rintro rfl
  obtain ⟨d, chars, hchars⟩ := exists_cons_of_ne_nil l.nonempty
  have hd : d.toNat ≤ 57 :=
    (Char.isDigit_iff_toNat.1 (l.whole.isDigit d (by rw [hchars]; exact mem_cons_self))).2
  have hlt := hword d.toNat (by
    rw [Text.lowerAscii, Digits.points_text, hchars, map_cons, cons_append, map_cons,
      if_neg (by simp; omega)]
    rfl)
  omega

theorem unsigned?_points (l : Literal) :
    unsigned? negative (l.whole.text.points ++ l.rest.points) =
      some (ofDecimal negative l.digits.value l.scale) := by
  have hnotDigit := l.isDigit_head?_exponentText
  have hread :
      (if l.whole.text.points.isEmpty && l.fractionDigits.text.points.isEmpty then none
        else (exponent? l.exponentText.points).map fun exponent =>
          ofDecimal negative (digitsValue (l.whole.text.points ++ l.fractionDigits.text.points))
            (exponent - l.fractionDigits.text.points.length)) =
        some (ofDecimal negative l.digits.value l.scale) := by
    rw [isEmpty_points l.nonempty, Bool.false_and, if_neg Bool.false_ne_true,
      exponent?_exponentText, Option.map_some, ← Digits.points_append, digitsValue_points,
      Digits.points_text, length_map]
    rfl
  unfold unsigned?
  dsimp only
  rw [Numeral.takeWhile_append_of_head (fun _ => isDigit_of_mem) l.isDigit_head?_rest,
    Numeral.dropWhile_append_of_head (fun _ => isDigit_of_mem) l.isDigit_head?_rest, if_neg, if_neg]
  · rw [rest, Text.points_append]
    obtain ⟨hnil, hempty⟩ | hpoint := l.points_fractionText
    · rw [hempty] at hread
      rw [hnil, nil_append]
      split
      next heq =>
        have hpoint := l.head?_exponentText 46 (by rw [heq]; rfl)
        omega
      next => exact hread
    · rw [hpoint, cons_append]
      split
      next heq =>
        cases heq
        rw [Numeral.takeWhile_append_of_head (fun _ => isDigit_of_mem) hnotDigit,
          Numeral.dropWhile_append_of_head (fun _ => isDigit_of_mem) hnotDigit]
        exact hread
      next hne => exact absurd rfl (hne _)
  · exact l.lowerAscii_ne (by decide)
  · rw [Bool.or_eq_true, decide_eq_true_iff, decide_eq_true_iff]
    exact not_or_intro (l.lowerAscii_ne (by decide)) (l.lowerAscii_ne (by decide))

theorem isNumeric_of_mem {c : Nat} (h : c ∈ l.text.points) : IsNumeric c := by
  unfold text rest at h
  rw [Text.points_append, Text.points_append, Text.points_append, mem_append, mem_append,
    mem_append] at h
  obtain h | h | h | h := h
  · exact Numeral.isNumeric_of_mem_sign h
  · exact Numeral.isNumeric_of_mem_digits h
  · obtain ⟨hnil, -⟩ | hpoint := l.points_fractionText
    · rw [hnil] at h
      cases h
    · rw [hpoint, mem_cons] at h
      obtain rfl | h := h
      · exact .inr (by decide)
      · exact Numeral.isNumeric_of_mem_digits h
  · unfold exponentText at h
    split at h
    next ex _ =>
      rw [ex.points_text, mem_cons, Text.points_append, mem_append] at h
      obtain rfl | h | h := h
      · right
        cases ex.capital <;> decide
      · exact Numeral.isNumeric_of_mem_sign h
      · exact Numeral.isNumeric_of_mem_digits h
    next => cases h

theorem normalize_text (l : Literal) :
    Numeral.normalize l.text = l.sign.text.points ++ (l.whole.text.points ++ l.rest.points) := by
  have hnormalize := Numeral.normalize_append (t := l.text) Numeral.blank_empty
    (fun _ => isNumeric_of_mem) Numeral.blank_empty
  rw [Text.empty_append, Text.append_empty] at hnormalize
  exact hnormalize

/--
What is read is the nearest number to what the literal denotes.
-/
theorem exists_read?_text (l : Literal) :
    ∃ x, read? l.text = some x ∧ Rounds (|l.value| * one) l.sign.isMinus x := by
  have hne : ∀ c ∈ l.whole.text.points ++ l.rest.points, c ≠ 95 := by
    intro c hc
    have hmem : c ∈ l.text.points := mem_append_right _ hc
    exact (isNumeric_of_mem hmem).ne
  refine ⟨ofDecimal l.sign.isMinus l.digits.value l.scale, ?_, ?_⟩
  · rw [read?_of_normalize l.normalize_text hne (Numeral.head?_points_append l.nonempty _),
      unsigned?_points]
  · rw [abs_value, magnitude_eq]
    exact rounds_ofDecimal

theorem IsNumeral.value_eq (h : l.IsNumeral) : l.value = (l.sign.apply l.whole.value : Int) := by
  have hdigits : l.fractionDigits = .empty := by
    rw [fractionDigits, h.fraction]
    rfl
  have hmagnitude : l.magnitude = l.whole.value := by
    unfold magnitude exponentValue
    rw [hdigits, h.exponent]
    simp [Digits.value, Digits.empty]
  exact value_of_magnitude hmagnitude

theorem readInt?_text (h : l.IsNumeral) :
    Numeral.readInt? 10 l.text = some (l.sign.apply l.whole.value) := by
  have hfraction : l.fractionText = .empty := by
    rw [fractionText, h.fraction]
  have hexponent : l.exponentText = .empty := by
    rw [exponentText, h.exponent]
  have hread := Numeral.readInt?_padded l.sign Numeral.blank_empty l.nonempty
    Numeral.blank_empty
  rw [if_pos h.length_le, Text.empty_append, Text.append_empty] at hread
  rw [text, rest, hfraction, hexponent, Text.append_empty, Text.append_empty]
  exact hread

theorem digit?_of_mark {c : Nat} (h : c ∈ [46, 69, 101]) :
    c ≠ 95 ∧ ∀ d, Numeral.digit? c = some d → 10 ≤ d := by
  revert c
  decide

theorem points_rest_eq_nil (h : ∀ c ∈ l.rest.points, c ∉ [46, 69, 101]) :
    l.fraction = none ∧ l.exponent = none ∧ l.rest.points = [] := by
  unfold rest fractionText exponentText at h ⊢
  cases hfraction : l.fraction with
  | some ds =>
    rw [hfraction] at h
    exact absurd (by decide) (h 46 mem_cons_self)
  | none =>
    rw [hfraction] at h
    cases hexponent : l.exponent with
    | none => exact ⟨rfl, rfl, rfl⟩
    | some ex =>
      rw [hexponent] at h
      dsimp only at h
      rw [Text.empty_append, ex.points_text] at h
      exact absurd (by cases ex.capital <;> decide) (h _ mem_cons_self)

/--
No integer has a point, the mark of an exponent or more than 4300 digits.
-/
theorem readInt?_text_eq_none (h : ¬l.IsNumeral) : Numeral.readInt? 10 l.text = none := by
  have hhead := Numeral.head?_points_append l.nonempty l.rest.points
  rw [Numeral.readInt?_of_normalize l.normalize_text hhead, Option.map_eq_none_iff]
  by_cases hmark : ∃ c ∈ l.rest.points, c ∈ [46, 69, 101]
  · obtain ⟨c, hc, hmark⟩ := hmark
    obtain ⟨hne, hdigit⟩ := digit?_of_mark hmark
    exact Numeral.unsigned?_eq_none (mem_append_right _ hc) hne hdigit
  · obtain ⟨hfraction, hexponent, hrest⟩ := points_rest_eq_nil (by simpa using hmark)
    rw [hrest, append_nil, Numeral.unsigned?_points l.nonempty, if_neg]
    exact fun hlength => h ⟨hfraction, hexponent, hlength⟩

end Literal

end Converge.Binary64

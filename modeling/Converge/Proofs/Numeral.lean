import Converge.Numeral
import Mathlib.Algebra.Group.Nat.Defs
import Mathlib.Data.List.TakeWhile

/-!
This module contains the reading of integers that were written. Main statement: a sign and not too
many digits are read as the integer that they denote, whatever blanks are around them.
-/

namespace Converge.Numeral

open List

variable {cs : List Char} {n : Nat} {points : List Nat} {t : Text}

inductive Sign
  | none
  | plus
  | minus
deriving DecidableEq

namespace Sign

def text : Sign → Text
  | .none => .empty
  | .plus => "+"
  | .minus => "-"

def isMinus : Sign → Bool
  | .minus => true
  | _ => false

def apply (s : Sign) (n : Nat) : Int :=
  if s.isMinus then -n else n

def ofInt (n : Int) : Sign :=
  if n < 0 then .minus else .none

@[simp]
theorem apply_ofInt (n : Int) : (ofInt n).apply n.natAbs = n := by
  unfold apply ofInt
  split
  · rw [isMinus, if_pos rfl]
    omega
  · rw [isMinus, if_neg Bool.false_ne_true]
    · omega
    · simp

@[simp]
theorem points_text_none : Sign.none.text.points = [] := rfl

@[simp]
theorem points_text_plus : Sign.plus.text.points = [43] := rfl

@[simp]
theorem points_text_minus : Sign.minus.text.points = [45] := rfl

end Sign

structure Digits where
  chars : List Char
  isDigit : ∀ c ∈ chars, c.isDigit = true

namespace Digits

variable {ds : Digits}

def text (ds : Digits) : Text :=
  ⟨ds.chars.map Char.toNat⟩

def value (ds : Digits) : Nat :=
  Nat.ofDigitChars 10 ds.chars 0

def length (ds : Digits) : Nat :=
  ds.chars.length

def empty : Digits where
  chars := []
  isDigit := by simp

def append (ds es : Digits) : Digits where
  chars := ds.chars ++ es.chars
  isDigit := by
    intro c hc
    exact (mem_append.1 hc).elim (ds.isDigit c) (es.isDigit c)

def ofNat (n : Nat) : Digits where
  chars := Nat.toDigits 10 n
  isDigit := fun _ => Nat.isDigit_of_mem_toDigits (by decide) (by decide)

theorem ofNat_ne_nil (n : Nat) : (ofNat n).chars ≠ [] :=
  Nat.toDigits_ne_nil

@[simp]
theorem points_text : ds.text.points = ds.chars.map Char.toNat := rfl

theorem points_append (ds es : Digits) :
    (ds.append es).text.points = ds.text.points ++ es.text.points :=
  map_append

@[simp]
theorem value_ofNat (n : Nat) : (ofNat n).value = n :=
  Nat.ofDigitChars_ten_toDigits

theorem value_append (ds es : Digits) :
    (ds.append es).value = ds.value * 10 ^ es.length + es.value := by
  unfold value append length
  rw [Nat.ofDigitChars_append, Nat.ofDigitChars_eq_ofDigitChars_zero, Nat.mul_comm]

theorem bounds_of_mem_points {c : Nat} (h : c ∈ ds.text.points) : 48 ≤ c ∧ c ≤ 57 := by
  obtain ⟨d, hd, rfl⟩ := mem_map.1 h
  exact Char.isDigit_iff_toNat.1 (ds.isDigit d hd)

end Digits

theorem digit?_of_bounds {c : Nat} (hge : 48 ≤ c) (hle : c ≤ 57) :
    CharClass.digit? c = some (c - 48) := by
  unfold CharClass.digit? CharClass.digitStarts
  rw [find?_cons_of_pos]
  · rfl
  · simp [hge, hle]

theorem digit?_of_mem {c : Nat} (h : c ∈ [43, 45, 46, 69, 101]) : CharClass.digit? c = none := by
  revert c
  decide

theorem magnitude?_go_of_isDigit (h : ∀ c ∈ cs, c.isDigit = true) (value : Nat)
    {afterDigit : Bool} (hne : cs ≠ [] ∨ afterDigit = true) :
    magnitude?.go 10 value afterDigit (cs.map Char.toNat) =
      some (Nat.ofDigitChars 10 cs value) := by
  induction cs generalizing value afterDigit with
  | nil =>
    obtain hne | rfl := hne
    · exact absurd rfl hne
    · rfl
  | cons c cs ih =>
    rw [forall_mem_cons] at h
    obtain ⟨hge, hle⟩ : 48 ≤ c.toNat ∧ c.toNat ≤ 57 := Char.isDigit_iff_toNat.1 h.1
    have hdigit : digit? c.toNat = some (c.toNat - 48) := by
      unfold digit?
      rw [if_pos]
      simp [hge, hle]
    rw [map_cons, magnitude?.go, if_neg (by omega), hdigit]
    dsimp only
    rw [if_pos (by omega), ih h.2 _ (.inr rfl), Nat.ofDigitChars_cons, Nat.mul_comm]
    rfl

/--
What is neither an underscore nor a digit of the base makes a numeral unreadable.
-/
theorem magnitude?_go_eq_none {base c : Nat} (h : c ∈ points) (hne : c ≠ 95)
    (hdigit : ∀ d, digit? c = some d → base ≤ d) (value : Nat) (afterDigit : Bool) :
    magnitude?.go base value afterDigit points = none := by
  induction points generalizing value afterDigit with
  | nil => cases h
  | cons p points ih =>
    rw [magnitude?.go]
    obtain rfl | h := mem_cons.1 h
    · rw [if_neg hne]
      split
      · next d hd => rw [if_neg (Nat.not_lt_of_le (hdigit d hd))]
      · rfl
    · split
      · split
        · exact ih h _ _
        · rfl
      · split
        · split
          · exact ih h _ _
          · rfl
        · rfl

theorem dropMark_ten (cs : List Nat) : dropMark 10 cs = cs := by
  unfold dropMark
  split
  · rw [if_neg (by simp)]
  · rfl

theorem digitCount_points (ds : Digits) : digitCount ds.text.points = ds.length := by
  unfold digitCount
  rw [countP_eq_length.2, Digits.points_text, length_map, Digits.length]
  intro c hc
  have hbounds := Digits.bounds_of_mem_points hc
  exact decide_eq_true (by omega)

theorem unsigned?_points {ds : Digits} (hne : ds.chars ≠ []) :
    unsigned? 10 ds.text.points = if ds.length ≤ maxDigits then some ds.value else none := by
  unfold unsigned?
  rw [dropMark_ten]
  dsimp only
  rw [digitCount_points]
  split
  next hlong =>
    rw [if_neg]
    simpa using hlong
  next hshort =>
    rw [if_pos (by simpa using hshort)]
    exact magnitude?_go_of_isDigit ds.isDigit 0 (.inl hne)

theorem unsigned?_eq_none {c : Nat} (h : c ∈ points) (hne : c ≠ 95)
    (hdigit : ∀ d, digit? c = some d → 10 ≤ d) : unsigned? 10 points = none := by
  unfold unsigned?
  rw [dropMark_ten]
  dsimp only
  split
  · rfl
  · exact magnitude?_go_eq_none h hne hdigit 0 false

section

variable {p : Nat → Bool} {before after : List Nat}

theorem takeWhile_append_of_head (hbefore : ∀ c ∈ before, p c = true)
    (h : ∀ c ∈ points.head?, p c = false) : (before ++ points).takeWhile p = before := by
  rw [takeWhile_append_of_pos hbefore]
  cases points with
  | nil => rw [takeWhile_nil, append_nil]
  | cons c points => rw [takeWhile_cons_of_neg (by simp [h c rfl]), append_nil]

theorem dropWhile_append_of_head (hbefore : ∀ c ∈ before, p c = true)
    (h : ∀ c ∈ points.head?, p c = false) : (before ++ points).dropWhile p = points := by
  rw [dropWhile_append_of_pos hbefore]
  cases points with
  | nil => rw [dropWhile_nil]
  | cons c points => rw [dropWhile_cons_of_neg (by simp [h c rfl])]

theorem dropBlanks_append (hbefore : ∀ c ∈ before, p c = true) (h : ∀ c ∈ points, p c = false)
    (hafter : ∀ c ∈ after, p c = true) : dropBlanks p (before ++ points ++ after) = points := by
  unfold dropBlanks
  by_cases hne : points = []
  · rw [hne, append_nil, dropWhile_eq_nil_iff.2 (forall_mem_append.2 ⟨hbefore, hafter⟩)]
    rfl
  · have hafter : ∀ c ∈ after.reverse, p c = true := fun c hc => hafter c (mem_reverse.1 hc)
    rw [append_assoc, dropWhile_append_of_head hbefore, reverse_append,
      dropWhile_append_of_head hafter, reverse_reverse]
    · exact fun c hc => h c (mem_reverse.1 (mem_of_mem_head? hc))
    · obtain ⟨c, points, rfl⟩ := exists_cons_of_ne_nil hne
      rintro _ ⟨⟩
      exact h c mem_cons_self

end

/--
A code point of a numeral: a digit, a sign, a point or the mark of an exponent.
-/
def IsNumeric (c : Nat) : Prop :=
  48 ≤ c ∧ c ≤ 57 ∨ c ∈ [43, 45, 46, 69, 101]

theorem IsNumeric.ne {c : Nat} (h : IsNumeric c) : c ≠ 95 := by
  rintro rfl
  obtain h | h := h
  · omega
  · revert h
    decide

theorem isNumeric_of_mem_digits {ds : Digits} {c : Nat} (h : c ∈ ds.text.points) : IsNumeric c :=
  .inl (Digits.bounds_of_mem_points h)

theorem isNumeric_of_mem_sign {s : Sign} {c : Nat} (h : c ∈ s.text.points) : IsNumeric c := by
  cases s with
  | none => cases h
  | plus => exact .inr (by rw [mem_singleton.1 h]; decide)
  | minus => exact .inr (by rw [mem_singleton.1 h]; decide)

theorem isBlank_of_isNumeric {c : Nat} (h : IsNumeric c) (allAscii : Bool) :
    isBlank allAscii c = false := by
  obtain ⟨hge, hle⟩ | h := h
  · simp only [isBlank, CharClass.isWhite, CharClass.isSeparator, Bool.or_eq_false_iff,
      Bool.and_eq_false_imp, decide_eq_true_eq, decide_eq_false_iff_not]
    omega
  · revert c
    cases allAscii <;> decide

def Blank (t : Text) : Prop :=
  ∀ c ∈ t.points, CharClass.isWhite c = true

theorem blank_empty : Blank .empty := by
  intro c hc
  cases hc

theorem isBlank_of_isWhite {c : Nat} (h : CharClass.isWhite c = true) (allAscii : Bool) :
    isBlank allAscii c = true := by
  unfold isBlank
  rw [h, Bool.true_or]

/--
Normalizing drops the blanks and leaves what is already ASCII as it is.
-/
theorem normalize_append {before after : Text} (hbefore : Blank before)
    (h : ∀ c ∈ t.points, IsNumeric c) (hafter : Blank after) :
    normalize (before ++ t ++ after) = t.points := by
  unfold normalize
  dsimp only
  rw [Text.points_append, Text.points_append, dropBlanks_append]
  · refine (map_congr_left ?_).trans (map_id t.points)
    intro c hc
    obtain ⟨hge, hle⟩ | hc := h c hc
    · rw [digit?_of_bounds hge hle]
      dsimp only [id]
      omega
    · rw [digit?_of_mem hc]
      rfl
  · exact fun c hc => isBlank_of_isWhite (hbefore c hc) _
  · exact fun c hc => isBlank_of_isNumeric (h c hc) _
  · exact fun c hc => isBlank_of_isWhite (hafter c hc) _

/--
A sign is split off what begins with a digit.
-/
theorem readInt?_of_normalize {s : Sign} (hnormalize : normalize t = s.text.points ++ points)
    (hhead : ∀ c ∈ points.head?, 48 ≤ c) :
    readInt? 10 t = (unsigned? 10 points).map s.apply := by
  unfold readInt?
  rw [hnormalize]
  cases s with
  | minus => cases hread : unsigned? 10 points <;> simp [hread, Sign.apply, Sign.isMinus]
  | plus => cases hread : unsigned? 10 points <;> simp [hread, Sign.apply, Sign.isMinus]
  | none =>
    rw [Sign.points_text_none, nil_append]
    split
    · exact absurd (hhead 45 rfl) (by decide)
    · exact absurd (hhead 43 rfl) (by decide)
    · cases unsigned? 10 points <;> rfl

theorem head?_points_append {ds : Digits} (hne : ds.chars ≠ []) (rest : List Nat) :
    ∀ c ∈ (ds.text.points ++ rest).head?, 48 ≤ c := by
  obtain ⟨d, chars, hchars⟩ := exists_cons_of_ne_nil hne
  intro c hc
  have hmem : c ∈ ds.text.points := by
    rw [Digits.points_text, hchars] at hc ⊢
    rw [map_cons, cons_append, head?_cons, Option.mem_def, Option.some_inj] at hc
    rw [map_cons, hc]
    exact mem_cons_self
  exact (Digits.bounds_of_mem_points hmem).1

/--
Reading is limited to 4300 digits, leading zeros included.
-/
theorem readInt?_padded {before after : Text} (s : Sign) {ds : Digits} (hbefore : Blank before)
    (hne : ds.chars ≠ []) (hafter : Blank after) :
    readInt? 10 (before ++ (s.text ++ ds.text) ++ after) =
      if ds.length ≤ maxDigits then some (s.apply ds.value) else none := by
  have hnumeric : ∀ c ∈ (s.text ++ ds.text).points, IsNumeric c := by
    intro c hc
    exact (mem_append.1 hc).elim isNumeric_of_mem_sign isNumeric_of_mem_digits
  have hhead := head?_points_append hne []
  rw [append_nil] at hhead
  have hnormalize := normalize_append hbefore hnumeric hafter
  rw [Text.points_append] at hnormalize
  rw [readInt?_of_normalize hnormalize hhead, unsigned?_points hne]
  split
  · rfl
  · rfl

theorem ofInt_eq (n : Int) :
    ofInt n = (Sign.ofInt n).text ++ (Digits.ofNat n.natAbs).text := by
  unfold ofInt Sign.ofInt
  split
  · rfl
  · rfl

/--
An integer that may be written is read again.
-/
theorem readInt?_ofInt {n : Int} (h : (ofNat n.natAbs).length ≤ maxDigits) :
    readInt? 10 (ofInt n) = some n := by
  have hlength : (Digits.ofNat n.natAbs).length ≤ maxDigits := by
    rw [Text.length, ofNat, length_map] at h
    exact h
  have hread := readInt?_padded (.ofInt n) blank_empty (Digits.ofNat_ne_nil n.natAbs) blank_empty
  rw [Text.empty_append, Text.append_empty, ← ofInt_eq, if_pos hlength, Digits.value_ofNat,
    Sign.apply_ofInt] at hread
  exact hread

end Converge.Numeral

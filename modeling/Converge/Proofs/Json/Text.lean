import Converge.Json.Writer
import Converge.Proofs.Text.Surrogates
import Mathlib.Algebra.Group.Nat.Defs
import Mathlib.Data.Option.Basic

/-!
This module contains the reading of texts that were written as JSON. Main statements: what is written
is printable ASCII, and a text of code points is read again with its pairs of surrogates joined.
-/

namespace Converge

open List

namespace Numeral

def hexDigit (d : Nat) : Nat :=
  (Nat.digitChar d).toNat

theorem digit?_hexDigit : ∀ d < 16, digit? (hexDigit d) = some d := by
  decide

theorem isPrintable_hexDigit : ∀ d < 16, IsPrintable (hexDigit d) := by
  decide

theorem points_hex_one {n : Nat} (h : n < 16) : (hex 1 n).points = [hexDigit n] := by
  unfold hex
  rw [Nat.toDigits_of_lt_base h]
  rfl

theorem points_hex_succ {width : Nat} (hwidth : 0 < width) (n : Nat) :
    (hex (width + 1) n).points = (hex width (n / 16)).points ++ [hexDigit (n % 16)] := by
  unfold hex
  dsimp only
  by_cases h : n < 16
  · rw [Nat.toDigits_of_lt_base h, Nat.div_eq_of_lt h, Nat.mod_eq_of_lt h,
      Nat.toDigits_of_lt_base (by decide), map_singleton, map_singleton]
    obtain ⟨w, rfl⟩ : ∃ w, width = w + 1 := ⟨width - 1, by omega⟩
    change replicate (w + 1) 48 ++ [hexDigit n] = replicate w 48 ++ [48] ++ [hexDigit n]
    rw [replicate_succ']
  · rw [Nat.toDigits_of_base_le (by decide) (by omega), map_append, length_append, map_singleton,
      length_singleton, Nat.add_sub_add_right, append_assoc]
    rfl

theorem points_hex_four {n : Nat} (h : n < 0x10000) :
    (hex 4 n).points = [hexDigit (n / 16 / 16 / 16), hexDigit (n / 16 / 16 % 16),
      hexDigit (n / 16 % 16), hexDigit (n % 16)] := by
  rw [points_hex_succ (by decide), points_hex_succ (by decide), points_hex_succ (by decide),
    points_hex_one (by omega)]
  rfl

end Numeral

namespace Json

open Numeral (hexDigit)

variable {c unit : Nat} {cs points rest : List Nat} {high : Bool}

theorem hexValue?_append {digits : List Nat} {n d : Nat} (h : hexValue? digits = some n)
    (hd : d < 16) : hexValue? (digits ++ [hexDigit d]) = some (n * 16 + d) := by
  unfold hexValue? at h ⊢
  rw [foldl_append, h, foldl_cons, foldl_nil, Numeral.digit?_hexDigit d hd]
  exact if_pos hd

theorem hexValue?_hex {width n : Nat} (h : n < 16 ^ (width + 1)) :
    hexValue? (Numeral.hex (width + 1) n).points = some n := by
  induction width generalizing n with
  | zero =>
    rw [Numeral.points_hex_one h, ← nil_append [hexDigit n], hexValue?_append rfl h, Nat.zero_mul,
      Nat.zero_add]
  | succ width ih =>
    rw [Nat.pow_succ] at h
    rw [Numeral.points_hex_succ (by omega), hexValue?_append (ih (by omega)) (by omega),
      Option.some_inj]
    omega

theorem readText?_go_escapeUnit (h : unit < 0x10000) :
    readText?.go high points ((escapeUnit unit).points ++ rest) =
      readText?.go (isHigh unit) (joinUnit high points unit) rest := by
  have hpoints : (escapeUnit unit).points = 92 :: 117 :: (Numeral.hex 4 unit).points := rfl
  have hvalue : hexValue? (Numeral.hex 4 unit).points = some unit := hexValue?_hex h
  rw [hpoints]
  rw [Numeral.points_hex_four h] at hvalue ⊢
  dsimp only [cons_append, nil_append]
  rw [readText?.go.eq_3, hvalue]

theorem joinUnit_of_not_isLow (h : isLow unit = false) (high : Bool) (points : List Nat) :
    joinUnit high points unit = unit :: points := by
  unfold joinUnit
  split
  · exact if_neg (ne_true_of_eq_false h)
  · rfl

theorem joinUnit_of_isLow {surrogate : Nat} (h : isLow unit = true) (points : List Nat) :
    joinUnit true (surrogate :: points) unit = ofPair surrogate unit :: points :=
  if_pos h

/--
The ways in which a code point is written.
-/
inductive Spelling (c : Nat) : Text → Prop
  | plain (h : IsPrintable c) (hquote : c ≠ 34) (hbackslash : c ≠ 92) : Spelling c ⟨[c]⟩
  | marked {mark : Nat} (h : simpleEscape? mark = some c) (hmark : IsPrintable mark)
    (hc : c < 0xD800) : Spelling c ⟨[92, mark]⟩
  | unit (h : c < 0x10000) : Spelling c (escapeUnit c)
  | pair {high low : Nat} (hhigh : isHigh high = true) (hlow : isLow low = true)
    (h : ofPair high low = c) : Spelling c (escapeUnit high ++ escapeUnit low)

theorem spelling_marked (mark : Nat) (h : simpleEscape? mark = some c)
    (hmark : IsPrintable mark ∧ c < 0xD800) : Spelling c ⟨[92, mark]⟩ :=
  .marked h hmark.1 hmark.2

theorem spelling_escapePoint (hc : IsCodePoint c) : Spelling c (escapePoint c) := by
  unfold IsCodePoint at hc
  unfold escapePoint
  split
  next hc =>
    subst hc
    exact spelling_marked 34 rfl (by decide)
  next hquote =>
  split
  next hc =>
    subst hc
    exact spelling_marked 92 rfl (by decide)
  next hbackslash =>
  split
  next hc =>
    subst hc
    exact spelling_marked 110 rfl (by decide)
  split
  next hc =>
    subst hc
    exact spelling_marked 114 rfl (by decide)
  split
  next hc =>
    subst hc
    exact spelling_marked 116 rfl (by decide)
  split
  next hc =>
    subst hc
    exact spelling_marked 98 rfl (by decide)
  split
  next hc =>
    subst hc
    exact spelling_marked 102 rfl (by decide)
  split
  next hplain => exact .plain (by simpa [IsPrintable] using hplain) hquote hbackslash
  split
  next hunit => exact .unit hunit
  next hunit =>
    apply Spelling.pair
    · rw [isHigh_iff]
      omega
    · rw [isLow_iff]
      omega
    · unfold ofPair
      omega

theorem readText?_go_spelling {t : Text} (h : Spelling c t) :
    readText?.go high points (t.points ++ rest) =
      readText?.go (isHigh c) (joinUnit high points c) rest := by
  cases h with
  | plain h hquote hbackslash =>
    obtain ⟨hge, hlt⟩ := h
    rw [isHigh_of_lt (by omega), joinUnit_of_not_isLow (isLow_of_lt (by omega)), cons_append,
      nil_append, readText?.go.eq_5, if_neg (by omega)]
    · exact hquote
    · exact fun _ _ _ _ _ hc => (hbackslash hc).elim
    · exact fun _ _ hc => (hbackslash hc).elim
  | marked h _ hc =>
    rw [isHigh_of_lt hc, joinUnit_of_not_isLow (isLow_of_lt (by omega)), cons_append, cons_append,
      nil_append, readText?.go.eq_4, h]
    rintro a b d e rest rfl
    cases h
  | unit h => exact readText?_go_escapeUnit h
  | @pair first second hfirst hsecond h =>
    have hle := le_ofPair first second
    rw [isHigh_iff] at hfirst
    rw [isLow_iff] at hsecond
    rw [Text.points_append, append_assoc, readText?_go_escapeUnit (by omega),
      joinUnit_of_not_isLow (isLow_of_lt (by omega)), isHigh_iff.2 hfirst,
      readText?_go_escapeUnit (by omega), joinUnit_of_isLow (isLow_iff.2 hsecond), h]
    have hhigh : isHigh second = false := by
      rw [isHigh_eq_false_iff]
      omega
    have hc : isHigh c = false ∧ isLow c = false := by
      rw [isHigh_eq_false_iff, isLow_eq_false_iff]
      omega
    rw [hhigh, hc.1, joinUnit_of_not_isLow hc.2]

def escaped (cs : List Nat) : List Nat :=
  (Text.concat (cs.map escapePoint)).points

theorem escaped_cons (c : Nat) (cs : List Nat) :
    escaped (c :: cs) = (escapePoint c).points ++ escaped cs := rfl

/--
A high surrogate that has just been read is `pending`: it may yet be joined.
-/
theorem readText?_go_escaped (hcs : ∀ c ∈ cs, IsCodePoint c) (pending : Option Nat)
    (points : List Nat) (hpending : ∀ c ∈ pending, isHigh c = true) :
    readText?.go pending.isSome (pending.toList ++ points) (escaped cs ++ 34 :: rest) =
      some (⟨points.reverse ++ joinPairs (pending.toList ++ cs)⟩, rest) := by
  induction cs generalizing pending points with
  | nil =>
    change readText?.go _ _ (34 :: rest) = _
    rw [readText?.go.eq_2]
    cases pending <;> simp [joinPairs]
  | cons c cs ih =>
    rw [forall_mem_cons] at hcs
    have hafter (points : List Nat) :
        readText?.go (isHigh c) (c :: points) (escaped cs ++ 34 :: rest) =
          some (⟨points.reverse ++ joinPairs (c :: cs)⟩, rest) := by
      cases hhigh : isHigh c with
      | true =>
        exact ih hcs.2 (some c) points (by simp [hhigh])
      | false =>
        have hread := ih hcs.2 none (c :: points) (by simp)
        rw [reverse_cons, append_assoc, singleton_append] at hread
        rw [joinPairs_cons_of_not_isHigh hhigh]
        exact hread
    rw [escaped_cons, append_assoc, readText?_go_spelling (spelling_escapePoint hcs.1)]
    cases pending with
    | none => exact hafter points
    | some surrogate =>
      have hsurrogate : isHigh surrogate = true := hpending surrogate rfl
      dsimp only [Option.isSome_some, Option.toList_some, cons_append, nil_append]
      cases hlow : isLow c with
      | true =>
        have hread := ih hcs.2 none (ofPair surrogate c :: points) (by simp)
        rw [reverse_cons, append_assoc, singleton_append] at hread
        have hhigh : isHigh c = false := by
          rw [isLow_iff] at hlow
          rw [isHigh_eq_false_iff]
          omega
        have hpair : isPair surrogate c = true := by
          rw [isPair, hsurrogate, hlow, Bool.true_and]
        rw [joinUnit_of_isLow hlow, hhigh, joinPairs, if_pos hpair]
        exact hread
      | false =>
        rw [joinUnit_of_not_isLow hlow, hafter, joinPairs, isPair_of_not_isLow hlow,
          if_neg Bool.false_ne_true, reverse_cons, append_assoc, singleton_append]

theorem readText?_escaped {t : Text} (ht : t.All IsCodePoint) (rest : List Nat) :
    readText? (escaped t.points ++ 34 :: rest) = some (t.joined, rest) :=
  readText?_go_escaped ht none [] (by simp)

theorem points_writeText (t : Text) : (writeText t).points = 34 :: (escaped t.points ++ [34]) := rfl

theorem all_escapeUnit (h : unit < 0x10000) : (escapeUnit unit).All IsPrintable := by
  have hdigit {d : Nat} (hd : d < 16) : IsPrintable (hexDigit d) :=
    Numeral.isPrintable_hexDigit d hd
  unfold escapeUnit
  rw [Text.all_append_iff]
  refine ⟨by decide, ?_⟩
  unfold Text.All
  rw [Numeral.points_hex_four h]
  simp only [forall_mem_cons]
  exact ⟨hdigit (by omega), hdigit (by omega), hdigit (by omega), hdigit (by omega),
    forall_mem_nil _⟩

theorem Spelling.all_isPrintable {t : Text} (h : Spelling c t) : t.All IsPrintable := by
  cases h with
  | plain h => exact forall_mem_singleton.2 h
  | marked _ hmark => exact forall_mem_cons.2 ⟨by decide, forall_mem_singleton.2 hmark⟩
  | unit h => exact all_escapeUnit h
  | pair hhigh hlow =>
    rw [isHigh_iff] at hhigh
    rw [isLow_iff] at hlow
    rw [Text.all_append_iff]
    exact ⟨all_escapeUnit (by omega), all_escapeUnit (by omega)⟩

theorem all_writeText {t : Text} (ht : t.All IsCodePoint) : (writeText t).All IsPrintable := by
  unfold writeText
  rw [Text.all_append_iff, Text.all_append_iff]
  refine ⟨⟨by decide, Text.all_concat ?_⟩, by decide⟩
  intro spelled hspelled
  obtain ⟨c, hc, rfl⟩ := mem_map.1 hspelled
  exact (spelling_escapePoint (ht c hc)).all_isPrintable

end Json

end Converge

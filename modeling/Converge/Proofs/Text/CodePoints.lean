import Converge.Value
import Mathlib.Data.List.Basic

/-!
This module contains which code points texts are made of. Main statement: what a value displays is
made of code points if the texts in it are.
-/

namespace Converge

open List

/--
That a number is a code point of Unicode. The numbers in a `Text` are not bounded.
-/
def IsCodePoint (c : Nat) : Prop :=
  c < 0x110000

/--
That a number is a printable ASCII character.
-/
def IsPrintable (c : Nat) : Prop :=
  32 ≤ c ∧ c < 127

instance (c : Nat) : Decidable (IsCodePoint c) :=
  inferInstanceAs (Decidable (c < 0x110000))

instance (c : Nat) : Decidable (IsPrintable c) :=
  inferInstanceAs (Decidable (32 ≤ c ∧ c < 127))

theorem IsPrintable.isCodePoint {c : Nat} (h : IsPrintable c) : IsCodePoint c :=
  Nat.lt_trans h.2 (by decide)

namespace Text

variable {P Q : Nat → Prop} {s t : Text} {ts : List Text}

def All (P : Nat → Prop) (t : Text) : Prop :=
  ∀ c ∈ t.points, P c

instance [DecidablePred P] (t : Text) : Decidable (t.All P) :=
  inferInstanceAs (Decidable (∀ c ∈ t.points, P c))

theorem All.mono (h : t.All P) (hPQ : ∀ c, P c → Q c) : t.All Q :=
  fun c hc => hPQ c (h c hc)

@[simp]
theorem all_append_iff : (s ++ t).All P ↔ s.All P ∧ t.All P :=
  forall_mem_append

@[simp]
theorem all_empty : empty.All P :=
  forall_mem_nil P

theorem all_join {separator : Text} (hseparator : separator.All P) (h : ∀ t ∈ ts, t.All P) :
    (join separator ts).All P := by
  induction ts using join.induct with
  | case1 => exact all_empty
  | case2 t => exact h t mem_cons_self
  | case3 t ts hne ih =>
    rw [forall_mem_cons] at h
    rw [join, all_append_iff, all_append_iff]
    · exact ⟨⟨h.1, hseparator⟩, ih h.2⟩
    · exact hne

theorem all_concat (h : ∀ t ∈ ts, t.All P) : (concat ts).All P := by
  induction ts with
  | nil => exact all_empty
  | cons t ts ih =>
    rw [forall_mem_cons] at h
    rw [concat, all_append_iff]
    exact ⟨h.1, ih h.2⟩

theorem all_take (n : Nat) (h : t.All P) : (t.take n).All P :=
  fun c hc => h c (mem_of_mem_take hc)

theorem all_drop (n : Nat) (h : t.All P) : (t.drop n).All P :=
  fun c hc => h c (mem_of_mem_drop hc)

theorem all_repeated (n : Nat) {c : Nat} (hc : P c) : (repeated n c).All P :=
  fun _ hc' => eq_of_mem_replicate hc' ▸ hc

theorem all_upperAscii (h : t.All IsCodePoint) : t.upperAscii.All IsCodePoint := by
  intro c hc
  obtain ⟨d, hd, rfl⟩ := mem_map.1 hc
  split
  · exact Nat.lt_of_le_of_lt (Nat.sub_le d 32) (h d hd)
  · exact h d hd

theorem all_chars (cs : List Char) : (⟨cs.map Char.toNat⟩ : Text).All IsCodePoint := by
  intro n hn
  obtain ⟨c, -, rfl⟩ := mem_map.1 hn
  have hvalid : c.toNat < 0xD800 ∨ 0xDFFF < c.toNat ∧ c.toNat < 0x110000 := c.valid
  unfold IsCodePoint
  omega

@[simp]
theorem all_ofString (s : String) : (ofString s).All IsCodePoint :=
  all_chars s.toList

end Text

theorem isCodePoint_zero : IsCodePoint 48 := by decide

namespace Numeral

theorem all_replicate_zero (n : Nat) : (⟨replicate n 48⟩ : Text).All IsCodePoint :=
  Text.all_repeated n isCodePoint_zero

@[simp]
theorem all_ofNat (n : Nat) : (ofNat n).All IsCodePoint :=
  Text.all_chars _

@[simp]
theorem all_ofInt (n : Int) : (ofInt n).All IsCodePoint := by
  unfold ofInt
  split <;> simp

@[simp]
theorem all_padded (width n : Nat) : (padded width n).All IsCodePoint := by
  unfold padded
  rw [Text.all_append_iff]
  exact ⟨all_replicate_zero _, all_ofNat n⟩

@[simp]
theorem all_inBase (base n : Nat) : (inBase base n).All IsCodePoint :=
  Text.all_chars _

@[simp]
theorem all_hex (width n : Nat) : (hex width n).All IsCodePoint := by
  unfold hex Text.All
  rw [forall_mem_append]
  exact ⟨all_replicate_zero _, Text.all_chars _⟩

end Numeral

namespace Text

theorem all_escapeCode (c : Nat) : (escapeCode c).All IsCodePoint := by
  unfold escapeCode
  repeat' split
  all_goals simp

theorem all_escapePoint (printable : Nat → Bool) {quote c : Nat} (hc : IsCodePoint c) :
    (escapePoint printable quote c).All IsCodePoint := by
  have hbackslash : IsCodePoint 92 := by decide
  unfold escapePoint
  split
  · exact forall_mem_cons.2 ⟨hbackslash, forall_mem_singleton.2 hc⟩
  · repeat' split
    all_goals first
      | exact forall_mem_singleton.2 hc
      | exact all_escapeCode c
      | exact all_ofString _

theorem all_quotedWith (printable : Nat → Bool) {t : Text} (ht : t.All IsCodePoint) :
    (t.quotedWith printable).All IsCodePoint := by
  unfold quotedWith
  extract_lets quote
  have hquote : (⟨[quote]⟩ : Text).All IsCodePoint := by
    unfold quote
    split <;> decide
  rw [all_append_iff, all_append_iff]
  refine ⟨⟨hquote, all_concat ?_⟩, hquote⟩
  intro piece hpiece
  obtain ⟨c, hc, rfl⟩ := mem_map.1 hpiece
  exact all_escapePoint printable (ht c hc)

theorem all_escapeNonAscii {t : Text} (ht : t.All IsCodePoint) :
    t.escapeNonAscii.All IsCodePoint := by
  apply all_concat
  intro piece hpiece
  obtain ⟨c, hc, rfl⟩ := mem_map.1 hpiece
  split
  · exact forall_mem_singleton.2 (ht c hc)
  · exact all_escapeCode c

end Text

namespace Binary64

theorem all_layout {digits : List Nat} (hdigits : ∀ d ∈ digits, IsCodePoint d) (point : Int) :
    (layout digits point).All IsCodePoint := by
  unfold layout
  extract_lets count mantissa exponent
  split
  · have hmantissa : (⟨mantissa⟩ : Text).All IsCodePoint := by
      unfold mantissa
      split
      · rw [forall_mem_cons] at hdigits
        exact forall_mem_cons.2 ⟨hdigits.1, forall_mem_cons.2 ⟨by decide, hdigits.2⟩⟩
      · exact hdigits
    rw [Text.all_append_iff, Text.all_append_iff]
    refine ⟨⟨hmantissa, ?_⟩, Numeral.all_padded _ _⟩
    split <;> simp
  · split
    · rw [Text.all_append_iff]
      exact ⟨Text.all_ofString _, forall_mem_append.2 ⟨Numeral.all_replicate_zero _, hdigits⟩⟩
    · split
      · rw [Text.all_append_iff]
        exact ⟨forall_mem_append.2 ⟨hdigits, Numeral.all_replicate_zero _⟩, Text.all_ofString _⟩
      · rw [Text.all_append_iff, Text.all_append_iff]
        exact ⟨⟨fun d hd => hdigits d (mem_of_mem_take hd), Text.all_ofString _⟩,
          fun d hd => hdigits d (mem_of_mem_drop hd)⟩

@[simp]
theorem all_toText (x : Binary64) : x.toText.All IsCodePoint := by
  have hmagnitude (units : Nat) : (magnitudeText units).All IsCodePoint := by
    unfold magnitudeText
    split
    · simp
    · apply all_layout
      intro d hd
      rw [mem_reverse] at hd
      exact Numeral.all_ofNat _ d (mem_reverse.1 ((dropWhile_sublist _).mem hd))
  unfold toText
  split
  · split <;> simp [hmagnitude]
  · split <;> simp
  · simp

end Binary64

namespace Value

/--
That all texts in a value are made of code points.
-/
inductive IsUnicode : Value → Prop
  | null : IsUnicode .null
  | bool (b : Bool) : IsUnicode (.bool b)
  | int (n : Int) : IsUnicode (.int n)
  | float (x : Binary64) : IsUnicode (.float x)
  | text {t : Text} (h : t.All IsCodePoint) : IsUnicode (.text t)
  | octets (bytes : List UInt8) : IsUnicode (.octets bytes)
  | date (d : Date) : IsUnicode (.date d)
  | moment (t : Timestamp) : IsUnicode (.moment t)
  | path {t : Text} (h : t.All IsCodePoint) : IsUnicode (.path t)
  | list {items : List Value} (h : ∀ v ∈ items, IsUnicode v) : IsUnicode (.list items)
  | map {entries : List (Text × Value)} (hkeys : ∀ e ∈ entries, e.1.All IsCodePoint)
    (h : ∀ e ∈ entries, IsUnicode e.2) : IsUnicode (.map entries)

theorem literalItems_eq (items : List Value) : literalItems items = items.map literal := by
  induction items with
  | nil => rfl
  | cons v rest ih => rw [literalItems, ih, map_cons]

theorem literalEntries_eq (entries : List (Text × Value)) :
    literalEntries entries = entries.map fun e => e.1.quoted ++ ": " ++ literal e.2 := by
  induction entries with
  | nil => rfl
  | cons e rest ih => rw [literalEntries, ih, map_cons]

theorem all_join_ofNat (ns : List Nat) :
    (Text.join ", " (ns.map Numeral.ofNat)).All IsCodePoint := by
  apply Text.all_join (Text.all_ofString _)
  intro t ht
  obtain ⟨n, -, rfl⟩ := mem_map.1 ht
  exact Numeral.all_ofNat n

theorem all_iso (d : Date) : d.iso.All IsCodePoint := by
  simp [Date.iso]

theorem all_literal_date (d : Date) : d.literal.All IsCodePoint := by
  unfold Date.literal
  rw [Text.all_append_iff, Text.all_append_iff]
  exact ⟨⟨Text.all_ofString _, all_join_ofNat _⟩, Text.all_ofString _⟩

theorem all_zoneLiteral (offset : Int) : (Timestamp.zoneLiteral offset).All IsCodePoint := by
  unfold Timestamp.zoneLiteral
  split
  · exact Text.all_ofString _
  · split <;> simp

theorem all_literal_moment (t : Timestamp) : t.literal.All IsCodePoint := by
  unfold Timestamp.literal
  extract_lets clock zone numbers
  have hzone : zone.All IsCodePoint := by
    unfold zone
    split
    · rw [Text.all_append_iff]
      exact ⟨Text.all_ofString _, all_zoneLiteral _⟩
    · exact Text.all_empty
  rw [Text.all_append_iff, Text.all_append_iff, Text.all_append_iff]
  exact ⟨⟨⟨Text.all_ofString _, all_join_ofNat _⟩, hzone⟩, Text.all_ofString _⟩

theorem all_textWith (t : Timestamp) : (t.textWith " ").All IsCodePoint := by
  unfold Timestamp.textWith
  extract_lets fraction
  have hfraction : fraction.All IsCodePoint := by
    unfold fraction
    split <;> simp
  have hoffset : (Timestamp.offsetText t.offset?).All IsCodePoint := by
    unfold Timestamp.offsetText
    split
    · simp
    · split <;> simp
  simp [hfraction, hoffset, all_iso]

theorem all_octetsLiteral (bytes : List UInt8) : (octetsLiteral bytes).All IsCodePoint := by
  unfold octetsLiteral
  rw [Text.all_append_iff]
  refine ⟨Text.all_ofString _, Text.all_quotedWith _ ?_⟩
  intro c hc
  obtain ⟨b, -, rfl⟩ := mem_map.1 hc
  exact Nat.lt_trans b.toNat_lt (by decide)

theorem IsUnicode.all_literal {v : Value} (h : v.IsUnicode) : v.literal.All IsCodePoint := by
  induction h with
  | null => simp [literal]
  | bool b => cases b <;> simp [literal]
  | int n => simp [literal]
  | float x => simp [literal]
  | text h => exact Text.all_quotedWith _ h
  | octets bytes => exact all_octetsLiteral bytes
  | date d => exact all_literal_date d
  | moment t => exact all_literal_moment t
  | path h =>
    rw [literal, Text.all_append_iff, Text.all_append_iff]
    exact ⟨⟨Text.all_ofString _, Text.all_quotedWith _ h⟩, Text.all_ofString _⟩
  | list _ ih =>
    rw [literal, literalItems_eq, Text.all_append_iff, Text.all_append_iff]
    refine ⟨⟨Text.all_ofString _, Text.all_join (Text.all_ofString _) ?_⟩, Text.all_ofString _⟩
    intro t ht
    obtain ⟨v, hv, rfl⟩ := mem_map.1 ht
    exact ih v hv
  | map hkeys _ ih =>
    rw [literal, literalEntries_eq, Text.all_append_iff, Text.all_append_iff]
    refine ⟨⟨Text.all_ofString _, Text.all_join (Text.all_ofString _) ?_⟩, Text.all_ofString _⟩
    intro t ht
    obtain ⟨e, he, rfl⟩ := mem_map.1 ht
    rw [Text.all_append_iff, Text.all_append_iff]
    exact ⟨⟨Text.all_quotedWith _ (hkeys e he), Text.all_ofString _⟩, ih e he⟩

theorem IsUnicode.all_display {v : Value} (h : v.IsUnicode) : v.display.All IsCodePoint := by
  unfold display
  split
  · cases h
    assumption
  · exact all_iso _
  · exact all_textWith _
  · cases h
    assumption
  · exact h.all_literal

end Value

end Converge

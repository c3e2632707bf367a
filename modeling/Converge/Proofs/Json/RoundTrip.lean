import Converge.Proofs.Json.Text
import Converge.Proofs.Numeral

/-!
This module contains the reading of values that were written as JSON. Main statements: what is
written is printable ASCII, and it is read as the value with the pairs of surrogates in it joined.
-/

namespace Converge

open List

namespace Value

/--
The values that have a form of their own in JSON, numbers with a point apart.
-/
inductive IsJson : Value → Prop
  | null : IsJson .null
  | bool (b : Bool) : IsJson (.bool b)
  | int {n : Int} (h : (Numeral.ofNat n.natAbs).length ≤ Numeral.maxDigits) : IsJson (.int n)
  | text {t : Text} (h : t.All IsCodePoint) : IsJson (.text t)
  | list {items : List Value} (h : ∀ v ∈ items, IsJson v) : IsJson (.list items)
  | map {entries : List (Text × Value)} (hkeys : ∀ e ∈ entries, e.1.All IsCodePoint)
    (h : ∀ e ∈ entries, IsJson e.2) : IsJson (.map entries)

end Value

namespace Json

variable {v : Value} {items : List Value} {entries : List (Text × Value)} {rest : Points}

theorem writeItems_eq (items : List Value) : writeItems items = items.map write := by
  induction items with
  | nil => rfl
  | cons v rest ih => rw [writeItems, ih, map_cons]

theorem writeEntries_eq (entries : List (Text × Value)) :
    writeEntries entries = entries.map fun e => writeText e.1 ++ ": " ++ write e.2 := by
  induction entries with
  | nil => rfl
  | cons e rest ih => rw [writeEntries, ih, map_cons]

theorem all_ofInt_isPrintable (n : Int) : (Numeral.ofInt n).All IsPrintable := by
  have hdigits (m : Nat) : (Numeral.ofNat m).All IsPrintable := by
    intro c hc
    have hbounds := (Numeral.Digits.ofNat m).bounds_of_mem_points hc
    unfold IsPrintable
    omega
  unfold Numeral.ofInt
  split
  · rw [Text.all_append_iff]
    exact ⟨by decide, hdigits _⟩
  · exact hdigits _

theorem all_write (h : v.IsJson) : (write v).All IsPrintable := by
  induction h with
  | null => simp only [write]; decide
  | bool b => cases b <;> simp only [write] <;> decide
  | int _ => simp only [write]; exact all_ofInt_isPrintable _
  | text h => simp only [write]; exact all_writeText h
  | list _ ih =>
    simp only [write]
    rw [writeItems_eq, Text.all_append_iff, Text.all_append_iff]
    refine ⟨⟨by decide, Text.all_join (by decide) ?_⟩, by decide⟩
    intro t ht
    obtain ⟨v, hv, rfl⟩ := mem_map.1 ht
    exact ih v hv
  | map hkeys _ ih =>
    simp only [write]
    rw [writeEntries_eq, Text.all_append_iff, Text.all_append_iff]
    refine ⟨⟨by decide, Text.all_join (by decide) ?_⟩, by decide⟩
    intro t ht
    obtain ⟨e, he, rfl⟩ := mem_map.1 ht
    rw [Text.all_append_iff, Text.all_append_iff]
    exact ⟨⟨all_writeText (hkeys e he), by decide⟩, ih e he⟩

/--
That what follows a value does not go on with a number.
-/
def Ends (rest : Points) : Prop :=
  ∀ c ∈ rest.head?, isNumberPoint c = false

theorem isNumberPoint_of_isNumeric {c : Nat} (h : Numeral.IsNumeric c) : isNumberPoint c = true := by
  obtain ⟨hge, hle⟩ | h := h
  · simp [isNumberPoint, Numeral.isDigit, hge, hle]
  · revert c
    decide

theorem exists_points_ofInt (n : Int) :
    ∃ c cs, (Numeral.ofInt n).points = c :: cs ∧ (c = 45 ∨ 48 ≤ c ∧ c ≤ 57) := by
  rw [Numeral.ofInt_eq, Text.points_append]
  unfold Numeral.Sign.ofInt
  split
  · exact ⟨45, _, rfl, .inl rfl⟩
  · obtain ⟨c, cs, hchars⟩ := exists_cons_of_ne_nil (Numeral.Digits.ofNat_ne_nil n.natAbs)
    have hpoints : (Numeral.Digits.ofNat n.natAbs).text.points = c.toNat :: cs.map Char.toNat := by
      rw [Numeral.Digits.points_text, hchars, map_cons]
    refine ⟨c.toNat, _, hpoints, .inr ?_⟩
    apply (Numeral.Digits.ofNat n.natAbs).bounds_of_mem_points
    rw [hpoints]
    exact mem_cons_self

theorem readNumber?_ofInt {n : Int} (h : (Numeral.ofNat n.natAbs).length ≤ Numeral.maxDigits)
    (hrest : Ends rest) : readNumber? ((Numeral.ofInt n).points ++ rest) = some (.int n, rest) := by
  have hpoints : ∀ c ∈ (Numeral.ofInt n).points, isNumberPoint c = true := by
    rw [Numeral.ofInt_eq, Text.points_append, forall_mem_append]
    exact ⟨fun c hc => isNumberPoint_of_isNumeric (Numeral.isNumeric_of_mem_sign hc),
      fun c hc => isNumberPoint_of_isNumeric (Numeral.isNumeric_of_mem_digits hc)⟩
  obtain ⟨c, cs, hhead, hbounds⟩ := exists_points_ofInt n
  unfold readNumber?
  rw [Numeral.takeWhile_append_of_head hpoints hrest, Numeral.dropWhile_append_of_head hpoints hrest]
  dsimp only
  rw [Numeral.readInt?_ofInt h]
  split
  · next tail hplus =>
    obtain rfl : c = 43 := by simpa [hhead] using congrArg head? hplus
    omega
  · rfl

theorem dropLiteral?_of_ne {l c : Nat} {ls cs : List Nat} (h : l ≠ c) :
    dropLiteral? ⟨l :: ls⟩ (c :: cs) = none :=
  if_neg h

theorem readValue?_number {c : Nat} (h : c = 45 ∨ 48 ≤ c ∧ c ≤ 57) (fuel : Nat) (cs : Points) :
    readValue? (fuel + 1) (c :: cs) = readNumber? (c :: cs) := by
  have hblank : skipBlanks (c :: cs) = c :: cs := by
    apply dropWhile_cons_of_neg
    simp only [isBlank, Bool.or_eq_true, decide_eq_true_eq]
    omega
  have hnull : dropLiteral? "null" (c :: cs) = none := dropLiteral?_of_ne (l := 110) (by omega)
  have htrue : dropLiteral? "true" (c :: cs) = none := dropLiteral?_of_ne (l := 116) (by omega)
  have hfalse : dropLiteral? "false" (c :: cs) = none := dropLiteral?_of_ne (l := 102) (by omega)
  rw [readValue?.eq_2, hblank]
  split
  next hc => cases hc; omega
  next hc => cases hc; omega
  next hc => cases hc; omega
  next => rw [hnull, htrue, hfalse]

/--
That a value is read again, whatever follows it.
-/
def Reads (v : Value) : Prop :=
  ∀ fuel rest, (write v).length ≤ fuel → Ends rest →
    readValue? fuel ((write v).points ++ rest) = some (v.joined, rest)

theorem readValue?_blank (fuel : Nat) (cs : Points) :
    readValue? fuel (32 :: cs) = readValue? fuel cs := by
  cases fuel with
  | zero => rfl
  | succ fuel => rfl

theorem readItems?_blank (fuel : Nat) (items : List Value) (cs : Points) :
    readItems? fuel items (32 :: cs) = readItems? fuel items cs := by
  cases fuel with
  | zero => rfl
  | succ fuel => rw [readItems?.eq_2, readItems?.eq_2, readValue?_blank]

theorem readEntries?_blank (fuel : Nat) (entries : List (Text × Value)) (cs : Points) :
    readEntries? fuel entries (32 :: cs) = readEntries? fuel entries cs := by
  cases fuel with
  | zero => rfl
  | succ fuel => rfl

theorem ends_cons {c : Nat} (h : isNumberPoint c = false) (cs : Points) : Ends (c :: cs) := by
  rintro _ ⟨⟩
  exact h

theorem join_cons (separator t : Text) {ts : List Text} (hne : ts ≠ []) :
    Text.join separator (t :: ts) = t ++ separator ++ Text.join separator ts := by
  cases ts with
  | nil => exact (hne rfl).elim
  | cons t' ts => rfl

theorem points_join_cons (t : Text) {ts : List Text} (hne : ts ≠ []) (rest : Points) :
    (Text.join ", " (t :: ts)).points ++ rest =
      t.points ++ 44 :: 32 :: ((Text.join ", " ts).points ++ rest) := by
  rw [join_cons _ t hne, Text.points_append, Text.points_append, append_assoc, append_assoc]
  rfl

theorem length_join_cons (t : Text) {ts : List Text} (hne : ts ≠ []) :
    (Text.join ", " (t :: ts)).length = t.length + 2 + (Text.join ", " ts).length := by
  rw [join_cons _ t hne, Text.length, Text.points_append, Text.points_append, length_append,
    length_append]
  rfl

theorem readItems?_item (hread : Reads v) {fuel : Nat} (hfuel : (write v).length ≤ fuel)
    (before : List Value) (hrest : Ends rest) :
    readItems? (fuel + 1) before ((write v).points ++ rest) =
      match skipBlanks rest with
      | 44 :: rest => readItems? fuel (v.joined :: before) rest
      | 93 :: rest => some (.list (v.joined :: before).reverse, rest)
      | _ => none := by
  have hitem := readItems?.eq_2 before ((write v).points ++ rest) fuel
  rw [hread fuel rest hfuel hrest] at hitem
  exact hitem

theorem readItems?_write (hne : items ≠ []) (hreads : ∀ v ∈ items, Reads v) (fuel : Nat)
    (hfuel : (Text.join ", " (items.map write)).length < fuel) (before : List Value)
    (rest : Points) :
    readItems? fuel before ((Text.join ", " (items.map write)).points ++ 93 :: rest) =
      some (.list (before.reverse ++ items.map Value.joined), rest) := by
  induction items generalizing fuel before with
  | nil => exact (hne rfl).elim
  | cons v items ih =>
    obtain ⟨fuel, rfl⟩ : ∃ f, fuel = f + 1 := ⟨fuel - 1, by omega⟩
    rw [forall_mem_cons] at hreads
    rw [map_cons] at hfuel ⊢
    by_cases hlast : items = []
    · subst hlast
      rw [map_nil, Text.join] at hfuel ⊢
      rw [readItems?_item hreads.1 (by omega) before (ends_cons rfl rest)]
      change some (Value.list (v.joined :: before).reverse, rest) = _
      rw [reverse_cons, map_singleton]
    · have hmap : items.map write ≠ [] := mt map_eq_nil_iff.1 hlast
      rw [length_join_cons _ hmap] at hfuel
      rw [points_join_cons _ hmap, readItems?_item hreads.1 (by omega) before (ends_cons rfl _)]
      change readItems? fuel (v.joined :: before) (32 :: _) = _
      rw [readItems?_blank, ih hlast hreads.2 fuel (by omega), reverse_cons, append_assoc,
        singleton_append, map_cons]

theorem readEntries?_entry {key : Text} (hkey : key.All IsCodePoint) (hread : Reads v) {fuel : Nat}
    (hfuel : (write v).length ≤ fuel) (before : List (Text × Value)) (hrest : Ends rest) :
    readEntries? (fuel + 1) before ((writeText key ++ ": " ++ write v).points ++ rest) =
      match skipBlanks rest with
      | 44 :: rest => readEntries? fuel (Value.put key.joined v.joined before) rest
      | 125 :: rest => some (.map (Value.put key.joined v.joined before), rest)
      | _ => none := by
  have hpoints : (writeText key ++ ": " ++ write v).points ++ rest =
      34 :: (escaped key.points ++ 34 :: 58 :: 32 :: ((write v).points ++ rest)) := by
    rw [Text.points_append, Text.points_append, points_writeText, append_assoc, append_assoc,
      cons_append, append_assoc]
    rfl
  have hskip (points : Points) : skipBlanks (34 :: points) = 34 :: points := rfl
  have hcolon (points : Points) : skipBlanks (58 :: points) = 58 :: points := rfl
  have hentry := readEntries?.eq_2 before
    (34 :: (escaped key.points ++ 34 :: 58 :: 32 :: ((write v).points ++ rest))) fuel
  simp only [hskip, readText?_escaped hkey, hcolon, readValue?_blank,
    hread fuel rest hfuel hrest] at hentry
  rw [hpoints]
  exact hentry

theorem readEntries?_write (hne : entries ≠ []) (hkeys : ∀ e ∈ entries, e.1.All IsCodePoint)
    (hreads : ∀ e ∈ entries, Reads e.2) (fuel : Nat)
    (hfuel : (Text.join ", " (writeEntries entries)).length < fuel) (before : List (Text × Value))
    (rest : Points) :
    readEntries? fuel before ((Text.join ", " (writeEntries entries)).points ++ 125 :: rest) =
      some (.map (Value.putAll before (Value.joinedEntries entries)), rest) := by
  induction entries generalizing fuel before with
  | nil => exact (hne rfl).elim
  | cons e entries ih =>
    obtain ⟨key, v⟩ := e
    obtain ⟨fuel, rfl⟩ : ∃ f, fuel = f + 1 := ⟨fuel - 1, by omega⟩
    rw [forall_mem_cons] at hkeys hreads
    dsimp only at hkeys hreads
    have hlength : (writeText key ++ ": " ++ write v).length =
        (writeText key ++ ": ").length + (write v).length := by
      rw [Text.length, Text.points_append, length_append]
      rfl
    rw [writeEntries] at hfuel ⊢
    by_cases hlast : entries = []
    · subst hlast
      rw [writeEntries, Text.join] at hfuel ⊢
      rw [readEntries?_entry hkeys.1 hreads.1 (by omega) before (ends_cons rfl rest)]
      rfl
    · have hwritten : writeEntries entries ≠ [] := by
        rw [writeEntries_eq]
        exact mt map_eq_nil_iff.1 hlast
      rw [length_join_cons _ hwritten] at hfuel
      rw [points_join_cons _ hwritten,
        readEntries?_entry hkeys.1 hreads.1 (by omega) before (ends_cons rfl _)]
      change readEntries? fuel (Value.put key.joined v.joined before) (32 :: _) = _
      rw [readEntries?_blank, ih hlast hkeys.2 hreads.2 fuel (by omega)]
      rfl

/--
That a text begins with neither a blank nor a closing bracket.
-/
def Opens (points : Points) : Prop :=
  ∃ c cs, points = c :: cs ∧ isBlank c = false ∧ c ≠ 93 ∧ c ≠ 125

theorem Opens.append {points : Points} (h : Opens points) (rest : Points) :
    Opens (points ++ rest) := by
  obtain ⟨c, cs, rfl, hc⟩ := h
  exact ⟨c, cs ++ rest, rfl, hc⟩

theorem Opens.skipBlanks_eq {points : Points} (h : Opens points) : skipBlanks points = points := by
  obtain ⟨c, cs, rfl, hblank, -⟩ := h
  exact dropWhile_cons_of_neg (ne_true_of_eq_false hblank)

theorem opens_join {separator t : Text} (h : Opens t.points) (ts : List Text) :
    Opens (Text.join separator (t :: ts)).points := by
  by_cases hne : ts = []
  · subst hne
    exact h
  · rw [join_cons _ t hne, Text.points_append, Text.points_append, append_assoc]
    exact h.append _

theorem opens_write (h : v.IsJson) : Opens (write v).points := by
  cases h with
  | null => exact ⟨_, _, rfl, by decide⟩
  | bool b => cases b <;> exact ⟨_, _, rfl, by decide⟩
  | @int n h =>
    obtain ⟨c, cs, hpoints, hc⟩ := exists_points_ofInt n
    refine ⟨c, cs, ?_, ?_, by omega⟩
    · rw [write, hpoints]
    · apply Bool.eq_false_iff.2
      simp only [isBlank, ne_eq, Bool.or_eq_true, decide_eq_true_eq]
      omega
  | text h => exact ⟨34, _, rfl, by decide⟩
  | list _ => exact ⟨91, _, rfl, by decide⟩
  | map _ _ => exact ⟨123, _, rfl, by decide⟩

theorem readValue?_list {points : Points} (h : Opens points) (fuel : Nat) :
    readValue? (fuel + 1) (91 :: points) = readItems? fuel [] points := by
  have hskip : skipBlanks (91 :: points) = 91 :: points := rfl
  rw [readValue?.eq_2]
  simp only [hskip, h.skipBlanks_eq]
  obtain ⟨c, cs, rfl, -, hc, -⟩ := h
  split
  · next heq => cases heq; exact (hc rfl).elim
  · rfl

theorem readValue?_map {points : Points} (h : Opens points) (fuel : Nat) :
    readValue? (fuel + 1) (123 :: points) = readEntries? fuel [] points := by
  have hskip : skipBlanks (123 :: points) = 123 :: points := rfl
  rw [readValue?.eq_2]
  simp only [hskip, h.skipBlanks_eq]
  obtain ⟨c, cs, rfl, -, -, hc⟩ := h
  split
  · next heq => cases heq; exact (hc rfl).elim
  · rfl

theorem points_enclosed (first last : Nat) (t : Text) (rest : Points) :
    ((⟨[first]⟩ : Text) ++ t ++ ⟨[last]⟩).points ++ rest = first :: (t.points ++ last :: rest) := by
  rw [Text.points_append, Text.points_append, append_assoc]
  rfl

theorem length_enclosed (first last : Nat) (t : Text) :
    ((⟨[first]⟩ : Text) ++ t ++ ⟨[last]⟩).length = t.length + 2 := by
  rw [Text.length, Text.points_append, Text.points_append, length_append, length_append,
    Nat.add_comm _ t.points.length]
  rfl

theorem reads_of_succ (hv : v.IsJson)
    (h : ∀ fuel rest, (write v).length ≤ fuel + 1 → Ends rest →
      readValue? (fuel + 1) ((write v).points ++ rest) = some (v.joined, rest)) : Reads v := by
  intro fuel rest hfuel hrest
  cases fuel with
  | zero =>
    obtain ⟨c, cs, hpoints, -⟩ := opens_write hv
    rw [Text.length, hpoints] at hfuel
    cases hfuel
  | succ fuel => exact h fuel rest hfuel hrest

theorem reads_write (h : v.IsJson) : Reads v := by
  induction h with
  | null => exact reads_of_succ .null fun _ _ _ _ => rfl
  | bool b =>
    apply reads_of_succ (.bool b)
    cases b <;> exact fun _ _ _ _ => rfl
  | @int n h =>
    apply reads_of_succ (.int h)
    intro fuel rest _ hrest
    obtain ⟨c, cs, hpoints, hc⟩ := exists_points_ofInt n
    have hread := readNumber?_ofInt h hrest
    rw [write]
    rw [hpoints, cons_append] at hread ⊢
    rw [readValue?_number hc, hread]
    rfl
  | @text t h =>
    apply reads_of_succ (.text h)
    intro fuel rest _ _
    change (readText? (escaped t.points ++ [34] ++ rest)).map _ = _
    rw [append_assoc, singleton_append, readText?_escaped h]
    rfl
  | @list items h ih =>
    apply reads_of_succ (.list h)
    intro fuel rest hfuel _
    by_cases hne : items = []
    · subst hne
      rfl
    · have hopens : Opens (Text.join ", " (items.map write)).points := by
        obtain ⟨v, items, rfl⟩ := exists_cons_of_ne_nil hne
        exact opens_join (opens_write (h v mem_cons_self)) (items.map write)
      have hwrite : write (.list items) = ⟨[91]⟩ ++ Text.join ", " (items.map write) ++ ⟨[93]⟩ := by
        rw [write, writeItems_eq]
        rfl
      rw [hwrite, length_enclosed] at hfuel
      rw [hwrite, points_enclosed, readValue?_list (hopens.append _),
        readItems?_write hne ih fuel (by omega), Value.joined, Value.joinedItems_eq]
      rfl
  | @map entries hkeys h ih =>
    apply reads_of_succ (.map hkeys h)
    intro fuel rest hfuel _
    by_cases hne : entries = []
    · subst hne
      rfl
    · have hopens : Opens (Text.join ", " (writeEntries entries)).points := by
        obtain ⟨e, entries, rfl⟩ := exists_cons_of_ne_nil hne
        exact opens_join ⟨34, _, rfl, by decide⟩ (writeEntries entries)
      have hwrite : write (.map entries) =
          ⟨[123]⟩ ++ Text.join ", " (writeEntries entries) ++ ⟨[125]⟩ := by
        rw [write]
        rfl
      rw [hwrite, length_enclosed] at hfuel
      rw [hwrite, points_enclosed, readValue?_map (hopens.append _),
        readEntries?_write hne hkeys ih fuel (by omega), Value.joined]

/--
What is written is read again, with the pairs of surrogates in it joined.
-/
theorem read?_write (h : v.IsJson) : read? (write v) = some v.joined := by
  have hread := reads_write h ((write v).length + 1) [] (Nat.le_succ _) (by rintro _ ⟨⟩)
  rw [append_nil] at hread
  unfold read?
  rw [hread]
  rfl

end Json

end Converge

import Converge.Json.Reader
import Converge.Proofs.Entries
import Converge.Proofs.Text.CodePoints
import Mathlib.Data.List.Basic

/-!
This module contains what becomes of surrogates where each is written as an escape of its own: a high
one with a low one directly after it is read as the one code point that the two stand for. Main
statement: a text keeps its code points exactly if no two of them are such a pair.
-/

namespace Converge

open List

namespace Json

def isLow (unit : Nat) : Bool :=
  0xDC00 ≤ unit && unit ≤ 0xDFFF

def isPair (high low : Nat) : Bool :=
  isHigh high && isLow low

def ofPair (high low : Nat) : Nat :=
  0x10000 + (high - 0xD800) * 0x400 + (low - 0xDC00)

def joinPairs : List Nat → List Nat
  | high :: low :: rest =>
    if isPair high low then ofPair high low :: joinPairs rest else high :: joinPairs (low :: rest)
  | points => points

variable {c high low : Nat} {points rest : List Nat}

theorem isHigh_iff : isHigh c = true ↔ 0xD800 ≤ c ∧ c ≤ 0xDBFF := by
  simp [isHigh]

theorem isLow_iff : isLow c = true ↔ 0xDC00 ≤ c ∧ c ≤ 0xDFFF := by
  simp [isLow]

theorem isHigh_eq_false_iff : isHigh c = false ↔ ¬(0xD800 ≤ c ∧ c ≤ 0xDBFF) := by
  rw [← isHigh_iff, Bool.not_eq_true]

theorem isLow_eq_false_iff : isLow c = false ↔ ¬(0xDC00 ≤ c ∧ c ≤ 0xDFFF) := by
  rw [← isLow_iff, Bool.not_eq_true]

theorem isHigh_of_lt (h : c < 0xD800) : isHigh c = false := by
  rw [isHigh_eq_false_iff]
  omega

theorem isLow_of_lt (h : c < 0xDC00) : isLow c = false := by
  rw [isLow_eq_false_iff]
  omega

theorem isPair_of_not_isHigh (h : isHigh high = false) (low : Nat) : isPair high low = false := by
  rw [isPair, h, Bool.false_and]

theorem isPair_of_not_isLow (h : isLow low = false) (high : Nat) : isPair high low = false := by
  rw [isPair, h, Bool.and_false]

theorem le_ofPair (high low : Nat) : 0x10000 ≤ ofPair high low := by
  unfold ofPair
  omega

theorem joinPairs_cons_of_not_isHigh (h : isHigh c = false) (points : List Nat) :
    joinPairs (c :: points) = c :: joinPairs points := by
  cases points with
  | nil => rfl
  | cons d points =>
    rw [joinPairs, isPair_of_not_isHigh h, if_neg Bool.false_ne_true]

theorem joinPairs_eq_self_iff :
    joinPairs points = points ↔ points.IsChain fun high low => isPair high low = false := by
  fun_induction joinPairs points with
  | case1 high low points hpair ih =>
    have hhigh : isHigh high = true := (Bool.and_eq_true_iff.1 hpair).1
    have hne : ofPair high low ≠ high := by
      have hle := le_ofPair high low
      rw [isHigh_iff] at hhigh
      omega
    simp [hne, hpair]
  | case2 high low points hpair ih =>
    rw [cons.injEq, isChain_cons_cons, ih]
    simp [hpair]
  | case3 points hshort =>
    match points with
    | [] => simp
    | [d] => simp
    | d :: e :: points => exact (hshort d e points rfl).elim

/--
Nothing but a text without surrogates becomes a text without surrogates.
-/
theorem joinPairs_eq_iff (h : ∀ c ∈ rest, c < 0xD800) : joinPairs points = rest ↔ points = rest := by
  constructor
  · intro heq
    fun_induction joinPairs points generalizing rest with
    | case1 high low points hpair ih =>
      have hle := le_ofPair high low
      rw [← heq, forall_mem_cons] at h
      omega
    | case2 high low points hpair ih =>
      subst heq
      rw [forall_mem_cons] at h
      rw [← ih h.2 rfl]
    | case3 points => exact heq
  · rintro rfl
    rw [joinPairs_eq_self_iff]
    apply Pairwise.isChain
    apply pairwise_of_forall_mem_list
    intro high hhigh low _
    exact isPair_of_not_isHigh (isHigh_of_lt (h high hhigh)) low

end Json

namespace Text

variable {s t : Text}

def joined (t : Text) : Text :=
  ⟨Json.joinPairs t.points⟩

/--
That no two code points of a text are a pair of surrogates.
-/
def IsWhole (t : Text) : Prop :=
  t.points.IsChain fun high low => Json.isPair high low = false

instance (t : Text) : Decidable t.IsWhole :=
  inferInstanceAs (Decidable (t.points.IsChain fun high low => Json.isPair high low = false))

theorem joined_eq_self_iff : t.joined = t ↔ t.IsWhole := by
  rw [Text.ext_iff]
  exact Json.joinPairs_eq_self_iff

theorem joined_eq_iff (h : s.All (· < 0xD800)) : t.joined = s ↔ t = s := by
  rw [Text.ext_iff, Text.ext_iff]
  exact Json.joinPairs_eq_iff h

theorem joined_inj (h : s.All (· < 0xD800)) : t.joined = s.joined ↔ t = s := by
  rw [(joined_eq_iff h).2 rfl, joined_eq_iff h]

theorem joined_eq_of_isPrintable (h : t.All IsPrintable) : t.joined = t := by
  refine (joined_eq_iff (h.mono fun c hc => ?_)).2 rfl
  unfold IsPrintable at hc
  omega

end Text

namespace Value

mutual

/--
What is left of a value when all its texts have their pairs joined. Of two keys that have become equal
the later one counts, in the place of the other.
-/
def joined : Value → Value
  | .text t => .text t.joined
  | .list items => .list (joinedItems items)
  | .map entries => .map (putAll [] (joinedEntries entries))
  | v => v

def joinedItems : List Value → List Value
  | [] => []
  | v :: rest => joined v :: joinedItems rest

def joinedEntries : List (Text × Value) → List (Text × Value)
  | [] => []
  | (k, v) :: rest => (k.joined, joined v) :: joinedEntries rest

end

theorem joinedItems_eq (items : List Value) : joinedItems items = items.map joined := by
  induction items with
  | nil => rfl
  | cons v rest ih => rw [joinedItems, ih, map_cons]

theorem joinedEntries_eq (entries : List (Text × Value)) :
    joinedEntries entries = entries.map fun e => (e.1.joined, e.2.joined) := by
  induction entries with
  | nil => rfl
  | cons e rest ih => rw [joinedEntries, ih, map_cons]

/--
That a value of texts, integers, truth values, lists and maps has no pairs in its texts, and no key
twice in a map.
-/
inductive IsWhole : Value → Prop
  | null : IsWhole .null
  | bool (b : Bool) : IsWhole (.bool b)
  | int (n : Int) : IsWhole (.int n)
  | text {t : Text} (h : t.IsWhole) : IsWhole (.text t)
  | list {items : List Value} (h : ∀ v ∈ items, IsWhole v) : IsWhole (.list items)
  | map {entries : List (Text × Value)} (hnodup : (entries.map Prod.fst).Nodup)
    (hkeys : ∀ e ∈ entries, e.1.IsWhole) (h : ∀ e ∈ entries, IsWhole e.2) : IsWhole (.map entries)

theorem joinedEntries_eq_self {entries : List (Text × Value)} (hkeys : ∀ e ∈ entries, e.1.IsWhole)
    (h : ∀ e ∈ entries, e.2.joined = e.2) : joinedEntries entries = entries := by
  have hid : ∀ e ∈ entries, (e.1.joined, e.2.joined) = id e := by
    intro e he
    rw [Text.joined_eq_self_iff.2 (hkeys e he), h e he, id]
  rw [joinedEntries_eq, map_congr_left hid, map_id]

theorem IsWhole.joined_eq {v : Value} (h : v.IsWhole) : v.joined = v := by
  induction h with
  | null => rfl
  | bool b => rfl
  | int n => rfl
  | text h => rw [joined, Text.joined_eq_self_iff.2 h]
  | @list items _ ih =>
    have hid : ∀ v ∈ items, v.joined = id v := ih
    rw [joined, joinedItems_eq, map_congr_left hid, map_id]
  | map hnodup hkeys _ ih =>
    rw [joined, joinedEntries_eq_self hkeys ih, putAll_nil_of_nodup hnodup]

end Value

end Converge

/-!
This module contains `Text`, the sequences of code points that names, messages and documents are
made of, together with their order. Main statements: appending is concatenation of code points and
`≤` is a total order.
-/

namespace Converge

/--
A sequence of code points. Unlike a `String` it may hold surrogates: an escape in a document can
spell one, and two texts that differ only in that way are different names.
-/
structure Text where
  points : List Nat
deriving DecidableEq, Inhabited, Repr

namespace Text

def ofString (s : String) : Text :=
  ⟨s.toList.map Char.toNat⟩

instance : Coe String Text where
  coe := ofString

def empty : Text :=
  ⟨[]⟩

def isEmpty (t : Text) : Bool :=
  t.points.isEmpty

def length (t : Text) : Nat :=
  t.points.length

def append (s t : Text) : Text :=
  ⟨s.points ++ t.points⟩

instance : Append Text where
  append := append

@[simp]
theorem points_append (s t : Text) : (s ++ t).points = s.points ++ t.points := rfl

@[ext]
theorem ext {s t : Text} (h : s.points = t.points) : s = t := by
  cases s
  cases t
  simp_all

@[simp]
theorem isEmpty_iff {t : Text} : t.isEmpty = true ↔ t = empty := by
  cases t
  simp [isEmpty, empty]

@[simp]
theorem append_empty (t : Text) : t ++ empty = t := by
  ext1
  simp [empty]

@[simp]
theorem empty_append (t : Text) : empty ++ t = t := by
  ext1
  simp [empty]

theorem append_assoc (r s t : Text) : r ++ s ++ t = r ++ (s ++ t) := by
  ext1
  simp

def join (separator : Text) : List Text → Text
  | [] => empty
  | [t] => t
  | t :: ts => t ++ separator ++ join separator ts

def concat : List Text → Text
  | [] => empty
  | t :: ts => t ++ concat ts

instance : LT Text where
  lt s t := List.lt s.points t.points

instance : LE Text where
  le s t := List.le s.points t.points

instance (s t : Text) : Decidable (s < t) :=
  List.decidableLT s.points t.points

instance (s t : Text) : Decidable (s ≤ t) :=
  List.decidableLE s.points t.points

def ble (s t : Text) : Bool :=
  decide (s ≤ t)

theorem le_iff {s t : Text} : s ≤ t ↔ List.le s.points t.points := Iff.rfl

theorem lt_iff {s t : Text} : s < t ↔ List.lt s.points t.points := Iff.rfl

theorem le_total (s t : Text) : s ≤ t ∨ t ≤ s :=
  List.le_total s.points t.points

theorem le_trans {r s t : Text} (h : r ≤ s) (h' : s ≤ t) : r ≤ t :=
  List.le_trans (le_iff.mp h) (le_iff.mp h')

theorem le_antisymm {s t : Text} (h : s ≤ t) (h' : t ≤ s) : s = t :=
  ext (List.le_antisymm (le_iff.mp h) (le_iff.mp h'))

theorem le_refl (t : Text) : t ≤ t :=
  List.le_refl t.points

theorem le_of_lt {s t : Text} (h : s < t) : s ≤ t :=
  List.le_of_lt (lt_iff.mp h)

theorem not_lt_of_le {s t : Text} (h : s ≤ t) : ¬t < s :=
  List.not_lt.mpr h

theorem lt_asymm {s t : Text} (h : s < t) : ¬t < s :=
  not_lt_of_le (le_of_lt h)

theorem ble_iff {s t : Text} : s.ble t = true ↔ s ≤ t :=
  decide_eq_true_iff

theorem lt_of_le_of_ne {s t : Text} (h : s ≤ t) (hne : s ≠ t) : s < t :=
  match List.le_iff_lt_or_eq.mp (le_iff.mp h) with
  | .inl hlt => lt_iff.mpr hlt
  | .inr heq => absurd (ext heq) hne

def isWellFormed (t : Text) : Bool :=
  t.points.all fun c => !(0xD800 ≤ c && c ≤ 0xDFFF)

def splitOn (separator : Nat) (t : Text) : List Text :=
  go [] t.points
where
  go (piece : List Nat) : List Nat → List Text
    -- there is always at least one piece
    | [] => [⟨piece.reverse⟩]
    | c :: cs => if c = separator then ⟨piece.reverse⟩ :: go [] cs else go (c :: piece) cs

def startsWith (t beginning : Text) : Bool :=
  beginning.points.isPrefixOf t.points

def lowerAscii (t : Text) : Text :=
  ⟨t.points.map fun c => if 65 ≤ c && c ≤ 90 then c + 32 else c⟩

def upperAscii (t : Text) : Text :=
  ⟨t.points.map fun c => if 97 ≤ c && c ≤ 122 then c - 32 else c⟩

def repeated (n c : Nat) : Text :=
  ⟨List.replicate n c⟩

def take (n : Nat) (t : Text) : Text :=
  ⟨t.points.take n⟩

def drop (n : Nat) (t : Text) : Text :=
  ⟨t.points.drop n⟩

end Text

end Converge

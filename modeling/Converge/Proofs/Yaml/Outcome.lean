import Converge.Yaml.Content

/-!
This module contains what the reading of a part of a document may come to. Main statement: a scalar
is a single value, or malformed, or its form does not fit its tag.
-/

namespace Converge

/--
That a value is no list and no mapping.
-/
def Value.IsSingle : Value → Prop
  | .list _ => False
  | .map _ => False
  | _ => True

namespace Yaml

/--
What can be wrong with a document other than its form: a number, a word or a date that does not fit
its tag, an escape that stands for no code point, and nesting that is too deep.
-/
inductive Misfit : Foreign → Prop
  | malformedScalar : Misfit .malformedScalar
  | unknownWord : Misfit .unknownWord
  | unmatchedTimestamp : Misfit .unmatchedTimestamp
  | emptyNumber : Misfit .emptyNumber
  | scalarOverflow : Misfit .scalarOverflow
  | tooDeep : Misfit .tooDeep

def Trouble.IsKnown : Trouble → Prop
  | .malformed _ => True
  | .foreign f => Misfit f

variable {α β : Type} {P : α → Prop} {R : β → Prop} {x : Outcome α} {e : Trouble} {a : α}

/--
That reading gives a value of which `P` holds, or stops at a known trouble.
-/
def Yields (P : α → Prop) : Outcome α → Prop
  | .ok a => P a
  | .error e => e.IsKnown

/--
That reading stops only at a known trouble.
-/
abbrev Tame (x : Outcome α) : Prop :=
  Yields (fun _ => True) x

namespace Yields

theorem ok (h : P a) : Yields P (.ok a) := h

theorem malformed (reason : Text) : Yields P (malformed reason) := trivial

theorem misfit {f : Foreign} (h : Misfit f) : Yields P (.error (.foreign f)) := h

theorem of_ok (h : Yields P x) (ha : x = .ok a) : P a := by
  rw [ha] at h
  exact h

theorem of_error (h : Yields P x) (he : x = .error e) : e.IsKnown := by
  rw [he] at h
  exact h

theorem mono {P' : α → Prop} (h : Yields P x) (hP : ∀ a, P a → P' a) : Yields P' x := by
  cases x with
  | error e => exact h
  | ok a => exact hP a h

theorem bind {f : α → Outcome β} (h : Yields P x) (hf : ∀ a, P a → Yields R (f a)) :
    Yields R (x >>= f) := by
  cases x with
  | error e => exact h
  | ok a => exact hf a h

theorem map {f : α → β} (h : Yields P x) (hf : ∀ a, P a → R (f a)) : Yields R (x.map f) := by
  cases x with
  | error e => exact h
  | ok a => exact hf a h

theorem ite {c : Prop} [Decidable c] {y : Outcome α} (hx : Yields P x) (hy : Yields P y) :
    Yields P (if c then x else y) := by
  split
  · exact hx
  · exact hy

theorem tame (h : Yields P x) : Tame x :=
  h.mono fun _ _ => trivial

end Yields

theorem Tame.ok (a : α) : Tame (.ok a) := trivial

theorem Tame.bind {f : α → Outcome β} (h : Tame x) (hf : ∀ a, Yields R (f a)) :
    Yields R (x >>= f) :=
  Yields.bind h fun a _ => hf a

theorem Tame.map (h : Tame x) (f : α → β) : Tame (x.map f) :=
  Yields.map h fun _ _ => trivial

namespace Scalar

theorem tame_orMalformed (a? : Option α) : Tame (orMalformed a?) := by
  cases a? with
  | none => exact Yields.misfit .malformedScalar
  | some a => exact Tame.ok _

theorem tame_magnitude (cs : List Nat) : Tame (magnitude cs) := by
  unfold magnitude
  split
  · exact Yields.misfit .emptyNumber
  · exact Tame.ok _
  · exact tame_orMalformed _
  · exact tame_orMalformed _
  · exact tame_orMalformed _
  · split
    · exact tame_orMalformed _
    · exact (tame_orMalformed _).map _

theorem tame_real (cs : List Nat) : Tame (real cs) := by
  unfold real
  extract_lets word
  split
  · exact Tame.ok _
  · split
    · exact Tame.ok _
    · split
      · exact tame_orMalformed _
      · exact (tame_orMalformed _).map _

theorem yields_int (t : Text) : Yields Value.IsSingle (int t) := by
  unfold int
  extract_lets cs
  split
  · exact Yields.misfit .emptyNumber
  · exact Yields.map (tame_magnitude _) fun _ _ => trivial

theorem yields_float (t : Text) : Yields Value.IsSingle (float t) := by
  unfold float
  extract_lets cs
  split
  · exact Yields.misfit .emptyNumber
  · exact Yields.map (tame_real _) fun _ _ => trivial

theorem yields_bool (t : Text) : Yields Value.IsSingle (bool t) := by
  unfold bool
  split
  · exact Yields.ok trivial
  · exact Yields.misfit .unknownWord

theorem yields_octets (t : Text) : Yields Value.IsSingle (octets t) := by
  unfold octets
  split
  · exact Yields.malformed _
  · split
    · exact Yields.ok trivial
    · exact Yields.malformed _

theorem yields_timestamp (t : Text) : Yields Value.IsSingle (timestamp t) := by
  unfold timestamp
  split
  · exact Yields.misfit .unmatchedTimestamp
  · split
    · split
      · exact Yields.ok trivial
      · exact Yields.misfit .malformedScalar
    · extract_lets moment
      split
      · exact Yields.ok trivial
      · exact Yields.misfit .malformedScalar

theorem yields_read (tag : Tag) (t : Text) : Yields Value.IsSingle (read tag t) := by
  cases tag
  case null => exact Yields.ok trivial
  case bool => exact yields_bool t
  case int => exact yields_int t
  case float => exact yields_float t
  case timestamp => exact yields_timestamp t
  case text => exact Yields.ok trivial
  case octets => exact yields_octets t
  -- no scalar has the tag of a collection
  all_goals exact Yields.malformed _

end Scalar

end Yaml

end Converge

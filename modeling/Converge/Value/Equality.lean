import Converge.Value

/-!
This module contains a procedure that decides whether two data values are the same.
-/

namespace Converge.Value

mutual

def same : Value → Value → Bool
  | .null, .null => true
  | .bool b, .bool b' => b = b'
  | .int n, .int n' => n = n'
  | .float x, .float x' => x = x'
  | .text t, .text t' => t = t'
  | .octets bytes, .octets bytes' => bytes = bytes'
  | .date d, .date d' => d = d'
  | .moment t, .moment t' => t = t'
  | .path t, .path t' => t = t'
  | .list items, .list items' => sameItems items items'
  | .map entries, .map entries' => sameEntries entries entries'
  | _, _ => false

def sameItems : List Value → List Value → Bool
  | [], [] => true
  | v :: rest, v' :: rest' => same v v' && sameItems rest rest'
  | _, _ => false

def sameEntries : List (Text × Value) → List (Text × Value) → Bool
  | [], [] => true
  | (k, v) :: rest, (k', v') :: rest' => k = k' && same v v' && sameEntries rest rest'
  | _, _ => false

end

mutual

theorem same_iff (v w : Value) : same v w ↔ v = w := by
  cases v with
  | list items => cases w <;> simp [same, sameItems_iff items]
  | map entries => cases w <;> simp [same, sameEntries_iff entries]
  | _ => cases w <;> simp [same]

theorem sameItems_iff (items items' : List Value) : sameItems items items' ↔ items = items' := by
  cases items with
  | nil => cases items' <;> simp [sameItems]
  | cons v rest => cases items' <;> simp [sameItems, same_iff v, sameItems_iff rest]

theorem sameEntries_iff (entries entries' : List (Text × Value)) :
    sameEntries entries entries' ↔ entries = entries' := by
  cases entries with
  | nil => cases entries' <;> simp [sameEntries]
  | cons e rest =>
    obtain ⟨k, v⟩ := e
    cases entries' with
    | nil => simp [sameEntries]
    | cons e' rest' =>
      obtain ⟨k', v'⟩ := e'
      simp [sameEntries, same_iff v, sameEntries_iff rest]

end

instance : DecidableEq Value :=
  fun v w => decidable_of_iff _ (same_iff v w)

end Converge.Value

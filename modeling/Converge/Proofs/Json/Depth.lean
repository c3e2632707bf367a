import Converge.Json.Writer
import Converge.Proofs.Json.RoundTrip

/-!
This module contains which values are written as JSON, by how deep they are nested. Main statement: one
that has a form in JSON is written if there is room for its depth, and refused otherwise.
-/

namespace Converge

open List

namespace Value

variable {room : Nat} {v : Value} {items : List Value} {entries : List (Text × Value)}

mutual

/--
How many lists and maps are open at a time where a value is written.
-/
def depth : Value → Nat
  | .list items => depthItems items + 1
  | .map entries => depthEntries entries + 1
  | _ => 0

def depthItems : List Value → Nat
  | [] => 0
  | v :: rest => max (depth v) (depthItems rest)

def depthEntries : List (Text × Value) → Nat
  | [] => 0
  | (_, v) :: rest => max (depth v) (depthEntries rest)

end

theorem depthEntries_le_iff : depthEntries entries ≤ room ↔ ∀ e ∈ entries, e.2.depth ≤ room := by
  induction entries with
  | nil => simp [depthEntries]
  | cons e rest ih => rw [depthEntries, Nat.max_le, ih, forall_mem_cons]

theorem depth_map_le_iff :
    (Value.map entries).depth ≤ room ↔ 0 < room ∧ ∀ e ∈ entries, e.2.depth ≤ room - 1 := by
  rw [depth, ← depthEntries_le_iff]
  omega

/--
Why a value of this depth is refused where there is room for so many open lists and maps.
-/
def depthRefusal? (room depth : Nat) : Option Foreign :=
  if depth ≤ room then none else some .tooDeep

theorem or_depthRefusal? (room m n : Nat) :
    (depthRefusal? room m).or (depthRefusal? room n) = depthRefusal? room (max m n) := by
  simp only [depthRefusal?, Nat.max_le]
  by_cases hm : m ≤ room
  · simp [hm]
  · simp [hm]

theorem depthRefusal?_succ (room n : Nat) :
    depthRefusal? room (n + 1) =
      if room = 0 then some .tooDeep else depthRefusal? (room - 1) n := by
  unfold depthRefusal?
  split <;> split <;> simp <;> omega

theorem refusalItems?_eq (h : ∀ v ∈ items, v.refusal? true room = depthRefusal? room v.depth) :
    refusalItems? true room items = depthRefusal? room (depthItems items) := by
  induction items with
  | nil => rfl
  | cons v rest ih =>
    rw [forall_mem_cons] at h
    rw [refusalItems?, h.1, ih h.2, or_depthRefusal?, depthItems]

theorem refusalEntries?_eq
    (h : ∀ e ∈ entries, e.2.refusal? true room = depthRefusal? room e.2.depth) :
    refusalEntries? true room entries = depthRefusal? room (depthEntries entries) := by
  induction entries with
  | nil => rfl
  | cons e rest ih =>
    rw [forall_mem_cons] at h
    rw [refusalEntries?, h.1, ih h.2, or_depthRefusal?, depthEntries]

theorem IsJson.refusal?_eq (h : v.IsJson) (room : Nat) :
    v.refusal? true room = depthRefusal? room v.depth := by
  induction h generalizing room with
  | null => rfl
  | bool b => rfl
  | int h => rw [refusal?, if_neg (Nat.not_lt.2 h)]; rfl
  | text h => rfl
  | list _ ih =>
    rw [refusal?, depth, depthRefusal?_succ, refusalItems?_eq fun v hv => ih v hv _]
    simp
  | map _ _ ih =>
    rw [refusal?, depth, depthRefusal?_succ, refusalEntries?_eq fun e he => ih e he _]
    simp

end Value

namespace Json

variable {v : Value} {room : Nat}

/--
A value that has a form in JSON is written if and only if there is room for its depth.
-/
theorem dump_eq (h : v.IsJson) :
    dump room v = if v.depth ≤ room then .ok (write v) else .error .tooDeep := by
  unfold dump
  rw [h.refusal?_eq]
  unfold Value.depthRefusal?
  by_cases hdepth : v.depth ≤ room
  · rw [if_pos hdepth, if_pos hdepth]
  · rw [if_neg hdepth, if_neg hdepth]

end Json

end Converge

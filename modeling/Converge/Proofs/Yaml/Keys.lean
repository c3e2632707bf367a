import Converge.Proofs.Entries
import Converge.Proofs.Yaml.Outcome

/-!
This module contains that the keys of a mapping do not repeat in what is read from a document. Main
statement: this holds of the value of a whole document and of every value inside of it.
-/

namespace Converge

namespace Value

/--
That no key of a mapping repeats, in a value and in all that it contains.
-/
inductive Distinct : Value → Prop
  | single {v : Value} (h : v.IsSingle) : Distinct v
  | list {items : List Value} (h : ∀ v ∈ items, Distinct v) : Distinct (.list items)
  | map {entries : List (Text × Value)} (hkeys : (entries.map Prod.fst).Nodup)
    (h : ∀ e ∈ entries, Distinct e.2) : Distinct (.map entries)

variable {key : Text} {v : Value} {items : List Value} {entries : List (Text × Value)}

theorem Distinct.nodup (h : Distinct (.map entries)) : (entries.map Prod.fst).Nodup := by
  cases h with
  | single h => exact h.elim
  | map hkeys _ => exact hkeys

theorem Distinct.of_mem_map (h : Distinct (.map entries)) {e : Text × Value} (he : e ∈ entries) :
    e.2.Distinct := by
  cases h with
  | single h => exact h.elim
  | map _ h => exact h e he

theorem Distinct.of_mem_list (h : Distinct (.list items)) (hv : v ∈ items) : v.Distinct := by
  cases h with
  | single h => exact h.elim
  | list h => exact h v hv

theorem Distinct.find? (h : Distinct (.map entries)) (hv : Value.find? key entries = some v) :
    v.Distinct :=
  h.of_mem_map (mem_of_find? hv)

theorem Distinct.put (h : Distinct (.map entries)) (hv : v.Distinct) :
    Distinct (.map (put key v entries)) := by
  refine .map (nodup_put h.nodup) fun e he => ?_
  obtain rfl | hmem := mem_put he
  · exact hv
  · exact h.of_mem_map hmem

end Value

namespace Yaml

namespace Node

open Value (Distinct)

theorem distinct_scalarValue (tag : Tag) (t : Text) : Distinct (scalarValue tag t) := by
  unfold scalarValue
  split
  next v hv => exact .single ((Scalar.yields_read tag t).of_ok hv)
  next => exact .single trivial

theorem distinct_foldl_putEntry {news : List (Value × Value)} {entries : List (Text × Value)}
    (h : Distinct (.map entries)) (hnews : ∀ e ∈ news, e.2.Distinct) :
    Distinct (.map (news.foldl putEntry entries)) := by
  induction news generalizing entries with
  | nil => exact h
  | cons e rest ih =>
    have ⟨he, hrest⟩ := List.forall_mem_cons.mp hnews
    refine ih ?_ hrest
    unfold putEntry
    split
    · exact h.put he
    · exact h

theorem distinct_foldl_putMember {news members : List Value} (h : Distinct (.list members))
    (hnews : ∀ v ∈ news, v.Distinct) : Distinct (.list (news.foldl putMember members)) := by
  have hadd {members : List Value} {v : Value} (h : Distinct (.list members)) (hv : v.Distinct) :
      Distinct (.list (members ++ [v])) := by
    refine .list fun w hw => ?_
    rcases List.mem_append.mp hw with hw | hw
    · exact h.of_mem_list hw
    · exact List.mem_singleton.mp hw ▸ hv
  induction news generalizing members with
  | nil => exact h
  | cons v rest ih =>
    have ⟨hv, hrest⟩ := List.forall_mem_cons.mp hnews
    refine ih ?_ hrest
    unfold putMember
    split
    · split
      · exact h
      · exact hadd h hv
    · exact hadd h hv

theorem distinct_pair {f : Node → Value} (h : ∀ n, (f n).Distinct) (n : Node) :
    Distinct (unfold.pair f n) := by
  unfold unfold.pair
  split
  · exact .list (by simp [h])
  · exact .single trivial

theorem distinct_nil_map : Distinct (.map []) :=
  .map List.nodup_nil fun _ he => absurd he List.not_mem_nil

theorem distinct_nil_list : Distinct (.list []) :=
  .list fun _ hv => absurd hv List.not_mem_nil

theorem distinct_unfold (anchors : Anchors) (fuel : Nat) (n : Node) :
    Distinct (unfold anchors fuel n) := by
  induction fuel generalizing n with
  | zero =>
    unfold Node.unfold
    split
    · exact distinct_scalarValue _ _
    · exact distinct_nil_list
    · split
      · exact distinct_nil_list
      · exact distinct_nil_map
    · exact .single trivial
  | succ fuel ih =>
    unfold Node.unfold
    split
    · exact distinct_scalarValue _ _
    · split
      · refine .list fun v hv => ?_
        obtain ⟨item, -, rfl⟩ := List.mem_map.mp hv
        exact ih item
      · refine .list fun v hv => ?_
        obtain ⟨item, -, rfl⟩ := List.mem_map.mp hv
        exact distinct_pair ih _
    · split
      · exact .single trivial
      · extract_lets entries
        split
        · refine distinct_foldl_putMember distinct_nil_list fun v hv => ?_
          simp only [entries, List.map_map, List.mem_map] at hv
          obtain ⟨e, -, rfl⟩ := hv
          exact ih e.1
        · refine distinct_foldl_putEntry distinct_nil_map fun e he => ?_
          obtain ⟨e, -, rfl⟩ := List.mem_map.mp he
          exact ih e.2
    · exact .single trivial

end Node

theorem distinct_of_read {t : Text} {v : Value} (h : read t = .ok v) : v.Distinct := by
  unfold read at h
  extract_lets tokens at h
  split at h
  · cases h
  · split at h
    · cases h
    · split at h
      · cases h
      · cases h
        exact Node.distinct_unfold _ _ _

end Yaml

end Converge

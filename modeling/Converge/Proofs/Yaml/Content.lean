import Converge.Proofs.Yaml.Node

/-!
This module contains what the reading of a YAML document may stop at. Main statement: it is malformed,
or something in it does not fit its tag or is nested too deeply.
-/

namespace Converge.Yaml

namespace Node

variable {anchors : Anchors}

/--
That every one of the functions that merge mappings stops only at a known trouble with this fuel.
-/
structure MergesTame (anchors : Anchors) (fuel : Nat) : Prop where
  flatten : ∀ open_ entries, Tame (flatten anchors fuel open_ entries)
  mergeAll : ∀ open_ merges, Tame (mergeAll anchors fuel open_ merges)
  mergeSource : ∀ open_ source, Tame (mergeSource anchors fuel open_ source)
  mergeItems : ∀ open_ items, Tame (mergeItems anchors fuel open_ items)

namespace MergesTame

variable {fuel : Nat}

theorem flatten_succ (ih : MergesTame anchors fuel) (open_ : List Text) (entries : Entries) :
    Tame (Node.flatten anchors (fuel + 1) open_ entries) := by
  unfold Node.flatten
  split
  next => exact Tame.ok _
  next he => exact (ih.mergeAll _ _).of_error he

theorem mergeAll_succ (ih : MergesTame anchors fuel) (open_ : List Text) (merges : Entries) :
    Tame (Node.mergeAll anchors (fuel + 1) open_ merges) := by
  unfold Node.mergeAll
  split
  · exact Tame.ok _
  · split
    next he => exact (ih.mergeSource _ _).of_error he
    next => exact (ih.mergeAll _ _).map _

theorem mergeSource_succ (ih : MergesTame anchors fuel) (open_ : List Text) (source : Node) :
    Tame (Node.mergeSource anchors (fuel + 1) open_ source) := by
  unfold Node.mergeSource
  split
  · split
    · exact ih.flatten _ _
    · exact (Tame.ok _).ite (ih.flatten _ _)
  · exact ih.mergeItems _ _
  · exact Yields.malformed _

theorem mergeItems_succ (ih : MergesTame anchors fuel) (open_ : List Text) (items : List Node) :
    Tame (Node.mergeItems anchors (fuel + 1) open_ items) := by
  unfold Node.mergeItems
  split
  · exact Tame.ok _
  · split
    next he => exact (ih.mergeSource _ _).of_error he
    next => exact (ih.mergeItems _ _).map _
  · exact Yields.malformed _

theorem all (anchors : Anchors) (fuel : Nat) : MergesTame anchors fuel := by
  induction fuel with
  | zero => exact ⟨fun _ _ => trivial, fun _ _ => trivial, fun _ _ => trivial, fun _ _ => trivial⟩
  | succ fuel ih => exact ⟨ih.flatten_succ, ih.mergeAll_succ, ih.mergeSource_succ, ih.mergeItems_succ⟩

end MergesTame

theorem tame_entriesOf (anchors : Anchors) (anchor? : Option Text) (entries : Entries) :
    Tame (entriesOf anchors anchor? entries) :=
  (MergesTame.all anchors mergeFuel).flatten anchor?.toList entries

namespace Survey

theorem tame_visit (anchors : Anchors) (n : Node) (s : Survey) : Tame (s.visit anchors n) := by
  unfold visit
  split
  · exact (Scalar.yields_read _ _).tame.map _
  · exact (Tame.ok _).ite (Yields.malformed _)
  · exact (Tame.ok _).ite (Yields.malformed _)
  · exact Yields.malformed _

theorem tame_visitKey (anchors : Anchors) (n : Node) (s : Survey) :
    Tame (s.visitKey anchors n) := by
  unfold visitKey
  split
  · exact (Scalar.yields_read _ _).tame.map _
  · exact Yields.malformed _

theorem tame_visitEntries (anchors : Anchors) (entries : Entries) (s : Survey) :
    Tame (visitEntries anchors entries s) := by
  induction entries generalizing s with
  | nil => exact Tame.ok _
  | cons e rest ih =>
    unfold visitEntries
    split
    next he => exact (tame_visitKey _ _ _).of_error he
    next =>
      split
      next he => exact (tame_visit _ _ _).of_error he
      next => exact ih _

theorem tame_visitItems (anchors : Anchors) (items : List Node) (s : Survey) :
    Tame (visitItems anchors items s) := by
  induction items generalizing s with
  | nil => exact Tame.ok _
  | cons n rest ih =>
    unfold visitItems
    split
    next he => exact (tame_visit _ _ _).of_error he
    next => exact ih _

theorem tame_visitPairs (anchors : Anchors) (items : List Node) (s : Survey) :
    Tame (visitPairs anchors items s) := by
  induction items generalizing s with
  | nil => exact Tame.ok _
  | cons n rest ih =>
    unfold visitPairs
    split
    · split
      next he => exact (tame_visitItems _ _ _).of_error he
      next => exact ih _
    · exact Yields.malformed _

theorem tame_visitContent (anchors : Anchors) (n : Node) (s : Survey) :
    Tame (s.visitContent anchors n) := by
  unfold visitContent
  split
  · exact tame_visitItems _ _ _
  · exact tame_visitPairs _ _ _
  · exact tame_visitPairs _ _ _
  · refine Yields.ite ?_ (Yields.malformed _)
    split
    next he => exact (tame_entriesOf _ _ _).of_error he
    next => exact tame_visitEntries _ _ _
  · exact Yields.malformed _

theorem tame_run (anchors : Anchors) (fuel : Nat) (s : Survey) : Tame (s.run anchors fuel) := by
  induction fuel generalizing s with
  | zero => exact Tame.ok _
  | succ fuel ih =>
    unfold run
    split
    · split
      next he => exact (tame_visitContent _ _ _).of_error he
      next => exact ih _
    · exact (Tame.ok _).ite (ih _)

end Survey

end Node

theorem tame_read (t : Text) : Tame (read t) := by
  unfold read
  extract_lets tokens
  split
  next he => exact (Tree.tame_ofTokens fun _ ht => Token.isSound_of_mem_ofDocument ht).of_error he
  next tree _ =>
    split
    next he => exact (Node.Survey.tame_visit _ _ _).of_error he
    next =>
      split
      next he => exact (Node.Survey.tame_run _ _ _).of_error he
      next => exact Tame.ok _

end Converge.Yaml

import Converge.Proofs.Yaml.Token

/-!
This module contains what the composition of nodes from tokens may stop at. Main statement: it stops
only at a known trouble, if the tokens do.
-/

namespace Converge.Yaml

namespace Composer

def Sound (s : Composer) : Prop :=
  ∀ t ∈ s.tokens, t.IsSound

/--
That a step stops only at a known trouble, and that the tokens it leaves are sound.
-/
abbrev Keeps {α : Type} (x : Step α) : Prop :=
  Yields (fun r => r.2.Sound) x

variable {s : Composer} {α : Type}

theorem Keeps.ok (h : s.Sound) (a : α) : Keeps (.ok (a, s)) := h

theorem Sound.skip (h : s.Sound) : s.skip.Sound :=
  fun t ht => h t (List.mem_of_mem_drop ht)

theorem Sound.keeps_refuse (h : s.Sound) : Keeps (s.refuse : Step α) := by
  unfold refuse
  split
  next e rest hs => exact h (.failed e) (by simp [hs])
  next => exact Yields.malformed _

theorem Sound.keeps_record (h : s.Sound) (p : Properties) (n : Node) :
    Keeps (.ok (s.record p n)) := by
  unfold record
  split
  · exact Yields.ok h
  · exact Yields.ok h

theorem Sound.yields_takeAnchor (h : s.Sound) (name : Text) : Yields Sound (s.takeAnchor name) := by
  unfold takeAnchor
  exact (Yields.malformed _).ite (Yields.ok h.skip)

theorem tame_resolveTag (s : Composer) (handle? : Option Text) (suffix : Text) :
    Tame (s.resolveTag handle? suffix) := by
  unfold resolveTag
  split
  · exact Tame.ok _
  · split
    · exact Tame.ok _
    · exact Yields.malformed _

theorem Sound.keeps_takeProperties (h : s.Sound) : Keeps s.takeProperties := by
  unfold takeProperties
  split
  · split
    next hs _ => exact Yields.ok ((h.yields_takeAnchor _).of_ok hs).skip
    next he => exact (h.yields_takeAnchor _).of_error he
    next he _ => exact (tame_resolveTag _ _ _).of_error he
  · split
    next hs => exact Yields.ok ((h.yields_takeAnchor _).of_ok hs)
    next he => exact (h.yields_takeAnchor _).of_error he
  · split
    next hs => exact Yields.ok ((h.skip.yields_takeAnchor _).of_ok hs)
    next he => exact (tame_resolveTag _ _ _).of_error he
    next he _ => exact (h.skip.yields_takeAnchor _).of_error he
  · split
    next => exact Yields.ok h.skip
    next he => exact (tame_resolveTag _ _ _).of_error he
  · exact Yields.ok h

theorem Sound.keeps_emptyScalar (h : s.Sound) (p : Properties) :
    Keeps (node.emptyScalar p s) := by
  unfold node.emptyScalar
  exact h.keeps_refuse.ite (h.keeps_record _ _)

theorem keeps_collection {x : Step (List Node)} (h : Keeps x) (p : Properties) (default : Tag) :
    Keeps (node.collection p default x) := by
  unfold node.collection
  split
  next e => exact h.of_error rfl
  next => exact Sound.keeps_record (h.of_ok rfl) _ _

theorem keeps_mappingOf {x : Step (List (Node × Node))} (h : Keeps x) (p : Properties) :
    Keeps (node.mappingOf p x) := by
  unfold node.mappingOf
  split
  next e => exact h.of_error rfl
  next => exact Sound.keeps_record (h.of_ok rfl) _ _

/--
That every one of the functions that read nodes keeps to known troubles with this fuel.
-/
structure ReadersKeep (fuel : Nat) : Prop where
  node : ∀ {setting depth s}, s.Sound → Keeps (node setting fuel depth s)
  blockSequence : ∀ {indentless depth items s}, s.Sound →
    Keeps (blockSequence indentless fuel depth items s)
  blockMapping : ∀ {depth entries s}, s.Sound → Keeps (blockMapping fuel depth entries s)
  blockPart : ∀ {depth s}, s.Sound → Keeps (blockPart fuel depth s)
  flowSequence : ∀ {depth first items s}, s.Sound → Keeps (flowSequence fuel depth first items s)
  flowItem : ∀ {depth items s}, s.Sound → Keeps (flowItem fuel depth items s)
  flowPart : ∀ {ends depth s}, s.Sound → Keeps (flowPart ends fuel depth s)
  flowMapping : ∀ {depth first entries s}, s.Sound →
    Keeps (flowMapping fuel depth first entries s)
  flowPair : ∀ {depth entries s}, s.Sound → Keeps (flowPair fuel depth entries s)

namespace ReadersKeep

variable {fuel depth : Nat} {items : List Node} {entries : List (Node × Node)}

theorem node_succ (ih : ReadersKeep fuel) (setting : Setting) (h : s.Sound) :
    Keeps (Composer.node setting (fuel + 1) depth s) := by
  unfold Composer.node
  split
  · exact (Keeps.ok h.skip _).ite (Yields.malformed _)
  · split
    next he => exact h.keeps_takeProperties.of_error he
    next p s hs =>
      have h := h.keeps_takeProperties.of_ok hs
      split
      · exact h.skip.keeps_record _ _
      · exact (keeps_collection (ih.blockSequence h) _ _).ite (h.keeps_emptyScalar _)
      · exact (h.keeps_emptyScalar _).ite (keeps_collection (ih.blockSequence h.skip) _ _)
      · exact keeps_collection (ih.flowSequence h.skip) _ _
      · exact (h.keeps_emptyScalar _).ite (keeps_mappingOf (ih.blockMapping h.skip) _)
      · exact keeps_mappingOf (ih.flowMapping h.skip) _
      · exact h.keeps_emptyScalar _

theorem blockSequence_succ (ih : ReadersKeep fuel) (indentless : Bool) (h : s.Sound) :
    Keeps (Composer.blockSequence indentless (fuel + 1) depth items s) := by
  unfold Composer.blockSequence
  refine Yields.ite (Yields.misfit .tooDeep) ?_
  split
  · refine (ih.blockSequence h.skip).ite ?_
    split
    next he => exact (ih.node h.skip).of_error he
    next item s hs => exact ih.blockSequence ((ih.node h.skip).of_ok hs)
  · split
    · exact Keeps.ok h _
    · exact Keeps.ok h.skip _
  · exact (Keeps.ok h _).ite h.keeps_refuse

theorem blockMapping_succ (ih : ReadersKeep fuel) (h : s.Sound) :
    Keeps (Composer.blockMapping (fuel + 1) depth entries s) := by
  unfold Composer.blockMapping
  refine Yields.ite (Yields.misfit .tooDeep) ?_
  split
  · split
    next he => exact (ih.blockPart h.skip).of_error he
    next key s hs =>
      have h := (ih.blockPart h.skip).of_ok hs
      split
      · split
        next he => exact (ih.blockPart h.skip).of_error he
        next value s hs => exact ih.blockMapping ((ih.blockPart h.skip).of_ok hs)
      · exact ih.blockMapping h
  · exact Keeps.ok h.skip _
  · exact h.keeps_refuse

theorem blockPart_succ (ih : ReadersKeep fuel) (h : s.Sound) :
    Keeps (Composer.blockPart (fuel + 1) depth s) := by
  unfold Composer.blockPart
  exact (Keeps.ok h _).ite (ih.node h)

theorem flowSequence_succ (ih : ReadersKeep fuel) (first : Bool) (h : s.Sound) :
    Keeps (Composer.flowSequence (fuel + 1) depth first items s) := by
  unfold Composer.flowSequence
  refine Yields.ite (Yields.misfit .tooDeep) ?_
  split
  · exact Keeps.ok h.skip _
  · split
    · exact ih.flowItem h.skip
    · exact ih.flowItem h
    · exact h.keeps_refuse
  · exact h.keeps_refuse

theorem flowItem_succ (ih : ReadersKeep fuel) (h : s.Sound) :
    Keeps (Composer.flowItem (fuel + 1) depth items s) := by
  unfold Composer.flowItem
  split
  · exact Keeps.ok h.skip _
  · split
    next he => exact (ih.flowPart h.skip).of_error he
    next key s hs =>
      have h := (ih.flowPart h.skip).of_ok hs
      split
      · split
        next he => exact (ih.flowPart h.skip).of_error he
        next value s hs => exact ih.flowSequence ((ih.flowPart h.skip).of_ok hs)
      · exact ih.flowSequence h
  · split
    next he => exact (ih.node h).of_error he
    next item s hs => exact ih.flowSequence ((ih.node h).of_ok hs)

theorem flowPart_succ (ih : ReadersKeep fuel) (ends : Token → Bool) (h : s.Sound) :
    Keeps (Composer.flowPart ends (fuel + 1) depth s) := by
  unfold Composer.flowPart
  exact (Keeps.ok h _).ite (ih.node h)

theorem flowMapping_succ (ih : ReadersKeep fuel) (first : Bool) (h : s.Sound) :
    Keeps (Composer.flowMapping (fuel + 1) depth first entries s) := by
  unfold Composer.flowMapping
  refine Yields.ite (Yields.misfit .tooDeep) ?_
  split
  · exact Keeps.ok h.skip _
  · split
    · exact ih.flowPair h.skip
    · exact ih.flowPair h
    · exact h.keeps_refuse
  · exact h.keeps_refuse

theorem flowPair_succ (ih : ReadersKeep fuel) (h : s.Sound) :
    Keeps (Composer.flowPair (fuel + 1) depth entries s) := by
  unfold Composer.flowPair
  split
  · exact Keeps.ok h.skip _
  · split
    next he => exact (ih.flowPart h.skip).of_error he
    next key s hs =>
      have h := (ih.flowPart h.skip).of_ok hs
      split
      · split
        next he => exact (ih.flowPart h.skip).of_error he
        next value s hs => exact ih.flowMapping ((ih.flowPart h.skip).of_ok hs)
      · exact ih.flowMapping h
  · split
    next he => exact (ih.node h).of_error he
    next key s hs => exact ih.flowMapping ((ih.node h).of_ok hs)

theorem zero : ReadersKeep 0 where
  node h := h.keeps_refuse
  blockSequence h := h.keeps_refuse
  blockMapping h := h.keeps_refuse
  blockPart h := h.keeps_refuse
  flowSequence h := h.keeps_refuse
  flowItem h := h.keeps_refuse
  flowPart h := h.keeps_refuse
  flowMapping h := h.keeps_refuse
  flowPair h := h.keeps_refuse

theorem succ (ih : ReadersKeep fuel) : ReadersKeep (fuel + 1) where
  node h := ih.node_succ _ h
  blockSequence h := ih.blockSequence_succ _ h
  blockMapping h := ih.blockMapping_succ h
  blockPart h := ih.blockPart_succ h
  flowSequence h := ih.flowSequence_succ _ h
  flowItem h := ih.flowItem_succ h
  flowPart h := ih.flowPart_succ _ h
  flowMapping h := ih.flowMapping_succ _ h
  flowPair h := ih.flowPair_succ h

theorem all (fuel : Nat) : ReadersKeep fuel := by
  -- the functions call each other with one step less
  induction fuel with
  | zero => exact zero
  | succ fuel ih => exact ih.succ

end ReadersKeep

theorem yields_takeDirectives (hasVersion : Bool) (handles : List (Text × Text))
    {tokens : List Token} (h : ∀ t ∈ tokens, t.IsSound) :
    Yields (fun r => ∀ t ∈ r.2, t.IsSound) (takeDirectives hasVersion handles tokens) := by
  induction tokens generalizing hasVersion handles with
  | nil => exact Yields.ok h
  | cons t rest ih =>
    have hrest := (List.forall_mem_cons.mp h).2
    unfold takeDirectives
    split
    next major rest' heq =>
      cases heq
      exact (Yields.malformed _).ite ((Yields.malformed _).ite (ih _ _ hrest))
    next handle beginning rest' heq =>
      cases heq
      exact (Yields.malformed _).ite (ih _ _ hrest)
    next rest' heq =>
      cases heq
      exact ih _ _ hrest
    next => exact Yields.ok h

theorem keeps_start {tokens : List Token} (h : ∀ t ∈ tokens, t.IsSound) : Keeps (start tokens) := by
  have htake := yields_takeDirectives false [] h
  unfold start
  split
  · split
    next he => exact htake.of_error he
    next hs => exact Yields.ok fun t ht => htake.of_ok hs t (List.mem_cons_of_mem _ ht)
    next hs => exact Sound.keeps_refuse (htake.of_ok hs)
  · exact Yields.ok h

theorem Sound.tame_finish (h : s.Sound) (root : Node) : Tame (finish root s) := by
  unfold finish
  split
  · exact Tame.ok _
  next e rest hs =>
    have he := List.mem_cons_self (a := Token.failed e) (l := rest)
    rw [← hs] at he
    exact h _ (List.dropWhile_sublist _ |>.mem he)
  · exact Yields.malformed _

end Composer

theorem Tree.tame_ofTokens {tokens : List Token} (h : ∀ t ∈ tokens, t.IsSound) :
    Tame (Tree.ofTokens tokens) := by
  unfold Tree.ofTokens
  split
  · exact Tame.ok _
  · split
    next he => exact (Composer.keeps_start h).of_error he
    next isExplicit s hs =>
      have h := (Composer.keeps_start h).of_ok hs
      refine (Composer.Sound.tame_finish h _).ite ?_
      split
      next he => exact ((Composer.ReadersKeep.all _).node h).of_error he
      next root s hs =>
        have h := ((Composer.ReadersKeep.all _).node h).of_ok hs
        exact Composer.Sound.tame_finish h root

end Converge.Yaml

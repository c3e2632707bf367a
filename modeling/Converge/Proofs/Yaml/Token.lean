import Converge.Proofs.Yaml.Cursor

/-!
This module contains what the division of a document into tokens may stop at. Main statement: where
the tokens of a document end in a failure, its trouble is a known one.
-/

namespace Converge.Yaml

/--
That a token is no failure, or that of a known trouble.
-/
def Token.IsSound : Token → Prop
  | .failed e => e.IsKnown
  | _ => True

namespace Lexer

def Sound (s : Lexer) : Prop :=
  ∀ t ∈ s.tokens, t.IsSound

variable {s : Lexer} {t : Token} {α : Type}

theorem Sound.emit (h : s.Sound) (ht : t.IsSound) : (s.emit t).Sound :=
  List.forall_mem_cons.mpr ⟨ht, h⟩

theorem Sound.insert {news : List Token} (h : s.Sound) (hnews : ∀ t ∈ news, t.IsSound)
    (position : Nat) : (s.insert position news).Sound := by
  intro t ht
  unfold Lexer.insert at ht
  rcases List.mem_append.mp ht with ht | ht
  · rcases List.mem_append.mp ht with ht | ht
    · exact h t (List.mem_of_mem_take ht)
    · exact hnews t (List.mem_reverse.mp ht)
  · exact h t (List.mem_of_mem_drop ht)

theorem Sound.unwind_go (h : s.Sound) (column : Int) (indents : List Int) :
    (unwind.go column indents s).Sound := by
  induction indents generalizing s with
  | nil => exact h
  | cons outer rest ih =>
    unfold unwind.go
    split
    · exact ih (h.emit (t := .blockEnd) trivial)
    · exact h

theorem Sound.unwind (h : s.Sound) (column : Int) : (s.unwind column).Sound := by
  unfold Lexer.unwind
  split
  · exact h.unwind_go column _
  · exact h

theorem Sound.indentTo? {s' : Lexer} {column : Int} (h : s.Sound)
    (hs : s.indentTo? column = some s') : s'.Sound := by
  unfold Lexer.indentTo? at hs
  split at hs
  · cases hs
    exact h
  · cases hs

theorem Sound.skipToToken (h : s.Sound) (fuel : Nat) : (Lexer.skipToToken fuel s).Sound := by
  induction fuel generalizing s with
  | zero => exact h
  | succ fuel ih =>
    unfold Lexer.skipToToken
    extract_lets c
    split
    · exact ih h
    · exact h

theorem Sound.yields_discardKey (h : s.Sound) : Yields Sound s.discardKey := by
  unfold discardKey
  split
  · split
    · exact Yields.malformed _
    · exact Yields.ok h
  · exact Yields.ok h

theorem Sound.yields_discardStale (h : s.Sound) : Yields Sound s.discardStale := by
  unfold discardStale
  extract_lets stale
  split
  · exact Yields.malformed _
  · exact Yields.ok h

theorem Sound.yields_saveKey (h : s.Sound) : Yields Sound s.saveKey := by
  unfold saveKey
  split
  · exact h.yields_discardKey.bind fun _ hs => Yields.ok hs
  · exact Yields.ok h

theorem Sound.yields_startDocumentPart (h : s.Sound) : Yields Sound s.startDocumentPart :=
  (h.unwind _).yields_discardKey.bind fun _ hs => Yields.ok hs

theorem Sound.yields_openFlow (h : s.Sound) (ht : t.IsSound) : Yields Sound (s.openFlow t) :=
  h.yields_saveKey.bind fun _ hs => Yields.ok (hs.emit ht)

theorem Sound.yields_closeFlow (h : s.Sound) (ht : t.IsSound) : Yields Sound (s.closeFlow t) :=
  h.yields_discardKey.bind fun _ hs => Yields.ok (hs.emit ht)

theorem Sound.yields_flowEntry (h : s.Sound) : Yields Sound s.flowEntry :=
  h.yields_discardKey.bind fun _ hs => Yields.ok (hs.emit (t := .flowEntry) trivial)

theorem Sound.yields_openBlock (h : s.Sound) (ht : t.IsSound) : Yields Sound (s.openBlock t) := by
  unfold openBlock
  split
  · exact Yields.ok h
  · split
    · exact Yields.malformed _
    · split
      next hs => exact Yields.ok ((h.indentTo? hs).emit ht)
      next => exact Yields.ok h

theorem Sound.yields_blockEntry (h : s.Sound) : Yields Sound s.blockEntry := by
  refine (h.yields_openBlock (t := .blockSequenceStart) trivial).bind fun _ hs => ?_
  exact hs.yields_discardKey.bind fun _ hs => Yields.ok (hs.emit (t := .blockEntry) trivial)

theorem Sound.yields_explicitKey (h : s.Sound) : Yields Sound s.explicitKey := by
  refine (h.yields_openBlock (t := .blockMappingStart) trivial).bind fun _ hs => ?_
  exact hs.yields_discardKey.bind fun _ hs => Yields.ok (hs.emit (t := .key) trivial)

theorem Sound.yields_mappingValue (h : s.Sound) : Yields Sound s.mappingValue := by
  unfold mappingValue
  split
  · extract_lets s₁ s₂
    have h₂ : s₂.Sound := by
      dsimp only [s₂]
      split
      next s' hs =>
        have hs' : s'.Sound := by
          split at hs
          · exact Sound.indentTo? (s := s₁) h hs
          · cases hs
        exact hs'.insert (by simp [Token.IsSound]) _
      next => exact Sound.insert (s := s₁) h (by simp [Token.IsSound]) _
    exact Yields.ok (Sound.emit (s := s₂.skipPoint) (t := .value) h₂ trivial)
  · refine (h.yields_openBlock (t := .blockMappingStart) trivial).bind fun _ hs => ?_
    exact Yields.ok (hs.emit (t := .value) trivial)

theorem Sound.yields_scanned {scan : Cursor → Outcome (α × Cursor)} {f : α → Token}
    (h : s.Sound) (hscan : ∀ c, Tame (scan c)) (hf : ∀ a, (f a).IsSound) :
    Yields Sound (s.scanned scan f) := by
  refine h.yields_saveKey.bind fun s hs => ?_
  exact (hscan s.cursor).bind fun ⟨a, c⟩ => Yields.ok (hs.emit (hf a))

theorem Sound.yields_tag (h : s.Sound) (fuel : Nat) : Yields Sound (s.tag fuel) :=
  h.yields_scanned (fun c => (c.tame_scanTag fuel).map _) fun _ => trivial

theorem Sound.yields_quoted (h : s.Sound) (double : Bool) (fuel : Nat) :
    Yields Sound (s.quoted double fuel) :=
  h.yields_scanned (fun c => Cursor.tame_scanQuoted_go double fuel [] c.next) fun _ => trivial

theorem Sound.yields_plain (h : s.Sound) (fuel : Nat) : Yields Sound (s.plain fuel) :=
  h.yields_saveKey.bind fun _ hs => Yields.ok (hs.emit (t := .scalar _ true) trivial)

theorem Sound.yields_block (h : s.Sound) (folded : Bool) (fuel : Nat) :
    Yields Sound (s.block folded fuel) := by
  refine h.yields_discardKey.bind fun s hs => ?_
  refine (s.cursor.tame_scanBlock folded s.indent fuel).bind fun ⟨t, c⟩ => ?_
  exact Yields.ok (hs.emit (t := .scalar t false) trivial)

theorem Sound.yields_directive (h : s.Sound) (fuel : Nat) : Yields Sound (s.directive fuel) := by
  refine h.yields_startDocumentPart.bind fun s hs => ?_
  refine (s.cursor.tame_scanDirective fuel).bind fun ⟨d, c⟩ => ?_
  exact Yields.ok (hs.emit (t := .directive d) trivial)

theorem Sound.yields_documentMark (h : s.Sound) (ht : t.IsSound) :
    Yields Sound (s.documentMark t) :=
  h.yields_startDocumentPart.bind fun _ hs => Yields.ok (hs.emit ht)

theorem Sound.yields_scanToken (h : s.Sound) (fuel : Nat) : Yields Sound (s.scanToken fuel) := by
  unfold scanToken
  extract_lets c p separated
  -- the kinds of token in the order in which they are tried
  refine (h.yields_directive fuel).ite ?_
  refine Yields.ite (h.yields_documentMark ?_) ?_
  · split
    · trivial
    · trivial
  refine (h.yields_openFlow (t := .flowSequenceStart) trivial).ite ?_
  refine (h.yields_openFlow (t := .flowMappingStart) trivial).ite ?_
  refine (h.yields_closeFlow (t := .flowSequenceEnd) trivial).ite ?_
  refine (h.yields_closeFlow (t := .flowMappingEnd) trivial).ite ?_
  refine h.yields_flowEntry.ite ?_
  refine h.yields_blockEntry.ite ?_
  refine h.yields_explicitKey.ite ?_
  refine h.yields_mappingValue.ite ?_
  refine (h.yields_scanned (f := .alias) Cursor.tame_scanAnchor fun _ => trivial).ite ?_
  refine (h.yields_scanned (f := .anchor) Cursor.tame_scanAnchor fun _ => trivial).ite ?_
  refine (h.yields_tag fuel).ite ?_
  refine (h.yields_block false fuel).ite ?_
  refine (h.yields_block true fuel).ite ?_
  refine (h.yields_quoted false fuel).ite ?_
  refine (h.yields_quoted true fuel).ite ?_
  exact (h.yields_plain fuel).ite (Yields.malformed _)

theorem Sound.of_failed {e : Trouble} (h : s.Sound) (he : e.IsKnown) :
    ∀ t ∈ (s.emit (.failed e)).tokens.reverse, t.IsSound := by
  intro t ht
  exact (h.emit (t := .failed e) he) t (List.mem_reverse.mp ht)

theorem Sound.finish (h : s.Sound) : ∀ t ∈ s.finish, t.IsSound := by
  have hd := (h.unwind (-1)).yields_discardKey
  unfold Lexer.finish
  split
  next s' hs =>
    intro t ht
    exact ((hd.of_ok hs).emit (t := .streamEnd) trivial) t (List.mem_reverse.mp ht)
  next e he => exact h.of_failed (hd.of_error he)

theorem Sound.run (h : s.Sound) (fuel : Nat) : ∀ t ∈ run fuel s, t.IsSound := by
  induction fuel generalizing s with
  | zero => exact h.finish
  | succ fuel ih =>
    have hskip := h.skipToToken (fuel + 1)
    unfold Lexer.run
    split
    next e he => exact h.of_failed (hskip.yields_discardStale.of_error he)
    next s₁ hs₁ =>
      have h₁ := (hskip.yields_discardStale.of_ok hs₁).unwind s₁.cursor.column
      extract_lets s₂
      split
      · exact h₁.finish
      · split
        next e he => exact h₁.of_failed ((h₁.yields_scanToken _).of_error he)
        next s₃ hs₃ => exact ih ((h₁.yields_scanToken _).of_ok hs₃)

end Lexer

/--
The tokens of a document are sound.
-/
theorem Token.isSound_of_mem_ofDocument {d : Text} {t : Token} (h : t ∈ Token.ofDocument d) :
    t.IsSound := by
  unfold Token.ofDocument at h
  split at h
  · exact Lexer.Sound.run (by simp [Lexer.Sound]) _ t h
  · cases List.mem_singleton.mp h
    trivial

end Converge.Yaml

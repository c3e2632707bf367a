import Converge.Proofs.Yaml.Outcome

/-!
This module contains what the scanning of a single token may stop at: a form that is not YAML, or an
escape that stands for no code point.
-/

namespace Converge.Yaml

namespace Cursor

theorem tame_scanAnchor (c : Cursor) : Tame c.scanAnchor := by
  unfold scanAnchor
  split
  split
  · exact Yields.malformed _
  · split
    · exact Tame.ok _
    · exact Yields.malformed _

theorem tame_scanEscapes (fuel : Nat) (octets : List UInt8) (c : Cursor) :
    Tame (scanEscapes fuel octets c) := by
  induction fuel generalizing octets c with
  | zero => exact Tame.ok _
  | succ fuel ih =>
    unfold scanEscapes
    split
    · split
      · split
        · exact ih _ _
        · exact Yields.malformed _
      · exact Yields.malformed _
    · exact Tame.ok _

theorem tame_scanUri_go (fuel : Nat) (uri : Text) (c : Cursor) : Tame (scanUri.go fuel uri c) := by
  induction fuel generalizing uri c with
  | zero => exact Tame.ok _
  | succ fuel ih =>
    unfold scanUri.go
    split
    · split
      next e he => exact (tame_scanEscapes _ _ _).of_error he
      next =>
        split
        · exact ih _ _
        · exact Yields.malformed _
    · split
      split
      · exact ih _ _
      · split
        · exact Yields.malformed _
        · exact Tame.ok _

theorem tame_scanUri (fuel : Nat) (c : Cursor) : Tame (c.scanUri fuel) :=
  tame_scanUri_go fuel .empty c

theorem tame_scanHandle (c : Cursor) : Tame c.scanHandle := by
  unfold scanHandle
  split
  · exact Yields.malformed _
  · split
    · exact Tame.ok _
    · split
      split
      · exact Tame.ok _
      · exact Yields.malformed _

theorem tame_scanTag (fuel : Nat) (c : Cursor) : Tame (c.scanTag fuel) := by
  unfold scanTag
  extract_lets close after
  have hclose : ∀ x, Tame (close x) := by
    intro ⟨handle?, suffix, c⟩
    dsimp only [close]
    split
    · exact Tame.ok _
    · exact Yields.malformed _
  split
  · refine (tame_scanUri _ _).bind fun ⟨suffix, c⟩ => ?_
    dsimp only
    split
    · exact (Tame.ok _).bind hclose
    · exact Yields.malformed _
  · split
    · exact (Tame.ok _).bind hclose
    · have hafter : ∀ x, Tame (after x) := by
        intro ⟨handle, c⟩
        refine (tame_scanUri _ _).bind fun ⟨suffix, c⟩ => ?_
        exact (Tame.ok _).bind hclose
      split
      · exact (tame_scanHandle _).bind hafter
      · exact (Tame.ok _).bind hafter

theorem tame_scanNumber (c : Cursor) : Tame c.scanNumber := by
  unfold scanNumber
  split
  split
  · exact Tame.ok _
  · exact Yields.malformed _

theorem tame_scanVersion (c : Cursor) : Tame c.scanVersion := by
  unfold scanVersion
  refine (tame_scanNumber _).bind fun ⟨major, c⟩ => ?_
  dsimp only
  split
  · exact Yields.malformed _
  · refine (tame_scanNumber _).bind fun ⟨_, c⟩ => ?_
    dsimp only
    split
    · exact Tame.ok _
    · exact Yields.malformed _

theorem tame_scanTagHandle (fuel : Nat) (c : Cursor) : Tame (c.scanTagHandle fuel) := by
  unfold scanTagHandle
  refine (tame_scanHandle _).bind fun ⟨handle, c⟩ => ?_
  dsimp only
  split
  · exact Yields.malformed _
  · refine (tame_scanUri _ _).bind fun ⟨beginning, c⟩ => ?_
    dsimp only
    split
    · exact Tame.ok _
    · exact Yields.malformed _

theorem tame_scanLineEnd (c : Cursor) : Tame c.scanLineEnd := by
  unfold scanLineEnd
  extract_lets c
  split
  · exact Tame.ok _
  · split
    · exact Tame.ok _
    · exact Yields.malformed _

theorem tame_scanDirective (fuel : Nat) (c : Cursor) : Tame (c.scanDirective fuel) := by
  unfold scanDirective
  split
  split
  · exact Yields.malformed _
  · extract_lets close
    have hclose : ∀ x, Tame (close x) := by
      intro ⟨directive, c⟩
      dsimp only [close]
      exact (tame_scanLineEnd _).bind fun _ => Tame.ok _
    split
    · exact (tame_scanVersion _).bind hclose
    · split
      · exact (tame_scanTagHandle _ _).bind hclose
      · exact (Tame.ok _).bind hclose

theorem tame_codePoint (digits : List Nat) : Tame (codePoint digits) := by
  unfold codePoint
  split
  · exact Yields.malformed _
  · split
    · exact Tame.ok _
    · split
      · exact Yields.misfit .malformedScalar
      · exact Yields.misfit .scalarOverflow

theorem tame_scanQuotedBreaks (fuel : Nat) (breaks : List Nat) (c : Cursor) :
    Tame (scanQuotedBreaks fuel breaks c) := by
  induction fuel generalizing breaks c with
  | zero => exact Tame.ok _
  | succ fuel ih =>
    unfold scanQuotedBreaks
    split
    · exact Yields.malformed _
    · extract_lets c
      split
      · exact ih _ _
      · exact Tame.ok _

theorem tame_scanEscape (fuel : Nat) (points : List Nat) (c : Cursor) :
    Tame (c.scanEscape fuel points) := by
  unfold scanEscape
  split
  · exact Tame.ok _
  · split
    · extract_lets digits
      split
      · split
        next => exact Tame.ok _
        next e he => exact (tame_codePoint _).of_error he
      · exact Yields.malformed _
    · split
      · split
        next => exact Tame.ok _
        next e he => exact (tame_scanQuotedBreaks _ _ _).of_error he
      · exact Yields.malformed _

theorem tame_scanQuoted_go (double : Bool) (fuel : Nat) (points : List Nat) (c : Cursor) :
    Tame (scanQuoted.go double fuel points c) := by
  induction fuel generalizing points c with
  | zero => exact Yields.malformed _
  | succ fuel ih =>
    unfold scanQuoted.go
    extract_lets quote p
    split
    · split
      · exact ih _ _
      · exact Tame.ok _
    · split
      · split
        next => exact ih _ _
        next e he => exact (tame_scanEscape _ _ _).of_error he
      · split
        · split
          split
          · split
            next => exact ih _ _
            next e he => exact (tame_scanQuotedBreaks _ _ _).of_error he
          · split
            · exact Yields.malformed _
            · exact ih _ _
        · exact ih _ _

theorem tame_scanHeader (c : Cursor) : Tame c.scanHeader := by
  unfold scanHeader
  split
  split
  · exact Yields.malformed _
  · split
    · exact Yields.malformed _
    · exact (tame_scanLineEnd _).bind fun _ => Tame.ok _

theorem tame_scanBlock (folded : Bool) (outer : Int) (fuel : Nat) (c : Cursor) :
    Tame (c.scanBlock folded outer fuel) := by
  unfold scanBlock
  refine (tame_scanHeader _).bind fun ⟨chomping, indentation?, c⟩ => ?_
  extract_lets least
  split
  split
  split
  · exact Tame.ok _
  · exact Tame.ok _

end Cursor

end Converge.Yaml

import Converge.Log.Template
import Converge.Proofs.Entries
import Converge.Proofs.Text.CodePoints

/-!
This module contains what a template comes to that is filled in. Main statement: the text is made of
code points if the template and all texts in the arguments are.
-/

namespace Converge

open List

namespace Binary64

variable {digits : Text}

theorem all_pointed (kept : Bool) (whole : Nat) (h : digits.All IsCodePoint) :
    (pointed kept whole digits).All IsCodePoint := by
  unfold pointed
  extract_lets fraction
  split
  · exact h
  · rw [Text.all_append_iff, Text.all_append_iff]
    exact ⟨⟨Text.all_take _ h, Text.all_ofString _⟩, Text.all_drop _ h⟩

theorem all_dropZeros (h : digits.All IsCodePoint) : (dropZeros digits).All IsCodePoint := by
  intro c hc
  have hmem : c ∈ digits.points.reverse := (dropWhile_sublist _).mem (mem_reverse.1 hc)
  exact h c (mem_reverse.1 hmem)

theorem all_decimals (count units : Nat) : (decimals count units).All IsCodePoint :=
  Numeral.all_padded _ _

theorem all_significant (count units : Nat) : (significant count units).1.All IsCodePoint := by
  unfold significant
  split
  · exact Text.all_repeated _ isCodePoint_zero
  · extract_lets point grid digits
    split <;> exact Numeral.all_ofNat _

theorem all_exponentText (exponent : Int) : (exponentText exponent).All IsCodePoint := by
  unfold exponentText
  rw [Text.all_append_iff]
  refine ⟨?_, Numeral.all_padded _ _⟩
  split <;> exact Text.all_ofString _

theorem all_generalText (kept : Bool) (count units : Nat) :
    (generalText kept count units).All IsCodePoint := by
  have hdigits := all_significant count units
  unfold generalText
  extract_lets rounded shown places decimal whole trimmed
  split
  · rw [Text.all_append_iff]
    refine ⟨all_pointed _ _ ?_, all_exponentText _⟩
    unfold shown
    split
    · exact hdigits
    · exact all_dropZeros hdigits
  · have hdecimal : decimal.All IsCodePoint := all_decimals _ _
    apply all_pointed
    unfold trimmed
    split
    · exact hdecimal
    · rw [Text.all_append_iff]
      exact ⟨Text.all_take _ hdecimal, all_dropZeros (Text.all_drop _ hdecimal)⟩

theorem Form.all_text (kept : Bool) (precision : Nat) (form : Form) (x : Binary64) :
    (form.text kept precision x).All IsCodePoint := by
  cases x with
  | finite negative units =>
    cases form with
    | fixed => exact all_pointed _ _ (all_decimals _ _)
    | exponential =>
      change Text.All _ (_ ++ _)
      rw [Text.all_append_iff]
      exact ⟨all_pointed _ _ (all_significant _ _), all_exponentText _⟩
    | general => exact all_generalText _ _ _
  | infinite negative => exact Text.all_ofString _
  | nan => exact Text.all_ofString _

end Binary64

namespace Log.Template

variable {α β : Type} {P : α → Prop} {R : β → Prop} {room : Nat} {d : Directive} {p : Piece}
  {v : Value} {s : State} {c : Nat}

/--
That `P` holds of the value that there is, if there is one.
-/
def Gives (P : α → Prop) : Except Foreign α → Prop
  | .ok a => P a
  | .error _ => True

namespace Gives

variable {x : Except Foreign α}

theorem ok {a : α} (h : P a) : Gives P (.ok a) := h

theorem error (f : Foreign) : Gives P (.error f) := trivial

theorem of_ok {a : α} (h : Gives P x) (ha : x = .ok a) : P a := by
  rw [ha] at h
  exact h

theorem ite {p : Prop} [Decidable p] {y : Except Foreign α} (hx : Gives P x) (hy : Gives P y) :
    Gives P (if p then x else y) := by
  split
  · exact hx
  · exact hy

theorem map {f : α → β} (h : Gives P x) (hf : ∀ a, P a → R (f a)) : Gives R (x.map f) := by
  cases x with
  | error e => trivial
  | ok a => exact hf a h

theorem bind {f : α → Except Foreign β} (h : Gives P x) (hf : ∀ a, P a → Gives R (f a)) :
    Gives R (x >>= f) := by
  cases x with
  | error e => trivial
  | ok a => exact hf a h

theorem trivial (x : Except Foreign α) : Gives (fun _ => True) x := by
  cases x <;> exact True.intro

end Gives

/--
That all that a directive makes of its argument is made of code points.
-/
structure Piece.IsUnicode (p : Piece) : Prop where
  sign : p.sign.All IsCodePoint
  mark : p.mark.All IsCodePoint
  body : p.body.All IsCodePoint

namespace Directive

theorem all_signText (d : Directive) (negative : Bool) : (d.signText negative).All IsCodePoint := by
  unfold signText
  repeat' split
  all_goals simp

theorem isUnicode_cut (d : Directive) {t : Text} (h : t.All IsCodePoint) : (d.cut t).IsUnicode := by
  unfold cut
  split
  · exact ⟨Text.all_empty, Text.all_empty, Text.all_take _ h⟩
  · exact ⟨Text.all_empty, Text.all_empty, h⟩

theorem gives_integer (d : Directive) (n : Int) {mark digits : Text} (hmark : mark.All IsCodePoint)
    (hdigits : digits.All IsCodePoint) : Gives Piece.IsUnicode (d.integer n mark digits) := by
  unfold integer
  extract_lets precision
  split
  · exact .error _
  · refine .ok ⟨d.all_signText _, ?_, ?_⟩
    · dsimp only
      split
      · exact hmark
      · exact Text.all_empty
    · rw [Text.all_append_iff]
      exact ⟨Text.all_repeated _ isCodePoint_zero, hdigits⟩

theorem gives_checked (room : Nat) (v : Value) {t : Text} (h : t.All IsCodePoint) :
    Gives (Text.All IsCodePoint) (checked false room v t) := by
  unfold checked
  split
  · exact .error _
  · exact .ok h

theorem gives_character (h : v.IsUnicode) : Gives (Text.All IsCodePoint) (character v) := by
  unfold character
  split
  · cases h with
    | text h => exact .ite (.ok h) (.error _)
  · split
    · exact .error _
    next n _ =>
      split
      next hn =>
        have hpoint : IsCodePoint n.toNat := by
          unfold IsCodePoint
          simp at hn
          omega
        exact .ok (forall_mem_singleton.2 hpoint)
      next => exact .error _

theorem gives_piece (room : Nat) (d : Directive) (h : v.IsUnicode) (conversion : Conversion) :
    Gives Piece.IsUnicode (d.piece room v conversion) := by
  have hindex := Gives.trivial (index v)
  cases conversion with
  | text => exact (gives_checked room v h.all_display).map fun _ => d.isUnicode_cut
  | literal => exact (gives_checked room v h.all_literal).map fun _ => d.isUnicode_cut
  | ascii =>
    exact (gives_checked room v (Text.all_escapeNonAscii h.all_literal)).map fun _ => d.isUnicode_cut
  | decimal =>
    apply (Gives.trivial (whole v)).bind
    intro n _
    apply (gives_checked room (.int n) (Numeral.all_ofNat _)).bind
    intro digits hdigits
    exact d.gives_integer n Text.all_empty hdigits
  | octal =>
    apply hindex.bind
    intro n _
    exact d.gives_integer n (Text.all_ofString _) (Numeral.all_inBase _ _)
  | hexadecimal upper =>
    apply hindex.bind
    intro n _
    have hdigits := Numeral.all_inBase 16 n.natAbs
    exact .ite (d.gives_integer n (Text.all_ofString _) (Text.all_upperAscii hdigits))
      (d.gives_integer n (Text.all_ofString _) hdigits)
  | float form upper =>
    apply (Gives.trivial (float v)).bind
    intro x _
    have hbody := form.all_text d.alternate (d.precision?.getD 6) x
    refine .ok ⟨d.all_signText _, Text.all_empty, ?_⟩
    dsimp only
    split
    · exact Text.all_upperAscii hbody
    · exact hbody
  | character => exact (gives_character h).map fun _ ht => ⟨Text.all_empty, Text.all_empty, ht⟩

theorem all_fill (d : Directive) (h : p.IsUnicode) : (d.fill p).All IsCodePoint := by
  have hblank : ∀ n, (Text.repeated n 32).All IsCodePoint :=
    fun n => Text.all_repeated n (by decide)
  have hzero : ∀ n, (Text.repeated n 48).All IsCodePoint :=
    fun n => Text.all_repeated n isCodePoint_zero
  unfold fill
  extract_lets beginning missing
  have hbeginning : beginning.All IsCodePoint := Text.all_append_iff.2 ⟨h.sign, h.mark⟩
  repeat' split
  all_goals
    rw [Text.all_append_iff, Text.all_append_iff]
  · exact ⟨⟨hbeginning, h.body⟩, hblank _⟩
  · exact ⟨⟨hbeginning, hzero _⟩, h.body⟩
  · exact ⟨⟨hblank _, hbeginning⟩, h.body⟩

theorem gives_convert (room : Nat) (d : Directive) (h : v.IsUnicode) (c : Nat) :
    Gives (Text.All IsCodePoint) (d.convert room v c) := by
  unfold convert
  split
  · exact (d.gives_piece room h _).map fun _ => d.all_fill
  · exact .error _

end Directive

namespace State

/--
That everything that is written or may still be written is made of code points.
-/
structure IsUnicode (s : State) : Prop where
  written : ∀ c ∈ s.written, IsCodePoint c
  arguments : ∀ v ∈ s.arguments, v.IsUnicode
  entries : ∀ e ∈ s.entries?.getD [], e.2.IsUnicode

theorem isUnicode_start {arguments : List Value} (h : ∀ v ∈ arguments, v.IsUnicode) :
    (start arguments).IsUnicode := by
  unfold start
  split
  · refine ⟨forall_mem_nil _, h, ?_⟩
    rw [forall_mem_singleton] at h
    cases h with
    | map _ hentries => exact hentries
  · exact ⟨forall_mem_nil _, h, forall_mem_nil _⟩

theorem IsUnicode.push (h : s.IsUnicode) (hc : IsCodePoint c) : (s.push c).IsUnicode :=
  { h with written := forall_mem_cons.2 ⟨hc, h.written⟩ }

theorem IsUnicode.within (h : s.IsUnicode) (d : Directive) : (s.within d).IsUnicode :=
  { h with }

theorem IsUnicode.gives_within (h : s.IsUnicode) (d : Directive) :
    Gives IsUnicode (.ok (s.within d)) :=
  .ok (h.within d)

theorem IsUnicode.gives_take (h : s.IsUnicode) :
    Gives (fun taken => taken.1.IsUnicode ∧ taken.2.IsUnicode) s.take := by
  have harguments := h.arguments
  unfold State.take
  split
  next v arguments heq =>
    rw [heq, forall_mem_cons] at harguments
    exact .ok ⟨harguments.1, { h with arguments := harguments.2 }⟩
  next => exact .error _

theorem IsUnicode.gives_takeSize (h : s.IsUnicode) (largest : Nat) :
    Gives (fun taken => taken.2.IsUnicode) (s.takeSize largest) := by
  apply h.gives_take.bind
  rintro ⟨v, rest⟩ ⟨-, hrest⟩
  dsimp only
  split
  · exact .ite (.ok hrest) (.error _)
  · exact .ok hrest
  · exact .error _

-- a part that is absent is left to the reader of the next one, so the last part comes first

theorem IsUnicode.gives_readConversion (h : s.IsUnicode) (room : Nat) (d : Directive) (c : Nat) :
    Gives IsUnicode (s.readConversion room d c) := by
  apply h.gives_take.bind
  rintro ⟨v, rest⟩ ⟨hv, hrest⟩
  apply (d.gives_convert room hv c).bind
  intro t ht
  have hwritten : ∀ c ∈ t.points.reverse ++ rest.written, IsCodePoint c :=
    forall_mem_append.2 ⟨fun c hc => ht c (mem_reverse.1 hc), hrest.written⟩
  exact .ok { hrest with written := hwritten }

theorem IsUnicode.gives_readSize (h : s.IsUnicode) (room : Nat) (d : Directive) (c : Nat) :
    Gives IsUnicode (s.readSize room d c) :=
  .ite (h.gives_within _) (h.gives_readConversion room d c)

theorem IsUnicode.gives_readPrecision (h : s.IsUnicode) (room : Nat) (d : Directive) (c : Nat) :
    Gives IsUnicode (s.readPrecision room d c) := by
  refine .ite ?_ (.ite (h.gives_within _) (h.gives_readSize room _ c))
  apply (h.gives_takeSize largestPrecision).bind
  exact fun taken htaken => htaken.gives_within _

theorem IsUnicode.gives_readPrecisionDigit (h : s.IsUnicode) (room : Nat) (d : Directive) (c : Nat) :
    Gives IsUnicode (s.readPrecisionDigit room d c) :=
  .ite (.ite (.error _) (h.gives_within _)) (h.gives_readSize room d c)

theorem IsUnicode.gives_readPoint (h : s.IsUnicode) (room : Nat) (d : Directive) (c : Nat) :
    Gives IsUnicode (s.readPoint room d c) :=
  .ite (h.gives_within _) (h.gives_readSize room d c)

theorem IsUnicode.gives_readWidth (h : s.IsUnicode) (room : Nat) (d : Directive) (c : Nat) :
    Gives IsUnicode (s.readWidth room d c) := by
  refine .ite ?_ (.ite (h.gives_within _) (h.gives_readPoint room d c))
  apply (h.gives_takeSize largestWidth).bind
  exact fun taken htaken => htaken.gives_within _

theorem IsUnicode.gives_readWidthDigit (h : s.IsUnicode) (room : Nat) (d : Directive) (c : Nat) :
    Gives IsUnicode (s.readWidthDigit room d c) :=
  .ite (.ite (.error _) (h.gives_within _)) (h.gives_readPoint room d c)

theorem IsUnicode.gives_readFlag (h : s.IsUnicode) (room : Nat) (d : Directive) (c : Nat) :
    Gives IsUnicode (s.readFlag room d c) := by
  unfold readFlag
  extract_lets d
  repeat' apply Gives.ite (h.gives_within _)
  exact h.gives_readWidth room d c

theorem IsUnicode.gives_lookUp (h : s.IsUnicode) (d : Directive) (name : Text) :
    Gives IsUnicode (s.lookUp d name) := by
  unfold lookUp
  split
  next v hfind =>
    have hv : v.IsUnicode := h.entries _ (Value.mem_of_find? hfind)
    exact .ok { h with arguments := forall_mem_singleton.2 hv }
  next => exact .error _

theorem IsUnicode.gives_readKey (h : s.IsUnicode) (d : Directive) (depth : Nat) (name : List Nat)
    (c : Nat) : Gives IsUnicode (s.readKey d depth name c) := by
  refine .ite ?_ (.ite (h.gives_within _) (h.gives_within _))
  cases depth with
  | zero => exact h.gives_lookUp d _
  | succ depth => exact h.gives_within _

theorem IsUnicode.gives_readStart (h : s.IsUnicode) (room : Nat) (d : Directive)
    (hc : IsCodePoint c) : Gives IsUnicode (s.readStart room d c) :=
  .ite (.ok { h.push hc with })
    (.ite (.ite (h.gives_within _) (.error _)) (h.gives_readFlag room d c))

theorem IsUnicode.gives_read (h : s.IsUnicode) (room : Nat) (d : Directive) (hc : IsCodePoint c) :
    Gives IsUnicode (s.read room d c) := by
  unfold State.read
  split
  · exact h.gives_readStart room d hc
  · exact h.gives_readKey d _ _ c
  · exact h.gives_readFlag room d c
  · exact h.gives_readWidthDigit room d c
  · exact h.gives_readPoint room d c
  · exact h.gives_readPrecision room d c
  · exact h.gives_readPrecisionDigit room d c
  · exact h.gives_readSize room d c
  · exact h.gives_readConversion room d c

theorem IsUnicode.gives_step (h : s.IsUnicode) (room : Nat) (hc : IsCodePoint c) :
    Gives IsUnicode (step room s c) := by
  unfold step
  split
  · exact h.gives_read room _ hc
  · split
    · exact h.gives_within _
    · exact .ok (h.push hc)

theorem IsUnicode.gives_foldlM (h : s.IsUnicode) (room : Nat) {points : List Nat}
    (hpoints : ∀ c ∈ points, IsCodePoint c) :
    Gives IsUnicode (points.foldlM (step room) s) := by
  induction points generalizing s with
  | nil => exact .ok h
  | cons c rest ih =>
    rw [forall_mem_cons] at hpoints
    rw [foldlM_cons]
    apply (h.gives_step room hpoints.1).bind
    exact fun s hs => ih hs hpoints.2

theorem IsUnicode.gives_finish (h : s.IsUnicode) : Gives (Text.All IsCodePoint) s.finish :=
  .ite (.error _) (.ite (.error _) (.ok fun c hc => h.written c (mem_reverse.1 hc)))

end State

/--
What is filled in is made of code points.
-/
theorem all_fillIn {template t : Text} {arguments : List Value}
    (htemplate : template.All IsCodePoint) (harguments : ∀ v ∈ arguments, v.IsUnicode)
    (h : fillIn room template arguments = .ok t) : t.All IsCodePoint := by
  have hstart := State.isUnicode_start harguments
  have hgives : Gives (Text.All IsCodePoint) (fillIn room template arguments) :=
    (hstart.gives_foldlM room htemplate).bind fun _ hs => hs.gives_finish
  exact hgives.of_ok h

end Log.Template

end Converge

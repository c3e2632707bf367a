import Converge.Fault

/-!
This module contains `Cursor`, a place in a YAML document, and the classes of code points that the
syntax of YAML rests on.
-/

namespace Converge.Yaml

inductive Trouble
  | malformed (reason : Text)
  | foreign (f : Foreign)
deriving DecidableEq, Repr

abbrev Outcome (α : Type) := Except Trouble α

def malformed {α : Type} (reason : Text) : Outcome α :=
  .error (.malformed reason)

def ending : Nat := 0

def isBreak (c : Nat) : Bool :=
  c = 10 || c = 13 || c = 0x85 || c = 0x2028 || c = 0x2029

def isBreakOrEnd (c : Nat) : Bool :=
  c = ending || isBreak c

def isSpaceOrEnd (c : Nat) : Bool :=
  c = 32 || isBreakOrEnd c

def isBlankOrEnd (c : Nat) : Bool :=
  c = 9 || isSpaceOrEnd c

def isFlowIndicator (c : Nat) : Bool :=
  c = 44 || c = 91 || c = 93 || c = 123 || c = 125

def isNamePoint (c : Nat) : Bool :=
  (48 ≤ c && c ≤ 57) || (65 ≤ c && c ≤ 90) || (97 ≤ c && c ≤ 122) || c = 45 || c = 95

def isDocumentPoint (c : Nat) : Bool :=
  c = 9 || c = 10 || c = 13 || (0x20 ≤ c && c ≤ 0x7E) || c = 0x85 || (0xA0 ≤ c && c ≤ 0xD7FF) ||
    (0xE000 ≤ c && c ≤ 0xFFFD) || (0x10000 ≤ c && c ≤ 0x10FFFF)

def byteOrderMark : Nat := 0xFEFF

structure Cursor where
  rest : List Nat
  index : Nat := 0
  line : Nat := 0
  column : Nat := 0
deriving Inhabited, Repr

namespace Cursor

def peek (c : Cursor) : Nat :=
  c.rest.headD ending

def peekAt (c : Cursor) (n : Nat) : Nat :=
  c.rest.getD n ending

def next (c : Cursor) : Cursor :=
  match c.rest with
  | [] => c
  | p :: rest =>
    if isBreak p && !(p = 13 && rest.headD ending = 10) then
      { rest, index := c.index + 1, line := c.line + 1, column := 0 }
    else
      { rest, index := c.index + 1, line := c.line,
        column := if p = byteOrderMark then c.column else c.column + 1 }

def drop (c : Cursor) : Nat → Cursor
  | 0 => c
  | n + 1 => c.next.drop n

def span (p : Nat → Bool) (c : Cursor) : Text × Cursor :=
  go [] c.rest c
where
  go (taken : List Nat) : List Nat → Cursor → Text × Cursor
    | [], c => (⟨taken.reverse⟩, c)
    | x :: rest, c => if p x then go (x :: taken) rest c.next else (⟨taken.reverse⟩, c)

def skip (p : Nat → Bool) (c : Cursor) : Cursor :=
  (c.span p).2

def skipSpaces (c : Cursor) : Cursor :=
  c.skip (· = 32)

def skipComment (c : Cursor) : Cursor :=
  if c.peek = 35 then c.skip (!isBreak ·) else c

def lineBreak? (c : Cursor) : Option (Nat × Cursor) :=
  let p := c.peek
  if p = 13 && c.peekAt 1 = 10 then some (10, c.drop 2)
  else if p = 10 || p = 13 || p = 0x85 then some (10, c.next)
  else if p = 0x2028 || p = 0x2029 then some (p, c.next)
  else none

def startsWith (c : Cursor) (t : Text) : Bool :=
  t.points.isPrefixOf c.rest

def isDocumentMark (c : Cursor) : Bool :=
  (c.startsWith "---" || c.startsWith "...") && isBlankOrEnd (c.peekAt 3)

end Cursor

end Converge.Yaml

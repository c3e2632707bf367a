import Converge.Yaml.Token.Name

/-!
This module contains the scanning of scalars: plain ones, quoted ones and the literal and folded
blocks. A text under construction is a reversed list of code points.
-/

namespace Converge.Yaml

namespace Cursor

def pushText (t : Text) (points : List Nat) : List Nat :=
  t.points.reverse ++ points

def foldBreaks (first : Nat) (more : List Nat) : List Nat :=
  if first ≠ 10 then more ++ [first]
  -- the first line break is folded into a space unless others follow it
  else if more.isEmpty then [32]
  else more

def scanPlainBreaks : Nat → List Nat → Cursor → Option (List Nat × Cursor)
  | 0, breaks, c => some (breaks, c)
  | fuel + 1, breaks, c =>
    if c.peek = 32 then scanPlainBreaks fuel breaks c.next
    else
      match c.lineBreak? with
      | some (b, c) => if c.isDocumentMark then none else scanPlainBreaks fuel (b :: breaks) c
      | none => some (breaks, c)

/--
What separates two parts of a plain scalar: reversed code points, and whether a line ended. Nothing
separates them where a document mark follows.
-/
def scanPlainGap (fuel : Nat) (c : Cursor) : List Nat × Bool × Cursor :=
  let (spaces, c) := c.span (· = 32)
  match c.lineBreak? with
  | none => (spaces.points, false, c)
  | some (first, c) =>
    if c.isDocumentMark then ([], true, c)
    else
      match scanPlainBreaks fuel [] c with
      | some (breaks, c) => (foldBreaks first breaks, true, c)
      | none => ([], true, c)

def endsPlain (inFlow : Bool) (p q : Nat) : Bool :=
  isBlankOrEnd p || (p = 58 && (isBlankOrEnd q || (inFlow && isFlowIndicator q))) ||
    (inFlow && (isFlowIndicator p || p = 63))

def spanPlain (inFlow : Bool) (points : List Nat) : List Nat → Cursor → List Nat × Cursor
  | [], c => (points, c)
  | p :: rest, c =>
    if endsPlain inFlow p (rest.headD ending) then (points, c)
    else spanPlain inFlow (p :: points) rest c.next

/--
A plain scalar whose later lines are indented by `indent` at least, and whether it spans lines.
-/
def scanPlain (inFlow : Bool) (indent : Int) (fuel : Nat) (c : Cursor) : Text × Bool × Cursor :=
  go fuel [] [] false c
where
  go : Nat → List Nat → List Nat → Bool → Cursor → Text × Bool × Cursor
    | 0, points, _, brk, c => (⟨points.reverse⟩, brk, c)
    | fuel + 1, points, gap, brk, c =>
      if c.peek = 35 then (⟨points.reverse⟩, brk, c)
      else
        let (chunk, after) := spanPlain inFlow [] c.rest c
        if chunk.isEmpty then (⟨points.reverse⟩, brk, c)
        else
          let points := chunk ++ gap ++ points
          let (gap, brk, c) := scanPlainGap fuel after
          if gap.isEmpty || c.peek = 35 || (!inFlow && (c.column : Int) < indent) then
            (⟨points.reverse⟩, brk, c)
          else
            go fuel points gap brk c

def simpleEscape? (c : Nat) : Option Nat :=
  match c with
  | 48 => some 0
  | 97 => some 7
  | 98 => some 8
  | 116 => some 9
  | 9 => some 9
  | 110 => some 10
  | 118 => some 11
  | 102 => some 12
  | 114 => some 13
  | 101 => some 27
  | 32 => some 32
  | 34 => some 34
  | 92 => some 92
  | 47 => some 47
  | 78 => some 0x85
  | 95 => some 0xA0
  | 76 => some 0x2028
  | 80 => some 0x2029
  | _ => none

def codeLength? (c : Nat) : Option Nat :=
  match c with
  | 120 => some 2
  | 117 => some 4
  | 85 => some 8
  | _ => none

def codePoint (digits : List Nat) : Outcome Nat :=
  match Numeral.magnitude? 16 digits with
  | none => malformed "an escape needs more hexadecimal digits"
  | some n =>
    if n ≤ 0x10FFFF then .ok n
    else if n < 0x80000000 then .error (.foreign .malformedScalar)
    else .error (.foreign .scalarOverflow)

def scanQuotedBreaks : Nat → List Nat → Cursor → Outcome (List Nat × Cursor)
  | 0, breaks, c => .ok (breaks, c)
  | fuel + 1, breaks, c =>
    if c.isDocumentMark then malformed "a document ends inside a quoted scalar"
    else
      let c := c.skip fun p => p = 32 || p = 9
      match c.lineBreak? with
      | some (b, c) => scanQuotedBreaks fuel (b :: breaks) c
      | none => .ok (breaks, c)

def scanEscape (fuel : Nat) (points : List Nat) (c : Cursor) : Outcome (List Nat × Cursor) :=
  match simpleEscape? c.peek with
  | some p => .ok (p :: points, c.next)
  | none =>
    match codeLength? c.peek with
    | some n =>
      let digits := c.next.rest.take n
      if digits.length = n && digits.all Numeral.isHexDigit then
        match codePoint digits with
        | .ok p => .ok (p :: points, c.next.drop n)
        | .error e => .error e
      else
        malformed "an escape needs more hexadecimal digits"
    | none =>
      match c.lineBreak? with
      | some (_, c) =>
        match scanQuotedBreaks fuel [] c with
        | .ok (breaks, c) => .ok (breaks ++ points, c)
        | .error e => .error e
      | none => malformed "there is no such escape"

def scanQuoted (double : Bool) (fuel : Nat) (c : Cursor) : Outcome (Text × Cursor) :=
  go fuel [] c
where
  go : Nat → List Nat → Cursor → Outcome (Text × Cursor)
    | 0, _, _ => malformed "a quoted scalar does not end"
    | fuel + 1, points, c =>
      let quote := if double then 34 else 39
      let p := c.peek
      if p = quote then
        if !double && c.peekAt 1 = 39 then go fuel (39 :: points) (c.drop 2)
        else .ok (⟨points.reverse⟩, c.next)
      else if double && p = 92 then
        match scanEscape fuel points c.next with
        | .ok (points, c) => go fuel points c
        | .error e => .error e
      else if isBlankOrEnd p then
        let (blanks, c) := c.span fun p => p = 32 || p = 9
        match c.lineBreak? with
        | some (first, c) =>
          match scanQuotedBreaks fuel [] c with
          | .ok (breaks, c) => go fuel (foldBreaks first breaks ++ points) c
          | .error e => .error e
        | none =>
          if c.peek = ending then malformed "a quoted scalar does not end"
          else go fuel (pushText blanks points) c
      else
        go fuel (p :: points) c.next

inductive Chomping
  | strip
  | clip
  | keep
deriving DecidableEq, Repr

def chomping? (c : Nat) : Option Chomping :=
  if c = 43 then some .keep else if c = 45 then some .strip else none

def indentation? (c : Nat) : Option Nat :=
  if Numeral.isDigit c then some (c - 48) else none

def scanHeader (c : Cursor) : Outcome (Chomping × Option Nat × Cursor) := do
  let (chomping?, indentation?, c) : Option Chomping × Option Nat × Cursor :=
    match chomping? c.peek with
    | some chomping =>
      match indentation? (c.peekAt 1) with
      | some n => (some chomping, some n, c.drop 2)
      | none => (some chomping, none, c.next)
    | none =>
      match indentation? c.peek with
      | some n =>
        match chomping? (c.peekAt 1) with
        | some chomping => (some chomping, some n, c.drop 2)
        | none => (none, some n, c.next)
      | none => (none, none, c)
  if indentation? = some 0 then malformed "a block scalar is indented by one at least"
  else if !isSpaceOrEnd c.peek then malformed "a block scalar starts on a line of its own"
  else
    let c ← scanLineEnd c
    .ok (chomping?.getD .clip, indentation?, c)

def scanLeadingBreaks : Nat → List Nat → Nat → Cursor → List Nat × Nat × Cursor
  | 0, breaks, deepest, c => (breaks, deepest, c)
  | fuel + 1, breaks, deepest, c =>
    if c.peek = 32 then
      let c := c.next
      scanLeadingBreaks fuel breaks (max deepest c.column) c
    else
      match c.lineBreak? with
      | some (b, c) => scanLeadingBreaks fuel (b :: breaks) deepest c
      | none => (breaks, deepest, c)

def skipIndent (indent : Nat) : List Nat → Cursor → Cursor
  | 32 :: rest, c => if c.column < indent then skipIndent indent rest c.next else c
  | _, c => c

def scanBlockBreaks (indent : Nat) : Nat → List Nat → Cursor → List Nat × Cursor
  | 0, breaks, c => (breaks, c)
  | fuel + 1, breaks, c =>
    let c := skipIndent indent c.rest c
    match c.lineBreak? with
    | some (b, c) => scanBlockBreaks indent fuel (b :: breaks) c
    | none => (breaks, c)

def isMoreIndented (p : Nat) : Bool :=
  p = 32 || p = 9

/--
The lines of a block scalar. `breaks` are the empty lines before the next one, reversed.
-/
def scanLines (folded : Bool) (chomping : Chomping) (indent : Nat) :
    Nat → List Nat → List Nat → Cursor → Text × Cursor
  | 0, points, _, c => (⟨points.reverse⟩, c)
  | fuel + 1, points, breaks, c =>
    let points := breaks ++ points
    let deep := isMoreIndented c.peek
    let (line, c) := c.span (!isBreak ·)
    let points := pushText line points
    let (last, c) : List Nat × Cursor :=
      match c.lineBreak? with
      | some (b, c) => ([b], c)
      | none => ([], c)
    let (breaks, c) := scanBlockBreaks indent fuel [] c
    if c.column = indent && c.peek ≠ ending then
      if folded && last = [10] && !deep && !isMoreIndented c.peek then
        scanLines folded chomping indent fuel (if breaks.isEmpty then 32 :: points else points)
          breaks c
      else
        scanLines folded chomping indent fuel (last ++ points) breaks c
    else
      match chomping with
      | .strip => (⟨points.reverse⟩, c)
      | .clip => (⟨(last ++ points).reverse⟩, c)
      | .keep => (⟨(breaks ++ (last ++ points)).reverse⟩, c)

def scanBlock (folded : Bool) (outer : Int) (fuel : Nat) (c : Cursor) : Outcome (Text × Cursor) := do
  let (chomping, indentation?, c) ← scanHeader c.next
  let least := (max (outer + 1) 1).toNat
  let (indent, breaks, c) : Nat × List Nat × Cursor :=
    match indentation? with
    | some n =>
      let indent := least + n - 1
      let (breaks, c) := scanBlockBreaks indent fuel [] c
      (indent, breaks, c)
    | none =>
      let (breaks, deepest, c) := scanLeadingBreaks fuel [] 0 c
      (max least deepest, breaks, c)
  if c.column = indent && c.peek ≠ ending then
    .ok (scanLines folded chomping indent fuel [] breaks c)
  else
    .ok (if chomping = .keep then ⟨breaks.reverse⟩ else .empty, c)

end Cursor

end Converge.Yaml

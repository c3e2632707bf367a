import Converge.Yaml.Token.Scalar

/-!
This module contains the division of a YAML document into tokens. Indentation is turned into start
and end tokens of block collections. Whether a node is a key shows only at the colon behind it, so
the place of every node that might be one is kept until then.
-/

namespace Converge.Yaml

/--
A node that is a key if a colon follows it on its line. `position` is the number of tokens before
it. It is `required` to be a key where the indentation leaves nothing else.
-/
structure PossibleKey where
  position : Nat
  required : Bool
  index : Nat
  line : Nat
  column : Nat
deriving Repr

/--
The state between two tokens. `tokens` are those found so far, reversed; `keys` has the possible key
of each open flow level.
-/
structure Lexer where
  cursor : Cursor
  tokens : List Token := []
  count : Nat := 0
  flowLevel : Nat := 0
  indent : Int := -1
  indents : List Int := []
  allowKey : Bool := true
  keys : List (Nat × PossibleKey) := []
deriving Repr

namespace Lexer

def emit (t : Token) (s : Lexer) : Lexer :=
  { s with tokens := t :: s.tokens, count := s.count + 1 }

def insert (position : Nat) (news : List Token) (s : Lexer) : Lexer :=
  let later := s.count - position
  { s with
    tokens := s.tokens.take later ++ news.reverse ++ s.tokens.drop later
    count := s.count + news.length }

def withCursor (c : Cursor) (s : Lexer) : Lexer :=
  { s with cursor := c }

def skipPoint (s : Lexer) : Lexer :=
  s.withCursor s.cursor.next

def isBlock (s : Lexer) : Bool :=
  s.flowLevel = 0

def unwind (column : Int) (s : Lexer) : Lexer :=
  if s.isBlock then go s.indents s else s
where
  go : List Int → Lexer → Lexer
    | [], s => s
    | outer :: rest, s =>
      if column < s.indent then
        go rest { s.emit .blockEnd with indent := outer, indents := rest }
      else
        s

def indentTo? (column : Int) (s : Lexer) : Option Lexer :=
  if s.indent < column then some { s with indent := column, indents := s.indent :: s.indents }
  else none

def keyMissing {α : Type} : Outcome α :=
  malformed "a key lacks its colon"

def dropKey (level : Nat) (s : Lexer) : Lexer :=
  { s with keys := s.keys.filter fun (l, _) => l ≠ level }

def discardKey (s : Lexer) : Outcome Lexer :=
  match s.keys.lookup s.flowLevel with
  | some key => if key.required then keyMissing else .ok (s.dropKey s.flowLevel)
  | none => .ok s

def keyReach : Nat := 1024

def discardStale (s : Lexer) : Outcome Lexer :=
  let stale := fun (key : PossibleKey) =>
    key.line ≠ s.cursor.line || keyReach < s.cursor.index - key.index
  if s.keys.any fun (_, key) => stale key && key.required then keyMissing
  else .ok { s with keys := s.keys.filter fun (_, key) => !stale key }

def saveKey (s : Lexer) : Outcome Lexer :=
  if s.allowKey then do
    let s ← s.discardKey
    let key := {
      position := s.count
      required := s.isBlock && s.indent = s.cursor.column
      index := s.cursor.index
      line := s.cursor.line
      column := s.cursor.column
    }
    .ok { s with keys := (s.flowLevel, key) :: s.keys }
  else
    .ok s

def skipToToken : Nat → Lexer → Lexer
  | 0, s => s
  | fuel + 1, s =>
    let c := s.cursor.skipSpaces.skipComment
    match c.lineBreak? with
    | some (_, c) =>
      skipToToken fuel { s with cursor := c, allowKey := s.allowKey || s.isBlock }
    | none => s.withCursor c

def startDocumentPart (s : Lexer) : Outcome Lexer := do
  let s ← (s.unwind (-1)).discardKey
  .ok { s with allowKey := false }

def openFlow (t : Token) (s : Lexer) : Outcome Lexer := do
  let s ← s.saveKey
  .ok { s.skipPoint.emit t with flowLevel := s.flowLevel + 1, allowKey := true }

def closeFlow (t : Token) (s : Lexer) : Outcome Lexer := do
  let s ← s.discardKey
  .ok { s.skipPoint.emit t with flowLevel := s.flowLevel - 1, allowKey := false }

def flowEntry (s : Lexer) : Outcome Lexer := do
  let s ← s.discardKey
  .ok { s.skipPoint.emit .flowEntry with allowKey := true }

def openBlock (start : Token) (s : Lexer) : Outcome Lexer :=
  -- the first indicator of a block opens the collection
  if !s.isBlock then .ok s
  else if !s.allowKey then malformed "a block collection does not start inside a line"
  else
    match s.indentTo? s.cursor.column with
    | some s => .ok (s.emit start)
    | none => .ok s

def blockEntry (s : Lexer) : Outcome Lexer := do
  let s ← s.openBlock .blockSequenceStart
  let s ← s.discardKey
  .ok { s.skipPoint.emit .blockEntry with allowKey := true }

def explicitKey (s : Lexer) : Outcome Lexer := do
  let s ← s.openBlock .blockMappingStart
  let s ← s.discardKey
  .ok { s.skipPoint.emit .key with allowKey := s.isBlock }

def mappingValue (s : Lexer) : Outcome Lexer :=
  match s.keys.lookup s.flowLevel with
  -- a possible key before the colon is a key now
  | some key =>
    let s := s.dropKey s.flowLevel
    let s :=
      match if s.isBlock then s.indentTo? key.column else none with
      | some s => s.insert key.position [.blockMappingStart, .key]
      | none => s.insert key.position [.key]
    .ok { s.skipPoint.emit .value with allowKey := false }
  | none => do
    let s ← s.openBlock .blockMappingStart
    .ok { s.skipPoint.emit .value with allowKey := s.isBlock }

def scanned {α : Type} (scan : Cursor → Outcome (α × Cursor)) (token : α → Token) (s : Lexer) :
    Outcome Lexer := do
  let s ← s.saveKey
  let (a, c) ← scan s.cursor
  .ok { (s.withCursor c).emit (token a) with allowKey := false }

def tag (fuel : Nat) (s : Lexer) : Outcome Lexer :=
  s.scanned (fun c => (c.scanTag fuel).map fun (h, t, c) => ((h, t), c)) fun (h, t) => .tag h t

def quoted (double : Bool) (fuel : Nat) (s : Lexer) : Outcome Lexer :=
  s.scanned (fun c => c.next.scanQuoted double fuel) fun t => .scalar t false

def plain (fuel : Nat) (s : Lexer) : Outcome Lexer := do
  let s ← s.saveKey
  let (t, lineEnded, c) := s.cursor.scanPlain (!s.isBlock) (s.indent + 1) fuel
  .ok { (s.withCursor c).emit (.scalar t true) with allowKey := lineEnded }

def block (folded : Bool) (fuel : Nat) (s : Lexer) : Outcome Lexer := do
  let s ← s.discardKey
  let (t, c) ← s.cursor.scanBlock folded s.indent fuel
  .ok { (s.withCursor c).emit (.scalar t false) with allowKey := true }

def directive (fuel : Nat) (s : Lexer) : Outcome Lexer := do
  let s ← s.startDocumentPart
  let (d, c) ← s.cursor.scanDirective fuel
  .ok ((s.withCursor c).emit (.directive d))

def documentMark (t : Token) (s : Lexer) : Outcome Lexer := do
  let s ← s.startDocumentPart
  .ok ((s.withCursor (s.cursor.drop 3)).emit t)

def startsPlain (s : Lexer) : Bool :=
  let p := s.cursor.peek
  let indicators :=
    [45, 63, 58, 44, 91, 93, 123, 125, 35, 38, 42, 33, 124, 62, 39, 34, 37, 64, 96]
  (!isBlankOrEnd p && !indicators.contains p) ||
    (!isBlankOrEnd (s.cursor.peekAt 1) && (p = 45 || (s.isBlock && (p = 63 || p = 58))))

def scanToken (fuel : Nat) (s : Lexer) : Outcome Lexer :=
  -- the end of the document has been ruled out
  let c := s.cursor
  let p := c.peek
  let separated := isBlankOrEnd (c.peekAt 1)
  if p = 37 && c.column = 0 then s.directive fuel
  else if c.column = 0 && c.isDocumentMark then
    s.documentMark (if p = 45 then .documentStart else .documentEnd)
  else if p = 91 then s.openFlow .flowSequenceStart
  else if p = 123 then s.openFlow .flowMappingStart
  else if p = 93 then s.closeFlow .flowSequenceEnd
  else if p = 125 then s.closeFlow .flowMappingEnd
  else if p = 44 then s.flowEntry
  else if p = 45 && separated then s.blockEntry
  else if p = 63 && (!s.isBlock || separated) then s.explicitKey
  else if p = 58 && (!s.isBlock || separated) then s.mappingValue
  else if p = 42 then s.scanned Cursor.scanAnchor .alias
  else if p = 38 then s.scanned Cursor.scanAnchor .anchor
  else if p = 33 then s.tag fuel
  else if p = 124 && s.isBlock then s.block false fuel
  else if p = 62 && s.isBlock then s.block true fuel
  else if p = 39 then s.quoted false fuel
  else if p = 34 then s.quoted true fuel
  else if s.startsPlain then s.plain fuel
  else malformed "no token starts with this character"

def finish (s : Lexer) : List Token :=
  match (s.unwind (-1)).discardKey with
  | .ok s => (s.emit .streamEnd).tokens.reverse
  | .error e => (s.emit (.failed e)).tokens.reverse

/--
The tokens of the rest of a document. Each step moves the cursor, so `fuel` never runs out where it
is the number of code points and one more.
-/
def run : Nat → Lexer → List Token
  | 0, s => s.finish
  | fuel + 1, s =>
    match (skipToToken (fuel + 1) s).discardStale with
    | .error e => (s.emit (.failed e)).tokens.reverse
    | .ok s =>
      let s := s.unwind s.cursor.column
      if s.cursor.peek = ending then s.finish
      else
        match s.scanToken (fuel + 1) with
        | .error e => (s.emit (.failed e)).tokens.reverse
        | .ok s => run fuel s

end Lexer

def Token.ofDocument (t : Text) : List Token :=
  if t.points.all isDocumentPoint then
    let cursor : Cursor := { rest := t.points }
    -- a byte order mark at the start is skipped
    let cursor := if cursor.peek = byteOrderMark then cursor.next else cursor
    Lexer.run (t.length + 1) { cursor }
  else
    [.failed (.malformed "a document holds a character that it must not")]

end Converge.Yaml

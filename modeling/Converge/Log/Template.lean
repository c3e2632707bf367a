import Converge.Binary64.Rounded
import Converge.Value.Limit

/-!
This module contains the templates of messages: texts in which directives stand for arguments. A
directive is a percent sign, a key in parentheses, flags, a width, a precision, a size without meaning
and the conversion that is asked for, of which all but the first and the last may be absent. That there
is the memory for every width is assumed.
-/

namespace Converge.Log.Template

/--
The part of a directive that is read next. It may be absent, and then a later one is.
-/
inductive Part
  | start
  | key (depth : Nat) (name : List Nat)
  | flags
  | widthDigits
  | point
  | precision
  | precisionDigits
  | size
  | conversion
deriving DecidableEq, Inhabited, Repr

structure Directive where
  part : Part := .start
  left : Bool := false
  plus : Bool := false
  blank : Bool := false
  alternate : Bool := false
  zero : Bool := false
  width : Nat := 0
  precision? : Option Nat := none
deriving DecidableEq, Inhabited, Repr

inductive Conversion
  | text
  | literal
  | ascii
  | decimal
  | octal
  | hexadecimal (upper : Bool)
  | float (form : Binary64.Form) (upper : Bool)
  | character
deriving DecidableEq, Inhabited, Repr

def Conversion.ofPoint? (c : Nat) : Option Conversion :=
  if c = 115 then some .text
  else if c = 114 then some .literal
  else if c = 97 then some .ascii
  else if c = 100 || c = 105 || c = 117 then some .decimal
  else if c = 111 then some .octal
  else if c = 120 then some (.hexadecimal false)
  else if c = 88 then some (.hexadecimal true)
  else if c = 101 then some (.float .exponential false)
  else if c = 69 then some (.float .exponential true)
  else if c = 102 then some (.float .fixed false)
  else if c = 70 then some (.float .fixed true)
  else if c = 103 then some (.float .general false)
  else if c = 71 then some (.float .general true)
  else if c = 99 then some .character
  else none

/--
What a directive makes of its argument, before it is filled up to its width.
-/
structure Piece where
  isNumber : Bool := false
  sign : Text := .empty
  mark : Text := .empty
  body : Text
deriving DecidableEq, Inhabited, Repr

def largestWidth : Nat := 9223372036854775807

def largestPrecision : Nat := 2147483647

def checked (empties : Bool) (room : Nat) (v : Value) (t : Text) : Except Foreign Text :=
  match v.refusal? empties room with
  | some f => .error f
  | none => .ok t

def whole : Value → Except Foreign Int
  | .int n => .ok n
  | .bool b => .ok (if b then 1 else 0)
  | .float (.finite negative units) =>
    let n := units / Binary64.one
    .ok (if negative then -(n : Int) else n)
  | .float (.infinite _) => .error .infiniteNumber
  | .float .nan => .error .noNumber
  | _ => .error .wrongArguments

def index : Value → Except Foreign Int
  | .int n => .ok n
  | .bool b => .ok (if b then 1 else 0)
  | _ => .error .wrongArguments

def float : Value → Except Foreign Binary64
  | .int n =>
    match Binary64.ofInt? n with
    | some x => .ok x
    | none => .error .floatOverflow
  | .bool b => .ok (.ofRatio false (if b then 1 else 0) 1)
  | .float x => .ok x
  | _ => .error .wrongArguments

def character : Value → Except Foreign Text
  | .text t => if t.length = 1 then .ok t else .error .wrongArguments
  | v =>
    match index v with
    | .error e => .error e
    | .ok n => if 0 ≤ n && n < 0x110000 then .ok ⟨[n.toNat]⟩ else .error .scalarOverflow

namespace Directive

def signText (d : Directive) (negative : Bool) : Text :=
  if negative then "-" else if d.plus then "+" else if d.blank then " " else .empty

def cut (d : Directive) (t : Text) : Piece :=
  match d.precision? with
  | some precision => { body := t.take precision }
  | none => { body := t }

def integer (d : Directive) (n : Int) (mark digits : Text) : Except Foreign Piece :=
  let precision := d.precision?.getD 0
  if largestPrecision < precision + 3 then .error .sizeOverflow
  else
    .ok {
      isNumber := true
      sign := d.signText (n < 0)
      mark := if d.alternate then mark else .empty
      body := .repeated (precision - digits.length) 48 ++ digits
    }

def piece (room : Nat) (d : Directive) (v : Value) : Conversion → Except Foreign Piece
  | .text => (checked false room v v.display).map d.cut
  | .literal => (checked false room v v.literal).map d.cut
  | .ascii => (checked false room v v.literal.escapeNonAscii).map d.cut
  | .decimal => do
    let n ← whole v
    d.integer n .empty (← checked false room (.int n) (Numeral.ofNat n.natAbs))
  | .octal => do
    let n ← index v
    d.integer n "0o" (Numeral.inBase 8 n.natAbs)
  | .hexadecimal upper => do
    let n ← index v
    let digits := Numeral.inBase 16 n.natAbs
    if upper then d.integer n "0X" digits.upperAscii else d.integer n "0x" digits
  | .float form upper => do
    let x ← float v
    let body := form.text d.alternate (d.precision?.getD 6) x
    .ok {
      isNumber := true
      sign := d.signText x.isNegative
      body := if upper then body.upperAscii else body
    }
  | .character => (character v).map fun t => { body := t }

def fill (d : Directive) (p : Piece) : Text :=
  let beginning := p.sign ++ p.mark
  let missing := d.width - (beginning.length + p.body.length)
  if d.left then beginning ++ p.body ++ .repeated missing 32
  else if d.zero && p.isNumber then beginning ++ .repeated missing 48 ++ p.body
  else .repeated missing 32 ++ beginning ++ p.body

def convert (room : Nat) (d : Directive) (v : Value) (c : Nat) : Except Foreign Text :=
  match Conversion.ofPoint? c with
  | some conversion => (d.piece room v conversion).map d.fill
  | none => .error .badTemplate

end Directive

/--
How far a template has been filled in: the points that are written, the last one first, and the
arguments that are left. Keys are looked up in `entries?`.
-/
structure State where
  written : List Nat := []
  arguments : List Value
  entries? : Option (List (Text × Value)) := none
  directive? : Option Directive := none
deriving Inhabited

namespace State

def start : List Value → State
  | [.map (e :: entries)] =>
    { arguments := [.map (e :: entries)], entries? := some (e :: entries) }
  | arguments => { arguments }

def push (c : Nat) (s : State) : State :=
  { s with written := c :: s.written }

def within (d : Directive) (s : State) : State :=
  { s with directive? := some d }

def take (s : State) : Except Foreign (Value × State) :=
  match s.arguments with
  | v :: arguments => .ok (v, { s with arguments })
  | [] => .error .wrongArguments

def takeSize (largest : Nat) (s : State) : Except Foreign (Int × State) := do
  let (v, s) ← s.take
  match v with
  | .int n => if n.natAbs ≤ largest then .ok (n, s) else .error .sizeOverflow
  | .bool b => .ok (if b then 1 else 0, s)
  | _ => .error .wrongArguments

def readConversion (room : Nat) (s : State) (d : Directive) (c : Nat) : Except Foreign State := do
  let (v, s) ← s.take
  let t ← d.convert room v c
  .ok { s with written := t.points.reverse ++ s.written, directive? := none }

def readSize (room : Nat) (s : State) (d : Directive) (c : Nat) : Except Foreign State :=
  if c = 104 || c = 108 || c = 76 then .ok (s.within { d with part := .conversion })
  else s.readConversion room d c

def readPrecision (room : Nat) (s : State) (d : Directive) (c : Nat) : Except Foreign State :=
  if c = 42 then do
    let (n, s) ← s.takeSize largestPrecision
    .ok (s.within { d with part := .size, precision? := some n.toNat })
  else if Numeral.isDigit c then
    .ok (s.within { d with part := .precisionDigits, precision? := some (c - 48) })
  else s.readSize room { d with precision? := some 0 } c

def readPrecisionDigit (room : Nat) (s : State) (d : Directive) (c : Nat) :
    Except Foreign State :=
  if Numeral.isDigit c then
    let precision := d.precision?.getD 0 * 10 + (c - 48)
    if largestPrecision < precision then .error .badTemplate
    else .ok (s.within { d with precision? := some precision })
  else s.readSize room d c

def readPoint (room : Nat) (s : State) (d : Directive) (c : Nat) : Except Foreign State :=
  if c = 46 then .ok (s.within { d with part := .precision })
  else s.readSize room d c

def readWidth (room : Nat) (s : State) (d : Directive) (c : Nat) : Except Foreign State :=
  if c = 42 then do
    let (n, s) ← s.takeSize largestWidth
    -- a negative width fills up on the right
    .ok (s.within { d with part := .point, left := d.left || n < 0, width := n.natAbs })
  else if Numeral.isDigit c then
    .ok (s.within { d with part := .widthDigits, width := c - 48 })
  else s.readPoint room d c

def readWidthDigit (room : Nat) (s : State) (d : Directive) (c : Nat) : Except Foreign State :=
  if Numeral.isDigit c then
    let width := d.width * 10 + (c - 48)
    if largestWidth < width then .error .badTemplate else .ok (s.within { d with width })
  else s.readPoint room d c

def readFlag (room : Nat) (s : State) (d : Directive) (c : Nat) : Except Foreign State :=
  let d := { d with part := .flags }
  if c = 45 then .ok (s.within { d with left := true })
  else if c = 43 then .ok (s.within { d with plus := true })
  else if c = 32 then .ok (s.within { d with blank := true })
  else if c = 35 then .ok (s.within { d with alternate := true })
  else if c = 48 then .ok (s.within { d with zero := true })
  else s.readWidth room d c

def lookUp (s : State) (d : Directive) (name : Text) : Except Foreign State :=
  match Value.find? name (s.entries?.getD []) with
  | some v => .ok ({ s with arguments := [v] }.within { d with part := .flags })
  | none => .error .missingKey

def readKey (s : State) (d : Directive) (depth : Nat) (name : List Nat) (c : Nat) :
    Except Foreign State :=
  -- parentheses inside a key belong to it as long as they match
  if c = 41 then
    match depth with
    | 0 => s.lookUp d ⟨name.reverse⟩
    | depth + 1 => .ok (s.within { d with part := .key depth (c :: name) })
  else if c = 40 then .ok (s.within { d with part := .key (depth + 1) (c :: name) })
  else .ok (s.within { d with part := .key depth (c :: name) })

def readStart (room : Nat) (s : State) (d : Directive) (c : Nat) : Except Foreign State :=
  if c = 37 then .ok { s.push c with directive? := none }
  else if c = 40 then
    if s.entries?.isSome then .ok (s.within { d with part := .key 0 [] })
    else .error .wrongArguments
  else s.readFlag room d c

def read (room : Nat) (s : State) (d : Directive) (c : Nat) : Except Foreign State :=
  match d.part with
  | .start => s.readStart room d c
  | .key depth name => s.readKey d depth name c
  | .flags => s.readFlag room d c
  | .widthDigits => s.readWidthDigit room d c
  | .point => s.readPoint room d c
  | .precision => s.readPrecision room d c
  | .precisionDigits => s.readPrecisionDigit room d c
  | .size => s.readSize room d c
  | .conversion => s.readConversion room d c

def step (room : Nat) (s : State) (c : Nat) : Except Foreign State :=
  match s.directive? with
  | some d => s.read room d c
  | none => .ok (if c = 37 then s.within {} else s.push c)

def finish (s : State) : Except Foreign Text :=
  if s.directive?.isSome then .error .badTemplate
  -- a map in which keys are looked up may be left over
  else if s.entries?.isNone && !s.arguments.isEmpty then .error .wrongArguments
  else .ok ⟨s.written.reverse⟩

end State

/--
The template with the arguments put in, in whose literals `room` lists and maps may be open at a time.
-/
def fillIn (room : Nat) (template : Text) (arguments : List Value) : Except Foreign Text := do
  let s ← template.points.foldlM (State.step room) (.start arguments)
  s.finish

end Converge.Log.Template

import Converge.Value.Limit

/-!
This module contains the writing of values as JSON. The text is ASCII: every other code point is
escaped, one above U+FFFF as its two surrogates. A value that is nested too deep, or an integer in it
that has too many digits, is refused.
-/

namespace Converge.Json

def escapeUnit (c : Nat) : Text :=
  "\\u" ++ Numeral.hex 4 c

def escapePoint (c : Nat) : Text :=
  if c = 34 then "\\\""
  else if c = 92 then "\\\\"
  else if c = 10 then "\\n"
  else if c = 13 then "\\r"
  else if c = 9 then "\\t"
  else if c = 8 then "\\b"
  else if c = 12 then "\\f"
  else if 32 ≤ c && c < 127 then ⟨[c]⟩
  else if c < 0x10000 then escapeUnit c
  else escapeUnit (0xD800 + (c - 0x10000) / 0x400) ++ escapeUnit (0xDC00 + (c - 0x10000) % 0x400)

def writeText (t : Text) : Text :=
  "\"" ++ Text.concat (t.points.map escapePoint) ++ "\""

def writeFloat : Binary64 → Text
  | .nan => "NaN"
  | .infinite negative => if negative then "-Infinity" else "Infinity"
  | x => x.toText

mutual

def write : Value → Text
  -- what JSON has no form for is written as the text that it displays as
  | .null => "null"
  | .bool b => if b then "true" else "false"
  | .int n => Numeral.ofInt n
  | .float x => writeFloat x
  | .text t => writeText t
  | .list items => "[" ++ Text.join ", " (writeItems items) ++ "]"
  | .map entries => "\x7b" ++ Text.join ", " (writeEntries entries) ++ "\x7d"
  | v => writeText v.display

def writeItems : List Value → List Text
  | [] => []
  | v :: rest => write v :: writeItems rest

def writeEntries : List (Text × Value) → List Text
  | [] => []
  | (k, v) :: rest => (writeText k ++ ": " ++ write v) :: writeEntries rest

end

def dump (room : Nat) (v : Value) : Except Foreign Text :=
  match v.refusal? true room with
  | some f => .error f
  | none => .ok (write v)

end Converge.Json

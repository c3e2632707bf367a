import Converge.Numeral

/-!
This module contains the quoting of a text inside a message. The quote is a single one unless the
text holds single quotes and no double ones; everything unprintable is escaped.
-/

namespace Converge.Text

def escapeCode (c : Nat) : Text :=
  if c < 0x100 then "\\x" ++ Numeral.hex 2 c
  else if c < 0x10000 then "\\u" ++ Numeral.hex 4 c
  else "\\U" ++ Numeral.hex 8 c

def escapePoint (printable : Nat → Bool) (quote c : Nat) : Text :=
  if c = quote || c = 92 then ⟨[92, c]⟩
  else if c = 10 then "\\n"
  else if c = 13 then "\\r"
  else if c = 9 then "\\t"
  else if printable c then ⟨[c]⟩
  else escapeCode c

def quotedWith (printable : Nat → Bool) (t : Text) : Text :=
  let quote := if t.points.contains 39 && !t.points.contains 34 then 34 else 39
  ⟨[quote]⟩ ++ concat (t.points.map (escapePoint printable quote)) ++ ⟨[quote]⟩

def quoted (t : Text) : Text :=
  t.quotedWith CharClass.isPrintable

def escapeNonAscii (t : Text) : Text :=
  concat (t.points.map fun c => if CharClass.isAscii c then ⟨[c]⟩ else escapeCode c)

end Converge.Text

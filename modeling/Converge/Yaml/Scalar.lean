import Converge.Binary64.Decimal
import Converge.Value
import Converge.Yaml.Base64
import Converge.Yaml.Tag

/-!
This module contains the values that YAML scalars stand for. A scalar whose tag is written down need
not have the form that goes with it; each such misfit has a trouble of its own.
-/

namespace Converge.Yaml.Scalar

def misfit {α : Type} (f : Foreign) : Outcome α :=
  .error (.foreign f)

def orMalformed {α : Type} : Option α → Outcome α
  | some a => .ok a
  | none => misfit .malformedScalar

def dropUnderscores (t : Text) : List Nat :=
  t.points.filter (· ≠ 95)

def isNegative : List Nat → Bool
  | 45 :: _ => true
  | _ => false

def sexagesimal {α : Type} (add : α → Nat → α → α) (zero : α) (digits : List α) : α :=
  (digits.reverse.foldl (fun (value, base) d => (add value base d, base * 60)) (zero, 1)).1

def magnitude (cs : List Nat) : Outcome Int :=
  match cs with
  | [] => misfit .emptyNumber
  | [48] => .ok 0
  | 48 :: 98 :: rest => orMalformed (Numeral.readInt? 2 ⟨rest⟩)
  | 48 :: 120 :: rest => orMalformed (Numeral.readInt? 16 ⟨rest⟩)
  | 48 :: _ => orMalformed (Numeral.readInt? 8 ⟨cs⟩)
  | _ =>
    match Tag.colonParts cs with
    | [_] => orMalformed (Numeral.readInt? 10 ⟨cs⟩)
    | parts =>
      (orMalformed (parts.mapM fun part => Numeral.readInt? 10 ⟨part⟩)).map
        (sexagesimal (fun value base d => value + d * base) 0)

def int (t : Text) : Outcome Value :=
  let cs := dropUnderscores t
  if cs.isEmpty then misfit .emptyNumber
  else (magnitude (Tag.dropSign cs)).map fun n => .int (if isNegative cs then -n else n)

def real (cs : List Nat) : Outcome Binary64 :=
  let word : Text := ⟨cs⟩
  if word = ".inf" then .ok (.infinite false)
  else if word = ".nan" then .ok .nan
  else
    match Tag.colonParts cs with
    | [_] => orMalformed (Binary64.read? word)
    | parts =>
      (orMalformed (parts.mapM fun part => Binary64.read? ⟨part⟩)).map
        (sexagesimal (fun value base d => value.add (d.scale base)) .zero)

def float (t : Text) : Outcome Value :=
  let cs := (Text.lowerAscii ⟨dropUnderscores t⟩).points
  if cs.isEmpty then misfit .emptyNumber
  else (real (Tag.dropSign cs)).map fun x => .float (if isNegative cs then x.neg else x)

def bool (t : Text) : Outcome Value :=
  match Tag.booleans.lookup t.lowerAscii with
  | some b => .ok (.bool b)
  | none => misfit .unknownWord

def octets (t : Text) : Outcome Value :=
  if !t.points.all CharClass.isAscii then malformed "base 64 is ASCII"
  else
    match Base64.decode? t.points with
    | some bytes => .ok (.octets bytes)
    | none => malformed "base 64 comes in groups of four"

def timestamp (t : Text) : Outcome Value :=
  match Moment.read? (Tag.dropFinalBreak t.points) with
  | none => misfit .unmatchedTimestamp
  | some m =>
    match m.time? with
    | none => if m.date.isValid then .ok (.date m.date) else misfit .malformedScalar
    | some (hour, minute, second, microsecond, offset?) =>
      let moment : Timestamp := { date := m.date, hour, minute, second, microsecond, offset? }
      if moment.isValid then .ok (.moment moment) else misfit .malformedScalar

def read : Tag → Text → Outcome Value
  | .null, _ => .ok .null
  | .bool, t => bool t
  | .int, t => int t
  | .float, t => float t
  | .timestamp, t => timestamp t
  | .text, t => .ok (.text t)
  | .octets, t => octets t
  | _, _ => malformed "a scalar has a tag that is not one of scalars"

end Converge.Yaml.Scalar

import Converge.Binary64.Decimal
import Converge.Value

/-!
This module contains the reading of values from JSON. Of two entries with one key the later one
counts, and two escapes that are a pair of surrogates are one code point.
-/

namespace Converge.Json

abbrev Points := List Nat

def isBlank (c : Nat) : Bool :=
  c = 32 || c = 10 || c = 13 || c = 9

def skipBlanks (cs : Points) : Points :=
  cs.dropWhile isBlank

def dropLiteral? (literal : Text) (cs : Points) : Option Points :=
  go literal.points cs
where
  go : List Nat → List Nat → Option (List Nat)
    | [], cs => some cs
    | l :: ls, c :: cs => if l = c then go ls cs else none
    | _ :: _, [] => none

def hexValue? (ds : List Nat) : Option Nat :=
  ds.foldl (fun acc d =>
    match acc, Numeral.digit? d with
    | some n, some v => if v < 16 then some (n * 16 + v) else none
    | _, _ => none) (some 0)

def joinUnit (high? : Bool) (points : List Nat) (unit : Nat) : List Nat :=
  -- a low surrogate joins a high one that was an escape directly before it
  match high?, points with
  | true, high :: rest =>
    if 0xDC00 ≤ unit && unit ≤ 0xDFFF then
      (0x10000 + (high - 0xD800) * 0x400 + (unit - 0xDC00)) :: rest
    else
      unit :: points
  | _, _ => unit :: points

def isHigh (unit : Nat) : Bool :=
  0xD800 ≤ unit && unit ≤ 0xDBFF

def simpleEscape? (c : Nat) : Option Nat :=
  if c = 34 || c = 92 || c = 47 then some c
  else if c = 110 then some 10
  else if c = 114 then some 13
  else if c = 116 then some 9
  else if c = 98 then some 8
  else if c = 102 then some 12
  else none

def readText? (cs : Points) : Option (Text × Points) :=
  go false [] cs
where
  go (high : Bool) (points : List Nat) : Points → Option (Text × Points)
    | [] => none
    | 34 :: rest => some (⟨points.reverse⟩, rest)
    | 92 :: 117 :: a :: b :: c :: d :: rest =>
      match hexValue? [a, b, c, d] with
      | some unit =>
        let joined := joinUnit high points unit
        go (isHigh unit) joined rest
      | none => none
    | 92 :: c :: rest =>
      match simpleEscape? c with
      | some p => go false (p :: points) rest
      | none => none
    | c :: rest => if c < 32 then none else go false (c :: points) rest

def isNumberPoint (c : Nat) : Bool :=
  Numeral.isDigit c || c = 45 || c = 43 || c = 46 || c = 101 || c = 69

def readNumber? (cs : Points) : Option (Value × Points) :=
  let number : Text := ⟨cs.takeWhile isNumberPoint⟩
  let rest := cs.dropWhile isNumberPoint
  match number.points with
  | 43 :: _ => none
  | _ =>
    match Numeral.readInt? 10 number with
    | some n => some (.int n, rest)
    | none => (Binary64.read? number).map fun x => (.float x, rest)

mutual

/--
A value and what follows it. Each call reads at least one code point, so `fuel` never runs out where
it is the number of code points.
-/
def readValue? : Nat → Points → Option (Value × Points)
  | 0, _ => none
  | fuel + 1, cs =>
    match skipBlanks cs with
    | 34 :: rest => (readText? rest).map fun (t, rest) => (.text t, rest)
    | 91 :: rest =>
      match skipBlanks rest with
      | 93 :: rest => some (.list [], rest)
      | rest => readItems? fuel [] rest
    | 123 :: rest =>
      match skipBlanks rest with
      | 125 :: rest => some (.map [], rest)
      | rest => readEntries? fuel [] rest
    | rest =>
      match dropLiteral? "null" rest with
      | some rest => some (.null, rest)
      | none =>
        match dropLiteral? "true" rest with
        | some rest => some (.bool true, rest)
        | none =>
          match dropLiteral? "false" rest with
          | some rest => some (.bool false, rest)
          | none => readNumber? rest

def readItems? : Nat → List Value → Points → Option (Value × Points)
  | 0, _, _ => none
  | fuel + 1, items, cs =>
    match readValue? fuel cs with
    | none => none
    | some (v, rest) =>
      match skipBlanks rest with
      | 44 :: rest => readItems? fuel (v :: items) rest
      | 93 :: rest => some (.list (v :: items).reverse, rest)
      | _ => none

def readEntries? : Nat → List (Text × Value) → Points → Option (Value × Points)
  | 0, _, _ => none
  | fuel + 1, entries, cs =>
    match skipBlanks cs with
    | 34 :: rest =>
      match readText? rest with
      | none => none
      | some (key, rest) =>
        match skipBlanks rest with
        | 58 :: rest =>
          match readValue? fuel rest with
          | none => none
          | some (v, rest) =>
            match skipBlanks rest with
            | 44 :: rest => readEntries? fuel (Value.put key v entries) rest
            | 125 :: rest => some (.map (Value.put key v entries), rest)
            | _ => none
        | _ => none
    | _ => none

end

def read? (t : Text) : Option Value :=
  match readValue? (t.length + 1) t.points with
  | some (v, rest) => if (skipBlanks rest).isEmpty then some v else none
  | none => none

end Converge.Json

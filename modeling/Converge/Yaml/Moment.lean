import Converge.Timestamp.Basic
import Converge.Yaml.Cursor

/-!
This module contains the timestamps of YAML: a date, or a date and a time of day with or without a
fraction and a distance from UTC.
-/

namespace Converge.Yaml

structure Moment where
  date : Date
  twoDigits : Bool
  time? : Option (Nat × Nat × Nat × Nat × Option Int)
deriving Repr

namespace Moment

def digits? (least most : Nat) (cs : List Nat) : Option (Nat × Nat × List Nat) :=
  let ds := (cs.take most).takeWhile Numeral.isDigit
  if least ≤ ds.length then
    some (ds.foldl (fun n d => n * 10 + (d - 48)) 0, ds.length, cs.drop ds.length)
  else
    none

def expect? (c : Nat) : List Nat → Option (List Nat)
  | [] => none
  | x :: rest => if x = c then some rest else none

def isBlank (c : Nat) : Bool :=
  c = 32 || c = 9

def fraction (cs : List Nat) : Nat × List Nat :=
  match cs with
  | 46 :: rest =>
    let ds := rest.takeWhile Numeral.isDigit
    let kept := ds.take 6
    (kept.foldl (fun n d => n * 10 + (d - 48)) 0 * Nat.pow 10 (6 - kept.length), rest.drop ds.length)
  | _ => (0, cs)

def zone? (cs : List Nat) : Option (Option Int) :=
  match cs.dropWhile isBlank with
  | [] => if cs.isEmpty then some none else none
  | [90] => some (some 0)
  | sign :: rest =>
    if sign = 43 || sign = 45 then do
      let (hours, _, rest) ← digits? 1 2 rest
      let minutes ←
        match rest with
        | [] => some 0
        | _ => do
          let (minutes, _, rest) ← digits? 2 2 (← expect? 58 rest)
          if rest.isEmpty then some minutes else none
      let offset : Int := (hours * 60 + minutes : Nat)
      some (some (if sign = 45 then -offset else offset))
    else
      none

def separator? : List Nat → Option (List Nat)
  | [] => none
  | c :: rest =>
    if c = 84 || c = 116 then some rest
    else if isBlank c then some (rest.dropWhile isBlank)
    else none

def timeOfDay? (cs : List Nat) : Option (Nat × Nat × Nat × Nat × Option Int) := do
  let (hour, _, cs) ← digits? 1 2 (← separator? cs)
  let (minute, _, cs) ← digits? 2 2 (← expect? 58 cs)
  let (second, _, cs) ← digits? 2 2 (← expect? 58 cs)
  let (microsecond, cs) := fraction cs
  let offset? ← zone? cs
  some (hour, minute, second, microsecond, offset?)

def read? (cs : List Nat) : Option Moment := do
  let (year, _, cs) ← digits? 4 4 cs
  let (month, monthDigits, cs) ← digits? 1 2 (← expect? 45 cs)
  let (day, dayDigits, cs) ← digits? 1 2 (← expect? 45 cs)
  let date : Date := ⟨year, month, day⟩
  let twoDigits := monthDigits = 2 && dayDigits = 2
  match cs with
  | [] => some { date, twoDigits, time? := none }
  | _ => do
    let time ← timeOfDay? cs
    some { date, twoDigits, time? := some time }

def isImplicit (m : Moment) : Bool :=
  m.twoDigits || m.time?.isSome

end Moment

end Converge.Yaml

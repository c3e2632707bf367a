import Converge.Numeral

/-!
This module contains dates of the Gregorian calendar and timestamps, together with their ISO 8601
text.
-/

namespace Converge

structure Date where
  year : Nat
  month : Nat
  day : Nat
deriving DecidableEq, Inhabited, Repr

namespace Date

def isLeap (year : Nat) : Bool :=
  year % 4 = 0 && (year % 100 ≠ 0 || year % 400 = 0)

def daysIn (year month : Nat) : Nat :=
  if month = 2 then
    if isLeap year then 29 else 28
  else if [4, 6, 9, 11].contains month then
    30
  else if 1 ≤ month && month ≤ 12 then
    31
  else
    0

def isValid (d : Date) : Bool :=
  1 ≤ d.year && d.year ≤ 9999 && 1 ≤ d.day && d.day ≤ daysIn d.year d.month

def daysBefore (year : Nat) : Nat :=
  365 * year + (year + 3) / 4 + (year + 399) / 400 - (year + 99) / 100

def yearOf (n : Nat) : Nat :=
  let guess := n * 400 / 146097
  if daysBefore (guess + 1) ≤ n then guess + 1
  else if daysBefore guess ≤ n then guess
  else guess - 1

def ofDayNumber (n : Nat) : Date :=
  let year := yearOf n
  go year 1 (n - daysBefore year) 12
where
  go (year month rest : Nat) : Nat → Date
    | 0 => ⟨year, month, rest + 1⟩
    | fuel + 1 =>
      if rest < daysIn year month then ⟨year, month, rest + 1⟩
      else go year (month + 1) (rest - daysIn year month) fuel

def iso (d : Date) : Text :=
  Numeral.padded 4 d.year ++ "-" ++ Numeral.padded 2 d.month ++ "-" ++ Numeral.padded 2 d.day

def literal (d : Date) : Text :=
  "datetime.date(" ++ Text.join ", " ([d.year, d.month, d.day].map Numeral.ofNat) ++ ")"

end Date

/--
A point of time on a clock. `offset?` is the clock's distance from UTC in minutes, absent where it
is not known.
-/
structure Timestamp where
  date : Date
  hour : Nat := 0
  minute : Nat := 0
  second : Nat := 0
  microsecond : Nat := 0
  offset? : Option Int := none
deriving DecidableEq, Inhabited, Repr

namespace Timestamp

def isValid (t : Timestamp) : Bool :=
  t.date.isValid && t.hour < 24 && t.minute < 60 && t.second < 60 &&
    match t.offset? with
    | some offset => offset.natAbs < 1440
    | none => true

def offsetText : Option Int → Text
  | none => .empty
  | some offset =>
    (if offset < 0 then "-" else "+") ++ Numeral.padded 2 (offset.natAbs / 60) ++ ":" ++
      Numeral.padded 2 (offset.natAbs % 60)

def textWith (separator : Text) (t : Timestamp) : Text :=
  -- microseconds are written if there are any
  let fraction := if t.microsecond = 0 then .empty else "." ++ Numeral.padded 6 t.microsecond
  t.date.iso ++ separator ++ Numeral.padded 2 t.hour ++ ":" ++ Numeral.padded 2 t.minute ++ ":" ++
    Numeral.padded 2 t.second ++ fraction ++ offsetText t.offset?

def iso (t : Timestamp) : Text :=
  t.textWith "T"

def zoneLiteral (offset : Int) : Text :=
  if offset = 0 then "datetime.timezone.utc"
  else
    -- seconds are never negative, days may be
    let days : Text := if offset < 0 then "days=-1, " else .empty
    "datetime.timezone(datetime.timedelta(" ++ days ++ "seconds=" ++
      Numeral.ofNat (offset % 1440 * 60).toNat ++ "))"

def literal (t : Timestamp) : Text :=
  let clock :=
    if t.microsecond ≠ 0 then [t.second, t.microsecond]
    else if t.second ≠ 0 then [t.second]
    else []
  let zone : Text :=
    match t.offset? with
    | some offset => ", tzinfo=" ++ zoneLiteral offset
    | none => .empty
  let numbers := [t.date.year, t.date.month, t.date.day, t.hour, t.minute] ++ clock
  "datetime.datetime(" ++ Text.join ", " (numbers.map Numeral.ofNat) ++ zone ++ ")"

end Timestamp

end Converge

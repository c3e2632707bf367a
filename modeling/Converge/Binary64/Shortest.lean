import Converge.Binary64.Basic
import Converge.Numeral

/-!
This module contains the writing of a floating point number with the fewest decimal digits that read
back as it.
-/

namespace Converge.Binary64

/--
The numbers that read back as `units`, in quarters of a unit: from `low` to `high`, the ends included
if `closed`.
-/
structure Interval where
  low : Nat
  high : Nat
  closed : Bool

def interval (units : Nat) : Interval :=
  let step := step units
  let below := if units = Nat.pow 2 52 * step && 1 < step then step else 2 * step
  { low := 4 * units - below, high := 4 * units + 2 * step, closed := units / step % 2 = 0 }

def gridSize (j : Int) : Nat × Nat :=
  if 0 ≤ j then (4 * one * Nat.pow 10 j.toNat, 1) else (4 * one, Nat.pow 10 (-j).toNat)

def Interval.contains (i : Interval) (grid : Nat × Nat) (c : Nat) : Bool :=
  let x := c * grid.1
  if i.closed then i.low * grid.2 ≤ x && x ≤ i.high * grid.2
  else i.low * grid.2 < x && x < i.high * grid.2

def onGrid? (units : Nat) (j : Int) : Option Nat :=
  -- a tie goes to the even point
  let grid := gridSize j
  let i := interval units
  let x := 4 * units * grid.2
  let c := x / grid.1
  match i.contains grid c, i.contains grid (c + 1) with
  | true, true =>
    let r := x % grid.1
    if 2 * r < grid.1 then some c
    else if grid.1 < 2 * r then some (c + 1)
    else if c % 2 = 0 then some c
    else some (c + 1)
  | true, false => some c
  | false, true => some (c + 1)
  | false, false => none

def magnitude (units : Nat) : Int :=
  let guess := ((units.log2 : Int) - 1074) * 30103 / 100000
  let below (p : Int) : Bool :=
    let (num, den) := gridSize p
    4 * units * den < num
  if below guess then guess else if below (guess + 1) then guess + 1 else guess + 2

/--
The fewest digits of a number that reads back as `units`, as `digits * 10 ^ exponent`.
-/
def shortest (units : Nat) : Nat × Int :=
  go (magnitude units) 16 1
where
  go (p : Int) (more n : Nat) : Nat × Int :=
    match onGrid? units (p - n), more with
    | some digits, _ => (digits, p - n)
    | none, 0 => (0, p - n)
    | none, more + 1 => go p more (n + 1)
  termination_by more

def largePoint : Int := 17

def smallPoint : Int := -4

def layout (digits : List Nat) (point : Int) : Text :=
  let count : Int := digits.length
  if point ≤ smallPoint || largePoint ≤ point then
    let mantissa : List Nat :=
      match digits with
      | d :: d' :: ds => d :: 46 :: d' :: ds
      | ds => ds
    let exponent := point - 1
    ⟨mantissa⟩ ++ (if exponent < 0 then "e-" else "e+") ++ Numeral.padded 2 exponent.natAbs
  else if point ≤ 0 then
    "0." ++ ⟨List.replicate (-point).toNat 48 ++ digits⟩
  else if count ≤ point then
    ⟨digits ++ List.replicate (point - count).toNat 48⟩ ++ ".0"
  else
    ⟨digits.take point.toNat⟩ ++ "." ++ ⟨digits.drop point.toNat⟩

def magnitudeText (units : Nat) : Text :=
  if units = 0 then "0.0"
  else
    let (digits, exponent) := shortest units
    let all := (Numeral.ofNat digits).points
    let kept := (all.reverse.dropWhile (· = 48)).reverse
    layout kept (all.length + exponent)

def toText : Binary64 → Text
  | .finite negative units => if negative then "-" ++ magnitudeText units else magnitudeText units
  | .infinite negative => if negative then "-inf" else "inf"
  | .nan => "nan"

end Converge.Binary64

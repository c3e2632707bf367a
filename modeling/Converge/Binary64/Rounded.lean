import Converge.Binary64.Shortest

/-!
This module contains the writing of a floating point number with as many digits as are asked for: behind
the point, or all of them with an exponent, or in whichever of the two forms suits the number.
-/

namespace Converge.Binary64

inductive Form
  | fixed
  | exponential
  | general
deriving DecidableEq, Inhabited, Repr

/--
Digits with a point behind so many of them. A point that nothing follows is written if it is `kept`.
-/
def pointed (kept : Bool) (whole : Nat) (digits : Text) : Text :=
  let fraction := digits.drop whole
  if fraction.isEmpty && !kept then digits else digits.take whole ++ "." ++ fraction

def dropZeros (digits : Text) : Text :=
  ⟨(digits.points.reverse.dropWhile (· = 48)).reverse⟩

/--
The digits of the number nearest to `units` that has so many decimals.
-/
def decimals (count units : Nat) : Text :=
  Numeral.padded (count + 1) (roundDiv (units * Nat.pow 10 count) one)

/--
The number nearest to `units` that has so many significant digits: these, and the exponent of the first.
-/
def significant (count units : Nat) : Text × Int :=
  if units = 0 then (.repeated count 48, 0)
  else
    let point := magnitude units
    let grid := gridSize (point - count)
    let digits := roundDiv (4 * units * grid.2) grid.1
    -- rounding up may come to one more digit
    if digits = Nat.pow 10 count then (Numeral.ofNat (Nat.pow 10 (count - 1)), point)
    else (Numeral.ofNat digits, point - 1)

def exponentText (exponent : Int) : Text :=
  (if exponent < 0 then "e-" else "e+") ++ Numeral.padded 2 exponent.natAbs

def generalText (kept : Bool) (count units : Nat) : Text :=
  let rounded := significant count units
  if rounded.2 < -4 || (count : Int) ≤ rounded.2 then
    let digits := if kept then rounded.1 else dropZeros rounded.1
    pointed kept 1 digits ++ exponentText rounded.2
  else
    let places := ((count : Int) - 1 - rounded.2).toNat
    let all := decimals places units
    let whole := all.length - places
    let digits := if kept then all else all.take whole ++ dropZeros (all.drop whole)
    pointed kept whole digits

def Form.magnitudeText (kept : Bool) (precision units : Nat) : Form → Text
  | .fixed =>
    let digits := decimals precision units
    pointed kept (digits.length - precision) digits
  | .exponential =>
    let rounded := significant (precision + 1) units
    pointed kept 1 rounded.1 ++ exponentText rounded.2
  | .general => generalText kept (max 1 precision) units

def isNegative : Binary64 → Bool
  | .finite negative _ => negative
  | .infinite negative => negative
  | .nan => false

/--
A number without its sign.
-/
def Form.text (kept : Bool) (precision : Nat) (form : Form) : Binary64 → Text
  | .finite _ units => form.magnitudeText kept precision units
  | .infinite _ => "inf"
  | .nan => "nan"

end Converge.Binary64

/-!
This module contains the binary floating point numbers with 53 bits of precision. A finite one is a
whole number of units of `2 ^ -1074`, so that every operation is exact arithmetic on `Nat` followed
by one rounding to the nearest number, where a tie goes to the even neighbour.
-/

namespace Converge

inductive Binary64
  | finite (negative : Bool) (units : Nat)
  | infinite (negative : Bool)
  | nan
deriving DecidableEq, Inhabited, Repr

namespace Binary64

def one : Nat := Nat.pow 2 1074

/--
From this number of units on a magnitude is infinite.
-/
def limit : Nat := Nat.pow 2 2098

def step (units : Nat) : Nat :=
  Nat.pow 2 (units.log2 - 52)

def roundDiv (num den : Nat) : Nat :=
  let q := num / den
  let r := num % den
  if 2 * r < den then q
  else if den < 2 * r then q + 1
  -- a tie goes to the even neighbour
  else if q % 2 = 0 then q
  else q + 1

def ofUnits (negative : Bool) (units : Nat) : Binary64 :=
  if units < limit then .finite negative units else .infinite negative

def round (negative : Bool) (num den : Nat) : Binary64 :=
  let step := step (num / den)
  ofUnits negative (roundDiv num (den * step) * step)

def ofRatio (negative : Bool) (num den : Nat) : Binary64 :=
  round negative (num * one) den

def ofInt? (n : Int) : Option Binary64 :=
  match ofRatio (decide (n < 0)) n.natAbs 1 with
  | .finite negative units => some (.finite negative units)
  | _ => none

def toInt? : Binary64 → Option Int
  | .finite negative units =>
    if units % one = 0 then
      some (if negative then -((units / one : Nat) : Int) else ((units / one : Nat) : Int))
    else
      none
  | _ => none

def isFinite : Binary64 → Bool
  | .finite .. => true
  | _ => false

def floorUnits (negative : Bool) (units : Nat) : Int × Nat :=
  let signed : Int := if negative then -(units : Int) else units
  (signed / one, (signed % one).toNat)

def neg : Binary64 → Binary64
  | .finite negative units => .finite (!negative) units
  | .infinite negative => .infinite (!negative)
  | .nan => .nan

def add : Binary64 → Binary64 → Binary64
  | .nan, _ => .nan
  | _, .nan => .nan
  | .infinite a, .infinite b => if a = b then .infinite a else .nan
  | .infinite a, _ => .infinite a
  | _, .infinite b => .infinite b
  | .finite a m, .finite b n =>
    if a = b then round a (m + n) 1
    else if m = n then .finite false 0
    else if n < m then round a (m - n) 1
    else round b (n - m) 1

def scale (n : Nat) : Binary64 → Binary64
  | .finite negative units => round negative (units * n) 1
  | .infinite negative => if n = 0 then .nan else .infinite negative
  | .nan => .nan

def half : Binary64 :=
  .finite false (Nat.pow 2 1073)

def zero : Binary64 :=
  .finite false 0

end Binary64

end Converge

import Converge.Binary64.Basic
import Converge.Numeral

/-!
This module contains the reading of a floating point number from its decimal text: blanks, a sign,
digits with an optional point and an optional exponent, or a name of infinity or of no number.
-/

namespace Converge.Binary64

/--
A magnitude beyond these powers of ten is infinite or zero without a look at its digits.
-/
def tooLarge : Int := 310

def tooSmall : Int := -330

def ofDecimal (negative : Bool) (digits : Nat) (exponent : Int) : Binary64 :=
  let size : Int := (Nat.toDigits 10 digits).length + exponent
  if digits = 0 then .finite negative 0
  else if tooLarge < size then .infinite negative
  else if size < tooSmall then .finite negative 0
  else if 0 ≤ exponent then ofRatio negative (digits * Nat.pow 10 exponent.toNat) 1
  else ofRatio negative digits (Nat.pow 10 (-exponent).toNat)

def dropUnderscores? (cs : List Nat) : Option (List Nat) :=
  -- each underscore has to stand between two digits
  go [] false cs
where
  go (kept : List Nat) (afterDigit : Bool) : List Nat → Option (List Nat)
    | [] => some kept.reverse
    | 95 :: cs =>
      match cs with
      | d :: rest =>
        if afterDigit && Numeral.isDigit d then go (d :: kept) true rest else none
      | [] => none
    | c :: cs => go (c :: kept) (Numeral.isDigit c) cs

def digitsValue (ds : List Nat) : Nat :=
  ds.foldl (fun value d => value * 10 + (d - 48)) 0

def exponent? (cs : List Nat) : Option Int :=
  -- without a mark the exponent is zero
  match cs with
  | [] => some 0
  | e :: cs =>
    if e = 101 || e = 69 then
      let (negative, ds) :=
        match cs with
        | 45 :: ds => (true, ds)
        | 43 :: ds => (false, ds)
        | ds => (false, ds)
      if ds.isEmpty || !ds.all Numeral.isDigit then none
      else some (if negative then -(digitsValue ds : Int) else digitsValue ds)
    else
      none

def unsigned? (negative : Bool) (cs : List Nat) : Option Binary64 :=
  let word := Text.lowerAscii ⟨cs⟩
  if word = "inf" || word = "infinity" then some (.infinite negative)
  else if word = "nan" then some .nan
  else
    let whole := cs.takeWhile Numeral.isDigit
    let rest := cs.dropWhile Numeral.isDigit
    let (fraction, rest) :=
      match rest with
      | 46 :: rest => (rest.takeWhile Numeral.isDigit, rest.dropWhile Numeral.isDigit)
      | rest => ([], rest)
    if whole.isEmpty && fraction.isEmpty then none
    else
      (exponent? rest).map fun exponent =>
        ofDecimal negative (digitsValue (whole ++ fraction)) (exponent - fraction.length)

def read? (t : Text) : Option Binary64 :=
  match dropUnderscores? (Numeral.normalize t) with
  | some (45 :: cs) => unsigned? true cs
  | some (43 :: cs) => unsigned? false cs
  | some cs => unsigned? false cs
  | none => none

end Converge.Binary64

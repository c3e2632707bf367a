import Converge.Text.Basic
import Converge.Text.CharClass

/-!
This module contains the writing of integers and the reading of integer numerals. A numeral has
blanks around it, a sign, and digits of any script in which an underscore may stand between two
digits.
-/

namespace Converge

namespace Numeral

def ofNat (n : Nat) : Text :=
  ⟨(Nat.toDigits 10 n).map Char.toNat⟩

def ofInt (n : Int) : Text :=
  if n < 0 then "-" ++ ofNat n.natAbs else ofNat n.natAbs

def padded (width n : Nat) : Text :=
  let digits := ofNat n
  ⟨List.replicate (width - digits.length) 48⟩ ++ digits

def inBase (base n : Nat) : Text :=
  ⟨(Nat.toDigits base n).map Char.toNat⟩

def hex (width n : Nat) : Text :=
  let digits := (Nat.toDigits 16 n).map Char.toNat
  ⟨List.replicate (width - digits.length) 48 ++ digits⟩

def digit? (c : Nat) : Option Nat :=
  if 48 ≤ c && c ≤ 57 then some (c - 48)
  else if 65 ≤ c && c ≤ 90 then some (c - 55)
  else if 97 ≤ c && c ≤ 122 then some (c - 87)
  else none

def isDigit (c : Nat) : Bool :=
  48 ≤ c && c ≤ 57

def isHexDigit (c : Nat) : Bool :=
  (48 ≤ c && c ≤ 57) || (65 ≤ c && c ≤ 70) || (97 ≤ c && c ≤ 102)

def isBlank (allAscii : Bool) (c : Nat) : Bool :=
  -- in a text of ASCII only the six ASCII blanks count
  CharClass.isWhite c || (!allAscii && CharClass.isSeparator c)

def dropBlanks (blank : Nat → Bool) (cs : List Nat) : List Nat :=
  ((cs.dropWhile blank).reverse.dropWhile blank).reverse

def normalize (t : Text) : List Nat :=
  let blank := isBlank (t.points.all CharClass.isAscii)
  (dropBlanks blank t.points).map fun c =>
    match CharClass.digit? c with
    | some d => 48 + d
    | none => c

def magnitude? (base : Nat) (cs : List Nat) : Option Nat :=
  -- an underscore may stand between two digits and nowhere else
  go 0 false cs
where
  go (value : Nat) (afterDigit : Bool) : List Nat → Option Nat
    | [] => if afterDigit then some value else none
    | c :: cs =>
      if c = 95 then
        if afterDigit then go value false cs else none
      else
        match digit? c with
        | some d => if d < base then go (value * base + d) true cs else none
        | none => none

def maxDigits : Nat := 4300

def digitCount (cs : List Nat) : Nat :=
  cs.countP (· ≠ 95)

def dropMark (base : Nat) (cs : List Nat) : List Nat :=
  match cs with
  | 48 :: c :: rest =>
    if (base = 2 && (c = 98 || c = 66)) || (base = 8 && (c = 111 || c = 79)) ||
        (base = 16 && (c = 120 || c = 88)) then
      match rest with
      | 95 :: rest => rest
      | _ => rest
    else
      cs
  | _ => cs

def unsigned? (base : Nat) (cs : List Nat) : Option Nat :=
  let cs := dropMark base cs
  if base = 10 && maxDigits < digitCount cs then none else magnitude? base cs

def readInt? (base : Nat) (t : Text) : Option Int :=
  match normalize t with
  | 45 :: cs => (unsigned? base cs).map fun n => -(n : Int)
  | 43 :: cs => (unsigned? base cs).map fun n => (n : Int)
  | cs => (unsigned? base cs).map fun n => (n : Int)

end Numeral

end Converge

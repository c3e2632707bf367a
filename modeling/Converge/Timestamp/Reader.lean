import Converge.Binary64.Decimal
import Converge.Text.Utf8
import Converge.Timestamp.Unix

/-!
This module contains the reading of timestamps from text: RFC 3339 with some latitude, a number of
seconds, or a date alone.
-/

namespace Converge.Timestamp

inductive TextIssue
  | tooShort
  | yearCharacter
  | monthCharacter
  | dayCharacter
  | dateSeparator
  | monthRange
  | dayRange
  | trailing
  | range (issue : RangeIssue)
deriving DecidableEq, Repr

abbrev Octets := List Nat

def twoDigits? (a b : Nat) : Option Nat :=
  if Numeral.isDigit a && Numeral.isDigit b then some ((a - 48) * 10 + (b - 48)) else none

def readDate : Octets → Except TextIssue (Date × Octets)
  | y₁ :: y₂ :: y₃ :: y₄ :: s₁ :: m₁ :: m₂ :: s₂ :: d₁ :: d₂ :: rest =>
    match twoDigits? y₁ y₂, twoDigits? y₃ y₄ with
    | some century, some year =>
      if s₁ ≠ 45 then .error .dateSeparator
      else
        match twoDigits? m₁ m₂ with
        | none => .error .monthCharacter
        | some month =>
          if s₂ ≠ 45 then .error .dateSeparator
          else
            match twoDigits? d₁ d₂ with
            | none => .error .dayCharacter
            | some day =>
              let year := century * 100 + year
              if month < 1 || 12 < month then .error .monthRange
              else if day < 1 || Date.daysIn year month < day then .error .dayRange
              else .ok (⟨year, month, day⟩, rest)
    | _, _ => .error .yearCharacter
  | _ => .error .tooShort

def fraction (digits : Octets) : Nat :=
  -- digits after the sixth are dropped
  let kept := digits.take 6
  kept.foldl (fun value d => value * 10 + (d - 48)) 0 * Nat.pow 10 (6 - kept.length)

def readSeconds? : Octets → Option (Nat × Nat × Octets)
  | 58 :: a :: b :: rest =>
    match twoDigits? a b with
    | none => none
    | some second =>
      if 59 < second then none
      else
        match rest with
        | mark :: rest' =>
          if mark = 46 || mark = 44 then
            let digits := rest'.takeWhile Numeral.isDigit
            if digits.isEmpty then none
            else some (second, fraction digits, rest'.dropWhile Numeral.isDigit)
          else
            some (second, 0, rest)
        | [] => some (second, 0, [])
  | 58 :: _ => none
  | rest => some (0, 0, rest)

def dropMinus? : Octets → Option Octets
  | 45 :: rest => some rest
  | 226 :: 136 :: 146 :: rest => some rest
  | _ => none

def readOffset? (rest : Octets) : Option Int :=
  match rest with
  | [h₁, h₂, 58, m₁, m₂] => minutes? h₁ h₂ m₁ m₂
  | [h₁, h₂, m₁, m₂] => minutes? h₁ h₂ m₁ m₂
  | _ => none
where
  minutes? (h₁ h₂ m₁ m₂ : Nat) : Option Int :=
    match twoDigits? h₁ h₂, twoDigits? m₁ m₂ with
    | some hours, some minutes =>
      if 60 ≤ minutes || 24 ≤ hours then none else some (hours * 60 + minutes : Nat)
    | _, _ => none

def readZone? (rest : Octets) : Option (Option Int) :=
  match rest with
  | [] => some none
  | [90] => some (some 0)
  | [122] => some (some 0)
  | 43 :: rest => (readOffset? rest).map some
  | rest =>
    match dropMinus? rest with
    | some rest => (readOffset? rest).map fun offset => some (-offset)
    | none => none

def readTime? (date : Date) : Octets → Option Timestamp
  | separator :: h₁ :: h₂ :: 58 :: m₁ :: m₂ :: rest =>
    if !([84, 116, 32, 95].contains separator) then none
    else
      match twoDigits? h₁ h₂, twoDigits? m₁ m₂ with
      | some hour, some minute =>
        if 23 < hour || 59 < minute then none
        else
          match readSeconds? rest with
          | some (second, microsecond, rest) =>
            (readZone? rest).map fun offset? =>
              { date, hour, minute, second, microsecond, offset? }
          | none => none
      | _, _ => none
  | _ => none

def whole? (octets : Octets) : Option Int :=
  let signed : Int × Octets :=
    match octets with
    | 45 :: rest => (-1, rest)
    | 43 :: rest => (1, rest)
    | rest => (1, rest)
  let digits := signed.2
  if digits.isEmpty || !digits.all Numeral.isDigit then none
  else
    let n := signed.1 * (digits.foldl (fun value d => value * 10 + (d - 48)) 0 : Nat)
    if -0x8000000000000000 < n && n < 0x8000000000000000 then some n else none

def real? (octets : Octets) : Option Binary64 :=
  if octets.contains 46 && octets.all fun c => Numeral.isDigit c || [43, 45, 46].contains c then
    Binary64.read? ⟨octets⟩
  else
    none

/--
The timestamp that the octets of a text denote. A date alone is its midnight. A text that is neither
is reported as what it could least be: a whole number out of range, a date, or a date with something
after it.
-/
def readOctets (octets : Octets) : Except TextIssue Timestamp :=
  match readDate octets with
  | .ok (date, []) => .ok { date }
  | .ok (date, rest) =>
    match readTime? date rest with
    | some moment => .ok moment
    | none => .error .trailing
  | .error issue =>
    match whole? octets with
    | some n => (ofUnix n 0).mapError .range
    | none =>
      match (real? octets).bind ofUnixReal with
      | some (.ok moment) => .ok moment
      | _ => .error issue

def read (t : Text) : Except TextIssue Timestamp :=
  readOctets ((Utf8.encode t).map UInt8.toNat)

end Converge.Timestamp

import Converge.Binary64.Basic
import Converge.Timestamp.Basic

/-!
This module contains timestamps as Unix time. A number of large magnitude counts milliseconds, any
other one seconds.
-/

namespace Converge.Timestamp

inductive RangeIssue
  | tooEarly
  | tooLate
deriving DecidableEq, Repr

def firstSecond : Int := -62167219200

def lastSecond : Int := 253402300799

def secondsLimit : Nat := 20000000000

def ofSeconds (seconds : Int) (microsecond : Nat) : Timestamp :=
  let sinceStart := (seconds - firstSecond).toNat
  let inDay := sinceStart % 86400
  {
    date := .ofDayNumber (sinceStart / 86400)
    hour := inDay / 3600
    minute := inDay / 60 % 60
    second := inDay % 60
    microsecond := microsecond
    offset? := some 0
  }

def ofUnix (n : Int) (microseconds : Nat) : Except RangeIssue Timestamp :=
  if n ≤ -0x8000000000000000 then
    .error .tooEarly
  else
    let (seconds, extra) : Int × Nat :=
      if n.natAbs ≤ secondsLimit then (n, 0) else (n / 1000, (n % 1000).toNat * 1000)
    let total := microseconds + extra
    let seconds := seconds + (total / 1000000 : Nat)
    if seconds < firstSecond then .error .tooEarly
    else if lastSecond < seconds then .error .tooLate
    else .ok (ofSeconds seconds (total % 1000000))

def roundHalfUp (units : Nat) : Nat :=
  (2 * units + Binary64.one) / (2 * Binary64.one)

def ofUnixReal : Binary64 → Option (Except RangeIssue Timestamp)
  | .finite negative units =>
    let (whole, _) := Binary64.floorUnits negative units
    let microseconds :=
      match Binary64.scale 1000000 (.finite false (units % Binary64.one)) with
      | .finite _ scaled => roundHalfUp scaled
      | _ => 0
    some (ofUnix whole microseconds)
  | .infinite negative => some (.error (if negative then .tooEarly else .tooLate))
  | .nan => none

end Converge.Timestamp

import Converge.Fault

/-!
This module contains what keeps a value from being written: an integer has too many digits, or lists
and maps are nested too deep.
-/

namespace Converge.Value

mutual

/--
Why a value cannot be written where `room` lists and maps may be open at a time. Those with nothing in
them count if `empties`.
-/
def refusal? (empties : Bool) (room : Nat) : Value → Option Foreign
  | .int n => if Numeral.maxDigits < (Numeral.ofNat n.natAbs).length then some .tooManyDigits else none
  | .list items =>
    if room = 0 && (empties || !items.isEmpty) then some .tooDeep
    else refusalItems? empties (room - 1) items
  | .map entries =>
    if room = 0 && (empties || !entries.isEmpty) then some .tooDeep
    else refusalEntries? empties (room - 1) entries
  | _ => none

def refusalItems? (empties : Bool) (room : Nat) : List Value → Option Foreign
  | [] => none
  | v :: rest => (refusal? empties room v).or (refusalItems? empties room rest)

def refusalEntries? (empties : Bool) (room : Nat) : List (Text × Value) → Option Foreign
  | [] => none
  | (_, v) :: rest => (refusal? empties room v).or (refusalEntries? empties room rest)

end

end Converge.Value

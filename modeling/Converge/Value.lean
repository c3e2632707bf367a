import Converge.Binary64.Shortest
import Converge.Text.Quoted
import Converge.Timestamp.Basic

/-!
This module contains the data values of documents and log records, together with the text they have
inside a message.
-/

namespace Converge

/--
A data value. The keys of a map are distinct and in the order in which they were first set.
-/
inductive Value
  | null
  | bool (b : Bool)
  | int (n : Int)
  | float (x : Binary64)
  | text (t : Text)
  | octets (bytes : List UInt8)
  | date (d : Date)
  | moment (t : Timestamp)
  | path (t : Text)
  | list (items : List Value)
  | map (entries : List (Text × Value))
deriving Inhabited, Repr

namespace Value

def put (key : Text) (v : Value) : List (Text × Value) → List (Text × Value)
  | [] => [(key, v)]
  -- an entry that is there keeps its place
  | (k, w) :: rest => if k = key then (k, v) :: rest else (k, w) :: put key v rest

def putAll (entries news : List (Text × Value)) : List (Text × Value) :=
  news.foldl (fun entries (key, v) => put key v entries) entries

def find? (key : Text) : List (Text × Value) → Option Value
  | [] => none
  | (k, v) :: rest => if k = key then some v else find? key rest

theorem find?_put_self (key : Text) (v : Value) (entries : List (Text × Value)) :
    find? key (put key v entries) = some v := by
  induction entries with
  | nil => simp [put, find?]
  | cons e rest ih =>
    obtain ⟨k, w⟩ := e
    by_cases h : k = key <;> simp [put, find?, h, ih]

theorem find?_put_of_ne {key other : Text} (v : Value) (entries : List (Text × Value))
    (h : other ≠ key) : find? other (put key v entries) = find? other entries := by
  induction entries with
  | nil => simp [put, find?, Ne.symm h]
  | cons e rest ih =>
    obtain ⟨k, w⟩ := e
    by_cases hk : k = key
    · simp [put, find?, hk, Ne.symm h]
    · simp only [put, hk, if_false, find?, ih]

def octetsLiteral (bytes : List UInt8) : Text :=
  "b" ++ Text.quotedWith (fun c => 32 ≤ c && c < 127) ⟨bytes.map UInt8.toNat⟩

mutual

def literal : Value → Text
  | .null => "None"
  | .bool b => if b then "True" else "False"
  | .int n => Numeral.ofInt n
  | .float x => x.toText
  | .text t => t.quoted
  | .octets bytes => octetsLiteral bytes
  | .date d => d.literal
  | .moment t => t.literal
  | .path t => "PosixPath(" ++ t.quoted ++ ")"
  | .list items => "[" ++ Text.join ", " (literalItems items) ++ "]"
  | .map entries => "\x7b" ++ Text.join ", " (literalEntries entries) ++ "\x7d"

def literalItems : List Value → List Text
  | [] => []
  | v :: rest => literal v :: literalItems rest

def literalEntries : List (Text × Value) → List Text
  | [] => []
  | (k, v) :: rest => (k.quoted ++ ": " ++ literal v) :: literalEntries rest

end

def display : Value → Text
  | .text t => t
  | .date d => d.iso
  | .moment t => t.textWith " "
  | .path t => t
  | v => literal v

end Value

end Converge

import Converge.Document.Checked
import Converge.Endpoint.Basic

/-!
This module contains the reading of single values: texts, integers, stored format versions and
timestamps. A value of another type is accepted where it stands for one of the right type without
loss.
-/

namespace Converge.Document

def optional {α : Type} (read : Value → Checked α) : Value → Checked (Option α)
  | .null => .valid none
  | v => (read v).map some

def text : Value → Checked Text
  | .text t => .valid t
  | .octets bytes =>
    match Utf8.decode? bytes with
    | some t => .valid t
    | none => .issue .textEncoding
  | _ => .issue .notText

def nonEmptyText (v : Value) : Checked Text :=
  (text v).bind fun t =>
    if !t.isWellFormed then .issue .textEncoding
    else if t.isEmpty then .issue .emptyText
    else .valid t

def dropZeroFraction? (cs : List Nat) : Option (List Nat) :=
  match cs.span (· ≠ 46) with
  | (digits, []) => some digits
  | (digits, _ :: zeros) =>
    if !zeros.isEmpty && zeros.all (· = 48) then some digits else none

def integerText (t : Text) : Checked Int :=
  -- blanks around, a sign, single underscores between digits and a fraction of zeros are let pass
  let (negative, cs) : Bool × List Nat :=
    match Numeral.dropBlanks CharClass.isWhite t.points with
    | 45 :: cs => (true, cs)
    | 43 :: cs => (false, cs)
    | cs => (false, cs)
  match dropZeroFraction? cs with
  | none => .issue .integerText
  | some digits =>
    if !digits.all fun c => Numeral.isDigit c || c = 95 then .issue .integerText
    else
      match Numeral.magnitude? 10 digits with
      | none => .issue .integerText
      | some n =>
        if Numeral.maxDigits < digits.length then .issue .integerSize
        else .valid (if negative then -(n : Int) else n)

def integerFloat (x : Binary64) : Checked Int :=
  if !x.isFinite then .issue .notFinite
  else
    match x.toInt? with
    | none => .issue .integerFraction
    -- an integer outside of 64 bits is not trusted to be exact
    | some n => if n.natAbs < 0x8000000000000000 then .valid n else .issue .integerSize

def integer : Value → Checked Int
  | .int n => .valid n
  | .bool b => .valid (if b then 1 else 0)
  | .float x => integerFloat x
  | .text t => if t.isWellFormed then integerText t else .issue .textEncoding
  | .octets bytes =>
    match Utf8.decode? bytes with
    | some t => integerText t
    | none => .issue .integerText
  | _ => .issue .notInteger

def versionNumber (v : Value) : Checked Int :=
  (integer v).bind fun n => if n < 1 then .issue .belowOne else .valid n

def storedIssues (int float text : IssueKind) : Checked FormatVersion :=
  .invalid [⟨["int"], int⟩, ⟨["float"], float⟩, ⟨["str"], text⟩]

def storedFormatVersion : Value → Checked FormatVersion
  -- a number or a text stays what it is
  | .int n => .valid (.int n)
  | .bool b => .valid (.int (if b then 1 else 0))
  | .float x => .valid (.float x)
  | .text t => .valid (.text t)
  | .octets bytes =>
    match Utf8.decode? bytes with
    | none => storedIssues .integerText .numberText .textEncoding
    | some t =>
      match integerText t with
      | .valid n => .valid (.int n)
      | .invalid _ =>
        match Binary64.read? t with
        | some x => .valid (.float x)
        | none => .valid (.text t)
  | _ => storedIssues .notInteger .notNumber .notText

def timestampOf : Except IssueKind Timestamp → Checked Timestamp
  | .ok moment => if moment.date.year = 0 then .issue .timestampYearZero else .valid moment
  | .error kind => .issue kind

def timestamp : Value → Checked Timestamp
  | .moment t => .valid t
  | .date date => .valid { date }
  | .text t =>
    if t.isWellFormed then timestampOf ((Timestamp.read t).mapError .timestampText)
    else .issue .textEncoding
  | .octets bytes =>
    timestampOf ((Timestamp.readOctets (bytes.map UInt8.toNat)).mapError .timestampText)
  | .int n =>
    match Binary64.ofInt? n with
    | some _ => timestampOf ((Timestamp.ofUnix n 0).mapError .timestampRange)
    | none => .issue .notTimestamp
  | .float x =>
    match Timestamp.ofUnixReal x with
    | some moment => timestampOf (moment.mapError .timestampRange)
    | none => .issue .timestampNan
  | _ => .issue .notTimestamp

theorem nonEmptyText_eq_valid_iff {v : Value} {t : Text} :
    nonEmptyText v = .valid t ↔ text v = .valid t ∧ t.isWellFormed ∧ ¬t.isEmpty := by
  unfold nonEmptyText
  rw [Checked.bind_eq_valid_iff]
  constructor
  · rintro ⟨t', htext, h⟩
    split at h
    · cases h
    · split at h
      · cases h
      · next hformed hempty =>
        cases h
        exact ⟨htext, by simpa using hformed, hempty⟩
  · rintro ⟨htext, hformed, hempty⟩
    exact ⟨t, htext, by simp [hformed, hempty]⟩

theorem versionNumber_eq_valid_iff {v : Value} {n : Int} :
    versionNumber v = .valid n ↔ integer v = .valid n ∧ 1 ≤ n := by
  unfold versionNumber
  rw [Checked.bind_eq_valid_iff]
  constructor
  · rintro ⟨n', hinteger, h⟩
    split at h
    · cases h
    · cases h
      exact ⟨hinteger, by omega⟩
  · rintro ⟨hinteger, hn⟩
    exact ⟨n, hinteger, if_neg (by omega)⟩

end Converge.Document

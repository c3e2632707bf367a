import Converge.Timestamp.Reader

/-!
This module contains what can be wrong with a value of a document, with its wording.
-/

namespace Converge.Document

inductive Shape
  | declared
  | stored
  | spec
  | snapshot
deriving DecidableEq, Inhabited, Repr

def Shape.label : Shape → Text
  | .declared => "LocalRecord"
  | .stored => "RemoteRecord"
  | .spec => "LoggingSpec"
  | .snapshot => "ObservedSnapshot"

inductive IssueKind
  | missing
  | notRecord (shape : Shape)
  | notList
  | notText
  | emptyText
  | textEncoding
  | notInteger
  | integerText
  | integerSize
  | integerFraction
  | notFinite
  | belowOne
  | notNumber
  | numberText
  | notTimestamp
  | timestampText (issue : Timestamp.TextIssue)
  | timestampRange (issue : Timestamp.RangeIssue)
  | timestampYearZero
  | timestampNan
deriving DecidableEq, Repr

namespace IssueKind

def label : IssueKind → Text
  | .missing => "missing"
  | .notRecord _ => "model_type"
  | .notList => "list_type"
  | .notText => "string_type"
  | .emptyText => "string_too_short"
  | .textEncoding => "string_unicode"
  | .notInteger => "int_type"
  | .integerText => "int_parsing"
  | .integerSize => "int_parsing_size"
  | .integerFraction => "int_from_float"
  | .notFinite => "finite_number"
  | .belowOne => "greater_than_equal"
  | .notNumber => "float_type"
  | .numberText => "float_parsing"
  | .notTimestamp => "datetime_type"
  | .timestampText _ => "datetime_from_date_parsing"
  | .timestampRange _ => "datetime_parsing"
  | .timestampYearZero => "datetime_parsing"
  | .timestampNan => "datetime_parsing"

def rangeMessage : Timestamp.RangeIssue → Text
  | .tooEarly => "dates before 0000 are not supported as unix timestamps"
  | .tooLate => "dates after 9999 are not supported as unix timestamps"

def textMessage : Timestamp.TextIssue → Text
  | .tooShort => "input is too short"
  | .yearCharacter => "invalid character in year"
  | .monthCharacter => "invalid character in month"
  | .dayCharacter => "invalid character in day"
  | .dateSeparator => "invalid date separator, expected \x60-\x60"
  | .monthRange => "month value is outside expected range of 1-12"
  | .dayRange => "day value is outside expected range"
  | .trailing => "unexpected extra characters at the end of the input"
  | .range issue => rangeMessage issue

def message : IssueKind → Text
  | .missing => "Field required"
  | .notRecord shape => "Input should be a valid dictionary or instance of " ++ shape.label
  | .notList => "Input should be a valid list"
  | .notText => "Input should be a valid string"
  | .emptyText => "String should have at least 1 character"
  | .textEncoding =>
    "Input should be a valid string, unable to parse raw data as a unicode string"
  | .notInteger => "Input should be a valid integer"
  | .integerText => "Input should be a valid integer, unable to parse string as an integer"
  | .integerSize => "Unable to parse input string as an integer, exceeded maximum size"
  | .integerFraction => "Input should be a valid integer, got a number with a fractional part"
  | .notFinite => "Input should be a finite number"
  | .belowOne => "Input should be greater than or equal to 1"
  | .notNumber => "Input should be a valid number"
  | .numberText => "Input should be a valid number, unable to parse string as a number"
  | .notTimestamp => "Input should be a valid datetime"
  | .timestampText issue => "Input should be a valid datetime or date, " ++ textMessage issue
  | .timestampRange issue => "Input should be a valid datetime, " ++ rangeMessage issue
  | .timestampYearZero => "Input should be a valid datetime, year 0 is out of range"
  | .timestampNan => "Input should be a valid datetime, NaN values not permitted"

end IssueKind

/--
Something wrong with the value at a place of a document. The place is the path of keys and list
positions that leads to it.
-/
structure Issue where
  place : List Text
  kind : IssueKind
deriving DecidableEq, Repr

namespace Issue

def within (key : Text) (i : Issue) : Issue :=
  { i with place := key :: i.place }

def line (i : Issue) : Text :=
  "  - " ++ Text.join "." i.place ++ ": " ++ i.kind.message

end Issue

end Converge.Document

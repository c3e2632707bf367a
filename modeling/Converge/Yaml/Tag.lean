import Converge.Yaml.Moment

/-!
This module contains the tags that a YAML scalar or collection can have, and which of them a plain
scalar without a tag has.
-/

namespace Converge.Yaml

inductive Tag
  | null
  | bool
  | int
  | float
  | timestamp
  | text
  | octets
  | merge
  | value
  | sequence
  | mapping
  | set
  | orderedMap
  | pairs
  | unknown
deriving DecidableEq, Inhabited, Repr

namespace Tag

def namespaceText : Text :=
  "tag:yaml.org,2002:"

def names : List (Text × Tag) := [
    ("null", .null), ("bool", .bool), ("int", .int), ("float", .float), ("timestamp", .timestamp),
    ("str", .text), ("binary", .octets), ("seq", .sequence), ("map", .mapping), ("set", .set),
    ("omap", .orderedMap), ("pairs", .pairs), ("merge", .merge), ("value", .value)]

def ofName (name : Text) : Tag :=
  match names.find? fun (n, _) => namespaceText ++ n = name with
  | some (_, tag) => tag
  | none => .unknown

def dropSign : List Nat → List Nat
  | 43 :: cs => cs
  | 45 :: cs => cs
  | cs => cs

def isDigits (isDigit : Nat → Bool) (cs : List Nat) : Bool :=
  match cs with
  | [] => false
  | c :: rest => isDigit c && rest.all fun c => isDigit c || c = 95

def isFreely (isDigit : Nat → Bool) (cs : List Nat) : Bool :=
  cs.all fun c => isDigit c || c = 95

def colonParts (cs : List Nat) : List (List Nat) :=
  ((⟨cs⟩ : Text).splitOn 58).map Text.points

def isSixtieth : List Nat → Bool
  | [d] => Numeral.isDigit d
  | [d, e] => 48 ≤ d && d ≤ 53 && Numeral.isDigit e
  | _ => false

def isExponent : List Nat → Bool
  | [] => true
  | e :: sign :: digits =>
    (e = 101 || e = 69) && (sign = 43 || sign = 45) && !digits.isEmpty &&
      digits.all Numeral.isDigit
  | _ => false

def isFractionAndExponent (cs : List Nat) : Bool :=
  isExponent (cs.dropWhile fun c => Numeral.isDigit c || c = 95)

def isFloat (cs : List Nat) : Bool :=
  let unsigned := dropSign cs
  let (whole, rest) := unsigned.span (· ≠ 46)
  match rest with
  | [] => false
  | _ :: fraction =>
    let word : Text := ⟨fraction⟩
    let isPlainNumber := isDigits Numeral.isDigit whole && isFractionAndExponent fraction
    let isFraction :=
      cs.head? = some 46 && (fraction.head?.any Numeral.isDigit) && isFractionAndExponent fraction
    let isSexagesimal :=
      match colonParts whole with
      | first :: second :: more =>
        isDigits Numeral.isDigit first && (second :: more).all isSixtieth &&
          isFreely Numeral.isDigit fraction
      | _ => false
    let isInfinite := whole.isEmpty && [("inf" : Text), "Inf", "INF"].contains word
    let isNan := cs.head? = some 46 && [("nan" : Text), "NaN", "NAN"].contains word
    isPlainNumber || isFraction || isSexagesimal || isInfinite || isNan

def isBinaryDigit (c : Nat) : Bool :=
  c = 48 || c = 49

def isOctalDigit (c : Nat) : Bool :=
  48 ≤ c && c ≤ 55

def isInt (cs : List Nat) : Bool :=
  match dropSign cs with
  | [] => false
  | [48] => true
  | 48 :: 98 :: rest => !rest.isEmpty && isFreely isBinaryDigit rest
  | 48 :: 120 :: rest => !rest.isEmpty && isFreely Numeral.isHexDigit rest
  | 48 :: rest => isFreely isOctalDigit rest
  | cs =>
    match colonParts cs with
    | [digits] => isDigits Numeral.isDigit digits
    | first :: more => isDigits Numeral.isDigit first && more.all isSixtieth
    | [] => false

def booleans : List (Text × Bool) := [
    ("yes", true), ("no", false), ("true", true), ("false", false), ("on", true), ("off", false)]

def isBool (t : Text) : Bool :=
  booleans.any fun (word, _) => spellings word |>.contains t
where
  upper (c : Nat) : Nat := c - 32
  spellings (word : Text) : List Text :=
    [word, ⟨(word.points.take 1).map upper ++ word.points.drop 1⟩, ⟨word.points.map upper⟩]

def isNull (t : Text) : Bool :=
  [("" : Text), "~", "null", "Null", "NULL"].contains t

def isTimestamp (cs : List Nat) : Bool :=
  (Moment.read? cs).any Moment.isImplicit

def dropFinalBreak (cs : List Nat) : List Nat :=
  if cs.getLast? = some 10 && cs.length ≠ 1 then cs.dropLast else cs

def ofForm (t : Text) : Tag :=
  let cs := dropFinalBreak t.points
  let t : Text := ⟨cs⟩
  if isBool t then .bool
  else if isFloat cs then .float
  else if isInt cs then .int
  else if t = "<<" then .merge
  else if isNull t then .null
  else if isTimestamp cs then .timestamp
  else if t = "=" then .value
  else .text

end Tag

end Converge.Yaml

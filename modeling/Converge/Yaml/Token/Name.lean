import Converge.Text.Utf8
import Converge.Yaml.Token.Basic

/-!
This module contains the scanning of directives, anchors, aliases and tags.
-/

namespace Converge.Yaml

namespace Cursor

def scanAnchor (c : Cursor) : Outcome (Text × Cursor) :=
  let (name, c) := c.next.span isNamePoint
  if name.isEmpty then malformed "an anchor needs a name"
  else if isBlankOrEnd c.peek || [63, 58, 44, 93, 125, 37, 64, 96].contains c.peek then
    .ok (name, c)
  else
    malformed "an anchor holds a character that it must not"

def isUriPoint (c : Nat) : Bool :=
  isNamePoint c ||
    [59, 47, 63, 58, 64, 38, 61, 43, 36, 44, 46, 33, 126, 42, 39, 40, 41, 91, 93].contains c

def scanEscapes : Nat → List UInt8 → Cursor → Outcome (List UInt8 × Cursor)
  | 0, octets, c => .ok (octets, c)
  | fuel + 1, octets, c =>
    if c.peek = 37 then
      match Numeral.digit? (c.peekAt 1), Numeral.digit? (c.peekAt 2) with
      | some a, some b =>
        if a < 16 && b < 16 then scanEscapes fuel ((a * 16 + b).toUInt8 :: octets) (c.drop 3)
        else malformed "an escape of a tag needs two hexadecimal digits"
      | _, _ => malformed "an escape of a tag needs two hexadecimal digits"
    else
      .ok (octets, c)

def scanUri (fuel : Nat) (c : Cursor) : Outcome (Text × Cursor) :=
  go fuel .empty c
where
  go : Nat → Text → Cursor → Outcome (Text × Cursor)
    | 0, uri, c => .ok (uri, c)
    | fuel + 1, uri, c =>
      if c.peek = 37 then
        match scanEscapes fuel [] c with
        | .error e => .error e
        | .ok (octets, c) =>
          match Utf8.decode? octets.reverse with
          | some t => go fuel (uri ++ t) c
          | none => malformed "the escapes of a tag are not UTF-8"
      else
        let (chunk, c) := c.span isUriPoint
        if !chunk.isEmpty then go fuel (uri ++ chunk) c
        else if uri.isEmpty then malformed "a tag needs a name"
        else .ok (uri, c)

def scanHandle (c : Cursor) : Outcome (Text × Cursor) :=
  if c.peek ≠ 33 then malformed "a tag handle starts with an exclamation mark"
  else if c.peekAt 1 = 32 then .ok ("!", c.next)
  else
    let (name, c) := c.next.span isNamePoint
    if c.peek = 33 then .ok ("!" ++ name ++ "!", c.next)
    else malformed "a tag handle ends with an exclamation mark"

def scanTag (fuel : Nat) (c : Cursor) : Outcome (Option Text × Text × Cursor) := do
  let (handle?, suffix, c) ←
    -- a verbatim tag has no handle
    if c.peekAt 1 = 60 then do
      let (suffix, c) ← scanUri fuel (c.drop 2)
      if c.peek = 62 then .ok (none, suffix, c.next)
      else malformed "a verbatim tag ends with a bracket"
    else if isBlankOrEnd (c.peekAt 1) then
      .ok (none, ("!" : Text), c.next)
    else do
      let (handle, c) ←
        if (c.next.span (!isSpaceOrEnd ·)).1.points.contains 33 then scanHandle c
        else .ok ("!", c.next)
      let (suffix, c) ← scanUri fuel c
      .ok (some handle, suffix, c)
  if isSpaceOrEnd c.peek then .ok (handle?, suffix, c)
  else malformed "a tag is followed by a space"

def scanNumber (c : Cursor) : Outcome (Nat × Cursor) :=
  let (digits, c) := c.span Numeral.isDigit
  match Numeral.magnitude? 10 digits.points with
  | some n => .ok (n, c)
  | none => malformed "a version is made of digits"

def scanVersion (c : Cursor) : Outcome (Directive × Cursor) := do
  let (major, c) ← scanNumber c.skipSpaces
  if c.peek ≠ 46 then malformed "a version has two parts"
  else
    let (_, c) ← scanNumber c.next
    if isSpaceOrEnd c.peek then .ok (.version major, c)
    else malformed "a version is followed by a space"

def scanTagHandle (fuel : Nat) (c : Cursor) : Outcome (Directive × Cursor) := do
  let (handle, c) ← scanHandle c.skipSpaces
  if c.peek ≠ 32 then malformed "a tag handle is followed by a space"
  else
    let (beginning, c) ← scanUri fuel c.skipSpaces
    if isSpaceOrEnd c.peek then .ok (.tag handle beginning, c)
    else malformed "a tag directive ends with its value"

def scanLineEnd (c : Cursor) : Outcome Cursor :=
  let c := c.skipSpaces.skipComment
  match c.lineBreak? with
  | some (_, c) => .ok c
  | none => if c.peek = ending then .ok c else malformed "a line goes on where it should end"

def scanDirective (fuel : Nat) (c : Cursor) : Outcome (Directive × Cursor) := do
  let (name, c) := c.next.span isNamePoint
  if name.isEmpty || !isSpaceOrEnd c.peek then malformed "a directive needs a name"
  else
    let (directive, c) ←
      if name = "YAML" then scanVersion c
      else if name = "TAG" then scanTagHandle fuel c
      else .ok (.reserved, c.skip (!isBreak ·))
    let c ← scanLineEnd c
    .ok (directive, c)

end Cursor

end Converge.Yaml

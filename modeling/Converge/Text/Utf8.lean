import Converge.Text.Basic

/-!
This module contains the reading of UTF-8 octets as a `Text` and the writing of a `Text` as octets.
Reading is strict: overlong forms, surrogates and truncated sequences are refused.
-/

namespace Converge.Utf8

def tail? (b : UInt8) : Option Nat :=
  if 0x80 ≤ b.toNat && b.toNat ≤ 0xBF then some (b.toNat - 0x80) else none

def assemble? (least c : Nat) : Option Nat :=
  -- `least` is the smallest code point that needs that many octets
  if least ≤ c && c ≤ 0x10FFFF && !(0xD800 ≤ c && c ≤ 0xDFFF) then some c else none

def decode? (octets : List UInt8) : Option Text :=
  go [] octets
where
  go (points : List Nat) : List UInt8 → Option Text
    | [] => some ⟨points.reverse⟩
    | a :: rest =>
      if a.toNat < 0x80 then
        go (a.toNat :: points) rest
      else if 0xC2 ≤ a.toNat && a.toNat ≤ 0xDF then
        match rest with
        | b :: rest =>
          match tail? b with
          | some b => go (((a.toNat - 0xC0) * 64 + b) :: points) rest
          | none => none
        | [] => none
      else if 0xE0 ≤ a.toNat && a.toNat ≤ 0xEF then
        match rest with
        | b :: c :: rest =>
          match tail? b, tail? c with
          | some b, some c =>
            match assemble? 0x800 (((a.toNat - 0xE0) * 64 + b) * 64 + c) with
            | some p => go (p :: points) rest
            | none => none
          | _, _ => none
        | _ => none
      else if 0xF0 ≤ a.toNat && a.toNat ≤ 0xF4 then
        match rest with
        | b :: c :: d :: rest =>
          match tail? b, tail? c, tail? d with
          | some b, some c, some d =>
            match assemble? 0x10000 ((((a.toNat - 0xF0) * 64 + b) * 64 + c) * 64 + d) with
            | some p => go (p :: points) rest
            | none => none
          | _, _, _ => none
        | _ => none
      else
        none

def encodePoint (c : Nat) : List UInt8 :=
  -- a surrogate is written like any other code point of its size
  if c < 0x80 then
    [c.toUInt8]
  else if c < 0x800 then
    [(0xC0 + c / 64).toUInt8, (0x80 + c % 64).toUInt8]
  else if c < 0x10000 then
    [(0xE0 + c / 4096).toUInt8, (0x80 + c / 64 % 64).toUInt8, (0x80 + c % 64).toUInt8]
  else
    [(0xF0 + c / 262144).toUInt8, (0x80 + c / 4096 % 64).toUInt8, (0x80 + c / 64 % 64).toUInt8,
      (0x80 + c % 64).toUInt8]

def encode (t : Text) : List UInt8 :=
  t.points.flatMap encodePoint

end Converge.Utf8

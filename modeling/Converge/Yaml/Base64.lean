/-!
This module contains the reading of base 64. Characters outside of the alphabet are passed over.
-/

namespace Converge.Yaml.Base64

def sextet? (c : Nat) : Option Nat :=
  if 65 ≤ c && c ≤ 90 then some (c - 65)
  else if 97 ≤ c && c ≤ 122 then some (c - 71)
  else if 48 ≤ c && c ≤ 57 then some (c + 4)
  else if c = 43 then some 62
  else if c = 47 then some 63
  else none

/--
The state inside a group of four characters: how many of them there were, the bits that they left
over, and the padding seen since the last one.
-/
structure Group where
  position : Nat := 0
  left : Nat := 0
  padding : Nat := 0

def decode? (cs : List Nat) : Option (List UInt8) :=
  go {} [] cs
where
  go (g : Group) (octets : List UInt8) : List Nat → Option (List UInt8)
    | [] => if g.position = 0 then some octets.reverse else none
    | c :: cs =>
      if c = 61 then
        if 2 ≤ g.position then
          if 4 ≤ g.position + g.padding + 1 then some octets.reverse
          else go { g with padding := g.padding + 1 } octets cs
        else
          go g octets cs
      else
        match sextet? c, g.position with
        | none, _ => go g octets cs
        | some s, 0 => go { position := 1, left := s } octets cs
        | some s, 1 =>
          go { position := 2, left := s % 16 } ((g.left * 4 + s / 16).toUInt8 :: octets) cs
        | some s, 2 =>
          go { position := 3, left := s % 4 } ((g.left * 16 + s / 4).toUInt8 :: octets) cs
        | some s, _ => go {} ((g.left * 64 + s).toUInt8 :: octets) cs

end Converge.Yaml.Base64

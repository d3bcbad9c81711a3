/-! Byte strings: keys, values and everything that crosses a socket. -/

namespace ClusterKv

/-- A sequence of octets. -/
abbrev Bytes := List UInt8

/-- The UTF-8 octets of a text. -/
def Bytes.ofString (s : String) : Bytes := s.toUTF8.toList

/-- The text that a byte string spells, if it is UTF-8. -/
def Bytes.toString? (bytes : Bytes) : Option String := String.fromUTF8? (ByteArray.mk bytes.toArray)

/-- The decimal digits of a number, as octets. -/
def Bytes.ofDecimal (n : Nat) : Bytes := ofString (toString n)

/-- The two hexadecimal digits of each octet, lower case. -/
def Bytes.toHex (bytes : Bytes) : String :=
  String.ofList (bytes.flatMap fun b => [Nat.digitChar (b.toNat / 16), Nat.digitChar (b.toNat % 16)])

/-- The value of a hexadecimal digit of either case. -/
def hexDigit? (c : Char) : Option Nat :=
  if '0' ≤ c ∧ c ≤ '9' then some (c.toNat - '0'.toNat)
  else if 'a' ≤ c ∧ c ≤ 'f' then some (c.toNat - 'a'.toNat + 10)
  else if 'A' ≤ c ∧ c ≤ 'F' then some (c.toNat - 'A'.toNat + 10)
  else none

/-- The octets that pairs of hexadecimal digits spell. -/
def Bytes.ofHex? (digits : List Char) : Option Bytes := go digits []
where
  /-- Adds octets to those before them, last first. -/
  go : List Char → Bytes → Option Bytes
    | [], before => some before.reverse
    | a :: b :: rest, before =>
      match hexDigit? a, hexDigit? b with
      | some a, some b => go rest ((a * 16 + b).toUInt8 :: before)
      | _, _ => none
    | [_], _ => none

end ClusterKv

import ClusterKv.Bytes

/-! UTF-8: reading a text, and where and how a byte string stops being one. -/

namespace ClusterKv.Utf8

/-- The first octets that belong to no character. -/
structure Fault where
  /-- How many octets before them are a text. -/
  index : Nat
  /-- How many octets are at fault; nothing if the byte string ends inside a character. -/
  length : Option Nat
deriving DecidableEq, Repr

/-- The bounds of the octet that may follow a leading octet, and how many octets come after that
one. -/
def following (lead : UInt8) : Option (UInt8 × UInt8 × Nat) :=
  if 0xC2 ≤ lead ∧ lead ≤ 0xDF then some (0x80, 0xBF, 0)
  else if lead = 0xE0 then some (0xA0, 0xBF, 1)
  else if lead = 0xED then some (0x80, 0x9F, 1)
  else if 0xE1 ≤ lead ∧ lead ≤ 0xEF then some (0x80, 0xBF, 1)
  else if lead = 0xF0 then some (0x90, 0xBF, 2)
  else if 0xF1 ≤ lead ∧ lead ≤ 0xF3 then some (0x80, 0xBF, 2)
  else if lead = 0xF4 then some (0x80, 0x8F, 2)
  else none

/-- Checks that `count` continuation octets come next; `seen` octets of the character were read. -/
def continuation (index seen : Nat) : Nat → Bytes → Except Fault Bytes
  | 0, rest => .ok rest
  | _ + 1, [] => .error ⟨index, none⟩
  | count + 1, octet :: rest =>
    if 0x80 ≤ octet ∧ octet ≤ 0xBF then continuation index (seen + 1) count rest
    else .error ⟨index, some seen⟩

/-- The first fault from an index on, with one unit of fuel for each character. -/
def firstFault (index : Nat) : Nat → Bytes → Option Fault
  | 0, _ => none
  | _, [] => none
  | fuel + 1, lead :: rest =>
    if lead < 0x80 then firstFault (index + 1) fuel rest
    else
      match following lead, rest with
      | none, _ => some ⟨index, some 1⟩
      | some _, [] => some ⟨index, none⟩
      | some (least, most, count), second :: rest =>
        if least ≤ second ∧ second ≤ most then
          match continuation index 2 count rest with
          | .error fault => some fault
          | .ok rest => firstFault (index + 2 + count) fuel rest
        else some ⟨index, some 1⟩

/-- The fault of a byte string that is not a text. -/
def fault (bytes : Bytes) : Fault := (firstFault 0 bytes.length bytes).getD ⟨0, none⟩

/-- The fault in words. -/
def Fault.message (f : Fault) : String :=
  match f.length with
  | some n => s!"invalid utf-8 sequence of {n} bytes from index {f.index}"
  | none => s!"incomplete utf-8 byte sequence from index {f.index}"

/-- The text that a byte string spells. -/
def decode (bytes : Bytes) : Except Fault String :=
  match Bytes.toString? bytes with
  | some text => .ok text
  | none => .error (fault bytes)

/-- The text nearest to a byte string, with one unit of fuel for each fault: the mark for what
cannot be read stands in for the octets at fault. -/
def decodeLossyLoop : Nat → Bytes → String
  | 0, _ => ""
  | fuel + 1, bytes =>
    match decode bytes with
    | .ok text => text
    | .error fault =>
      let before := (Bytes.toString? (bytes.take fault.index)).getD ""
      let rest := fault.length.elim [] fun length => bytes.drop (fault.index + length)
      before ++ "\ufffd" ++ decodeLossyLoop fuel rest

@[inherit_doc decodeLossyLoop]
def decodeLossy (bytes : Bytes) : String := decodeLossyLoop (bytes.length + 1) bytes

end ClusterKv.Utf8

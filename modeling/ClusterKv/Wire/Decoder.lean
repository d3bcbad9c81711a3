import ClusterKv.Text.Utf8

/-! The elements of the wire encoding: words with the least octet first, byte strings and texts
after their length, options after an octet, and choices after their number. -/

namespace ClusterKv.Wire

/-- Why an encoding cannot be read. -/
inductive Malformed where
  | cutShort
  /-- A text that is longer than what is left. -/
  | textCutShort
  | notText (fault : Utf8.Fault)
  /-- A choice beyond the last one. -/
  | choice (number count : Nat)
  /-- An option neither absent nor present. -/
  | presence (octet : Nat)
deriving DecidableEq, Repr

def Malformed.message : Malformed → String
  | cutShort => "io error: unexpected end of file"
  | textCutShort => "io error: "
  | notText fault => "string is not valid utf8: " ++ fault.message
  | choice number count =>
    s!"invalid value: integer `{number}`, expected variant index 0 <= i < {count}"
  | presence octet => s!"tag for enum is not valid, found {octet}"

/-- Takes a value off the front of a byte string. -/
def Decoder (α : Type) := Bytes → Except Malformed (α × Bytes)

namespace Decoder

/-- Reads one value after another. -/
def andThen {α β : Type} (read : Decoder α) (next : α → Decoder β) : Decoder β := fun bytes =>
  match read bytes with
  | .error fault => .error fault
  | .ok (a, rest) => next a rest

instance : Monad Decoder where
  pure a := fun bytes => .ok (a, bytes)
  bind := andThen

/-- Gives up. -/
def fail {α : Type} (fault : Malformed) : Decoder α := fun _ => .error fault

theorem pure_run {α : Type} (a : α) (bytes : Bytes) :
    (pure a : Decoder α) bytes = .ok (a, bytes) := rfl

theorem bind_run_ok {α β : Type} {read : Decoder α} {next : α → Decoder β} {bytes rest : Bytes}
    {a : α} (h : read bytes = .ok (a, rest)) : (read >>= next) bytes = next a rest := by
  change andThen read next bytes = _
  simp only [andThen, h]

end Decoder

/-- The lowest octets of a number, the least first. -/
def littleEndian : Nat → Nat → Bytes
  | 0, _ => []
  | width + 1, n => n.toUInt8 :: littleEndian width (n / 256)

/-- The number that octets spell, the least first. -/
def ofLittleEndian : Bytes → Nat
  | [] => 0
  | octet :: rest => octet.toNat + 256 * ofLittleEndian rest

/-- Takes octets. -/
def takeOctets (short : Malformed) (count : Nat) : Decoder Bytes := fun bytes =>
  if count ≤ bytes.length then .ok (bytes.take count, bytes.drop count) else .error short

/-- Reads a number of so many octets. -/
def readWord (width : Nat) : Decoder Nat := do
  return ofLittleEndian (← takeOctets .cutShort width)

def write16 (n : UInt16) : Bytes := littleEndian 2 n.toNat

def write32 (n : UInt32) : Bytes := littleEndian 4 n.toNat

def write64 (n : UInt64) : Bytes := littleEndian 8 n.toNat

def read16 : Decoder UInt16 := do return (← readWord 2).toUInt16

def read32 : Decoder UInt32 := do return (← readWord 4).toUInt32

def read64 : Decoder UInt64 := do return (← readWord 8).toUInt64

/-- Writes a byte string after its length. -/
def writeBytes (bytes : Bytes) : Bytes := littleEndian 8 bytes.length ++ bytes

def readBytes : Decoder Bytes := do takeOctets .cutShort (← readWord 8)

def writeText (text : String) : Bytes := writeBytes (Bytes.ofString text)

def readText : Decoder String := do
  match Utf8.decode (← takeOctets .textCutShort (← readWord 8)) with
  | .ok text => return text
  | .error fault => .fail (.notText fault)

/-- Writes an optional value after an octet that says whether it is there. -/
def writeOption {α : Type} (write : α → Bytes) : Option α → Bytes
  | none => [0]
  | some a => 1 :: write a

def readOption {α : Type} (read : Decoder α) : Decoder (Option α) := do
  match ← readWord 1 with
  | 0 => return none
  | 1 => return some (← read)
  | octet => .fail (.presence octet)

/-- Writes the number of a choice. -/
def writeChoice (number : Nat) : Bytes := littleEndian 4 number

/-- Reads the number of a choice among several, and goes on with what was chosen. -/
def readChoice {α : Type} (choices : List (Decoder α)) : Decoder α := do
  let number ← readWord 4
  match choices[number]? with
  | some read => read
  | none => .fail (.choice number choices.length)

end ClusterKv.Wire

import ClusterKv.Wire.Codec

/-! Frames: the encoding of one message after its length, four octets with the greatest first. -/

namespace ClusterKv.Wire

/-- The longest encoding: 32 MiB. -/
abbrev maxFrameLength : Nat := 32 * 1024 * 1024

/-- Why no frame could be read. -/
inductive FrameFault where
  | tooLong (length : Nat)
  /-- The stream ends inside the frame. -/
  | cutShort
  | malformed (fault : Malformed)
deriving DecidableEq, Repr

def FrameFault.message : FrameFault → String
  | tooLong length => s!"frame of {length} bytes exceeds limit"
  | cutShort => "early eof"
  | malformed fault => fault.message

/-- The kind of a fault among those of input and output. -/
def FrameFault.kind : FrameFault → String
  | tooLong _ | malformed _ => "InvalidData"
  | cutShort => "UnexpectedEof"

/-- What a stream holds next. -/
inductive FrameRead (α : Type) where
  /-- A message. What follows the message inside its frame does not matter. -/
  | message (message : α) (rest : Bytes)
  /-- The end. -/
  | ended
  | failed (fault : FrameFault) (rest : Bytes)
deriving DecidableEq, Repr

/-- Reads the next frame. A stream that ends before four octets have come ends cleanly. -/
def readFrame {α : Type} (read : Decoder α) (bytes : Bytes) : FrameRead α :=
  match bytes with
  | a :: b :: c :: d :: rest =>
    let length := ofLittleEndian [d, c, b, a]
    if length > maxFrameLength then .failed (.tooLong length) rest
    else if rest.length < length then .failed .cutShort []
    else match read (rest.take length) with
      | .error fault => .failed (.malformed fault) (rest.drop length)
      | .ok (message, _) => .message message (rest.drop length)
  | _ => .ended

/-- Reads frames to the end or to the first fault, with one unit of fuel for each. -/
def readFramesLoop {α : Type} (read : Decoder α) : Nat → Bytes → List α × Option FrameFault × Bytes
  | 0, bytes => ([], none, bytes)
  | fuel + 1, bytes =>
    match readFrame read bytes with
    | .ended => ([], none, [])
    | .failed fault rest => ([], some fault, rest)
    | .message message rest =>
      let (messages, last) := readFramesLoop read fuel rest
      (message :: messages, last)

/-- The messages of a stream, the fault that stopped it, and the octets left unread. -/
def readFrames {α : Type} (read : Decoder α) (bytes : Bytes) :
    List α × Option FrameFault × Bytes :=
  readFramesLoop read (bytes.length + 1) bytes

/-- What holds an encoding: its length, and itself. -/
def framed (encoding : Bytes) : Bytes := (littleEndian 4 encoding.length).reverse ++ encoding

/-- The frame of an encoding, unless it is too long. -/
def frame? (encoding : Bytes) : Option Bytes :=
  if encoding.length ≤ maxFrameLength then some (framed encoding) else none

/-- Why a frame could not be written. -/
inductive WriteFault where
  | tooLarge
deriving DecidableEq, Repr

def WriteFault.message : WriteFault → String
  | tooLarge => "frame too large"

@[inherit_doc FrameFault.kind]
def WriteFault.kind : WriteFault → String
  | tooLarge => "InvalidInput"

/-- Writes the frame of an encoding behind what has been written. One that is too long leaves
nothing there. -/
def writeFrame (written encoding : Bytes) : Except WriteFault Unit × Bytes :=
  match frame? encoding with
  | some frame => (.ok (), written ++ frame)
  | none => (.error .tooLarge, written)

/-- Writes one encoding after another, whatever becomes of each. -/
def writeFrames (written : Bytes) : List Bytes → List (Except WriteFault Unit) × Bytes
  | [] => ([], written)
  | encoding :: rest =>
    let (result, written) := writeFrame written encoding
    let (results, written) := writeFrames written rest
    (result :: results, written)

end ClusterKv.Wire

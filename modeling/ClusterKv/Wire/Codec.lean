import ClusterKv.Operation
import ClusterKv.Wire.Decoder

/-! The messages between clients and nodes, and their encoding: fields in order, nothing between
them. -/

namespace ClusterKv

/-- What a client sends: one greeting, then requests. -/
inductive ClientMessage where
  | hello (bucket password : String)
  | request (request : Request)
deriving DecidableEq, Repr

/-- What a node sends: the answer to the greeting, then responses. -/
inductive ServerMessage where
  | welcome (node : String)
  | rejected (reason : String)
  | response (response : Response)
deriving DecidableEq, Repr

namespace Wire

def writeStoreMode : StoreMode → Bytes
  | .set => writeChoice 0
  | .add => writeChoice 1
  | .replace => writeChoice 2

def readStoreMode : Decoder StoreMode := readChoice [pure .set, pure .add, pure .replace]

def writeConcatMode : ConcatMode → Bytes
  | .append => writeChoice 0
  | .prepend => writeChoice 1

def readConcatMode : Decoder ConcatMode := readChoice [pure .append, pure .prepend]

def writeDirection : CounterDirection → Bytes
  | .increment => writeChoice 0
  | .decrement => writeChoice 1

def readDirection : Decoder CounterDirection := readChoice [pure .increment, pure .decrement]

def writeOperation : Operation → Bytes
  | .get key => writeChoice 0 ++ writeBytes key
  | .getAndTouch key expiry => writeChoice 1 ++ writeBytes key ++ write32 expiry
  | .getAndLock key lockSeconds => writeChoice 2 ++ writeBytes key ++ write32 lockSeconds
  | .unlock key cas => writeChoice 3 ++ writeBytes key ++ write64 cas
  | .store mode key value flags expiry cas =>
    writeChoice 4 ++ writeStoreMode mode ++ writeBytes key ++ writeBytes value ++ write32 flags
      ++ write32 expiry ++ writeOption write64 cas
  | .concat mode key value cas =>
    writeChoice 5 ++ writeConcatMode mode ++ writeBytes key ++ writeBytes value
      ++ writeOption write64 cas
  | .counter direction key delta initial expiry =>
    writeChoice 6 ++ writeDirection direction ++ writeBytes key ++ write64 delta
      ++ writeOption write64 initial ++ write32 expiry
  | .delete key cas => writeChoice 7 ++ writeBytes key ++ writeOption write64 cas
  | .touch key expiry => writeChoice 8 ++ writeBytes key ++ write32 expiry
  | .flushAll => writeChoice 9

def readOperation : Decoder Operation := readChoice
  [ do return .get (← readBytes),
    do return .getAndTouch (← readBytes) (← read32),
    do return .getAndLock (← readBytes) (← read32),
    do return .unlock (← readBytes) (← read64),
    do return .store (← readStoreMode) (← readBytes) (← readBytes) (← read32) (← read32)
        (← readOption read64),
    do return .concat (← readConcatMode) (← readBytes) (← readBytes) (← readOption read64),
    do return .counter (← readDirection) (← readBytes) (← read64) (← readOption read64)
        (← read32),
    do return .delete (← readBytes) (← readOption read64),
    do return .touch (← readBytes) (← read32),
    pure .flushAll ]

def writeStatus : Status → Bytes
  | .success => writeChoice 0
  | .keyNotFound => writeChoice 1
  | .keyExists => writeChoice 2
  | .notStored => writeChoice 3
  | .valueTooLarge => writeChoice 4
  | .deltaBadValue => writeChoice 5
  | .locked => writeChoice 6
  | .invalidArguments => writeChoice 7
  | .notMyPartition => writeChoice 8
  | .temporaryFailure => writeChoice 9

def readStatus : Decoder Status := readChoice (Status.all.map pure)

def writeRequest (request : Request) : Bytes :=
  write64 request.opaqueId ++ write16 request.partition ++ writeOperation request.operation

def readRequest : Decoder Request := do return ⟨← read64, ← read16, ← readOperation⟩

def writeResponse (response : Response) : Bytes :=
  write64 response.opaqueId ++ writeStatus response.status ++ write64 response.cas
    ++ write32 response.flags ++ writeOption writeBytes response.value
    ++ writeOption write64 response.counter

def readResponse : Decoder Response := do
  return ⟨← read64, ← readStatus, ← read64, ← read32, ← readOption readBytes,
    ← readOption read64⟩

end Wire

def ClientMessage.write : ClientMessage → Bytes
  | hello bucket password =>
    Wire.writeChoice 0 ++ Wire.writeText bucket ++ Wire.writeText password
  | request r => Wire.writeChoice 1 ++ Wire.writeRequest r

def ClientMessage.read : Wire.Decoder ClientMessage := Wire.readChoice
  [ do return .hello (← Wire.readText) (← Wire.readText),
    do return .request (← Wire.readRequest) ]

def ServerMessage.write : ServerMessage → Bytes
  | welcome node => Wire.writeChoice 0 ++ Wire.writeText node
  | rejected reason => Wire.writeChoice 1 ++ Wire.writeText reason
  | response r => Wire.writeChoice 2 ++ Wire.writeResponse r

def ServerMessage.read : Wire.Decoder ServerMessage := Wire.readChoice
  [ do return .welcome (← Wire.readText),
    do return .rejected (← Wire.readText),
    do return .response (← Wire.readResponse) ]

end ClusterKv

import ClusterKv.Bytes

/-! What can be asked of a node, and what it answers. -/

namespace ClusterKv

inductive StoreMode where
  | set
  | add
  | replace
deriving DecidableEq, Repr, Inhabited

/-- The name of a mode in documents. -/
def StoreMode.label : StoreMode → String
  | set => "Set"
  | add => "Add"
  | replace => "Replace"

inductive ConcatMode where
  | append
  | prepend
deriving DecidableEq, Repr, Inhabited

@[inherit_doc StoreMode.label]
def ConcatMode.label : ConcatMode → String
  | append => "Append"
  | prepend => "Prepend"

inductive CounterDirection where
  | increment
  | decrement
deriving DecidableEq, Repr, Inhabited

@[inherit_doc StoreMode.label]
def CounterDirection.label : CounterDirection → String
  | increment => "Increment"
  | decrement => "Decrement"

/-- One operation. Expiry and lock times are in seconds; an expiry of zero means never. -/
inductive Operation where
  | get (key : Bytes)
  | getAndTouch (key : Bytes) (expiry : UInt32)
  | getAndLock (key : Bytes) (lockSeconds : UInt32)
  | unlock (key : Bytes) (cas : UInt64)
  | store (mode : StoreMode) (key value : Bytes) (flags expiry : UInt32) (cas : Option UInt64)
  | concat (mode : ConcatMode) (key value : Bytes) (cas : Option UInt64)
  | counter (direction : CounterDirection) (key : Bytes) (delta : UInt64)
      (initial : Option UInt64) (expiry : UInt32)
  | delete (key : Bytes) (cas : Option UInt64)
  | touch (key : Bytes) (expiry : UInt32)
  /-- Drops every item of a node. -/
  | flushAll
deriving DecidableEq, Repr, Inhabited

/-- The verbs by which operations are known. -/
inductive Verb where
  | get
  | getAndTouch
  | getAndLock
  | unlock
  | set
  | add
  | replace
  | cas
  | append
  | prepend
  | increment
  | decrement
  | delete
  | touch
  | flushAll
deriving DecidableEq, Repr

/-- The verb in the command language. -/
def Verb.text : Verb → String
  | get => "get"
  | getAndTouch => "gat"
  | getAndLock => "getl"
  | unlock => "unlock"
  | set => "set"
  | add => "add"
  | replace => "replace"
  | cas => "cas"
  | append => "append"
  | prepend => "prepend"
  | increment => "incr"
  | decrement => "decr"
  | delete => "delete"
  | touch => "touch"
  | flushAll => "flush_all"

/-- The verb in logs: its short form in capital letters. -/
def Verb.label : Verb → String
  | get => "Get"
  | getAndTouch => "Gat"
  | getAndLock => "Getl"
  | unlock => "Unlock"
  | set => "Set"
  | add => "Add"
  | replace => "Replace"
  | cas => "Cas"
  | append => "Append"
  | prepend => "Prepend"
  | increment => "Incr"
  | decrement => "Decr"
  | delete => "Delete"
  | touch => "Touch"
  | flushAll => "FlushAll"

/-- What a node says about a request. Only `notMyPartition` concerns routing, and only
`temporaryFailure` asks for another try; the rest are definitive. -/
inductive Status where
  | success
  | keyNotFound
  /-- The key exists already, or the cas is another. -/
  | keyExists
  | notStored
  | valueTooLarge
  | deltaBadValue
  | locked
  | invalidArguments
  | notMyPartition
  | temporaryFailure
deriving DecidableEq, Repr, Inhabited

/-- The name of a status in documents. -/
def Status.label : Status → String
  | success => "Success"
  | keyNotFound => "KeyNotFound"
  | keyExists => "KeyExists"
  | notStored => "NotStored"
  | valueTooLarge => "ValueTooLarge"
  | deltaBadValue => "DeltaBadValue"
  | locked => "Locked"
  | invalidArguments => "InvalidArguments"
  | notMyPartition => "NotMyPartition"
  | temporaryFailure => "TemporaryFailure"

/-- Every status, in the order of the numbers that stand for them on the wire. -/
def Status.all : List Status :=
  [success, keyNotFound, keyExists, notStored, valueTooLarge, deltaBadValue, locked,
    invalidArguments, notMyPartition, temporaryFailure]

def Status.isSuccess (status : Status) : Bool := status = .success

def Status.text : Status → String
  | success => "success"
  | keyNotFound => "key not found"
  | keyExists => "key exists or cas mismatch"
  | notStored => "item not stored"
  | valueTooLarge => "value too large"
  | deltaBadValue => "counter value is not numeric"
  | locked => "item is locked"
  | invalidArguments => "invalid arguments"
  | notMyPartition => "node does not own partition"
  | temporaryFailure => "temporary failure"

/-- An operation on its way to a node. The answer carries the same `opaqueId`. -/
structure Request where
  opaqueId : UInt64
  partition : UInt16
  operation : Operation
deriving DecidableEq, Repr, Inhabited

/-- The answer of a node. -/
structure Response where
  opaqueId : UInt64
  status : Status
  cas : UInt64
  flags : UInt32
  value : Option Bytes
  counter : Option UInt64
deriving DecidableEq, Repr, Inhabited

namespace Response

/-- An answer that says nothing but its status. -/
def ofStatus (opaqueId : UInt64) (status : Status) : Response := ⟨opaqueId, status, 0, 0, none, none⟩

/-- A success with a cas. -/
def success (opaqueId : UInt64) (cas : UInt64) : Response :=
  { ofStatus opaqueId .success with cas }

end Response

/-- What a successful operation gives its caller. -/
inductive Reply where
  | value (value : Bytes) (flags : UInt32) (cas : UInt64)
  | mutation (cas : UInt64)
  | counter (value : UInt64) (cas : UInt64)
deriving DecidableEq, Repr

def Reply.cas : Reply → UInt64
  | value _ _ cas | mutation cas | counter _ cas => cas

namespace Operation

def verb : Operation → Verb
  | get .. => .get
  | getAndTouch .. => .getAndTouch
  | getAndLock .. => .getAndLock
  | unlock .. => .unlock
  | store .set _ _ _ _ (some _) => .cas
  | store .set .. => .set
  | store .add .. => .add
  | store .replace .. => .replace
  | concat .append .. => .append
  | concat .prepend .. => .prepend
  | counter .increment .. => .increment
  | counter .decrement .. => .decrement
  | delete .. => .delete
  | touch .. => .touch
  | flushAll => .flushAll

/-- The key of the item, unless the operation is about a whole node. -/
def key? : Operation → Option Bytes
  | get key | getAndTouch key _ | getAndLock key _ | unlock key _ | store _ key _ _ _ _
  | concat _ key _ _ | counter _ key _ _ _ | delete key _ | touch key _ => some key
  | flushAll => none

/-- The reply that a successful response means for the operation. -/
def reply (operation : Operation) (response : Response) : Reply :=
  match operation with
  | get .. | getAndTouch .. | getAndLock .. =>
    .value (response.value.getD []) response.flags response.cas
  | counter .. => .counter (response.counter.getD 0) response.cas
  | _ => .mutation response.cas

end Operation

/-- What one attempt came to. -/
inductive Outcome where
  | success (reply : Reply)
  /-- The node does not own the partition any more. -/
  | routingStale (partition : UInt16)
  /-- The connection broke or could not be made. -/
  | connectionFault (reason : String)
  /-- The node asked for another try later. -/
  | temporaryFailure
  | applicationError (status : Status)
deriving DecidableEq, Repr

/-- What a response to an attempt means. -/
def Outcome.ofResponse (operation : Operation) (partition : UInt16) (response : Response) :
    Outcome :=
  match response.status with
  | .success => .success (operation.reply response)
  | .notMyPartition => .routingStale partition
  | .temporaryFailure => .temporaryFailure
  | status => .applicationError status

end ClusterKv

import ClusterKv.Client.Result
import ClusterKv.Command

/-! What a client can do with one key, and what comes of it. -/

namespace ClusterKv

/-- What may be said of an item that is stored. -/
structure StoreOptions where
  flags : UInt32 := 0
  /-- How long the item lasts; without it, for good. -/
  expiry : Option Duration := none
  /-- The cas of the item that is to be replaced. -/
  cas : Option UInt64 := none
deriving DecidableEq, Repr

/-- What a client can do with one key. -/
inductive KeyCall where
  | get
  | getAndTouch (expiry : Duration)
  | getAndLock (lock : Duration)
  | unlock (cas : UInt64)
  | store (mode : StoreMode) (value : Bytes) (options : StoreOptions)
  | concat (mode : ConcatMode) (value : Bytes)
  | counter (direction : CounterDirection) (delta : UInt64) (initial : Option UInt64)
  | delete (cas : Option UInt64)
  | touch (expiry : Duration)
deriving DecidableEq, Repr

namespace KeyCall

/-- Stores a value under a key, whatever was there. -/
abbrev set (value : Bytes) : KeyCall := store .set value {}

/-- Stores a value if the key is new. -/
abbrev add (value : Bytes) : KeyCall := store .add value {}

/-- Stores a value if the key is not new. -/
abbrev replace (value : Bytes) : KeyCall := store .replace value {}

/-- Stores a value if the item is still the one of this cas. -/
abbrev exchange (value : Bytes) (cas : UInt64) : KeyCall := store .set value { cas := some cas }

/-- The operation that a call asks of a node. -/
def operation (key : Bytes) : KeyCall → Operation
  | get => .get key
  | getAndTouch expiry => .getAndTouch key (expirySeconds expiry)
  | getAndLock lock => .getAndLock key (expirySeconds lock)
  | unlock cas => .unlock key cas
  | store mode value options =>
    .store mode key value options.flags (expirySeconds options.expiry) options.cas
  | concat mode value => .concat mode key value none
  | counter direction delta initial => .counter direction key delta initial 0
  | delete cas => .delete key cas
  | touch expiry => .touch key (expirySeconds expiry)

theorem key?_operation (call : KeyCall) (key : Bytes) : (call.operation key).key? = some key := by
  cases call <;> rfl

end KeyCall

/-- What comes of a call on one key. -/
inductive KeyResult where
  | found (item : Found)
  | changed (item : Changed)
  | counted (counter : Counted)
deriving DecidableEq, Repr

/-- What the caller is told of a reply: reading gives an item, counting a counter, and the rest a
cas. -/
def KeyCall.result (reply : Reply) : KeyCall → KeyResult
  | get | getAndTouch _ | getAndLock _ => .found reply.toFound
  | counter .. => .counted reply.toCounted
  | unlock _ | store .. | concat .. | delete _ | touch _ => .changed reply.toChanged

end ClusterKv

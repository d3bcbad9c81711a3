import ClusterKv.Error

/-! What client calls give back. -/

namespace ClusterKv

/-- An item that was read. -/
structure Found where
  value : Bytes
  flags : UInt32
  cas : UInt64
deriving DecidableEq, Repr

/-- An item that was changed. -/
structure Changed where
  cas : UInt64
deriving DecidableEq, Repr

/-- A counter that was moved. -/
structure Counted where
  value : UInt64
  cas : UInt64
deriving DecidableEq, Repr

/-- A reply of another kind tells no more than its cas. -/
def Reply.toFound : Reply → Found
  | value v flags cas => ⟨v, flags, cas⟩
  | reply => ⟨[], 0, reply.cas⟩

def Reply.toChanged (reply : Reply) : Changed := ⟨reply.cas⟩

@[inherit_doc Reply.toFound]
def Reply.toCounted : Reply → Counted
  | counter v cas => ⟨v, cas⟩
  | reply => ⟨0, reply.cas⟩

/-- What became of each key of a call with many keys, in the order of submission. -/
structure MultiResult (α : Type) where
  entries : List (Bytes × Except Error α)

namespace MultiResult

variable {α : Type}

/-- What became of a key, the first time it was given. -/
def get? (result : MultiResult α) (key : Bytes) : Option (Except Error α) :=
  (result.entries.find? (·.1 = key)).map (·.2)

def size (result : MultiResult α) : Nat := result.entries.length

/-- How many keys went well. -/
def successCount (result : MultiResult α) : Nat := result.entries.countP (·.2.isOk)

/-- The keys that failed, and why. -/
def failures (result : MultiResult α) : List (Bytes × Error) :=
  result.entries.filterMap fun
    | (key, .error error) => some (key, error)
    | (_, .ok _) => none

end MultiResult

end ClusterKv

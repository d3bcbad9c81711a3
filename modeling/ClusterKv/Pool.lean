import ClusterKv.Assoc
import ClusterKv.Error

/-! The connections of a client, one for each node.

A caller who needs a connection takes the one there is, or connects, or waits for whoever is
connecting. The pool knows connections by their generation; whether one is alive it is told. -/

namespace ClusterKv

/-- Who may connect to a node. -/
inductive Creation where
  | idle
  /-- A caller may go on, but has not yet. -/
  | granted (caller : Nat)
  /-- A caller is connecting. -/
  | dialing (caller generation : Nat)
deriving DecidableEq, Repr

/-- What the pool knows of a node. -/
structure Slot where
  /-- The connection held. -/
  current : Option Nat := none
  creation : Creation := .idle
  /-- The callers behind the one who may connect, first come first served. -/
  queue : List Nat := []
deriving DecidableEq, Repr

structure Pool where
  slots : Assoc NodeId Slot := []
  /-- The generation of the next connection. Like the numbers of attempts it goes on beyond
  `2 ^ 64 - 1`, where a count of 64 bits starts over. -/
  nextGeneration : Nat := 1
  closed : Bool := false
deriving DecidableEq, Repr

/-- What a caller who needs a connection is told. -/
inductive Lease where
  /-- Here is one. -/
  | ready (generation : Nat)
  /-- Connect, under this generation. -/
  | dial (generation : Nat)
  /-- Wait for your turn. -/
  | wait
  | refused (error : ConnectionError)
deriving DecidableEq, Repr

namespace Pool

def slot (pool : Pool) (node : NodeId) : Slot := (pool.slots.get? node).getD {}

def setSlot (pool : Pool) (node : NodeId) (slot : Slot) : Pool :=
  { pool with slots := pool.slots.put node slot }

/-- Forgets a connection that is dead. -/
def Slot.prune (alive : Nat → Bool) (slot : Slot) : Slot :=
  { slot with current := slot.current.filter alive }

/-- Lets the next caller go on. -/
def Slot.release (slot : Slot) : Slot :=
  match slot.queue with
  | [] => { slot with creation := .idle }
  | caller :: queue => { slot with creation := .granted caller, queue }

/-- Goes on for a caller whose turn it is to connect. -/
def enter (pool : Pool) (alive : Nat → Bool) (caller : Nat) (node : NodeId) : Pool × Lease :=
  let slot := Slot.prune alive (pool.slot node)
  match slot.current with
  | some generation => (pool.setSlot node (Slot.release slot), .ready generation)
  | none =>
    if pool.closed then (pool.setSlot node (Slot.release slot), .refused .poolClosed)
    else
      let generation := pool.nextGeneration
      ({ pool with nextGeneration := generation + 1 }.setSlot node
        { slot with creation := .dialing caller generation }, .dial generation)

/-- Starts for a caller who needs a connection. -/
def acquire (pool : Pool) (alive : Nat → Bool) (caller : Nat) (node : NodeId) : Pool × Lease :=
  if pool.closed then (pool, .refused .poolClosed)
  else
    let slot := Slot.prune alive (pool.slot node)
    match slot.current with
    | some generation => (pool.setSlot node slot, .ready generation)
    | none =>
      if slot.creation = .idle then pool.enter alive caller node
      else (pool.setSlot node { slot with queue := slot.queue ++ [caller] }, .wait)

/-- Ends a caller's attempt to connect. A connection that comes after the pool was closed is
closed as well, which the second part says. -/
def dialed (pool : Pool) (node : NodeId) (generation : Nat)
    (result : Except ConnectionError Unit) : Pool × Except ConnectionError Unit × Bool :=
  let slot := pool.slot node
  match result with
  | .error error => (pool.setSlot node (Slot.release slot), .error error, false)
  | .ok () =>
    if pool.closed then (pool.setSlot node (Slot.release slot), .error .poolClosed, true)
    else
      (pool.setSlot node (Slot.release { slot with current := some generation }), .ok (), false)

/-- Forgets the connection to a node, which is to be closed. -/
def invalidate (pool : Pool) (node : NodeId) : Pool × Option Nat :=
  let slot := pool.slot node
  match slot.current with
  | none => (pool, none)
  | some generation => (pool.setSlot node { slot with current := none }, some generation)

/-- Forgets the connection to a node if it is of this generation. -/
def invalidateGeneration (pool : Pool) (node : NodeId) (generation : Nat) : Pool × Option Nat :=
  if (pool.slot node).current = some generation then pool.invalidate node else (pool, none)

/-- Forgets all connections for good, and gives them back to be closed. -/
def closeAll (pool : Pool) : Pool × List (NodeId × Nat) :=
  let held := pool.slots.filterMap fun e => e.2.current.map fun generation => (e.1, generation)
  let slots := pool.slots.map fun e => (e.1, { e.2 with current := none })
  ({ pool with slots, closed := true }, held)

/-- The nodes to which there is a connection that is alive, in the order of their addresses. -/
def connected (pool : Pool) (alive : NodeId → Nat → Bool) : List NodeId :=
  let held := pool.slots.filter fun e => e.2.current.any (alive e.1)
  (held.map (·.1)).mergeSort fun a b => a.address ≤ b.address

/-- The caller whose turn it is at a node, if it has not gone on yet. -/
def granted? (pool : Pool) : Option (NodeId × Nat) :=
  pool.slots.findSome? fun e =>
    match e.2.creation with
    | .granted caller => some (e.1, caller)
    | _ => none

end Pool

end ClusterKv

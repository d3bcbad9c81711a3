import ClusterKv.Cluster.Basic

/-! A cluster does in place what it is told. What has been done before something fails stays done:
the end of a rebalance takes the forward map first, and then moves one partition after another. -/

namespace ClusterKv.Cluster

/-- Something that is done to a cluster, and may fail half-way. -/
abbrev InPlace (α : Type) := ExceptT ClusterFault (StateM Cluster) α

namespace InPlace

/-- What comes of it, and what it leaves behind. -/
def on {α : Type} (deed : InPlace α) (c : Cluster) : Except ClusterFault α × Cluster :=
  (deed.run.run c).run

def checkMove (partition place : Nat) : InPlace Unit := do
  let c ← get
  if partition ≥ c.current.length then throw (.partitionOutOfRange partition)
  else if place ≥ c.nodes.length then throw (.nodeOutOfRange place)
  else pure ()

def moveData (partition place : Nat) : InPlace Unit := do
  let c ← get
  match c.nodes[place]? with
  | none => throw .noSuchNode
  | some target =>
    if target.store.owns partition.toUInt16 then pure ()
    else do
      let (nodes, data) := releaseFirst partition.toUInt16 c.nodes
      modify fun c => { c with nodes }
      modify fun c => { c with
        nodes := c.nodes.modify place fun node =>
          { node with store := node.store.adopt partition.toUInt16 (data.getD []) } }

def headFor : List (Nat × Nat) → List Nat → InPlace (List Nat)
  | [], forward => pure forward
  | (partition, place) :: rest, forward => do
    checkMove partition place
    headFor rest (forward.set partition place)

def beginRebalance (moves : List (Nat × Nat)) : InPlace Unit := do
  let c ← get
  let forward ← headFor moves (c.forward.getD c.current)
  modify fun c => { c with forward := some forward, revision := c.revision + 1 }

def transferPartition (partition : Nat) : InPlace Unit := do
  let c ← get
  match c.forward with
  | none => throw .notRebalancing
  | some forward =>
    match forward[partition]? with
    | none => throw (.partitionOutOfRange partition)
    | some place => moveData partition place

def moveAll : Nat → List Nat → InPlace Unit
  | _, [] => pure ()
  | partition, place :: rest => do
    moveData partition place
    moveAll (partition + 1) rest

def finishRebalance : InPlace Unit := do
  let c ← get
  match c.forward with
  | none => throw .notRebalancing
  | some forward => do
    modify fun c => { c with forward := none }
    moveAll 0 forward
    modify fun c => { c with current := forward, revision := c.revision + 1 }

def movePartition (partition place : Nat) : InPlace Unit := do
  checkMove partition place
  moveData partition place
  modify fun c => { c with
    current := c.current.set partition place
    forward := c.forward.map (·.set partition place)
    revision := c.revision + 1 }

def setUp (index : Nat) (isUp : Bool) : InPlace Unit := do
  let c ← get
  if index < c.nodes.length then
    modify fun c => { c with nodes := c.nodes.modify index fun node => { node with isUp } }
  else throw .noSuchNode

def setAvailable (available : Bool) : InPlace Unit := modify fun c => { c with available }

end InPlace

end ClusterKv.Cluster

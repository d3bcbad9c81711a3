import ClusterKv.Cluster.Node
import ClusterKv.Simulation.Network

/-! A simulated cluster: its nodes, the map it publishes, and how partitions move.

While a rebalance is in progress a forward map is published beside the current one. -/

namespace ClusterKv

/-- What a cluster starts from. -/
structure ClusterSpec where
  nodes : List NodeId
  partitions : Nat := 64
  credentials : Credentials := ⟨"default", ""⟩
  maxValueLength : Nat := Store.defaultMaxValueLength

/-- A cluster of so many nodes with short names. -/
def ClusterSpec.ofCount (count : Nat) : ClusterSpec :=
  { nodes := (List.range count).map fun index => ⟨s!"n{index}"⟩ }

/-- Why a cluster does not start, or does not do what it is told. -/
inductive ClusterFault where
  | noNodes
  | noPartitions
  | partitionOutOfRange (partition : Nat)
  | nodeOutOfRange (index : Nat)
  | noSuchNode
  | notRebalancing
deriving DecidableEq, Repr

def ClusterFault.message : ClusterFault → String
  | noNodes => "a cluster needs at least one node"
  | noPartitions => "a cluster needs at least one partition"
  | partitionOutOfRange partition => s!"partition {partition} out of range"
  | nodeOutOfRange index => s!"node {index} out of range"
  | noSuchNode => "no such node"
  | notRebalancing => "no rebalance in progress"

structure Cluster where
  nodes : List Node
  credentials : Credentials
  /-- The number of the published map. -/
  revision : Nat
  /-- The place of the owner of each partition. -/
  current : List Nat
  /-- Where each partition is headed, while a rebalance is in progress. -/
  forward : Option (List Nat)
  /-- Is the map to be had? -/
  available : Bool := true
deriving DecidableEq, Repr

namespace Cluster

/-- Starts a cluster. The partitions are dealt out to the nodes in turn. -/
def start (spec : ClusterSpec) : Except ClusterFault Cluster :=
  let count := spec.nodes.length
  if count = 0 then .error .noNodes
  else if spec.partitions = 0 then .error .noPartitions
  else
    let current := (List.range spec.partitions).map (· % count)
    let nodes := spec.nodes.mapIdx fun index id =>
      let owned := (List.range spec.partitions).filter (· % count = index)
      { id, credentials := spec.credentials
        store := .ofOwned (owned.map Nat.toUInt16) spec.maxValueLength : Node }
    .ok { nodes, credentials := spec.credentials, revision := 1, current, forward := none }

/-- A single node that owns what it owns; there is no map to speak of. -/
def ofNode (node : Node) : Cluster :=
  { nodes := [node], credentials := node.credentials, revision := 1, current := [], forward := none }

/-- The published table. -/
def table (c : Cluster) : Except Malformation Topology :=
  Topology.ofParts c.revision (c.nodes.map (·.id)) (c.current.map some)
    (c.forward.map (·.map some))

/-- The place of the published owner of a partition. -/
def ownerOf (c : Cluster) (partition : Nat) : Option Nat := c.current[partition]?

/-- Is a move to be had at all? -/
def checkMove (c : Cluster) (partition place : Nat) : Except ClusterFault Unit :=
  if partition ≥ c.current.length then .error (.partitionOutOfRange partition)
  else if place ≥ c.nodes.length then .error (.nodeOutOfRange place)
  else .ok ()

/-- Takes a partition from the first node that owns it. -/
def releaseFirst (partition : UInt16) : List Node → List Node × Option PartitionData
  | [] => ([], none)
  | node :: rest =>
    match node.store.release partition with
    | (store, some data) => ({ node with store } :: rest, some data)
    | (_, none) =>
      let (rest, data) := releaseFirst partition rest
      (node :: rest, data)

/-- Moves a partition with its items, unless it is there already. -/
def moveData (c : Cluster) (partition place : Nat) : Except ClusterFault Cluster :=
  match c.nodes[place]? with
  | none => .error .noSuchNode
  | some target =>
    if target.store.owns partition.toUInt16 then .ok c
    else
      let (nodes, data) := releaseFirst partition.toUInt16 c.nodes
      let nodes := nodes.modify place fun node =>
        { node with store := node.store.adopt partition.toUInt16 (data.getD []) }
      .ok { c with nodes }

/-- Sets where partitions are headed, one after another. -/
def headFor (c : Cluster) : List (Nat × Nat) → List Nat → Except ClusterFault (List Nat)
  | [], forward => .ok forward
  | (partition, place) :: rest, forward =>
    match c.checkMove partition place with
    | .error fault => .error fault
    | .ok () => headFor c rest (forward.set partition place)

/-- Publishes where partitions are headed. Nothing moves yet. -/
def beginRebalance (c : Cluster) (moves : List (Nat × Nat)) : Except ClusterFault Cluster :=
  match c.headFor moves (c.forward.getD c.current) with
  | .error fault => .error fault
  | .ok forward => .ok { c with forward := some forward, revision := c.revision + 1 }

/-- Moves a partition to where it is headed. What is published stays as it is. -/
def transferPartition (c : Cluster) (partition : Nat) : Except ClusterFault Cluster :=
  match c.forward with
  | none => .error .notRebalancing
  | some forward =>
    match forward[partition]? with
    | none => .error (.partitionOutOfRange partition)
    | some place => c.moveData partition place

/-- Moves partitions, counted from the first, one after another. -/
def moveAll (c : Cluster) : Nat → List Nat → Except ClusterFault Cluster
  | _, [] => .ok c
  | partition, place :: rest =>
    match c.moveData partition place with
    | .error fault => .error fault
    | .ok c => moveAll c (partition + 1) rest

/-- Moves every partition to where it is headed, and publishes that. -/
def finishRebalance (c : Cluster) : Except ClusterFault Cluster :=
  match c.forward with
  | none => .error .notRebalancing
  | some forward =>
    match c.moveAll 0 forward with
    | .error fault => .error fault
    | .ok c => .ok { c with current := forward, forward := none, revision := c.revision + 1 }

/-- Moves a partition and publishes the change. -/
def movePartition (c : Cluster) (partition place : Nat) : Except ClusterFault Cluster :=
  match c.checkMove partition place with
  | .error fault => .error fault
  | .ok () =>
    match c.moveData partition place with
    | .error fault => .error fault
    | .ok c =>
      .ok { c with
        current := c.current.set partition place
        forward := c.forward.map (·.set partition place)
        revision := c.revision + 1 }

/-- Stops or restarts a node, which keeps its items. -/
def setUp (c : Cluster) (index : Nat) (isUp : Bool) : Except ClusterFault Cluster :=
  if index < c.nodes.length then
    .ok { c with nodes := c.nodes.modify index fun node => { node with isUp } }
  else .error .noSuchNode

/-- Executes a request on the node of a name. -/
def executeOn (id : NodeId) (request : Request) (now : Instant) :
    List Node → List Node × Response
  | [] => ([], .ofStatus request.opaqueId .notMyPartition)
  | node :: rest =>
    if node.id = id then
      let (node, response) := node.execute request now
      (node :: rest, response)
    else
      let (rest, response) := executeOn id request now rest
      (node :: rest, response)

/-- What comes of asking for the published table. -/
def fetch (c : Cluster) : Except TopologyError Topology :=
  if c.available then c.table.mapError .malformed
  else .error (.unavailable "admin endpoint unavailable")

/-- The network within one process: nothing takes time, and each request is executed as it is
written. -/
def network : Network Cluster where
  dial := fun c id => (c, some (.zero, Node.connect c.nodes c.credentials id))
  isUp := fun c id => c.nodes.any fun node => node.id = id && node.isUp
  write := fun c _ request => (c, { result := .ok [(.zero, .perform request)] })
  perform := fun c id request now =>
    let (nodes, response) := executeOn id request now c.nodes
    ({ c with nodes }, response)
  fetch := fun c => (c, .zero, c.fetch)

end Cluster

end ClusterKv

import ClusterKv.Error

/-! Partition tables: which node owns each partition, and where each partition is headed while a
rebalance moves data. -/

namespace ClusterKv

/-- A snapshot of the ownership of partitions. Both maps hold places in the list of nodes. -/
structure Topology where
  /-- A later table has a greater revision. There is no greatest one, as there is among 64 bits: a
  cluster that counts in these has no table to follow the one of revision `2 ^ 64 - 1`. -/
  revision : Nat
  nodes : List NodeId
  /-- The owner of each partition. -/
  current : List (Option Nat)
  /-- The node each partition is headed to. -/
  forward : Option (List (Option Nat))
deriving DecidableEq, Repr

namespace Topology

/-- The table without partitions. Nothing routes against it. -/
def empty : Topology := ⟨0, [], [], none⟩

instance : Inhabited Topology := ⟨empty⟩

/-- The most partitions that a table can tell apart. -/
abbrev maxPartitions : Nat := 65536

/-- Is every owner in a map one of the first `count` nodes? -/
def WithinNodes (count : Nat) (owners : List (Option Nat)) : Prop :=
  ∀ owner ∈ owners, ∀ place ∈ owner, place < count

instance (count : Nat) (owners : List (Option Nat)) : Decidable (WithinNodes count owners) :=
  inferInstanceAs (Decidable (∀ owner ∈ owners, ∀ place ∈ owner, place < count))

/-- A table of the given parts, if they fit together. -/
def ofParts (revision : Nat) (nodes : List NodeId) (current : List (Option Nat))
    (forward : Option (List (Option Nat))) : Except Malformation Topology :=
  if current.length > maxPartitions then .error (.tooManyPartitions current.length)
  else if ¬ WithinNodes nodes.length current then .error .unknownOwner
  else match forward with
    | none => .ok ⟨revision, nodes, current, none⟩
    | some owners =>
      if owners.length ≠ current.length then
        .error (.forwardLength owners.length current.length)
      else if ¬ WithinNodes nodes.length owners then .error .unknownForwardOwner
      else .ok ⟨revision, nodes, current, some owners⟩

/-- The place of a node in a list, which grows by the node if it is new. -/
def place (nodes : List NodeId) (node : NodeId) : List NodeId × Nat :=
  match nodes.findIdx? (· = node) with
  | some index => (nodes, index)
  | none => (nodes ++ [node], nodes.length)

/-- The places of several nodes, each taken after the list has grown by those before it. -/
def placeAll : List NodeId → List NodeId → List NodeId × List Nat
  | nodes, [] => (nodes, [])
  | nodes, node :: more =>
    let (nodes, index) := place nodes node
    let (nodes, rest) := placeAll nodes more
    (nodes, index :: rest)

/-- The table in which partition `i` belongs to the `i`-th owner. -/
def ofOwners (revision : Nat) (owners : List NodeId) : Topology :=
  let (nodes, places) := placeAll [] owners
  ⟨revision, nodes, places.map some, none⟩

/-- Adds a forward map in which partition `i` is headed to the `i`-th owner. Owners beyond the last
partition are left out, and partitions beyond the last owner are headed nowhere. -/
def withForwardOwners (table : Topology) (owners : List NodeId) : Topology :=
  let count := table.current.length
  let (nodes, places) := placeAll table.nodes (owners.take count)
  { table with
    nodes
    forward := some (places.map some ++ List.replicate (count - places.length) none) }

/-- The node that a map names for a partition. -/
def lookup (nodes : List NodeId) (owners : List (Option Nat)) (partition : UInt16) :
    Option NodeId :=
  match owners[partition.toNat]? with
  | some (some index) => nodes[index]?
  | _ => none

/-- The node that owns a partition. -/
def owner (table : Topology) (partition : UInt16) : Option NodeId :=
  lookup table.nodes table.current partition

/-- The node that a partition is headed to. -/
def forwardOwner (table : Topology) (partition : UInt16) : Option NodeId :=
  table.forward.bind fun owners => lookup table.nodes owners partition

def partitionCount (table : Topology) : Nat := table.current.length

/-- Does every partition, and at least one, have an owner? -/
def isReady (table : Topology) : Bool :=
  !table.current.isEmpty && table.current.all Option.isSome

/-- The partitions that a map gives to a place, counted from `start`. -/
def ownedFrom (index : Nat) : Nat → List (Option Nat) → List UInt16
  | _, [] => []
  | start, owner :: rest =>
    if owner = some index then start.toUInt16 :: ownedFrom index (start + 1) rest
    else ownedFrom index (start + 1) rest

/-- The partitions that a node owns, in ascending order, by the first place that bears its name. -/
def partitionsOf (table : Topology) (node : NodeId) : List UInt16 :=
  match table.nodes.findIdx? (· = node) with
  | some index => ownedFrom index 0 table.current
  | none => []

end Topology

end ClusterKv

import ClusterKv.Crc32
import ClusterKv.Topology.Basic

/-! From a key to its partition and from there to a node. Every client of a cluster hashes alike,
so all agree on where a key lives. -/

namespace ClusterKv

/-- Where a key is to be sent. -/
structure Route where
  partition : UInt16
  node : NodeId
deriving DecidableEq, Repr

/-- The partition of a key: fifteen bits of its checksum, reduced to the number of partitions. -/
def partitionForKey (key : Bytes) (count : Nat) : UInt16 :=
  if count = 0 then 0 else ((crc32 key >>> 16 &&& 0x7FFF).toNat % count).toUInt16

/-- Where a partition is to be sent. The forward map counts only if asked for, and then only where
it has an entry. -/
def resolvePartition (partition : UInt16) (table : Topology) (useForward : Bool) :
    Except RoutingError Route :=
  let ahead := if useForward then table.forwardOwner partition else none
  match ahead.or (table.owner partition) with
  | some node => .ok ⟨partition, node⟩
  | none => .error ⟨partition⟩

/-- Where a key is to be sent. -/
def resolve (key : Bytes) (table : Topology) (useForward : Bool) : Except RoutingError Route :=
  resolvePartition (partitionForKey key table.partitionCount) table useForward

end ClusterKv

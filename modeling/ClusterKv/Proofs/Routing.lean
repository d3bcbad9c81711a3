import ClusterKv.Proofs.Crc32
import ClusterKv.Proofs.Topology.Parts
import ClusterKv.Routing

/-! # Routes of keys

No partition is without keys. Whatever the key, a route leads to a node of the table, and there is
one exactly if somebody owns the partition of the key, or is to own it and the route may look
ahead. -/

namespace ClusterKv

variable {table : Topology} {partition : UInt16} {useForward : Bool}

/-! ## Partitions of keys -/

/-- Sixteen bits are enough for the number of a partition. -/
theorem partitionForKey_toNat (key : Bytes) {count : Nat} (h : count ≠ 0) :
    (partitionForKey key count).toNat = (crc32 key >>> 16 &&& 0x7FFF).toNat % count := by
  have hdigest : (crc32 key >>> 16 &&& 0x7FFF).toNat < UInt16.size := by
    rw [UInt32.toNat_and]
    exact Nat.lt_of_le_of_lt Nat.and_le_right (by decide)
  rw [partitionForKey, if_neg h]
  exact UInt16.toNat_ofNat_of_lt' (Nat.lt_of_le_of_lt (Nat.mod_le _ _) hdigest)

theorem partitionForKey_lt (key : Bytes) {count : Nat} (h : count ≠ 0) :
    (partitionForKey key count).toNat < count := by
  rw [partitionForKey_toNat key h]
  exact Nat.mod_lt _ (Nat.pos_of_ne_zero h)

/-- A checksum with a partition in its upper half leads to that partition. -/
theorem digest_shiftLeft {partition : UInt16} (h : partition.toNat < 0x8000) :
    (partition.toUInt32 <<< 16 >>> 16 &&& 0x7FFF).toNat = partition.toNat := by
  have hshifted : (partition.toUInt32 <<< 16).toNat = partition.toNat * 2 ^ 16 := by
    rw [UInt32.toNat_shiftLeft, UInt16.toNat_toUInt32]
    change (partition.toNat <<< 16) % 2 ^ 32 = _
    rw [Nat.shiftLeft_eq, Nat.mod_eq_of_lt (by omega)]
  rw [UInt32.toNat_and, UInt32.toNat_shiftRight, hshifted]
  change (partition.toNat * 2 ^ 16) >>> 16 &&& (2 ^ 15 - 1) = _
  rw [Nat.shiftRight_eq_div_pow, Nat.mul_div_cancel _ (by decide), Nat.and_two_pow_sub_one_eq_mod,
    Nat.mod_eq_of_lt h]

/-- Keys with a given beginning fall into all partitions that fifteen bits can tell apart, and into
no others. -/
theorem exists_suffix_iff (key : Bytes) {count : Nat} (h : count ≠ 0) (partition : UInt16) :
    (∃ suffix : Bytes, suffix.length ≤ 4 ∧ partitionForKey (key ++ suffix) count = partition) ↔
      partition.toNat < count ∧ partition.toNat < 0x8000 := by
  constructor
  · rintro ⟨suffix, -, rfl⟩
    refine ⟨partitionForKey_lt _ h, ?_⟩
    rw [partitionForKey_toNat _ h, UInt32.toNat_and]
    exact Nat.lt_of_le_of_lt (Nat.mod_le _ _) (Nat.lt_succ_of_le Nat.and_le_right)
  · rintro ⟨hcount, hdigest⟩
    obtain ⟨suffix, hlength, hchecksum⟩ := exists_crc32_append key (partition.toUInt32 <<< 16)
    refine ⟨suffix, Nat.le_of_eq hlength, ?_⟩
    rw [← UInt16.toNat_inj, partitionForKey_toNat _ h, hchecksum, digest_shiftLeft hdigest,
      Nat.mod_eq_of_lt hcount]

/-- No partition is dead: of as many partitions as fifteen bits can tell apart, each is reached from
any key by at most four octets more. -/
theorem every_partition_reached (key : Bytes) {count : Nat} (hcount : count ≤ 32768)
    {partition : UInt16} (h : partition.toNat < count) :
    ∃ suffix : Bytes, suffix.length ≤ 4 ∧ partitionForKey (key ++ suffix) count = partition :=
  (exists_suffix_iff key (Nat.ne_zero_of_lt h) partition).mpr ⟨h, Nat.lt_of_lt_of_le h hcount⟩

theorem last_partition_reached :
    32768 ≤ 32768 ∧ (32767 : UInt16).toNat < 32768 ∧ ∃ suffix : Bytes, suffix.length ≤ 4 ∧
      partitionForKey (Bytes.ofString "user:" ++ suffix) 32768 = 32767 :=
  ⟨by decide, by decide, every_partition_reached _ (by decide) (by decide)⟩

namespace Topology

/-! ## Owners -/

theorem lookup_mem {nodes : List NodeId} {owners : List (Option Nat)} {node : NodeId}
    (h : lookup nodes owners partition = some node) : node ∈ nodes := by
  obtain ⟨place, -, hnode⟩ := lookup_eq_some_iff.mp h
  exact List.mem_of_getElem? hnode

theorem owner_mem {node : NodeId} (h : table.owner partition = some node) : node ∈ table.nodes :=
  lookup_mem h

theorem forwardOwner_mem {node : NodeId} (h : table.forwardOwner partition = some node) :
    node ∈ table.nodes := by
  obtain ⟨owners, -, hlookup⟩ := Option.bind_eq_some_iff.mp h
  exact lookup_mem hlookup

theorem isReady_iff :
    table.isReady = true ↔ table.partitionCount ≠ 0 ∧ ∀ owner ∈ table.current, owner.isSome := by
  simp [isReady, partitionCount]

/-- Each partition of a ready table has an owner, who is one of its nodes. -/
theorem Fits.owner_isSome (h : table.Fits) (hready : table.isReady = true)
    (hpartition : partition.toNat < table.partitionCount) :
    (table.owner partition).isSome = true := by
  have hentry : table.current[partition.toNat]? = some table.current[partition.toNat] :=
    List.getElem?_eq_getElem hpartition
  have hmem := List.mem_of_getElem? hentry
  obtain ⟨place, hplace⟩ := Option.isSome_iff_exists.mp ((isReady_iff.mp hready).2 _ hmem)
  have hbound : place < table.nodes.length := h.current _ hmem place hplace
  have howner : table.owner partition = some table.nodes[place] :=
    lookup_eq_some_iff.mpr ⟨place, hplace ▸ hentry, List.getElem?_eq_getElem hbound⟩
  exact Option.isSome_of_eq_some howner

/-- A route may look ahead, and there is something to be seen. -/
def Ahead (table : Topology) (partition : UInt16) (useForward : Bool) : Prop :=
  useForward = true ∧ (table.forwardOwner partition).isSome = true

end Topology

/-! ## Routes -/

/-- What the search for a route to a partition comes to: the node that the partition is headed to if
the route may look ahead, else the owner, else an error that names the partition. -/
inductive Topology.Resolves (table : Topology) (partition : UInt16) (useForward : Bool) :
    Except RoutingError Route → Prop
  | ahead {node : NodeId} (looks : table.Ahead partition useForward)
      (named : table.forwardOwner partition = some node) (member : node ∈ table.nodes) :
      Resolves table partition useForward (.ok ⟨partition, node⟩)
  | current {node : NodeId} (looks : ¬table.Ahead partition useForward)
      (named : table.owner partition = some node) (member : node ∈ table.nodes) :
      Resolves table partition useForward (.ok ⟨partition, node⟩)
  | nowhere (looks : ¬table.Ahead partition useForward) (named : table.owner partition = none) :
      Resolves table partition useForward (.error ⟨partition⟩)

theorem resolvePartition_resolves (partition : UInt16) (table : Topology) (useForward : Bool) :
    table.Resolves partition useForward (resolvePartition partition table useForward) := by
  by_cases hahead : table.Ahead partition useForward
  · obtain ⟨node, hnode⟩ := Option.isSome_iff_exists.mp hahead.2
    have hresult : resolvePartition partition table useForward = .ok ⟨partition, node⟩ := by
      simp [resolvePartition, hahead.1, hnode]
    exact hresult ▸ .ahead hahead hnode (Topology.forwardOwner_mem hnode)
  · have hnone : (if useForward then table.forwardOwner partition else none) = none := by
      simpa [Topology.Ahead] using hahead
    cases howner : table.owner partition with
    | some node =>
        have hresult : resolvePartition partition table useForward = .ok ⟨partition, node⟩ := by
          simp [resolvePartition, hnone, howner]
        exact hresult ▸ .current hahead howner (Topology.owner_mem howner)
    | none =>
        have hresult : resolvePartition partition table useForward = .error ⟨partition⟩ := by
          simp [resolvePartition, hnone, howner]
        exact hresult ▸ .nowhere hahead howner

theorem Topology.Resolves.succeeds_iff {result : Except RoutingError Route}
    (h : table.Resolves partition useForward result) :
    (∃ route, result = .ok route) ↔
      table.Ahead partition useForward ∨ (table.owner partition).isSome = true := by
  cases h with
  | ahead looks => exact ⟨fun _ => .inl looks, fun _ => ⟨_, rfl⟩⟩
  | current _ named => exact ⟨fun _ => .inr (by simp [named]), fun _ => ⟨_, rfl⟩⟩
  | nowhere looks named => simp [looks, named]

theorem partition_of_resolve {route : Route}
    (h : resolvePartition partition table useForward = .ok route) : route.partition = partition := by
  have hresolves := resolvePartition_resolves partition table useForward
  rw [h] at hresolves
  cases hresolves with
  | ahead | current => rfl

/-- Every key is routed by a partition that there is. A route is found exactly if the partition has an
owner, or is headed to a node and the route may look ahead. It leads to that node or else to the owner,
and in a ready table every key has one. -/
theorem resolve_finds_owner {revision : Nat} {nodes : List NodeId} {current : List (Option Nat)}
    {forward : Option (List (Option Nat))}
    (h : Topology.ofParts revision nodes current forward = .ok table) (key : Bytes)
    (useForward : Bool) :
    let partition := partitionForKey key table.partitionCount
    (table.partitionCount ≠ 0 → partition.toNat < table.partitionCount) ∧
      table.Resolves partition useForward (resolve key table useForward) ∧
      ((∃ route, resolve key table useForward = .ok route) ↔
        table.Ahead partition useForward ∨ (table.owner partition).isSome = true) ∧
      (table.isReady = true → ∃ route, resolve key table useForward = .ok route) := by
  intro partition
  have hresolves : table.Resolves partition useForward (resolve key table useForward) :=
    resolvePartition_resolves partition table useForward
  refine ⟨partitionForKey_lt key, hresolves, hresolves.succeeds_iff, fun hready => ?_⟩
  have hpartition := partitionForKey_lt key (Topology.isReady_iff.mp hready).1
  exact hresolves.succeeds_iff.mpr
    (.inr ((Topology.ofParts_eq_ok h).2.owner_isSome hready hpartition))

/-- A ready table of which the last partition is on the move. -/
def Topology.handingOver : Topology :=
  ⟨1, [⟨"a:1"⟩, ⟨"b:1"⟩], [some 0, some 0, some 1, some 1], some [none, none, none, some 0]⟩

theorem handingOver_routes :
    let table := Topology.handingOver
    let key := Bytes.ofString "foo"
    Topology.ofParts 1 table.nodes table.current table.forward = .ok table ∧
      partitionForKey key table.partitionCount = 3 ∧
      table.Resolves 3 true (.ok ⟨3, ⟨"a:1"⟩⟩) ∧ table.Resolves 3 false (.ok ⟨3, ⟨"b:1"⟩⟩) ∧
      ∀ useForward, ∃ route, resolve key table useForward = .ok route := by
  intro table key
  have h : Topology.ofParts 1 table.nodes table.current table.forward = .ok table := by rfl
  have hpartition : partitionForKey key table.partitionCount = 3 := by decide +kernel
  have hfound := resolve_finds_owner h key
  simp only [hpartition, resolve] at hfound ⊢
  exact ⟨h, trivial, (hfound true).2.1, (hfound false).2.1,
    fun useForward => (hfound useForward).2.2.2 (by decide)⟩

end ClusterKv

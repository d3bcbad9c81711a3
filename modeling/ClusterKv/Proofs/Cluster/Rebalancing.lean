import ClusterKv.Cluster.InPlace
import ClusterKv.Proofs.Cluster.OptimisticLock

/-! # Rebalancing

Partitions go from node to node with their items, and that is all that rebalancing does. Whatever a
cluster is told, each partition is with one node, nothing is lost, and nothing is there twice. -/

namespace ClusterKv.Cluster

variable {c c' : Cluster}

/-! ## In place

What is done in place comes to the same as what is done at one go, since nothing fails once it has
begun to change a cluster. -/

namespace InPlace

variable {α β : Type}

@[simp] theorem on_pure (a : α) (c : Cluster) : (pure a : InPlace α).on c = (.ok a, c) := rfl

@[simp] theorem on_throw (fault : ClusterFault) (c : Cluster) :
    (throw fault : InPlace α).on c = (.error fault, c) := rfl

@[simp] theorem on_get (c : Cluster) : (get : InPlace Cluster).on c = (.ok c, c) := rfl

@[simp] theorem on_modify (f : Cluster → Cluster) (c : Cluster) :
    (modify f : InPlace Unit).on c = (.ok (), f c) := rfl

@[simp] theorem on_bind (deed : InPlace α) (next : α → InPlace β) (c : Cluster) :
    (deed >>= next).on c = match deed.on c with
      | (.ok a, c) => (next a).on c
      | (.error fault, c) => (.error fault, c) := by
  unfold on
  simp only [bind, ExceptT.bind, ExceptT.run, StateT.run, StateT.bind, ExceptT.mk, Id.run]
  cases deed c with
  | mk result c => cases result <;> rfl

/-- What is done at one go, or not at all. -/
def settled (c : Cluster) (result : Except ClusterFault Cluster) :
    Except ClusterFault Unit × Cluster :=
  match result with
  | .ok c => (.ok (), c)
  | .error fault => (.error fault, c)

theorem checkMove_on (partition place : Nat) :
    (checkMove partition place).on c = (c.checkMove partition place, c) := by
  simp only [checkMove, Cluster.checkMove, on_bind, on_get]
  split
  · rfl
  · split <;> rfl

theorem moveData_on (partition place : Nat) :
    (moveData partition place).on c = settled c (c.moveData partition place) := by
  simp only [moveData, Cluster.moveData, on_bind, on_get]
  cases c.nodes[place]? with
  | none => rfl
  | some target => cases h : target.store.owns partition.toUInt16 <;> simp [h, settled]

theorem headFor_on (moves : List (Nat × Nat)) (forward : List Nat) :
    (headFor moves forward).on c = (c.headFor moves forward, c) := by
  induction moves generalizing forward with
  | nil => rfl
  | cons move rest ih =>
      obtain ⟨partition, place⟩ := move
      simp only [headFor, Cluster.headFor, on_bind, checkMove_on]
      rcases c.checkMove partition place with fault | ⟨⟩
      · rfl
      · exact ih _

theorem beginRebalance_on (moves : List (Nat × Nat)) :
    (beginRebalance moves).on c = settled c (c.beginRebalance moves) := by
  simp only [beginRebalance, Cluster.beginRebalance, on_bind, on_get, headFor_on]
  cases c.headFor moves (c.forward.getD c.current) <;> rfl

theorem transferPartition_on (partition : Nat) :
    (transferPartition partition).on c = settled c (c.transferPartition partition) := by
  simp only [transferPartition, Cluster.transferPartition, on_bind, on_get]
  cases c.forward with
  | none => rfl
  | some forward =>
      cases h : forward[partition]? with
      | none => simp [h, settled]
      | some place => simp [h, moveData_on]

theorem movePartition_on (partition place : Nat) :
    (movePartition partition place).on c = settled c (c.movePartition partition place) := by
  simp only [movePartition, Cluster.movePartition, on_bind, checkMove_on]
  rcases c.checkMove partition place with fault | ⟨⟩
  · rfl
  · simp only [moveData_on]
    cases c.moveData partition place <;> rfl

/-- If all moves go through, they come to the same. -/
theorem moveAll_on {partition : Nat} {places : List Nat}
    (h : c.moveAll partition places = .ok c') :
    (moveAll partition places).on c = (.ok (), c') := by
  induction places generalizing c partition with
  | nil => rw [← Except.ok.inj h]; rfl
  | cons place rest ih =>
      simp only [Cluster.moveAll] at h
      simp only [moveAll, on_bind, moveData_on]
      split at h
      · cases h
      · next moved hmoved =>
        rw [hmoved]
        exact ih h

end InPlace

/-- Moves do not depend on where partitions are headed. -/
theorem moveData_forward (c : Cluster) (forward : Option (List Nat)) (partition place : Nat) :
    { c with forward }.moveData partition place =
      (c.moveData partition place).map fun c => { c with forward } := by
  simp only [moveData]
  cases c.nodes[place]? with
  | none => rfl
  | some target => cases h : target.store.owns partition.toUInt16 <;> simp [h, Except.map]

theorem moveAll_forward (c : Cluster) (forward : Option (List Nat)) (partition : Nat)
    (places : List Nat) : { c with forward }.moveAll partition places =
      (c.moveAll partition places).map fun c => { c with forward } := by
  induction places generalizing c partition with
  | nil => rfl
  | cons place rest ih =>
      simp only [moveAll, moveData_forward]
      cases c.moveData partition place with
      | error fault => rfl
      | ok moved => exact ih moved (partition + 1)

/-- The deed that a control stands for. -/
def deed : Control → InPlace Unit
  | .beginRebalance moves => InPlace.beginRebalance moves
  | .transferPartition partition => InPlace.transferPartition partition
  | .finishRebalance => InPlace.finishRebalance
  | .movePartition partition place => InPlace.movePartition partition place
  | .setUp index isUp => InPlace.setUp index isUp
  | .setAvailable available => InPlace.setAvailable available

theorem settled_control (c : Cluster) (op : Control) :
    InPlace.settled c (c.control op) = ((c.control op).map fun _ => (), c.after op) := by
  unfold after
  cases c.control op <;> rfl

/-- What is done in place comes to the same as what is done at one go. -/
theorem Partitioned.deed_on (hc : Partitioned c) (op : Control) :
    (deed op).on c = ((c.control op).map fun _ => (), c.after op) := by
  rw [← settled_control]
  cases op with
  | beginRebalance moves => exact InPlace.beginRebalance_on moves
  | transferPartition partition => exact InPlace.transferPartition_on partition
  | movePartition partition place => exact InPlace.movePartition_on partition place
  | setAvailable available => rfl
  | setUp index isUp =>
      simp only [deed, InPlace.setUp, Cluster.control, Cluster.setUp, InPlace.on_bind,
        InPlace.on_get]
      by_cases h : index < c.nodes.length <;> simp [h, InPlace.settled]
  | finishRebalance =>
      simp only [deed, InPlace.finishRebalance, Cluster.control, Cluster.finishRebalance,
        InPlace.on_bind, InPlace.on_get]
      cases hforward : c.forward with
      | none => rfl
      | some forward =>
          have hwithin := hc.forward forward hforward
          obtain ⟨nodes, heq, -⟩ := hc.moveAll forward 0 (by omega) hwithin.2
          have htaken : { c with forward := none }.moveAll 0 forward =
              .ok { c with nodes, forward := none } := by
            rw [moveAll_forward, heq]
            rfl
          simp only [InPlace.on_bind, InPlace.on_modify, InPlace.moveAll_on htaken, heq]
          rfl

/-! ## What there is -/

/-- The items of all nodes, with their partitions and keys. -/
def items (c : Cluster) : Set (UInt16 × Bytes × Item) :=
  {e | ∃ place data, dataAt c.nodes place e.1 = some data ∧ e.2 ∈ data}

/-- The node at a place owns a partition. -/
def OwnedAt (c : Cluster) (p : UInt16) (place : Nat) : Prop :=
  ∃ node, c.nodes[place]? = some node ∧ node.store.owns p = true

theorem ownedAt_iff {p : UInt16} {place : Nat} :
    c.OwnedAt p place ↔ (dataAt c.nodes place p).isSome = true := by
  unfold OwnedAt dataAt Store.owns Assoc.has
  cases c.nodes[place]? <;> simp

theorem Held.mem_items {p : UInt16} {place : Nat} {data : PartitionData}
    (h : Held c.nodes p place data) {e : Bytes × Item} : (p, e) ∈ c.items ↔ e ∈ data := by
  constructor
  · rintro ⟨i, found, hfound, he⟩
    rw [h i] at hfound
    split at hfound
    · exact Option.some.inj hfound ▸ he
    · cases hfound
  · exact fun he => ⟨place, data, by simpa using h place, he⟩

theorem not_mem_items {p : UInt16} (h : ∀ i, dataAt c.nodes i p = none) {e : Bytes × Item} :
    (p, e) ∉ c.items := by
  rintro ⟨i, found, hfound, -⟩
  rw [h i] at hfound
  cases hfound

theorem Held.ownedAt_iff {p : UInt16} {place : Nat} {data : PartitionData}
    (h : Held c.nodes p place data) {i : Nat} : c.OwnedAt p i ↔ i = place := by
  rw [Cluster.ownedAt_iff, h i]
  split <;> simp [*]

/-- Partitions that only go from place to place take their items along. -/
theorem Rearranged.items (h : Rearranged c c') (hc : Partitioned c) : c'.items = c.items := by
  ext ⟨p, e⟩
  rcases Nat.lt_or_ge p.toNat c.current.length with hp | hp
  · obtain ⟨place, data, hdata, -⟩ := hc.held p hp
    obtain ⟨place', hdata'⟩ := h.held hdata
    rw [hdata.mem_items, hdata'.mem_items]
  · have hnone := hc.beyond p hp
    rw [iff_of_false (not_mem_items hnone) (not_mem_items (h.beyond hnone))]

theorem withinNodes {places : List Nat} {count : Nat} (h : ∀ place ∈ places, place < count) :
    Topology.WithinNodes count (places.map some) := by
  intro owner howner place hplace
  obtain ⟨other, hother, rfl⟩ := List.mem_map.mp howner
  exact Option.some.inj hplace ▸ h other hother

/-- The maps of a partitioned cluster fit together. -/
theorem Partitioned.table_eq (hc : Partitioned c) :
    c.table = .ok ⟨c.revision, c.nodes.map (·.id), c.current.map some,
      c.forward.map (·.map some)⟩ := by
  have hsmall : ¬(c.current.map some).length > Topology.maxPartitions := by
    simpa using hc.small
  have hcurrent : Topology.WithinNodes (c.nodes.map (·.id)).length (c.current.map some) :=
    withinNodes (by simpa using hc.current)
  unfold Cluster.table Topology.ofParts
  rw [if_neg hsmall, if_neg (not_not_intro hcurrent)]
  cases hforward : c.forward with
  | none => rfl
  | some places =>
      obtain ⟨hlength, hplaces⟩ := hc.forward places hforward
      have hwithin : Topology.WithinNodes (c.nodes.map (·.id)).length (places.map some) :=
        withinNodes (by simpa using hplaces)
      simp only [Option.map_some]
      rw [if_neg (by simpa using hlength), if_neg (not_not_intro hwithin)]

/-- Every partition has an owner in the published table. -/
theorem Partitioned.ready (hc : Partitioned c) (hpos : 0 < c.current.length) :
    ∃ table, c.table = .ok table ∧ table.isReady = true := by
  refine ⟨_, hc.table_eq, ?_⟩
  have hsome : c.current ≠ [] := List.ne_nil_of_length_pos hpos
  simp [Topology.isReady, hsome]

/-! ## Whatever happens -/

theorem Partitioned.happen (hc : Partitioned c) (happening : Happening) :
    Partitioned (c.happen happening) ∧
      (c.happen happening).current.length = c.current.length := by
  cases happening with
  | request d => exact ⟨hc.request d, rfl⟩
  | control op =>
      obtain ⟨hafter, hmoved⟩ := hc.after op
      exact ⟨hafter, hmoved.count⟩

theorem Partitioned.history (hc : Partitioned c) (happenings : List Happening) :
    Partitioned (c.history happenings) ∧
      (c.history happenings).current.length = c.current.length := by
  induction happenings generalizing c with
  | nil => exact ⟨hc, rfl⟩
  | cons happening rest ih =>
      obtain ⟨hhappened, hcount⟩ := hc.happen happening
      obtain ⟨hrest, hcount'⟩ := ih hhappened
      exact ⟨hrest, hcount'.trans hcount⟩

/-- So many partitions are all there, each of them once, and whatever the cluster is told leaves
them and their items there. -/
structure Whole (c : Cluster) (partitions : Nat) : Prop where
  owned : ∀ p : UInt16, p.toNat < partitions → ∃! place, c.OwnedAt p place
  alone : ∀ p : UInt16, partitions ≤ p.toNat → ∀ place, ¬c.OwnedAt p place
  /-- No partition has two items of one key. -/
  distinct : ∀ p key item item', (p, key, item) ∈ c.items → (p, key, item') ∈ c.items → item = item'
  published : ∃ table, c.table = .ok table ∧ table.isReady = true
  /-- What is done in place is what is done at one go. -/
  obeys : ∀ op, (deed op).on c = ((c.control op).map fun _ => (), c.after op)
  kept : ∀ op, ((deed op).on c).2.items = c.items
  /-- What fails changes nothing, even in place. -/
  refused : ∀ op fault, ((deed op).on c).1 = .error fault → ((deed op).on c).2 = c

theorem Partitioned.whole (hc : Partitioned c) (hpos : 0 < c.current.length) :
    Whole c c.current.length where
  owned := by
    intro p hp
    obtain ⟨place, data, hdata, -⟩ := hc.held p hp
    exact ⟨place, hdata.ownedAt_iff.mpr rfl, fun other hother => hdata.ownedAt_iff.mp hother⟩
  alone := by
    intro p hp place
    rw [ownedAt_iff, hc.beyond p hp place]
    simp
  distinct := by
    intro p key item item' h h'
    rcases Nat.lt_or_ge p.toNat c.current.length with hp | hp
    · obtain ⟨place, data, hdata, hkeys⟩ := hc.held p hp
      have hitem := Assoc.get?_of_mem hkeys (hdata.mem_items.mp h)
      exact Option.some.inj (hitem.symm.trans (Assoc.get?_of_mem hkeys (hdata.mem_items.mp h')))
    · exact absurd h (not_mem_items (hc.beyond p hp))
  published := hc.ready hpos
  obeys := hc.deed_on
  kept := by
    intro op
    rw [hc.deed_on]
    exact (hc.after op).2.items hc
  refused := by
    intro op fault
    rw [hc.deed_on]
    unfold Cluster.after
    cases c.control op with
    | ok moved => exact nofun
    | error => exact fun _ => rfl

theorem start_ok {spec : ClusterSpec} (hnodes : 0 < spec.nodes.length)
    (hpartitions : 0 < spec.partitions) : ∃ c, Cluster.start spec = .ok c := by
  simp only [Cluster.start, Nat.ne_of_gt hnodes, Nat.ne_of_gt hpartitions, if_false]
  exact ⟨_, rfl⟩

/-- Rebalancing neither loses nor duplicates anything: whatever is asked of a cluster and whatever
it is told, each partition is with one node, with its items, and the published map can be used. -/
theorem rebalancing_keeps_everything {spec : ClusterSpec} (hnodes : 0 < spec.nodes.length)
    (hpartitions : 0 < spec.partitions) (hsmall : spec.partitions ≤ Topology.maxPartitions) :
    ∃ c, Cluster.start spec = .ok c ∧
      ∀ happenings, Whole (c.history happenings) spec.partitions := by
  obtain ⟨c, hc⟩ := start_ok hnodes hpartitions
  refine ⟨c, hc, fun happenings => ?_⟩
  obtain ⟨hpartitioned, hcount⟩ := (start_partitioned hc hsmall).history happenings
  have hcount : (c.history happenings).current.length = spec.partitions := by
    rw [hcount, (start_eq hc).2.2]
    simp
  exact hcount ▸ hpartitioned.whole (hcount ▸ hpartitions)

/-- A partition moves ahead of the map with what was stored, and what cannot be done is refused. -/
theorem pair_whole :
    ((startedPair.history [.request (storing "n0" 0 "k" "a" none),
        .control (.beginRebalance [(0, 1)]), .control (.transferPartition 0),
        .control (.movePartition 0 7)]).content? 0 "k".toUTF8.toList =
          some ("a".toUTF8.toList, 0) ∧
      ((deed (.movePartition 0 7)).on startedPair).1 = .error (.nodeOutOfRange 7)) ∧
    ∃ c, Cluster.start pair = .ok c ∧
      ∀ happenings, Whole (c.history happenings) pair.partitions :=
  ⟨by decide +kernel, rebalancing_keeps_everything (by decide) (by decide) (by decide)⟩

end ClusterKv.Cluster

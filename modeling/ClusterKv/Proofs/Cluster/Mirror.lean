import ClusterKv.Proofs.Cluster.Answers
import ClusterKv.Proofs.Cluster.Tables
import ClusterKv.Proofs.Store.Stamps

/-! # A cluster and the one store it stands for

A store that owns all partitions mirrors a cluster if it has the same items, stamps aside. A plain
operation that some node of the cluster carries out leaves store and cluster alike, and both answer
alike. Where a partition is does not matter. -/

namespace ClusterKv

theorem Store.execute_keeps (store : Store) (now : Instant) {request : Request} {key : Bytes}
    {items : PartitionData} (hkey : request.operation.key? = some key)
    (hitems : store.partitions.get? request.partition = some items) :
    ∃ verdict, verdict = Setting.perform ⟨request.opaqueId, now, store.nextCas, store.maxValueLength⟩
        request.operation (Store.live? items key now) ∧
      (store.execute request now).2 = verdict.response ∧
      (store.execute request now).1.partitions =
        store.partitions.put request.partition (Store.setItem items key verdict.item) := by
  simp [Store.execute, hkey, hitems]

/-- The store that owns every partition of a cluster. -/
def ClusterSpec.wholeStore (spec : ClusterSpec) : Store :=
  .ofOwned ((List.range spec.partitions).map Nat.toUInt16) spec.maxValueLength

namespace Cluster

variable {c c' : Cluster} {store : Store} {limit : Nat}

/-- A store has the items of a cluster, stamps aside, and takes values of the same length. -/
structure Mirrors (limit : Nat) (c : Cluster) (store : Store) : Prop where
  limited : store.maxValueLength = limit
  nodes : ∀ node ∈ c.nodes, node.store.maxValueLength = limit
  held : ∀ p : UInt16, p.toNat < c.current.length →
    ∃ place data items, Held c.nodes p place data ∧ store.partitions.get? p = some items ∧
      Alike data items

theorem stores_dataAt {nodes nodes' : List Node} (h : stores nodes' = stores nodes) (i : Nat)
    (p : UInt16) : dataAt nodes' i p = dataAt nodes i p := by
  have hdata : ∀ nodes : List Node,
      dataAt nodes i p = (stores nodes)[i]?.bind (·.partitions.get? p) := by
    intro nodes
    simp only [dataAt, stores, List.getElem?_map, Option.bind_map]
    rfl
  rw [hdata, hdata, h]

/-- Only the items count, and how long a value may be. -/
theorem Mirrors.congr (h : Mirrors limit c store) (hstores : stores c'.nodes = stores c.nodes)
    (hcount : c'.current.length = c.current.length) : Mirrors limit c' store where
  limited := h.limited
  nodes := fun node hnode => by
    have hmem : node.store ∈ stores c.nodes := hstores ▸ List.mem_map_of_mem hnode
    obtain ⟨old, hold, heq⟩ := List.mem_map.mp hmem
    exact heq ▸ h.nodes old hold
  held := fun p hp => by
    obtain ⟨place, data, items, hheld, hrest⟩ := h.held p (hcount ▸ hp)
    exact ⟨place, data, items, fun i => (stores_dataAt hstores i p).trans (hheld i), hrest⟩

theorem limits_of_badges {nodes nodes' : List Node}
    (h : nodes'.map Node.badge = nodes.map Node.badge)
    (hnodes : ∀ node ∈ nodes, node.store.maxValueLength = limit) :
    ∀ node ∈ nodes', node.store.maxValueLength = limit := by
  intro node hnode
  have hmem : node.badge ∈ nodes.map Node.badge := h ▸ List.mem_map_of_mem hnode
  obtain ⟨old, hold, heq⟩ := List.mem_map.mp hmem
  have hsame : old.store.maxValueLength = node.store.maxValueLength :=
    congrArg (·.maxValueLength) heq
  exact hsame ▸ hnodes old hold

/-- Partitions may go from place to place. -/
theorem Mirrors.rearranged (h : Mirrors limit c store) (hmoved : Rearranged c c') :
    Mirrors limit c' store where
  limited := h.limited
  nodes := limits_of_badges hmoved.badges h.nodes
  held := fun p hp => by
    obtain ⟨place, data, items, hheld, hrest⟩ := h.held p (hmoved.count ▸ hp)
    obtain ⟨place', hheld'⟩ := hmoved.held hheld
    exact ⟨place', data, items, hheld', hrest⟩

/-- A cluster starts as empty as the one store does. -/
theorem start_mirrors {spec : ClusterSpec} (h : Cluster.start spec = .ok c)
    (hsmall : spec.partitions ≤ Topology.maxPartitions) :
    Mirrors spec.maxValueLength c spec.wholeStore where
  limited := rfl
  nodes := by
    obtain ⟨-, -, rfl⟩ := start_eq h
    intro node hnode
    obtain ⟨i, hi, rfl⟩ := List.mem_mapIdx.mp hnode
    rfl
  held := fun p hp => by
    have hcount : c.current.length = spec.partitions := by
      obtain ⟨-, -, rfl⟩ := start_eq h
      simp
    rw [hcount] at hp
    refine ⟨p.toNat % spec.nodes.length, [], [], fun i => ?_, ?_, fun _ => rfl⟩
    · rw [start_held h hsmall p i]
      simp [hp]
    · rw [ClusterSpec.wholeStore, get?_ofOwned, if_pos]
      exact List.mem_map.mpr ⟨p.toNat, List.mem_range.mpr hp, by simp [Nat.toUInt16]⟩

/-- No node puts a plain operation off. -/
theorem executeOn_prompt {request : Request} (plain : request.operation.isPlain = true)
    (id : NodeId) (now : Instant) (nodes : List Node) :
    (Cluster.executeOn id request now nodes).2.status ≠ .temporaryFailure := by
  obtain ⟨key, hkey⟩ := Operation.key?_of_isPlain plain
  rcases executeOn_cases id request now nodes with ⟨-, heq⟩ | ⟨_, node, -, -, heq⟩
  · rw [heq]
    exact ne_of_beq_false rfl
  rw [heq]
  cases hitems : node.store.partitions.get? request.partition with
  | none =>
      simp only [Node.execute, Store.execute_of_unowned (by simp [hkey]) hitems]
      exact ne_of_beq_false rfl
  | some items =>
      obtain ⟨verdict, rfl, hresponse, -⟩ :=
        node.store.execute_keeps now hkey hitems
      simp only [Node.execute, hresponse]
      exact Setting.perform_prompt _ plain _

/-- What is about another partition leaves the items alone. -/
theorem Touch.elsewhere {p : UInt16} {request : Request} {now : Instant} {node : Store}
    {data data' : PartitionData} {counter : UInt64} {response : Response}
    (h : Touch p request now node data data' counter response) (hother : request.partition ≠ p)
    (hkey : request.operation.key? ≠ none) : data' = data := by
  cases h with
  | away => rfl
  | flushed unkeyed => exact absurd unkeyed hkey
  | performed here => exact absurd here hother

/-- What reaches the items of a key comes to a verdict on the item. -/
theorem Touch.verdict {p : UInt16} {request : Request} {now : Instant} {node : Store}
    {data data' : PartitionData} {counter : UInt64} {response : Response} {key : Bytes}
    (h : Touch p request now node data data' counter response) (here : request.partition = p)
    (hkey : request.operation.key? = some key) (hreached : response.status ≠ .notMyPartition) :
    ∃ verdict, verdict = Setting.perform ⟨request.opaqueId, now, node.nextCas, node.maxValueLength⟩
        request.operation (Store.live? data key now) ∧
      data' = Store.setItem data key verdict.item ∧ response = verdict.response := by
  cases h with
  | away _ _ response missed =>
      rw [missed here (by simp [hkey])] at hreached
      exact absurd rfl hreached
  | flushed unkeyed => simp [unkeyed] at hkey
  | @performed here key' keyed verdict reached =>
      obtain rfl : key' = key := Option.some.inj (keyed.symm.trans hkey)
      exact ⟨verdict, reached, rfl, rfl⟩

/-- A plain operation that is carried out somewhere leaves the store alike, and has the answer of
the one store. -/
theorem Mirrors.executeOn (h : Mirrors limit c store) {id : NodeId} {request request' : Request}
    {now : Instant} (plain : request.operation.isPlain = true)
    (hhere : request.partition.toNat < c.current.length)
    (hpartition : request'.partition = request.partition)
    (hoperation : request'.operation = request.operation)
    (hreached : (Cluster.executeOn id request now c.nodes).2.status ≠ .notMyPartition) :
    Mirrors limit { c with nodes := (Cluster.executeOn id request now c.nodes).1 }
        (store.execute request' now).1 ∧
      (Cluster.executeOn id request now c.nodes).2.bare = (store.execute request' now).2.bare := by
  obtain ⟨place, data, items, hheld, hitems, halike⟩ := h.held _ hhere
  obtain ⟨node, hnode, -⟩ := hheld.node
  obtain ⟨node', data', -, hheld', htouch⟩ := hheld.executeOn hnode id request now
  obtain ⟨key, hkey⟩ := Operation.key?_of_isPlain plain
  obtain ⟨verdict, reached, rfl, hanswer⟩ := htouch.verdict rfl hkey hreached
  obtain ⟨verdict', reached', hresponse, hpartitions⟩ :=
    store.execute_keeps now (hoperation ▸ hkey) (hpartition ▸ hitems)
  -- Both verdicts are the verdict on the same bare item in the same bare setting.
  have hlimit : node.store.maxValueLength = store.maxValueLength :=
    (h.nodes node (List.mem_of_getElem? hnode)).trans h.limited.symm
  have hverdict : verdict.bare = verdict'.bare := by
    rw [reached, reached', hoperation, Setting.bare_perform ⟨request.opaqueId, _, _, _⟩ plain,
      Setting.bare_perform ⟨request'.opaqueId, _, store.nextCas, _⟩ plain, halike.live? key now,
      hlimit]
    rfl
  have hitem : verdict.item.map Item.bare = verdict'.item.map Item.bare :=
    congrArg Verdict.item hverdict
  refine ⟨⟨?_, limits_of_badges (executeOn_badges id request now c.nodes) h.nodes, ?_⟩, ?_⟩
  · exact (store.execute_maxValueLength request' now).trans h.limited
  · intro p hp
    by_cases hpp : p = request.partition
    · subst hpp
      refine ⟨place, _, Store.setItem items key verdict'.item, hheld', ?_,
        halike.setItem key hitem⟩
      rw [hpartitions, hpartition, Assoc.get?_put_self]
    · obtain ⟨q, dataq, itemsq, hheldq, hitemsq, halikeq⟩ := h.held p hp
      obtain ⟨nodeq, hnodeq, -⟩ := hheldq.node
      obtain ⟨_, dataq', -, hheldq', htouchq⟩ := hheldq.executeOn hnodeq id request now
      obtain rfl := htouchq.elsewhere (Ne.symm hpp) (by simp [hkey])
      refine ⟨q, dataq', itemsq, hheldq', ?_, halikeq⟩
      rw [hpartitions, hpartition, Assoc.get?_put_of_ne _ _ hpp, hitemsq]
  · rw [hanswer, hresponse]
    exact congrArg Verdict.response hverdict

end Cluster

end ClusterKv

import ClusterKv.Proofs.Cluster.Controls
import ClusterKv.Proofs.Publishing
import ClusterKv.Proofs.Topology.Parts

/-! # Tables that a cluster publishes

Names, credentials and limits of nodes stay as they are, and revisions only grow. So a table that
was published once still names the nodes that there are, and gives each partition to one of them. -/

namespace ClusterKv

/-- What a node never loses. -/
structure Badge where
  id : NodeId
  credentials : Credentials
  maxValueLength : Nat

def Node.badge (node : Node) : Badge := ⟨node.id, node.credentials, node.store.maxValueLength⟩

theorem Store.execute_maxValueLength (store : Store) (request : Request) (now : Instant) :
    (store.execute request now).1.maxValueLength = store.maxValueLength := by
  unfold Store.execute
  split
  · rfl
  split <;> rfl

theorem Node.execute_badge (node : Node) (request : Request) (now : Instant) :
    (node.execute request now).1.badge = node.badge := by
  simp [Node.execute, Node.badge, Store.execute_maxValueLength]

namespace Cluster

variable {c c' : Cluster} {table : Topology}

theorem executeOn_badges (id : NodeId) (request : Request) (now : Instant) (nodes : List Node) :
    (executeOn id request now nodes).1.map Node.badge = nodes.map Node.badge := by
  rcases executeOn_cases id request now nodes with ⟨-, heq⟩ | ⟨place, node, hplace, -, heq⟩
  · rw [heq]
  · obtain ⟨hlt, hnode⟩ := List.getElem?_eq_some_iff.mp hplace
    rw [heq, List.map_set, Node.execute_badge]
    refine List.ext_getElem (by simp) fun i h₁ h₂ => ?_
    rw [List.getElem_set]
    split
    · next hi => subst hi; rw [List.getElem_map, hnode]
    · rfl

theorem Rearranged.badges (h : Rearranged c c') :
    c'.nodes.map Node.badge = c.nodes.map Node.badge := by
  have hshell : ∀ nodes : List Node, nodes.map Node.badge = (nodes.map Node.shell).map Node.badge :=
    fun nodes => by rw [List.map_map]; rfl
  rw [hshell, h.shells, ← hshell]

/-- The names on the badges. -/
theorem map_id_of_badges {nodes nodes' : List Node}
    (h : nodes'.map Node.badge = nodes.map Node.badge) :
    nodes'.map (·.id) = nodes.map (·.id) := by
  simpa [Function.comp_def, Node.badge] using congrArg (List.map Badge.id) h

/-! ## Tables -/

/-- A table names the nodes of a cluster, gives each partition to one of them, and is not ahead of
what is published. -/
structure Mapped (c : Cluster) (table : Topology) : Prop where
  nodes : table.nodes = c.nodes.map (·.id)
  count : table.partitionCount = c.current.length
  owned : ∀ owner ∈ table.current, ∃ place, owner = some place ∧ place < table.nodes.length
  older : table.revision ≤ c.revision

theorem fetch_eq (h : c.fetch = .ok table) :
    c.current.length ≤ Topology.maxPartitions ∧
      table = ⟨c.revision, c.nodes.map (·.id), c.current.map some, c.forward.map (·.map some)⟩ := by
  unfold fetch Cluster.table Topology.ofParts at h
  split at h
  · split at h
    · cases h
    next hsmall =>
    have hsmall : c.current.length ≤ Topology.maxPartitions := by simpa using hsmall
    refine ⟨hsmall, ?_⟩
    split at h
    · cases h
    split at h
    · next hforward =>
      rw [hforward]
      exact (Except.ok.inj h).symm
    · next owners hforward =>
      rw [hforward]
      split at h
      · cases h
      split at h
      · cases h
      · exact (Except.ok.inj h).symm
  · cases h

theorem Partitioned.mapped (hc : Partitioned c) (h : c.fetch = .ok table) : Mapped c table := by
  obtain ⟨-, rfl⟩ := fetch_eq h
  refine ⟨rfl, by simp [Topology.partitionCount], fun owner howner => ?_, Nat.le_refl _⟩
  obtain ⟨place, hplace, rfl⟩ := List.mem_map.mp howner
  exact ⟨place, rfl, by simpa using hc.current place hplace⟩

/-- Whatever keeps the names, the number of partitions and the order of revisions keeps tables. -/
theorem Mapped.congr (h : Mapped c table) (hnodes : c'.nodes.map (·.id) = c.nodes.map (·.id))
    (hcount : c'.current.length = c.current.length) (holder : c.revision ≤ c'.revision) :
    Mapped c' table :=
  ⟨h.nodes.trans hnodes.symm, h.count.trans hcount.symm, h.owned, Nat.le_trans h.older holder⟩

theorem Mapped.executeOn (h : Mapped c table) (id : NodeId) (request : Request) (now : Instant) :
    Mapped { c with nodes := (executeOn id request now c.nodes).1 } table :=
  h.congr (map_id_of_badges (executeOn_badges id request now c.nodes)) rfl (Nat.le_refl _)

/-- What is published does not depend on what is asked of nodes. -/
theorem fetch_executeOn (c : Cluster) (id : NodeId) (request : Request) (now : Instant) :
    fetch { c with nodes := (executeOn id request now c.nodes).1 } = c.fetch := by
  simp only [fetch, Cluster.table, map_id_of_badges (executeOn_badges id request now c.nodes)]

theorem Rearranged.mapped (h : Rearranged c c') (hmapped : Mapped c table) : Mapped c' table :=
  hmapped.congr (map_id_of_badges h.badges) h.count h.older

/-- A table gives a partition to a node that there is. -/
theorem Mapped.owner (h : Mapped c table) {p : UInt16} (hp : p.toNat < c.current.length) :
    ∃ id node, table.owner p = some id ∧ c.nodes.find? (·.id = id) = some node := by
  have hcount : table.current.length = c.current.length := h.count
  have hplace : p.toNat < table.current.length := hcount ▸ hp
  obtain ⟨place, hcurrent, hlt⟩ := h.owned _ (List.getElem_mem hplace)
  have hentry : table.current[p.toNat]? = some (some place) := by
    rw [List.getElem?_eq_getElem hplace, hcurrent]
  have howner : table.owner p = some table.nodes[place] :=
    Topology.lookup_eq_some_iff.mpr ⟨place, hentry, List.getElem?_eq_getElem hlt⟩
  have hmem : table.nodes[place] ∈ c.nodes.map (·.id) := h.nodes ▸ List.getElem_mem hlt
  obtain ⟨node, hnode, hid⟩ := List.mem_map.mp hmem
  have hfound : (c.nodes.find? (·.id = table.nodes[place])).isSome :=
    List.find?_isSome.mpr ⟨node, hnode, by simpa using hid⟩
  obtain ⟨other, hother⟩ := Option.isSome_iff_exists.mp hfound
  exact ⟨_, other, howner, hother⟩

/-- The table a client holds is one that was published, whatever comes of a refresh. -/
theorem Mapped.finish {r : Refresher} (h : Mapped c r.current) (hc : Partitioned c) :
    Mapped c (r.start.finish c.fetch).1.current := by
  cases hfetch : c.fetch with
  | error => exact h
  | ok fetched =>
      simp only [Refresher.finish, Refresher.install, Refresher.publish_current_eq]
      split
      · exact hc.mapped hfetch
      · exact h

end Cluster

end ClusterKv

import ClusterKv.Cluster.Basic
import ClusterKv.Proofs.Assoc

/-! # Who keeps which partition

A partition with its items is in one place only. Requests change the items where they are, and
moving a partition changes the place and nothing else. -/

namespace ClusterKv

/-! ## Nodes without their items -/

/-- A node with everything but the items it keeps, as if it were up. -/
def Node.shell (node : Node) : Node :=
  { node with store := { node.store with partitions := [] }, isUp := true }

/-- A node that keeps other items. -/
def Node.keeping (node : Node) (partitions : Assoc UInt16 PartitionData) : Node :=
  { node with store := { node.store with partitions } }

@[simp] theorem Node.keeping_shell (node : Node) (partitions : Assoc UInt16 PartitionData) :
    (node.keeping partitions).shell = node.shell := rfl

@[simp] theorem Node.keeping_partitions (node : Node) (partitions : Assoc UInt16 PartitionData) :
    (node.keeping partitions).store.partitions = partitions := rfl

namespace Cluster

/-- The items that the node at a place keeps for a partition. -/
def dataAt (nodes : List Node) (place : Nat) (p : UInt16) : Option PartitionData :=
  nodes[place]?.bind fun node => node.store.partitions.get? p

/-- A partition is at one place, with some items. -/
def Held (nodes : List Node) (p : UInt16) (place : Nat) (data : PartitionData) : Prop :=
  ∀ i, dataAt nodes i p = if i = place then some data else none

variable {nodes : List Node} {p q : UInt16} {place : Nat} {data : PartitionData}

theorem dataAt_of_getElem? {node : Node} (h : nodes[place]? = some node) :
    dataAt nodes place p = node.store.partitions.get? p := by
  simp [dataAt, h]

/-- The node that keeps a partition. -/
theorem Held.node (h : Held nodes p place data) :
    ∃ node, nodes[place]? = some node ∧ node.store.partitions.get? p = some data := by
  have hplace : dataAt nodes place p = some data := by simpa using h place
  exact Option.bind_eq_some_iff.mp hplace

theorem Held.place_unique (h : Held nodes p place data) {i : Nat} {node : Node}
    (hi : nodes[i]? = some node) (howns : node.store.owns p = true) : i = place := by
  by_contra hne
  have hi' := h i
  rw [dataAt_of_getElem? hi, if_neg hne] at hi'
  simp [Store.owns, Assoc.has, hi'] at howns

theorem Held.unique (h : Held nodes p place data) {place' : Nat} {data' : PartitionData}
    (h' : Held nodes p place' data') : place' = place ∧ data' = data := by
  obtain ⟨node, hnode, hdata⟩ := h'.node
  have hplace : place' = place :=
    h.place_unique hnode (by simp [Store.owns, Assoc.has, hdata])
  subst hplace
  have := h place'
  rw [h' place'] at this
  simpa using this

/-- The first node that keeps a partition is the one that keeps it. -/
theorem Held.find? (h : Held nodes p place data) :
    nodes.find? (·.store.owns p) = nodes[place]? := by
  obtain ⟨node, hnode, hdata⟩ := h.node
  rw [hnode, List.find?_eq_some_iff_getElem]
  refine ⟨by simp [Store.owns, Assoc.has, hdata], place, ?_, ?_, ?_⟩
  · exact (List.getElem?_eq_some_iff.mp hnode).1
  · exact (List.getElem?_eq_some_iff.mp hnode).2
  · intro j hj
    by_contra howns
    have hlt := (List.getElem?_eq_some_iff.mp hnode).1
    have hj' : nodes[j]? = some nodes[j] := List.getElem?_eq_getElem (Nat.lt_trans hj hlt)
    have := h.place_unique hj' (by simpa using howns)
    omega

theorem dataAt_set {i : Nat} {node : Node} (hplace : place < nodes.length) :
    dataAt (nodes.set place node) i p =
      if i = place then node.store.partitions.get? p else dataAt nodes i p := by
  unfold dataAt
  rw [List.getElem?_set]
  by_cases h : i = place
  · subst h; simp [hplace]
  · simp [h, Ne.symm h]

theorem map_shell_set {node new : Node} (hplace : nodes[place]? = some node)
    (hshell : new.shell = node.shell) :
    (nodes.set place new).map Node.shell = nodes.map Node.shell := by
  obtain ⟨hlt, rfl⟩ := List.getElem?_eq_some_iff.mp hplace
  rw [List.map_set, hshell]
  exact List.ext_getElem (by simp) (by simp [List.getElem_set]; grind)

/-! ## Executing requests -/

/-- A request changes at most the node of its name. -/
theorem executeOn_cases (id : NodeId) (request : Request) (now : Instant) (nodes : List Node) :
    (nodes.find? (·.id = id) = none ∧
      executeOn id request now nodes = (nodes, .ofStatus request.opaqueId .notMyPartition)) ∨
    ∃ (place : Nat) (node : Node), nodes[place]? = some node ∧
      nodes.find? (·.id = id) = some node ∧
      executeOn id request now nodes =
        (nodes.set place (node.execute request now).1, (node.execute request now).2) := by
  induction nodes with
  | nil => exact Or.inl ⟨rfl, rfl⟩
  | cons first rest ih =>
      by_cases hid : first.id = id
      · exact Or.inr ⟨0, first, rfl, by simp [hid], by simp [executeOn, hid]⟩
      · rcases ih with ⟨hnone, heq⟩ | ⟨place, node, hplace, hfind, heq⟩
        · exact Or.inl ⟨by simpa [List.find?_cons, hid] using hnone,
            by simp [executeOn, hid, heq]⟩
        · exact Or.inr ⟨place + 1, node, by simpa using hplace,
            by simpa [List.find?_cons, hid] using hfind, by simp [executeOn, hid, heq]⟩

@[simp] theorem length_executeOn (id : NodeId) (request : Request) (now : Instant) :
    (executeOn id request now nodes).1.length = nodes.length := by
  rcases executeOn_cases id request now nodes with ⟨-, heq⟩ | ⟨_, _, -, -, heq⟩ <;> simp [heq]

/-- What a request means for the items of a partition and for the counter of the node that keeps
them. -/
inductive Touch (p : UInt16) (request : Request) (now : Instant) (store : Store)
    (data : PartitionData) : PartitionData → UInt64 → Response → Prop
  /-- It is about other items, or does not reach these. -/
  | away (counter : UInt64) (drawn : counter = store.nextCas ∨ counter = store.nextCas + 1)
      (response : Response)
      (missed : request.partition = p → request.operation.key? ≠ none →
        response = .ofStatus request.opaqueId .notMyPartition) :
      Touch p request now store data data counter response
  | flushed (unkeyed : request.operation.key? = none) (response : Response) :
      Touch p request now store data [] store.nextCas response
  | performed (here : request.partition = p) {key : Bytes}
      (keyed : request.operation.key? = some key) (verdict : Verdict)
      (reached : verdict = Setting.perform
        ⟨request.opaqueId, now, store.nextCas, store.maxValueLength⟩ request.operation
        (Store.live? data key now)) :
      Touch p request now store data (Store.setItem data key verdict.item)
        (if verdict.drew then store.nextCas + 1 else store.nextCas) verdict.response

/-- A touch keeps the keys distinct. -/
theorem Touch.nodup_keys {request : Request} {now : Instant} {store : Store}
    {data' : PartitionData} {counter : UInt64} {response : Response}
    (h : Touch p request now store data data' counter response)
    (hdata : (Assoc.keys data).Nodup) : (Assoc.keys data').Nodup := by
  cases h with
  | away => exact hdata
  | flushed => exact List.nodup_nil
  | performed =>
      unfold Store.setItem
      split
      · exact Assoc.nodup_keys_put hdata _ _
      · exact Assoc.nodup_keys_erase hdata _

/-- What a request does at the node that keeps a partition. -/
theorem execute_touch {store : Store} (request : Request) (now : Instant)
    (h : store.partitions.get? p = some data) :
    ∃ data', (store.execute request now).1.partitions.get? p = some data' ∧
      Touch p request now store data data' (store.execute request now).1.nextCas
        (store.execute request now).2 := by
  unfold Store.execute
  split
  · next hkey =>
    refine ⟨[], ?_, .flushed hkey _⟩
    simp only [Store.flush]
    rw [Assoc.get?_map_values store.partitions (fun _ _ => []), h, Option.map_some]
  next key hkey =>
  split
  · next hnone =>
    exact ⟨data, h, .away _ (Or.inl rfl) _ fun _ _ => rfl⟩
  next items hitems =>
  by_cases hp : request.partition = p
  · obtain rfl : items = data := by simpa [hp, h] using hitems.symm
    exact ⟨_, by simp [hp], .performed hp hkey _ rfl⟩
  · refine ⟨data, by simp [Assoc.get?_put_of_ne _ _ (Ne.symm hp), h], .away _ ?_ _
      fun h => absurd h hp⟩
    dsimp only
    split
    · exact Or.inr rfl
    · exact Or.inl rfl

/-- A partition that a node does not keep it does not get by a request. -/
theorem execute_unowned {store : Store} (request : Request) (now : Instant)
    (h : store.partitions.get? p = none) :
    (store.execute request now).1.partitions.get? p = none ∧
      (request.partition = p → request.operation.key? ≠ none →
        (store.execute request now).2 = .ofStatus request.opaqueId .notMyPartition) := by
  unfold Store.execute
  split
  · next hkey =>
    refine ⟨?_, fun _ hne => absurd hkey hne⟩
    simp only [Store.flush]
    rw [Assoc.get?_map_values store.partitions (fun _ _ => []), h, Option.map_none]
  split
  · exact ⟨h, fun _ _ => rfl⟩
  next items hitems =>
  have hp : p ≠ request.partition := by
    rintro rfl
    simp [h] at hitems
  exact ⟨by simp [Assoc.get?_put_of_ne _ _ hp, h], fun h => absurd h.symm hp⟩

/-- A request uses up one stamp at most. -/
theorem execute_nextCas (store : Store) (request : Request) (now : Instant) :
    (store.execute request now).1.nextCas = store.nextCas ∨
      (store.execute request now).1.nextCas = store.nextCas + 1 := by
  unfold Store.execute
  split
  · exact Or.inl rfl
  split
  · exact Or.inl rfl
  · dsimp only
    split
    · exact Or.inr rfl
    · exact Or.inl rfl

/-- A request leaves a partition where it is, and touches it at most there. -/
theorem Held.executeOn (h : Held nodes p place data) {node : Node}
    (hnode : nodes[place]? = some node) (id : NodeId) (request : Request) (now : Instant) :
    ∃ node' data', (executeOn id request now nodes).1[place]? = some node' ∧
      Held (executeOn id request now nodes).1 p place data' ∧
      Touch p request now node.store data data' node'.store.nextCas
        (executeOn id request now nodes).2 := by
  have hdata : node.store.partitions.get? p = some data := by
    have := h place
    rwa [dataAt_of_getElem? hnode, if_pos rfl] at this
  rcases executeOn_cases id request now nodes with ⟨-, heq⟩ | ⟨i, first, hi, -, heq⟩
  · rw [heq]
    exact ⟨node, data, hnode, h, .away _ (Or.inl rfl) _ fun _ _ => rfl⟩
  have hlt := (List.getElem?_eq_some_iff.mp hi).1
  rw [heq]
  by_cases hplace : i = place
  · subst hplace
    obtain rfl : first = node := by simpa [hi] using hnode
    obtain ⟨data', hdata', htouch⟩ := execute_touch request now hdata
    refine ⟨_, data', List.getElem?_set_self hlt, fun j => ?_, htouch⟩
    rw [dataAt_set hlt]
    by_cases hj : j = i
    · simpa [hj, Node.execute] using hdata'
    · simpa [hj] using h j
  · have hnone : first.store.partitions.get? p = none := by
      have := h i
      rwa [dataAt_of_getElem? hi, if_neg hplace] at this
    obtain ⟨hnone', hmissed⟩ := execute_unowned request now hnone
    refine ⟨node, data, (List.getElem?_set_ne hplace).trans hnode, fun j => ?_,
      .away _ (Or.inl rfl) _ hmissed⟩
    rw [dataAt_set hlt]
    by_cases hj : j = i
    · subst hj
      simpa [hplace, Node.execute] using hnone'
    · simpa [hj] using h j

/-- A partition that nobody keeps nobody gets by a request. -/
theorem executeOn_unowned (h : ∀ i, dataAt nodes i p = none) (id : NodeId) (request : Request)
    (now : Instant) (i : Nat) : dataAt (executeOn id request now nodes).1 i p = none := by
  rcases executeOn_cases id request now nodes with ⟨-, heq⟩ | ⟨j, node, hj, -, heq⟩
  · rw [heq]
    exact h i
  · have hnone : node.store.partitions.get? p = none := by
      have := h j
      rwa [dataAt_of_getElem? hj] at this
    rw [heq, dataAt_set (List.getElem?_eq_some_iff.mp hj).1]
    split
    · exact (execute_unowned request now hnone).1
    · exact h i

/-- A request executed where nobody keeps its partition is turned away. -/
theorem executeOn_turned_away {id : NodeId} {request : Request}
    (h : ∀ i, dataAt nodes i request.partition = none) (hkey : request.operation.key? ≠ none)
    (now : Instant) :
    (executeOn id request now nodes).2 = .ofStatus request.opaqueId .notMyPartition := by
  rcases executeOn_cases id request now nodes with ⟨-, heq⟩ | ⟨j, node, hj, -, heq⟩
  · rw [heq]
  · have hnone : node.store.partitions.get? request.partition = none := by
      have := h j
      rwa [dataAt_of_getElem? hj] at this
    rw [heq]
    exact (execute_unowned request now hnone).2 rfl hkey

/-! ## Moving a partition -/

/-- Taking a partition away finds the place where it is. -/
theorem releaseFirst_of_held (h : Held nodes p place data) {node : Node}
    (hnode : nodes[place]? = some node) :
    releaseFirst p nodes =
      (nodes.set place (node.keeping (node.store.partitions.erase p)), some data) := by
  induction nodes generalizing place with
  | nil => simp at hnode
  | cons first rest ih =>
      have hfirst : first.store.partitions.get? p = if 0 = place then some data else none := by
        simpa [dataAt] using h 0
      cases place with
      | zero =>
          obtain rfl : first = node := by simpa using hnode
          have hdata : first.store.partitions.get? p = some data := by simpa using hfirst
          simp [releaseFirst, Store.release, hdata, Node.keeping]
      | succ i =>
          have hnone : first.store.partitions.get? p = none := by simpa using hfirst
          have hrest : Held rest p i data := by
            intro j
            simpa [dataAt] using h (j + 1)
          have := ih hrest (by simpa using hnode)
          simp [releaseFirst, Store.release, hnone, this]

theorem foldl_put_eq_append {own items : PartitionData} (h : (Assoc.keys (own ++ items)).Nodup) :
    items.foldl (fun items e => Assoc.put items e.1 e.2) own = own ++ items := by
  induction items generalizing own with
  | nil => simp
  | cons e rest ih =>
      have hnew : Assoc.get? own e.1 = none := by
        rw [Assoc.get?_eq_none_iff]
        intro hmem
        simp only [Assoc.keys, List.map_append, List.map_cons] at h hmem
        exact (List.nodup_append.mp h).2.2 _ hmem _ (by simp) rfl
      have happend : Assoc.put own e.1 e.2 = own ++ [e] := Assoc.put_of_get?_eq_none _ hnew
      rw [List.foldl_cons, happend, ih (by simpa using h)]
      simp

/-- Items that come to a node without the partition are there as they were. -/
theorem adopt_of_not_owned {store : Store} (hnew : store.partitions.get? p = none)
    (hdata : (Assoc.keys data).Nodup) :
    store.adopt p data = { store with partitions := store.partitions.put p data } := by
  have hmerged : data.foldl (fun items e => Assoc.put items e.1 e.2) [] = [] ++ data :=
    foldl_put_eq_append (by simpa using hdata)
  simp only [Store.adopt, hnew, Option.getD_none]
  rw [hmerged, List.nil_append]

/-- A partition that moves is at its new place with the items it had, everything else is where it
was, and nothing but items has changed. -/
theorem moveData_held {c : Cluster} {goal : Nat} (hgoal : goal < c.nodes.length)
    (h : Held c.nodes p place data) (hdata : (Assoc.keys data).Nodup) {partition : Nat}
    (hp : partition.toUInt16 = p) :
    ∃ nodes, c.moveData partition goal = .ok { c with nodes } ∧
      nodes.map Node.shell = c.nodes.map Node.shell ∧ Held nodes p goal data ∧
      ∀ q ≠ p, ∀ i, dataAt nodes i q = dataAt c.nodes i q := by
  obtain ⟨target, htarget⟩ : ∃ target, c.nodes[goal]? = some target :=
    ⟨_, List.getElem?_eq_getElem hgoal⟩
  obtain ⟨node, hnode, hkept⟩ := h.node
  have hplace := (List.getElem?_eq_some_iff.mp hnode).1
  by_cases hsame : goal = place
  · subst hsame
    obtain rfl : target = node := by simpa [htarget] using hnode
    refine ⟨c.nodes, ?_, rfl, h, fun _ _ _ => rfl⟩
    simp [moveData, htarget, hp, Store.owns, Assoc.has, hkept]
  · have hnew : target.store.partitions.get? p = none := by
      have := h goal
      rwa [dataAt_of_getElem? htarget, if_neg hsame] at this
    let emptied := node.keeping (node.store.partitions.erase p)
    let filled := target.keeping (target.store.partitions.put p data)
    refine ⟨(c.nodes.set place emptied).set goal filled, ?_, ?_, ?_, ?_⟩
    · have hmodify : (c.nodes.set place emptied).modify goal
          (fun node => { node with store := node.store.adopt p data }) =
          (c.nodes.set place emptied).set goal filled := by
        rw [List.modify_eq_set_getElem?, List.getElem?_set_ne (Ne.symm hsame), htarget]
        simp [filled, adopt_of_not_owned hnew hdata, Node.keeping]
      simp only [moveData, htarget, hp, Store.owns, Assoc.has, hnew, Option.isSome_none,
        Bool.false_eq_true, ite_false, releaseFirst_of_held h hnode,
        Option.getD_some]
      rw [hmodify]
    · have htarget' : (c.nodes.set place emptied)[goal]? = some target := by
        rw [List.getElem?_set_ne (Ne.symm hsame), htarget]
      rw [map_shell_set htarget' (Node.keeping_shell _ _),
        map_shell_set hnode (Node.keeping_shell _ _)]
    · intro i
      rw [dataAt_set (by simpa using hgoal), dataAt_set hplace]
      by_cases hi : i = goal
      · simp [hi, filled]
      · by_cases hi' : i = place
        · subst hi'
          simp [hi, emptied]
        · have := h i
          rw [if_neg hi'] at this
          rw [if_neg hi, if_neg hi', this, if_neg hi]
    · intro q hq i
      rw [dataAt_set (by simpa using hgoal), dataAt_set hplace]
      by_cases hi : i = goal
      · subst hi
        simp [filled, Assoc.get?_put_of_ne _ _ hq, dataAt_of_getElem? htarget]
      · by_cases hi' : i = place
        · subst hi'
          simp [hi, emptied, Assoc.get?_erase_of_ne _ hq, dataAt_of_getElem? hnode]
        · simp [hi, hi']

end Cluster

end ClusterKv

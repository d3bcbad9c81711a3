import ClusterKv.Proofs.Cluster.Controls
import ClusterKv.Proofs.Store.Answers

/-! # Answers of nodes

Every answer bears the number of its request and suits it. A request that is turned away leaves all
items as they are. -/

namespace ClusterKv

theorem Store.execute_opaqueId (store : Store) (request : Request) (now : Instant) :
    (store.execute request now).2.opaqueId = request.opaqueId := by
  unfold Store.execute
  split
  · rfl
  next key hkey =>
  split
  · rfl
  · exact (Setting.kind_perform (by simp [hkey])).opaqueId

/-- The same verdict on a request of another number. -/
def Verdict.renumbered (id : UInt64) (verdict : Verdict) : Verdict :=
  { verdict with response := { verdict.response with opaqueId := id } }

/-- The number of a request comes back with the answer and counts for nothing else. -/
theorem Setting.perform_renumbered (given : Setting) (id : UInt64) (operation : Operation)
    (item : Option Item) :
    Setting.perform { given with id } operation item =
      (given.perform operation item).renumbered id := by
  cases operation with
  | get | flushAll => cases item <;> rfl
  | getAndTouch | getAndLock | unlock | concat | delete | touch =>
      cases item with
      | none => rfl
      | some item =>
          simp only [perform, getAndTouch, getAndLock, unlock, concat, delete, touch,
            apply_ite (Verdict.renumbered id)]
          rfl
  | store mode key value flags expiry cas =>
      simp only [perform, store, apply_ite (Verdict.renumbered id)]
      cases storeFault? mode cas item <;> rfl
  | counter direction key delta initial expiry =>
      cases item with
      | none => cases initial <;> rfl
      | some item =>
          simp only [perform, counter, apply_ite (Verdict.renumbered id)]
          cases counterValue? item.value <;> rfl

theorem Store.execute_renumbered (store : Store) (request : Request) (now : Instant) (id : UInt64) :
    (store.execute { request with opaqueId := id } now).2 =
      { (store.execute request now).2 with opaqueId := id } := by
  cases hkey : request.operation.key? with
  | none => simp [Store.execute, hkey, Response.success, Response.ofStatus]
  | some key =>
      cases hitems : store.partitions.get? request.partition with
      | none => simp [Store.execute, hkey, hitems, Response.ofStatus]
      | some items =>
          simp only [Store.execute, hkey, hitems]
          exact congrArg Verdict.response
            (Setting.perform_renumbered ⟨request.opaqueId, _, _, _⟩ id request.operation _)

/-- A node turns a request about a key away if and only if it does not keep its partition. -/
theorem Store.execute_turned_away {store : Store} {request : Request} {now : Instant}
    (hkey : request.operation.key? ≠ none)
    (h : (store.execute request now).2.status = .notMyPartition) :
    store.partitions.get? request.partition = none := by
  unfold Store.execute at h
  split at h
  · next hnone => exact absurd hnone hkey
  split at h
  · assumption
  · exact absurd h (Setting.kind_perform hkey).here

theorem Store.execute_of_unowned {store : Store} {request : Request} {now : Instant}
    (hkey : request.operation.key? ≠ none)
    (h : store.partitions.get? request.partition = none) :
    store.execute request now = (store, .ofStatus request.opaqueId .notMyPartition) := by
  unfold Store.execute
  split
  · next hnone => exact absurd hnone hkey
  · rw [h]

namespace Cluster

variable {nodes : List Node}

theorem executeOn_opaqueId (id : NodeId) (request : Request) (now : Instant) (nodes : List Node) :
    (executeOn id request now nodes).2.opaqueId = request.opaqueId := by
  rcases executeOn_cases id request now nodes with ⟨-, heq⟩ | ⟨_, node, -, -, heq⟩
  · rw [heq]
    rfl
  · rw [heq]
    exact node.store.execute_opaqueId request now

theorem executeOn_suits (id : NodeId) (request : Request) (now : Instant) (nodes : List Node) :
    Suits request.operation (executeOn id request now nodes).2 := by
  rcases executeOn_cases id request now nodes with ⟨-, heq⟩ | ⟨_, node, -, -, heq⟩
  · rw [heq]
    exact .refusal _ (by decide)
  · rw [heq]
    exact node.store.execute_suits request now

/-- The node of a name gives the answer. -/
theorem executeOn_of_find? {id : NodeId} {node : Node}
    (h : nodes.find? (·.id = id) = some node) (request : Request) (now : Instant) :
    (executeOn id request now nodes).2 = (node.store.execute request now).2 := by
  rcases executeOn_cases id request now nodes with ⟨hnone, -⟩ | ⟨_, other, -, hfind, heq⟩
  · simp [hnone] at h
  · obtain rfl : other = node := Option.some.inj (hfind.symm.trans h)
    rw [heq]
    rfl

/-- Nodes of other names stay as they are. -/
theorem find?_executeOn_of_ne {id other : NodeId} (hne : id ≠ other) (request : Request)
    (now : Instant) (nodes : List Node) :
    (executeOn id request now nodes).1.find? (·.id = other) = nodes.find? (·.id = other) := by
  induction nodes with
  | nil => rfl
  | cons node rest ih =>
      unfold executeOn
      split
      · next hid =>
        have hother : ¬ node.id = other := hid ▸ hne
        have hother' : ¬ (node.execute request now).1.id = other := hother
        simp [hother, hother']
      · simp only [List.find?_cons, ih]

/-- The items of all nodes. -/
def stores (nodes : List Node) : List Store := nodes.map (·.store)

/-- A request that is turned away leaves all items as they are. -/
theorem stores_of_turned_away {id : NodeId} {request : Request} {now : Instant}
    (hkey : request.operation.key? ≠ none)
    (h : (executeOn id request now nodes).2.status = .notMyPartition) :
    stores (executeOn id request now nodes).1 = stores nodes := by
  rcases executeOn_cases id request now nodes with ⟨-, heq⟩ | ⟨place, node, hplace, -, heq⟩
  · rw [heq]
  · rw [heq] at h ⊢
    have hunowned := Store.execute_turned_away hkey h
    have hsame : (node.execute request now).1.store = node.store := by
      simp [Node.execute, Store.execute_of_unowned hkey hunowned]
    obtain ⟨hlt, hnode⟩ := List.getElem?_eq_some_iff.mp hplace
    refine List.ext_getElem (by simp [stores]) fun i h₁ h₂ => ?_
    simp only [stores, List.getElem_map, List.getElem_set]
    split
    · next hi => subst hi; rw [hsame, hnode]
    · rfl

end Cluster

end ClusterKv

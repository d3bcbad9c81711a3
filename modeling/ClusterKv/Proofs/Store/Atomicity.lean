import ClusterKv.Proofs.Cluster.Answers

/-! # Requests are executed whole and in place

A request that fails leaves the store as it was, but for an item that had expired. One that succeeds
changes the item it names and nothing beside it; only a flush reaches further. Which partitions a
store owns is not for requests to change. -/

namespace ClusterKv.Store

variable {store : Store} {request : Request} {now : Instant}

/-- The item of a partition at a key, expired or not. -/
def item? (store : Store) (partition : UInt16) (key : Bytes) : Option Item :=
  (store.partitions.get? partition).bind (·.get? key)

/-- The item that a request names had expired; it alone is gone afterwards. -/
def Lapsed (store : Store) (request : Request) (now : Instant) (after : Store) : Prop :=
  ∃ key items item, request.operation.key? = some key ∧
    store.partitions.get? request.partition = some items ∧
    items.get? key = some item ∧ item.isExpired now = true ∧
    after = { store with partitions := store.partitions.put request.partition (items.erase key) }

/-- What the execution of a request may do to a store. -/
structure Effect (store : Store) (request : Request) (now : Instant) (after : Store)
    (response : Response) : Prop where
  numbered : response.opaqueId = request.opaqueId
  /-- A failure changes nothing, the next cas included; but it may clear away an expired item. -/
  failed : response.status ≠ .success → after = store ∨ store.Lapsed request now after
  /-- A success changes no other item than the one named. -/
  nearby : response.status = .success → ∀ key, request.operation.key? = some key →
    (∀ partition other, (partition, other) ≠ (request.partition, key) →
      after.item? partition other = store.item? partition other) ∧
    after.maxValueLength = store.maxValueLength
  /-- A flush empties every partition. -/
  flushed : request.operation = .flushAll →
    response.status = .success ∧ (∀ e ∈ after.partitions, e.2 = []) ∧
    after.nextCas = store.nextCas ∧ after.maxValueLength = store.maxValueLength
  /-- The same partitions are owned. -/
  owned : after.partitions.keys = store.partitions.keys
  /-- A request for a partition that is not owned is turned away. -/
  foreign : request.operation ≠ .flushAll → store.owns request.partition = false →
    response.status = .notMyPartition ∧ after = store

/-! ## The item named -/

theorem live?_eq_some {items : PartitionData} {key : Bytes} {item : Item}
    (h : live? items key now = some item) : items.get? key = some item :=
  (Option.filter_eq_some_iff.mp h).1

/-- Where no item is live, there is none or it has expired. -/
theorem live?_eq_none {items : PartitionData} {key : Bytes} (h : live? items key now = none) :
    items.get? key = none ∨ ∃ item, items.get? key = some item ∧ item.isExpired now = true := by
  cases hitem : items.get? key with
  | none => exact Or.inl rfl
  | some item =>
      refine Or.inr ⟨item, rfl, ?_⟩
      simpa [live?, hitem, Option.filter_some] using h

/-- Setting an item leaves the others of its partition alone. -/
theorem get?_setItem_of_ne {items : PartitionData} {key other : Bytes} (h : other ≠ key)
    (item : Option Item) : (setItem items key item).get? other = items.get? other := by
  cases item with
  | none => exact Assoc.get?_erase_of_ne items h
  | some item => exact Assoc.get?_put_of_ne items item h

/-- Leaving an item as it was changes nothing, unless it had expired. -/
theorem setItem_live? (items : PartitionData) (key : Bytes) (now : Instant) :
    setItem items key (live? items key now) = items ∨
      ∃ item, items.get? key = some item ∧ item.isExpired now = true ∧
        setItem items key (live? items key now) = items.erase key := by
  cases hlive : live? items key now with
  | some item => exact Or.inl (Assoc.put_of_get?_eq_some (live?_eq_some hlive))
  | none =>
      rcases live?_eq_none hlive with hnone | ⟨item, hitem, hexpired⟩
      · exact Or.inl (Assoc.erase_of_get?_eq_none hnone)
      · exact Or.inr ⟨item, hitem, hexpired, rfl⟩

/-! ## The three ways of execution -/

theorem key?_eq_none_iff {operation : Operation} :
    operation.key? = none ↔ operation = .flushAll := by
  cases operation <;> simp [Operation.key?]

theorem execute_flush (h : request.operation.key? = none) :
    store.execute request now = (store.flush, .success request.opaqueId 0) := by
  simp [execute, h]

/-- What the store knows for the execution of a request. -/
def setting (store : Store) (request : Request) (now : Instant) : Setting :=
  ⟨request.opaqueId, now, store.nextCas, store.maxValueLength⟩

/-- The store once there is a verdict on one item. -/
def settle (store : Store) (partition : UInt16) (items : PartitionData) (key : Bytes)
    (verdict : Verdict) : Store :=
  { store with
    partitions := store.partitions.put partition (setItem items key verdict.item)
    nextCas := if verdict.drew then store.nextCas + 1 else store.nextCas }

theorem execute_here {key : Bytes} {items : PartitionData}
    (hkey : request.operation.key? = some key)
    (hitems : store.partitions.get? request.partition = some items) :
    let verdict := (store.setting request now).perform request.operation (live? items key now)
    store.execute request now =
      (store.settle request.partition items key verdict, verdict.response) := by
  simp only [execute, hkey, hitems]
  rfl

theorem keys_settle {partition : UInt16} {items : PartitionData}
    (h : store.partitions.get? partition = some items) (key : Bytes) (verdict : Verdict) :
    (store.settle partition items key verdict).partitions.keys = store.partitions.keys :=
  Assoc.keys_put_of_get?_eq_some _ h

theorem item?_settle_of_ne {partition other : UInt16} {items : PartitionData} {key key' : Bytes}
    (h : store.partitions.get? partition = some items) (verdict : Verdict)
    (hne : (other, key') ≠ (partition, key)) :
    (store.settle partition items key verdict).item? other key' = store.item? other key' := by
  by_cases hother : other = partition
  · subst hother
    have hkey : key' ≠ key := fun heq => hne (heq ▸ rfl)
    simp [settle, item?, h, get?_setItem_of_ne hkey]
  · simp [settle, item?, Assoc.get?_put_of_ne _ _ hother]

/-- A refusal leaves the store as it was, but for an expired item. -/
theorem settle_refused {key : Bytes} {items : PartitionData} {response : Response}
    (hkey : request.operation.key? = some key)
    (hitems : store.partitions.get? request.partition = some items) :
    let after := store.settle request.partition items key ⟨live? items key now, false, response⟩
    after = store ∨ store.Lapsed request now after := by
  rcases setItem_live? items key now with hsame | ⟨item, hitem, hexpired, hgone⟩
  · left
    simp [settle, hsame, Assoc.put_of_get?_eq_some hitems]
  · exact Or.inr ⟨key, items, item, hkey, hitems, hitem, hexpired, by simp [settle, hgone]⟩

/-! ## All that a request can do -/

theorem effect_flush (h : request.operation = .flushAll) :
    store.Effect request now store.flush (.success request.opaqueId 0) where
  numbered := rfl
  failed hfailed := absurd rfl hfailed
  nearby _ key hkey := by simp [h, Operation.key?] at hkey
  flushed _ := ⟨rfl, by simp [flush], rfl, rfl⟩
  owned := Assoc.keys_map_values store.partitions fun _ _ => []
  foreign hother := absurd h hother

theorem effect_foreign {key : Bytes} (hkey : request.operation.key? = some key) :
    store.Effect request now store (.ofStatus request.opaqueId .notMyPartition) where
  numbered := rfl
  failed _ := Or.inl rfl
  nearby hsuccess := nomatch hsuccess
  flushed hflush := by simp [hflush, Operation.key?] at hkey
  owned := rfl
  foreign _ _ := ⟨rfl, rfl⟩

theorem effect_here {key : Bytes} {items : PartitionData} {verdict : Verdict}
    (hkey : request.operation.key? = some key)
    (hitems : store.partitions.get? request.partition = some items)
    (hkind : Setting.Kind (store.setting request now) (live? items key now) verdict) :
    store.Effect request now (store.settle request.partition items key verdict)
      verdict.response where
  numbered := hkind.opaqueId
  failed hfailed := by
    cases hkind with
    | refused status => exact settle_refused hkey hitems
    | shown _ _ _ success => exact absurd success hfailed
    | written _ _ success => exact absurd success hfailed
    | dropped => exact absurd rfl hfailed
  nearby _ other hother := by
    obtain rfl : key = other := Option.some.inj (hkey.symm.trans hother)
    exact ⟨fun _ _ hne => item?_settle_of_ne hitems verdict hne, rfl⟩
  flushed hflush := by simp [hflush, Operation.key?] at hkey
  owned := keys_settle hitems key verdict
  foreign _ hforeign := by simp [owns, Assoc.has, hitems] at hforeign

/-- A request is executed whole or not at all, and reaches no further than it says. -/
theorem execute_effect (store : Store) (request : Request) (now : Instant) :
    store.Effect request now (store.execute request now).1 (store.execute request now).2 := by
  cases hkey : request.operation.key? with
  | none =>
      rw [execute_flush hkey]
      exact effect_flush (key?_eq_none_iff.mp hkey)
  | some key =>
      cases hitems : store.partitions.get? request.partition with
      | none =>
          rw [execute_of_unowned (by simp [hkey]) hitems]
          exact effect_foreign hkey
      | some items =>
          rw [execute_here hkey hitems]
          exact effect_here hkey hitems (Setting.kind_perform (by simp [hkey]))

end ClusterKv.Store

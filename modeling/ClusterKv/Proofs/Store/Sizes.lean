import ClusterKv.Proofs.Store.Atomicity
import ClusterKv.Proofs.Text.Decimal

/-! # How long values get

Nodes that share a bound on the length of values never come to store a longer one, whatever they are
asked and whichever partitions move between them, and no answer of theirs holds a longer one. -/

namespace ClusterKv

/-! ## Counters -/

/-- A counter has at most twenty digits. -/
theorem Bytes.length_ofDecimal_le (n : UInt64) : (Bytes.ofDecimal n.toNat).length ≤ 20 := by
  rw [ofDecimal_eq, List.length_map, Nat.length_toDigits_le_iff (by decide) (by decide)]
  exact Nat.lt_trans n.toNat_lt (by decide)

/-! ## One item -/

/-- Neither the item that is left behind nor the answer is longer than the bound. -/
structure Verdict.Bounded (bound : Nat) (verdict : Verdict) : Prop where
  kept : ∀ item, verdict.item = some item → item.value.length ≤ bound
  told : ∀ value, verdict.response.value = some value → value.length ≤ bound

namespace Setting

variable {given : Setting} {bound : Nat} {item : Option Item} {operation : Operation}

/-- Where the value comes from that a verdict leaves behind. Only what was there before is told. -/
inductive Source (given : Setting) (operation : Operation) (item : Option Item) : Verdict → Prop
  | refused (status : Status) : Source given operation item (given.refuse item status)
  | kept {old new : Item} (found : item = some old) (same : new.value = old.value) (drew : Bool)
      {response : Response} (told : response.value = none ∨ response.value = some old.value) :
      Source given operation item ⟨some new, drew, response⟩
  | fitted {new : Item} (fits : new.value.length ≤ given.limit) :
      Source given operation item (given.write new)
  /-- Nobody looks how long a counter gets. -/
  | counted {direction : CounterDirection} {key : Bytes} {delta : UInt64}
      {initial : Option UInt64} {expiry : UInt32}
      (counts : operation = .counter direction key delta initial expiry) {new : Item} {n : UInt64}
      (digits : new.value = Bytes.ofDecimal n.toNat) :
      Source given operation item ⟨some new, true, given.counted n⟩
  | dropped (drew : Bool) (cas : UInt64) :
      Source given operation item ⟨none, drew, .success given.id cas⟩

theorem source_perform (operation : Operation) :
    Source given operation item (given.perform operation item) := by
  cases operation with
  | flushAll => exact .dropped false 0
  | store mode key value flags expiry cas =>
      simp only [perform, store]
      split
      · exact .refused _
      next hshort =>
      split
      · exact .refused _
      split
      · exact .refused _
      · exact .fitted (Nat.le_of_not_lt hshort)
  | get | getAndTouch | getAndLock | unlock | touch =>
      cases item with
      | none => exact .refused _
      | some old =>
          simp only [perform, get, getAndTouch, getAndLock, unlock, touch]
          -- each of them leaves the value as it is, and shows it or nothing
          repeat' split
          all_goals first
            | exact .refused _
            | exact .kept rfl (by rfl) _ (Or.inl (by rfl))
            | exact .kept rfl (by rfl) _ (Or.inr (by rfl))
  | concat mode key value cas =>
      cases item with
      | none => exact .refused _
      | some old =>
          simp only [perform, concat]
          split
          · exact .refused _
          split
          · exact .refused _
          split
          · exact .refused _
          next hshort =>
          have hlength : old.value.length + value.length ≤ given.limit := Nat.le_of_not_lt hshort
          refine .fitted ?_
          cases mode <;> simp <;> omega
  | counter direction key delta initial expiry =>
      cases item with
      | none =>
          cases initial with
          | none => exact .refused _
          | some value => exact .counted rfl rfl
      | some old =>
          simp only [perform, counter]
          split
          · exact .refused _
          split
          · exact .refused _
          · exact .counted rfl rfl
  | delete key cas =>
      cases item with
      | none => exact .refused _
      | some old =>
          simp only [perform, delete]
          split
          · exact .refused _
          split
          · exact .refused _
          · exact .dropped true _

/-- Within a bound that has room for counters, no operation makes a value too long. -/
theorem bounded_perform (hlimit : given.limit ≤ bound) (hdigits : 20 ≤ bound)
    (hitem : ∀ old, item = some old → old.value.length ≤ bound) (operation : Operation) :
    (given.perform operation item).Bounded bound := by
  have hsource : Source given operation item (given.perform operation item) :=
    source_perform operation
  generalize given.perform operation item = verdict at hsource ⊢
  cases hsource with
  | refused => exact ⟨hitem, nofun⟩
  | @kept old new found same drew response told =>
      have hold : old.value.length ≤ bound := hitem old found
      refine ⟨?_, fun value hvalue => ?_⟩
      · rintro _ ⟨⟩
        rwa [same]
      · rcases told with told | told <;> cases told.symm.trans hvalue
        exact hold
  | fitted fits =>
      refine ⟨?_, nofun⟩
      rintro _ ⟨⟩
      exact Nat.le_trans fits hlimit
  | @counted _ _ _ _ _ _ new n digits =>
      refine ⟨?_, nofun⟩
      rintro _ ⟨⟩
      rw [digits]
      exact Nat.le_trans (Bytes.length_ofDecimal_le n) hdigits
  | dropped => exact ⟨nofun, nofun⟩

end Setting

/-! ## All items of a store -/

/-- No item of a partition is longer than the bound. -/
def BoundedItems (bound : Nat) (items : PartitionData) : Prop :=
  ∀ e ∈ items, e.2.value.length ≤ bound

namespace BoundedItems

variable {bound : Nat} {items more : PartitionData} {key : Bytes}

theorem nil : BoundedItems bound [] := nofun

theorem put (h : BoundedItems bound items) {item : Item} (hitem : item.value.length ≤ bound) :
    BoundedItems bound (Assoc.put items key item) := by
  intro e he
  rcases Assoc.mem_put he with he | rfl
  · exact h e he
  · exact hitem

theorem setItem (h : BoundedItems bound items) {item : Option Item}
    (hitem : ∀ new, item = some new → new.value.length ≤ bound) :
    BoundedItems bound (Store.setItem items key item) := by
  cases item with
  | none => exact fun e he => h e (List.mem_of_mem_filter he)
  | some new => exact h.put (hitem new rfl)

theorem adopt (h : BoundedItems bound items) (hmore : BoundedItems bound more) :
    BoundedItems bound (more.foldl (fun items e => Assoc.put items e.1 e.2) items) := by
  induction more generalizing items with
  | nil => exact h
  | cons e more ih =>
      obtain ⟨he, hmore⟩ := List.forall_mem_cons.mp hmore
      exact ih (h.put he) hmore

end BoundedItems

namespace Store

variable {bound : Nat} {store giver : Store} {partition : UInt16} {data : PartitionData}

/-- No value is longer than the bound, or allowed to be. -/
structure Bounded (bound : Nat) (store : Store) : Prop where
  limit : store.maxValueLength ≤ bound
  items : ∀ e ∈ store.partitions, BoundedItems bound e.2

theorem Bounded.get? (h : store.Bounded bound)
    (hdata : store.partitions.get? partition = some data) :
    BoundedItems bound data :=
  h.items _ (Assoc.mem_of_get? hdata)

theorem Bounded.put (h : store.Bounded bound) (hdata : BoundedItems bound data) (nextCas : UInt64) :
    Bounded bound
      { store with partitions := store.partitions.put partition data, nextCas } := by
  refine ⟨h.limit, fun e he => ?_⟩
  rcases Assoc.mem_put he with he | rfl
  · exact h.items e he
  · exact hdata

theorem bounded_ofOwned (owned : List UInt16) {limit : Nat} (h : limit ≤ bound) :
    (ofOwned owned limit).Bounded bound := by
  suffices hempty : ∀ (owned : List UInt16) (partitions : Assoc UInt16 PartitionData),
      (∀ e ∈ partitions, e.2 = []) →
      ∀ e ∈ owned.foldl (fun partitions p => partitions.put p []) partitions, e.2 = [] from
    ⟨h, fun e he => hempty owned [] nofun e he ▸ BoundedItems.nil⟩
  intro owned
  induction owned with
  | nil => exact fun _ hnone => hnone
  | cons p owned ih =>
      intro partitions hnone
      refine ih _ fun e he => ?_
      rcases Assoc.mem_put he with he | rfl
      · exact hnone e he
      · rfl

theorem Bounded.release (h : store.Bounded bound) (partition : UInt16) :
    (store.release partition).1.Bounded bound := by
  unfold Store.release
  split
  · exact h
  · exact ⟨h.limit, fun e he => h.items e (List.mem_of_mem_filter he)⟩

theorem Bounded.released (h : store.Bounded bound)
    (hdata : (store.release partition).2 = some data) : BoundedItems bound data := by
  unfold Store.release at hdata
  split at hdata
  · cases hdata
  · next heq =>
    cases hdata
    exact h.get? heq

theorem Bounded.adopt (h : store.Bounded bound) (hdata : BoundedItems bound data)
    (partition : UInt16) : (store.adopt partition data).Bounded bound := by
  refine h.put (.adopt ?_ hdata) store.nextCas
  cases hown : store.partitions.get? partition with
  | none => exact .nil
  | some own => exact h.get? hown

/-- What a request does leaves every value within the bound, and so is what it tells. -/
theorem Bounded.execute (h : store.Bounded bound) (hdigits : 20 ≤ bound) (request : Request)
    (now : Instant) :
    (store.execute request now).1.Bounded bound ∧
      ∀ value, (store.execute request now).2.value = some value → value.length ≤ bound := by
  cases hkey : request.operation.key? with
  | none =>
      rw [execute_flush hkey]
      refine ⟨⟨h.limit, fun e he => ?_⟩, nofun⟩
      obtain ⟨old, -, rfl⟩ := List.mem_map.mp he
      exact .nil
  | some key =>
      cases hitems : store.partitions.get? request.partition with
      | none =>
          rw [execute_of_unowned (by simp [hkey]) hitems]
          exact ⟨h, nofun⟩
      | some items =>
          have hdata := h.get? hitems
          have hverdict : ((store.setting request now).perform request.operation
              (live? items key now)).Bounded bound :=
            Setting.bounded_perform h.limit hdigits
              (fun old hold => hdata _ (Assoc.mem_of_get? (live?_eq_some hold))) _
          rw [execute_here hkey hitems]
          exact ⟨h.put (hdata.setItem hverdict.kept) _, hverdict.told⟩

/-! ## Every history -/

/-- The stores that nodes come to have, where no node allows values beyond the bound: empty ones,
and whatever requests and the moves of partitions between nodes make of them. -/
inductive Made (bound : Nat) : Store → Prop where
  | ofOwned (owned : List UInt16) {limit : Nat} (h : limit ≤ bound) :
      Made bound (ofOwned owned limit)
  | execute {store : Store} (made : Made bound store) (request : Request) (now : Instant) :
      Made bound (store.execute request now).1
  | release {store : Store} (made : Made bound store) (partition : UInt16) :
      Made bound (store.release partition).1
  /-- A partition comes from another node, under its own number or another. -/
  | adopt {store giver : Store} (made : Made bound store) (giving : Made bound giver)
      {from_ : UInt16} {data : PartitionData} (given : (giver.release from_).2 = some data)
      (partition : UInt16) : Made bound (store.adopt partition data)
  /-- A partition that no node has is taken over empty. -/
  | found {store : Store} (made : Made bound store) (partition : UInt16) :
      Made bound (store.adopt partition [])

theorem Made.bounded (h : store.Made bound) (hdigits : 20 ≤ bound) : store.Bounded bound := by
  induction h with
  | ofOwned owned h => exact bounded_ofOwned owned h
  | execute _ request now ih => exact (ih.execute hdigits request now).1
  | release _ partition ih => exact ih.release partition
  | adopt _ _ given partition ih giving => exact ih.adopt (giving.released given) partition
  | found _ partition ih => exact ih.adopt .nil partition

end Store

end ClusterKv

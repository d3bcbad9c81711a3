import ClusterKv.Proofs.Cluster.Tables
import ClusterKv.Proofs.Store.Runs
import ClusterKv.Proofs.Store.Sizes

/-! # What the limit on values limits

A store holds what it is given to its limit, and what a value grows to. It does not hold counters to
it: a value beyond the limit is the number that a request for a counter has come to. -/

namespace ClusterKv

namespace Execution

/-- A request for a counter comes to a number, and the value is its digits. -/
structure Counts (e : Execution) (p : UInt16) (key value : Bytes) : Prop where
  partition : e.request.partition = p
  counter : ∃ direction delta initial expiry,
    e.request.operation = .counter direction key delta initial expiry
  reported : ∃ n, e.response.counter = some n ∧ value = Bytes.ofDecimal n.toNat

/-- An execution leaves a value at a key. -/
def Leaves (e : Execution) (p : UInt16) (key value : Bytes) : Prop :=
  ∃ item, e.after.item? p key = some item ∧ item.value = value

variable {e : Execution} {p : UInt16} {key value : Bytes}

theorem Counts.length_le (h : e.Counts p key value) : value.length ≤ 20 := by
  obtain ⟨n, -, rfl⟩ := h.reported
  exact Bytes.length_ofDecimal_le n

/-- The value of an item is the one from before, or within the limit, or the digits of a counter. -/
theorem source_of_item? {item : Item} (h : e.after.item? p key = some item) :
    (∃ old, e.before.item? p key = some old ∧ item.value = old.value) ∨
      item.value.length ≤ e.before.maxValueLength ∨ e.Counts p key item.value := by
  cases e.bears p key with
  | flushed _ emptied =>
      rw [emptied, Store.item?_flush] at h
      cases h
  | spared _ kept => exact Or.inl ⟨item, kept.symm.trans h, rfl⟩
  | judged judged =>
      obtain ⟨⟨hpartition, hkey⟩, -, settled, answered, -⟩ := judged
      rw [settled] at h
      have hsource : Setting.Source _ _ _ (e.verdict (e.before.found? p key e.now)) :=
        Setting.source_perform e.request.operation
      generalize e.verdict (e.before.found? p key e.now) = verdict at hsource h answered
      cases hsource with
      | refused => exact Or.inl ⟨item, (Store.found?_eq_some.mp h).1, rfl⟩
      | kept found same =>
          obtain rfl := Option.some.inj h
          exact Or.inl ⟨_, (Store.found?_eq_some.mp found).1, same⟩
      | fitted fits =>
          obtain rfl := Option.some.inj h
          exact Or.inr (Or.inl fits)
      | counted counts digits =>
          obtain rfl := Option.some.inj h
          rw [counts] at hkey
          obtain rfl := Option.some.inj hkey
          exact Or.inr (Or.inr
            ⟨hpartition, ⟨_, _, _, _, counts⟩, _, by rw [answered]; rfl, digits⟩)
      | dropped => cases h

end Execution

/-- The last of the executions to set the value was that of a request for a counter. -/
def LastCounted (history : List Execution) (p : UInt16) (key value : Bytes) : Prop :=
  ∃ earlier e later, history = earlier ++ e :: later ∧ e.Counts p key value ∧
    ∀ other ∈ later, other.Leaves p key value

theorem LastCounted.cons {history : List Execution} {p : UInt16} {key value : Bytes}
    (h : LastCounted history p key value) (e : Execution) :
    LastCounted (e :: history) p key value := by
  obtain ⟨earlier, counting, later, rfl, hcounts, hleaves⟩ := h
  exact ⟨e :: earlier, counting, later, rfl, hcounts, hleaves⟩

theorem LastCounted.length_le {history : List Execution} {p : UInt16} {key value : Bytes}
    (h : LastCounted history p key value) : value.length ≤ 20 := by
  obtain ⟨-, e, -, -, hcounts, -⟩ := h
  exact hcounts.length_le

namespace Store

variable {store : Store} {arrivals : List Arrival} {p : UInt16} {key : Bytes} {item : Item}

/-- After any run the value of an item is the one from the start, or within the limit, or the digits
of a counter. -/
theorem source_of_run (h : (store.run arrivals).item? p key = some item) :
    (∃ old, store.item? p key = some old ∧ item.value = old.value ∧
        ∀ e ∈ store.executions arrivals, e.Leaves p key item.value) ∨
      item.value.length ≤ store.maxValueLength ∨
        LastCounted (store.executions arrivals) p key item.value := by
  induction arrivals generalizing store with
  | nil => exact Or.inl ⟨item, h, rfl, nofun⟩
  | cons arrival arrivals ih =>
      have hlimit : (Execution.after ⟨arrival, store⟩).maxValueLength = store.maxValueLength :=
        store.execute_maxValueLength arrival.request arrival.now
      rw [executions_cons]
      rcases ih h with ⟨old, hold, hvalue, hleaves⟩ | hfits | hcounted
      · rw [hvalue] at hleaves ⊢
        rcases Execution.source_of_item? (e := ⟨arrival, store⟩) hold with
          ⟨oldest, holdest, hsame⟩ | hfits | hcounts
        · refine Or.inl ⟨oldest, holdest, hsame, ?_⟩
          exact List.forall_mem_cons.mpr ⟨⟨old, hold, rfl⟩, hleaves⟩
        · exact Or.inr (Or.inl hfits)
        · exact Or.inr (Or.inr ⟨[], _, _, rfl, hcounts, hleaves⟩)
      · exact Or.inr (Or.inl (hlimit ▸ hfits))
      · exact Or.inr (Or.inr (hcounted.cons _))

/-- A store has no values beyond its limit but counters, and these have twenty digits at most. -/
theorem only_counters_exceed (owned : List UInt16) (limit : Nat)
    (h : ((ofOwned owned limit).run arrivals).item? p key = some item) :
    item.value.length ≤ limit ∨ item.value.length ≤ 20 ∧
      LastCounted ((ofOwned owned limit).executions arrivals) p key item.value := by
  rcases source_of_run h with ⟨old, hold, -⟩ | hfits | hcounted
  · rw [item?_ofOwned] at hold
    cases hold
  · exact Or.inl hfits
  · exact Or.inr ⟨hcounted.length_le, hcounted⟩

end Store

/-- A store of a limit of four is asked for a counter that starts at a number of six digits. -/
def counting : List Arrival := [⟨⟨1, 0, .counter .increment [107] 1 (some 123456) 0⟩, 0⟩]

theorem item?_counting :
    ((Store.ofOwned [0] 4).run counting).item? 0 [107] =
      some ⟨[49, 50, 51, 52, 53, 54], 0, 1, none, none⟩ := by
  decide +kernel

theorem counting_exceeds :
    ∃ item, ((Store.ofOwned [0] 4).run counting).item? 0 [107] = some item ∧
      ¬item.value.length ≤ 4 :=
  ⟨_, item?_counting, by decide⟩

theorem counting_counted :
    ∃ item, ((Store.ofOwned [0] 4).run counting).item? 0 [107] = some item ∧
      LastCounted ((Store.ofOwned [0] 4).executions counting) 0 [107] item.value := by
  refine ⟨_, item?_counting, ?_⟩
  rcases Store.only_counters_exceed [0] 4 item?_counting with hfits | ⟨-, hcounted⟩
  · exact absurd hfits (by decide)
  · exact hcounted

end ClusterKv

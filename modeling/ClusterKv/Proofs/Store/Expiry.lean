import ClusterKv.Proofs.Cluster.Tables
import ClusterKv.Proofs.Store.Runs

/-! # Expired items are not seen

A store drops an expired item only when a request is about it. Nobody can tell it from a store that
drops all expired items before each request. -/

namespace ClusterKv

namespace Store

variable {store other third : Store} {now : Instant}

/-! ## Dropping all expired items -/

/-- The items of a partition that are found under their keys. -/
def liveItems (items : PartitionData) (now : Instant) : PartitionData :=
  items.filter fun e => (live? items e.1 now).isSome

/-- The store without the expired items of all partitions. -/
def purge (store : Store) (now : Instant) : Store :=
  { store with partitions := store.partitions.map fun e => (e.1, liveItems e.2 now) }

/-- Executes requests in order, and before each of them drops every expired item. -/
def purgingExecutions : Store → List Arrival → List Execution
  | _, [] => []
  | store, arrival :: rest =>
    let e : Execution := ⟨arrival, store.purge arrival.now⟩
    e :: purgingExecutions e.after rest

theorem get?_liveItems (items : PartitionData) (key : Bytes) (now : Instant) :
    (liveItems items now).get? key = live? items key now := by
  rw [liveItems, Assoc.get?_filter_key items (fun key => (live? items key now).isSome)]
  cases hlive : live? items key now with
  | none => rfl
  | some item => exact live?_eq_some hlive

theorem owns_purge (store : Store) (now : Instant) (p : UInt16) :
    (store.purge now).owns p = store.owns p := by
  simp only [owns, Assoc.has, purge]
  rw [Assoc.get?_map_values store.partitions fun _ items => liveItems items now, Option.isSome_map]

theorem item?_purge (store : Store) (now : Instant) (p : UInt16) (key : Bytes) :
    (store.purge now).item? p key = store.found? p key now := by
  simp only [item?, purge, found?]
  rw [Assoc.get?_map_values store.partitions fun _ items => liveItems items now]
  cases store.partitions.get? p with
  | none => rfl
  | some items => exact get?_liveItems items key now

/-! ## Stores that agree on what has not expired -/

/-- Two stores that differ at most in items that have expired. -/
structure Agree (store : Store) (now : Instant) (other : Store) : Prop where
  owned : ∀ p, store.owns p = other.owns p
  found : ∀ p key, store.found? p key now = other.found? p key now
  nextCas : store.nextCas = other.nextCas
  maxValueLength : store.maxValueLength = other.maxValueLength

theorem Agree.refl (now : Instant) (store : Store) : store.Agree now store :=
  ⟨fun _ => rfl, fun _ _ => rfl, rfl, rfl⟩

theorem Agree.trans (h : store.Agree now other) (h' : other.Agree now third) :
    store.Agree now third where
  owned p := (h.owned p).trans (h'.owned p)
  found p key := (h.found p key).trans (h'.found p key)
  nextCas := h.nextCas.trans h'.nextCas
  maxValueLength := h.maxValueLength.trans h'.maxValueLength

/-- What has expired stays expired. -/
theorem isExpired_mono {item : Item} {later : Instant} (h : now ≤ later)
    (hexpired : item.isExpired now = true) : item.isExpired later = true := by
  simp only [Item.isExpired, Option.any_eq_true, decide_eq_true_eq] at hexpired ⊢
  obtain ⟨at_, hat, hle⟩ := hexpired
  exact ⟨at_, hat, Nat.le_trans hle h⟩

theorem found?_later {later : Instant} (h : now ≤ later) (store : Store) (p : UInt16)
    (key : Bytes) :
    store.found? p key later =
      (store.found? p key now).filter fun item => !item.isExpired later := by
  unfold found?
  rw [Option.filter_filter]
  congr 1
  funext item
  cases hexpired : item.isExpired now with
  | false => simp
  | true => simp [isExpired_mono h hexpired]

theorem Agree.later {later : Instant} (h : store.Agree now other) (hlater : now ≤ later) :
    store.Agree later other where
  owned := h.owned
  found p key := by rw [found?_later hlater, found?_later hlater, h.found]
  nextCas := h.nextCas
  maxValueLength := h.maxValueLength

theorem agree_purge (now : Instant) (store : Store) : store.Agree now (store.purge now) where
  owned p := (owns_purge store now p).symm
  found p key := by
    have hpurged : (store.purge now).found? p key now =
        (store.found? p key now).filter fun item => !item.isExpired now := by
      rw [found?, item?_purge]
    rw [hpurged, ← found?_later (Nat.le_refl now)]
  nextCas := rfl
  maxValueLength := rfl

end Store

/-! ## One request -/

namespace Execution

/-- Two executions of one request that cannot be told apart: they are answered alike, and the
stores afterwards agree. -/
structure Alike (e other : Execution) : Prop where
  arrival : e.toArrival = other.toArrival
  answered : e.response = other.response
  agree : e.after.Agree e.now other.after

variable {arrival : Arrival} {store other : Store}

/-- Executions leave the same partitions and the same limit to stores that agree. -/
theorem agree_after (h : store.Agree arrival.now other)
    (hfound : ∀ p key, (after ⟨arrival, store⟩).found? p key arrival.now =
      (after ⟨arrival, other⟩).found? p key arrival.now)
    (hnext : (after ⟨arrival, store⟩).nextCas = (after ⟨arrival, other⟩).nextCas) :
    (after ⟨arrival, store⟩).Agree arrival.now (after ⟨arrival, other⟩) where
  owned p := by rw [owns_after, owns_after, h.owned]
  found := hfound
  nextCas := hnext
  maxValueLength := by
    rw [after, after, Store.execute_maxValueLength, Store.execute_maxValueLength, h.maxValueLength]

/-- Flushed stores agree if they did before. -/
theorem alike_of_flush (h : store.Agree arrival.now other)
    (hflush : arrival.request.operation = .flushAll) : Alike ⟨arrival, store⟩ ⟨arrival, other⟩ := by
  obtain ⟨hafter, hanswered⟩ := of_flush (e := ⟨arrival, store⟩) hflush
  obtain ⟨hafter', hanswered'⟩ := of_flush (e := ⟨arrival, other⟩) hflush
  refine ⟨rfl, hanswered.trans hanswered'.symm, agree_after h (fun p key => ?_) ?_⟩
  · simp only [hafter, hafter', Store.found?, Store.item?_flush]
  · rw [hafter, hafter']
    exact h.nextCas

/-- Stores that agree turn the same requests away. -/
theorem alike_of_declined (h : store.Agree arrival.now other)
    (hdeclined : Declined ⟨arrival, store⟩) (hdeclined' : Declined ⟨arrival, other⟩) :
    Alike ⟨arrival, store⟩ ⟨arrival, other⟩ where
  arrival := rfl
  answered := hdeclined.answered.trans hdeclined'.answered.symm
  agree := by rwa [hdeclined.same, hdeclined'.same]

theorem found?_of_not_concerns {e : Execution} {p : UInt16} {key : Bytes} {now : Instant}
    (hkeyed : e.request.operation ≠ .flushAll) (h : ¬e.Concerns p key) :
    e.after.found? p key now = e.before.found? p key now := by
  rw [Store.found?, item?_of_not_concerns hkeyed h, Store.found?]

/-- Stores that agree come to the same verdict on an item. -/
theorem verdict_of_agree (h : store.Agree arrival.now other) (p : UInt16) (key : Bytes) :
    verdict ⟨arrival, store⟩ (store.found? p key arrival.now) =
      verdict ⟨arrival, other⟩ (other.found? p key arrival.now) := by
  simp only [verdict, Store.setting, h.found, h.nextCas, h.maxValueLength]

/-- Stores that agree before a verdict agree after it. -/
theorem alike_of_judged {p : UInt16} {key : Bytes} (h : store.Agree arrival.now other)
    (hjudged : Judged ⟨arrival, store⟩ p key) (hjudged' : Judged ⟨arrival, other⟩ p key) :
    Alike ⟨arrival, store⟩ ⟨arrival, other⟩ := by
  have hverdict := verdict_of_agree h p key
  refine ⟨rfl, ?_, agree_after h (fun q k => ?_) ?_⟩
  · rw [hjudged.answered, hjudged'.answered]
    exact congrArg Verdict.response hverdict
  · by_cases hconcerned : Concerns ⟨arrival, store⟩ q k
    · obtain ⟨rfl, rfl⟩ := hjudged.concerned.unique hconcerned
      rw [Store.found?, Store.found?, hjudged.settled, hjudged'.settled, hverdict]
    · have hkeyed : arrival.request.operation ≠ .flushAll :=
        mt Store.key?_eq_none_iff.mpr hjudged.concerned.keyed
      rw [found?_of_not_concerns hkeyed hconcerned,
        found?_of_not_concerns (e := ⟨arrival, other⟩) hkeyed hconcerned]
      exact h.found q k
  · rw [hjudged.counter, hjudged'.counter, hverdict, h.nextCas]

/-- Stores that agree answer a request alike, and agree afterwards. -/
theorem alike_of_agree (h : store.Agree arrival.now other) :
    Alike ⟨arrival, store⟩ ⟨arrival, other⟩ := by
  by_cases hflush : arrival.request.operation = .flushAll
  · exact alike_of_flush h hflush
  · obtain ⟨key, hkey⟩ := Operation.exists_key hflush
    have hconcerned (store : Store) : Concerns ⟨arrival, store⟩ arrival.request.partition key :=
      ⟨rfl, hkey⟩
    cases howned : store.owns arrival.request.partition with
    | true =>
        exact alike_of_judged h ((hconcerned store).judged howned)
          ((hconcerned other).judged (h.owned _ ▸ howned))
    | false =>
        exact alike_of_declined h ((hconcerned store).declined howned)
          ((hconcerned other).declined (h.owned _ ▸ howned))

end Execution

/-! ## Every run -/

namespace Store

variable {store other : Store} {now : Instant} {arrivals : List Arrival}

/-- Stores that agree before a run cannot be told apart by it, even if one of them drops what has
expired before each request. -/
theorem Agree.alike (h : store.Agree now other) (hlater : ∀ arrival ∈ arrivals, now ≤ arrival.now)
    (hordered : arrivals.Pairwise (·.now ≤ ·.now)) :
    List.Forall₂ Execution.Alike (store.executions arrivals)
      (other.purgingExecutions arrivals) := by
  induction arrivals generalizing store other now with
  | nil => exact .nil
  | cons arrival arrivals ih =>
      obtain ⟨hnow, -⟩ := List.forall_mem_cons.mp hlater
      obtain ⟨hafter, hordered⟩ := List.pairwise_cons.mp hordered
      have halike := Execution.alike_of_agree
        ((h.later hnow).trans (agree_purge arrival.now other))
      exact .cons halike (ih halike.agree hafter hordered)

/-- A store that drops what has expired before each request has nothing expired then. -/
theorem live_of_purging :
    ∀ e ∈ store.purgingExecutions arrivals, ∀ p key item,
      e.before.item? p key = some item → item.isExpired e.now = false := by
  induction arrivals generalizing store with
  | nil => exact nofun
  | cons arrival arrivals ih =>
      refine List.forall_mem_cons.mpr ⟨fun p key item hitem => ?_, ih⟩
      rw [item?_purge] at hitem
      exact (found?_eq_some.mp hitem).2

/-- Nobody can tell that a store keeps expired items: one that has dropped all of them before each
request answers alike, and after each request has the same live items and the same counter. -/
theorem lazy_expiry_unobservable (store : Store) {arrivals : List Arrival}
    (hordered : arrivals.Pairwise (·.now ≤ ·.now)) :
    (∀ e ∈ store.purgingExecutions arrivals, ∀ p key item,
        e.before.item? p key = some item → item.isExpired e.now = false) ∧
      List.Forall₂ Execution.Alike (store.executions arrivals) (store.purgingExecutions arrivals) :=
  ⟨live_of_purging, (Agree.refl 0 store).alike (fun _ _ => Nat.zero_le _) hordered⟩

end Store

/-- Two items expire, and only one of them is asked for again. -/
def expiring : List Arrival :=
  [⟨⟨1, 0, .store .set [107] [118] 0 1 none⟩, 0⟩,
    ⟨⟨2, 0, .store .set [108] [118] 0 1 none⟩, 0⟩,
    ⟨⟨3, 0, .store .add [107] [119] 0 0 none⟩, 2 * Duration.perSecond⟩]

theorem expiring_unobservable :
    expiring.Pairwise (·.now ≤ ·.now) ∧
      ((Store.ofOwned [0]).run expiring).item? 0 [108] ≠ none ∧
      (∀ e ∈ (Store.ofOwned [0]).purgingExecutions expiring, ∀ p key item,
        e.before.item? p key = some item → item.isExpired e.now = false) ∧
      List.Forall₂ Execution.Alike ((Store.ofOwned [0]).executions expiring)
        ((Store.ofOwned [0]).purgingExecutions expiring) :=
  ⟨by decide, by decide +kernel, Store.lazy_expiry_unobservable _ (by decide)⟩

end ClusterKv

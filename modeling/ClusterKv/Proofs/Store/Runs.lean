import ClusterKv.Proofs.Store.Atomicity

/-! # Requests one after another

What a store makes of requests that come one after another. Each execution bears on the item of a
key in one of three ways: it is a flush, it leaves the item alone, or it comes to a verdict. -/

namespace ClusterKv

theorem Operation.exists_key {operation : Operation} (h : operation ≠ .flushAll) :
    ∃ key, operation.key? = some key :=
  Option.ne_none_iff_exists'.mp (mt Store.key?_eq_none_iff.mp h)

/-- A request and when it is executed. -/
structure Arrival where
  request : Request
  now : Instant

/-- A request that is executed, and the store as it was before. -/
structure Execution extends Arrival where
  before : Store

namespace Execution

variable (e : Execution)

/-- The store afterwards. -/
def after : Store := (e.before.execute e.request e.now).1

def response : Response := (e.before.execute e.request e.now).2

/-- The request is about the item of a key. -/
def Concerns (p : UInt16) (key : Bytes) : Prop :=
  e.request.partition = p ∧ e.request.operation.key? = some key

instance (p : UInt16) (key : Bytes) : Decidable (e.Concerns p key) :=
  inferInstanceAs (Decidable (_ ∧ _))

/-- What the request comes to, given the item that it finds. -/
def verdict (item : Option Item) : Verdict :=
  (e.before.setting e.request e.now).perform e.request.operation item

end Execution

namespace Store

/-- Executes requests in order. -/
def executions : Store → List Arrival → List Execution
  | _, [] => []
  | store, arrival :: rest =>
    ⟨arrival, store⟩ :: executions (store.execute arrival.request arrival.now).1 rest

/-- The store after all of the requests. -/
def run (store : Store) (arrivals : List Arrival) : Store :=
  arrivals.foldl (fun store arrival => (store.execute arrival.request arrival.now).1) store

/-- The answers to all of the requests, in order. -/
def answers (store : Store) (arrivals : List Arrival) : List Response :=
  (store.executions arrivals).map (·.response)

/-- The item that a request for a key finds, if it is there and has not expired. -/
def found? (store : Store) (p : UInt16) (key : Bytes) (now : Instant) : Option Item :=
  (store.item? p key).filter fun item => !item.isExpired now

variable {store : Store} {p : UInt16} {key : Bytes} {now : Instant} {item : Item}

@[simp] theorem run_nil : store.run [] = store := rfl

@[simp] theorem executions_nil : store.executions [] = [] := rfl

theorem run_cons (arrival : Arrival) (rest : List Arrival) :
    store.run (arrival :: rest) = (Execution.after ⟨arrival, store⟩).run rest := rfl

theorem executions_cons (arrival : Arrival) (rest : List Arrival) :
    store.executions (arrival :: rest) =
      ⟨arrival, store⟩ :: (Execution.after ⟨arrival, store⟩).executions rest := rfl

theorem answers_cons (arrival : Arrival) (rest : List Arrival) :
    store.answers (arrival :: rest) =
      Execution.response ⟨arrival, store⟩ :: (Execution.after ⟨arrival, store⟩).answers rest := rfl

theorem found?_eq_some :
    store.found? p key now = some item ↔
      store.item? p key = some item ∧ item.isExpired now = false := by
  simp [found?, Option.filter_eq_some_iff]

theorem found?_of_get? {items : PartitionData} (h : store.partitions.get? p = some items) :
    store.found? p key now = live? items key now := by
  simp [found?, item?, h, live?]

theorem owns_iff : store.owns p = true ↔ ∃ items, store.partitions.get? p = some items := by
  simp [owns, Assoc.has, Option.isSome_iff_exists]

/-- Where there is an item there is its partition. -/
theorem owns_of_item? (h : store.item? p key = some item) : store.owns p = true := by
  obtain ⟨items, hitems, -⟩ := Option.bind_eq_some_iff.mp h
  exact owns_iff.mpr ⟨items, hitems⟩

/-- A store starts empty. -/
theorem item?_ofOwned (owned : List UInt16) (limit : Nat) (p : UInt16) (key : Bytes) :
    (ofOwned owned limit).item? p key = none := by
  rw [item?, Cluster.get?_ofOwned]
  split <;> rfl

theorem item?_flush (store : Store) (p : UInt16) (key : Bytes) :
    store.flush.item? p key = none := by
  simp only [item?, flush]
  rw [Assoc.get?_map_values store.partitions fun _ _ => []]
  cases store.partitions.get? p <;> rfl

theorem item?_settle (store : Store) (p : UInt16) (items : PartitionData) (key : Bytes)
    (verdict : Verdict) : (store.settle p items key verdict).item? p key = verdict.item := by
  simp only [settle, item?, Assoc.get?_put_self, Option.bind_some]
  cases verdict.item <;> simp [setItem]

end Store

/-! ## One execution and one item -/

namespace Execution

/-- An execution comes to a verdict on the item of a key. -/
structure Judged (e : Execution) (p : UInt16) (key : Bytes) : Prop where
  concerned : e.Concerns p key
  owned : e.before.owns p = true
  settled : e.after.item? p key = (e.verdict (e.before.found? p key e.now)).item
  answered : e.response = (e.verdict (e.before.found? p key e.now)).response
  counter : e.after.nextCas =
    if (e.verdict (e.before.found? p key e.now)).drew then e.before.nextCas + 1
    else e.before.nextCas

/-- An execution turns a request away. -/
structure Declined (e : Execution) : Prop where
  same : e.after = e.before
  answered : e.response = .ofStatus e.request.opaqueId .notMyPartition

/-- How an execution bears on the item of a key. -/
inductive Bears (e : Execution) (p : UInt16) (key : Bytes) : Prop
  | flushed (flush : e.request.operation = .flushAll) (emptied : e.after = e.before.flush)
      (answered : e.response = .success e.request.opaqueId 0)
  /-- The item is left alone. A request about it is turned away if its partition is not there. -/
  | spared (keyed : e.request.operation ≠ .flushAll)
      (kept : e.after.item? p key = e.before.item? p key)
      (missed : e.Concerns p key → e.before.owns p = false ∧ e.Declined)
  | judged (judged : e.Judged p key)

theorem bears (e : Execution) (p : UInt16) (key : Bytes) : e.Bears p key := by
  cases hkey : e.request.operation.key? with
  | none =>
      have hexecute : e.before.execute e.request e.now = _ := Store.execute_flush hkey
      exact .flushed (Store.key?_eq_none_iff.mp hkey) (congrArg Prod.fst hexecute)
        (congrArg Prod.snd hexecute)
  | some k =>
      have hkeyed : e.request.operation ≠ .flushAll :=
        fun hflush => by simp [hflush, Operation.key?] at hkey
      cases hitems : e.before.partitions.get? e.request.partition with
      | none =>
          have hexecute : e.before.execute e.request e.now = _ :=
            Store.execute_of_unowned (by simp [hkey]) hitems
          have hafter : e.after = e.before := congrArg Prod.fst hexecute
          refine .spared hkeyed (by rw [hafter]) fun hconcerned => ?_
          obtain ⟨rfl, -⟩ := hconcerned
          exact ⟨by simp [Store.owns, Assoc.has, hitems], hafter, congrArg Prod.snd hexecute⟩
      | some items =>
          have hexecute : e.before.execute e.request e.now = _ := Store.execute_here hkey hitems
          rw [← Store.found?_of_get? hitems] at hexecute
          have hafter : e.after = e.before.settle e.request.partition items k
              (e.verdict (e.before.found? e.request.partition k e.now)) :=
            congrArg Prod.fst hexecute
          by_cases hconcerned : e.Concerns p key
          · obtain ⟨rfl, hkey'⟩ := hconcerned
            obtain rfl : k = key := Option.some.inj (hkey.symm.trans hkey')
            refine .judged ⟨⟨rfl, hkey⟩, Store.owns_iff.mpr ⟨items, hitems⟩, ?_,
              congrArg Prod.snd hexecute, ?_⟩
            · rw [hafter, Store.item?_settle]
            · rw [hafter]
              rfl
          · refine .spared hkeyed ?_ fun h => absurd h hconcerned
            rw [hafter, Store.item?_settle_of_ne hitems]
            rintro heq
            obtain ⟨rfl, rfl⟩ := Prod.mk.inj heq
            exact hconcerned ⟨rfl, hkey⟩

variable {e : Execution} {p : UInt16} {key : Bytes}

theorem Concerns.keyed (h : e.Concerns p key) : e.request.operation.key? ≠ none := by
  simp [h.2]

/-- A request is about one item at most. -/
theorem Concerns.unique {q : UInt16} {other : Bytes} (h : e.Concerns p key)
    (h' : e.Concerns q other) : p = q ∧ key = other :=
  ⟨h.1.symm.trans h'.1, Option.some.inj (h.2.symm.trans h'.2)⟩

/-- A request about an item of a partition that is there comes to a verdict on it. -/
theorem Concerns.judged (h : e.Concerns p key) (howned : e.before.owns p = true) :
    e.Judged p key := by
  cases e.bears p key with
  | flushed flush => exact absurd (Store.key?_eq_none_iff.mpr flush) h.keyed
  | spared _ _ missed => simp [(missed h).1] at howned
  | judged judged => exact judged

/-- A request about an item of a partition that is not there is turned away. -/
theorem Concerns.declined (h : e.Concerns p key) (hunowned : e.before.owns p = false) :
    e.Declined := by
  cases e.bears p key with
  | flushed flush => exact absurd (Store.key?_eq_none_iff.mpr flush) h.keyed
  | spared _ _ missed => exact (missed h).2
  | judged judged => simp [judged.owned] at hunowned

/-- A request about an item that has success has come to a verdict on it. -/
theorem Concerns.judged_of_success (h : e.Concerns p key)
    (hsuccess : e.response.status = .success) : e.Judged p key := by
  cases howns : e.before.owns p with
  | true => exact h.judged howns
  | false => simp [(h.declined howns).answered, Response.ofStatus] at hsuccess

theorem of_flush (h : e.request.operation = .flushAll) :
    e.after = e.before.flush ∧ e.response = .success e.request.opaqueId 0 :=
  Prod.mk.inj (Store.execute_flush (Store.key?_eq_none_iff.mpr h))

/-- A request leaves the items alone that it is not about. -/
theorem item?_of_not_concerns (hkeyed : e.request.operation ≠ .flushAll)
    (h : ¬e.Concerns p key) : e.after.item? p key = e.before.item? p key := by
  cases e.bears p key with
  | flushed flush => exact absurd flush hkeyed
  | spared _ kept => exact kept
  | judged judged => exact absurd judged.concerned h

/-- An execution leaves the partitions of a store where they are. -/
theorem owns_after (e : Execution) (p : UInt16) : e.after.owns p = e.before.owns p := by
  have hkeys : e.after.partitions.keys = e.before.partitions.keys := by
    cases hkey : e.request.operation.key? with
    | none =>
        rw [after, Store.execute_flush hkey]
        exact Assoc.keys_map_values e.before.partitions fun _ _ => []
    | some k =>
        cases hitems : e.before.partitions.get? e.request.partition with
        | none => rw [after, Store.execute_of_unowned (by simp [hkey]) hitems]
        | some items =>
            rw [after, Store.execute_here hkey hitems]
            exact Store.keys_settle hitems k _
  rw [Store.owns, Store.owns, Bool.eq_iff_iff, Assoc.has, Assoc.has, Option.isSome_iff_ne_none,
    Option.isSome_iff_ne_none, ne_eq, ne_eq, Assoc.get?_eq_none_iff, Assoc.get?_eq_none_iff, hkeys]

end Execution

/-! ## All of the requests -/

namespace Store

variable {store : Store} {arrivals : List Arrival}

/-- What each request of a kind keeps, a sequence of such requests keeps. -/
theorem run_induct {P : Store → Prop} {Q : Execution → Prop}
    (hstep : ∀ e, Q e → P e.before → P e.after) (h : P store)
    (hall : ∀ e ∈ store.executions arrivals, Q e) : P (store.run arrivals) := by
  induction arrivals generalizing store with
  | nil => exact h
  | cons arrival arrivals ih =>
      obtain ⟨hfirst, hrest⟩ := List.forall_mem_cons.mp hall
      exact ih (hstep _ hfirst h) hrest

theorem owns_run (store : Store) (arrivals : List Arrival) (p : UInt16) :
    (store.run arrivals).owns p = store.owns p := by
  induction arrivals generalizing store with
  | nil => rfl
  | cons arrival arrivals ih => exact (ih _).trans (Execution.owns_after ⟨arrival, store⟩ p)

end Store

end ClusterKv

import ClusterKv.Proofs.Store.Runs
import ClusterKv.Proofs.Text.Decimal

/-! # Counters

Between requests a counter is a text. Every number of 64 bits is read back from the text that is
written for it, so that a counter comes to what its steps come to one after another. -/

namespace ClusterKv

/-! ## Steps -/

/-- One step of a counter. -/
structure CounterStep where
  direction : CounterDirection
  delta : UInt64

/-- The number after a step: on the way up it starts over at `2 ^ 64`, and on the way down it stops
at zero. -/
def CounterStep.apply (n : Nat) (step : CounterStep) : Nat :=
  match step.direction with
  | .increment => (n + step.delta.toNat) % 2 ^ 64
  | .decrement => n - step.delta.toNat

theorem stepCounter_toNat (direction : CounterDirection) (current delta : UInt64) :
    (stepCounter direction current delta).toNat =
      CounterStep.apply current.toNat ⟨direction, delta⟩ := by
  cases direction with
  | increment => exact UInt64.toNat_add current delta
  | decrement =>
      simp only [stepCounter, CounterStep.apply]
      split
      · next h => exact (Nat.sub_eq_zero_of_le h).symm
      · next h => exact UInt64.toNat_sub_of_le _ _ (UInt64.le_of_lt (UInt64.not_le.mp h))

/-- A number is read back from the value that is stored for it. -/
theorem counterValue?_ofDecimal (n : UInt64) :
    counterValue? (Bytes.ofDecimal n.toNat) = some n := by
  have htext : Bytes.toString? (Bytes.ofDecimal n.toNat) = some (toString n.toNat) :=
    Bytes.toString?_eq_some_iff.mpr rfl
  have hdigits : (toString n.toNat).toList = Nat.toDigits 10 n.toNat := Nat.toList_repr
  have htrim : Text.trim (Nat.toDigits 10 n.toNat) = Nat.toDigits 10 n.toNat :=
    Text.trim_of_digits (Text.isDigit_toDigits _)
  simp only [counterValue?, htext, Option.bind_some, hdigits, htrim, Text.natural?_toDigits]
  rw [if_pos n.toNat_lt, Nat.toUInt64_eq, UInt64.ofNat_toNat]

/-! ## One item -/

/-- An item that is a counter at a number, neither locked nor about to expire. -/
structure Item.CountsTo (item : Item) (n : UInt64) : Prop where
  value : item.value = Bytes.ofDecimal n.toNat
  lasting : item.expiresAt = none
  unlocked : item.lockedUntil = none

namespace Setting

variable (given : Setting) (direction : CounterDirection) (delta : UInt64)

/-- A counter is created at the number that it is to start with. -/
theorem counter_created (n : UInt64) :
    ∃ new, given.counter direction delta (some n) 0 none = ⟨some new, true, given.counted n⟩ ∧
      new.CountsTo n :=
  ⟨_, rfl, rfl, rfl, rfl⟩

/-- A counter moves on from where it is, whatever it was to start with. -/
theorem counter_moved {item : Item} {n : UInt64} (h : item.CountsTo n) (initial : Option UInt64)
    (expiry : UInt32) :
    ∃ new, given.counter direction delta initial expiry (some item) =
        ⟨some new, true, given.counted (stepCounter direction n delta)⟩ ∧
      new.CountsTo (stepCounter direction n delta) := by
  obtain ⟨hvalue, hlasting, hunlocked⟩ := h
  have hopen : item.isLocked given.now = false := by simp [Item.isLocked, hunlocked]
  refine ⟨{ item with
    value := Bytes.ofDecimal (stepCounter direction n delta).toNat
    cas := given.fresh }, ?_, rfl, hlasting, hunlocked⟩
  simp only [counter, hopen, Bool.false_eq_true, ite_false, hvalue, counterValue?_ofDecimal]

end Setting

/-! ## One request -/

namespace Execution

/-- A request for a counter has success, reports the number that the counter has come to, and leaves
its digits behind. -/
structure ReportsCount (p : UInt16) (key : Bytes) (e : Execution) (n : Nat) : Prop where
  success : e.response.status = .success
  reported : e.response.counter.map UInt64.toNat = some n
  stored : ∃ item, e.after.item? p key = some item ∧ item.value.IsDecimal n

variable {e : Execution} {p : UInt16} {key : Bytes} {direction : CounterDirection}
  {delta : UInt64} {initial : Option UInt64} {expiry : UInt32}

theorem concerns_of_counter (hpartition : e.request.partition = p)
    (hcounter : e.request.operation = .counter direction key delta initial expiry) :
    e.Concerns p key :=
  ⟨hpartition, by rw [hcounter]; rfl⟩

/-- A verdict that leaves a counter is what is reported and stored. -/
theorem reports_of_verdict {given : Setting} {item : Item} {n : UInt64} (hjudged : e.Judged p key)
    (hverdict : e.verdict (e.before.found? p key e.now) = ⟨some item, true, given.counted n⟩)
    (hitem : item.CountsTo n) :
    ReportsCount p key e n.toNat ∧ e.after.item? p key = some item := by
  have hsettled : e.after.item? p key = some item := hjudged.settled.trans (by rw [hverdict])
  have hanswered : e.response = given.counted n := hjudged.answered.trans (by rw [hverdict])
  refine ⟨⟨?_, ?_, item, hsettled, hitem.value ▸ Bytes.isDecimal_ofDecimal _⟩, hsettled⟩
  · rw [hanswered]; rfl
  · rw [hanswered]; rfl

/-- The first request for a counter that is not there creates it. -/
theorem counter_starts {n : UInt64} (howned : e.before.owns p = true)
    (habsent : e.before.found? p key e.now = none) (hpartition : e.request.partition = p)
    (hcounter : e.request.operation = .counter direction key delta (some n) 0) :
    ReportsCount p key e n.toNat ∧ ∃ item, e.after.item? p key = some item ∧ item.CountsTo n := by
  obtain ⟨item, hverdict, hitem⟩ := Setting.counter_created
    (e.before.setting e.request e.now) direction delta n
  have hjudged := (concerns_of_counter hpartition hcounter).judged howned
  obtain ⟨hreports, hafter⟩ := reports_of_verdict hjudged
    (by rw [verdict, hcounter, habsent]; exact hverdict) hitem
  exact ⟨hreports, item, hafter, hitem⟩

/-- Each later request moves it on by a step. -/
theorem counter_moves {item : Item} {n : UInt64} (hitem : e.before.item? p key = some item)
    (hcounts : item.CountsTo n) (hpartition : e.request.partition = p)
    (hcounter : e.request.operation = .counter direction key delta initial expiry) :
    ReportsCount p key e (CounterStep.apply n.toNat ⟨direction, delta⟩) ∧
      ∃ new, e.after.item? p key = some new ∧ new.CountsTo (stepCounter direction n delta) := by
  obtain ⟨new, hverdict, hnew⟩ := Setting.counter_moved
    (e.before.setting e.request e.now) direction delta hcounts initial expiry
  have hfound : e.before.found? p key e.now = some item :=
    Store.found?_eq_some.mpr ⟨hitem, by simp [Item.isExpired, hcounts.lasting]⟩
  have hjudged :=
    (concerns_of_counter hpartition hcounter).judged (Store.owns_of_item? hitem)
  obtain ⟨hreports, hafter⟩ := reports_of_verdict hjudged
    (by rw [verdict, hcounter, hfound]; exact hverdict) hnew
  exact ⟨stepCounter_toNat direction n delta ▸ hreports, new, hafter, hnew⟩

end Execution

/-! ## Every sequence of requests -/

/-- What goes with the entries of a scan goes with its start first. -/
theorem forall₂_scanl {α β γ : Type} {R : α → β → Prop} {f : β → γ → β} {a : α} {b : β}
    {as : List α} {steps : List γ} (h : R a b) (hrest : List.Forall₂ R as (steps.scanl f b).tail) :
    List.Forall₂ R (a :: as) (steps.scanl f b) := by
  cases steps with
  | nil => simpa using ⟨h, by simpa using hrest⟩
  | cons step steps =>
      rw [List.scanl_cons] at hrest ⊢
      exact .cons h hrest

namespace Arrival

variable (p : UInt16) (key : Bytes)

/-- A request that, if it is about the item of a key at all, is for a counter without an expiry. -/
structure OnlyCounts (arrival : Arrival) : Prop where
  keyed : arrival.request.operation ≠ .flushAll
  counts : arrival.request.partition = p → arrival.request.operation.key? = some key →
    ∃ direction delta initial, arrival.request.operation = .counter direction key delta initial 0

/-- The step that a request asks of the counter at a key. -/
def counterStep? (arrival : Arrival) : Option CounterStep :=
  match arrival.request.operation with
  | .counter direction k delta _ _ =>
    if arrival.request.partition = p ∧ k = key then some ⟨direction, delta⟩ else none
  | _ => none

variable {p key} {arrival : Arrival} {store : Store}

theorem OnlyCounts.counter (h : arrival.OnlyCounts p key)
    (hconcerned : Execution.Concerns ⟨arrival, store⟩ p key) :
    ∃ direction delta initial, arrival.request.operation = .counter direction key delta initial 0 ∧
      arrival.counterStep? p key = some ⟨direction, delta⟩ := by
  obtain ⟨direction, delta, initial, hcounter⟩ := h.counts hconcerned.1 hconcerned.2
  have hpartition : arrival.request.partition = p := hconcerned.1
  exact ⟨direction, delta, initial, hcounter, by simp [counterStep?, hcounter, hpartition]⟩

theorem counterStep?_of_not_concerns (h : ¬Execution.Concerns ⟨arrival, store⟩ p key) :
    arrival.counterStep? p key = none := by
  unfold counterStep?
  split
  · next hcounter =>
    refine if_neg fun ⟨hpartition, hkey⟩ => h ?_
    exact Execution.concerns_of_counter (e := ⟨arrival, store⟩) hpartition (hkey ▸ hcounter)
  · rfl

end Arrival

namespace Store

variable {store : Store} {p : UInt16} {key : Bytes} {later : List Arrival}

/-- From a counter on, each request reports what the steps up to it come to. -/
theorem reports_of_counter {item : Item} {n : UInt64} (hitem : store.item? p key = some item)
    (hcounts : item.CountsTo n) (hlater : ∀ arrival ∈ later, arrival.OnlyCounts p key) :
    List.Forall₂ (Execution.ReportsCount p key)
      ((store.executions later).filter (·.Concerns p key))
      ((later.filterMap (·.counterStep? p key)).scanl CounterStep.apply n.toNat).tail := by
  induction later generalizing store item n with
  | nil => simp
  | cons arrival later ih =>
      obtain ⟨honly, hlater⟩ := List.forall_mem_cons.mp hlater
      by_cases hconcerned : Execution.Concerns ⟨arrival, store⟩ p key
      · obtain ⟨direction, delta, initial, hcounter, hstep⟩ := honly.counter hconcerned
        obtain ⟨hreports, new, hnew, hcounts⟩ := Execution.counter_moves (e := ⟨arrival, store⟩)
          hitem hcounts hconcerned.1 hcounter
        have hrest := ih hnew hcounts hlater
        rw [stepCounter_toNat] at hrest
        rw [executions_cons, List.filter_cons_of_pos (by simpa using hconcerned),
          List.filterMap_cons_some hstep, List.scanl_cons, List.tail_cons]
        exact forall₂_scanl hreports hrest
      · have hkept : (Execution.after ⟨arrival, store⟩).item? p key = some item :=
          (Execution.item?_of_not_concerns honly.keyed hconcerned).trans hitem
        rw [executions_cons, List.filter_cons_of_neg (by simpa using hconcerned),
          List.filterMap_cons_none (Arrival.counterStep?_of_not_concerns hconcerned)]
        exact ih hkept hcounts hlater

/-- Counters compute what they promise. From a request on that creates a counter, whatever else is
asked about other items meanwhile, every request for it has success, reports what the steps so far
come to, and leaves the digits of that number behind. -/
theorem counters_tally {first : Arrival} {direction : CounterDirection} {delta n : UInt64}
    (howned : store.owns p = true) (habsent : store.found? p key first.now = none)
    (hpartition : first.request.partition = p)
    (hfirst : first.request.operation = .counter direction key delta (some n) 0)
    (hlater : ∀ arrival ∈ later, arrival.OnlyCounts p key) :
    List.Forall₂ (Execution.ReportsCount p key)
      ((store.executions (first :: later)).filter (·.Concerns p key))
      ((later.filterMap (·.counterStep? p key)).scanl CounterStep.apply n.toNat) := by
  have hconcerned : Execution.Concerns ⟨first, store⟩ p key :=
    Execution.concerns_of_counter hpartition hfirst
  obtain ⟨hreports, item, hitem, hcounts⟩ := Execution.counter_starts (e := ⟨first, store⟩)
    howned habsent hpartition hfirst
  rw [executions_cons, List.filter_cons_of_pos (by simpa using hconcerned)]
  exact forall₂_scanl hreports (reports_of_counter hitem hcounts hlater)

end Store

/-- A counter that is two short of starting over. -/
def starting : Arrival :=
  ⟨⟨1, 0, .counter .decrement [107] 9 (some 0xFFFFFFFFFFFFFFFE) 0⟩, 0⟩

/-- It starts over, stops at zero and goes on; meanwhile other items are asked for. -/
def stepping : List Arrival :=
  [⟨⟨2, 0, .counter .increment [107] 5 none 0⟩, 1⟩, ⟨⟨3, 0, .store .set [108] [118] 0 0 none⟩, 2⟩,
    ⟨⟨4, 1, .counter .increment [107] 1 (some 1) 60⟩, 3⟩,
    ⟨⟨5, 0, .counter .decrement [107] 10 (some 50) 0⟩, 4⟩,
    ⟨⟨6, 0, .counter .increment [107] 7 none 0⟩, 5⟩]

theorem stepping_tallied :
    (Store.ofOwned [0]).owns 0 = true ∧ (Store.ofOwned [0]).found? 0 [107] 0 = none ∧
      (∀ arrival ∈ stepping, arrival.OnlyCounts 0 [107]) ∧
      List.Forall₂ (Execution.ReportsCount 0 [107])
        (((Store.ofOwned [0]).executions (starting :: stepping)).filter (·.Concerns 0 [107]))
        [0xFFFFFFFFFFFFFFFE, 3, 0, 7] := by
  have hstepping : ∀ arrival ∈ stepping, arrival.OnlyCounts 0 [107] := by
    have other {arrival : Arrival} (hkeyed : arrival.request.operation ≠ .flushAll)
        (h : ¬(arrival.request.partition = 0 ∧ arrival.request.operation.key? = some [107])) :
        arrival.OnlyCounts 0 [107] :=
      ⟨hkeyed, fun hpartition hkey => absurd ⟨hpartition, hkey⟩ h⟩
    simp only [stepping, List.forall_mem_cons]
    exact ⟨⟨by decide, fun _ _ => ⟨_, _, _, rfl⟩⟩, other (by decide) (by decide),
      other (by decide) (by decide), ⟨by decide, fun _ _ => ⟨_, _, _, rfl⟩⟩,
      ⟨by decide, fun _ _ => ⟨_, _, _, rfl⟩⟩, nofun⟩
  have hnumbers : (stepping.filterMap (·.counterStep? 0 [107])).scanl CounterStep.apply
      (0xFFFFFFFFFFFFFFFE : UInt64).toNat = [0xFFFFFFFFFFFFFFFE, 3, 0, 7] := by
    decide +kernel
  refine ⟨by decide, by decide, hstepping, ?_⟩
  rw [← hnumbers]
  exact Store.counters_tally (by decide) (by decide) rfl rfl hstepping

end ClusterKv

import ClusterKv.Assoc
import ClusterKv.Refresher
import Mathlib.Data.List.Induction

/-! # Publishing by revision

Tables are offered to a refresher by its callers and by refreshes, which overlap as they like and
end in any order. A table is admitted unless the current one is newer. The current table is always
the one admitted last, whoever offers a table gets back what is current then, and subscribers learn
of the changes and of nothing else. -/

namespace ClusterKv

namespace Refresher

variable {r : Refresher} {table : Topology}

/-! ## One table -/

theorem publish_current_eq (r : Refresher) (table : Topology) :
    (r.publish table).current =
      if r.current.revision ≤ table.revision then table else r.current := by
  unfold publish
  split
  next hkept =>
    split
    next hle => exact (hkept.resolve_left (Nat.not_lt_of_le hle)).symm
    next => rfl
  next hnew => rw [if_pos (Nat.le_of_not_lt fun hlt => hnew (.inl hlt))]

/-- A table that is not behind the current one takes its place. -/
theorem publish_current (h : r.current.revision ≤ table.revision) :
    (r.publish table).current = table := by
  rw [publish_current_eq, if_pos h]

/-- A table that is offered leaves none behind that is older. -/
theorem le_publish (r : Refresher) (table : Topology) :
    table.revision ≤ (r.publish table).current.revision := by
  rw [publish_current_eq]
  split
  · exact Nat.le_refl _
  next hlt => exact Nat.le_of_not_le hlt

theorem current_le_publish (r : Refresher) (table : Topology) :
    r.current.revision ≤ (r.publish table).current.revision := by
  rw [publish_current_eq]
  split
  next hle => exact hle
  · exact Nat.le_refl _

/-- The version counts the changes to another table. -/
theorem publish_version (r : Refresher) (table : Topology) :
    (r.publish table).version =
      r.version + if (r.publish table).current = r.current then 0 else 1 := by
  unfold publish
  split
  · simp
  next hnew => rw [if_neg fun heq => hnew (.inr heq)]

theorem publish_refreshes (r : Refresher) (table : Topology) :
    (r.publish table).refreshes = r.refreshes := by
  unfold publish
  split <;> rfl

/-- Whoever offers a table gets back what is current then. -/
theorem install_returns (r : Refresher) (table : Topology) :
    (r.install table).2 = (r.install table).1.current := by
  simp only [install, publish_current_eq]
  split
  next hlt => rw [if_neg (Nat.not_le_of_lt hlt)]
  next hle => rw [if_pos (Nat.le_of_not_lt hle)]

end Refresher

/-! ## Callers, refreshes and subscribers -/

/-- A refresher with the refreshes under way and those who subscribe to its table. -/
structure Board where
  refresher : Refresher := {}
  /-- Who waits for a refresh, as often as refreshes are under way. -/
  underWay : List Nat := []
  /-- The version that each subscriber has seen last. -/
  seen : Assoc Nat Nat := []

namespace Board

/-- Something that happens to a refresher. -/
inductive Event where
  /-- A table is installed by hand. -/
  | installs (table : Topology)
  | begins (caller : Nat)
  /-- A refresh ends with what the source has come up with. -/
  | ends (caller : Nat) (fetched : Except TopologyError Topology)
  /-- Somebody subscribes, or looks at the table again. -/
  | looks (subscriber : Nat)
deriving DecidableEq

def Event.isBegin : Event → Bool
  | .begins _ => true
  | _ => false

/-- One event. Only a refresh that is under way ends. -/
def step (b : Board) : Event → Board
  | .installs table => { b with refresher := (b.refresher.install table).1 }
  | .begins caller =>
    { b with refresher := b.refresher.start, underWay := caller :: b.underWay }
  | .ends caller fetched =>
    if caller ∈ b.underWay then
      { b with refresher := (b.refresher.finish fetched).1, underWay := b.underWay.erase caller }
    else b
  | .looks subscriber => { b with seen := b.seen.put subscriber b.refresher.version }

/-- What has come of some events, one after another. -/
def run (b : Board) (events : List Event) : Board := events.foldl step b

def current (b : Board) : Topology := b.refresher.current

/-- Is there a table that a subscriber has not seen? -/
def hasNews (b : Board) (subscriber : Nat) : Bool :=
  (b.seen.get? subscriber).any (· ≠ b.refresher.version)

/-- The table that is offered in an event. -/
def offer? (b : Board) : Event → Option Topology
  | .installs table => some table
  | .ends caller (.ok table) => if caller ∈ b.underWay then some table else none
  | _ => none

/-- The table that is offered in an event, if it is not behind the current one. -/
def admits? (b : Board) (event : Event) : Option Topology :=
  (b.offer? event).filter (b.current.revision ≤ ·.revision)

/-- The tables that some events offer and that are not behind the one that is current then. -/
def admitted (b : Board) : List Event → List Topology
  | [] => []
  | event :: later => (b.admits? event).toList ++ admitted (b.step event) later

variable {b : Board} {event : Event} {events : List Event}

@[simp] theorem run_nil (b : Board) : b.run [] = b := rfl

@[simp] theorem run_cons (b : Board) (event : Event) (later : List Event) :
    b.run (event :: later) = (b.step event).run later := rfl

theorem run_append (b : Board) (events later : List Event) :
    b.run (events ++ later) = (b.run events).run later :=
  List.foldl_append ..

/-! ## One event -/

/-- An event offers a table, which is published, or it leaves all but the count of refreshes. -/
theorem step_cases (b : Board) (event : Event) :
    (∃ table, b.offer? event = some table ∧ event.isBegin = false ∧
        (b.step event).refresher = b.refresher.publish table) ∨
      b.offer? event = none ∧ (b.step event).refresher =
        { b.refresher with refreshes := b.refresher.refreshes + [event].countP Event.isBegin } := by
  cases event with
  | installs table => exact .inl ⟨table, rfl, rfl, rfl⟩
  | begins caller => exact .inr ⟨rfl, rfl⟩
  | looks subscriber => exact .inr ⟨rfl, rfl⟩
  | ends caller fetched =>
      by_cases hcaller : caller ∈ b.underWay
      · cases fetched with
        | ok table =>
            exact .inl ⟨table, by simp [offer?, hcaller], rfl, by simp [step, hcaller]; rfl⟩
        | error error => exact .inr ⟨rfl, by simp [step, hcaller]; rfl⟩
      · cases fetched <;> exact .inr ⟨by simp [offer?, hcaller], by simp [step, hcaller]; rfl⟩

theorem step_current (b : Board) (event : Event) :
    (b.step event).current = (b.admits? event).getD b.current := by
  unfold admits? current
  rcases step_cases b event with ⟨table, hoffer, -, hstep⟩ | ⟨hoffer, hstep⟩
  · rw [hstep, hoffer, Refresher.publish_current_eq, Option.filter_some]
    by_cases hle : b.refresher.current.revision ≤ table.revision <;> simp [hle]
  · rw [hstep, hoffer]
    rfl

theorem current_le_step (b : Board) (event : Event) :
    b.current.revision ≤ (b.step event).current.revision := by
  unfold current
  rcases step_cases b event with ⟨table, -, -, hstep⟩ | ⟨-, hstep⟩
  · rw [hstep]
    exact b.refresher.current_le_publish table
  · exact Nat.le_of_eq (congrArg (·.current.revision) hstep).symm

theorem step_version (b : Board) (event : Event) :
    (b.step event).refresher.version =
      b.refresher.version + if (b.step event).current = b.current then 0 else 1 := by
  unfold current
  rcases step_cases b event with ⟨table, -, -, hstep⟩ | ⟨-, hstep⟩
  · rw [hstep]
    exact b.refresher.publish_version table
  · simp [hstep]

theorem step_refreshes (b : Board) (event : Event) :
    (b.step event).refresher.refreshes = b.refresher.refreshes + [event].countP Event.isBegin := by
  rcases step_cases b event with ⟨table, -, hbegin, hstep⟩ | ⟨-, hstep⟩
  · simp [hstep, hbegin, Refresher.publish_refreshes]
  · rw [hstep]

/-! ## Any number of events -/

/-- The current table is the one admitted last. -/
theorem run_current (b : Board) (events : List Event) :
    (b.run events).current = (b.admitted events).getLast?.getD b.current := by
  induction events generalizing b with
  | nil => rfl
  | cons event later ih =>
      have hlast : (b.admits? event).toList.getLast? = b.admits? event := by
        cases b.admits? event <;> rfl
      rw [run_cons, ih, admitted, List.getLast?_append, hlast, step_current]
      cases ((b.step event).admitted later).getLast? <;> rfl

theorem current_le_run (b : Board) (events : List Event) :
    b.current.revision ≤ (b.run events).current.revision := by
  induction events generalizing b with
  | nil => exact Nat.le_refl _
  | cons event later ih => exact Nat.le_trans (current_le_step b event) (ih (b.step event))

theorem run_refreshes (b : Board) (events : List Event) :
    (b.run events).refresher.refreshes =
      b.refresher.refreshes + events.countP Event.isBegin := by
  induction events generalizing b with
  | nil => rfl
  | cons event later ih =>
      rw [run_cons, ih, step_refreshes, Nat.add_assoc, ← List.countP_append]
      rfl

/-! ## Subscribers -/

/-- The current table has changed in one of some events. -/
def Changes (b : Board) (events : List Event) : Prop :=
  ∃ before event, before ++ [event] <+: events ∧
    (b.run (before ++ [event])).current ≠ (b.run before).current

theorem changes_concat (b : Board) (events : List Event) (event : Event) :
    b.Changes (events ++ [event]) ↔
      b.Changes events ∨ ((b.run events).step event).current ≠ (b.run events).current := by
  constructor
  · rintro ⟨before, other, hbefore, hchange⟩
    rcases List.prefix_concat_iff.mp hbefore with heq | hprefix
    · obtain ⟨rfl, hlast⟩ := List.append_inj' heq rfl
      cases hlast
      rw [run_append] at hchange
      exact .inr hchange
    · exact .inl ⟨before, other, hprefix, hchange⟩
  · rintro (⟨before, other, hbefore, hchange⟩ | hchange)
    · exact ⟨before, other, hbefore.trans (List.prefix_append ..), hchange⟩
    · refine ⟨events, event, List.prefix_refl _, ?_⟩
      rw [run_append]
      exact hchange

/-- The version has grown if and only if the current table has changed. -/
theorem run_version (b : Board) (events : List Event) :
    b.refresher.version ≤ (b.run events).refresher.version ∧
      (b.refresher.version < (b.run events).refresher.version ↔ b.Changes events) := by
  induction events using List.reverseRecOn with
  | nil =>
      refine ⟨Nat.le_refl _, fun hlt => absurd hlt (Nat.lt_irrefl _), ?_⟩
      rintro ⟨before, event, hbefore, -⟩
      simp at hbefore
  | append_singleton events event ih =>
      obtain ⟨hle, hchanged⟩ := ih
      have hstep := step_version (b.run events) event
      rw [changes_concat, ← hchanged, run_append, run_cons, run_nil]
      by_cases hsame : ((b.run events).step event).current = (b.run events).current
      · rw [if_pos hsame] at hstep
        simp [hsame, hstep, hle]
      · rw [if_neg hsame] at hstep
        refine ⟨by omega, fun _ => .inr hsame, fun _ => by omega⟩

theorem step_seen {subscriber : Nat} (hevent : event ≠ .looks subscriber) :
    (b.step event).seen.get? subscriber = b.seen.get? subscriber := by
  cases event with
  | installs | begins => rfl
  | ends => simp only [step]; split <;> rfl
  | looks other => exact Assoc.get?_put_of_ne _ _ fun heq => hevent (heq ▸ rfl)

theorem run_seen {subscriber : Nat} (hevents : .looks subscriber ∉ events) :
    (b.run events).seen.get? subscriber = b.seen.get? subscriber := by
  induction events generalizing b with
  | nil => rfl
  | cons event later ih =>
      have hevent : event ≠ .looks subscriber := fun heq => hevents (heq ▸ List.mem_cons_self)
      rw [run_cons, ih fun hmem => hevents (List.mem_cons_of_mem _ hmem), step_seen hevent]

/-- There is news for a subscriber if and only if the current table has changed since the last look
at it. -/
theorem hasNews_iff (b : Board) {subscriber : Nat} (hevents : .looks subscriber ∉ events) :
    ((b.step (.looks subscriber)).run events).hasNews subscriber = true ↔
      (b.step (.looks subscriber)).Changes events := by
  have hseen : ((b.step (.looks subscriber)).run events).seen.get? subscriber =
      some (b.step (.looks subscriber)).refresher.version :=
    (run_seen hevents).trans (Assoc.get?_put_self ..)
  obtain ⟨hle, hchanged⟩ := run_version (b.step (.looks subscriber)) events
  rw [← hchanged, hasNews, hseen]
  simp only [Option.any_some, decide_eq_true_eq]
  omega

/-! ## Failures -/

/-- One refresh more has been counted, and some callers wait in addition. All else is the same. -/
structure OneMore (waiting : List Nat) (b b' : Board) : Prop where
  refresher : b.refresher = { b'.refresher with refreshes := b'.refresher.refreshes + 1 }
  underWay : b.underWay.Perm (waiting ++ b'.underWay)
  seen : b.seen = b'.seen

variable {b' : Board} {waiting : List Nat}

theorem oneMore_begins (b : Board) (caller : Nat) : OneMore [caller] (b.step (.begins caller)) b :=
  ⟨rfl, .refl _, rfl⟩

theorem OneMore.fails {caller : Nat} (h : OneMore [caller] b b') (error : TopologyError) :
    OneMore [] (b.step (.ends caller (.error error))) b' := by
  have hmem : caller ∈ b.underWay := h.underWay.mem_iff.mpr List.mem_cons_self
  have hrest : (b.underWay.erase caller).Perm b'.underWay := by
    simpa using h.underWay.erase caller
  simp only [step, if_pos hmem]
  exact ⟨h.refresher, hrest, h.seen⟩

theorem publish_counted (r : Refresher) (table : Topology) (refreshes : Nat) :
    { r with refreshes }.publish table = { r.publish table with refreshes } := by
  unfold Refresher.publish
  split <;> rfl

theorem OneMore.step (h : OneMore waiting b b')
    (hevent : ∀ caller ∈ waiting, ∀ fetched, event ≠ .ends caller fetched) :
    OneMore waiting (b.step event) (b'.step event) := by
  have publish (table : Topology) : b.refresher.publish table =
      { b'.refresher.publish table with
        refreshes := (b'.refresher.publish table).refreshes + 1 } := by
    rw [h.refresher, publish_counted, Refresher.publish_refreshes]
  cases event with
  | installs table => exact ⟨publish table, h.underWay, h.seen⟩
  | begins caller =>
      refine ⟨?_, (h.underWay.cons caller).trans List.perm_middle.symm, h.seen⟩
      simp only [Board.step, h.refresher]
      rfl
  | looks subscriber =>
      refine ⟨h.refresher, h.underWay, ?_⟩
      simp only [Board.step, h.seen, h.refresher]
  | ends caller fetched =>
      have hwaiting : caller ∉ waiting := fun hmem => hevent caller hmem fetched rfl
      have hmem : caller ∈ b.underWay ↔ caller ∈ b'.underWay := by
        rw [h.underWay.mem_iff, List.mem_append, or_iff_right hwaiting]
      by_cases hcaller : caller ∈ b'.underWay
      · simp only [Board.step, if_pos hcaller, if_pos (hmem.mpr hcaller)]
        have hrest := h.underWay.erase caller
        rw [List.erase_append_right _ hwaiting] at hrest
        cases fetched with
        | ok table => exact ⟨publish table, hrest, h.seen⟩
        | error error => exact ⟨h.refresher, hrest, h.seen⟩
      · simp only [Board.step, if_neg hcaller, if_neg (mt hmem.mp hcaller)]
        exact h

theorem OneMore.run (h : OneMore waiting b b')
    (hevents : ∀ caller ∈ waiting, ∀ fetched, .ends caller fetched ∉ events) :
    OneMore waiting (b.run events) (b'.run events) := by
  induction events generalizing b b' with
  | nil => exact h
  | cons event later ih =>
      refine ih (h.step fun caller hcaller fetched heq => ?_) fun caller hcaller fetched hmem => ?_
      · exact hevents caller hcaller fetched (heq ▸ List.mem_cons_self)
      · exact hevents caller hcaller fetched (List.mem_cons_of_mem _ hmem)

/-- A refresh that fails leaves no trace but in the count. -/
theorem run_failed (b : Board) {caller : Nat} {between : List Event}
    (hbetween : ∀ fetched, .ends caller fetched ∉ between) (error : TopologyError)
    (later : List Event) :
    OneMore [] (b.run (.begins caller :: between ++ .ends caller (.error error) :: later))
      (b.run (between ++ later)) := by
  have hbegun : OneMore [caller] ((b.step (.begins caller)).run between) (b.run between) :=
    (oneMore_begins b caller).run fun other hother => List.mem_singleton.mp hother ▸ hbetween
  rw [List.cons_append, run_cons, run_append, run_append, run_cons]
  exact (hbegun.fails error).run nofun

/-! ## Whatever happens -/

/-- What some events make of a new refresher. -/
def after (events : List Event) : Board := ({} : Board).run events

theorem after_append (events later : List Event) :
    after (events ++ later) = (after events).run later :=
  run_append ..

/-- Tables are published by their revisions in some events and in those that follow. -/
structure ByRevision (events : List Event) : Prop where
  /-- The current table is the one admitted last. At first it is the one without partitions. -/
  latest : (after events).current = (admitted {} events).getLast?.getD .empty
  grows : ∀ later, (after events).current.revision ≤ (after (events ++ later)).current.revision
  /-- Whoever installs a table gets back the one that is current then. -/
  installed : ∀ table, ((after events).refresher.install table).2 =
    (after (events ++ [.installs table])).current
  /-- So does whoever waits for a refresh. -/
  refreshed : ∀ caller ∈ (after events).underWay, ∀ table,
    ((after events).refresher.finish (.ok table)).2 =
      .ok (after (events ++ [.ends caller (.ok table)])).current
  /-- Without a refresh that fails, the only one of its caller then, all is the same but the count. -/
  failed : ∀ caller between error later, (∀ fetched, .ends caller fetched ∉ between) →
    OneMore []
      (after (events ++ (.begins caller :: between ++ .ends caller (.error error) :: later)))
      (after (events ++ (between ++ later)))
  /-- The subscribers are notified whenever the current table changes to another one. -/
  notified : ∀ event, (after (events ++ [event])).refresher.version =
    (after events).refresher.version +
      if (after (events ++ [event])).current = (after events).current then 0 else 1
  /-- So there is news for a subscriber as soon as it has changed since the last look at it. -/
  told : ∀ subscriber later, .looks subscriber ∉ later →
    ((after (events ++ .looks subscriber :: later)).hasNews subscriber = true ↔
      (after (events ++ [.looks subscriber])).Changes later)
  counted : (after events).refresher.refreshes = events.countP Event.isBegin

/-- Whatever is installed and however refreshes overlap, tables are published by their revisions. -/
theorem published_by_revision (events : List Event) : ByRevision events where
  latest := run_current {} events
  grows later := by
    rw [after_append]
    exact current_le_run _ later
  installed table := by
    rw [after_append]
    exact (after events).refresher.install_returns table
  refreshed caller hcaller table := by
    rw [after_append, run_cons, run_nil, step, if_pos hcaller]
    exact congrArg Except.ok ((after events).refresher.install_returns table)
  failed caller between error later hbetween := by
    rw [after_append, after_append]
    exact run_failed _ hbetween error later
  notified event := by
    rw [after_append]
    exact step_version _ event
  told subscriber later hlater := by
    rw [after_append, after_append]
    exact hasNews_iff _ hlater
  counted := (run_refreshes {} events).trans (Nat.zero_add _)

/-- Of two refreshes the later one ends first. What the other has got is too old by then. -/
example :
    let table (revision : Nat) (owner : String) := Topology.ofOwners revision [⟨owner⟩]
    let overlapping := after
      [.installs (table 1 "a:1"), .begins 0, .looks 9, .begins 1, .ends 1 (.ok (table 3 "b:1")),
        .ends 0 (.ok (table 2 "a:1"))]
    overlapping.current = table 3 "b:1" ∧ overlapping.refresher.refreshes = 2 ∧
      overlapping.hasNews 9 = true := by
  decide

end Board

end ClusterKv

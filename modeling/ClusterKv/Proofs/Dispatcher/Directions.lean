import ClusterKv.Proofs.Dispatcher.Budgets
import ClusterKv.Proofs.Dispatcher.Isolation
import ClusterKv.Proofs.Dispatcher.Retries

/-! # Commands for one node

A command that is meant for one node is never sent to another: neither when it is first sent on its
way, nor after a pause or a refresh, nor when there is room for it again. Its number stays with
whoever submitted it. -/

namespace ClusterKv

/-- A command that is meant for one node is under way there or waits there, if it is at a node. -/
def Entry.Directed (entry : Entry) : Prop :=
  ∀ target, entry.command.target = .node target → ∀ node, entry.isAt node = true → node = target

/-- A command that is under way at its node. -/
theorem Entry.Directed.of_sent {command : Command} {node target : NodeId} {partition : UInt16}
    {carrier : Option Nat} {closed : List Nat}
    (h : Entry.Directed ⟨command, .sent node partition carrier closed⟩)
    (htarget : command.target = .node target) : node = target :=
  h target htarget node (by simp [isAt, isSentTo])

/-- A command that is at no node. -/
theorem Entry.Directed.of_rest {command : Command} {stage : Stage} (h : stage.isRest = true) :
    Entry.Directed ⟨command, stage⟩ := by
  intro target _ node hat
  cases stage with
  | awaitingTopology | backoff => simp [isAt, isSentTo, waitsFor] at hat
  | sent | waiting => cases h

namespace Dispatcher

variable {m : Moment} {input : Input} {d d' : Dispatcher}

/-- All commands in flight are where they are meant to be. -/
def Directed (d : Dispatcher) : Prop :=
  ∀ id entry, d.inFlight.get? id = some entry → entry.Directed

namespace Directed

theorem congr (h : Directed d) (hentries : d'.inFlight = d.inFlight) : Directed d' := by
  intro id entry hentry
  exact h id entry (hentries ▸ hentry)

theorem put (h : Directed d) {id : Nat} {entry : Entry}
    (hentries : d'.inFlight = d.inFlight.put id entry) (hentry : entry.Directed) :
    Directed d' := by
  intro other found hfound
  rw [hentries] at hfound
  by_cases hother : other = id
  · rw [hother, Assoc.get?_put_self] at hfound
    exact Option.some.inj hfound ▸ hentry
  · rw [Assoc.get?_put_of_ne _ _ hother] at hfound
    exact h other found hfound

theorem erase (h : Directed d) {id : Nat} (hentries : d'.inFlight = d.inFlight.erase id) :
    Directed d' := by
  intro other found hfound
  rw [hentries] at hfound
  exact h other found (Assoc.get?_of_erase hfound).2

theorem remove (h : Directed d) (id : Nat) : Directed (d.remove id).1 :=
  h.erase (remove_inFlight d id)

/-- What is noted in entries does not take commands anywhere. -/
theorem mark (h : Directed d) (input : Input) : Directed (d.mark input) := by
  intro id entry hentry target htarget node hat
  rw [mark_get?] at hentry
  obtain ⟨old, hold, rfl⟩ := Option.map_eq_some_iff.mp hentry
  rw [markEntry_command] at htarget
  rw [Entry.isAt, markEntry_isSentTo, markEntry_waitsFor] at hat
  exact h id old hold target htarget node hat

end Directed

/-- The route of a command for one node leads there, whatever the table says. -/
theorem routeOf_of_node {command : Command} {node : NodeId} (h : command.target = .node node)
    (m : Moment) : routeOf m command = (command, .ok ⟨0, node⟩) := by
  simp [routeOf, h]

/-- Whoever is sent on its way goes where it is meant to go. -/
theorem Routed.directed {command : Command} {starts : List (Nat × Nat)}
    (h : Routed m d command starts d') (hd : Directed d) : Directed d' := by
  obtain ⟨partition, hsame⟩ := routeOf_fst m command
  have haimed : ∀ {route : Route} {target : NodeId}, (routeOf m command).2 = .ok route →
      (routeOf m command).1.target = .node target → route.node = target := by
    intro route target hroute htarget
    have htarget : command.target = .node target := by rwa [hsame] at htarget
    rw [routeOf_of_node htarget] at hroute
    cases hroute
    rfl
  cases h with
  | late | unowned => exact hd.congr (by simp)
  | @started route _ found =>
      refine hd.put (by simp; rfl) fun target htarget node hat => ?_
      obtain rfl : route.node = node := by
        simpa [Entry.isAt, Entry.isSentTo, Entry.waitsFor] using hat
      exact haimed found htarget
  | @waiting route _ found =>
      refine hd.put (by simp; rfl) fun target htarget node hat => ?_
      obtain rfl : route.node = node := by
        simpa [Entry.isAt, Entry.isSentTo, Entry.waitsFor] using hat
      exact haimed found htarget
  | parked => exact hd.put (park_inFlight _ _) (.of_rest rfl)

/-- After an attempt a command rests, or it is over. -/
theorem Applied.directed {command : Command} {outcome : Outcome}
    (h : Applied m d command outcome d') (hd : Directed d) : Directed d' := by
  cases h with
  | late | success | definitive | misdirected | exhausted => exact hd.congr (by simp)
  | parked => exact hd.put (park_inFlight _ _) (.of_rest rfl)
  | paused => exact hd.put (backOff_inFlight _ _) (.of_rest rfl)

theorem Deal.directed {config : Config} {d₀ : Dispatcher} {routes : List Command}
    {starts : List (Nat × Nat)} (h : Deal m input d₀ d routes starts d') (hb : Booked config d)
    (hd : Directed d) : Directed d' := by
  cases h with
  | aside _ _ entries => exact hd.congr entries
  | accepted => exact (route_routed _ _ _).directed (hd.congr rfl)
  | resumed | unparked => exact (route_routed _ _ _).directed (hd.remove _)
  | rested => exact (hd.remove _).put (backOff_inFlight _ _) (.of_rest rfl)
  | refused | expired => exact (hd.remove _).congr rfl
  | @promoted _ node id rest command other partition first _ found =>
      -- The command is the first in the queue of the node for which it waits.
      have hqueue : Directed ({ d with waiting := d.waiting.put node rest }.remove id).1 :=
        Directed.remove (d := { d with waiting := d.waiting.put node rest }) hd id
      have hwaits : Entry.isAt node ⟨command, .waiting other partition⟩ = true := by
        obtain ⟨entry, hentry, hwaits⟩ := (hb.listed node id).mp (by simp [first])
        obtain rfl := Option.some.inj (found.symm.trans hentry)
        simp [Entry.isAt, hwaits]
      unfold dispatch
      split
      · exact hqueue.congr (by simp)
      · refine hqueue.put (by simp; rfl) fun target htarget place hat => ?_
        obtain rfl : node = place := by
          simpa [Entry.isAt, Entry.isSentTo, Entry.waitsFor] using hat
        exact hd id _ found target htarget node hwaits
  | ended =>
      exact (apply_applied _ _ _ _).directed ((hd.remove _).congr (dropped_inFlight _ _))
  | dismissed => exact (hd.remove _).congr (dropped_inFlight _ _)

/-- Turns keep commands for one node there. -/
theorem turn_directed (hn : Numbered d .empty) (hb : Booked m.config d) (hd : Directed d)
    (hinput : input ≠ .shutdown) : Directed (d.turn m input) := by
  obtain ⟨starts, hdeals⟩ := turn_deals (m := m) hn hinput
  have hall := hdeals.induct
    (P := fun d' _ _ => Numbered d' .empty ∧ Booked m.config d' ∧ Directed d') ?_ ?_
  · exact hall.2.2
  · exact ⟨mark_numbered hn input, mark_booked hb input, hd.mark input⟩
  · rintro d₁ d₂ _ _ _ _ hdeal ⟨hnumbered, hbooked, hdirected⟩
    obtain ⟨cause, -, hmoves⟩ := hdeal.moves
    exact ⟨hmoves.numbered hnumbered, hmoves.booked hnumbered hbooked,
      hdeal.directed hbooked hdirected⟩

/-- Whatever is noted, a number bears the attempt of the same caller. -/
theorem mark_bears {id ticket : Nat} (h : Bears id ticket (d, .empty)) (input : Input) :
    Bears id ticket (d.mark input, .empty) := by
  obtain ⟨⟨hissued, -⟩, hentries⟩ := h
  refine ⟨⟨hissued, by simp [Hand.number?]⟩, fun entry hentry => ?_⟩
  rw [mark_get?] at hentry
  obtain ⟨⟨command, stage⟩, hold, rfl⟩ := Option.map_eq_some_iff.mp hentry
  obtain ⟨hsent, hticket⟩ := hentries _ hold
  rw [markEntry_command]
  refine ⟨?_, hticket⟩
  cases stage with
  | sent => rfl
  | waiting | awaitingTopology | backoff => cases hsent

/-- A number never comes to bear an attempt of another caller. -/
theorem turn_bears (hn : Numbered d .empty) (hinput : input ≠ .shutdown) {id ticket : Nat}
    (h : Bears id ticket (d, .empty)) : Bears id ticket (d.turn m input, .empty) := by
  have hturn := turn_induct (m := m) (P := fun s => Numbered s.1 s.2 ∧ Bears id ticket s) hn hinput
    (fun _ _ _ _ hmove hs => ⟨hmove.numbered hs.1, hmove.bears hs.1 hs.2⟩)
    ⟨mark_numbered hn input, mark_bears h input⟩
  exact hturn.2

end Dispatcher

end ClusterKv

import ClusterKv.Proofs.Dispatcher.Turns
import Mathlib.Data.List.Count

/-! # Places of commands

A command is in the queue, under way, in hand, or resolved. For each caller the dispatcher keeps
the number of its commands in all these places together, and a command stays what it was when it
was submitted. -/

namespace ClusterKv

/-- The result that an effect gives to a caller. -/
def Effect.result? (ticket : Nat) : Effect → Option (Except Error Reply)
  | resolve other result => if other = ticket then some result else none
  | attempt .. | refresh | disconnect .. | closePool => none

/-- The results that some effects give to a caller, one after another. -/
def results (ticket : Nat) (effects : List Effect) : List (Except Error Reply) :=
  effects.filterMap (Effect.result? ticket)

theorem mem_results {ticket : Nat} {effects : List Effect} {result : Except Error Reply} :
    result ∈ results ticket effects ↔ .resolve ticket result ∈ effects := by
  simp only [results, List.mem_filterMap]
  constructor
  · rintro ⟨effect, heffect, hresult⟩
    cases effect with
    | resolve other given =>
        simp only [Effect.result?, Option.ite_none_right_eq_some, Option.some.injEq] at hresult
        obtain ⟨rfl, rfl⟩ := hresult
        exact heffect
    | attempt | refresh | disconnect | closePool => cases hresult
  · intro hresult
    exact ⟨_, hresult, by simp [Effect.result?]⟩

/-- A command is still the one that was submitted. What else there is to it tells how far it has
come. -/
structure Command.Continues (origin command : Command) : Prop where
  ticket : command.ticket = origin.ticket
  operation : command.operation = origin.operation
  target : command.target = origin.target
  deadline : command.deadline = origin.deadline
  timeout : command.timeout = origin.timeout

theorem Command.Continues.trans {first second third : Command} (h : first.Continues second)
    (h' : second.Continues third) : first.Continues third :=
  ⟨h'.ticket.trans h.ticket, h'.operation.trans h.operation, h'.target.trans h.target,
    h'.deadline.trans h.deadline, h'.timeout.trans h.timeout⟩

namespace Dispatcher

variable {m : Moment} {cause : Cause}

/-! ## Counting commands -/

/-- How many commands of a caller are in the queue. -/
def queued (d : Dispatcher) (ticket : Nat) : Nat := d.inbound.countP (·.ticket = ticket)

/-- How many commands of a caller are in flight. -/
def underWay (d : Dispatcher) (ticket : Nat) : Nat :=
  d.inFlight.countP (·.2.command.ticket = ticket)

/-- How many commands of a caller are in hand. -/
def Hand.holding (hand : Hand) (ticket : Nat) : Nat :=
  hand.command?.toList.countP (·.ticket = ticket)

/-- How many commands and results of a caller there are in all places together. -/
def places (s : Dispatcher × Hand) (ticket : Nat) : Nat :=
  s.1.queued ticket + s.1.underWay ticket + s.2.holding ticket +
    (results ticket s.1.outbox).length

/-- A verdict is about the command in hand. -/
theorem Verdict.command_eq {hand : Hand} {command : Command} {result : Except Error Reply}
    (h : Verdict m cause hand command result) : hand.command? = some command := by
  cases h <;> rfl

theorem requestRefresh_results (d : Dispatcher) (ticket : Nat) :
    results ticket d.requestRefresh.outbox = results ticket d.outbox := by
  unfold requestRefresh
  split <;> rfl

theorem Hand.holding_empty (ticket : Nat) : Hand.empty.holding ticket = 0 := rfl

theorem Hand.holding_of_command {hand : Hand} {command : Command}
    (h : hand.command? = some command) (ticket : Nat) :
    hand.holding ticket = if command.ticket = ticket then 1 else 0 := by
  simp [holding, h]

theorem Hand.holding_held (command : Command) (ticket : Nat) :
    (Hand.held command).holding ticket = if command.ticket = ticket then 1 else 0 :=
  holding_of_command rfl ticket

/-! ## Putting away and taking out -/

/-- Putting the command in hand away keeps the number. -/
theorem places_put {d d' : Dispatcher} {hand : Hand} {command : Command} {stage : Stage}
    {ticket : Nat} (hhand : hand.command? = some command)
    (hfree : d.inFlight.get? command.id = none)
    (hentries : d'.inFlight = d.inFlight.put command.id ⟨command, stage⟩)
    (hqueue : d'.inbound = d.inbound)
    (hresults : results ticket d'.outbox = results ticket d.outbox) :
    places (d', .empty) ticket = places (d, hand) ticket := by
  simp only [places, queued, underWay, hentries, hqueue, hresults, Hand.holding_empty,
    Hand.holding_of_command hhand]
  rw [Assoc.countP_put hfree]
  simp only [decide_eq_true_eq]
  omega

/-- Taking a command in hand keeps the number. -/
theorem places_erase {d d' : Dispatcher} {hand : Hand} {id : Nat} {entry : Entry} {ticket : Nat}
    (hdistinct : d.inFlight.keys.Nodup) (hentry : d.inFlight.get? id = some entry)
    (hhand : hand.command? = some entry.command)
    (hentries : d'.inFlight = d.inFlight.erase id) (hqueue : d'.inbound = d.inbound)
    (hresults : d'.outbox = d.outbox) :
    places (d', hand) ticket = places (d, .empty) ticket := by
  simp only [places, queued, underWay, hentries, hqueue, hresults, Hand.holding_empty,
    Hand.holding_of_command hhand]
  rw [Assoc.countP_erase hdistinct hentry]
  simp only [decide_eq_true_eq]
  omega

/-- Ending the command in hand keeps the number. -/
theorem places_finish {d : Dispatcher} {hand : Hand} {command : Command}
    (hhand : hand.command? = some command) (result : Except Error Reply) (ticket : Nat) :
    places (d.finish command result, .empty) ticket = places (d, hand) ticket := by
  have hresult : (results ticket (d.finish command result).outbox).length =
      (if command.ticket = ticket then 1 else 0) + (results ticket d.outbox).length := by
    by_cases hticket : command.ticket = ticket
    · simp [results, Effect.result?, hticket, Nat.add_comm]
    · simp [results, Effect.result?, hticket]
  simp only [places, hresult, Hand.holding_empty, Hand.holding_of_command hhand]
  simp only [queued, underWay, finish_eq, emit_inbound, emit_inFlight]
  omega

/-! ## Moves keep the number -/

/-- Handling a command neither loses nor repeats it. -/
theorem Handling.places_eq {s t : Dispatcher × Hand} (h : Handling m cause s t)
    (hs : Numbered s.1 s.2) (ticket : Nat) : places t ticket = places s ticket := by
  have hfree : ∀ id, s.2.number? = some id → s.1.inFlight.get? id = none :=
    fun id hid => (hs.in_hand id hid).2.1
  cases h with
  | locate | miss | charge | advance | renumber | renumberUnused | disconnect => rfl
  | start =>
      refine places_put rfl (hfree _ rfl) (by simp; rfl) (by simp) ?_
      rw [emit_outbox, insert_outbox]
      rfl
  | wait => exact places_put rfl (hfree _ rfl) (by simp; rfl) (by simp) (by simp)
  | park =>
      refine places_put rfl (hfree _ rfl) (by simp; rfl) (by simp) ?_
      rw [requestRefresh_results, insert_outbox]
  | pause => exact places_put rfl (hfree _ rfl) (by simp; rfl) (by simp) (by simp)
  | settle verdict => exact places_finish verdict.command_eq _ ticket

/-- A move neither loses nor repeats a command. -/
theorem Move.places_eq {s t : Dispatcher × Hand} (h : Move m cause s t)
    (hs : Numbered s.1 s.2) (ticket : Nat) : places t ticket = places s ticket := by
  cases h with
  | handle handling => exact handling.places_eq hs ticket
  | draw hqueued =>
      simp only [places, queued, hqueued, List.countP_cons, Hand.holding_empty,
        Hand.holding_held, assignId_eq, underWay, arm_inFlight, arm_inbound, arm_outbox,
        decide_eq_true_eq]
      omega
  | retire under ends =>
      exact places_erase hs.distinct under rfl (by simp) (by simp) (by simp)
  | @expire d id entry found late =>
      have hout : places ((d.remove id).1, .spent id entry.command) ticket =
          places (d, .empty) ticket :=
        places_erase hs.distinct found rfl (by simp) (by simp) (by simp)
      rw [← hout]
      exact places_finish rfl _ ticket
  | resume found reached =>
      exact places_erase hs.distinct found rfl (by simp) (by simp) (by simp)
  | unpark found taken =>
      exact places_erase hs.distinct found rfl (by simp) (by simp) (by simp)
  | promote first room found =>
      exact places_erase hs.distinct found rfl (by simp) (by simp) (by simp)
  | skip | tidy | collect | tick => rfl

/-- Notes in entries do not matter. -/
theorem mark_places (d : Dispatcher) (input : Input) (ticket : Nat) :
    places (d.mark input, .empty) ticket = places (d, .empty) ticket := by
  have hcount : (d.mark input).underWay ticket = d.underWay ticket := by
    simp only [underWay, mark, List.countP_map]
    congr 1
    funext e
    simp only [Function.comp_apply, markEntry_command]
  simp only [places, hcount]
  rfl

/-! ## Shutting down -/

theorem results_append (ticket : Nat) (effects more : List Effect) :
    results ticket (effects ++ more) = results ticket effects ++ results ticket more :=
  List.filterMap_append

theorem results_reverse_length (ticket : Nat) (effects : List Effect) :
    (results ticket effects.reverse).length = (results ticket effects).length := by
  simp [results, List.filterMap_reverse]

theorem results_ended {α : Type} (command : α → Command) (items : List α) (ticket : Nat) :
    results ticket (items.map fun item => .resolve (command item).ticket (.error .shutdown)) =
      List.replicate (items.countP fun item => (command item).ticket = ticket)
        (.error .shutdown) := by
  induction items with
  | nil => rfl
  | cons item items ih =>
      simp only [results, List.map_cons, List.filterMap_cons, Effect.result?,
        List.countP_cons, decide_eq_true_eq] at ih ⊢
      split_ifs
      · simp [ih, List.replicate_succ]
      · simp [ih]

/-- A shutdown ends every command that is in the queue or in flight. -/
theorem shutDown_results (d : Dispatcher) (ticket : Nat) :
    results ticket d.shutDown.outbox.reverse =
      results ticket d.outbox.reverse ++
        List.replicate (d.queued ticket + d.underWay ticket) (.error .shutdown) := by
  rw [shutDown_eq]
  simp only [List.cons_append, List.reverse_cons, List.reverse_append, List.reverse_reverse,
    List.append_assoc, results_append]
  have hpool : results ticket [.closePool] = [] := rfl
  rw [results_ended (fun command => command), results_ended (fun e : Nat × Entry => e.2.command),
    hpool, List.append_nil, List.replicate_add]
  rfl

/-! ## Turns -/

/-- A turn neither loses nor repeats a command. -/
theorem turn_places {d : Dispatcher} (hd : Numbered d .empty) (input : Input) (ticket : Nat) :
    places (d.turn m input, .empty) ticket = places (d, .empty) ticket := by
  by_cases hinput : input = .shutdown
  · have hresults : (results ticket d.shutDown.outbox).length =
        (results ticket d.outbox).length + (d.queued ticket + d.underWay ticket) := by
      rw [← results_reverse_length, shutDown_results, List.length_append, List.length_replicate,
        results_reverse_length]
    have hqueue : d.shutDown.queued ticket = 0 := by rw [shutDown_eq]; rfl
    have hentries : d.shutDown.underWay ticket = 0 := by rw [shutDown_eq]; rfl
    simp only [hinput, turn, places, Hand.holding_empty, hresults, hqueue, hentries]
    omega
  · have hturn := turn_induct (m := m)
      (P := fun s => Numbered s.1 s.2 ∧ places s ticket = places (d, .empty) ticket) hd hinput
      (fun _ _ _ _ hmove hs => ⟨hmove.numbered hs.1, (hmove.places_eq hs.1 ticket).trans hs.2⟩)
      ⟨mark_numbered hd input, mark_places d input ticket⟩
    exact hturn.2

/-- A turn leaves a command where it can be found, or gives it a result. -/
theorem turn_found {d : Dispatcher} (hd : Numbered d .empty) (hdone : d.outbox = [])
    (input : Input) {ticket : Nat} (h : 0 < d.queued ticket + d.underWay ticket) :
    0 < (d.turn m input).queued ticket + (d.turn m input).underWay ticket ∨
      ∃ result, .resolve ticket result ∈ (d.turn m input).outbox := by
  have hplaces := turn_places (m := m) hd input ticket
  have hnone : results ticket d.outbox = [] := by
    rw [hdone]
    rfl
  simp only [places, hnone, Hand.holding_empty, List.length_nil] at hplaces
  by_cases hresults : results ticket (d.turn m input).outbox = []
  · left
    rw [hresults, List.length_nil] at hplaces
    omega
  · right
    obtain ⟨result, hresult⟩ := List.exists_mem_of_ne_nil _ hresults
    exact ⟨result, mem_results.mp hresult⟩

/-! ## What commands keep -/

/-- Every command that has been accepted has a property, in flight or in hand. -/
structure Accepted (P : Command → Prop) (s : Dispatcher × Hand) : Prop where
  underWay : ∀ id entry, s.1.inFlight.get? id = some entry → P entry.command
  inHand : ∀ command, s.2.command? = some command → P command

/-- Every command has a property, wherever it is. -/
structure Everywhere (P : Command → Prop) (s : Dispatcher × Hand) : Prop where
  queued : ∀ command ∈ s.1.inbound, P command
  underWay : ∀ id entry, s.1.inFlight.get? id = some entry → P entry.command
  inHand : ∀ command, s.2.command? = some command → P command

section

variable {P : Command → Prop}

theorem Everywhere.accepted {s : Dispatcher × Hand} (h : Everywhere P s) : Accepted P s :=
  ⟨h.underWay, h.inHand⟩

theorem Accepted.put {d d' : Dispatcher} {hand : Hand} {command : Command} {stage : Stage}
    (h : Accepted P (d, hand)) (hhand : hand.command? = some command)
    (hentries : d'.inFlight = d.inFlight.put command.id ⟨command, stage⟩) :
    Accepted P (d', .empty) := by
  refine ⟨?_, by simp [Hand.command?]⟩
  intro id entry hentry
  simp only [hentries] at hentry
  by_cases hid : id = command.id
  · rw [hid, Assoc.get?_put_self] at hentry
    rw [← Option.some.inj hentry]
    exact h.inHand command hhand
  · rw [Assoc.get?_put_of_ne _ _ hid] at hentry
    exact h.underWay id entry hentry

theorem Accepted.erase {d d' : Dispatcher} {hand : Hand} {id : Nat}
    (h : Accepted P (d, .empty)) (hentries : d'.inFlight = d.inFlight.erase id)
    (hhand : ∀ command, hand.command? = some command → P command) : Accepted P (d', hand) := by
  refine ⟨?_, hhand⟩
  intro other entry hentry
  simp only [hentries] at hentry
  exact h.underWay other entry (Assoc.get?_of_erase hentry).2

/-- Notes leave the commands of entries alone. -/
theorem mark_accepted {d : Dispatcher} (h : Accepted P (d, .empty)) (input : Input) :
    Accepted P (d.mark input, .empty) := by
  refine ⟨?_, by simp [Hand.command?]⟩
  intro id entry hentry
  rw [mark_get?] at hentry
  obtain ⟨old, hold, rfl⟩ := Option.map_eq_some_iff.mp hentry
  rw [markEntry_command]
  exact h.underWay id old hold

theorem mark_everywhere {d : Dispatcher} (h : Everywhere P (d, .empty)) (input : Input) :
    Everywhere P (d.mark input, .empty) :=
  ⟨h.queued, (mark_accepted h.accepted input).underWay, by simp [Hand.command?]⟩

variable (hP : ∀ origin command : Command, origin.Continues command → P origin → P command)
include hP

theorem Handling.accepted {s t : Dispatcher × Hand} (h : Handling m cause s t)
    (hs : Accepted P s) : Accepted P t := by
  have hchange : ∀ {d d' : Dispatcher} {hand hand' : Hand} {command command' : Command},
      Accepted P (d, hand) → hand.command? = some command → hand'.command? = some command' →
      d'.inFlight = d.inFlight → command.Continues command' → Accepted P (d', hand') := by
    intro d d' hand hand' command command' hs hhand hhand' hentries hsame
    refine ⟨by simpa only [hentries] using hs.underWay, ?_⟩
    intro other hother
    obtain rfl := Option.some.inj (hhand'.symm.trans hother)
    exact hP _ _ hsame (hs.inHand command hhand)
  cases h with
  | locate | miss | charge | advance | renumber | renumberUnused | disconnect =>
      exact hchange hs rfl rfl rfl ⟨rfl, rfl, rfl, rfl, rfl⟩
  | start | wait | park | pause => exact hs.put rfl (by simp; rfl)
  | settle => exact ⟨hs.underWay, by simp [Hand.command?]⟩

/-- Moves keep the property, if a submission that is accepted has it. -/
theorem Move.accepted {s t : Dispatcher × Hand} (h : Move m cause s t)
    (hdraw : ∀ command rest, cause = some .accept → s.1.inbound = command :: rest → P command)
    (hs : Accepted P s) : Accepted P t := by
  have hheld : ∀ id entry, s.1.inFlight.get? id = some entry → ∀ hand : Hand,
      hand.command? = some entry.command → ∀ command, hand.command? = some command →
      P command := by
    intro id entry hentry hand hhand command hcommand
    obtain rfl := Option.some.inj (hhand.symm.trans hcommand)
    exact hs.underWay id entry hentry
  cases h with
  | handle handling => exact handling.accepted hP hs
  | @draw d command rest hqueued =>
      refine ⟨hs.underWay, ?_⟩
      intro other hother
      obtain rfl := Option.some.inj hother
      exact hP command _ ⟨rfl, rfl, rfl, rfl, rfl⟩ (hdraw command rest rfl hqueued)
  | retire under ends => exact hs.erase (by simp; rfl) (hheld _ _ under _ rfl)
  | expire found late => exact hs.erase (by simp; rfl) (by simp [Hand.command?])
  | resume found reached => exact hs.erase (by simp; rfl) (hheld _ _ found _ rfl)
  | unpark found taken => exact hs.erase (by simp; rfl) (hheld _ _ found _ rfl)
  | promote first room found => exact hs.erase (by simp; rfl) (hheld _ _ found _ rfl)
  | skip | tidy | collect | tick => exact ⟨hs.underWay, hs.inHand⟩

theorem Move.everywhere {s t : Dispatcher × Hand} (h : Move m cause s t)
    (hs : Everywhere P s) : Everywhere P t := by
  have hdraw : ∀ command rest, cause = some .accept → s.1.inbound = command :: rest → P command :=
    fun command rest _ hqueued => hs.queued command (by simp [hqueued])
  have haccepted := h.accepted hP hdraw hs.accepted
  exact ⟨fun command hcommand => hs.queued command (h.inbound_suffix.subset hcommand),
    haccepted.underWay, haccepted.inHand⟩

/-- So do turns, but that of a submission. -/
theorem turn_accepted {d : Dispatcher} (hd : Numbered d .empty) {input : Input}
    (hinput : input ≠ .accept) (h : Accepted P (d, .empty)) :
    Accepted P (d.turn m input, .empty) := by
  by_cases hshutdown : input = .shutdown
  · rw [hshutdown, turn, shutDown_eq]
    exact ⟨by simp, by simp [Hand.command?]⟩
  · refine turn_induct hd hshutdown ?_ (mark_accepted h input)
    rintro cause s t hcause hmove hs
    refine hmove.accepted hP ?_ hs
    rintro command rest rfl -
    rcases hcause with hcause | hcause
    · exact absurd (Option.some.inj hcause).symm hinput
    · cases hcause

/-- If the submission that is accepted has the property, so do all that have been accepted. -/
theorem accept_accepted {d : Dispatcher} (h : Accepted P (d, .empty))
    (hfirst : ∀ command ∈ d.inbound.head?, P command) :
    Accepted P (d.turn m .accept, .empty) := by
  have haccept : Accepted P (d.accept m, .empty) := by
    unfold accept
    split
    · exact h
    · next command rest hqueued =>
      have hroute : Handlings m none
          (({ d with inbound := rest }.assignId command).1,
            .held ({ d with inbound := rest }.assignId command).2) (_, .empty) :=
        route_handlings _ _
      refine Moves.induct hroute.moves (fun _ _ hmove => hmove.accepted hP (by simp)) ?_
      refine ⟨h.underWay, ?_⟩
      intro other hother
      obtain rfl := Option.some.inj hother
      exact hP command _ ⟨rfl, rfl, rfl, rfl, rfl⟩ (hfirst command (by simp [hqueued]))
  exact Moves.induct (promoteWaiting_moves _) (fun _ _ hmove => hmove.accepted hP (by simp)) haccept

theorem turn_everywhere {d : Dispatcher} (hd : Numbered d .empty) (input : Input)
    (h : Everywhere P (d, .empty)) : Everywhere P (d.turn m input, .empty) := by
  by_cases hinput : input = .shutdown
  · rw [hinput, turn, shutDown_eq]
    exact ⟨by simp, by simp, by simp [Hand.command?]⟩
  · exact turn_induct hd hinput (fun _ _ _ _ hmove => hmove.everywhere hP)
      (mark_everywhere h input)

end

end Dispatcher

end ClusterKv

import ClusterKv.Proofs.Dispatcher.Deals

/-! # Timers

Every command in flight has a timer for its deadline, and one for the end of its pause while it
pauses. Timers that are due go off one after another; after that none is due, and neither is
anything else. -/

namespace ClusterKv

namespace Dispatcher

variable {m : Moment} {cause : Cause} {d d' : Dispatcher} {hand : Hand}

/-! ## The list of timers -/

theorem insertTimer_perm (timer : Instant × Nat) (timers : List (Instant × Nat)) :
    (insertTimer timer timers).Perm (timer :: timers) := by
  induction timers with
  | nil => exact .refl _
  | cons t rest ih =>
      unfold insertTimer
      split
      · exact .refl _
      · exact (ih.cons t).trans (.swap timer t rest)

/-- Timers are in the order of their times. -/
def InOrder (timers : List (Instant × Nat)) : Prop := timers.Pairwise (·.1 ≤ ·.1)

theorem insertTimer_inOrder {timers : List (Instant × Nat)} (h : InOrder timers)
    (timer : Instant × Nat) : InOrder (insertTimer timer timers) := by
  induction timers with
  | nil => exact List.pairwise_singleton _ timer
  | cons t rest ih =>
      obtain ⟨hfirst, hrest⟩ := List.pairwise_cons.mp h
      unfold insertTimer
      split
      · next hearlier =>
          refine List.pairwise_cons.mpr ⟨?_, h⟩
          intro other hother
          have hle : timer.1 ≤ t.1 := by
            rcases hearlier with hlt | ⟨heq, -⟩
            · exact Nat.le_of_lt hlt
            · exact Nat.le_of_eq heq
          rcases List.mem_cons.mp hother with rfl | hother
          · exact hle
          · exact Nat.le_trans hle (hfirst other hother)
      · next hlater =>
          refine List.pairwise_cons.mpr ⟨?_, ih hrest⟩
          intro other hother
          rcases List.mem_cons.mp ((insertTimer_perm timer rest).subset hother) with rfl | hother
          · exact Nat.le_of_not_lt fun hlt => hlater (.inl hlt)
          · exact hfirst other hother

/-- If the first timer is not due, none is. -/
theorem InOrder.none_due {timers : List (Instant × Nat)} (h : InOrder timers) {now : Instant}
    (hfirst : ∀ timer ∈ timers.head?, now < timer.1) : ∀ timer ∈ timers, now < timer.1 := by
  intro timer htimer
  cases timers with
  | nil => cases htimer
  | cons first rest =>
      have hfirst := hfirst first rfl
      rcases List.mem_cons.mp htimer with rfl | hrest
      · exact hfirst
      · exact Nat.lt_of_lt_of_le hfirst ((List.pairwise_cons.mp h).1 timer hrest)

/-! ## The invariant -/

/-- Timers are in order, and there is one for each deadline and for the end of each pause. Pauses
end by the deadline. -/
structure Timed (s : Dispatcher × Hand) : Prop where
  sorted : InOrder s.1.timers
  deadline : ∀ id entry, s.1.inFlight.get? id = some entry →
    (entry.command.deadline, id) ∈ s.1.timers
  pause : ∀ id command resume, s.1.inFlight.get? id = some ⟨command, .backoff resume⟩ →
    (resume, id) ∈ s.1.timers ∧ resume ≤ command.deadline
  in_hand : ∀ command id, s.2.command? = some command → s.2.number? = some id →
    (command.deadline, id) ∈ s.1.timers

namespace Timed

theorem start : Timed ({}, .empty) where
  sorted := List.Pairwise.nil
  deadline := by simp
  pause := by simp
  in_hand := by simp [Hand.command?]

/-- More timers do no harm. -/
theorem congr {hand' : Hand} (h : Timed (d, hand)) (hentries : d'.inFlight = d.inFlight)
    (hsorted : InOrder d'.timers) (htimers : d.timers ⊆ d'.timers)
    (hhand : ∀ command id, hand'.command? = some command → hand'.number? = some id →
      (command.deadline, id) ∈ d'.timers) : Timed (d', hand') := by
  refine ⟨hsorted, ?_, ?_, hhand⟩
  · simp only [hentries]
    exact fun id entry hentry => htimers (h.deadline id entry hentry)
  · simp only [hentries]
    exact fun id command resume hentry => (h.pause id command resume hentry).imp_left (htimers ·)

theorem put {command : Command} {stage : Stage} (h : Timed (d, hand))
    (hcommand : hand.command? = some command) (hnumber : hand.number? = some command.id)
    (hentries : d'.inFlight = d.inFlight.put command.id ⟨command, stage⟩)
    (hsorted : InOrder d'.timers) (htimers : d.timers ⊆ d'.timers)
    (hpause : ∀ resume, stage = .backoff resume →
      (resume, command.id) ∈ d'.timers ∧ resume ≤ command.deadline) : Timed (d', .empty) := by
  refine ⟨hsorted, ?_, ?_, by simp [Hand.command?]⟩
  · intro id entry hentry
    simp only [hentries] at hentry
    by_cases hid : id = command.id
    · rw [hid, Assoc.get?_put_self] at hentry
      obtain rfl := Option.some.inj hentry
      rw [hid]
      exact htimers (h.in_hand command command.id hcommand hnumber)
    · rw [Assoc.get?_put_of_ne _ _ hid] at hentry
      exact htimers (h.deadline id entry hentry)
  · intro id other resume hentry
    simp only [hentries] at hentry
    by_cases hid : id = command.id
    · rw [hid, Assoc.get?_put_self] at hentry
      cases hentry
      rw [hid]
      exact hpause resume rfl
    · rw [Assoc.get?_put_of_ne _ _ hid] at hentry
      exact (h.pause id other resume hentry).imp_left (htimers ·)

/-- Without an entry, the timers of its number are not needed but for the command in hand. -/
theorem erase {id : Nat} {hand' : Hand} (h : Timed (d, hand))
    (hentries : d'.inFlight = d.inFlight.erase id) (hsorted : InOrder d'.timers)
    (htimers : ∀ timer ∈ d.timers, timer.2 ≠ id → timer ∈ d'.timers)
    (hhand : ∀ command number, hand'.command? = some command → hand'.number? = some number →
      (command.deadline, number) ∈ d'.timers) : Timed (d', hand') := by
  have hget : ∀ other entry, d'.inFlight.get? other = some entry →
      other ≠ id ∧ d.inFlight.get? other = some entry := by
    intro other entry hentry
    rw [hentries] at hentry
    exact Assoc.get?_of_erase hentry
  refine ⟨hsorted, ?_, ?_, hhand⟩
  · intro other entry hentry
    obtain ⟨hother, hold⟩ := hget other entry hentry
    exact htimers _ (h.deadline other entry hold) hother
  · intro other command resume hentry
    obtain ⟨hother, hold⟩ := hget other _ hentry
    obtain ⟨htimer, hle⟩ := h.pause other command resume hold
    exact ⟨htimers _ htimer hother, hle⟩

/-- Taking a command in hand whose timers stay. -/
theorem release {id : Nat} {entry : Entry} {hand' : Hand} (h : Timed (d, hand))
    (found : d.inFlight.get? id = some entry) (hentries : d'.inFlight = d.inFlight.erase id)
    (htimers : d'.timers = d.timers)
    (hhand : ∀ command number, hand'.command? = some command → hand'.number? = some number →
      command = entry.command ∧ number = id) : Timed (d', hand') := by
  refine h.erase hentries (htimers ▸ h.sorted) (fun timer htimer _ => htimers ▸ htimer) ?_
  intro command number hcommand hnumber
  obtain ⟨rfl, rfl⟩ := hhand command number hcommand hnumber
  rw [htimers]
  exact h.deadline _ _ found

end Timed

/-! ## Moves keep the invariant -/

/-- The timer of a new number is for the deadline. -/
theorem Timed.assign {hand' : Hand} (h : Timed (d, hand)) (command : Command)
    (hcommand : hand'.command? = some (d.assignId command).2)
    (hnumber : hand'.number? = some d.nextId) : Timed ((d.assignId command).1, hand') := by
  have hperm := insertTimer_perm (command.deadline, d.nextId) d.timers
  refine h.congr rfl (insertTimer_inOrder h.sorted _) ?_ ?_
  · exact fun timer htimer => hperm.symm.subset (List.mem_cons_of_mem _ htimer)
  · intro other id hother hid
    obtain rfl := Option.some.inj (hcommand.symm.trans hother)
    obtain rfl := Option.some.inj (hnumber.symm.trans hid)
    exact hperm.symm.subset (List.mem_cons_self ..)

theorem Handling.timed {s t : Dispatcher × Hand} (h : Handling m cause s t) (hs : Timed s) :
    Timed t := by
  have hsub : s.1.timers ⊆ s.1.timers := List.Subset.refl _
  cases h with
  | @locate _ d command | @miss _ d command =>
      refine hs.congr rfl hs.sorted hsub ?_
      intro other id hother hid
      obtain rfl := Option.some.inj hother
      exact hs.in_hand command id rfl hid
  | charge | advance | disconnect | settle =>
      exact hs.congr rfl hs.sorted hsub (by simp [Hand.number?])
  | renumber | renumberUnused => exact hs.assign _ rfl rfl
  | start | wait | park =>
      exact hs.put rfl rfl (by simp; rfl) (by simpa using hs.sorted) (by simp) (by simp)
  | @pause _ d command resume due =>
      have hperm := insertTimer_perm (resume, command.id) d.timers
      refine hs.put rfl rfl (by simp; rfl) ?_ ?_ ?_
      · rw [insert_timers]
        exact insertTimer_inOrder hs.sorted _
      · rw [insert_timers]
        exact fun timer htimer => hperm.symm.subset (List.mem_cons_of_mem _ htimer)
      · intro other hother
        cases hother
        rw [insert_timers]
        refine ⟨hperm.symm.subset (List.mem_cons_self ..), ?_⟩
        rw [due]
        exact m.resume_le_deadline command

theorem Handlings.timed {s t : Dispatcher × Hand} (h : Handlings m cause s t) (hs : Timed s) :
    Timed t := by
  induction h with
  | refl => exact hs
  | tail _ hlast ih => exact hlast.timed ih

theorem route_timed {command : Command} (h : Timed (d, .held command)) :
    Timed (d.route m command, .empty) := by
  have hroute : Handlings m none (d, .held command) (d.route m command, .empty) :=
    route_handlings d command
  exact hroute.timed h

/-- Timers are only used up when they go off. -/
theorem Move.timed {s t : Dispatcher × Hand} (h : Move m cause s t) (hcause : cause ≠ some .timers)
    (hn : Numbered s.1 s.2) (hs : Timed s) : Timed t := by
  have hheld : ∀ id entry, s.1.inFlight.get? id = some entry → ∀ command number,
      Hand.command? (.held entry.command) = some command →
      Hand.number? (.held entry.command) = some number → command = entry.command ∧ number = id := by
    intro id entry hentry command number hcommand hnumber
    obtain rfl := Option.some.inj hcommand
    obtain rfl := Option.some.inj hnumber
    exact ⟨rfl, hn.keyed id entry hentry⟩
  cases h with
  | handle handling => exact handling.timed hs
  | @draw d command rest queued =>
      have hrest : Timed ({ d with inbound := rest }, .empty) :=
        hs.congr rfl hs.sorted (List.Subset.refl _) (by simp [Hand.command?])
      exact hrest.assign command rfl rfl
  | retire under ends => exact hs.release under (by simp) (by simp) (by simp [Hand.number?])
  | expire found late => exact absurd rfl hcause
  | resume found reached => exact absurd rfl hcause
  | tick => exact absurd rfl hcause
  | unpark found taken => exact hs.release found (by simp) (by simp) (hheld _ _ found)
  | promote first room found => exact hs.release found (by simp) (by simp) (hheld _ _ found)
  | skip | tidy | collect =>
      exact hs.congr rfl hs.sorted (List.Subset.refl _) (by simp [Hand.command?])

/-- Notes in entries do not matter. -/
theorem mark_timed (h : Timed (d, .empty)) (input : Input) : Timed (d.mark input, .empty) := by
  refine ⟨h.sorted, ?_, ?_, by simp [Hand.command?]⟩
  · intro id entry hentry
    rw [mark_get?] at hentry
    obtain ⟨old, hold, rfl⟩ := Option.map_eq_some_iff.mp hentry
    rw [markEntry_command]
    exact h.deadline id old hold
  · intro id command resume hentry
    simp only [mark_get?] at hentry
    obtain ⟨⟨old, stage⟩, hold, hmarked⟩ := Option.map_eq_some_iff.mp hentry
    cases stage with
    | backoff =>
        cases hmarked
        exact h.pause id _ _ hold
    | sent | waiting | awaitingTopology => cases hmarked

/-! ## Timers that go off -/

section

variable {due : Instant} {id : Nat} {rest : List (Instant × Nat)}

theorem Timed.popped_sorted (h : Timed (d, .empty)) (first : d.timers = (due, id) :: rest) :
    InOrder rest := by
  have hsorted := h.sorted
  simp only [first] at hsorted
  exact (List.pairwise_cons.mp hsorted).2

/-- The other timers are still there. -/
theorem mem_popped (first : d.timers = (due, id) :: rest) (reached : due ≤ m.now)
    {timer : Instant × Nat} (htimer : timer ∈ d.timers)
    (hother : timer.2 ≠ id ∨ m.now < timer.1) : timer ∈ rest := by
  rw [first] at htimer
  rcases List.mem_cons.mp htimer with rfl | hrest
  · rcases hother with hother | hother
    · exact absurd rfl hother
    · exact absurd reached (Nat.not_le.mpr hother)
  · exact hrest

/-- A timer may go that has become pointless. -/
theorem Timed.pop (h : Timed (d, .empty)) (first : d.timers = (due, id) :: rest)
    (reached : due ≤ m.now) (hself : ∀ entry, d.inFlight.get? id = some entry →
      m.now < entry.command.deadline ∧ ∀ resume, entry.stage = .backoff resume → m.now < resume) :
    Timed ({ d with timers := rest }, .empty) := by
  have hkeep : ∀ {timer : Instant × Nat}, timer ∈ d.timers → timer.2 ≠ id ∨ m.now < timer.1 →
      timer ∈ rest := mem_popped first reached
  refine ⟨h.popped_sorted first, ?_, ?_, by simp [Hand.command?]⟩
  · intro other entry hentry
    refine hkeep (h.deadline other entry hentry) ?_
    by_cases hother : other = id
    · exact .inr (hself entry (hother ▸ hentry)).1
    · exact .inl hother
  · intro other command resume hentry
    obtain ⟨htimer, hle⟩ := h.pause other command resume hentry
    refine ⟨hkeep htimer ?_, hle⟩
    by_cases hother : other = id
    · exact .inr ((hself _ (hother ▸ hentry)).2 resume rfl)
    · exact .inl hother

/-- A timer may go with the entry that it is for. -/
theorem Timed.pop_erase {hand' : Hand} (h : Timed (d, .empty))
    (first : d.timers = (due, id) :: rest) (reached : due ≤ m.now)
    (hhand : ∀ command number, hand'.command? = some command → hand'.number? = some number →
      (command.deadline, number) ∈ rest) :
    Timed (({ d with timers := rest }.remove id).1, hand') := by
  refine h.erase (by simp; rfl) (by simpa using h.popped_sorted first) ?_ (by simpa using hhand)
  intro timer htimer hother
  simpa using mem_popped first reached htimer (.inl hother)

/-- When a timer goes off its own entry is looked after, and the others still have theirs. -/
theorem Timed.fire (h : Timed (d, .empty)) (hd : Numbered d .empty)
    (first : d.timers = (due, id) :: rest) (reached : due ≤ m.now) :
    Timed ({ d with timers := rest }.fireTimer m id, .empty) := by
  unfold fireTimer
  cases hentry : d.inFlight.get? id with
  | none => exact h.pop first reached (by simp [hentry])
  | some entry =>
      obtain ⟨command, stage⟩ := entry
      simp only
      split
      · have hgone : Timed (({ d with timers := rest }.remove id).1, .empty) :=
          h.pop_erase first reached (by simp [Hand.command?])
        exact hgone.congr rfl hgone.sorted (List.Subset.refl _) (by simp [Hand.command?])
      · next early =>
          have early : m.now < command.deadline := Nat.lt_of_not_le early
          have hpop : (∀ resume, stage = .backoff resume → m.now < resume) →
              Timed ({ d with timers := rest }, .empty) := by
            intro hpause
            refine h.pop first reached ?_
            intro other hother
            obtain rfl := Option.some.inj (hentry.symm.trans hother)
            exact ⟨early, hpause⟩
          cases stage with
          | sent | waiting | awaitingTopology => exact hpop (by simp)
          | backoff resume =>
              simp only
              split
              · next elapsed =>
                  have hheld : Timed (({ d with timers := rest }.remove id).1, .held command) := by
                    refine h.pop_erase first reached ?_
                    intro other number hother hnumber
                    obtain rfl := Option.some.inj hother
                    obtain rfl := Option.some.inj hnumber
                    rw [hd.keyed id _ hentry]
                    exact mem_popped first reached (h.deadline id _ hentry) (.inr early)
                  exact route_timed hheld
              · next pausing =>
                  refine hpop ?_
                  rintro _ ⟨⟩
                  exact Nat.lt_of_not_le pausing

end

/-- How many timers are due. -/
def dueCount (m : Moment) (d : Dispatcher) : Nat := d.timers.countP (·.1 ≤ m.now)

theorem arm_dueCount {due : Instant} (d : Dispatcher) (h : m.now < due) (id : Nat) :
    dueCount m (d.arm due id) = dueCount m d := by
  have hearly : ¬due ≤ m.now := Nat.not_le.mpr h
  rw [dueCount, arm, (insertTimer_perm _ _).countP_eq, List.countP_cons]
  simp [hearly, dueCount]

/-- A command that is sent on its way arms no timer that is due. -/
theorem route_dueCount (d : Dispatcher) (command : Command) :
    dueCount m (d.route m command) = dueCount m d := by
  have hrouted := route_routed m d command
  generalize startedBy m d command = starts at hrouted
  generalize d.route m command = d' at hrouted
  cases hrouted with
  | late | unowned => rfl
  | started | waiting => simp [dueCount]
  | parked inTime missed left =>
      simp only [dueCount, park, requestRefresh_timers, insert_timers]
      obtain ⟨partition, hsame⟩ := routeOf_fst m command
      refine arm_dueCount d ?_ d.nextId
      rwa [hsame]

theorem fireTimer_dueCount (d : Dispatcher) (id : Nat) :
    dueCount m (d.fireTimer m id) = dueCount m d := by
  unfold fireTimer
  split
  · rfl
  split
  · simp [dueCount]
  split
  · split
    · rw [route_dueCount]
      simp [dueCount]
    · rfl
  · rfl

/-- When the timers that are due have gone off, one after another, none is due any more. -/
theorem fireDue_timed (fuel : Nat) (d : Dispatcher) (hd : Numbered d .empty)
    (h : Timed (d, .empty)) (hfuel : dueCount m d ≤ fuel) :
    Timed (d.fireDue m fuel, .empty) ∧ ∀ timer ∈ (d.fireDue m fuel).timers, m.now < timer.1 := by
  induction fuel generalizing d with
  | zero =>
      refine ⟨h, ?_⟩
      intro timer htimer
      have hnone := List.countP_eq_zero.mp (Nat.le_zero.mp hfuel) timer htimer
      simpa using hnone
  | succ fuel ih =>
      unfold fireDue
      cases htimers : d.timers with
      | nil => exact ⟨h, by simp [htimers]⟩
      | cons first rest =>
          obtain ⟨due, id⟩ := first
          simp only
          split
          · next reached =>
              have hmoves : Moves m (some .timers) (d, .empty)
                  ({ d with timers := rest }.fireTimer m id, .empty) :=
                .head (.tick htimers reached) (fireTimer_moves _ id)
              refine ih _ (hmoves.numbered hd) (h.fire hd htimers reached) ?_
              rw [fireTimer_dueCount]
              simp only [dueCount, htimers, List.countP_cons, reached, decide_true, ite_true]
                at hfuel ⊢
              omega
          · next notDue =>
              refine ⟨h, h.sorted.none_due ?_⟩
              intro timer htimer
              rw [htimers] at htimer
              obtain rfl := Option.some.inj htimer
              exact Nat.lt_of_not_le notDue

/-- Nothing is overdue: every deadline and the end of every pause is still to come. -/
structure Current (now : Instant) (d : Dispatcher) : Prop where
  deadline : ∀ id entry, d.inFlight.get? id = some entry → now < entry.command.deadline
  pause : ∀ id command resume, d.inFlight.get? id = some ⟨command, .backoff resume⟩ → now < resume

/-- If no timer is due, nothing is overdue. -/
theorem Timed.current {now : Instant} (h : Timed (d, .empty))
    (hnone : ∀ timer ∈ d.timers, now < timer.1) : Current now d where
  deadline id entry hentry := hnone _ (h.deadline id entry hentry)
  pause id command resume hentry := hnone _ (h.pause id command resume hentry).1

theorem fireTimers_timed (hd : Numbered d .empty) (h : Timed (d, .empty)) :
    Timed (d.fireTimers m, .empty) ∧ Current m.now (d.fireTimers m) := by
  obtain ⟨htimed, hnone⟩ := fireDue_timed _ d hd h (Nat.le_refl (dueCount m d))
  exact ⟨htimed, htimed.current hnone⟩

/-! ## Turns keep the invariant -/

theorem act_timed {input : Input} (hd : Numbered d .empty) (h : Timed (d, .empty))
    (hinput : input ≠ .shutdown) : Timed (d.act m input, .empty) := by
  by_cases htimers : input = .timers
  · rw [htimers]
    exact (fireTimers_timed hd h).1
  · have hcause : some input ≠ some Input.timers := by simpa using htimers
    have hact := Moves.induct (act_moves (m := m) hd hinput)
      (P := fun s => Numbered s.1 s.2 ∧ Timed s)
      (fun _ _ hmove hs => ⟨hmove.numbered hs.1, hmove.timed hcause hs.1 hs.2⟩)
      ⟨mark_numbered hd input, mark_timed h input⟩
    exact hact.2

theorem shutDown_timed (d : Dispatcher) : Timed (d.shutDown, .empty) := by
  rw [shutDown_eq]
  exact Timed.start.congr rfl List.Pairwise.nil (List.Subset.refl _) (by simp [Hand.command?])

theorem turn_timed (hd : Numbered d .empty) (h : Timed (d, .empty)) (input : Input) :
    Timed (d.turn m input, .empty) := by
  by_cases hinput : input = .shutdown
  · rw [hinput]
    exact shutDown_timed d
  · rw [turn_eq d hinput]
    have hnumbered := Moves.numbered (act_moves (m := m) hd hinput) (mark_numbered hd input)
    have hturn := Moves.induct (promoteWaiting_moves (m := m) (d.act m input))
      (P := fun s => Numbered s.1 s.2 ∧ Timed s)
      (fun _ _ hmove hs => ⟨hmove.numbered hs.1, hmove.timed (by simp) hs.1 hs.2⟩)
      ⟨hnumbered, act_timed hd h hinput⟩
    exact hturn.2

end Dispatcher

namespace Run

open Dispatcher

/-- In every run each command in flight has its timers. -/
theorem timed (config : Config) (events : List Event) :
    Timed ((of config events).dispatcher, .empty) := by
  refine dispatcher_induct (P := fun _ d => Timed (d, .empty)) .start ?_ ?_ events
  · exact fun _ _ _ h => h.congr rfl h.sorted (List.Subset.refl _) (by simp [Hand.command?])
  · intro journal d m input _ hd _ h
    have hturn := turn_timed (m := m) hd h input
    exact hturn.congr rfl hturn.sorted (List.Subset.refl _) (by simp [Hand.command?])

end Run

end ClusterKv

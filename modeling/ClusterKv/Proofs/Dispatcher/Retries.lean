import ClusterKv.Proofs.Dispatcher.Endings

/-! # Retries are counted exactly

In every run the number of attempts of a command is the number of its retries, and one more while
an attempt is under way. It gets a fixed number of retries and of refreshes, and it is given up when
they are used up and not before. -/

namespace ClusterKv

/-- The attempts among some effects of a turn, each with its caller, given the state in which the
turn has left the dispatcher. -/
def launchedIn (d : Dispatcher) (effects : List Effect) : List (Nat × Nat) :=
  (attempts effects).filterMap fun a =>
    (d.inFlight.get? a.1).map fun entry => (entry.command.ticket, a.1)

namespace Dispatcher

variable {m : Moment} {input : Input} {cause : Cause} {n : Tally} {k : Nat}

/-! ## Whose attempts a turn starts -/

/-- The numbers of the attempts in the outbox, first ones first. -/
def pending (d : Dispatcher) : List Nat := (attempts d.outbox.reverse).map (·.1)

theorem pending_congr {d d' : Dispatcher} (h : d'.outbox = d.outbox) : d'.pending = d.pending := by
  rw [pending, h, pending]

theorem pending_emit (d : Dispatcher) (effect : Effect) :
    (d.emit effect).pending = d.pending ++ (effect.attempt?.map (·.1)).toList := by
  simp only [pending, emit_outbox, List.reverse_cons, attempts_append, List.map_append]
  cases effect <;> rfl

theorem pending_park (d : Dispatcher) (command : Command) :
    (d.park command).pending = d.pending := by
  rcases park_outbox d command with h | h
  · exact pending_congr h
  · exact (pending_congr (d := d.emit .refresh) h).trans (by simp [pending_emit, Effect.attempt?])

theorem pending_finish (d : Dispatcher) (command : Command) (result : Except Error Reply) :
    (d.finish command result).pending = d.pending := by
  simp [pending_emit, Effect.attempt?]

theorem pending_dropped (d : Dispatcher) (input : Input) : (d.dropped input).pending = d.pending := by
  rcases dropped_eq d input with h | ⟨node, generation, h⟩
  · rw [h]
  · simp [h, pending_emit, Effect.attempt?]

theorem pending_start {d : Dispatcher} {command : Command} {entry : Entry} {node : NodeId}
    {request : Request} {deadline : Instant} :
    ((d.insert command.id entry).emit (.attempt command.id node request deadline)).pending =
      d.pending ++ [command.id] := by
  rw [pending_emit, pending_congr (insert_outbox d _ _)]
  rfl

theorem Routed.pending {d d' : Dispatcher} {command : Command} {starts : List (Nat × Nat)}
    (h : Routed m d command starts d') : d'.pending = d.pending ++ starts.map (·.2) := by
  cases h with
  | late | unowned => simp [pending_emit, Effect.attempt?]
  | started => exact pending_start
  | waiting => simp [pending_congr (insert_outbox d _ _)]
  | parked => simp [pending_park]

theorem Applied.pending {d d' : Dispatcher} {command : Command} {outcome : Outcome}
    (h : Applied m d command outcome d') : d'.pending = d.pending := by
  cases h with
  | late | success | definitive | misdirected | exhausted => exact pending_finish _ _ _
  | parked => exact pending_park _ _
  | paused => exact pending_congr (backOff_outbox _ _)

/-- A deal is about one command at most. -/
theorem Deal.routes_length {d₀ d d' : Dispatcher} {routes : List Command}
    {starts : List (Nat × Nat)} (h : Deal m input d₀ d routes starts d') : routes.length ≤ 1 := by
  cases h <;> simp

/-- Beyond its refreshes the misses of a command only go by a deal that tells of it. -/
theorem Deal.overdrawn {d₀ d d' : Dispatcher} {routes : List Command} {starts : List (Nat × Nat)}
    (h : Deal m input d₀ d routes starts d') (hb : Budgeted m.config k n d) {ticket : Nat}
    (hbefore : n.misses ticket ≤ m.config.maxRouteRefreshes)
    (hafter : m.config.maxRouteRefreshes < (n.add m routes starts).misses ticket) :
    ∃ partition, .resolve ticket (.error (.noRoute partition)) ∈ d'.outbox := by
  have hone := h.routes_length
  have hcount := List.countP_le_length (l := routes) (p := fun c =>
    decide (c.ticket = ticket) && missing m c)
  simp only [Tally.add] at hafter
  obtain ⟨command, hrouted, hcommand⟩ := List.countP_pos_iff.mp
    (show 0 < routes.countP fun c => decide (c.ticket = ticket) && missing m c by omega)
  simp only [Bool.and_eq_true, decide_eq_true_eq] at hcommand
  obtain ⟨rfl, hmissing⟩ := hcommand
  obtain ⟨hused, left | told⟩ := h.missed hb hrouted hmissing
  · have left : command.routeRefreshes < m.config.maxRouteRefreshes := left
    omega
  · exact told

/-- The attempts that a deal starts are put into the outbox. -/
theorem Deal.pending {d₀ d d' : Dispatcher} {routes : List Command} {starts : List (Nat × Nat)}
    (h : Deal m input d₀ d routes starts d') : d'.pending = d.pending ++ starts.map (·.2) := by
  have hremove : ∀ id, (d.remove id).1.pending = d.pending :=
    fun id => pending_congr (remove_outbox d id)
  cases h with
  | aside causes move entries queue outbox => simp [pending_congr outbox]
  | accepted => exact (route_routed _ _ _).pending
  | resumed | unparked => rw [(route_routed _ _ _).pending, hremove]
  | rested => simp [pending_congr (backOff_outbox _ _), hremove]
  | refused | expired => simp [pending_emit, Effect.attempt?, hremove]
  | @promoted _ node id rest command other partition first room found =>
      have hsame : ({ d with waiting := d.waiting.put node rest }.remove id).1.pending =
          d.pending := pending_congr (remove_outbox _ id)
      unfold dispatch
      split
      · simp [pending_emit, Effect.attempt?, hsame]
      · rw [pending_start, hsame]
        rfl
  | ended => simp [(apply_applied _ _ _ _).pending, pending_dropped, hremove]
  | dismissed => simp [pending_emit, Effect.attempt?, pending_dropped, hremove]

/-- If anything is in flight under a number it is an attempt for this caller. -/
def Bears (id ticket : Nat) (s : Dispatcher × Hand) : Prop :=
  Apart id s ∧ ∀ entry, s.1.inFlight.get? id = some entry →
    entry.isSent = true ∧ entry.command.ticket = ticket

/-- An attempt is only ever taken out under its number. -/
theorem Move.bears {s t : Dispatcher × Hand} (h : Move m cause s t) (hs : Numbered s.1 s.2)
    {id ticket : Nat} (hbears : Bears id ticket s) : Bears id ticket t := by
  obtain ⟨hid, hentry⟩ := hbears
  rcases h.entry_cases hs hid with ⟨hget, hapart⟩ | ⟨entry, hfound, hgone, hissued, hleaves, -⟩
  · exact ⟨hapart, by rwa [hget]⟩
  · refine ⟨⟨hissued, ?_⟩, by simp [hgone]⟩
    have hsent := (hentry entry hfound).1
    generalize t.2 = hand at hleaves
    cases hleaves with
    | retire | expire => simp [Hand.number?]
    | resume | unpark | promote => cases hsent

theorem Deal.bears {d₀ d d' : Dispatcher} {routes : List Command} {starts : List (Nat × Nat)}
    (h : Deal m input d₀ d routes starts d') (hd : Numbered d .empty) {id ticket : Nat}
    (hbears : Bears id ticket (d, .empty)) : Bears id ticket (d', .empty) := by
  obtain ⟨cause, -, hmoves⟩ := h.moves
  have hkept := Moves.induct hmoves (P := fun s => Numbered s.1 s.2 ∧ Bears id ticket s)
    (fun _ _ hmove hs => ⟨hmove.numbered hs.1, hmove.bears hs.1 hs.2⟩) ⟨hd, hbears⟩
  exact hkept.2

/-- The attempt that a deal starts is under way for the caller named. -/
theorem Deal.started {d₀ d d' : Dispatcher} {routes : List Command} {starts : List (Nat × Nat)}
    (h : Deal m input d₀ d routes starts d') {a : Nat × Nat} (ha : a ∈ starts) :
    ∃ entry, d'.inFlight.get? a.2 = some entry ∧ entry.isSent = true ∧
      entry.command.ticket = a.1 := by
  have hroute : ∀ {d₁ d' : Dispatcher} {command : Command} {starts : List (Nat × Nat)},
      Routed m d₁ command starts d' → a ∈ starts → ∃ entry, d'.inFlight.get? a.2 = some entry ∧
        entry.isSent = true ∧ entry.command.ticket = a.1 := by
    intro d₁ d' command starts h ha
    cases h with
    | late | waiting | parked | unowned => cases ha
    | started =>
        obtain ⟨partition, hsame⟩ := routeOf_fst m command
        obtain rfl := List.mem_singleton.mp ha
        exact ⟨_, by simp; rfl, rfl, by rw [hsame]⟩
  cases h with
  | aside | rested | refused | expired | ended | dismissed => cases ha
  | accepted | resumed | unparked => exact hroute (route_routed _ _ _) ha
  | @promoted _ node id rest command other partition first room found =>
      unfold dispatch
      split at ha
      · cases ha
      · next inTime =>
          obtain rfl := List.mem_singleton.mp ha
          rw [if_neg inTime]
          exact ⟨_, by simp; rfl, rfl, rfl⟩

/-- The deals of a turn start just the attempts that it puts into the outbox, for those who have an
attempt under way when it is over. -/
theorem turn_launches {d : Dispatcher} (hd : Numbered d .empty) (hdone : d.outbox = [])
    {starts : List (Nat × Nat)} {routes : List Command}
    (hdeals : Deals m input d (d.mark input) routes starts (d.turn m input)) :
    launchedIn (d.turn m input) (d.turn m input).outbox.reverse = starts := by
  have hall := hdeals.induct
    (P := fun d₁ _ starts => Numbered d₁ .empty ∧ d₁.pending = starts.map (·.2) ∧
      ∀ a ∈ starts, Bears a.2 a.1 (d₁, .empty)) ?_ ?_
  · obtain ⟨-, hpending, hbears⟩ := hall
    have hentry : ∀ a ∈ starts, ∃ entry, (d.turn m input).inFlight.get? a.2 = some entry ∧
        entry.command.ticket = a.1 := by
      intro a ha
      have hmem : a.2 ∈ (d.turn m input).pending := by
        rw [hpending]
        exact List.mem_map_of_mem ha
      obtain ⟨⟨id, request⟩, hattempt, hid⟩ := List.mem_map.mp hmem
      obtain ⟨effect, heffect, hsome⟩ := List.mem_filterMap.mp hattempt
      cases effect with
      | attempt other node sent deadline =>
          cases hsome
          obtain ⟨command, partition, hfound, -⟩ :=
            turn_begun hd hdone input (List.mem_reverse.mp heffect)
          simp only at hid
          rw [hid] at hfound
          exact ⟨_, hfound, ((hbears a ha).2 _ hfound).2⟩
      | refresh | disconnect | closePool | resolve => cases hsome
    have hlist : launchedIn (d.turn m input) (d.turn m input).outbox.reverse =
        (d.turn m input).pending.filterMap fun id =>
          ((d.turn m input).inFlight.get? id).map fun entry => (entry.command.ticket, id) := by
      simp only [launchedIn, Dispatcher.pending, List.filterMap_map]
      rfl
    rw [hlist, hpending, List.filterMap_map]
    refine (List.filterMap_congr ?_).trans (List.filterMap_some)
    intro a ha
    obtain ⟨entry, hfound, hticket⟩ := hentry a ha
    simp [hfound, hticket]
  · exact ⟨mark_numbered hd input, by simp [Dispatcher.pending, mark, hdone, attempts], by simp⟩
  · rintro d₁ d₂ routes starts routes' starts' hdeal ⟨hnumbered, hpending, hbears⟩
    obtain ⟨cause, -, hmoves⟩ := hdeal.moves
    have hafter := Moves.numbered hmoves hnumbered
    refine ⟨hafter, by simp [hdeal.pending, hpending], ?_⟩
    intro a ha
    rcases List.mem_append.mp ha with hold | hnew
    · exact hdeal.bears hnumbered (hbears a hold)
    · obtain ⟨entry, hfound, hsent⟩ := hdeal.started hnew
      refine ⟨hafter.apart hfound, ?_⟩
      intro other hother
      obtain rfl := Option.some.inj (hfound.symm.trans hother)
      exact hsent

end Dispatcher

namespace Run

open Dispatcher

variable {config : Config}

/-! ## Whole runs -/

/-- What the events of a run give, one after another. -/
def collect {α : Type} (config : Config) (give : Run → Event → List α) (events : List Event) :
    List α :=
  (events.foldl (fun s event => (s.1.step config event, s.2 ++ give s.1 event))
    (({} : Run), [])).2

theorem collect_fst {α : Type} (give : Run → Event → List α) (events : List Event) :
    (events.foldl (fun s event => (s.1.step config event, s.2 ++ give s.1 event))
      (({} : Run), [])).1 = of config events := by
  induction events using List.reverseRecOn with
  | nil => rfl
  | append_singleton events event ih => simp [ih]

@[simp] theorem collect_concat {α : Type} (give : Run → Event → List α) (events : List Event)
    (event : Event) :
    collect config give (events ++ [event]) =
      collect config give events ++ give (of config events) event := by
  simp only [collect, List.foldl_append, List.foldl_cons, List.foldl_nil, collect_fst]

/-- The commands that an event sends on their way. -/
def routesIn (config : Config) (r : Run) : Event → List (Moment × Command)
  | .turn now table input =>
    if r.dispatcher.stopped then []
    else (r.dispatcher.routed ⟨config, now, table⟩ input).map (⟨config, now, table⟩, ·)
  | .submit .. | .write _ => []

/-- The attempts that an event starts, each with its caller. -/
def launchesIn (config : Config) (r : Run) (event : Event) : List (Nat × Nat) :=
  launchedIn (r.step config event).dispatcher
    ((r.step config event).journal.drop r.journal.length)

/-- How often a caller's command has been attempted. -/
def attemptsFor (config : Config) (events : List Event) (ticket : Nat) : Nat :=
  (collect config (launchesIn config) events).countP (·.1 = ticket)

/-- How often it has been sent on its way. -/
def routesFor (config : Config) (events : List Event) (ticket : Nat) : Nat :=
  (collect config (routesIn config) events).countP (·.2.ticket = ticket)

/-- How often nobody owned its partition then. -/
def missesFor (config : Config) (events : List Event) (ticket : Nat) : Nat :=
  (collect config (routesIn config) events).countP fun r =>
    r.2.ticket = ticket && missing r.1 r.2

/-- All of these together. -/
def tally (config : Config) (events : List Event) : Tally where
  attempts := attemptsFor config events
  routes := routesFor config events
  misses := missesFor config events

theorem launchedIn_of_idle {d : Dispatcher} (h : d.inFlight = []) (effects : List Effect) :
    launchedIn d effects = [] := by
  simp [launchedIn, h]

/-- Where nothing is done there is nothing to count. -/
theorem tally_concat_of_still {events : List Event} {event : Event}
    (hroutes : routesIn config (of config events) event = [])
    (hlaunches : launchesIn config (of config events) event = []) :
    tally config (events ++ [event]) = tally config events := by
  have hattempts : attemptsFor config (events ++ [event]) = attemptsFor config events := by
    funext ticket
    simp [attemptsFor, hlaunches]
  have hways : routesFor config (events ++ [event]) = routesFor config events := by
    funext ticket
    simp [routesFor, hroutes]
  have hmisses : missesFor config (events ++ [event]) = missesFor config events := by
    funext ticket
    simp [missesFor, hroutes]
  simp only [tally, hattempts, hways, hmisses]

/-- An event that is no turn, or a turn after a shutdown, or the shutdown itself gives nothing to
count. Any other turn is made of deals, and the tally is kept of them. -/
theorem tally_cases (config : Config) (events : List Event) (event : Event) :
    tally config (events ++ [event]) = tally config events ∧
      (∀ now table input, event = .turn now table input →
        (of config events).dispatcher.stopped = true ∨ input = .shutdown) ∨
    ∃ now table input starts, event = .turn now table input ∧
      (of config events).dispatcher.stopped = false ∧ input ≠ .shutdown ∧
      Deals ⟨config, now, table⟩ input (of config events).dispatcher
        ((of config events).dispatcher.mark input)
        ((of config events).dispatcher.routed ⟨config, now, table⟩ input) starts
        ((of config events).dispatcher.turn ⟨config, now, table⟩ input) ∧
      tally config (events ++ [event]) =
        (tally config events).add ⟨config, now, table⟩
          ((of config events).dispatcher.routed ⟨config, now, table⟩ input) starts := by
  have h := sound config events
  have hsame : ∀ {event : Event}, (of config events).step config event = of config events →
      launchesIn config (of config events) event = [] := by
    intro event hstep
    simp [launchesIn, hstep, launchedIn, attempts]
  cases event with
  | write place =>
      obtain ⟨written, hwrite⟩ := step_write config (of config events) place
      refine .inl ⟨tally_concat_of_still rfl ?_, by simp⟩
      simp [launchesIn, hwrite, launchedIn, attempts]
  | submit operation target timeout created =>
      refine .inl ⟨tally_concat_of_still rfl ?_, by simp⟩
      cases hstopped : (of config events).dispatcher.stopped with
      | true => exact hsame (by simp [step, hstopped])
      | false => simp [launchesIn, step_submit hstopped, launchedIn, attempts]
  | turn now table input =>
      cases hstopped : (of config events).dispatcher.stopped with
      | true =>
          refine .inl ⟨tally_concat_of_still (by simp [routesIn, hstopped]) ?_, by simp⟩
          exact hsame (by simp [step, hstopped])
      | false =>
          by_cases hinput : input = .shutdown
          · subst hinput
            refine .inl ⟨tally_concat_of_still (by simp [routesIn, routed]) ?_, by simp⟩
            apply launchedIn_of_idle
            simp [step_turn hstopped, Dispatcher.turn, shutDown_eq]
          · obtain ⟨starts, hdeals⟩ := turn_deals (m := ⟨config, now, table⟩) h.numbered hinput
            refine .inr ⟨now, table, input, starts, rfl, rfl, hinput, hdeals, ?_⟩
            have hlaunches : launchesIn config (of config events) (.turn now table input) =
                starts := by
              rw [← turn_launches h.numbered h.done hdeals]
              simp [launchesIn, step_turn hstopped, launchedIn]
            have hroutes : routesIn config (of config events) (.turn now table input) =
                ((of config events).dispatcher.routed ⟨config, now, table⟩ input).map
                  (⟨config, now, table⟩, ·) := by
              simp [routesIn, hstopped]
            simp only [tally, Tally.add, Tally.mk.injEq]
            refine ⟨?_, ?_, ?_⟩ <;> funext ticket
            · simp [attemptsFor, hlaunches]
            · simp [routesFor, hroutes, List.countP_map, Function.comp_def]
            · simp [missesFor, hroutes, List.countP_map, Function.comp_def]

/-! ## Budgets in runs -/

theorem Sound.orderly {r : Run} (h : r.Sound) : Orderly r.submitted.length r.dispatcher := by
  have hticket : ∀ command : Command, (∃ origin ∈ r.submitted, origin.Continues command) →
      command.ticket < r.submitted.length := by
    rintro command ⟨origin, horigin, hsame⟩
    rw [hsame.ticket]
    exact h.ticket_lt horigin
  refine ⟨h.numbered, ?_, fun command hcommand => hticket _ (h.origins.queued command hcommand),
    fun id entry hentry => hticket _ (h.origins.underWay id entry hentry), by simp [Hand.command?]⟩
  intro ticket
  have honce := h.once ticket
  simp only [places, h.done, Hand.holding_empty, results, List.filterMap_nil, List.length_nil]
  split at honce <;> omega

/-- In every run every command stays within its budgets. -/
theorem budgeted (config : Config) (events : List Event) :
    Budgeted config (of config events).submitted.length (tally config events)
      (of config events).dispatcher := by
  induction events using List.reverseRecOn with
  | nil =>
      exact ⟨by simp, by simp, fun ticket => ⟨fun _ => Nat.zero_le _, fun _ => Nat.zero_le _,
        Nat.zero_le _, Nat.zero_le _⟩, fun ticket _ => ⟨rfl, rfl, rfl⟩⟩
  | append_singleton events event ih =>
      have h := sound config events
      rw [of_concat]
      rcases tally_cases config events event with ⟨hsame, hidle⟩ |
        ⟨now, table, input, starts, rfl, hstopped, hinput, hdeals, htally⟩
      · rw [hsame]
        cases event with
        | write place =>
            obtain ⟨written, hwrite⟩ := step_write config (of config events) place
            rw [hwrite]
            exact ih
        | turn now table input =>
            cases hstopped : (of config events).dispatcher.stopped with
            | true =>
                have hstep : (of config events).step config (.turn now table input) =
                    of config events := by
                  simp [step, hstopped]
                rw [hstep]
                exact ih
            | false =>
                obtain rfl := (hidle now table input rfl).resolve_left (by simp [hstopped])
                rw [step_turn hstopped, Dispatcher.turn, shutDown_eq]
                exact ⟨by simp, by simp, ih.bounded, ih.fresh⟩
        | submit operation target timeout created =>
            cases hstopped : (of config events).dispatcher.stopped with
            | true =>
                have hstep : (of config events).step config
                    (.submit operation target timeout created) = of config events := by
                  simp [step, hstopped]
                rw [hstep]
                exact ih
            | false =>
                obtain ⟨hattempts, hroutes, hmisses⟩ := ih.fresh _ (Nat.le_refl _)
                rw [step_submit hstopped]
                refine ⟨?_, ih.covered, ih.bounded, ?_⟩
                · intro command hcommand
                  rcases List.mem_append.mp hcommand with hold | hnew
                  · exact ih.queued command hold
                  · obtain rfl := List.mem_singleton.mp hnew
                    exact ⟨⟨.zero config, hattempts, hroutes, hmisses, UInt32.zero_le,
                      Nat.zero_le _⟩, rfl, rfl⟩
                · intro ticket hticket
                  rw [List.length_append] at hticket
                  exact ih.fresh ticket (Nat.le_of_succ_le hticket)
      · rw [htally, step_turn hstopped]
        obtain ⟨hturn, -⟩ := hdeals.budgeted (Q := fun _ _ _ => True) (h.orderly.mark input)
          (ih.mark input) trivial fun _ _ _ _ _ _ _ _ _ => trivial
        exact ⟨hturn.queued, hturn.covered, hturn.bounded, hturn.fresh⟩

/-! ## The last refresh -/

/-- A command that has used up its refreshes and finds no owner again has been told so. -/
theorem noRoute_of_misses (config : Config) (events : List Event) {ticket : Nat}
    (hmisses : config.maxRouteRefreshes < missesFor config events ticket) :
    ∃ partition, .error (.noRoute partition) ∈ (of config events).resolved ticket := by
  induction events using List.reverseRecOn with
  | nil => simp [missesFor, collect] at hmisses
  | append_singleton events event ih =>
      have h := sound config events
      have hold : config.maxRouteRefreshes < missesFor config events ticket →
          ∃ partition, .error (.noRoute partition) ∈
            (of config (events ++ [event])).resolved ticket := by
        intro hmisses
        obtain ⟨partition, hresult⟩ := ih hmisses
        rw [of_concat]
        exact ⟨partition,
          ((journal_step config (of config events) event).filterMap _).subset hresult⟩
      rcases tally_cases config events event with ⟨hsame, -⟩ |
        ⟨now, table, input, starts, rfl, hstopped, hinput, hdeals, htally⟩
      · have hsame : missesFor config (events ++ [event]) = missesFor config events :=
          congrArg Tally.misses hsame
        exact hold (by rwa [hsame] at hmisses)
      · have hturn := hdeals.budgeted
          (Q := fun d routes starts => config.maxRouteRefreshes <
              ((tally config events).add ⟨config, now, table⟩ routes starts).misses ticket →
            config.maxRouteRefreshes < missesFor config events ticket ∨
              ∃ partition, .resolve ticket (.error (.noRoute partition)) ∈ d.outbox)
          (h.orderly.mark input) ((budgeted config events).mark input) .inl ?_
        · obtain ⟨-, htold⟩ := hturn
          rw [← htally] at htold
          rcases htold hmisses with hmisses | ⟨partition, hresult⟩
          · exact hold hmisses
          · refine ⟨partition, mem_resolved.mpr ?_⟩
            rw [of_concat, step_turn hstopped]
            exact List.mem_append_right _ (List.mem_reverse.mpr hresult)
        · intro d d' routes starts routes' starts' hdeal hb htold hmisses
          obtain ⟨_, -, hmoves⟩ := hdeal.moves
          rw [← Tally.add_add] at hmisses
          generalize (tally config events).add ⟨config, now, table⟩ routes starts = n at *
          by_cases hbefore : config.maxRouteRefreshes < n.misses ticket
          · refine (htold hbefore).imp_right ?_
            rintro ⟨partition, hresult⟩
            exact ⟨partition, Moves.outbox_mono hmoves hresult⟩
          · exact .inr (hdeal.overdrawn hb (Nat.le_of_not_lt hbefore) hmisses)

section

variable {events : List Event} {now : Instant} {table : Topology} {input : Input}

/-- Whoever finds no owner in a turn has missed more often than it has asked for refreshes. -/
theorem refreshes_lt_misses {starts : List (Nat × Nat)} {command : Command}
    (hdeals : Deals ⟨config, now, table⟩ input (of config events).dispatcher
      ((of config events).dispatcher.mark input)
      ((of config events).dispatcher.routed ⟨config, now, table⟩ input) starts
      ((of config events).dispatcher.turn ⟨config, now, table⟩ input))
    (hrouted : command ∈ (of config events).dispatcher.routed ⟨config, now, table⟩ input)
    (hmissed : missing ⟨config, now, table⟩ command = true) :
    command.routeRefreshes <
      ((tally config events).add ⟨config, now, table⟩
        ((of config events).dispatcher.routed ⟨config, now, table⟩ input) starts).misses
          command.ticket := by
  have h := sound config events
  have hturn := hdeals.budgeted
    (Q := fun _ routes starts => command ∈ routes → command.routeRefreshes <
      ((tally config events).add ⟨config, now, table⟩ routes starts).misses command.ticket)
    (h.orderly.mark input) ((budgeted config events).mark input) (by simp) ?_
  · exact hturn.2 hrouted
  · intro d d' routes starts routes' starts' hdeal hb hbefore hrouted
    rw [← Tally.add_add]
    generalize (tally config events).add ⟨config, now, table⟩ routes starts = n at *
    simp only [Tally.add]
    rcases List.mem_append.mp hrouted with hold | hnew
    · exact Nat.lt_of_lt_of_le (hbefore hold) (Nat.le_add_right _ _)
    · obtain ⟨hused, -⟩ := hdeal.missed hb hnew hmissed
      have hpos : 0 < routes'.countP fun c =>
          decide (c.ticket = command.ticket) && missing ⟨config, now, table⟩ c :=
        List.countP_pos_iff.mpr ⟨command, hnew, by simp [hmissed]⟩
      omega

/-- A turn says that there is no route to a command whose refreshes are used up and whose partition
nobody owns, or to one that asked a node of its own choice. -/
theorem noRoute_turn {ticket : Nat} {partition : UInt16} (hinput : input ≠ .shutdown)
    (hnew : .resolve ticket (.error (.noRoute partition)) ∈
      ((of config events).dispatcher.turn ⟨config, now, table⟩ input).outbox) :
    (∃ command ∈ (of config events).dispatcher.routed ⟨config, now, table⟩ input,
      command.ticket = ticket ∧ missing ⟨config, now, table⟩ command = true ∧
        config.maxRouteRefreshes ≤ command.routeRefreshes) ∨
    ∃ origin ∈ (of config events).submitted, origin.ticket = ticket ∧ origin.target ≠ .key := by
  have h := sound config events
  generalize hreason : (Except.error (Error.noRoute partition) : Except Error Reply) = result
    at hnew
  obtain ⟨command, -, rfl, hwhy⟩ :=
    turn_reason continues_origin h.numbered h.done hinput h.origins hnew
  cases hwhy with
  | unowned routed missed reached => exact .inl ⟨command, routed, rfl, missed, reached⟩
  | ended since brings inTime concludes =>
      obtain ⟨origin, horigin, hcontinues⟩ := h.origins.underWay _ _ since
      refine .inr ⟨origin, horigin, hcontinues.ticket.symm, ?_⟩
      cases concludes with
      | success | definitive => cases hreason
      | misdirected target =>
          rw [← hcontinues.target, target]
          simp
      | exhausted =>
          simp only [exhausted] at hreason
          split at hreason <;> cases hreason
  | late | noTable => cases hreason
  | dismissed since dismisses => cases dismisses <;> cases hreason

end

/-- Whoever is told that nobody owns the partition of a key has used up the refreshes. -/
theorem misses_of_noRoute (config : Config) (events : List Event) {ticket : Nat}
    {partition : UInt16}
    (hresult : .error (.noRoute partition) ∈ (of config events).resolved ticket) :
    config.maxRouteRefreshes < missesFor config events ticket ∨
      ∃ origin ∈ (of config events).submitted, origin.ticket = ticket ∧ origin.target ≠ .key := by
  rw [mem_resolved] at hresult
  induction events using List.reverseRecOn with
  | nil => simp at hresult
  | append_singleton events event ih =>
      have hmore : ∀ origin ∈ (of config events).submitted,
          origin ∈ (of config (events ++ [event])).submitted := by
        intro origin horigin
        rw [of_concat]
        exact (submitted_step config _ _).subset horigin
      have hold : .resolve ticket (.error (.noRoute partition)) ∈ (of config events).journal →
          config.maxRouteRefreshes < missesFor config (events ++ [event]) ticket ∨
            ∃ origin ∈ (of config (events ++ [event])).submitted,
              origin.ticket = ticket ∧ origin.target ≠ .key := by
        intro hold
        refine (ih hold).imp (fun hmisses => Nat.lt_of_lt_of_le hmisses ?_) ?_
        · simp [missesFor]
        · rintro ⟨origin, horigin, hother⟩
          exact ⟨origin, hmore origin horigin, hother⟩
      rw [of_concat] at hresult
      rcases step_cases config (of config events) event with
        ⟨_, hsame⟩ | ⟨_, hsame⟩ | ⟨now, table, input, rfl, hstopped, hsame⟩
      · exact hold (by rwa [hsame] at hresult)
      · exact hold (by rwa [hsame] at hresult)
      rw [hsame] at hresult
      rcases List.mem_append.mp hresult with hbefore | hnew
      · exact hold hbefore
      have hnew := List.mem_reverse.mp hnew
      rcases tally_cases config events (.turn now table input) with ⟨-, hidle⟩ |
        ⟨_, _, _, starts, hevent, -, hinput, hdeals, htally⟩
      · obtain rfl := (hidle now table input rfl).resolve_left (by simp [hstopped])
        rw [Dispatcher.turn, shutDown_eq] at hnew
        simp [(sound config events).done] at hnew
      cases hevent
      rcases noRoute_turn hinput hnew with
        ⟨command, hrouted, rfl, hmissed, hreached⟩ | ⟨origin, horigin, hother⟩
      · left
        have hmisses := refreshes_lt_misses hdeals hrouted hmissed
        rw [← htally] at hmisses
        exact Nat.lt_of_le_of_lt hreached hmisses
      · exact .inr ⟨origin, hmore origin horigin, hother⟩

/-! ## The last retry -/

/-- An input ends an attempt in time and in something worth another try. -/
def FailsInTime (r : Run) (now : Instant) (input : Input) (command : Command) (failure : String)
    (fault : Bool) : Prop :=
  ∃ id entry outcome, r.dispatcher.inFlight.get? id = some entry ∧ entry.command = command ∧
    Brings input id entry outcome ∧ now < command.deadline ∧
    command.setback? outcome = some (failure, fault)

section

variable {events : List Event} {now : Instant} {table : Topology} {input : Input}

/-- A turn that gives up a command whose fate was open is not the shutdown, and says so itself. -/
theorem turn_of_givesUp {ticket : Nat} {error : Error}
    (hunresolved : (of config events).resolved ticket = [])
    (hresult : .error error ∈ (of config (events ++ [.turn now table input])).resolved ticket)
    (hup : GivesUp input error) :
    input ≠ .shutdown ∧ .resolve ticket (.error error) ∈
      ((of config events).dispatcher.turn ⟨config, now, table⟩ input).outbox := by
  rw [mem_resolved, of_concat] at hresult
  cases hstopped : (of config events).dispatcher.stopped with
  | true =>
      simp only [step, hstopped, ite_true, ← mem_resolved, hunresolved] at hresult
      cases hresult
  | false =>
      rw [step_turn hstopped] at hresult
      rcases List.mem_append.mp hresult with hold | hnew
      · rw [← mem_resolved, hunresolved] at hold
        cases hold
      have hnew := List.mem_reverse.mp hnew
      refine ⟨?_, hnew⟩
      rintro rfl
      rw [Dispatcher.turn, shutDown_eq] at hnew
      simp only [(sound config events).done, List.append_nil, List.mem_cons, List.cons_append,
        List.mem_append, List.mem_reverse, List.mem_map, Effect.resolve.injEq, reduceCtorEq,
        false_or] at hnew
      rcases hnew with ⟨_, -, -, hshutdown⟩ | ⟨_, -, -, hshutdown⟩
      · cases hshutdown
        cases hup
      · cases hshutdown
        cases hup

/-- The attempt that an input ends is one more than the retries that were used. -/
theorem attemptsFor_of_brings {id : Nat} {entry : Entry} {outcome : Outcome}
    (hentry : (of config events).dispatcher.inFlight.get? id = some entry)
    (hbrings : Brings input id entry outcome) :
    config.maxRetries < entry.command.retries + 1 ↔ config.LimitsRetries ∧
      attemptsFor config events entry.command.ticket = config.maxRetries.toNat + 1 := by
  obtain ⟨node, partition, carrier, closed, hstage⟩ := hbrings.stage_eq
  obtain ⟨used, hpaid⟩ := (budgeted config events).covered id entry hentry
  have hattempts := hpaid.attempts
  simp only [Entry.isSent, hstage, ite_true] at hattempts
  change attemptsFor config events entry.command.ticket = _ at hattempts
  rw [hpaid.exceeds_iff, hattempts, Nat.add_right_cancel_iff]

/-- Whoever is given up has just failed in time, and has no retry left. -/
theorem failsInTime_of_givesUp {ticket : Nat} {error : Error} (hinput : input ≠ .shutdown)
    (hnew : .resolve ticket (.error error) ∈
      ((of config events).dispatcher.turn ⟨config, now, table⟩ input).outbox)
    (hup : GivesUp input error) :
    ∃ command failure fault, FailsInTime (of config events) now input command failure fault ∧
      command.ticket = ticket ∧ config.LimitsRetries ∧
      attemptsFor config events ticket = config.maxRetries.toNat + 1 ∧
      error = exhausted ⟨config, now, table⟩ command failure fault := by
  have h := sound config events
  generalize hsame : (Except.error error : Except Error Reply) = result at hnew
  obtain ⟨command, -, rfl, hwhy⟩ :=
    turn_reason continues_origin h.numbered h.done hinput h.origins hnew
  cases hwhy with
  | late | unowned | noTable =>
      cases hsame
      cases hup
  | @ended id entry outcome _ since brings inTime concludes =>
      subst hsame
      obtain ⟨failure, fault, hsetback, hexceeded, rfl⟩ := concludes.of_givesUp hup
      obtain ⟨limited, hattempts⟩ := (attemptsFor_of_brings since brings).mp hexceeded
      exact ⟨entry.command, failure, fault, ⟨id, entry, outcome, since, rfl, brings, inTime,
        hsetback⟩, rfl, limited, hattempts, rfl⟩
  | dismissed since dismisses =>
      cases hsame
      cases dismisses with
      | abandoned | poolClosed => cases hup
      | rejected =>
          cases hup with
          | connection accepted => exact absurd rfl (accepted _ _ _ _ _)

/-- A command is given up just when an attempt fails in time after which there is no retry left. It
never is if there is no end to its retries. -/
theorem gives_up_iff (config : Config) (events : List Event) (now : Instant) (table : Topology)
    (input : Input) (ticket : Nat) (error : Error)
    (hunresolved : (of config events).resolved ticket = []) :
    (.error error ∈ (of config (events ++ [.turn now table input])).resolved ticket ∧
        GivesUp input error) ↔
      ∃ command failure fault, FailsInTime (of config events) now input command failure fault ∧
        command.ticket = ticket ∧ config.LimitsRetries ∧
        attemptsFor config events ticket = config.maxRetries.toNat + 1 ∧
        error = exhausted ⟨config, now, table⟩ command failure fault := by
  constructor
  · rintro ⟨hresult, hup⟩
    obtain ⟨hinput, hnew⟩ := turn_of_givesUp hunresolved hresult hup
    exact failsInTime_of_givesUp hinput hnew hup
  · rintro ⟨command, failure, fault, ⟨id, entry, outcome, hentry, rfl, hbrings, inTime, hsetback⟩,
      rfl, limited, hattempts, rfl⟩
    have h := sound config events
    refine ⟨?_, givesUp_exhausted hbrings _ _⟩
    rw [mem_resolved, of_concat, step_turn (h.running hentry)]
    refine List.mem_append_right _ (List.mem_reverse.mpr ?_)
    apply turn_exhausts h.numbered hentry hbrings inTime hsetback
    exact (attemptsFor_of_brings hentry hbrings).mpr ⟨limited, hattempts⟩

end

/-! ## The result -/

/-- The books of the retries are exact: in numbers if there is an end to the retries, and in any case
in the words that they are counted in. -/
structure RetriesCounted (config : Config) (events : List Event) : Prop where
  /-- Every attempt in the journal is counted, for the caller of the command under its number. -/
  launched : (collect config (launchesIn config) events).map (·.2) =
    (attempts (of config events).journal).map (·.1)
  /-- A command that is not accepted yet has not been attempted. -/
  queued : ∀ command ∈ (of config events).dispatcher.inbound,
    attemptsFor config events command.ticket = 0 ∧ command.retries = 0
  /-- While an attempt is under way there has been one more than there are retries. -/
  sent : ∀ id command node partition carrier closed,
    (of config events).dispatcher.inFlight.get? id =
      some ⟨command, .sent node partition carrier closed⟩ →
    ∃ used, config.Counts command.retries used ∧
      attemptsFor config events command.ticket = used + 1
  /-- Otherwise there have been as many. -/
  unsent : ∀ id entry, (of config events).dispatcher.inFlight.get? id = some entry →
    entry.isSent = false →
    config.Counts entry.command.retries (attemptsFor config events entry.command.ticket)
  retries : ∀ id entry, (of config events).dispatcher.inFlight.get? id = some entry →
    entry.command.retries ≤ config.maxRetries
  attempts : config.LimitsRetries →
    ∀ ticket, attemptsFor config events ticket ≤ config.maxRetries.toNat + 1
  /-- A command is given up just when the last attempt that it may have fails in time, and never if
  there is no end to its retries. -/
  exhausted : ∀ now table input ticket error, (of config events).resolved ticket = [] →
    (.error error ∈ (of config (events ++ [.turn now table input])).resolved ticket ∧
        GivesUp input error ↔
      ∃ command failure fault, FailsInTime (of config events) now input command failure fault ∧
        command.ticket = ticket ∧ config.LimitsRetries ∧
        attemptsFor config events ticket = config.maxRetries.toNat + 1 ∧
        error = Dispatcher.exhausted ⟨config, now, table⟩ command failure fault)
  routes : config.LimitsRetries → ∀ ticket,
    routesFor config events ticket ≤ 1 + config.maxRetries.toNat + config.maxRouteRefreshes
  /-- With or without an end to the retries, it sets out once for each attempt and refresh. -/
  spread : ∀ ticket, routesFor config events ticket ≤
    1 + attemptsFor config events ticket + config.maxRouteRefreshes
  misses : ∀ ticket, missesFor config events ticket ≤ config.maxRouteRefreshes + 1
  /-- A command for a key has no route just when nobody owned its partition the last time that
  counts. -/
  noRoute : ∀ origin ∈ (of config events).submitted, origin.target = .key →
    ((∃ partition, .error (.noRoute partition) ∈ (of config events).resolved origin.ticket) ↔
      missesFor config events origin.ticket = config.maxRouteRefreshes + 1)

theorem launchedIn_numbers {d : Dispatcher} {effects : List Effect}
    (h : ∀ a ∈ ClusterKv.attempts effects, ∃ entry, d.inFlight.get? a.1 = some entry) :
    (launchedIn d effects).map (·.2) = (ClusterKv.attempts effects).map (·.1) := by
  rw [launchedIn, List.map_filterMap, ← List.filterMap_eq_map]
  apply List.filterMap_congr
  intro a ha
  obtain ⟨entry, hentry⟩ := h a ha
  simp [hentry]

theorem launches_numbers (config : Config) (events : List Event) :
    (collect config (launchesIn config) events).map (·.2) =
      (ClusterKv.attempts (of config events).journal).map (·.1) := by
  induction events using List.reverseRecOn with
  | nil => rfl
  | append_singleton events event ih =>
      have h := sound config events
      have hgrow := journal_step config (of config events) event
      obtain ⟨more, hmore⟩ := hgrow
      rw [collect_concat, List.map_append, ih, of_concat, ← hmore, attempts_append, List.map_append,
        launchesIn, ← hmore, List.drop_left]
      congr 1
      apply launchedIn_numbers
      rintro ⟨id, request⟩ ha
      obtain ⟨effect, heffect, hsome⟩ := List.mem_filterMap.mp ha
      rcases step_cases config (of config events) event with
        ⟨_, hstep⟩ | ⟨_, hstep⟩ | ⟨now, table, input, -, -, hstep⟩
      · simp [hstep] at hmore
        simp [hmore] at heffect
      · simp [hstep] at hmore
        simp [hmore] at heffect
      · rw [hstep] at hmore ⊢
        rw [List.append_cancel_left hmore] at heffect
        cases effect with
        | attempt other node sent deadline =>
            cases hsome
            obtain ⟨command, partition, hfound, -⟩ :=
              turn_begun h.numbered h.done input (List.mem_reverse.mp heffect)
            exact ⟨_, hfound⟩
        | refresh | disconnect | closePool | resolve => cases hsome

/-- In every run the retries of every command are counted exactly. -/
theorem retries_counted (config : Config) (events : List Event) :
    RetriesCounted config events := by
  have h := sound config events
  have hb := budgeted config events
  refine ⟨launches_numbers config events, ?_, ?_, ?_, ?_,
    fun limited ticket => (hb.bounded ticket).attempts limited, gives_up_iff config events,
    fun limited ticket => (hb.bounded ticket).routes limited,
    fun ticket => (hb.bounded ticket).spread, fun ticket => (hb.bounded ticket).misses, ?_⟩
  · intro command hcommand
    obtain ⟨hpaid, hretries, -⟩ := hb.queued command hcommand
    exact ⟨hpaid.attempts, hretries⟩
  · intro id command node partition carrier closed hentry
    obtain ⟨used, hpaid⟩ := hb.covered id _ hentry
    exact ⟨used, hpaid.counts, hpaid.attempts⟩
  · intro id entry hentry hsent
    obtain ⟨used, hpaid⟩ := hb.covered id entry hentry
    have hattempts := hpaid.attempts
    simp only [hsent, Bool.false_eq_true, ite_false, Nat.add_zero] at hattempts
    change attemptsFor config events entry.command.ticket = used at hattempts
    rw [hattempts]
    exact hpaid.counts
  · intro id entry hentry
    obtain ⟨used, hpaid⟩ := hb.covered id entry hentry
    exact hpaid.retries_le
  · intro origin horigin htarget
    constructor
    · rintro ⟨partition, hresult⟩
      rcases misses_of_noRoute config events hresult with hmisses | ⟨other, hother, hsame, hkey⟩
      · exact Nat.le_antisymm (hb.bounded _).misses hmisses
      · obtain rfl := h.eq_of_ticket hother horigin hsame
        exact absurd htarget hkey
    · intro hmisses
      exact noRoute_of_misses config events (by omega)

end Run

end ClusterKv

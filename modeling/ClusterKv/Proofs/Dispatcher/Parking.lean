import ClusterKv.Proofs.Dispatcher.Budgets
import ClusterKv.Proofs.Dispatcher.Settled

/-! # Parked commands

A command that is turned away by the wrong node, or finds no owner, is parked until a refresh is
over. A turn keeps all that awaits a refresh parked, starts one refresh at most, and calls up
everybody when it is over. -/

namespace ClusterKv

/-- Does an effect start a refresh? -/
def Effect.isRefresh : Effect → Bool
  | refresh => true
  | attempt .. | disconnect .. | closePool | resolve .. => false

/-- How many refreshes some effects start. -/
def refreshes (effects : List Effect) : Nat := effects.countP Effect.isRefresh

@[simp] theorem refreshes_nil : refreshes [] = 0 := rfl

@[simp] theorem refreshes_cons (effect : Effect) (effects : List Effect) :
    refreshes (effect :: effects) = refreshes effects + effect.isRefresh.toNat := by
  cases h : effect.isRefresh <;> simp [refreshes, h]

@[simp] theorem refreshes_append (effects more : List Effect) :
    refreshes (effects ++ more) = refreshes effects + refreshes more :=
  List.countP_append

@[simp] theorem refreshes_reverse (effects : List Effect) :
    refreshes effects.reverse = refreshes effects :=
  List.countP_reverse

namespace Dispatcher

variable {m : Moment} {input : Input} {cause : Cause} {d d' : Dispatcher}

/-! ## The mark of a refresh -/

@[simp] theorem emit_refreshing (d : Dispatcher) (effect : Effect) :
    (d.emit effect).refreshing = d.refreshing := rfl

@[simp] theorem insert_refreshing (d : Dispatcher) (id : Nat) (entry : Entry) :
    (d.insert id entry).refreshing = d.refreshing := by
  obtain ⟨_, _, _, h⟩ := insert_frame d id entry
  rw [h]

@[simp] theorem remove_refreshing (d : Dispatcher) (id : Nat) :
    (d.remove id).1.refreshing = d.refreshing := by
  obtain ⟨_, _, _, h⟩ := remove_frame d id
  rw [h]

/-- A refresh is started just if none is under way. -/
theorem requestRefresh_started (d : Dispatcher) :
    d.requestRefresh.refreshing = true ∧
      refreshes d.requestRefresh.outbox + d.refreshing.toNat = refreshes d.outbox + 1 := by
  unfold requestRefresh
  split
  · next hunderWay => simp [hunderWay]
  · next hidle =>
      simp only [Bool.not_eq_true] at hidle
      simp [emit, hidle, Effect.isRefresh]

/-! ## What is parked -/

/-- Whatever awaits a refresh is parked, or about to be called up. While anything is parked a
refresh is under way, be it one of those before the turn or one that the turn has started. -/
structure Awaited (before : Nat) (called : List Nat) (d : Dispatcher) : Prop where
  awaiting : ∀ id entry, d.inFlight.get? id = some entry → entry.stage = .awaitingTopology →
    id ∈ d.parked ∨ id ∈ called
  underWay : d.parked ≠ [] → d.refreshing = true
  started : before + refreshes d.outbox = d.refreshing.toNat

namespace Awaited

variable {before : Nat} {called : List Nat}

theorem start : Awaited 0 [] {} where
  awaiting := by simp
  underWay := by simp
  started := rfl

theorem congr (h : Awaited before called d) (hentries : d'.inFlight = d.inFlight)
    (hparked : d'.parked = d.parked) (hrefreshing : d'.refreshing = d.refreshing)
    (hstarted : refreshes d'.outbox = refreshes d.outbox) : Awaited before called d' := by
  refine ⟨?_, ?_, ?_⟩
  · rw [hentries, hparked]
    exact h.awaiting
  · rw [hparked, hrefreshing]
    exact h.underWay
  · rw [hstarted, hrefreshing]
    exact h.started

/-- A command may be put away to wait for anything but a refresh. -/
theorem put (h : Awaited before called d) (id : Nat) (entry : Entry)
    (hstage : entry.stage ≠ .awaitingTopology)
    (hentries : d'.inFlight = d.inFlight.put id entry) (hparked : d'.parked = d.parked)
    (hrefreshing : d'.refreshing = d.refreshing)
    (hstarted : refreshes d'.outbox = refreshes d.outbox) : Awaited before called d' := by
  have hrest : Awaited before called { d' with inFlight := d.inFlight } :=
    h.congr rfl hparked hrefreshing hstarted
  refine ⟨?_, hrest.underWay, hrest.started⟩
  intro other found hfound hawaits
  rw [hentries] at hfound
  by_cases hother : other = id
  · rw [hother, Assoc.get?_put_self] at hfound
    exact absurd (Option.some.inj hfound ▸ hawaits) hstage
  · rw [Assoc.get?_put_of_ne _ _ hother] at hfound
    exact hrest.awaiting other found hfound hawaits

/-- A command that is taken out need not be parked. -/
theorem erase {id : Nat} (h : Awaited before (id :: called) d)
    (hentries : d'.inFlight = d.inFlight.erase id) (hparked : d'.parked = d.parked)
    (hrefreshing : d'.refreshing = d.refreshing)
    (hstarted : refreshes d'.outbox = refreshes d.outbox) : Awaited before called d' := by
  refine ⟨?_, ?_, ?_⟩
  · intro other found hfound hawaits
    rw [hentries] at hfound
    obtain ⟨hother, hfound⟩ := Assoc.get?_of_erase hfound
    rw [hparked]
    exact (h.awaiting other found hfound hawaits).imp_right
      fun hcalled => (List.mem_cons.mp hcalled).resolve_left hother
  · rw [hparked, hrefreshing]
    exact h.underWay
  · rw [hstarted, hrefreshing]
    exact h.started

theorem weaken (h : Awaited before called d) (id : Nat) : Awaited before (id :: called) d :=
  ⟨fun other entry hentry hawaits =>
    (h.awaiting other entry hentry hawaits).imp_right (List.mem_cons_of_mem _), h.underWay,
    h.started⟩

/-- Whoever is parked starts a refresh unless one is under way. -/
theorem park (h : Awaited before called d) (id : Nat) (entry : Entry) :
    Awaited before called
      ({ d with parked := d.parked ++ [id] }.insert id entry).requestRefresh := by
  obtain ⟨hrefreshing, hstarted⟩ :=
    requestRefresh_started ({ d with parked := d.parked ++ [id] }.insert id entry)
  simp only [insert_outbox, insert_refreshing] at hstarted
  refine ⟨?_, fun _ => hrefreshing, ?_⟩
  · intro other found hfound hawaits
    simp only [requestRefresh_inFlight, requestRefresh_parked, insert_inFlight,
      insert_parked] at hfound ⊢
    by_cases hother : other = id
    · exact .inl (by simp [hother])
    · rw [Assoc.get?_put_of_ne _ _ hother] at hfound
      exact (h.awaiting other found hfound hawaits).imp_left (List.mem_append_left _)
  · have hbefore := h.started
    rw [hrefreshing, Bool.toNat_true]
    omega

end Awaited

/-! ## Moves keep this -/

section

variable {before : Nat} {called : List Nat} {s t : Dispatcher × Hand}

theorem Handling.awaited (h : Handling m cause s t) (hs : Awaited before called s.1) :
    Awaited before called t.1 := by
  cases h with
  | locate | miss | charge | advance | renumber | renumberUnused => exact hs.congr rfl rfl rfl rfl
  | disconnect | settle => exact hs.congr rfl rfl rfl (refreshes_cons _ _)
  | @start _ d command node partition =>
      exact hs.put command.id ⟨command, .sent node partition none []⟩ (by simp) (by simp) (by simp)
        (by simp) (by simp [Effect.isRefresh])
  | @wait _ d command node partition =>
      exact hs.put command.id ⟨command, .waiting node partition⟩ (by simp) (by simp) (by simp)
        (by simp) (by simp)
  | @pause _ d command resume =>
      exact hs.put command.id ⟨command, .backoff resume⟩ (by simp) (by simp) (by simp)
        (by simp; rfl) (by simp)
  | park => exact hs.park _ _

theorem Handlings.awaited (h : Handlings m cause s t) (hs : Awaited before called s.1) :
    Awaited before called t.1 := by
  induction h with
  | refl => exact hs
  | tail _ last ih => exact last.awaited ih

/-- Only a refresh that is over changes what is awaited at one go. -/
theorem Move.awaited (h : Move m cause s t)
    (hcause : ∀ result, cause ≠ some (.task (.refreshed result)))
    (hs : Awaited before called s.1) : Awaited before called t.1 := by
  cases h with
  | handle handling => exact handling.awaited hs
  | draw | skip | tidy | tick => exact hs.congr rfl rfl rfl rfl
  | @retire _ _ id | @resume _ id | @promote _ _ id =>
      exact (hs.weaken id).erase (remove_inFlight _ _) (remove_parked _ _) (remove_refreshing _ _)
        (by simp)
  | @expire _ id =>
      refine (hs.weaken id).erase (remove_inFlight _ _) (remove_parked _ _)
        (remove_refreshing _ _) ?_
      simp [Effect.isRefresh]
  | unpark | collect => exact absurd rfl (hcause _)

theorem Moves.awaited (h : Moves m cause s t)
    (hcause : ∀ result, cause ≠ some (.task (.refreshed result)))
    (hs : Awaited before called s.1) : Awaited before called t.1 :=
  h.induct (P := fun s => Awaited before called s.1) (fun _ _ hmove => hmove.awaited hcause) hs

end

/-! ## Whole turns -/

/-- Does an input report a refresh over? -/
def Input.isReport : Input → Bool
  | .task (.refreshed _) => true
  | .task (.sent ..) | .task (.sendFailed ..) | .task (.abandoned _) => false
  | .accept | .node _ | .timers | .shutdown => false

theorem Input.isReport_iff :
    input.isReport = true ↔ ∃ result, input = .task (.refreshed result) := by
  cases input with
  | task event => cases event <;> simp [isReport]
  | accept | node | timers | shutdown => simp [isReport]

theorem Awaited.mark {before : Nat} (h : Awaited before [] d) (input : Input) :
    Awaited before [] (d.mark input) := by
  refine ⟨?_, h.underWay, h.started⟩
  intro id entry hentry hawaits
  rw [mark_get?] at hentry
  obtain ⟨⟨command, stage⟩, hold, rfl⟩ := Option.map_eq_some_iff.mp hentry
  cases stage with
  | awaitingTopology => exact h.awaiting id _ hold rfl
  | sent | waiting | backoff => cases hawaits

/-- Whoever is called up does not go on waiting for the refresh that is over. -/
theorem callUp_awaited {before id : Nat} {called : List Nat} (h : Awaited before (id :: called) d)
    (result : Except TopologyError Unit) : Awaited before called (callUp m result d id) := by
  cases hentry : d.inFlight.get? id with
  | none =>
      rw [callUp_of_none hentry]
      exact h.erase (Assoc.erase_of_get?_eq_none hentry).symm rfl rfl rfl
  | some entry =>
      have hremoved : Awaited before called (d.remove id).1 :=
        h.erase (remove_inFlight _ _) (remove_parked _ _) (remove_refreshing _ _) (by simp)
      exact (callUp_handlings hentry result).awaited hremoved

theorem callUps_awaited {before : Nat} (result : Except TopologyError Unit) (ids : List Nat)
    (d : Dispatcher) (h : Awaited before ids d) :
    Awaited before [] (ids.foldl (callUp m result) d) := by
  induction ids generalizing d with
  | nil => exact h
  | cons id rest ih => exact ih _ (callUp_awaited h result)

theorem onRefreshed_awaited (hdone : d.outbox = []) (h : Awaited d.refreshing.toNat [] d)
    (result : Except TopologyError Unit) : Awaited 0 [] (d.onRefreshed m result) := by
  rw [onRefreshed_eq]
  refine callUps_awaited result d.parked _ ⟨?_, by simp, by simp [hdone]⟩
  intro id entry hentry hawaits
  have hparked := (h.awaiting id entry hentry hawaits).resolve_right List.not_mem_nil
  exact .inr hparked

theorem shutDown_awaited (hdone : d.outbox = []) : Awaited d.refreshing.toNat [] d.shutDown := by
  rw [shutDown_eq]
  have hnone : ∀ (tickets : List Nat),
      refreshes (tickets.map fun ticket => .resolve ticket (.error .shutdown)) = 0 := by
    intro tickets
    simp [refreshes, List.countP_map, Effect.isRefresh]
  have hentries := hnone (d.inFlight.map (·.2.command.ticket))
  have hqueue := hnone (d.inbound.map (·.ticket))
  rw [List.map_map] at hentries hqueue
  refine ⟨by simp, by simp, ?_⟩
  simp only [hdone, List.cons_append, List.append_nil, refreshes_cons, refreshes_append,
    refreshes_reverse, Effect.isRefresh, Bool.toNat_false]
  simp only [Function.comp_def] at hentries hqueue
  omega

/-- A turn that reports a refresh over begins with none under way. Any other turn begins with what
there was. -/
theorem turn_awaited (hd : Numbered d .empty) (hdone : d.outbox = [])
    (h : Awaited d.refreshing.toNat [] d) (input : Input) :
    Awaited (if input.isReport then 0 else d.refreshing.toNat) [] (d.turn m input) := by
  by_cases hshutdown : input = .shutdown
  · rw [hshutdown]
    exact shutDown_awaited hdone
  cases hreport : input.isReport with
  | true =>
      obtain ⟨result, rfl⟩ := Input.isReport_iff.mp hreport
      have hpromoted := promoteWaiting_moves (m := m) (d.onRefreshed m result)
      exact hpromoted.awaited (by simp) (onRefreshed_awaited hdone h result)
  | false =>
      have hother : ∀ result, input ≠ .task (.refreshed result) := by
        intro result hinput
        rw [hinput] at hreport
        cases hreport
      refine turn_induct (P := fun s => Awaited d.refreshing.toNat [] s.1) hd hshutdown ?_
        (h.mark input)
      intro cause s t hcause hmove hs
      refine hmove.awaited ?_ hs
      rintro result rfl
      rcases hcause with hcause | hcause
      · exact hother result (Option.some.inj hcause).symm
      · cases hcause

/-! ## Who waits after a refresh -/

/-- Whatever is parked, or is about to be, has been given its number since. -/
structure Since (first : Nat) (s : Dispatcher × Hand) : Prop where
  issued : first ≤ s.1.nextId
  parked : ∀ id ∈ s.1.parked, first ≤ id
  shelved : ∀ command, s.2 = .shelved command → first ≤ command.id

theorem Handling.since {first : Nat} {s t : Dispatcher × Hand} (h : Handling m cause s t)
    (hs : Since first s) : Since first t := by
  obtain ⟨hissued, hparked, hshelved⟩ := hs
  cases h with
  | locate | miss | charge | advance | disconnect =>
      exact ⟨hissued, hparked, by simp⟩
  | settle => exact ⟨hissued, hparked, by simp⟩
  | renumber | renumberUnused =>
      refine ⟨Nat.le_succ_of_le hissued, hparked, ?_⟩
      rintro command hcommand
      cases hcommand
      exact hissued
  | start | wait | pause =>
      exact ⟨by simpa using hissued, by simpa using hparked, by simp⟩
  | park =>
      refine ⟨by simpa using hissued, ?_, by simp⟩
      simp only [requestRefresh_parked, insert_parked, List.mem_append, List.mem_singleton]
      rintro id (hold | rfl)
      · exact hparked id hold
      · exact hshelved _ rfl

theorem Move.since {first : Nat} {s t : Dispatcher × Hand} (h : Move m cause s t)
    (hs : Since first s) : Since first t := by
  cases h with
  | handle handling => exact handling.since hs
  | draw => exact ⟨Nat.le_succ_of_le hs.issued, hs.parked, by simp⟩
  | skip | tidy | tick => exact ⟨hs.issued, hs.parked, by simp⟩
  | collect => exact ⟨hs.issued, by simp, by simp⟩
  | retire | expire | resume | unpark | promote =>
      exact ⟨by simpa using hs.issued, by simpa using hs.parked, by simp⟩

theorem Moves.since {first : Nat} {s t : Dispatcher × Hand} (h : Moves m cause s t)
    (hs : Since first s) : Since first t :=
  h.induct (P := Since first) (fun _ _ hmove => hmove.since) hs

/-- After a refresh is over whoever waits for the next one has got a new number in that turn. -/
theorem refreshed_since (hd : Numbered d .empty) (result : Except TopologyError Unit) :
    ∀ id ∈ (d.turn m (.task (.refreshed result))).parked, d.nextId ≤ id := by
  have hstart : Since d.nextId ({ d with refreshing := false, parked := [] }, .empty) :=
    ⟨Nat.le_refl _, by simp, by simp⟩
  have hcalled := callUp_moves (m := m) result d.parked _ hd.parked_once hd.awaiting
  have hpromoted := promoteWaiting_moves (m := m) (d.onRefreshed m result)
  exact (hpromoted.since (hcalled.since hstart)).parked

/-! ## Refreshes that fail -/

/-- The answer to a parked command, if it is still in flight. -/
def refusal (d : Dispatcher) (error : TopologyError) (id : Nat) : Option Effect :=
  (d.inFlight.get? id).map fun entry =>
    .resolve entry.command.ticket (.error error.toError)

theorem callUp_error {id : Nat} {entry : Entry} (h : d.inFlight.get? id = some entry)
    (hstage : entry.stage = .awaitingTopology) (error : TopologyError) :
    callUp m (.error error) d id =
      { d with
        inFlight := d.inFlight.erase id
        outbox := .resolve entry.command.ticket (.error error.toError) :: d.outbox } := by
  obtain ⟨command, stage⟩ := entry
  obtain rfl : stage = .awaitingTopology := hstage
  simp only [callUp, remove, h, finish_eq, emit]

/-- All that are called up after a failure are answered, and nothing else is done. -/
theorem callUps_error (error : TopologyError) (ids : List Nat) (d : Dispatcher)
    (honce : ids.Nodup) (hparked : Awaiting d ids) :
    ids.foldl (callUp m (.error error)) d =
      { d with
        inFlight := d.inFlight.filter fun e => e.1 ∉ ids
        outbox := (ids.filterMap (d.refusal error)).reverse ++ d.outbox } := by
  induction ids generalizing d with
  | nil => simp
  | cons id rest ih =>
      obtain ⟨hid, honce⟩ := List.nodup_cons.mp honce
      have hrest := ih _ honce (hparked.callUp (m := m) hid (.error error))
      rw [List.foldl_cons, hrest]
      cases hentry : d.inFlight.get? id with
      | none =>
          have habsent : ∀ e ∈ d.inFlight, e.1 ≠ id := by
            intro e he hsame
            exact Assoc.get?_eq_none_iff.mp hentry (hsame ▸ List.mem_map_of_mem he)
          have hfilter : (d.inFlight.filter fun e => e.1 ∉ id :: rest) =
              d.inFlight.filter fun e => e.1 ∉ rest := by
            apply List.filter_congr
            intro e he
            simp [habsent e he]
          rw [callUp_of_none hentry, hfilter]
          simp [refusal, hentry]
      | some entry =>
          have hstage := ((hparked id (List.mem_cons_self ..)).2.2 _ hentry).1
          have hothers : ∀ other ∈ rest, ({ d with
              inFlight := d.inFlight.erase id
              outbox := .resolve entry.command.ticket (.error error.toError) :: d.outbox } :
                Dispatcher).refusal error other = d.refusal error other := by
            intro other hother
            have hne : other ≠ id := by
              rintro rfl
              exact hid hother
            simp only [refusal, Assoc.get?_erase_of_ne _ hne]
          rw [callUp_error hentry hstage, List.filterMap_congr hothers]
          simp [refusal, hentry, Assoc.erase, List.filter_filter, Bool.and_comm]

/-- After a refresh that failed all parked commands get its error, and nothing happens to any
other. -/
theorem turn_failed (hd : Numbered d .empty) (hsettled : Settled m.config d)
    (error : TopologyError) :
    d.turn m (.task (.refreshed (.error error))) =
      { d with
        inFlight := d.inFlight.filter fun e => e.1 ∉ d.parked
        refreshing := false
        parked := []
        outbox := (d.parked.filterMap (d.refusal error)).reverse ++ d.outbox } := by
  have hcalled := callUps_error (m := m) error d.parked _ hd.parked_once hd.awaiting
  have hturn : d.turn m (.task (.refreshed (.error error))) =
      (d.parked.foldl (callUp m (.error error))
        { d with refreshing := false, parked := [] }).promoteWaiting m := rfl
  rw [hturn, hcalled]
  exact promoteWaiting_of_settled hsettled

/-! ## What refreshes are for -/

/-- A command that is sent on its way now is parked: nobody owns its partition, and that has not
been so too often before. -/
def parks (m : Moment) (command : Command) : Bool :=
  missing m command && command.routeRefreshes < m.config.maxRouteRefreshes

/-- An input parks a command: its node turns it away because the table is out of date, and it may be
tried again. -/
def turnsAway (m : Moment) (d : Dispatcher) : Input → Bool
  | .node (.response _ response) =>
    match d.inFlight.get? response.opaqueId.toNat with
    | some ⟨command, .sent ..⟩ =>
      response.status = .notMyPartition && m.now < command.deadline && command.target = .key &&
        command.retries + 1 ≤ m.config.maxRetries
    | _ => false
  | .node (.closed ..) | .accept | .task _ | .timers | .shutdown => false

theorem refreshes_of_outbox {d d' : Dispatcher} (h : d'.outbox = d.outbox) :
    refreshes d'.outbox = refreshes d.outbox := by rw [h]

theorem backOff_refreshes (d : Dispatcher) (command : Command) :
    refreshes (d.backOff m command).outbox = refreshes d.outbox :=
  refreshes_of_outbox (backOff_outbox d command)

theorem dropped_refreshes (d : Dispatcher) (input : Input) :
    refreshes (d.dropped input).outbox = refreshes d.outbox := by
  rcases dropped_eq d input with h | ⟨node, generation, h⟩
  · rw [h]
  · simp [h, Effect.isRefresh]

theorem Routed.refreshes_cases {command : Command} {starts : List (Nat × Nat)}
    (h : Routed m d command starts d') :
    refreshes d'.outbox = refreshes d.outbox ∨ parks m command = true := by
  cases h with
  | late | unowned => exact .inl (by simp [Effect.isRefresh])
  | started => exact .inl (by simp [Effect.isRefresh])
  | waiting => exact .inl (by simp)
  | parked inTime missed left =>
      exact .inr (by simp [parks, missing, inTime, missed, left, Except.isOk, Except.toBool])

/-- Only an answer that turns a command away makes it wait for a refresh. -/
theorem Applied.refreshes_cases {command : Command} {outcome : Outcome}
    (h : Applied m d command outcome d') :
    refreshes d'.outbox = refreshes d.outbox ∨
      (∃ partition, outcome = .routingStale partition) ∧ m.now < command.deadline ∧
        command.target = .key ∧ command.retries + 1 ≤ m.config.maxRetries := by
  cases h with
  | late | success | definitive | misdirected | exhausted =>
      exact .inl (by simp [Effect.isRefresh])
  | paused => exact .inl (backOff_refreshes _ _)
  | parked inTime setback left =>
      refine .inr ⟨⟨_, rfl⟩, inTime, ?_, left⟩
      cases htarget : command.target with
      | key => rfl
      | node => simp [Command.setback?, htarget] at setback

theorem Brings.turnsAway {id : Nat} {entry : Entry} {partition : UInt16} {d₀ : Dispatcher}
    (h : Brings input id entry (.routingStale partition)) (since : d₀.inFlight.get? id = some entry)
    (inTime : m.now < entry.command.deadline) (target : entry.command.target = .key)
    (left : entry.command.retries + 1 ≤ m.config.maxRetries) :
    turnsAway m d₀ input = true := by
  generalize houtcome : Outcome.routingStale partition = outcome at h
  cases h with
  | @answered sender response command node partition' carrier closed =>
      simp only at inTime target left
      have hstatus : response.status = .notMyPartition := by
        cases hstatus : response.status <;> simp [Outcome.ofResponse, hstatus] at houtcome ⊢
      simp [Dispatcher.turnsAway, since, hstatus, inTime, target, left]
  | lost | unsent | closed => cases houtcome

theorem Deal.refreshes_cases {d₀ : Dispatcher} {routes : List Command} {starts : List (Nat × Nat)}
    (h : Deal m input d₀ d routes starts d') :
    refreshes d'.outbox = refreshes d.outbox ∨ turnsAway m d₀ input = true ∨
      ∃ command ∈ routes, parks m command = true := by
  have hroute : ∀ (d₁ : Dispatcher) (command : Command), d₁.outbox = d.outbox →
      refreshes (d₁.route m command).outbox = refreshes d.outbox ∨ turnsAway m d₀ input = true ∨
        ∃ other ∈ [command], parks m other = true := by
    intro d₁ command houtbox
    rcases (route_routed m d₁ command).refreshes_cases with hsame | hparks
    · exact .inl (hsame.trans (refreshes_of_outbox houtbox))
    · exact .inr (.inr ⟨command, List.mem_singleton.mpr rfl, hparks⟩)
  cases h with
  | aside causes move entries queue outbox => exact .inl (refreshes_of_outbox outbox)
  | accepted => exact hroute _ _ rfl
  | resumed | unparked => exact hroute _ _ (remove_outbox _ _)
  | rested =>
      exact .inl ((backOff_refreshes _ _).trans (refreshes_of_outbox (remove_outbox _ _)))
  | refused | expired => exact .inl (by simp [Effect.isRefresh])
  | @promoted _ node id rest command other partition first room found =>
      left
      unfold dispatch
      split <;> simp [Effect.isRefresh]
  | @ended _ id entry outcome _ _ _ _ since brings =>
      have happlied := apply_applied m ((d.remove id).1.dropped input) entry.command outcome
      rcases happlied.refreshes_cases with
        hsame | ⟨⟨partition, rfl⟩, inTime, target, left⟩
      · left
        rw [hsame, dropped_refreshes, remove_outbox]
      · exact .inr (.inl (brings.turnsAway since inTime target left))
  | dismissed => exact .inl (by simp [dropped_refreshes, Effect.isRefresh])

/-- A turn starts no refresh unless it parks a command. -/
theorem turn_parks (hd : Numbered d .empty) (hdone : d.outbox = []) (hinput : input ≠ .shutdown) :
    refreshes (d.turn m input).outbox = 0 ∨ turnsAway m d input = true ∨
      ∃ command ∈ d.routed m input, parks m command = true := by
  obtain ⟨starts, hdeals⟩ := turn_deals (m := m) hd hinput
  refine hdeals.induct (P := fun d' routes _ => refreshes d'.outbox = 0 ∨
    turnsAway m d input = true ∨ ∃ command ∈ routes, parks m command = true) ?_ ?_
  · exact .inl (by simp [mark, hdone])
  · rintro d₁ d₂ routes starts routes' starts' hdeal (hnone | haway | ⟨command, hcommand, hparks⟩)
    · rcases hdeal.refreshes_cases with hsame | haway | ⟨command, hcommand, hparks⟩
      · exact .inl (hsame.trans hnone)
      · exact .inr (.inl haway)
      · exact .inr (.inr ⟨command, List.mem_append_right _ hcommand, hparks⟩)
    · exact .inr (.inl haway)
    · exact .inr (.inr ⟨command, List.mem_append_left _ hcommand, hparks⟩)

/-- A turn starts one refresh at most, and none but for a command that it parks. -/
theorem turn_refreshes_le (hd : Numbered d .empty) (hdone : d.outbox = [])
    (h : Awaited d.refreshing.toNat [] d) (input : Input) :
    refreshes (d.turn m input).outbox ≤
      (turnsAway m d input).toNat + (d.routed m input).countP (parks m) := by
  have hstarted := (turn_awaited (m := m) hd hdone h input).started
  have hone : refreshes (d.turn m input).outbox ≤ 1 := by
    have hbit := Bool.toNat_le (d.turn m input).refreshing
    omega
  by_cases hinput : input = .shutdown
  · have hsame : (d.turn m .shutdown).refreshing = d.refreshing := by rw [turn, shutDown_eq]
    simp only [hinput, Input.isReport, hsame, Bool.false_eq_true, ite_false] at hstarted ⊢
    omega
  rcases turn_parks (m := m) hd hdone hinput with hnone | haway | ⟨command, hcommand, hparks⟩
  · omega
  · rw [haway, Bool.toNat_true]
    omega
  · have hpos := List.countP_pos_iff.mpr ⟨command, hcommand, hparks⟩
    omega

/-- Only new submissions, and pauses and refreshes that are over send commands on their way. -/
theorem routed_of_quiet (haccept : input ≠ .accept) (htimers : input ≠ .timers)
    (hrefreshed : input ≠ .task (.refreshed (.ok ()))) : d.routed m input = [] := by
  unfold routed
  split
  · exact absurd rfl haccept
  · exact absurd rfl htimers
  · exact absurd rfl hrefreshed
  · rfl

theorem turnsAway_of_quiet (hanswer : ∀ sender response,
    input = .node (.response sender response) → response.status ≠ .notMyPartition) :
    turnsAway m d input = false := by
  unfold turnsAway
  split
  · next sender response =>
      have hstatus := hanswer sender response rfl
      split <;> simp [hstatus]
  all_goals rfl

end Dispatcher

end ClusterKv

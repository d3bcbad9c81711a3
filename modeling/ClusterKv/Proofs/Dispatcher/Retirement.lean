import ClusterKv.Proofs.Dispatcher.Tracking

/-! # One attempt at a time

A command has one number, and no number is sent twice. A further attempt for a command is started
only after the one before has been retired: it was turned away, or it could not be sent, or the
very connection that carried it has died. -/

namespace ClusterKv.Run

open Dispatcher

variable {config : Config}

/-! ## What retires an attempt -/

/-- It has been said that a connection of this generation carries the request of an attempt. -/
def Acked (id generation : Nat) (events : List Event) : Prop :=
  ∃ now table, .turn now table (.task (.sent id generation)) ∈ events

/-- It has been said that a connection to a node has died. -/
def Died (node : NodeId) (generation : Nat) (events : List Event) : Prop :=
  ∃ now table reason, .turn now table (.node (.closed node generation reason)) ∈ events

/-- An event retires an attempt, given what has happened since it was started. -/
inductive Retires (id : Nat) (node : NodeId) (since : List Event) : Event → Prop where
  | turnedAway {now table sender response} (answers : response.opaqueId.toNat = id)
      (status : response.status = .notMyPartition) :
      Retires id node since (.turn now table (.node (.response sender response)))
  | refused {now table sender response} (answers : response.opaqueId.toNat = id)
      (status : response.status = .temporaryFailure) :
      Retires id node since (.turn now table (.node (.response sender response)))
  | unsent {now table other generation error} :
      Retires id node since (.turn now table (.task (.sendFailed id other generation error)))
  | closed {now table generation reason} (carried : Acked id generation since) :
      Retires id node since (.turn now table (.node (.closed node generation reason)))
  | lost {now table generation} (dead : Died node generation since) :
      Retires id node since (.turn now table (.task (.sent id generation)))

theorem acked_concat {id generation : Nat} {events : List Event} {event : Event} :
    Acked id generation (events ++ [event]) ↔
      Acked id generation events ∨
        ∃ now table, event = .turn now table (.task (.sent id generation)) := by
  simp only [Acked, List.mem_append, List.mem_singleton, exists_or, eq_comm]

theorem died_concat {node : NodeId} {generation : Nat} {events : List Event} {event : Event} :
    Died node generation (events ++ [event]) ↔
      Died node generation events ∨
        ∃ now table reason, event = .turn now table (.node (.closed node generation reason)) := by
  simp only [Died, List.mem_append, List.mem_singleton, exists_or, eq_comm]

theorem acked_concat_of_ne {id generation : Nat} {events : List Event} {event : Event}
    (h : ∀ now table, event ≠ .turn now table (.task (.sent id generation))) :
    Acked id generation (events ++ [event]) ↔ Acked id generation events := by
  rw [acked_concat]
  refine ⟨?_, .inl⟩
  rintro (hold | ⟨now, table, hnew⟩)
  · exact hold
  · exact absurd hnew (h now table)

theorem died_concat_of_ne {node : NodeId} {generation : Nat} {events : List Event} {event : Event}
    (h : ∀ now table reason, event ≠ .turn now table (.node (.closed node generation reason))) :
    Died node generation (events ++ [event]) ↔ Died node generation events := by
  rw [died_concat]
  refine ⟨?_, .inl⟩
  rintro (hold | ⟨now, table, reason, hnew⟩)
  · exact hold
  · exact absurd hnew (h now table reason)

theorem Acked.append {id generation : Nat} {events : List Event} (h : Acked id generation events)
    (more : List Event) : Acked id generation (events ++ more) := by
  obtain ⟨now, table, hmem⟩ := h
  exact ⟨now, table, List.mem_append_left _ hmem⟩

theorem Died.append {node : NodeId} {generation : Nat} {events : List Event}
    (h : Died node generation events) (more : List Event) :
    Died node generation (events ++ more) := by
  obtain ⟨now, table, reason, hmem⟩ := h
  exact ⟨now, table, reason, List.mem_append_left _ hmem⟩

/-! ## The story of an attempt -/

/-- An attempt is under way, and its notes are what has been said since it was started. -/
def Pending (r : Run) (since : List Event) (id : Nat) (command : Command) (node : NodeId)
    (partition : UInt16) : Prop :=
  ∃ carrier closed,
    r.dispatcher.inFlight.get? id = some ⟨command, .sent node partition carrier closed⟩ ∧
    (∀ generation, carrier = some generation → Acked id generation since) ∧
    ∀ generation ∈ closed, Died node generation since

/-- An attempt that was under way after `before` was retired by one of the events `since`. -/
def Retired (config : Config) (before since : List Event) (id : Nat) (node : NodeId) : Prop :=
  ∃ first event rest, since = first ++ event :: rest ∧ Retires id node first event ∧
    (∃ entry, (of config (before ++ first)).dispatcher.inFlight.get? id = some entry ∧
      entry.isSent = true) ∧
    (of config (before ++ first ++ [event])).dispatcher.inFlight.get? id = none

theorem Retired.append {before since : List Event} {id : Nat} {node : NodeId}
    (h : Retired config before since id node) (more : List Event) :
    Retired config before (since ++ more) id node := by
  obtain ⟨first, event, rest, rfl, hrest⟩ := h
  exact ⟨first, event, rest ++ more, by simp, hrest⟩

theorem issued_append {events : List Event} {id : Nat} {entry : Entry}
    (hentry : (of config events).dispatcher.inFlight.get? id = some entry) (more : List Event) :
    id < (of config (events ++ more)).dispatcher.nextId :=
  Nat.lt_of_lt_of_le ((sound config events).numbered.issued id entry hentry)
    (nextId_append config events more)

theorem gone_step {events : List Event} {id : Nat}
    (hissued : id < (of config events).dispatcher.nextId)
    (hgone : (of config events).dispatcher.inFlight.get? id = none) (event : Event) :
    (of config (events ++ [event])).dispatcher.inFlight.get? id = none := by
  rw [of_concat]
  rcases step_cases config (of config events) event with
    ⟨_, h⟩ | ⟨_, h⟩ | ⟨_, _, input, -, -, h⟩
  · rw [h]
    exact hgone
  · rw [h]
    exact hgone
  · rw [h]
    exact turn_gone (sound config events).numbered input hissued hgone

/-- Whatever ends an attempt and leaves its command to be tried again retires it. -/
theorem retires_of_setback {since : List Event} {id : Nat} {command : Command} {node : NodeId}
    {partition : UInt16} {carrier : Option Nat} {closed : List Nat} {now : Instant}
    {table : Topology} {input : Dispatcher.Input}
    (hcarrier : ∀ generation, carrier = some generation → Acked id generation since)
    (hclosed : ∀ generation ∈ closed, Died node generation since)
    (hends : Ends (some input) id
      (markEntry input id ⟨command, .sent node partition carrier closed⟩))
    (hsetback : Setback (some input) id) : Retires id node since (.turn now table input) := by
  cases hsetback with
  | unsent => exact .unsent
  | turnedAway status => exact .turnedAway rfl status
  | refused status => exact .refused rfl status
  | lost =>
      simp only [markEntry, heard, ite_true] at hends
      cases hends with
      | lost dead => exact .lost (hclosed _ dead)
  | closed =>
      simp only [markEntry, heard] at hends
      cases hends with
      | closed carried =>
          cases carrier with
          | none => simp [carriedBy] at carried
          | some carrier =>
              simp only [carriedBy, Bool.and_eq_true, decide_eq_true_eq] at carried
              obtain ⟨rfl, rfl⟩ := carried
              exact .closed (hcarrier _ rfl)

/-- A turn leaves an attempt under way, or it retires it and lets its command rest, or it resolves
its command. -/
theorem story_turn {events : List Event} {since : List Event} {id : Nat} {command : Command}
    {node : NodeId} {partition : UInt16} {now : Instant} {table : Topology}
    {input : Dispatcher.Input}
    (hstopped : (of config events).dispatcher.stopped = false)
    (hpending : Pending (of config events) since id command node partition) :
    Pending (of config (events ++ [.turn now table input]))
        (since ++ [.turn now table input]) id command node partition ∨
      (of config (events ++ [.turn now table input])).dispatcher.inFlight.get? id = none ∧
        (Retires id node since (.turn now table input) ∧
            (∃ other entry,
              (of config (events ++ [.turn now table input])).dispatcher.inFlight.get? other =
                some entry ∧ entry.stage.isRest = true ∧ command.Continues entry.command) ∨
          (of config (events ++ [.turn now table input])).resolved command.ticket ≠ []) := by
  have h := sound config events
  obtain ⟨carrier, closed, hentry, hcarrier, hclosed⟩ := hpending
  by_cases hinput : input = .shutdown
  · subst hinput
    obtain ⟨origin, horigin, hsame⟩ := h.origins.underWay id _ hentry
    have hticket : command.ticket = origin.ticket := hsame.ticket
    have hunresolved : (of config events).resolved origin.ticket = [] := by
      rw [← hticket]
      exact (h.of_entry hentry).2
    have hresult : ((of config events).step config (.turn now table .shutdown)).resolved
        origin.ticket = [.error .shutdown] :=
      (h.resolved_shutdown hstopped now table horigin).1 hunresolved
    refine .inr ⟨?_, .inr ?_⟩
    · simp [step_turn hstopped, Dispatcher.turn, shutDown_eq]
    · rw [of_concat, hticket, hresult]
      simp
  · have hfate := turn_fate (m := ⟨config, now, table⟩) h.numbered hinput hentry rfl
    have hdispatcher : (of config (events ++ [.turn now table input])).dispatcher =
        { (of config events).dispatcher.turn ⟨config, now, table⟩ input with outbox := [] } := by
      rw [of_concat, step_turn hstopped]
    cases hfate with
    | stays noted =>
        left
        refine ⟨_, _, by rw [hdispatcher]; exact noted, ?_, ?_⟩
        · intro generation hnew
          rcases heard_carrier hnew with hold | rfl
          · exact (hcarrier generation hold).append _
          · exact ⟨now, table, List.mem_append_right _ (List.mem_singleton.mpr rfl)⟩
        · intro generation hnew
          rcases heard_closed hnew with hold | ⟨reason, rfl⟩
          · exact (hclosed generation hold).append _
          · exact ⟨now, table, reason, List.mem_append_right _ (List.mem_singleton.mpr rfl)⟩
    | spent gone ends hand => cases hand
    | charged gone ends setback other hand same => rcases hand with hand | hand <;> cases hand
    | rests gone ends setback other entry found rest same =>
        right
        refine ⟨by rw [hdispatcher]; exact gone,
          .inl ⟨retires_of_setback hcarrier hclosed ends setback, other, entry, ?_, rest, same⟩⟩
        rw [hdispatcher]
        exact found
    | resolved gone why result told =>
        right
        refine ⟨by rw [hdispatcher]; exact gone, .inr (List.ne_nil_of_mem (a := result) ?_)⟩
        rw [mem_resolved, of_concat, step_turn hstopped]
        exact List.mem_append_right _ (List.mem_reverse.mpr told)

/-- After any events an attempt is still under way, or it has been retired, or its command is
resolved. -/
theorem story (config : Config) (before since : List Event) {id : Nat} {command : Command}
    {node : NodeId} {partition : UInt16}
    (hstart : (of config before).dispatcher.inFlight.get? id =
      some ⟨command, .sent node partition none []⟩) :
    Pending (of config (before ++ since)) since id command node partition ∨
      (of config (before ++ since)).dispatcher.inFlight.get? id = none ∧
        (Retired config before since id node ∨
          (of config (before ++ since)).resolved command.ticket ≠ []) := by
  induction since using List.reverseRecOn with
  | nil => exact .inl ⟨none, [], by simpa using hstart, by simp, by simp⟩
  | append_singleton since event ih =>
      rw [← List.append_assoc]
      have hissued := issued_append hstart since
      rcases ih with hpending | ⟨hgone, hretired | hresolved⟩
      · have hkept : (of config (before ++ since ++ [event])).dispatcher.inFlight =
              (of config (before ++ since)).dispatcher.inFlight →
            Pending (of config (before ++ since ++ [event])) (since ++ [event]) id command node
              partition := by
          intro hsame
          obtain ⟨carrier, closed, hentry, hcarrier, hclosed⟩ := hpending
          exact ⟨carrier, closed, by rw [hsame]; exact hentry,
            fun generation h => (hcarrier generation h).append _,
            fun generation h => (hclosed generation h).append _⟩
        rcases step_cases config (of config (before ++ since)) event with
          ⟨_, hstep⟩ | ⟨_, hstep⟩ | ⟨now, table, input, rfl, hstopped, -⟩
        · exact .inl (hkept (by rw [of_concat, hstep]))
        · exact .inl (hkept (by rw [of_concat, hstep]))
        · rcases story_turn hstopped hpending with hstill | ⟨hgone, ⟨hretires, -⟩ | hresolved⟩
          · exact .inl hstill
          · obtain ⟨carrier, closed, hentry, -⟩ := hpending
            exact .inr ⟨hgone, .inl ⟨since, _, [], rfl, hretires, ⟨_, hentry, rfl⟩, hgone⟩⟩
          · exact .inr ⟨hgone, .inr hresolved⟩
      · exact .inr ⟨gone_step hissued hgone event, .inl (hretired.append _)⟩
      · refine .inr ⟨gone_step hissued hgone event, .inr ?_⟩
        intro hnone
        apply hresolved
        rw [of_concat] at hnone
        have hprefix := (journal_step config (of config (before ++ since)) event).filterMap
          (Effect.result? command.ticket)
        exact List.prefix_nil.mp (hnone ▸ hprefix)

/-! ## Who an attempt is for -/

/-- An event starts an attempt for a caller. -/
def Starts (config : Config) (before : List Event) (event : Event) (id : Nat) (node : NodeId)
    (ticket : Nat) : Prop :=
  ∃ request deadline command partition,
    .attempt id node request deadline ∈ (of config (before ++ [event])).journal ∧
    .attempt id node request deadline ∉ (of config before).journal ∧
    (of config (before ++ [event])).dispatcher.inFlight.get? id =
      some ⟨command, .sent node partition none []⟩ ∧
    request = ⟨id.toUInt64, partition, command.operation⟩ ∧ command.ticket = ticket

/-- The number of an attempt is in no earlier journal. -/
theorem Starts.fresh {before : List Event} {event : Event} {id : Nat} {node : NodeId} {ticket : Nat}
    (h : Starts config before event id node ticket) :
    ∀ a ∈ attempts (of config before).journal, a.1 ≠ id := by
  obtain ⟨request, deadline, command, partition, hnew, hold, -⟩ := h
  rintro ⟨other, otherRequest⟩ hother rfl
  have htried := (tried config (before ++ [event])).once
  rw [tried_of_done (sound config _).done] at htried
  rw [of_concat] at htried hnew
  obtain ⟨more, hmore⟩ := journal_step config (of config before) event
  rw [← hmore] at htried hnew
  rw [attempts_append, List.map_append] at htried
  have hlater : .attempt other node request deadline ∈ more :=
    (List.mem_append.mp hnew).resolve_left hold
  have hmap : other ∈ (attempts more).map (·.1) :=
    List.mem_map.mpr ⟨(other, request), List.mem_filterMap.mpr ⟨_, hlater, rfl⟩, rfl⟩
  exact (List.disjoint_of_nodup_append htried) (List.mem_map_of_mem hother) hmap

/-- Every attempt was started by some event, for a command that had been submitted. -/
theorem started (config : Config) (events : List Event) {id : Nat} {node : NodeId}
    {request : Request} {deadline : Instant}
    (hattempt : .attempt id node request deadline ∈ (of config events).journal) :
    ∃ before event after, events = before ++ event :: after ∧
      ∃ origin ∈ (of config events).submitted, Starts config before event id node origin.ticket ∧
        request.operation = origin.operation := by
  induction events using List.reverseRecOn with
  | nil => simp at hattempt
  | append_singleton events event ih =>
      have h := sound config events
      by_cases hold : .attempt id node request deadline ∈ (of config events).journal
      · obtain ⟨before, first, after, rfl, origin, horigin, hrest⟩ := ih hold
        refine ⟨before, first, after ++ [event], by simp, origin, ?_, hrest⟩
        rw [of_concat]
        exact (submitted_step config _ _).subset horigin
      · have hlater := hattempt
        rw [of_concat] at hlater
        rcases step_cases config (of config events) event with
          ⟨_, hstep⟩ | ⟨_, hstep⟩ | ⟨now, table, input, -, -, hstep⟩
        · rw [hstep] at hlater
          exact absurd hlater hold
        · rw [hstep] at hlater
          exact absurd hlater hold
        · rw [hstep] at hlater
          have hnew := List.mem_reverse.mp ((List.mem_append.mp hlater).resolve_left hold)
          obtain ⟨command, partition, hentry, hrequest, -⟩ :=
            turn_begun h.numbered h.done input hnew
          have hget : (of config (events ++ [event])).dispatcher.inFlight.get? id =
              some ⟨command, .sent node partition none []⟩ := by
            rw [of_concat, hstep]
            exact hentry
          obtain ⟨origin, horigin, hsame⟩ :=
            (sound config (events ++ [event])).origins.underWay id _ hget
          refine ⟨events, event, [], rfl, origin, horigin, ⟨request, deadline, command, partition,
            hattempt, hold, hget, hrequest, hsame.ticket⟩, ?_⟩
          rw [hrequest]
          exact hsame.operation

/-- An event starts at most one attempt for a command. -/
theorem Starts.single {before : List Event} {event : Event} {id other : Nat}
    {node otherNode : NodeId} {ticket : Nat} (h : Starts config before event id node ticket)
    (h' : Starts config before event other otherNode ticket) : id = other := by
  obtain ⟨_, _, command, _, -, -, hentry, -, hticket⟩ := h
  obtain ⟨_, _, command', _, -, -, hentry', -, hticket'⟩ := h'
  exact (sound config (before ++ [event])).single hentry hentry' (hticket.trans hticket'.symm)

/-- Between two attempts for a command the first one is retired. -/
theorem retired_between {before between : List Event} {event later : Event} {id other : Nat}
    {node otherNode : NodeId} {ticket : Nat} (h : Starts config before event id node ticket)
    (h' : Starts config (before ++ event :: between) later other otherNode ticket) :
    Retired config (before ++ [event]) between id node := by
  have hfresh := h'.fresh
  obtain ⟨request, deadline, command, _, hfirst, -, hentry, -, hticket⟩ := h
  obtain ⟨_, _, command', _, hnew, hold, hentry', -, hticket'⟩ := h'
  have hafter := sound config (before ++ event :: between ++ [later])
  have hevents : before ++ event :: between = before ++ [event] ++ between := by simp
  have hunresolved : (of config (before ++ event :: between ++ [later])).resolved command.ticket
      = [] := by
    rw [hticket, ← hticket']
    exact (hafter.of_entry hentry').2
  rw [hevents] at hfresh hnew hold hentry' hafter hunresolved
  rcases story config (before ++ [event]) between hentry with hpending | ⟨-, hretired | hresolved⟩
  · exfalso
    have hjournal : .attempt id node request deadline ∈
        (of config (before ++ [event] ++ between)).journal := by
      rw [of_append]
      exact (journal_foldl config _ _).subset hfirst
    have hne : id ≠ other := hfresh (id, request) (List.mem_filterMap.mpr ⟨_, hjournal, rfl⟩)
    rcases step_cases config (of config (before ++ [event] ++ between)) later with
      ⟨_, hstep⟩ | ⟨_, hstep⟩ | ⟨now, table, input, rfl, hstopped, -⟩
    · rw [of_concat, hstep] at hnew
      exact hold hnew
    · rw [of_concat, hstep] at hnew
      exact hold hnew
    · rcases story_turn hstopped hpending with ⟨_, _, hstill, -⟩ |
        ⟨-, ⟨-, third, entry, hthird, hrest, hsame⟩ | hresolved⟩
      · exact hne (hafter.single hstill hentry' (hticket.trans hticket'.symm))
      · obtain rfl := hafter.single hthird hentry'
          ((hsame.ticket.trans hticket).trans hticket'.symm)
        obtain rfl := Option.some.inj (hthird.symm.trans hentry')
        cases hrest
      · exact hresolved hunresolved
  · exact hretired
  · exfalso
    apply hresolved
    rw [of_concat] at hunresolved
    have hprefix := (journal_step config (of config (before ++ [event] ++ between))
      later).filterMap (Effect.result? command.ticket)
    exact List.prefix_nil.mp (hunresolved ▸ hprefix)

/-! ## The result -/

/-- Numbers that fit a request tell requests apart. -/
theorem requests_nodup (config : Config) (events : List Event)
    (lasting : (of config events).dispatcher.nextId ≤ UInt64.size) :
    ((attempts (of config events).journal).map (·.2.opaqueId)).Nodup := by
  have htried := tried config events
  have hdone := (sound config events).done
  have honce := htried.once
  have hissued := htried.issued
  have hlabelled := htried.labelled
  rw [tried_of_done hdone] at honce hissued hlabelled
  have hdistinct := List.Nodup.of_map _ honce
  refine hdistinct.map_on ?_
  intro a ha b hb hsame
  rw [hlabelled a ha, hlabelled b hb] at hsame
  have hnumber : ∀ c ∈ attempts (of config events).journal, c.1.toUInt64.toNat = c.1 :=
    fun c hc => UInt64.toNat_ofNat_of_lt' (Nat.lt_of_lt_of_le (hissued c hc) lasting)
  have hfirst : a.1 = b.1 := by
    rw [← hnumber a ha, ← hnumber b hb, hsame]
  exact List.inj_on_of_nodup_map honce ha hb hfirst

/-- Each command has one attempt at a time, and no number is sent twice. -/
structure OneAtATime (config : Config) (events : List Event) : Prop where
  /-- Attempts have different numbers. -/
  numbers : ((attempts (of config events).journal).map (·.1)).Nodup
  /-- A request carries the number of its attempt. -/
  labelled : ∀ a ∈ attempts (of config events).journal, a.2.opaqueId = a.1.toUInt64
  /-- As long as the numbers fit, requests differ in what they carry. -/
  requests : (of config events).dispatcher.nextId ≤ UInt64.size →
    ((attempts (of config events).journal).map (·.2.opaqueId)).Nodup
  /-- A command in flight has one number. -/
  single : ∀ id other entry otherEntry,
    (of config events).dispatcher.inFlight.get? id = some entry →
    (of config events).dispatcher.inFlight.get? other = some otherEntry →
    entry.command.ticket = otherEntry.command.ticket → id = other
  /-- Every attempt is started by some event, for a command that was submitted. -/
  started : ∀ id node request deadline,
    .attempt id node request deadline ∈ (of config events).journal →
      ∃ before event after, events = before ++ event :: after ∧
        ∃ origin ∈ (of config events).submitted,
          Starts config before event id node origin.ticket ∧
            request.operation = origin.operation
  /-- No event starts two attempts for one command. -/
  alone : ∀ before event after id other node otherNode ticket,
    events = before ++ event :: after → Starts config before event id node ticket →
      Starts config before event other otherNode ticket → id = other
  /-- Between two attempts for one command the first one is retired. -/
  between : ∀ before event between later after id other node otherNode ticket,
    events = before ++ event :: between ++ later :: after →
      Starts config before event id node ticket →
      Starts config (before ++ event :: between) later other otherNode ticket →
        Retired config (before ++ [event]) between id node

/-- In every run each command has one attempt at a time. -/
theorem attempts_one_at_a_time (config : Config) (events : List Event) :
    OneAtATime config events := by
  have h := sound config events
  have htried := tried config events
  refine ⟨?_, ?_, requests_nodup config events, ?_, ?_, ?_, ?_⟩
  · rw [← tried_of_done h.done]
    exact htried.once
  · rw [← tried_of_done h.done]
    exact htried.labelled
  · intro id other entry otherEntry hentry hother hticket
    exact h.single hentry hother hticket
  · intro id node request deadline hattempt
    exact started config events hattempt
  · intro before event after id other node otherNode ticket _ hfirst hsecond
    exact hfirst.single hsecond
  · intro before event between later after id other node otherNode ticket _ hfirst hlater
    exact retired_between hfirst hlater

end ClusterKv.Run

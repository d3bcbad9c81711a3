import ClusterKv.Proofs.Dispatcher.Endings
import ClusterKv.Proofs.Dispatcher.Timers
import ClusterKv.Proofs.Dispatcher.Tracking

/-! # Deadlines

A command times out at its deadline or after it, and not before, provided that whoever gives an
attempt up does so because its deadline has passed. The other way round a command that ends after
its deadline has timed out, but for three inputs that end commands without a look at the clock. -/

namespace ClusterKv

namespace Dispatcher

variable {m : Moment} {input : Input} {d : Dispatcher} {routes : List Command} {command : Command}

/-! ## Why commands end when they end -/

/-- An input ends commands with this error whether or not their deadlines have passed. -/
inductive Unchecked : Input → Error → Prop where
  | noTable {error : TopologyError} :
      Unchecked (.task (.refreshed (.error error))) error.toError
  | poolClosed {id node generation} :
      Unchecked (.task (.sendFailed id node generation .poolClosed)) .shutdown
  | rejected {id node generation other reason} :
      Unchecked (.task (.sendFailed id node generation (.auth other reason)))
        (.connection (ConnectionError.auth other reason).message)

theorem Concludes.not_timeout {outcome : Outcome} {timeout : Duration} :
    ¬Concludes m command outcome (.error (.timeout timeout)) := by
  intro h
  generalize hresult : (Except.error (Error.timeout timeout) : Except Error Reply) = result at h
  cases h with
  | success | definitive | misdirected => cases hresult
  | exhausted setback exceeded =>
      unfold Dispatcher.exhausted at hresult
      split at hresult <;> cases hresult

/-- A command times out because its deadline has passed, or because its attempt was given up. -/
theorem Reason.timeout {timeout : Duration}
    (h : Reason m input d routes command (.error (.timeout timeout))) :
    timeout = command.timeout ∧ (command.deadline ≤ m.now ∨
      ∃ id entry, input = .task (.abandoned id) ∧ d.inFlight.get? id = some entry ∧
        entry.command = command) := by
  generalize hresult : (Except.error (Error.timeout timeout) : Except Error Reply) = result at h
  cases h with
  | late late =>
      cases hresult
      exact ⟨rfl, .inl late⟩
  | unowned | noTable => cases hresult
  | ended since brings inTime concludes =>
      subst hresult
      exact absurd concludes Concludes.not_timeout
  | dismissed since dismisses =>
      cases dismisses with
      | abandoned =>
          cases hresult
          exact ⟨rfl, .inr ⟨_, _, rfl, since, rfl⟩⟩
      | poolClosed | rejected => cases hresult

/-- After its deadline a command times out, unless the input does not heed deadlines. -/
theorem Reason.of_late {result : Except Error Reply} (h : Reason m input d routes command result)
    (late : command.deadline ≤ m.now) :
    result = .error (.timeout command.timeout) ∨
      ∃ error, result = .error error ∧ Unchecked input error := by
  cases h with
  | late => exact .inl rfl
  | unowned routed missed reached => simp [missing_of_late late] at missed
  | noTable refused =>
      subst refused
      exact .inr ⟨_, rfl, .noTable⟩
  | ended since brings inTime concludes => exact absurd inTime (Nat.not_lt.mpr late)
  | dismissed since dismisses =>
      cases dismisses with
      | abandoned => exact .inl rfl
      | poolClosed => exact .inr ⟨_, rfl, .poolClosed⟩
      | rejected => exact .inr ⟨_, rfl, .rejected⟩

end Dispatcher

namespace Run

open Dispatcher

/-- Every result that a turn gives to a command has a reason. -/
theorem reason_of_resolved (config : Config) (events : List Event) {now : Instant}
    {table : Topology} {input : Input} (hinput : input ≠ .shutdown) {origin : Command}
    (horigin : origin ∈ (of config events).submitted)
    (hunresolved : (of config events).resolved origin.ticket = []) {result : Except Error Reply}
    (hresult : result ∈ (of config (events ++ [.turn now table input])).resolved origin.ticket) :
    ∃ command routes, origin.Continues command ∧
      Reason ⟨config, now, table⟩ input (of config events).dispatcher routes command result := by
  have h := sound config events
  rw [mem_resolved, of_concat] at hresult
  have hold : .resolve origin.ticket result ∉ (of config events).journal := by
    rw [← mem_resolved, hunresolved]
    exact List.not_mem_nil
  rcases step_cases config (of config events) (.turn now table input) with
    ⟨_, hstep⟩ | ⟨_, hstep⟩ | ⟨now', table', input', hevent, -, hstep⟩
  · rw [hstep] at hresult
    exact absurd hresult hold
  · rw [hstep] at hresult
    exact absurd hresult hold
  cases hevent
  rw [hstep] at hresult
  have hnew := List.mem_reverse.mp ((List.mem_append.mp hresult).resolve_left hold)
  obtain ⟨command, ⟨other, hother, hsame⟩, hticket, hreason⟩ :=
    turn_reason continues_origin h.numbered h.done hinput h.origins hnew
  obtain rfl := h.eq_of_ticket horigin hother (hticket.trans hsame.ticket)
  exact ⟨command, _, hsame, hreason⟩

/-! ## The deadline comes first -/

/-- A command that a turn ends after its deadline has timed out, unless the turn is about one of the
inputs that end commands without a look at the clock. -/
theorem late_result (config : Config) (events : List Event) {now : Instant} {table : Topology}
    {input : Input} (hinput : input ≠ .shutdown) {origin : Command}
    (horigin : origin ∈ (of config events).submitted) (hlate : origin.deadline ≤ now)
    (hunresolved : (of config events).resolved origin.ticket = []) {result : Except Error Reply}
    (hresult : result ∈ (of config (events ++ [.turn now table input])).resolved origin.ticket) :
    result = .error (.timeout origin.timeout) ∨
      ∃ error, result = .error error ∧ Unchecked input error := by
  obtain ⟨command, routes, hsame, hreason⟩ :=
    reason_of_resolved config events hinput horigin hunresolved hresult
  rw [← hsame.deadline] at hlate
  rw [← hsame.timeout]
  exact hreason.of_late hlate

/-- A command for a node, under way. -/
def underWay : List Event :=
  [.submit (.get [1]) (.node ⟨"a:1"⟩) (.ofMillis 100) 0, .turn 0 .empty .accept]

/-- An answer just at the deadline comes too late. -/
theorem underWay_answered_late :
    ∃ origin ∈ (of {} underWay).submitted, origin.deadline ≤ 100000000 ∧
      (of {} underWay).resolved origin.ticket = [] ∧
      ∀ result ∈ (of {} (underWay ++
          [.turn 100000000 .empty (.node (.response ⟨"a:1"⟩ (.success 1 5)))])).resolved
            origin.ticket,
        result = .error (.timeout origin.timeout) ∨
          ∃ error, result = .error error ∧
            Unchecked (.node (.response ⟨"a:1"⟩ (.success 1 5))) error := by
  refine ⟨_, List.mem_singleton.mpr rfl, by decide +kernel, by decide +kernel, ?_⟩
  intro result hresult
  exact late_result {} underWay (by simp) (List.mem_singleton.mpr rfl) (by decide +kernel)
    (by decide +kernel) hresult

/-- Two commands for keys whose partitions nobody owns. The first has had a refresh started, and the
second waits for it too. -/
def unrouted : List Event :=
  [.submit (.get [97]) .key (.ofMillis 1000) 0, .turn 0 .empty .accept,
    .submit (.get [98]) .key (.ofMillis 20) 20000000, .turn 20000000 .empty .accept]

/-- A refresh that fails just at the deadline of the second ends it, but not with a timeout. -/
theorem unrouted_unchecked :
    ∃ origin ∈ (of {} unrouted).submitted, origin.deadline ≤ 40000000 ∧
      (of {} unrouted).resolved origin.ticket = [] ∧
      (of {} (unrouted ++
          [.turn 40000000 .empty (.task (.refreshed (.error (.unavailable "x"))))])).resolved
        origin.ticket = [.error (.topologyUnavailable "x")] ∧
      Except.error (.topologyUnavailable "x") ≠
        (.error (.timeout origin.timeout) : Except Error Reply) := by
  refine ⟨_, List.mem_of_getElem? (i := 1) rfl, by decide +kernel, by decide +kernel, rfl, by simp⟩

example :
    (of {} (underWay ++ [.turn 100000000 .empty
        (.task (.sendFailed 1 ⟨"a:1"⟩ none (.auth ⟨"a:1"⟩ "no")))])).resolved 0 =
      [.error (.connection (ConnectionError.auth ⟨"a:1"⟩ "no").message)] := rfl

/-! ## Attempts that are given up -/

/-- An attempt is given the deadline of its command. Whatever is in flight under its number is that
attempt, to the same node. -/
theorem attempt_entry (config : Config) (events : List Event) {id : Nat} {node : NodeId}
    {request : Request} {deadline : Instant} {entry : Entry}
    (hattempt : .attempt id node request deadline ∈ (of config events).journal)
    (hentry : (of config events).dispatcher.inFlight.get? id = some entry) :
    entry.command.deadline = deadline ∧
      ∃ partition carrier closed, entry.stage = .sent node partition carrier closed := by
  induction events using List.reverseRecOn generalizing entry with
  | nil => simp at hattempt
  | append_singleton events event ih =>
      have h := sound config events
      rw [of_concat] at hattempt hentry
      rcases step_cases config (of config events) event with
        ⟨_, hstep⟩ | ⟨_, hstep⟩ | ⟨now, table, input, -, -, hstep⟩
      · rw [hstep] at hattempt hentry
        exact ih hattempt hentry
      · rw [hstep] at hattempt hentry
        exact ih hattempt hentry
      rw [hstep] at hattempt hentry
      rcases List.mem_append.mp hattempt with hold | hnew
      · have htried := tried config events
        have hmem : (id, request) ∈ Dispatcher.tried (of config events).journal
            (of config events).dispatcher := by
          rw [tried_of_done h.done]
          exact List.mem_filterMap.mpr ⟨_, hold, rfl⟩
        cases hbefore : (of config events).dispatcher.inFlight.get? id with
        | none =>
            have hgone := turn_gone (m := ⟨config, now, table⟩) h.numbered input
              (htried.issued _ hmem) hbefore
            rw [show _ = some entry from hentry] at hgone
            cases hgone
        | some old =>
            by_cases hinput : input = .shutdown
            · simp [hinput, Dispatcher.turn, shutDown_eq] at hentry
            have hsent := htried.begun id old hbefore _ hmem rfl
            have hfate := turn_fate (m := ⟨config, now, table⟩) h.numbered hinput hbefore hsent
            have hgone :
                ((of config events).dispatcher.turn ⟨config, now, table⟩ input).inFlight.get? id ≠
                  none := by
              rw [show _ = some entry from hentry]
              simp
            cases hfate with
            | stays stays =>
                obtain rfl := Option.some.inj (hentry.symm.trans stays)
                obtain ⟨hdeadline, partition, carrier, closed, hstage⟩ := ih hold hbefore
                refine ⟨(congrArg Command.deadline (markEntry_command input id old)).trans hdeadline,
                  partition, ?_⟩
                simp only [markEntry, hstage]
                exact ⟨_, _, rfl⟩
            | spent gone | charged gone | rests gone | resolved gone => exact absurd gone hgone
      · obtain ⟨command, partition, hbegun, -, hdeadline, -⟩ :=
          turn_begun h.numbered h.done input (List.mem_reverse.mp hnew)
        obtain rfl := Option.some.inj (hentry.symm.trans hbegun)
        exact ⟨hdeadline.symm, partition, none, [], rfl⟩

/-- An attempt is reported given up only once the deadline has passed that it was given. -/
def Punctual (config : Config) (events : List Event) : Prop :=
  ∀ before now table id after, events = before ++ .turn now table (.task (.abandoned id)) :: after →
    ∃ node request deadline,
      .attempt id node request deadline ∈ (of config before).journal ∧ deadline ≤ now

/-- Timers see to all deadlines and pauses in time, and not too early. -/
structure OnTime (config : Config) (events : List Event) : Prop where
  /-- Every command in flight has a timer for its deadline. -/
  deadlines : ∀ id entry, (of config events).dispatcher.inFlight.get? id = some entry →
    (entry.command.deadline, id) ∈ (of config events).dispatcher.timers
  /-- So does one that pauses for the end of its pause, which is no later. -/
  pauses : ∀ id command resume,
    (of config events).dispatcher.inFlight.get? id = some ⟨command, .backoff resume⟩ →
      (resume, id) ∈ (of config events).dispatcher.timers ∧ resume ≤ command.deadline
  /-- When the timers have gone off nothing is overdue. -/
  fired : ∀ now table,
    Current now ((of config events).dispatcher.fireTimers ⟨config, now, table⟩)
  /-- Nothing has timed out before its deadline. -/
  timeouts : ∀ before now table input after,
    events = before ++ .turn now table input :: after →
      ∀ origin ∈ (of config before).submitted, (of config before).resolved origin.ticket = [] →
        ∀ timeout, .error (.timeout timeout) ∈
            (of config (before ++ [.turn now table input])).resolved origin.ticket →
          timeout = origin.timeout ∧ origin.deadline ≤ now

/-- In every run in which attempts are given up for their deadlines only, timers miss nothing and
nothing times out early. -/
theorem timers_on_time (config : Config) (events : List Event) (punctual : Punctual config events) :
    OnTime config events := by
  have h := sound config events
  have htimed := timed config events
  refine ⟨htimed.deadline, htimed.pause, ?_, ?_⟩
  · intro now table
    exact (fireTimers_timed (m := ⟨config, now, table⟩) h.numbered htimed).2
  intro before now table input after hevents origin horigin hunresolved timeout hresult
  by_cases hinput : input = .shutdown
  · rw [hinput, of_concat] at hresult
    cases hstopped : (of config before).dispatcher.stopped with
    | true => simp [step, hstopped, hunresolved] at hresult
    | false =>
        rw [((sound config before).resolved_shutdown hstopped now table horigin).1 hunresolved]
          at hresult
        simp at hresult
  obtain ⟨command, routes, hsame, hreason⟩ :=
    reason_of_resolved config before hinput horigin hunresolved hresult
  obtain ⟨htimeout, hlate | ⟨id, entry, rfl, hentry, rfl⟩⟩ := hreason.timeout
  · exact ⟨htimeout.trans hsame.timeout, hsame.deadline ▸ hlate⟩
  · obtain ⟨node, request, deadline, hattempt, hpassed⟩ :=
      punctual before now table id after hevents
    have hdeadline := (attempt_entry config before hattempt hentry).1
    rw [hsame.deadline] at hdeadline
    exact ⟨htimeout.trans hsame.timeout, hdeadline ▸ hpassed⟩

/-- A command that is given up at its deadline, and one that pauses meanwhile. -/
def givenUp : List Event :=
  [.submit (.get [1]) (.node ⟨"a:1"⟩) (.ofMillis 100) 0,
    .submit (.get [2]) (.node ⟨"b:1"⟩) (.ofMillis 200) 0, .turn 0 .empty .accept,
    .turn 0 .empty .accept,
    .turn 99999999 .empty
      (.node (.response ⟨"b:1"⟩ { Response.success 2 0 with status := .temporaryFailure })),
    .turn 100000000 .empty (.task (.abandoned 1))]

theorem givenUp_punctual : Punctual {} givenUp := by
  have hattempt : .attempt 1 ⟨"a:1"⟩ ⟨1, 0, .get [1]⟩ 100000000 ∈
      (of {} (givenUp.take 5)).journal := List.mem_cons_self ..
  intro before now table id after hevents
  rcases before with _ | ⟨e₁, _ | ⟨e₂, _ | ⟨e₃, _ | ⟨e₄, _ | ⟨e₅, _ | ⟨e₆, before⟩⟩⟩⟩⟩⟩
  all_goals simp [givenUp] at hevents
  obtain ⟨rfl, rfl, rfl, rfl, rfl, ⟨rfl, rfl, rfl⟩, -⟩ := hevents
  exact ⟨_, _, _, hattempt, Nat.le_refl _⟩

theorem givenUp_on_time :
    Punctual {} givenUp ∧
      (of {} givenUp).resolved 0 = [.error (.timeout (.ofMillis 100))] ∧
      (∃ command resume,
        (of {} givenUp).dispatcher.inFlight = [(3, ⟨command, .backoff resume⟩)]) ∧
      OnTime {} givenUp :=
  ⟨givenUp_punctual, rfl, ⟨_, _, rfl⟩, timers_on_time {} givenUp givenUp_punctual⟩

end Run

end ClusterKv

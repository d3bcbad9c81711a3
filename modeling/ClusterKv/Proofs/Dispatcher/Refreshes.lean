import ClusterKv.Proofs.Dispatcher.Parking
import ClusterKv.Proofs.Dispatcher.Retries

/-! # Refreshes are shared

In every run all parked commands await the same refresh. There is never more than one under way, and
none without a command that asked for it. When it is over nobody goes on waiting for it. -/

namespace ClusterKv

namespace Run

open Dispatcher

variable {config : Config}

/-! ## Whole runs -/

theorem awaited (config : Config) (events : List Event) :
    Awaited (of config events).dispatcher.refreshing.toNat [] (of config events).dispatcher := by
  refine And.right (a := (of config events).dispatcher.outbox = []) (dispatcher_induct
    (P := fun _ d => d.outbox = [] ∧ Awaited d.refreshing.toNat [] d) ⟨rfl, .start⟩ ?_ ?_ events)
  · rintro _ d command ⟨hdone, hd⟩
    exact ⟨hdone, hd.congr rfl rfl rfl rfl⟩
  · rintro _ d m input - hnumbered hdone ⟨-, hd⟩
    have hturn := turn_awaited (m := m) hnumbered hdone hd input
    exact ⟨rfl, hturn.awaiting, hturn.underWay, by simp⟩

/-- The results of the refreshes that an event reports over. -/
def reportsIn (r : Run) : Event → List (Except TopologyError Unit)
  | .turn _ _ (.task (.refreshed result)) => if r.dispatcher.stopped then [] else [result]
  | .turn .. | .submit .. | .write _ => []

/-- How many refreshes have been reported over. -/
def reported (config : Config) (events : List Event) : Nat :=
  (collect config reportsIn events).length

/-- How many refreshes the dispatcher has started. -/
def refreshed (config : Config) (events : List Event) : Nat :=
  refreshes (of config events).journal

/-- Only refreshes that have been started are reported over, each of them once. -/
def Reported (config : Config) (events : List Event) : Prop :=
  ∀ before event after, events = before ++ event :: after →
    reportsIn (of config before) event ≠ [] → reported config before < refreshed config before

/-- Whether commands that an event parks were turned away by their nodes. -/
def turnedAwayIn (config : Config) (r : Run) : Event → List Bool
  | .turn now table input =>
    if r.dispatcher.stopped then []
    else [turnsAway ⟨config, now, table⟩ r.dispatcher input]
  | .submit .. | .write _ => []

/-- How many commands have been parked because their nodes turned them away. -/
def turnedAway (config : Config) (events : List Event) : Nat :=
  (collect config (turnedAwayIn config) events).countP id

/-- How many commands have been parked because nobody owned their partitions. -/
def unowned (config : Config) (events : List Event) : Nat :=
  (collect config (routesIn config) events).countP fun r => parks r.1 r.2

/-- Where there is no turn no refresh is started. -/
theorem refreshed_still {events : List Event} {event : Event}
    (hstill : ∀ now table input, event = .turn now table input →
      (of config events).dispatcher.stopped = true) :
    refreshed config (events ++ [event]) = refreshed config events ∧
      (of config (events ++ [event])).dispatcher.refreshing =
        (of config events).dispatcher.refreshing ∧
      reported config (events ++ [event]) = reported config events := by
  have hreports : reportsIn (of config events) event = [] := by
    unfold reportsIn
    split
    · rw [if_pos (hstill _ _ _ rfl)]
    · rfl
    · rfl
    · rfl
  rw [refreshed, refreshed, reported, reported, collect_concat, hreports, List.append_nil,
    of_concat]
  rcases step_cases config (of config events) event with
    ⟨_, hstep⟩ | ⟨_, hstep⟩ | ⟨now, table, input, hevent, hrunning, -⟩
  · rw [hstep]
    exact ⟨rfl, rfl, rfl⟩
  · rw [hstep]
    exact ⟨rfl, rfl, rfl⟩
  · rw [hstill now table input hevent] at hrunning
    cases hrunning

theorem refreshed_turn {events : List Event}
    (hrunning : (of config events).dispatcher.stopped = false)
    (now : Instant) (table : Topology) (input : Input) :
    refreshed config (events ++ [.turn now table input]) =
      refreshed config events +
        refreshes ((of config events).dispatcher.turn ⟨config, now, table⟩ input).outbox := by
  rw [refreshed, of_concat, step_turn hrunning, refreshes_append, refreshes_reverse, refreshed]

theorem reported_turn {events : List Event}
    (hrunning : (of config events).dispatcher.stopped = false)
    (now : Instant) (table : Topology) (input : Input) :
    reported config (events ++ [.turn now table input]) =
      reported config events + input.isReport.toNat := by
  rw [reported, collect_concat, List.length_append, reported, Nat.add_left_cancel_iff]
  cases input with
  | task event => cases event <;> simp [reportsIn, hrunning, Input.isReport]
  | accept | node | timers | shutdown => rfl

/-- As many refreshes are under way as have been started and are not over. -/
theorem refreshed_eq (config : Config) (events : List Event) (honest : Reported config events) :
    refreshed config events =
      reported config events + (of config events).dispatcher.refreshing.toNat := by
  induction events using List.reverseRecOn with
  | nil => rfl
  | append_singleton events event ih =>
      have hbefore : Reported config events := by
        intro before other after hevents
        exact honest before other (after ++ [event]) (by simp [hevents])
      have hbefore := ih hbefore
      by_cases hstill : ∀ now table input, event = .turn now table input →
          (of config events).dispatcher.stopped = true
      · obtain ⟨hrefreshed, hrefreshing, hreported⟩ := refreshed_still hstill
        rw [hrefreshed, hrefreshing, hreported]
        exact hbefore
      · simp only [not_forall, Bool.not_eq_true] at hstill
        obtain ⟨now, table, input, rfl, hrunning⟩ := hstill
        have h := sound config events
        have hturn := (turn_awaited (m := ⟨config, now, table⟩) h.numbered h.done
          (awaited config events) input).started
        have hreport : input.isReport = true →
            reported config events < refreshed config events := by
          intro hreport
          obtain ⟨result, rfl⟩ := Input.isReport_iff.mp hreport
          exact honest events _ [] rfl (by simp [reportsIn, hrunning])
        rw [refreshed_turn hrunning, reported_turn hrunning, of_concat, step_turn hrunning]
        have hbit := Bool.toNat_le (of config events).dispatcher.refreshing
        cases hinput : input.isReport with
        | true =>
            have hreport := hreport hinput
            simp only [hinput, ite_true, Bool.toNat_true] at hturn ⊢
            omega
        | false =>
            simp only [hinput, Bool.false_eq_true, ite_false, Bool.toNat_false] at hturn ⊢
            omega

theorem turnedAway_turn {events : List Event}
    (hrunning : (of config events).dispatcher.stopped = false) (now : Instant) (table : Topology)
    (input : Input) :
    turnedAway config (events ++ [.turn now table input]) =
      turnedAway config events +
        (turnsAway ⟨config, now, table⟩ (of config events).dispatcher input).toNat := by
  have hone : ∀ away : Bool, [away].countP id = away.toNat := by decide
  simp only [turnedAway, collect_concat, turnedAwayIn, hrunning, Bool.false_eq_true, ite_false,
    List.countP_append, hone]

theorem unowned_turn {events : List Event}
    (hrunning : (of config events).dispatcher.stopped = false) (now : Instant) (table : Topology)
    (input : Input) :
    unowned config (events ++ [.turn now table input]) =
      unowned config events +
        ((of config events).dispatcher.routed ⟨config, now, table⟩ input).countP
          (parks ⟨config, now, table⟩) := by
  simp only [unowned, collect_concat, routesIn, hrunning, Bool.false_eq_true, ite_false,
    List.countP_append, List.countP_map]
  rfl

/-- What is counted never gets less. -/
theorem parked_mono (events : List Event) (event : Event) :
    turnedAway config events + unowned config events ≤
      turnedAway config (events ++ [event]) + unowned config (events ++ [event]) := by
  simp only [turnedAway, unowned, collect_concat, List.countP_append]
  omega

/-- There are no more refreshes than commands that have been parked. -/
theorem refreshed_le (config : Config) (events : List Event) :
    refreshed config events ≤ turnedAway config events + unowned config events := by
  induction events using List.reverseRecOn with
  | nil => exact Nat.zero_le _
  | append_singleton events event ih =>
      by_cases hstill : ∀ now table input, event = .turn now table input →
          (of config events).dispatcher.stopped = true
      · rw [(refreshed_still hstill).1]
        exact Nat.le_trans ih (parked_mono events event)
      · simp only [not_forall, Bool.not_eq_true] at hstill
        obtain ⟨now, table, input, rfl, hrunning⟩ := hstill
        have h := sound config events
        have hturn := turn_refreshes_le (m := ⟨config, now, table⟩) h.numbered h.done
          (awaited config events) input
        rw [refreshed_turn hrunning, turnedAway_turn hrunning, unowned_turn hrunning]
        omega

/-- Only new submissions, pauses and refreshes that are over, and answers that turn a command away
start refreshes. -/
theorem refreshed_of_quiet (config : Config) (events : List Event) (now : Instant)
    (table : Topology) {input : Input} (haccept : input ≠ .accept) (htimers : input ≠ .timers)
    (hrefreshed : input ≠ .task (.refreshed (.ok ())))
    (hanswer : ∀ sender response, input = .node (.response sender response) →
      response.status ≠ .notMyPartition) :
    refreshed config (events ++ [.turn now table input]) = refreshed config events := by
  cases hstopped : (of config events).dispatcher.stopped with
  | true => exact (refreshed_still fun _ _ _ _ => hstopped).1
  | false =>
      have h := sound config events
      have hturn := turn_refreshes_le (m := ⟨config, now, table⟩) h.numbered h.done
        (awaited config events) input
      rw [routed_of_quiet haccept htimers hrefreshed, turnsAway_of_quiet hanswer] at hturn
      rw [refreshed_turn hstopped, Nat.eq_zero_of_le_zero hturn, Nat.add_zero]

/-! ## Refreshes that are over -/

/-- A refresh that has failed answers all that is parked with its error, and changes nothing
else. -/
structure Failed (error : TopologyError) (r r' : Run) : Prop where
  answered : ∀ id entry, r.dispatcher.inFlight.get? id = some entry →
    entry.stage = .awaitingTopology →
    r'.resolved entry.command.ticket = [.error error.toError]
  journal : r'.journal = r.journal ++ r.dispatcher.parked.filterMap (r.dispatcher.refusal error)
  dispatcher : r'.dispatcher =
    { r.dispatcher with
      inFlight := r.dispatcher.inFlight.filter (·.2.stage ≠ .awaitingTopology)
      refreshing := false
      parked := [] }

/-- After a refresh that has succeeded nothing awaits it any more. What is parked then has got a new
number, and awaits a refresh that has been started since. -/
structure Succeeded (r r' : Run) : Prop where
  called : ∀ id ∈ r.dispatcher.parked, ∀ entry, r'.dispatcher.inFlight.get? id = some entry →
    entry.stage ≠ .awaitingTopology
  renumbered : ∀ id ∈ r'.dispatcher.parked, r.dispatcher.nextId ≤ id
  started : refreshes r'.journal = refreshes r.journal + r'.dispatcher.refreshing.toNat

/-- Whatever awaits a refresh is parked. -/
theorem mem_parked (config : Config) (events : List Event) {id : Nat} {entry : Entry}
    (hentry : (of config events).dispatcher.inFlight.get? id = some entry)
    (hawaits : entry.stage = .awaitingTopology) : id ∈ (of config events).dispatcher.parked :=
  ((awaited config events).awaiting id entry hentry hawaits).resolve_right List.not_mem_nil

theorem refresh_failed {events : List Event}
    (hrunning : (of config events).dispatcher.stopped = false) (now : Instant) (table : Topology)
    (error : TopologyError) :
    Failed error (of config events)
      (of config (events ++ [.turn now table (.task (.refreshed (.error error)))])) := by
  have h := sound config events
  have hturn := turn_failed (m := ⟨config, now, table⟩) h.numbered (settled config events) error
  have hjournal : (of config
      (events ++ [.turn now table (.task (.refreshed (.error error)))])).journal =
        (of config events).journal ++
          (of config events).dispatcher.parked.filterMap
            ((of config events).dispatcher.refusal error) := by
    rw [of_concat, step_turn hrunning, hturn, h.done, List.append_nil, List.reverse_reverse]
  refine ⟨?_, hjournal, ?_⟩
  · intro id entry hentry hawaits
    refine ((sound config _).of_result ?_).2
    rw [mem_resolved, hjournal]
    have hparked := mem_parked config events hentry hawaits
    refine List.mem_append_right _ (List.mem_filterMap.mpr ⟨id, hparked, ?_⟩)
    simp [refusal, hentry]
  · have hentries : ((of config events).dispatcher.inFlight.filter
        fun e => e.1 ∉ (of config events).dispatcher.parked) =
          (of config events).dispatcher.inFlight.filter (·.2.stage ≠ .awaitingTopology) := by
      apply List.filter_congr
      rintro ⟨id, entry⟩ he
      have hentry := Assoc.get?_of_mem h.numbered.distinct he
      have hparked : id ∈ (of config events).dispatcher.parked ↔
          entry.stage = .awaitingTopology :=
        ⟨fun hid => h.numbered.parked id hid entry hentry, mem_parked config events hentry⟩
      simp [hparked]
    rw [of_concat, step_turn hrunning, hturn, hentries, ← h.done]

theorem refresh_succeeded {events : List Event}
    (hrunning : (of config events).dispatcher.stopped = false) (now : Instant) (table : Topology) :
    Succeeded (of config events)
      (of config (events ++ [.turn now table (.task (.refreshed (.ok ())))])) := by
  have h := sound config events
  have hlater : ∀ id ∈ (of config
      (events ++ [.turn now table (.task (.refreshed (.ok ())))])).dispatcher.parked,
        (of config events).dispatcher.nextId ≤ id := by
    rw [of_concat, step_turn hrunning]
    exact refreshed_since h.numbered (.ok ())
  refine ⟨?_, hlater, ?_⟩
  · intro id hid entry hentry hawaits
    have hnew := hlater id (mem_parked config _ hentry hawaits)
    have hold := h.numbered.parked_issued id hid
    omega
  · have hstarted := (turn_awaited (m := ⟨config, now, table⟩) h.numbered h.done
      (awaited config events) (.task (.refreshed (.ok ())))).started
    simp only [Input.isReport, ite_true, Nat.zero_add] at hstarted
    rw [of_concat, step_turn hrunning, refreshes_append, refreshes_reverse, hstarted]

/-! ## The result -/

/-- Refreshes are shared, and nobody waits for one that is over. -/
structure RefreshesShared (config : Config) (events : List Event) : Prop where
  /-- If refreshes are reported over once each there is one under way, or none: as many as have been
  started and are not over. -/
  underWay : Reported config events →
    refreshed config events =
      reported config events + (of config events).dispatcher.refreshing.toNat
  /-- Whatever awaits a refresh is parked, once. -/
  parked : ∀ id entry, (of config events).dispatcher.inFlight.get? id = some entry →
    entry.stage = .awaitingTopology → (of config events).dispatcher.parked.count id = 1
  /-- Nothing is parked unless a refresh is under way. -/
  idle : (of config events).dispatcher.refreshing = false →
    (of config events).dispatcher.parked = []
  failed : (of config events).dispatcher.stopped = false → ∀ now table error,
    Failed error (of config events)
      (of config (events ++ [.turn now table (.task (.refreshed (.error error)))]))
  succeeded : (of config events).dispatcher.stopped = false → ∀ now table,
    Succeeded (of config events)
      (of config (events ++ [.turn now table (.task (.refreshed (.ok ())))]))
  /-- There are no more refreshes than commands that were parked, be it that their nodes turned them
  away or that nobody owned their partitions. -/
  bounded : refreshed config events ≤ turnedAway config events + unowned config events
  /-- No other answer of a node starts any, and no fault of a connection. -/
  others : ∀ now table input, input ≠ .accept → input ≠ .timers →
    input ≠ .task (.refreshed (.ok ())) →
    (∀ sender response, input = .node (.response sender response) →
      response.status ≠ .notMyPartition) →
    refreshed config (events ++ [.turn now table input]) = refreshed config events

/-- In every run refreshes are shared, and all that await one are called up when it is over. -/
theorem refreshes_shared (config : Config) (events : List Event) :
    RefreshesShared config events := by
  refine ⟨refreshed_eq config events, ?_, ?_, refresh_failed, refresh_succeeded,
    refreshed_le config events, ?_⟩
  · intro id entry hentry hawaits
    exact List.count_eq_one_of_mem (sound config events).numbered.parked_once
      (mem_parked config events hentry hawaits)
  · intro hidle
    by_contra hparked
    rw [(awaited config events).underWay hparked] at hidle
    cases hidle
  · intro now table input haccept htimers hrefreshed hanswer
    exact refreshed_of_quiet config events now table haccept htimers hrefreshed hanswer

/-- Two commands for keys that nobody owns. They are parked twice over, and share both refreshes. -/
def sharing : List Event :=
  [.submit (.get [1]) .key (.ofMillis 100) 0, .submit (.get [2]) .key (.ofMillis 100) 0,
    .turn 0 .empty .accept, .turn 0 .empty .accept, .turn 0 .empty (.task (.refreshed (.ok ())))]

theorem sharing_reported : Reported {} sharing := by
  intro before event after hevents hreports
  rcases before with _ | ⟨e₁, _ | ⟨e₂, _ | ⟨e₃, _ | ⟨e₄, _ | ⟨e₅, before⟩⟩⟩⟩⟩
  all_goals simp [sharing] at hevents
  · simp [← hevents.1, reportsIn] at hreports
  · simp [← hevents.2.1, reportsIn] at hreports
  · simp [← hevents.2.2.1, reportsIn] at hreports
  · simp [← hevents.2.2.2.1, reportsIn] at hreports
  · obtain ⟨rfl, rfl, rfl, rfl, -⟩ := hevents
    decide +kernel

theorem sharing_shared :
    Reported {} sharing ∧ refreshed {} sharing = 2 ∧ reported {} sharing = 1 ∧
      unowned {} sharing = 4 ∧ (of {} sharing).dispatcher.parked = [5, 6] ∧
      RefreshesShared {} sharing :=
  ⟨sharing_reported, by decide +kernel, by decide +kernel, by decide +kernel, by decide +kernel,
    refreshes_shared {} sharing⟩

end Run

end ClusterKv

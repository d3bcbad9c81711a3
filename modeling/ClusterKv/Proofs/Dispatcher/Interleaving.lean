import ClusterKv.Proofs.Dispatcher.Carriers

/-! # Acknowledgement, death and response in any order

Three things may be heard of an attempt after it has been started: which connection carries its
request, that a connection has died, and the response. They may be heard in any order, and the
order makes no difference to what becomes of the attempt. -/

namespace ClusterKv

namespace Dispatcher

variable {m : Moment}

theorem onResponse_gone {d : Dispatcher} (sender : NodeId) {response : Response}
    (hissued : response.opaqueId.toNat < d.nextId)
    (hsent : ∀ entry, d.inFlight.get? response.opaqueId.toNat = some entry →
      entry.isSent = true) :
    Apart response.opaqueId.toNat (d.onResponse m response, .empty) ∧
      (d.onResponse m response).inFlight.get? response.opaqueId.toNat = none := by
  unfold onResponse
  rcases takeSent_cases d response.opaqueId.toNat with
    ⟨command, node, partition, carrier, closed, hentry, h⟩ | ⟨hnone, h⟩
  · rw [h]
    obtain ⟨hapart, hget, -⟩ := Handlings.frame
      (apply_response_handlings (m := m) (d.remove response.opaqueId.toNat).1 command sender
        partition response)
      ⟨by simpa using hissued, by simp [Hand.number?]⟩
    refine ⟨hapart, hget.trans ?_⟩
    simp
  · rw [h]
    refine ⟨⟨hissued, by simp [Hand.number?]⟩, ?_⟩
    cases hentry : d.inFlight.get? response.opaqueId.toNat with
    | none => rfl
    | some entry =>
        have hsent := hsent entry hentry
        obtain ⟨command, stage⟩ := entry
        cases stage with
        | sent => exact absurd hentry (hnone _ _ _ _ _)
        | waiting | awaitingTopology | backoff => cases hsent

/-- A response leaves no attempt under its number. -/
theorem turn_answered {d : Dispatcher} (hd : Numbered d .empty) (sender : NodeId)
    {response : Response} (hissued : response.opaqueId.toNat < d.nextId)
    (hsent : ∀ entry, d.inFlight.get? response.opaqueId.toNat = some entry →
      entry.isSent = true) :
    (d.turn m (.node (.response sender response))).inFlight.get? response.opaqueId.toNat =
      none := by
  have hmoves : Moves m (some (.node (.response sender response))) (d.mark _, .empty)
      (d.onResponse m response, .empty) := act_moves hd (by simp)
  obtain ⟨hapart, hgone⟩ := onResponse_gone (m := m) sender hissued hsent
  rw [turn_eq d (by simp)]
  exact (Moves.gone (promoteWaiting_moves _) (Moves.numbered hmoves (mark_numbered hd _)) hapart
    hgone).2

end Dispatcher

namespace Run

open Dispatcher

variable {config : Config}

/-! ## Runs but for the notes on an attempt -/

/-- The run without the notes on one attempt. -/
def unnoted (r : Run) (id : Nat) : Run := { r with dispatcher := r.dispatcher.unnoted id }

theorem unnoted_of_gone {r : Run} {id : Nat} (h : r.dispatcher.inFlight.get? id = none) :
    r.unnoted id = r := by
  simp only [unnoted, unnoted_of_none _ _ h]

/-- An event that does not end an attempt by its notes does the same without them. -/
theorem unnoted_step {r : Run} (hr : Numbered r.dispatcher .empty) {id : Nat} {event : Event}
    (h : ∀ now table input, event = .turn now table input → Spared r.dispatcher input id) :
    (r.step config event).unnoted id = ((r.unnoted id).step config event).unnoted id := by
  have hstopped : (r.unnoted id).dispatcher.stopped = r.dispatcher.stopped := rfl
  cases event with
  | submit operation target timeout created =>
      simp only [step, hstopped]
      split
      · simp only [unnoted, unnoted_idem]
      · have hqueue : ∀ queue,
            ({ r.dispatcher with inbound := queue } : Dispatcher).unnoted id =
              ({ r.dispatcher.unnoted id with inbound := queue } : Dispatcher).unnoted id :=
          fun queue => congrArg (fun d : Dispatcher => { d with inbound := queue })
            (unnoted_idem r.dispatcher id).symm
        exact (Run.mk.injEq ..).mpr ⟨hqueue _, rfl, rfl, rfl⟩
  | turn now table input =>
      cases hover : r.dispatcher.stopped with
      | true =>
          simp only [step, hstopped, hover, ite_true]
          simp only [unnoted, unnoted_idem]
      | false =>
          have hturn := unnoted_turn (m := ⟨config, now, table⟩) hr (h now table input rfl)
          have hdispatcher := congrArg (fun d : Dispatcher => { d with outbox := [] }) hturn
          have houtbox := congrArg Dispatcher.outbox hturn
          rw [step_turn hover, step_turn (hstopped.trans hover)]
          exact (Run.mk.injEq ..).mpr ⟨hdispatcher, rfl,
            congrArg (fun outbox => r.journal ++ outbox.reverse) houtbox, rfl⟩
  | write place =>
      have hjournal : (r.unnoted id).journal = r.journal := rfl
      simp only [step, hjournal]
      split <;> simp only [unnoted, unnoted_idem]

/-- A turn in which nothing but notes is made. -/
theorem unnoted_step_turn {r : Run} (hdone : r.dispatcher.outbox = []) {id : Nat} {now : Instant}
    {table : Topology} {input : Dispatcher.Input}
    (hturn : (r.dispatcher.turn ⟨config, now, table⟩ input).unnoted id = r.dispatcher.unnoted id) :
    (r.step config (.turn now table input)).unnoted id = r.unnoted id := by
  cases hover : r.dispatcher.stopped with
  | true => simp only [step, hover, ite_true]
  | false =>
      have houtbox : (r.dispatcher.turn ⟨config, now, table⟩ input).outbox = [] :=
        (congrArg Dispatcher.outbox hturn).trans hdone
      have hdispatcher := congrArg (fun d : Dispatcher => { d with outbox := [] }) hturn
      have hsame : ({ r.dispatcher.unnoted id with outbox := [] } : Dispatcher) =
          r.dispatcher.unnoted id := by
        simp only [Dispatcher.unnoted, ← hdone]
      rw [step_turn hover, houtbox, List.reverse_nil, List.append_nil]
      exact (Run.mk.injEq ..).mpr ⟨hdispatcher.trans hsame, rfl, rfl, rfl⟩

/-! ## Acknowledgements around the response -/

section

variable {before since mid : List Event} {id : Nat} {command : Command} {node : NodeId}
  {partition : UInt16} {generation : Nat}

/-- As long as its carrier is alive no attempt is ended by its notes. -/
theorem Carried.spared {now : Instant} {table : Topology} {input : Dispatcher.Input}
    (h : Carried config before (since ++ [.turn now table input]) id command node partition
      generation)
    (halive : ¬Died node generation (since ++ [.turn now table input])) :
    Spared (of config (before ++ since)).dispatcher input id := by
  intro entry hentry hloses
  apply halive
  rcases h.init.knows with hgone | ⟨carrier, closed, hknows, hsome⟩
  · rw [hgone] at hentry
    cases hentry
  · obtain rfl := Option.some.inj (hentry.symm.trans hsome)
    cases hloses with
    | acked dead =>
        obtain rfl := h.carrier _ (acked_concat.mpr (.inr ⟨now, table, rfl⟩))
        cases hknows with
        | nothing unacked noted => exact ((noted _).mp dead).append _
        | alive acked alive noted => exact (noted _ dead).append _
    | closed =>
        cases hknows with
        | alive => exact died_concat.mpr (.inr ⟨now, table, _, rfl⟩)

theorem Carried.concat {event : Event}
    (h : Carried config before since id command node partition generation)
    (hevent : ∀ now table other, event = .turn now table (.task (.sent id other)) →
      other = generation) :
    Carried config before (since ++ [event]) id command node partition generation := by
  refine ⟨h.begun, ?_⟩
  intro other hacked
  rcases acked_concat.mp hacked with hold | ⟨now, table, hnew⟩
  · exact h.carrier other hold
  · exact hevent now table other hnew

theorem Carried.acknowledged
    (h : Carried config before (since ++ mid) id command node partition generation)
    (now : Instant) (table : Topology) :
    Carried config before (since ++ .turn now table (.task (.sent id generation)) :: mid) id
      command node partition generation := by
  refine ⟨h.begun, ?_⟩
  rintro other ⟨time, view, hmem⟩
  rcases List.mem_append.mp hmem with hmem | hmem
  · exact h.carrier other ⟨time, view, List.mem_append_left _ hmem⟩
  · rcases List.mem_cons.mp hmem with hsame | hmem
    · cases hsame
      rfl
    · exact h.carrier other ⟨time, view, List.mem_append_right _ hmem⟩

theorem not_died_acknowledged (id : Nat) (halive : ¬Died node generation (since ++ mid))
    (now : Instant) (table : Topology) :
    ¬Died node generation (since ++ .turn now table (.task (.sent id generation)) :: mid) := by
  rintro ⟨time, view, reason, hmem⟩
  apply halive
  rcases List.mem_append.mp hmem with hmem | hmem
  · exact ⟨time, view, reason, List.mem_append_left _ hmem⟩
  · exact ⟨time, view, reason,
      List.mem_append_right _ ((List.mem_cons.mp hmem).resolve_left (by simp))⟩

/-- An acknowledgement makes no difference but in the notes as long as the carrier is alive. -/
theorem Carried.alike
    (h : Carried config before (since ++ mid) id command node partition generation)
    (halive : ¬Died node generation (since ++ mid)) (now : Instant) (table : Topology) :
    (of config (before ++ (since ++ .turn now table (.task (.sent id generation)) :: mid))).unnoted
        id =
      (of config (before ++ (since ++ mid))).unnoted id := by
  induction mid using List.reverseRecOn with
  | nil =>
      have hspared : Spared (of config (before ++ since)).dispatcher
          (.task (.sent id generation)) id :=
        (h.acknowledged now table).spared (not_died_acknowledged id halive now table)
      rw [List.append_nil, ← List.append_assoc, of_concat]
      apply unnoted_step_turn (sound config _).done
      rw [Dispatcher.turn, unnoted_promoteWaiting, onTask, unnoted_onSent_self hspared,
        ← unnoted_promoteWaiting, promoteWaiting_of_settled (settled config _)]
  | append_singleton mid event ih =>
      have hsplit : ∀ first rest : List Event,
          first ++ (rest ++ [event]) = first ++ rest ++ [event] := by simp
      have hacked := h.acknowledged now table
      have hunnoticed := not_died_acknowledged id halive now table
      rw [← List.cons_append, hsplit] at hacked hunnoticed
      rw [hsplit] at h halive
      rw [← List.cons_append, hsplit, hsplit, hsplit, hsplit, of_concat, of_concat,
        unnoted_step (sound config _).numbered, ih h.init fun hdied => halive (hdied.append _),
        ← unnoted_step (sound config _).numbered]
      · rintro now table input rfl
        exact h.spared halive
      · rintro now table input rfl
        exact hacked.spared hunnoticed

theorem Carried.answered_gone
    (h : Carried config before since id command node partition generation) (now : Instant)
    (table : Topology) (sender : NodeId) {response : Response}
    (hnumber : response.opaqueId.toNat = id) :
    (of config (before ++ since ++
      [.turn now table (.node (.response sender response))])).dispatcher.inFlight.get? id =
        none := by
  have hsound := sound config (before ++ since)
  have hissued := issued_append h.begun since
  rcases h.knows with hgone | ⟨carrier, closed, -, hentry⟩
  · exact gone_step hissued hgone _
  · rw [of_concat, step_turn (hsound.running hentry)]
    subst hnumber
    apply turn_answered hsound.numbered sender hissued
    intro entry hsome
    obtain rfl := Option.some.inj (hsome.symm.trans hentry)
    rfl

theorem gone_append {events : List Event}
    (hissued : id < (of config events).dispatcher.nextId)
    (hgone : (of config events).dispatcher.inFlight.get? id = none) (more : List Event) :
    (of config (events ++ more)).dispatcher.inFlight.get? id = none := by
  induction more using List.reverseRecOn with
  | nil => rwa [List.append_nil]
  | append_singleton more event ih =>
      rw [← List.append_assoc]
      exact gone_step (Nat.lt_of_lt_of_le hissued (nextId_append config events more)) ih event

/-- The acknowledgement of an attempt that is over changes nothing. -/
theorem acked_ignored {events : List Event}
    (hgone : (of config events).dispatcher.inFlight.get? id = none) (now : Instant)
    (table : Topology) (generation : Nat) :
    of config (events ++ [.turn now table (.task (.sent id generation))]) = of config events := by
  rw [of_concat]
  apply step_turn_self (sound config events).done
  simp only [Dispatcher.turn, onTask, onSent, hgone]
  exact promoteWaiting_of_settled (settled config events)

/-- As long as the carrier is alive it makes no difference whether the acknowledgement comes before
or after the response. -/
theorem Carried.answered
    (h : Carried config before (since ++ mid) id command node partition generation)
    (halive : ¬Died node generation (since ++ mid)) {response : Response}
    (hnumber : response.opaqueId.toNat = id) (sender : NodeId) (early late now : Instant)
    (earlyTable lateTable table : Topology) (later : List Event) :
    of config (before ++ (since ++ .turn early earlyTable (.task (.sent id generation)) :: mid) ++
        [.turn now table (.node (.response sender response))] ++ later) =
      of config (before ++ (since ++ mid) ++
        [.turn now table (.node (.response sender response))] ++ later ++
        [.turn late lateTable (.task (.sent id generation))]) := by
  have hacked := (h.acknowledged early earlyTable).answered_gone now table sender hnumber
  have hunacked := h.answered_gone now table sender hnumber
  have hissued : id < (of config (before ++ (since ++ mid) ++
      [.turn now table (.node (.response sender response))])).dispatcher.nextId := by
    rw [List.append_assoc]
    exact issued_append h.begun _
  have hsame : of config (before ++
        (since ++ .turn early earlyTable (.task (.sent id generation)) :: mid) ++
        [.turn now table (.node (.response sender response))]) =
      of config (before ++ (since ++ mid) ++
        [.turn now table (.node (.response sender response))]) := by
    have hspared : ∀ (d : Dispatcher) time view input,
        Event.turn now table (.node (.response sender response)) = .turn time view input →
          Spared d input id := by
      rintro d time view input hinput entry - hloses
      cases hinput
      cases hloses
    rw [← unnoted_of_gone hacked, ← unnoted_of_gone hunacked, of_concat, of_concat,
      unnoted_step (sound config _).numbered (hspared _), h.alike halive,
      ← unnoted_step (sound config _).numbered (hspared _)]
  rw [acked_ignored (gone_append hissued hunacked later), of_append, of_append _ later, hsame]

/-- Acknowledgement and death may change places. -/
theorem Carried.swapped
    (h : Carried config before since id command node partition generation)
    (hunder : UnderWay (of config (before ++ since)) id command node partition)
    (hunacked : ¬Acked id generation since) (halive : ¬Died node generation since)
    (earlier : Instant) (earlierTable : Topology) (now : Instant) (table : Topology)
    (reason : String) :
    (of config (before ++ since ++
      [.turn earlier earlierTable (.task (.sent id generation)),
        .turn now table (.node (.closed node generation reason))])).fate command.ticket =
    (of config (before ++ since ++
      [.turn earlier earlierTable (.node (.closed node generation reason)),
        .turn now table (.task (.sent id generation))])).fate command.ticket := by
  have hsplit : ∀ event event' : Event,
      before ++ since ++ [event, event'] = before ++ (since ++ [event]) ++ [event'] := by simp
  have hacked : Carried config before
      (since ++ [.turn earlier earlierTable (.task (.sent id generation))]) id command node
        partition generation := by
    apply h.concat
    rintro _ _ other hsame
    cases hsame
    rfl
  have hdied : Carried config before
      (since ++ [.turn earlier earlierTable (.node (.closed node generation reason))]) id command
        node partition generation := h.concat (by simp)
  have hunknown : ¬(node = node ∧ generation = generation ∧ Acked id generation since) :=
    fun hsame => hunacked hsame.2.2
  have hstill := h.acked_keeps hunder earlier earlierTable halive
  have hstill' := h.closed_keeps hunder earlier earlierTable reason hunknown
  rw [List.append_assoc] at hstill hstill'
  rw [hsplit, hsplit,
    hacked.fate_of_closed hstill (acked_concat.mpr (.inr ⟨_, _, rfl⟩)) now table reason,
    hdied.fate_of_acked hstill' (died_concat.mpr (.inr ⟨_, _, _, rfl⟩)) now table]

/-! ## The result -/

/-- Every attempt under way was started at some point. -/
theorem begun_of_sent {events : List Event} {carrier : Option Nat} {closed : List Nat}
    (hentry : (of config events).dispatcher.inFlight.get? id =
      some ⟨command, .sent node partition carrier closed⟩) :
    ∃ before since, events = before ++ since ∧
      (of config before).dispatcher.inFlight.get? id =
        some ⟨command, .sent node partition none []⟩ := by
  have hrecorded := (tried config events).recorded id _ _ _ _ _ hentry
  rw [tried_of_done (sound config events).done] at hrecorded
  obtain ⟨effect, heffect, hattempt⟩ := List.mem_filterMap.mp hrecorded
  cases effect with
  | attempt other otherNode request deadline =>
      obtain ⟨rfl, rfl⟩ := Prod.mk.inj (Option.some.inj hattempt)
      obtain ⟨before, event, after, rfl, -, -, ⟨_, _, first, place, -, -, hbegun, -⟩, -⟩ :=
        started config events heffect
      refine ⟨before ++ [event], after, by simp, ?_⟩
      have hsplit : before ++ event :: after = before ++ [event] ++ after := by simp
      rw [hsplit] at hentry
      rcases story config (before ++ [event]) after hbegun with ⟨_, _, hstill, -⟩ | ⟨hgone, -⟩
      · obtain ⟨rfl, hstage⟩ := Entry.mk.inj (Option.some.inj (hstill.symm.trans hentry))
        cases hstage
        exact hbegun
      · rw [hgone] at hentry
        cases hentry
  | refresh | disconnect | closePool | resolve => cases hattempt

end

/-- However the acknowledgement of an attempt by its carrier, deaths of connections and a response
are ordered, given where it was started, they come to the same. -/
structure AnyOrder (config : Config) (before : List Event) (id : Nat) (command : Command)
    (node : NodeId) (partition : UInt16) (generation : Nat) : Prop where
  /-- When its carrier is known and has died, the attempt is over. -/
  ended : ∀ since, Carried config before since id command node partition generation →
    Acked id generation since → Died node generation since →
      (of config (before ++ since)).dispatcher.inFlight.get? id = none
  /-- The death of no other connection ends it. -/
  others : ∀ since, Carried config before since id command node partition generation →
    UnderWay (of config (before ++ since)) id command node partition →
      ∀ now table dead other reason, ¬(dead = node ∧ other = generation) →
        UnderWay (of config (before ++ since ++
          [.turn now table (.node (.closed dead other reason))])) id command node partition
  /-- What is heard first of its carrier does not end it. -/
  first : ∀ since, Carried config before since id command node partition generation →
    UnderWay (of config (before ++ since)) id command node partition →
      (¬Died node generation since → ∀ now table,
        UnderWay (of config (before ++ since ++
          [.turn now table (.task (.sent id generation))])) id command node partition) ∧
      (¬Acked id generation since → ∀ now table reason,
        UnderWay (of config (before ++ since ++
          [.turn now table (.node (.closed node generation reason))])) id command node partition)
  /-- What is heard last ends it, and the fate of its command is the same either way. -/
  last : ∀ since, Carried config before since id command node partition generation →
    UnderWay (of config (before ++ since)) id command node partition →
      ∀ now table,
        (Acked id generation since → ∀ reason,
          (of config (before ++ since ++
            [.turn now table (.node (.closed node generation reason))])).fate command.ticket =
              failedFate ⟨config, now, table⟩ command) ∧
        (Died node generation since →
          (of config (before ++ since ++
            [.turn now table (.task (.sent id generation))])).fate command.ticket =
              failedFate ⟨config, now, table⟩ command)
  /-- So the two may change places. -/
  swapped : ∀ since, Carried config before since id command node partition generation →
    UnderWay (of config (before ++ since)) id command node partition →
      ¬Acked id generation since → ¬Died node generation since →
        ∀ earlier earlierTable now table reason,
          (of config (before ++ since ++
            [.turn earlier earlierTable (.task (.sent id generation)),
              .turn now table (.node (.closed node generation reason))])).fate command.ticket =
          (of config (before ++ since ++
            [.turn earlier earlierTable (.node (.closed node generation reason)),
              .turn now table (.task (.sent id generation))])).fate command.ticket
  /-- As long as its carrier is alive the acknowledgement may come before the response or after
  it. -/
  answered : ∀ since mid later,
    Carried config before (since ++ mid) id command node partition generation →
      ¬Died node generation (since ++ mid) →
        ∀ response sender, response.opaqueId.toNat = id →
          ∀ early earlyTable now table late lateTable,
            of config (before ++
                (since ++ .turn early earlyTable (.task (.sent id generation)) :: mid) ++
                [.turn now table (.node (.response sender response))] ++ later) =
              of config (before ++ (since ++ mid) ++
                [.turn now table (.node (.response sender response))] ++ later ++
                [.turn late lateTable (.task (.sent id generation))])

/-- Every attempt under way was started at some point, and from there on what is heard of it may be
heard in any order. -/
theorem attempts_any_order (config : Config) (events : List Event) {id : Nat} {command : Command}
    {node : NodeId} {partition : UInt16} {carrier : Option Nat} {closed : List Nat}
    (hentry : (of config events).dispatcher.inFlight.get? id =
      some ⟨command, .sent node partition carrier closed⟩) :
    ∃ before since, events = before ++ since ∧
      (of config before).dispatcher.inFlight.get? id =
        some ⟨command, .sent node partition none []⟩ ∧
      ∀ generation, AnyOrder config before id command node partition generation := by
  obtain ⟨before, since, hevents, hbegun⟩ := begun_of_sent hentry
  refine ⟨before, since, hevents, hbegun, ?_⟩
  intro generation
  refine ⟨?_, ?_, ?_, ?_, ?_, ?_⟩
  · intro since h hacked hdied
    exact h.ended hacked hdied
  · intro since h hunder now table dead other reason hother
    exact h.closed_keeps hunder now table reason fun hsame => hother ⟨hsame.1, hsame.2.1⟩
  · intro since h hunder
    refine ⟨?_, ?_⟩
    · intro halive now table
      exact h.acked_keeps hunder now table halive
    · intro hunacked now table reason
      exact h.closed_keeps hunder now table reason fun hsame => hunacked hsame.2.2
  · intro since h hunder now table
    refine ⟨?_, ?_⟩
    · intro hacked reason
      exact h.fate_of_closed hunder hacked now table reason
    · intro hdied
      exact h.fate_of_acked hunder hdied now table
  · intro since h hunder hunacked halive earlier earlierTable now table reason
    exact h.swapped hunder hunacked halive earlier earlierTable now table reason
  · intro since mid later h halive response sender hnumber early earlyTable now table late lateTable
    exact h.answered halive hnumber sender early late now earlyTable lateTable table later

/-- A command under way for a node to which an older connection has died. -/
def underWayOnce : List Event :=
  [.submit (.get [1]) (.node ⟨"a:1"⟩) (.ofMillis 100) 0, .turn 0 .empty .accept,
    .turn 1 .empty (.node (.closed ⟨"a:1"⟩ 1 "reset"))]

theorem underWayOnce_any_order :
    ∃ before since, underWayOnce = before ++ since ∧
      (of {} before).dispatcher.inFlight.get? 1 =
        some ⟨{ Command.create 0 (.get [1]) (.node ⟨"a:1"⟩) (.ofMillis 100) 0 with id := 1 },
          .sent ⟨"a:1"⟩ 0 none []⟩ ∧
      ∀ generation, AnyOrder {} before 1
        { Command.create 0 (.get [1]) (.node ⟨"a:1"⟩) (.ofMillis 100) 0 with id := 1 } ⟨"a:1"⟩ 0
        generation := by
  have hentry : (of {} underWayOnce).dispatcher.inFlight.get? 1 =
      some ⟨{ Command.create 0 (.get [1]) (.node ⟨"a:1"⟩) (.ofMillis 100) 0 with id := 1 },
        .sent ⟨"a:1"⟩ 0 none [1]⟩ := by decide +kernel
  exact attempts_any_order {} underWayOnce hentry

end Run

end ClusterKv

import ClusterKv.Proofs.Dispatcher.Attempts

/-! # Responses

A command succeeds only by a response to the attempt that is under way for it, and a response to
anything else changes nothing. -/

namespace ClusterKv

namespace Dispatcher

variable {m : Moment} {cause : Cause}

/-! ## Where successes come from -/

theorem Handling.success {s t : Dispatcher × Hand} (h : Handling m cause s t) {ticket : Nat}
    {reply : Reply} (hok : .resolve ticket (.ok reply) ∈ t.1.outbox) :
    .resolve ticket (.ok reply) ∈ s.1.outbox ∨
      ∃ node response command, cause = some (.node (.response node response)) ∧
        s.2 = .spent response.opaqueId.toNat command ∧ response.status = .success ∧
        ticket = command.ticket ∧ reply = command.operation.reply response := by
  cases h with
  | locate | miss | charge | advance | renumber | renumberUnused => exact .inl hok
  | disconnect | start => exact .inl (by simpa using hok)
  | wait | pause => exact .inl (by simpa using hok)
  | park =>
      left
      unfold requestRefresh at hok
      split at hok <;> simpa using hok
  | settle verdict =>
      simp only [finish_eq, emit_outbox, List.mem_cons, Effect.resolve.injEq] at hok
      rcases hok with ⟨rfl, hresult⟩ | hok
      · right
        cases verdict with
        | success inTime status =>
            exact ⟨_, _, _, rfl, rfl, status, rfl, Except.ok.inj hresult⟩
        | late | lateAttempt | abandoned | unowned | noTable | definitive | misdirected | exhausted
        | poolClosed | rejected => cases hresult
      · exact .inl hok

/-- A command never gets back to where its attempt has just ended. -/
theorem Handling.spent {s t : Dispatcher × Hand} (h : Handling m cause s t) {id : Nat}
    {command : Command} (hspent : t.2 = .spent id command) : s.2 = .spent id command := by
  cases h with
  | disconnect => exact hspent
  | locate | miss | charge | advance | renumber | renumberUnused | start | wait | park | pause
  | settle => cases hspent

theorem Handlings.spent {s t : Dispatcher × Hand} (h : Handlings m cause s t) {id : Nat}
    {command : Command} (hspent : t.2 = .spent id command) : s.2 = .spent id command := by
  induction h with
  | refl => exact hspent
  | tail _ hlast ih => exact ih (hlast.spent hspent)

theorem Handlings.success {s t : Dispatcher × Hand} (h : Handlings m cause s t) {ticket : Nat}
    {reply : Reply} (hok : .resolve ticket (.ok reply) ∈ t.1.outbox) :
    .resolve ticket (.ok reply) ∈ s.1.outbox ∨
      ∃ node response command, cause = some (.node (.response node response)) ∧
        s.2 = .spent response.opaqueId.toNat command ∧ response.status = .success ∧
        ticket = command.ticket ∧ reply = command.operation.reply response := by
  induction h with
  | refl => exact .inl hok
  | tail hfirst hlast ih =>
      rcases hlast.success hok with hold | ⟨node, response, command, hcause, hspent, hresult⟩
      · exact ih hold
      · exact .inr ⟨node, response, command, hcause, Handlings.spent hfirst hspent, hresult⟩

theorem Move.success {s t : Dispatcher × Hand} (h : Move m cause s t)
    (hcause : ∀ node response, cause ≠ some (.node (.response node response))) {ticket : Nat}
    {reply : Reply} (hok : .resolve ticket (.ok reply) ∈ t.1.outbox) :
    .resolve ticket (.ok reply) ∈ s.1.outbox := by
  cases h with
  | handle handling =>
      rcases handling.success hok with hold | ⟨node, response, -, hresponse, -⟩
      · exact hold
      · exact absurd hresponse (hcause node response)
  | draw | skip | tidy | collect | tick => exact hok
  | retire | resume | unpark | promote => simpa using hok
  | expire => simpa using hok

/-- A success in the outbox of a response comes from the attempt that it answers. -/
theorem onResponse_success (d : Dispatcher) (response : Response) {ticket : Nat} {reply : Reply}
    (hok : .resolve ticket (.ok reply) ∈ (d.onResponse m response).outbox) :
    .resolve ticket (.ok reply) ∈ d.outbox ∨
      ∃ command node partition carrier closed,
        d.inFlight.get? response.opaqueId.toNat =
          some ⟨command, .sent node partition carrier closed⟩ ∧
        response.status = .success ∧ ticket = command.ticket ∧
        reply = command.operation.reply response := by
  unfold onResponse at hok
  rcases takeSent_cases d response.opaqueId.toNat with
    ⟨command, node, partition, carrier, closed, hentry, h⟩ | ⟨-, h⟩
  · simp only [h] at hok
    have hhandle := apply_response_handlings (m := m) (d.remove response.opaqueId.toNat).1 command
      node partition response
    rcases Handlings.success hhandle hok with hold | ⟨_, other, origin, hcause, hspent, hresult⟩
    · exact .inl (by simpa using hold)
    · cases hcause
      cases hspent
      exact .inr ⟨command, node, partition, carrier, closed, hentry, hresult⟩
  · rw [h] at hok
    exact .inl hok

/-- A success in the outbox after a turn comes from the response that the turn was about. -/
theorem turn_success {d : Dispatcher} (hd : Numbered d .empty) (input : Input) {ticket : Nat}
    {reply : Reply} (hok : .resolve ticket (.ok reply) ∈ (d.turn m input).outbox) :
    .resolve ticket (.ok reply) ∈ d.outbox ∨
      ∃ sender response command node partition carrier closed,
        input = .node (.response sender response) ∧
        d.inFlight.get? response.opaqueId.toNat =
          some ⟨command, .sent node partition carrier closed⟩ ∧
        response.status = .success ∧ ticket = command.ticket ∧
        reply = command.operation.reply response := by
  by_cases hshutdown : input = .shutdown
  · left
    rw [hshutdown, turn, shutDown_eq] at hok
    simpa using hok
  · by_cases hinput : ∃ sender response, input = .node (.response sender response)
    · obtain ⟨sender, response, rfl⟩ := hinput
      have hact : .resolve ticket (.ok reply) ∈ (d.onResponse m response).outbox := by
        by_contra hnone
        exact Moves.induct (P := fun s => .resolve ticket (.ok reply) ∉ s.1.outbox)
          (promoteWaiting_moves _) (fun _ _ hmove hs hnew => hs (hmove.success (by simp) hnew))
          hnone hok
      rcases onResponse_success d response hact with
        hold | ⟨command, node, partition, carrier, closed, hentry, hresult⟩
      · exact .inl hold
      · exact .inr ⟨sender, response, command, node, partition, carrier, closed, rfl, hentry,
          hresult⟩
    · left
      by_contra hnone
      have hturn := turn_induct (m := m)
        (P := fun s => .resolve ticket (.ok reply) ∉ s.1.outbox) hd hshutdown ?_ hnone
      · exact hturn hok
      · rintro cause s t hcause hmove hs hnew
        refine hs (hmove.success ?_ hnew)
        rintro node response rfl
        rcases hcause with hcause | hcause
        · exact hinput ⟨node, response, (Option.some.inj hcause).symm⟩
        · cases hcause

end Dispatcher

namespace Run

open Dispatcher

variable {config : Config}

/-! ## Where the numbers of requests come from -/

theorem written_tried (config : Config) (events : List Event) :
    ∀ request ∈ (of config events).written, ∃ id,
      (id, request) ∈ attempts (of config events).journal := by
  refine induct (P := fun r => ∀ request ∈ r.written, ∃ id, (id, request) ∈ attempts r.journal)
    (by simp) ?_ events
  intro r event h request hrequest
  have hgrow : ∀ id, (id, request) ∈ attempts r.journal →
      (id, request) ∈ attempts (r.step config event).journal :=
    fun id hid => ((journal_step config r event).filterMap _).subset hid
  cases event with
  | submit operation target timeout created =>
      have hold : request ∈ r.written := by
        simp only [step] at hrequest
        split at hrequest <;> exact hrequest
      obtain ⟨id, hid⟩ := h request hold
      exact ⟨id, hgrow id hid⟩
  | turn now table input =>
      have hold : request ∈ r.written := by
        simp only [step] at hrequest
        split at hrequest <;> exact hrequest
      obtain ⟨id, hid⟩ := h request hold
      exact ⟨id, hgrow id hid⟩
  | write place =>
      obtain ⟨written, hwrite⟩ := step_write config r place
      have hjournal : (r.step config (.write place)).journal = r.journal := by rw [hwrite]
      rw [hjournal]
      simp only [step] at hrequest
      split at hrequest
      · next id node new deadline hplace =>
          rcases List.mem_append.mp hrequest with hold | hnew
          · exact h request hold
          · obtain rfl := List.mem_singleton.mp hnew
            exact ⟨id, List.mem_filterMap.mpr ⟨_, List.mem_of_getElem? hplace, rfl⟩⟩
      · exact h request hrequest

/-- Every success in the journal comes from a response to the attempt that was under way for the
command. -/
theorem journal_success (config : Config) (events : List Event) {ticket : Nat} {reply : Reply}
    (hok : .resolve ticket (.ok reply) ∈ (of config events).journal) :
    ∃ before now table sender response after command node partition carrier closed,
      events = before ++ .turn now table (.node (.response sender response)) :: after ∧
      (of config before).dispatcher.inFlight.get? response.opaqueId.toNat =
        some ⟨command, .sent node partition carrier closed⟩ ∧
      response.status = .success ∧ ticket = command.ticket ∧
      reply = command.operation.reply response := by
  induction events using List.reverseRecOn with
  | nil => simp at hok
  | append_singleton events event ih =>
      have hearlier : .resolve ticket (.ok reply) ∈ (of config events).journal →
          ∃ before now table sender response after command node partition carrier closed,
            events ++ [event] =
              before ++ .turn now table (.node (.response sender response)) :: after ∧
            (of config before).dispatcher.inFlight.get? response.opaqueId.toNat =
              some ⟨command, .sent node partition carrier closed⟩ ∧
            response.status = .success ∧ ticket = command.ticket ∧
            reply = command.operation.reply response := by
        intro hold
        obtain ⟨before, now, table, sender, response, after, command, node, partition, carrier,
          closed, hevents, hrest⟩ := ih hold
        exact ⟨before, now, table, sender, response, after ++ [event], command, node, partition,
          carrier, closed, by simp [hevents], hrest⟩
      rw [of_concat] at hok
      have h := sound config events
      rcases step_cases config (of config events) event with
        ⟨_, hstep⟩ | ⟨_, hstep⟩ | ⟨now, table, input, rfl, -, hstep⟩
      · rw [hstep] at hok
        exact hearlier hok
      · rw [hstep] at hok
        exact hearlier hok
      · rw [hstep] at hok
        rcases List.mem_append.mp hok with hold | hnew
        · exact hearlier hold
        · rcases turn_success h.numbered input (List.mem_reverse.mp hnew) with hold |
            ⟨sender, response, command, node, partition, carrier, closed, rfl, hrest⟩
          · simp [h.done] at hold
          · exact ⟨events, now, table, sender, response, [], command, node, partition, carrier,
              closed, rfl, hrest⟩

/-! ## Responses to nothing -/

/-- A response changes nothing unless it answers an attempt that is under way. -/
theorem response_ignored (config : Config) (events : List Event) {now : Instant}
    {table : Topology} {sender : NodeId} {response : Response}
    (hnone : ∀ command node partition carrier closed,
      (of config events).dispatcher.inFlight.get? response.opaqueId.toNat ≠
        some ⟨command, .sent node partition carrier closed⟩) :
    (of config events).step config (.turn now table (.node (.response sender response))) =
      of config events := by
  apply step_turn_self (sound config events).done
  have htake : (of config events).dispatcher.takeSent response.opaqueId.toNat =
      ((of config events).dispatcher, none) := by
    rcases takeSent_cases (of config events).dispatcher response.opaqueId.toNat with
      ⟨command, node, partition, carrier, closed, hentry, -⟩ | ⟨-, h⟩
    · exact absurd hentry (hnone _ _ _ _ _)
    · exact h
  simp only [Dispatcher.turn, onNode, onResponse, htake]
  exact promoteWaiting_of_settled (settled config events)

/-! ## The result -/

/-- Nodes answer only requests that they were sent, any number of times and as late as they like. -/
def Honest (config : Config) (events : List Event) : Prop :=
  ∀ before now table sender response after,
    events = before ++ .turn now table (.node (.response sender response)) :: after →
      ∃ request ∈ (of config before).written, request.opaqueId = response.opaqueId

/-- A response answers the request of the attempt that is under way for a command: the request
carries its operation and its present number, it was handed over, and it is the only one that the
response can answer. -/
def Answers (r : Run) (origin : Command) (response : Response) : Prop :=
  ∃ command node partition carrier closed,
    r.dispatcher.inFlight.get? command.id =
      some ⟨command, .sent node partition carrier closed⟩ ∧
    origin.Continues command ∧ response.opaqueId = command.id.toUInt64 ∧
    ⟨command.id.toUInt64, partition, origin.operation⟩ ∈ r.written ∧
    ∀ request ∈ r.written, request.opaqueId = response.opaqueId →
      request = ⟨command.id.toUInt64, partition, origin.operation⟩

/-- No command is taken for another. -/
structure Matched (config : Config) (events : List Event) : Prop where
  /-- A command succeeds by a response to its own request, and with the reply that it means. -/
  successes : ∀ origin ∈ (of config events).submitted, ∀ reply,
    .ok reply ∈ (of config events).resolved origin.ticket →
      ∃ before now table sender response after,
        events = before ++ .turn now table (.node (.response sender response)) :: after ∧
        (of config before).Answers origin response ∧ response.status = .success ∧
        reply = origin.operation.reply response
  /-- A response to anything but an attempt under way changes nothing. -/
  others : ∀ now table sender response,
    (∀ command node partition carrier closed,
      (of config events).dispatcher.inFlight.get? response.opaqueId.toNat ≠
        some ⟨command, .sent node partition carrier closed⟩) →
    (of config events).step config (.turn now table (.node (.response sender response))) =
      of config events

/-- A response to the request of an attempt under way answers no other request. -/
theorem answers_of_honest {config : Config} {events : List Event}
    (lasting : (of config events).dispatcher.nextId ≤ UInt64.size) {command origin : Command}
    {node : NodeId} {partition : UInt16} {carrier : Option Nat} {closed : List Nat}
    {response : Response}
    (hentry : (of config events).dispatcher.inFlight.get? response.opaqueId.toNat =
      some ⟨command, .sent node partition carrier closed⟩)
    (hsame : origin.Continues command)
    (hanswer : ∃ request ∈ (of config events).written,
      request.opaqueId = response.opaqueId) :
    (of config events).Answers origin response := by
  have h := sound config events
  have htried := tried config events
  have hid : command.id = response.opaqueId.toNat := h.numbered.keyed _ _ hentry
  have hopaque : response.opaqueId = command.id.toUInt64 := by
    rw [hid]
    exact UInt64.ofNat_toNat.symm
  have hsent := htried.recorded _ _ _ _ _ _ hentry
  rw [← hid, hsame.operation] at hsent
  have hunique : ∀ request ∈ (of config events).written,
      request.opaqueId = response.opaqueId →
        request = ⟨command.id.toUInt64, partition, origin.operation⟩ := by
    intro request hrequest hecho
    obtain ⟨id, hattempt⟩ := written_tried config events request hrequest
    rw [← tried_of_done h.done] at hattempt
    have hissued := htried.issued _ hattempt
    have hlabel := htried.labelled _ hattempt
    simp only at hissued hlabel
    have hnumber : id = command.id := by
      rw [hid, ← hecho, hlabel]
      exact (UInt64.toNat_ofNat_of_lt' (Nat.lt_of_lt_of_le hissued lasting)).symm
    rw [hnumber] at hattempt
    exact congrArg Prod.snd (List.inj_on_of_nodup_map htried.once hattempt hsent rfl)
  obtain ⟨request, hrequest, hecho⟩ := hanswer
  refine ⟨command, node, partition, carrier, closed, ?_, hsame, hopaque, ?_, hunique⟩
  · rw [hid]
    exact hentry
  · rw [← hunique request hrequest hecho]
    exact hrequest

/-- As long as the numbers of attempts fit the requests, commands are kept apart. -/
theorem responses_matched (config : Config) (events : List Event) (honest : Honest config events)
    (lasting : (of config events).dispatcher.nextId ≤ UInt64.size) : Matched config events := by
  have h := sound config events
  refine ⟨?_, ?_⟩
  · intro origin horigin reply hok
    obtain ⟨before, now, table, sender, response, after, command, node, partition, carrier, closed,
      hevents, hentry, hstatus, hticket, hreply⟩ :=
        journal_success config events (mem_resolved.mp hok)
    obtain ⟨other, hother, hsame⟩ := (sound config before).origins.underWay _ _ hentry
    have hmem : other ∈ (of config events).submitted := by
      rw [hevents, of_append]
      exact (submitted_foldl config _ _).subset hother
    obtain rfl := h.eq_of_ticket hmem horigin (hsame.ticket.symm.trans hticket.symm)
    have hnext : (of config before).dispatcher.nextId ≤ UInt64.size := by
      rw [hevents] at lasting
      exact Nat.le_trans (nextId_append config before _) lasting
    refine ⟨before, now, table, sender, response, after, hevents, ?_, hstatus, ?_⟩
    · exact answers_of_honest hnext hentry hsame
        (honest before now table sender response after hevents)
    · rw [hreply, hsame.operation]
  · intro now table sender response hnone
    exact response_ignored config events hnone

/-- A command for a node that answers it before the acknowledgement, and once again. -/
def answeredTwice : List Event :=
  [.submit (.get [1]) (.node ⟨"a:1"⟩) (.ofMillis 100) 0, .turn 0 .empty .accept, .write 0,
    .turn 1 .empty (.node (.response ⟨"a:1"⟩ (.success 1 5))),
    .turn 2 .empty (.task (.sent 1 1)),
    .turn 3 .empty (.node (.response ⟨"a:1"⟩ (.success 1 5)))]

theorem answeredTwice_honest : Honest {} answeredTwice := by
  have hfirst : ⟨1, 0, .get [1]⟩ ∈ (of {} (answeredTwice.take 3)).written := by decide +kernel
  have hsecond : ⟨1, 0, .get [1]⟩ ∈ (of {} (answeredTwice.take 5)).written := by decide +kernel
  intro before now table sender response after hevents
  rcases before with _ | ⟨e₁, _ | ⟨e₂, _ | ⟨e₃, _ | ⟨e₄, _ | ⟨e₅, _ | ⟨e₆, before⟩⟩⟩⟩⟩⟩
  all_goals simp [answeredTwice] at hevents
  · obtain ⟨rfl, rfl, rfl, ⟨-, -, -, rfl⟩, -⟩ := hevents
    exact ⟨_, hfirst, rfl⟩
  · obtain ⟨rfl, rfl, rfl, rfl, rfl, ⟨-, -, -, rfl⟩, -⟩ := hevents
    exact ⟨_, hsecond, rfl⟩

theorem answeredTwice_matched :
    Honest {} answeredTwice ∧ (of {} answeredTwice).dispatcher.nextId ≤ UInt64.size ∧
      .ok (.value [] 0 5) ∈ (of {} answeredTwice).resolved 0 ∧ Matched {} answeredTwice := by
  have hnext : (of {} answeredTwice).dispatcher.nextId ≤ UInt64.size := by decide +kernel
  refine ⟨answeredTwice_honest, hnext, ?_, responses_matched {} _ answeredTwice_honest hnext⟩
  exact List.mem_singleton.mpr rfl

end Run

end ClusterKv

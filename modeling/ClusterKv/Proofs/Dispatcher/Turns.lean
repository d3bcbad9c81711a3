import ClusterKv.Proofs.Dispatcher.Numbering

/-! # Turns are made of moves

A turn first notes what its input says of attempts under way, in their entries. Everything after
that is moves. A shutdown is no such turn: it ends everything at once. -/

namespace ClusterKv.Dispatcher

variable {m : Moment} {input : Input} {cause : Cause}

/-! ## Notes in entries -/

/-- What is known of the carrier of an attempt, and of connections that have died, after an
input. -/
def heard (input : Input) (id : Nat) (node : NodeId) (carrier : Option Nat) (closed : List Nat) :
    Option Nat × List Nat :=
  match input with
  | .task (.sent other generation) => (if other = id then some generation else carrier, closed)
  | .node (.closed other generation _) =>
    (carrier, if carrier = none ∧ node = other then closed ++ [generation] else closed)
  | _ => (carrier, closed)

theorem heard_carrier {id : Nat} {node : NodeId} {carrier : Option Nat} {closed : List Nat}
    {generation : Nat} (h : (heard input id node carrier closed).1 = some generation) :
    carrier = some generation ∨ input = .task (.sent id generation) := by
  unfold heard at h
  split at h
  · next other heardOf =>
      split at h
      · next hother =>
          obtain rfl := Option.some.inj h
          exact .inr (by rw [hother])
      · exact .inl h
  · exact .inl h
  · exact .inl h

theorem heard_closed {id : Nat} {node : NodeId} {carrier : Option Nat} {closed : List Nat}
    {generation : Nat} (h : generation ∈ (heard input id node carrier closed).2) :
    generation ∈ closed ∨ ∃ reason, input = .node (.closed node generation reason) := by
  unfold heard at h
  split at h
  · exact .inl h
  · next other heardOf reason =>
      simp only at h
      split at h
      · next hother =>
          rcases List.mem_append.mp h with hold | hnew
          · exact .inl hold
          · obtain rfl := List.mem_singleton.mp hnew
            exact .inr ⟨reason, by rw [hother.2]⟩
      · exact .inl h
  · exact .inl h

/-- An entry with what an input says of its attempt, if there is one under way. -/
def markEntry (input : Input) (id : Nat) (entry : Entry) : Entry :=
  match entry.stage with
  | .sent node partition carrier closed =>
    { entry with
      stage := .sent node partition (heard input id node carrier closed).1
        (heard input id node carrier closed).2 }
  | _ => entry

/-- The dispatcher with what an input says noted in the entries. -/
def mark (d : Dispatcher) (input : Input) : Dispatcher :=
  { d with inFlight := d.inFlight.map fun e => (e.1, markEntry input e.1 e.2) }

theorem markEntry_command (input : Input) (id : Nat) (entry : Entry) :
    (markEntry input id entry).command = entry.command := by
  unfold markEntry
  split <;> rfl

theorem markEntry_of_not_sent {id : Nat} {entry : Entry}
    (h : ∀ node partition carrier closed, entry.stage ≠ .sent node partition carrier closed) :
    markEntry input id entry = entry := by
  unfold markEntry
  split
  · next hstage => exact absurd hstage (h _ _ _ _)
  · rfl

theorem mark_get? (d : Dispatcher) (input : Input) (id : Nat) :
    (d.mark input).inFlight.get? id = (d.inFlight.get? id).map (markEntry input id) :=
  Assoc.get?_map_values d.inFlight (fun id => markEntry input id) id

theorem mark_keys (d : Dispatcher) (input : Input) :
    (d.mark input).inFlight.keys = d.inFlight.keys :=
  Assoc.keys_map_values d.inFlight (fun id => markEntry input id)

theorem mark_numbered {d : Dispatcher} (h : Numbered d .empty) (input : Input) :
    Numbered (d.mark input) .empty := by
  have hget : ∀ id entry, (d.mark input).inFlight.get? id = some entry →
      ∃ old, d.inFlight.get? id = some old ∧ markEntry input id old = entry := by
    intro id entry hentry
    rw [mark_get?] at hentry
    exact Option.map_eq_some_iff.mp hentry
  refine ⟨?_, h.queues, ?_, ?_, ?_, h.parked_issued, h.parked_once, by simp [Hand.number?]⟩
  · rw [mark_keys]
    exact h.distinct
  · intro id entry hentry
    obtain ⟨old, hold, rfl⟩ := hget id entry hentry
    rw [markEntry_command]
    exact h.keyed id old hold
  · intro id entry hentry
    obtain ⟨old, hold, -⟩ := hget id entry hentry
    exact h.issued id old hold
  · intro id hid entry hentry
    obtain ⟨old, hold, rfl⟩ := hget id entry hentry
    have hstage : old.stage = .awaitingTopology := h.parked id hid old hold
    rw [markEntry_of_not_sent (by simp [hstage])]
    exact hstage

/-- Most inputs say nothing of attempts that is to be noted. -/
theorem mark_eq_self (d : Dispatcher)
    (hsent : ∀ id generation, input ≠ .task (.sent id generation))
    (hclosed : ∀ node generation reason, input ≠ .node (.closed node generation reason)) :
    d.mark input = d := by
  have hheard : ∀ id node carrier closed,
      heard input id node carrier closed = (carrier, closed) := by
    intro id node carrier closed
    unfold heard
    split
    · next other generation => exact absurd rfl (hsent other generation)
    · next other generation reason => exact absurd rfl (hclosed other generation reason)
    · rfl
  have hentry : ∀ id entry, markEntry input id entry = entry := by
    intro id entry
    obtain ⟨command, stage⟩ := entry
    cases stage with
    | sent node partition carrier closed => simp only [markEntry, hheard]
    | waiting | awaitingTopology | backoff => rfl
  simp [mark, hentry]

/-! ## Waiting commands -/

/-- One round of a queue: it ends, or sends its first command off, or drops a number that is not
waiting any more. -/
theorem promoteNode_cases (m : Moment) (node : NodeId) (fuel : Nat) (d : Dispatcher) :
    (d.hasCapacity m node = false ∧ d.promoteNode m node (fuel + 1) = d) ∨
    (d.waitingFor node = [] ∧ d.promoteNode m node (fuel + 1) = d) ∨
    (d.hasCapacity m node = true ∧ ∃ id rest, d.waitingFor node = id :: rest ∧
      ((∃ command other partition,
          d.inFlight.get? id = some ⟨command, .waiting other partition⟩ ∧
          d.promoteNode m node (fuel + 1) =
            promoteNode m node fuel
              (({ d with waiting := d.waiting.put node rest }.remove id).1.dispatch m command
                ⟨partition, node⟩)) ∨
        (∀ command other partition,
          d.inFlight.get? id ≠ some ⟨command, .waiting other partition⟩) ∧
          d.promoteNode m node (fuel + 1) =
            promoteNode m node fuel { d with waiting := d.waiting.put node rest })) := by
  cases hroom : d.hasCapacity m node with
  | false => exact .inl ⟨rfl, by simp [promoteNode, hroom]⟩
  | true =>
      right
      cases hqueue : d.waitingFor node with
      | nil => exact .inl ⟨rfl, by simp [promoteNode, hroom, hqueue]⟩
      | cons id rest =>
          refine .inr ⟨rfl, id, rest, rfl, ?_⟩
          cases hentry : d.inFlight.get? id with
          | none => exact .inr ⟨by simp, by simp [promoteNode, hroom, hqueue, hentry]⟩
          | some entry =>
              obtain ⟨command, stage⟩ := entry
              cases stage with
              | waiting other partition =>
                  exact .inl ⟨command, other, partition, rfl,
                    by simp [promoteNode, hroom, hqueue, hentry]⟩
              | sent | awaitingTopology | backoff =>
                  exact .inr ⟨by simp, by simp [promoteNode, hroom, hqueue, hentry]⟩

/-- The first command of a queue is sent off. -/
theorem promoted_moves {d : Dispatcher} {node other : NodeId} {id : Nat} {rest : List Nat}
    {command : Command} {partition : UInt16} (hqueue : d.waitingFor node = id :: rest)
    (hroom : d.hasCapacity m node = true)
    (hentry : d.inFlight.get? id = some ⟨command, .waiting other partition⟩) :
    Moves m none (d, .empty)
      (({ d with waiting := d.waiting.put node rest }.remove id).1.dispatch m command
        ⟨partition, node⟩, .empty) := by
  refine .head (.promote hqueue hroom hentry) (Handlings.moves ?_)
  apply dispatch_handlings
  have hsent := remove_sentPerNode_of_waiting { d with waiting := d.waiting.put node rest } hentry
  rw [← hroom]
  exact hasCapacity_congr hsent m node

theorem promoteNode_moves (node : NodeId) (fuel : Nat) (d : Dispatcher) :
    Moves m none (d, .empty) (d.promoteNode m node fuel, .empty) := by
  induction fuel generalizing d with
  | zero => exact .refl
  | succ fuel ih =>
      rcases promoteNode_cases m node fuel d with ⟨-, h⟩ | ⟨-, h⟩ |
        ⟨hroom, id, rest, hqueue, ⟨command, other, partition, hentry, h⟩ | ⟨hgone, h⟩⟩
      · rw [h]
      · rw [h]
      · rw [h]
        exact (promoted_moves hqueue hroom hentry).trans (ih _)
      · rw [h]
        exact .head (.skip hqueue hgone) (ih _)

theorem promoteNodes_moves (nodes : List NodeId) (d : Dispatcher) :
    Moves m none (d, .empty)
      (nodes.foldl (fun d node => d.promoteNode m node (d.waitingFor node).length) d, .empty) := by
  induction nodes generalizing d with
  | nil => exact .refl
  | cons node nodes ih => exact (promoteNode_moves node _ d).trans (ih _)

theorem promoteWaiting_moves (d : Dispatcher) :
    Moves m none (d, .empty) (d.promoteWaiting m, .empty) := by
  unfold promoteWaiting
  split
  · exact .refl
  · exact (promoteNodes_moves _ d).tail .tidy

/-! ## Inputs -/

theorem accept_moves (d : Dispatcher) :
    Moves m (some .accept) (d, .empty) (d.accept m, .empty) := by
  unfold accept
  split
  · exact .refl
  · next command rest hqueued => exact .head (.draw hqueued) (route_handlings _ _).moves

theorem fireTimer_moves (d : Dispatcher) (id : Nat) :
    Moves m (some .timers) (d, .empty) (d.fireTimer m id, .empty) := by
  unfold fireTimer
  cases hentry : d.inFlight.get? id with
  | none => exact .refl
  | some entry =>
      simp only
      split
      · next late => exact .single (.expire hentry late)
      · obtain ⟨command, stage⟩ := entry
        cases stage with
        | backoff due =>
            simp only
            split
            · next reached => exact .head (.resume hentry reached) (route_handlings _ _).moves
            · exact .refl
        | sent | waiting | awaitingTopology => exact .refl

theorem fireDue_moves (fuel : Nat) (d : Dispatcher) :
    Moves m (some .timers) (d, .empty) (d.fireDue m fuel, .empty) := by
  induction fuel generalizing d with
  | zero => exact .refl
  | succ fuel ih =>
      unfold fireDue
      split
      · next due id rest hfirst =>
          split
          · next reached => exact .head (.tick hfirst reached) ((fireTimer_moves _ id).trans (ih _))
          · exact .refl
      · exact .refl

theorem onResponse_moves (d : Dispatcher) (node : NodeId) (response : Response) :
    Moves m (some (.node (.response node response))) (d, .empty)
      (d.onResponse m response, .empty) := by
  unfold onResponse
  rcases takeSent_cases d response.opaqueId.toNat with
    ⟨command, other, partition, carrier, closed, hentry, h⟩ | ⟨-, h⟩
  · rw [h]
    exact .head (.retire hentry .answered) (apply_response_handlings _ _ node _ _).moves
  · rw [h]

theorem onSendFailed_moves (d : Dispatcher) (id : Nat) (node : NodeId) (generation : Option Nat)
    (error : ConnectionError) :
    Moves m (some (.task (.sendFailed id node generation error))) (d, .empty)
      (d.onSendFailed m id node generation error, .empty) := by
  unfold onSendFailed
  rcases takeSent_cases d id with ⟨command, other, partition, carrier, closed, hentry, h⟩ | ⟨-, h⟩
  · rw [h]
    refine .head (.retire hentry .unsent) (Handlings.moves ?_)
    simp only
    have hdrop : Handlings m (some (.task (.sendFailed id node generation error)))
        ((d.remove id).1, .spent id command)
        (generation.elim (d.remove id).1
          fun generation => (d.remove id).1.emit (.disconnect node generation),
          .spent id command) := by
      cases generation with
      | none => exact .refl
      | some generation => exact .single .disconnect
    refine hdrop.trans ?_
    split
    · exact .single (.settle .poolClosed)
    · exact .single (.settle .rejected)
    · exact apply_fault_handlings _ _ .unsent _
  · rw [h]

theorem onAbandoned_moves (d : Dispatcher) (id : Nat) :
    Moves m (some (.task (.abandoned id))) (d, .empty) (d.onTask m (.abandoned id), .empty) := by
  rcases takeSent_cases d id with ⟨command, node, partition, carrier, closed, hentry, h⟩ | ⟨-, h⟩
  · simp only [onTask, h]
    exact .head (.retire hentry .abandoned) (Handlings.moves (.single (.settle .abandoned)))
  · simp only [onTask, h]
    exact .refl

/-! ## Inputs that are noted -/

theorem mark_sent_of_sent {d : Dispatcher} (hd : Numbered d .empty) {id : Nat} {command : Command}
    {node : NodeId} {partition : UInt16} {carrier : Option Nat} {closed : List Nat}
    (h : d.inFlight.get? id = some ⟨command, .sent node partition carrier closed⟩)
    (generation : Nat) :
    d.mark (.task (.sent id generation)) =
      { d with
        inFlight := d.inFlight.put id
          ⟨command, .sent node partition (some generation) closed⟩ } := by
  unfold mark
  rw [Assoc.put_eq_map hd.distinct _ h]
  congr 1
  apply List.map_congr_left
  intro e he
  by_cases hid : e.1 = id
  · have hget := Assoc.get?_of_mem hd.distinct (show (e.1, e.2) ∈ d.inFlight from he)
    rw [hid, h] at hget
    rw [← Option.some.inj hget]
    simp [markEntry, heard, hid]
  · have hid' : ¬id = e.1 := fun h => hid h.symm
    simp only [hid, ite_false, Prod.mk.injEq, true_and]
    unfold markEntry
    split
    · next hstage => simp [heard, hid', ← hstage]
    · rfl

theorem mark_sent_of_not_sent {d : Dispatcher} (hd : Numbered d .empty) {id : Nat}
    (h : ∀ command node partition carrier closed,
      d.inFlight.get? id ≠ some ⟨command, .sent node partition carrier closed⟩)
    (generation : Nat) : d.mark (.task (.sent id generation)) = d := by
  have hentries : (d.inFlight.map fun e =>
      (e.1, markEntry (.task (.sent id generation)) e.1 e.2)) = d.inFlight := by
    refine (List.map_congr_left ?_).trans (List.map_id _)
    intro e he
    obtain ⟨key, command, stage⟩ := e
    cases stage with
    | sent node partition carrier closed =>
        have hkey : ¬id = key := by
          rintro rfl
          exact h _ _ _ _ _ (Assoc.get?_of_mem hd.distinct he)
        simp [markEntry, heard, hkey]
    | waiting | awaitingTopology | backoff => rfl
  simp only [mark, hentries]

/-- The attempt whose carrier has died is over when that becomes known. -/
theorem onSent_moves {d : Dispatcher} (hd : Numbered d .empty) (id generation : Nat) :
    Moves m (some (.task (.sent id generation))) (d.mark (.task (.sent id generation)), .empty)
      (d.onSent m id generation, .empty) := by
  rcases takeSent_cases d id with ⟨command, node, partition, carrier, closed, h, -⟩ | ⟨hnone, -⟩
  · rw [mark_sent_of_sent hd h]
    simp only [onSent, h]
    split
    · next hdead =>
        have hentry := Assoc.get?_put_self d.inFlight id
          (⟨command, .sent node partition (some generation) closed⟩ : Entry)
        refine .head (.retire hentry (.lost (by simpa using hdead))) ?_
        exact (apply_fault_handlings _ _ .lost _).moves
    · exact .refl
  · rw [mark_sent_of_not_sent hd hnone]
    unfold onSent
    split
    · next command node partition carrier closed h => exact absurd h (hnone _ _ _ _ _)
    · exact .refl

theorem markEntry_closed (node : NodeId) (generation : Nat) (reason : String) (id : Nat)
    (entry : Entry) :
    markEntry (.node (.closed node generation reason)) id entry =
      noteClosed node generation entry := by
  obtain ⟨command, stage⟩ := entry
  cases stage with
  | sent other partition carrier closed =>
      cases carrier with
      | none =>
          simp only [markEntry, heard, noteClosed, true_and]
          split <;> rfl
      | some carrier => simp [markEntry, heard, noteClosed]
  | waiting | awaitingTopology | backoff => rfl

/-- The entry of an attempt whose carrier is known is not marked when a connection dies. -/
theorem carriedBy_markEntry (node : NodeId) (generation : Nat) (reason : String) (id : Nat)
    (entry : Entry) :
    carriedBy node generation (markEntry (.node (.closed node generation reason)) id entry) =
      carriedBy node generation entry := by
  obtain ⟨command, stage⟩ := entry
  cases stage with
  | sent other partition carrier closed => cases carrier <;> rfl
  | waiting | awaitingTopology | backoff => rfl

/-- Ends an attempt that went out on a dead connection. -/
def endLost (m : Moment) (reason : String) (d : Dispatcher) (id : Nat) : Dispatcher :=
  match d.takeSent id with
  | (d, none) => d
  | (d, some attempted) => d.apply m attempted.command (.connectionFault reason)

theorem onClosed_eq (d : Dispatcher) (node : NodeId) (generation : Nat) (reason : String) :
    d.onClosed m node generation reason =
      ((d.inFlight.filter fun e => carriedBy node generation e.2).map (·.1)).foldl
        (endLost m reason) (d.mark (.node (.closed node generation reason))) := by
  simp only [mark, markEntry_closed]
  rfl

theorem endLost_of_sent {d : Dispatcher} {id : Nat} {command : Command} {node : NodeId}
    {partition : UInt16} {carrier : Option Nat} {closed : List Nat}
    (h : d.inFlight.get? id = some ⟨command, .sent node partition carrier closed⟩)
    (reason : String) :
    endLost m reason d id = (d.remove id).1.apply m command (.connectionFault reason) := by
  simp only [endLost, takeSent_of_sent d h]

theorem endLost_of_not_sent {d : Dispatcher} {id : Nat}
    (h : ∀ command node partition carrier closed,
      d.inFlight.get? id ≠ some ⟨command, .sent node partition carrier closed⟩)
    (reason : String) : endLost m reason d id = d := by
  rcases takeSent_cases d id with ⟨_, _, _, _, _, hentry, -⟩ | ⟨-, hnone⟩
  · exact absurd hentry (h _ _ _ _ _)
  · simp only [endLost, hnone]

/-- An attempt that is ended is gone, and others are as before. -/
theorem endLost_get? {d : Dispatcher} (id : Nat) (reason : String) {other : Nat}
    (hissued : other < d.nextId) :
    other < (endLost m reason d id).nextId ∧
      ((endLost m reason d id).inFlight.get? other = d.inFlight.get? other ∨
        other = id ∧ (endLost m reason d id).inFlight.get? other = none) := by
  rcases takeSent_cases d id with ⟨command, node, _, _, _, hentry, -⟩ | ⟨hnone, -⟩
  · rw [endLost_of_sent hentry]
    have hapart : Apart other ((d.remove id).1, .spent id command) :=
      ⟨by simpa using hissued, by simp [Hand.number?]⟩
    have happly := apply_fault_handlings (m := m) (d.remove id).1 command
      (.closed : Setback (some (.node (.closed node 0 reason))) id) reason
    obtain ⟨⟨hissued, -⟩, hget, -⟩ := Handlings.frame happly hapart
    refine ⟨hissued, ?_⟩
    rw [hget, remove_inFlight]
    by_cases hother : other = id
    · exact .inr ⟨hother, by rw [hother, Assoc.get?_erase_self]⟩
    · exact .inl (Assoc.get?_erase_of_ne _ hother)
  · rw [endLost_of_not_sent hnone]
    exact ⟨hissued, .inl rfl⟩

/-- Some numbers are those of attempts that went out on a connection, if they are in flight. -/
def Lost (d : Dispatcher) (node : NodeId) (generation : Nat) (ids : List Nat) : Prop :=
  ∀ id ∈ ids, id < d.nextId ∧
    ∀ entry, d.inFlight.get? id = some entry → carriedBy node generation entry

theorem Lost.endLost {d : Dispatcher} {node : NodeId} {generation : Nat} {ids : List Nat}
    (h : Lost d node generation ids) (id : Nat) (reason : String) :
    Lost (endLost m reason d id) node generation ids := by
  intro other hother
  obtain ⟨hissued, hcarried⟩ := h other hother
  obtain ⟨hissued', hsame | ⟨-, hgone⟩⟩ := endLost_get? (m := m) id reason hissued
  · exact ⟨hissued', by rw [hsame]; exact hcarried⟩
  · exact ⟨hissued', by simp [hgone]⟩

theorem endLost_move {d : Dispatcher} {node : NodeId} {generation : Nat} {id : Nat}
    (reason : String) (h : ∀ entry, d.inFlight.get? id = some entry →
      carriedBy node generation entry) :
    Moves m (some (.node (.closed node generation reason))) (d, .empty)
      (endLost m reason d id, .empty) := by
  rcases takeSent_cases d id with ⟨command, _, _, _, _, hentry, -⟩ | ⟨hnone, -⟩
  · rw [endLost_of_sent hentry]
    exact .head (.retire hentry (.closed (h _ hentry)))
      (apply_fault_handlings _ _ .closed _).moves
  · rw [endLost_of_not_sent hnone]

theorem endLost_moves (node : NodeId) (generation : Nat) (reason : String) (lost : List Nat)
    (d : Dispatcher) (hlost : Lost d node generation lost) :
    Moves m (some (.node (.closed node generation reason))) (d, .empty)
      (lost.foldl (endLost m reason) d, .empty) := by
  induction lost generalizing d with
  | nil => exact .refl
  | cons id rest ih =>
      have hrest : Lost d node generation rest :=
        fun other hother => hlost other (List.mem_cons_of_mem _ hother)
      exact (endLost_move reason (hlost id (List.mem_cons_self ..)).2).trans
        (ih _ (hrest.endLost id reason))

/-- The entries of attempts that went out on a connection are told before anything is noted. -/
theorem lost_onClosed {d : Dispatcher} (hd : Numbered d .empty) (node : NodeId) (generation : Nat)
    (reason : String) :
    Lost (d.mark (.node (.closed node generation reason))) node generation
      ((d.inFlight.filter fun e => carriedBy node generation e.2).map (·.1)) := by
  intro id hid
  obtain ⟨⟨key, entry⟩, hmem, rfl⟩ := List.mem_map.mp hid
  obtain ⟨hentry, hcarried⟩ := List.mem_filter.mp hmem
  have hget := Assoc.get?_of_mem hd.distinct hentry
  refine ⟨hd.issued key entry hget, ?_⟩
  intro marked hmarked
  rw [mark_get?, hget] at hmarked
  obtain rfl := Option.some.inj hmarked
  rw [carriedBy_markEntry]
  exact hcarried

theorem onClosed_moves {d : Dispatcher} (hd : Numbered d .empty) (node : NodeId) (generation : Nat)
    (reason : String) :
    Moves m (some (.node (.closed node generation reason)))
      (d.mark (.node (.closed node generation reason)), .empty)
      (d.onClosed m node generation reason, .empty) := by
  rw [onClosed_eq]
  exact endLost_moves node generation reason _ _ (lost_onClosed hd node generation reason)

/-! ## Refreshes -/

/-- Sets a parked command going, or ends it. -/
def callUp (m : Moment) (result : Except TopologyError Unit) (d : Dispatcher) (id : Nat) :
    Dispatcher :=
  match d.remove id with
  | (d, none) => d
  | (d, some entry) =>
    match result with
    | .ok () =>
      if entry.command.retries > 1 then d.backOff m entry.command
      else d.route m entry.command
    | .error error => d.finish entry.command (.error error.toError)

theorem onRefreshed_eq (d : Dispatcher) (result : Except TopologyError Unit) :
    d.onRefreshed m result =
      d.parked.foldl (callUp m result) { d with refreshing := false, parked := [] } := rfl

theorem callUp_handlings {d : Dispatcher} {id : Nat} {entry : Entry}
    (h : d.inFlight.get? id = some entry) (result : Except TopologyError Unit) :
    Handlings m (some (.task (.refreshed result))) ((d.remove id).1, .held entry.command)
      (callUp m result d id, .empty) := by
  have hremove : d.remove id = ((d.remove id).1, some entry) := by
    rw [← h, ← remove_snd]
  unfold callUp
  rw [hremove]
  cases result with
  | error error => exact .single (.settle .noTable)
  | ok =>
      simp only
      split
      · exact backOff_handlings _ _
      · exact route_handlings _ _

/-- Some numbers are those of commands that have been parked, if they are in flight. -/
def Awaiting (d : Dispatcher) (ids : List Nat) : Prop :=
  ∀ id ∈ ids, id < d.nextId ∧ id ∉ d.parked ∧
    ∀ entry, d.inFlight.get? id = some entry →
      entry.stage = .awaitingTopology ∧ entry.command.id = id

theorem callUp_of_none {d : Dispatcher} {id : Nat} (h : d.inFlight.get? id = none)
    (result : Except TopologyError Unit) : callUp m result d id = d := by
  unfold callUp
  rw [remove_of_none d h]

/-- Calling up one number leaves the others as they are. -/
theorem Awaiting.callUp {d : Dispatcher} {id : Nat} {ids : List Nat}
    (h : Awaiting d (id :: ids)) (hid : id ∉ ids) (result : Except TopologyError Unit) :
    Awaiting (callUp m result d id) ids := by
  have hrest : Awaiting d ids := fun other hother => h other (List.mem_cons_of_mem _ hother)
  cases hentry : d.inFlight.get? id with
  | none =>
      rw [callUp_of_none hentry]
      exact hrest
  | some entry =>
      have hnumber : entry.command.id = id := ((h id (List.mem_cons_self ..)).2.2 _ hentry).2
      intro other hother
      obtain ⟨hissued, huntaken, hawaiting⟩ := hrest other hother
      have hne : other ≠ id := by
        rintro rfl
        exact hid hother
      have hapart : Apart other ((d.remove id).1, .held entry.command) := by
        refine ⟨by simpa using hissued, ?_⟩
        intro hother
        exact hne ((Option.some.inj hother).symm.trans hnumber)
      obtain ⟨⟨hissued', -⟩, hget, hleft⟩ :=
        (callUp_handlings (m := m) hentry result).frame hapart
      simp only [remove_inFlight, remove_parked] at hget hleft
      refine ⟨hissued', fun h => huntaken (hleft h), ?_⟩
      rw [hget, Assoc.get?_erase_of_ne _ hne]
      exact hawaiting

theorem callUp_moves (result : Except TopologyError Unit) (ids : List Nat) (d : Dispatcher)
    (honce : ids.Nodup) (hparked : Awaiting d ids) :
    Moves m (some (.task (.refreshed result))) (d, .empty)
      (ids.foldl (callUp m result) d, .empty) := by
  induction ids generalizing d with
  | nil => exact .refl
  | cons id rest ih =>
      obtain ⟨hid, honce⟩ := List.nodup_cons.mp honce
      have hrest := ih _ honce (hparked.callUp (m := m) hid result)
      rw [List.foldl_cons]
      cases hentry : d.inFlight.get? id with
      | none => rwa [callUp_of_none hentry] at hrest ⊢
      | some entry =>
          obtain ⟨command, stage⟩ := entry
          obtain ⟨-, htaken, hstage⟩ := hparked id (List.mem_cons_self ..)
          obtain ⟨rfl, -⟩ := hstage _ hentry
          have hhandle := callUp_handlings (m := m) hentry result
          exact .head (.unpark hentry htaken) (hhandle.moves.trans hrest)

/-- Between turns whatever is parked awaits the refresh. -/
theorem Numbered.awaiting {d : Dispatcher} (hd : Numbered d .empty) :
    Awaiting { d with refreshing := false, parked := [] } d.parked := by
  intro id hid
  refine ⟨hd.parked_issued id hid, by simp, ?_⟩
  intro entry hentry
  exact ⟨hd.parked id hid entry hentry, hd.keyed id entry hentry⟩

theorem onRefreshed_moves {d : Dispatcher} (hd : Numbered d .empty)
    (result : Except TopologyError Unit) :
    Moves m (some (.task (.refreshed result))) (d, .empty) (d.onRefreshed m result, .empty) :=
  .head .collect (callUp_moves result d.parked _ hd.parked_once hd.awaiting)

/-! ## Whole turns -/

/-- What a turn does because of its input. -/
def act (m : Moment) (d : Dispatcher) : Input → Dispatcher
  | .accept => d.accept m
  | .task event => d.onTask m event
  | .node event => d.onNode m event
  | .timers => d.fireTimers m
  | .shutdown => d.shutDown

/-- After that it starts the attempts for which there is room again. -/
theorem turn_eq (d : Dispatcher) (hinput : input ≠ .shutdown) :
    d.turn m input = (d.act m input).promoteWaiting m := by
  cases input with
  | shutdown => exact absurd rfl hinput
  | accept | task | node | timers => rfl

theorem act_moves {d : Dispatcher} (hd : Numbered d .empty) (hinput : input ≠ .shutdown) :
    Moves m (some input) (d.mark input, .empty) (d.act m input, .empty) := by
  cases input with
  | accept =>
      rw [mark_eq_self d (by simp) (by simp)]
      exact accept_moves d
  | timers =>
      rw [mark_eq_self d (by simp) (by simp)]
      exact fireDue_moves _ d
  | shutdown => exact absurd rfl hinput
  | node event =>
      cases event with
      | response node response =>
          rw [mark_eq_self d (by simp) (by simp)]
          exact onResponse_moves d node response
      | closed node generation reason => exact onClosed_moves hd node generation reason
  | task event =>
      cases event with
      | sent id generation => exact onSent_moves hd id generation
      | sendFailed id node generation error =>
          rw [mark_eq_self d (by simp) (by simp)]
          exact onSendFailed_moves d id node generation error
      | abandoned id =>
          rw [mark_eq_self d (by simp) (by simp)]
          exact onAbandoned_moves d id
      | refreshed result =>
          rw [mark_eq_self d (by simp) (by simp)]
          exact onRefreshed_moves hd result

/-- What holds once the input is noted, and what every move of the turn keeps, holds after it. -/
theorem turn_induct {P : Dispatcher × Hand → Prop} {d : Dispatcher} (hd : Numbered d .empty)
    (hinput : input ≠ .shutdown)
    (hmove : ∀ cause s t, cause = some input ∨ cause = none → Move m cause s t → P s → P t)
    (hmark : P (d.mark input, .empty)) : P (d.turn m input, .empty) := by
  rw [turn_eq d hinput]
  have hact := Moves.induct (act_moves hd hinput) (hmove _ · · (.inl rfl)) hmark
  exact Moves.induct (promoteWaiting_moves _) (hmove _ · · (.inr rfl)) hact

theorem Handling.stopped_eq {s t : Dispatcher × Hand} (h : Handling m cause s t) :
    t.1.stopped = s.1.stopped := by
  cases h with
  | locate | miss | charge | advance | renumber | renumberUnused | disconnect | settle => rfl
  | start | wait | park | pause => simp

theorem Move.stopped_eq {s t : Dispatcher × Hand} (h : Move m cause s t) :
    t.1.stopped = s.1.stopped := by
  cases h with
  | handle handling => exact handling.stopped_eq
  | draw | skip | tidy | collect | tick => rfl
  | retire | expire | resume | unpark | promote => simp

/-- Only a shutdown stops a dispatcher. -/
theorem turn_stopped {d : Dispatcher} (hd : Numbered d .empty) (hinput : input ≠ .shutdown) :
    (d.turn m input).stopped = d.stopped :=
  turn_induct (P := fun s => s.1.stopped = d.stopped) hd hinput
    (fun _ _ _ _ hmove hs => hmove.stopped_eq.trans hs) rfl

theorem Handling.nextId_le {s t : Dispatcher × Hand} (h : Handling m cause s t) :
    s.1.nextId ≤ t.1.nextId := by
  cases h with
  | locate | miss | charge | advance | disconnect | settle => exact Nat.le_refl _
  | renumber | renumberUnused => exact Nat.le_succ _
  | start | wait | park | pause => simp

theorem Move.nextId_le {s t : Dispatcher × Hand} (h : Move m cause s t) :
    s.1.nextId ≤ t.1.nextId := by
  cases h with
  | handle handling => exact handling.nextId_le
  | draw => exact Nat.le_succ _
  | skip | tidy | collect | tick => exact Nat.le_refl _
  | retire | expire | resume | unpark | promote => simp

theorem Handling.inbound_eq {s t : Dispatcher × Hand} (h : Handling m cause s t) :
    t.1.inbound = s.1.inbound := by
  cases h with
  | locate | miss | charge | advance | renumber | renumberUnused | disconnect | settle => rfl
  | start | wait | park | pause => simp

theorem Move.inbound_suffix {s t : Dispatcher × Hand} (h : Move m cause s t) :
    t.1.inbound <:+ s.1.inbound := by
  cases h with
  | handle handling => simp [handling.inbound_eq]
  | draw hqueued =>
      rw [hqueued]
      exact List.suffix_cons _ _
  | skip | tidy | collect | tick => exact List.suffix_refl _
  | retire | expire | resume | unpark | promote => simp

/-- A turn only takes submissions out of the queue, from its front. -/
theorem turn_inbound {d : Dispatcher} (hd : Numbered d .empty) (hinput : input ≠ .shutdown) :
    (d.turn m input).inbound <:+ d.inbound :=
  turn_induct (P := fun s => s.1.inbound <:+ d.inbound) hd hinput
    (fun _ _ _ _ hmove hs => hmove.inbound_suffix.trans hs) (List.suffix_refl _)

/-- Only the acceptance of a submission takes it out of the queue. -/
theorem Move.inbound_eq {s t : Dispatcher × Hand} (h : Move m cause s t)
    (hcause : cause ≠ some .accept) : t.1.inbound = s.1.inbound := by
  cases h with
  | handle handling => exact handling.inbound_eq
  | draw => exact absurd rfl hcause
  | skip | tidy | collect | tick => rfl
  | retire | expire | resume | unpark | promote => simp

theorem Moves.inbound_eq {s t : Dispatcher × Hand} (h : Moves m cause s t)
    (hcause : cause ≠ some .accept) : t.1.inbound = s.1.inbound :=
  h.induct (P := fun t => t.1.inbound = s.1.inbound)
    (fun _ _ hmove hs => (hmove.inbound_eq hcause).trans hs) rfl

theorem turn_inbound_eq {d : Dispatcher} (hd : Numbered d .empty) (hother : input ≠ .accept)
    (hinput : input ≠ .shutdown) : (d.turn m input).inbound = d.inbound := by
  rw [turn_eq d hinput]
  have hact := Moves.inbound_eq (act_moves (m := m) hd hinput) (by simpa using hother)
  exact (Moves.inbound_eq (promoteWaiting_moves (m := m) _) (by simp)).trans hact

/-- One submission is accepted at a time. -/
theorem accept_inbound (d : Dispatcher) : (d.turn m .accept).inbound = d.inbound.tail := by
  have haccept : (d.accept m).inbound = d.inbound.tail := by
    unfold accept
    split
    · next hnone => rw [hnone, List.tail_nil]
    · next command rest hqueued =>
      have hroute : Handlings m none _ (_, Hand.empty) :=
        route_handlings ({ d with inbound := rest }.assignId command).1
          ({ d with inbound := rest }.assignId command).2
      rw [hqueued]
      exact hroute.moves.inbound_eq (by simp)
  exact (Moves.inbound_eq (promoteWaiting_moves (m := m) _) (by simp)).trans haccept

/-! ## Shutting down -/

/-- The effects of ending some commands because of a shutdown, last first. -/
theorem foldl_finish_outbox {α : Type} (command : α → Command) (items : List α) (d : Dispatcher) :
    items.foldl (fun d item => d.finish (command item) (.error .shutdown)) d =
      { d with
        outbox := (items.map fun item => .resolve (command item).ticket (.error .shutdown)).reverse
          ++ d.outbox } := by
  induction items generalizing d with
  | nil => rfl
  | cons item items ih =>
      rw [List.foldl_cons, ih]
      simp [emit]

theorem shutDown_eq (d : Dispatcher) :
    d.shutDown =
      { nextId := d.nextId, refreshing := d.refreshing, stopped := true
        outbox := .closePool ::
          (d.inFlight.map fun e => .resolve e.2.command.ticket (.error .shutdown)).reverse ++
          ((d.inbound.map fun command => .resolve command.ticket (.error .shutdown)).reverse ++
            d.outbox) } := by
  simp only [shutDown, foldl_finish_outbox (fun command => command),
    foldl_finish_outbox (fun e : Nat × Entry => e.2.command)]
  rfl

theorem shutDown_numbered (d : Dispatcher) : Numbered d.shutDown .empty := by
  rw [shutDown_eq]
  exact ⟨by simp [Assoc.keys], by simp [Assoc.keys], by simp, by simp, by simp, by simp, by simp,
    by simp [Hand.number?]⟩

/-- Numbers are never taken back. -/
theorem turn_nextId {d : Dispatcher} (hd : Numbered d .empty) (input : Input) :
    d.nextId ≤ (d.turn m input).nextId := by
  by_cases hinput : input = .shutdown
  · simp [hinput, turn, shutDown_eq]
  · exact turn_induct (P := fun s => d.nextId ≤ s.1.nextId) hd hinput
      (fun _ _ _ _ hmove hs => Nat.le_trans hs hmove.nextId_le) (Nat.le_refl _)

theorem turn_numbered {d : Dispatcher} (hd : Numbered d .empty) (input : Input) :
    Numbered (d.turn m input) .empty := by
  by_cases hinput : input = .shutdown
  · rw [hinput]
    exact shutDown_numbered d
  · exact turn_induct (P := fun s => Numbered s.1 s.2) hd hinput
      (fun _ _ _ _ hmove hs => hmove.numbered hs) (mark_numbered hd input)

end ClusterKv.Dispatcher

import ClusterKv.Proofs.Dispatcher.Turns

/-! # What depends on the notes in an entry

The dispatcher reads the notes on an attempt only where it hears of its carrier. Whatever else it
does, it does in the same way with other notes or without any. -/

namespace ClusterKv

/-- An entry without the notes on its attempt. -/
def Entry.unnoted (entry : Entry) : Entry :=
  match entry.stage with
  | .sent node partition _ _ => { entry with stage := .sent node partition none [] }
  | .waiting .. | .awaitingTopology | .backoff _ => entry

@[simp] theorem Entry.unnoted_command (entry : Entry) : entry.unnoted.command = entry.command := by
  unfold Entry.unnoted
  split <;> rfl

namespace Dispatcher

variable {m : Moment}

/-- The entry at a number, without notes if it is the number of an attempt in question. -/
def unnotedAt (id key : Nat) (entry : Entry) : Entry := if key = id then entry.unnoted else entry

/-- The dispatcher without the notes on one attempt. -/
def unnoted (d : Dispatcher) (id : Nat) : Dispatcher :=
  { d with inFlight := d.inFlight.map fun e => (e.1, unnotedAt id e.1 e.2) }

/-! ## Entries without notes -/

@[simp] theorem unnotedAt_command (id key : Nat) (entry : Entry) :
    (unnotedAt id key entry).command = entry.command := by
  unfold unnotedAt
  split
  · exact entry.unnoted_command
  · rfl

theorem unnotedAt_sent (id key : Nat) (command : Command) (node : NodeId) (partition : UInt16)
    (carrier : Option Nat) (closed : List Nat) :
    ∃ carrier' closed', unnotedAt id key ⟨command, .sent node partition carrier closed⟩ =
      ⟨command, .sent node partition carrier' closed'⟩ := by
  unfold unnotedAt
  split
  · exact ⟨none, [], rfl⟩
  · exact ⟨carrier, closed, rfl⟩

@[simp] theorem unnotedAt_begun (id key : Nat) (command : Command) (node : NodeId)
    (partition : UInt16) :
    unnotedAt id key ⟨command, .sent node partition none []⟩ =
      ⟨command, .sent node partition none []⟩ := by
  unfold unnotedAt
  split <;> rfl

@[simp] theorem unnotedAt_waiting (id key : Nat) (command : Command) (node : NodeId)
    (partition : UInt16) :
    unnotedAt id key ⟨command, .waiting node partition⟩ = ⟨command, .waiting node partition⟩ :=
  ite_self _

@[simp] theorem unnotedAt_awaiting (id key : Nat) (command : Command) :
    unnotedAt id key ⟨command, .awaitingTopology⟩ = ⟨command, .awaitingTopology⟩ :=
  ite_self _

@[simp] theorem unnotedAt_backoff (id key : Nat) (command : Command) (resume : Instant) :
    unnotedAt id key ⟨command, .backoff resume⟩ = ⟨command, .backoff resume⟩ :=
  ite_self _

/-! ## The places of commands -/

section

variable (d : Dispatcher) (id : Nat)

theorem unnoted_get? (key : Nat) :
    (d.unnoted id).inFlight.get? key = (d.inFlight.get? key).map (unnotedAt id key) :=
  Assoc.get?_map_values d.inFlight (unnotedAt id) key

/-- Without an attempt there are no notes. -/
theorem unnoted_of_none (h : d.inFlight.get? id = none) : d.unnoted id = d := by
  have hentries : (d.inFlight.map fun e => (e.1, unnotedAt id e.1 e.2)) = d.inFlight := by
    refine (List.map_congr_left ?_).trans (List.map_id _)
    intro e he
    have hkey : e.1 ≠ id := by
      rintro rfl
      exact Assoc.get?_eq_none_iff.mp h (List.mem_map_of_mem (f := (·.1)) he)
    simp [unnotedAt, hkey]
  simp only [unnoted, hentries]

@[simp] theorem unnoted_hasCapacity (m : Moment) (node : NodeId) :
    (d.unnoted id).hasCapacity m node = d.hasCapacity m node := rfl

@[simp] theorem unnoted_emit (effect : Effect) :
    (d.emit effect).unnoted id = (d.unnoted id).emit effect := rfl

theorem unnoted_insert {key : Nat} {entry : Entry} (h : unnotedAt id key entry = entry) :
    (d.insert key entry).unnoted id = (d.unnoted id).insert key entry := by
  have hentries : (d.inFlight.put key entry).map (fun e => (e.1, unnotedAt id e.1 e.2)) =
      Assoc.put (d.unnoted id).inFlight key entry := by
    have hput := Assoc.put_map_values d.inFlight (unnotedAt id) key entry
    rw [h] at hput
    exact hput.symm
  obtain ⟨command, stage⟩ := entry
  cases stage <;> simp only [insert, unnoted, hentries] <;> rfl

@[simp] theorem unnoted_remove (key : Nat) :
    (d.remove key).1.unnoted id = ((d.unnoted id).remove key).1 := by
  have hget := unnoted_get? d id key
  have hentries := Assoc.erase_map_values d.inFlight (unnotedAt id) key
  cases hentry : d.inFlight.get? key with
  | none =>
      rw [hentry] at hget
      rw [remove_of_none d hentry, remove_of_none _ hget]
  | some entry =>
      rw [hentry] at hget
      obtain ⟨command, stage⟩ := entry
      cases stage with
      | sent node partition carrier closed =>
          obtain ⟨carrier', closed', h⟩ :=
            unnotedAt_sent id key command node partition carrier closed
          simp only [Option.map_some, h] at hget
          simp only [remove, hentry, hget]
          simp only [unnoted, hentries]
      | waiting | awaitingTopology | backoff =>
          simp only [Option.map_some, unnotedAt_waiting, unnotedAt_awaiting, unnotedAt_backoff]
            at hget
          simp only [remove, hentry, hget]
          simp only [unnoted, hentries]

theorem unnoted_takeSent (key : Nat) :
    (d.unnoted id).takeSent key = ((d.takeSent key).1.unnoted id, (d.takeSent key).2) := by
  have hget := unnoted_get? d id key
  rcases takeSent_cases d key with
    ⟨command, node, partition, carrier, closed, hentry, h⟩ | ⟨hnone, h⟩
  · obtain ⟨carrier', closed', hsame⟩ := unnotedAt_sent id key command node partition carrier closed
    rw [hentry, Option.map_some, hsame] at hget
    rw [h, takeSent_of_sent _ hget, unnoted_remove]
  · rw [h]
    unfold takeSent
    rw [hget]
    cases hentry : d.inFlight.get? key with
    | none => rfl
    | some entry =>
        obtain ⟨command, stage⟩ := entry
        cases stage with
        | sent => exact absurd hentry (hnone _ _ _ _ _)
        | waiting | awaitingTopology | backoff => simp

/-! ## From stage to stage -/

@[simp] theorem unnoted_dispatch (command : Command) (route : Route) :
    (d.dispatch m command route).unnoted id = (d.unnoted id).dispatch m command route := by
  unfold dispatch
  split
  · rfl
  · rw [unnoted_emit, unnoted_insert _ _ (unnotedAt_begun ..)]

@[simp] theorem unnoted_send (command : Command) (route : Route) :
    (d.send m command route).unnoted id = (d.unnoted id).send m command route := by
  unfold send
  rw [unnoted_hasCapacity]
  split
  · exact unnoted_dispatch d id command route
  · exact unnoted_insert _ _ (unnotedAt_waiting ..)

@[simp] theorem unnoted_requestRefresh :
    d.requestRefresh.unnoted id = (d.unnoted id).requestRefresh := by
  unfold requestRefresh
  have hrefreshing : (d.unnoted id).refreshing = d.refreshing := rfl
  rw [hrefreshing]
  split <;> rfl

@[simp] theorem unnoted_park (command : Command) :
    (d.park command).unnoted id = (d.unnoted id).park command := by
  simp only [park, assignId_eq, unnoted_requestRefresh]
  rw [unnoted_insert _ _ (unnotedAt_awaiting ..)]
  rfl

@[simp] theorem unnoted_backOff (command : Command) :
    (d.backOff m command).unnoted id = (d.unnoted id).backOff m command := by
  simp only [backOff, assignId_eq]
  rw [unnoted_insert _ _ (unnotedAt_backoff ..)]
  rfl

@[simp] theorem unnoted_route (command : Command) :
    (d.route m command).unnoted id = (d.unnoted id).route m command := by
  unfold route
  split
  · rfl
  · split
    · exact unnoted_send d id _ _
    · split
      · rfl
      · exact unnoted_park d id _

theorem unnoted_chargeRetry (command : Command) (failure : String) (fault : Bool) :
    (d.unnoted id).chargeRetry m command failure fault =
      ((d.chargeRetry m command failure fault).1.unnoted id,
        (d.chargeRetry m command failure fault).2) := by
  unfold chargeRetry
  simp only
  split <;> rfl

@[simp] theorem unnoted_apply (command : Command) (outcome : Outcome) :
    (d.apply m command outcome).unnoted id = (d.unnoted id).apply m command outcome := by
  unfold apply
  split
  · rfl
  · cases outcome with
    | success | applicationError => rfl
    | routingStale partition =>
        simp only [unnoted_chargeRetry]
        split
        · rfl
        · split
          · next h => simp [h]
          · next h => simp [h]
    | temporaryFailure =>
        simp only [unnoted_chargeRetry]
        split
        · next h => simp [h]
        · next h => simp [h]
    | connectionFault reason =>
        simp only [unnoted_chargeRetry]
        split
        · next h => simp [h]
        · next h => simp [h]

/-! ## Inputs that do not concern carriers -/

omit d in
/-- What goes on without notes in every step goes on without them to the end. -/
theorem unnoted_foldl {α : Type} {f : Dispatcher → α → Dispatcher}
    (h : ∀ d item, (f d item).unnoted id = f (d.unnoted id) item) (items : List α)
    (d : Dispatcher) : (items.foldl f d).unnoted id = items.foldl f (d.unnoted id) :=
  (List.foldl_hom (unnoted · id) fun d item => (h d item).symm).symm

theorem unnoted_promoteNode (node : NodeId) (fuel : Nat) :
    (d.promoteNode m node fuel).unnoted id = (d.unnoted id).promoteNode m node fuel := by
  induction fuel generalizing d with
  | zero => rfl
  | succ fuel ih =>
      have hwaiting : (d.unnoted id).waitingFor node = d.waitingFor node := rfl
      unfold promoteNode
      rw [unnoted_hasCapacity, hwaiting]
      split
      · rfl
      · cases hqueue : d.waitingFor node with
        | nil => rfl
        | cons first rest =>
            have hget := unnoted_get? d id first
            simp only
            cases hentry : d.inFlight.get? first with
            | none =>
                rw [hentry] at hget
                simp only [hget, Option.map_none]
                exact ih _
            | some entry =>
                rw [hentry] at hget
                obtain ⟨command, stage⟩ := entry
                cases stage with
                | waiting other partition =>
                    simp only [hget, Option.map_some, unnotedAt_waiting]
                    rw [ih, unnoted_dispatch, unnoted_remove]
                    rfl
                | sent other partition carrier closed =>
                    obtain ⟨_, _, h⟩ :=
                      unnotedAt_sent id first command other partition carrier closed
                    simp only [hget, Option.map_some, h]
                    exact ih _
                | awaitingTopology | backoff =>
                    simp only [hget, Option.map_some, unnotedAt_awaiting, unnotedAt_backoff]
                    exact ih _

theorem unnoted_promoteWaiting :
    (d.promoteWaiting m).unnoted id = (d.unnoted id).promoteWaiting m := by
  unfold promoteWaiting
  have htotal : (d.unnoted id).waitingTotal = d.waitingTotal := rfl
  have hwaiting : (d.unnoted id).waiting = d.waiting := rfl
  rw [htotal]
  split
  · rfl
  · simp only [hwaiting, unnoted_hasCapacity]
    rw [← unnoted_foldl id fun d node => unnoted_promoteNode d id node (d.waitingFor node).length]
    rfl

theorem unnoted_accept : (d.accept m).unnoted id = (d.unnoted id).accept m := by
  unfold accept
  have hinbound : (d.unnoted id).inbound = d.inbound := rfl
  rw [hinbound]
  split
  · rfl
  · simp only [assignId_eq, unnoted_route]
    rfl

theorem unnoted_fireTimer (key : Nat) :
    (d.fireTimer m key).unnoted id = (d.unnoted id).fireTimer m key := by
  have hget := unnoted_get? d id key
  unfold fireTimer
  cases hentry : d.inFlight.get? key with
  | none =>
      rw [hentry, Option.map_none] at hget
      rw [hget]
  | some entry =>
      rw [hentry, Option.map_some] at hget
      rw [hget]
      simp only [unnotedAt_command]
      split
      · simp
      · obtain ⟨command, stage⟩ := entry
        cases stage with
        | backoff resume =>
            simp only [unnotedAt_backoff]
            split
            · simp
            · rfl
        | sent node partition carrier closed =>
            obtain ⟨_, _, h⟩ := unnotedAt_sent id key command node partition carrier closed
            simp only [h]
        | waiting | awaitingTopology => simp

theorem unnoted_fireDue (fuel : Nat) :
    (d.fireDue m fuel).unnoted id = (d.unnoted id).fireDue m fuel := by
  induction fuel generalizing d with
  | zero => rfl
  | succ fuel ih =>
      have htimers : (d.unnoted id).timers = d.timers := rfl
      unfold fireDue
      rw [htimers]
      split
      · split
        · rw [ih, unnoted_fireTimer]
          rfl
        · rfl
      · rfl

theorem unnoted_callUp (result : Except TopologyError Unit) (key : Nat) :
    (callUp m result d key).unnoted id = callUp m result (d.unnoted id) key := by
  have hget := unnoted_get? d id key
  cases hentry : d.inFlight.get? key with
  | none =>
      rw [hentry, Option.map_none] at hget
      simp only [callUp, remove_of_none _ hentry, remove_of_none _ hget]
  | some entry =>
      have hremove : ∀ d' : Dispatcher, ∀ found, d'.inFlight.get? key = some found →
          d'.remove key = ((d'.remove key).1, some found) := by
        intro d' found hfound
        rw [← hfound, ← remove_snd]
      rw [hentry, Option.map_some] at hget
      unfold callUp
      rw [hremove d _ hentry, hremove _ _ hget]
      cases result with
      | error error => simp
      | ok =>
          simp only [unnotedAt_command]
          split <;> simp

theorem unnoted_onRefreshed (result : Except TopologyError Unit) :
    (d.onRefreshed m result).unnoted id = (d.unnoted id).onRefreshed m result := by
  rw [onRefreshed_eq, onRefreshed_eq, unnoted_foldl id fun d key => unnoted_callUp d id result key]
  rfl

theorem unnoted_onResponse (response : Response) :
    (d.onResponse m response).unnoted id = (d.unnoted id).onResponse m response := by
  simp only [onResponse, unnoted_takeSent]
  split
  · next h => simp [h]
  · next h => simp [h]

theorem unnoted_onSendFailed (key : Nat) (node : NodeId) (generation : Option Nat)
    (error : ConnectionError) :
    (d.onSendFailed m key node generation error).unnoted id =
      (d.unnoted id).onSendFailed m key node generation error := by
  simp only [onSendFailed, unnoted_takeSent]
  split
  · next h => simp [h]
  · next h =>
      simp only [h]
      cases generation <;> cases error <;> simp

theorem unnoted_onAbandoned (key : Nat) :
    (d.onTask m (.abandoned key)).unnoted id = (d.unnoted id).onTask m (.abandoned key) := by
  simp only [onTask, unnoted_takeSent]
  split
  · next h => simp [h]
  · next h => simp [h]

theorem unnoted_shutDown : d.shutDown.unnoted id = (d.unnoted id).shutDown := by
  have hresults : ((d.unnoted id).inFlight.map fun e =>
      Effect.resolve e.2.command.ticket (.error .shutdown)) =
        d.inFlight.map fun e => .resolve e.2.command.ticket (.error .shutdown) := by
    simp [unnoted, Function.comp_def]
  rw [shutDown_eq, shutDown_eq, hresults]
  rfl

theorem unnoted_endLost (reason : String) (key : Nat) :
    (endLost m reason d key).unnoted id = endLost m reason (d.unnoted id) key := by
  simp only [endLost, unnoted_takeSent]
  split
  · next h => simp [h]
  · next h => simp [h]

/-! ## Inputs about carriers -/

theorem unnotedAt_idem (key : Nat) (entry : Entry) :
    unnotedAt id key (unnotedAt id key entry) = unnotedAt id key entry := by
  obtain ⟨command, stage⟩ := entry
  cases stage with
  | sent => unfold unnotedAt; split <;> rfl
  | waiting | awaitingTopology | backoff => simp

theorem unnoted_idem : (d.unnoted id).unnoted id = d.unnoted id := by
  simp [unnoted, unnotedAt_idem]

/-- Notes that are to be forgotten need not be made. -/
theorem unnoted_mark (input : Input) :
    ((d.unnoted id).mark input).unnoted id = (d.mark input).unnoted id := by
  have hentry : ∀ key entry, unnotedAt id key (markEntry input key (unnotedAt id key entry)) =
      unnotedAt id key (markEntry input key entry) := by
    intro key entry
    by_cases hkey : key = id
    · obtain ⟨command, stage⟩ := entry
      cases stage with
      | sent => simp [unnotedAt, hkey, Entry.unnoted, markEntry]
      | waiting | awaitingTopology | backoff => simp
    · simp [unnotedAt, hkey]
  simp [unnoted, mark, hentry]

theorem unnoted_put {command : Command} {node : NodeId} {partition : UInt16}
    {carrier : Option Nat} {closed : List Nat}
    (h : d.inFlight.get? id = some ⟨command, .sent node partition carrier closed⟩)
    (carrier' : Option Nat) (closed' : List Nat) :
    ({ d with
        inFlight := d.inFlight.put id ⟨command, .sent node partition carrier' closed'⟩ } :
      Dispatcher).unnoted id = d.unnoted id := by
  have hentries := Assoc.map_values_put (unnotedAt id) h
    ⟨command, .sent node partition carrier' closed'⟩ (by simp [unnotedAt, Entry.unnoted])
  simp only [unnoted, hentries]

end

/-- An input completes what has to be known of an attempt for it to be over. -/
inductive Loses : Input → Nat → Entry → Prop where
  | acked {id generation command node partition carrier closed} (dead : generation ∈ closed) :
      Loses (.task (.sent id generation)) id ⟨command, .sent node partition carrier closed⟩
  | closed {id node generation reason command partition closed} :
      Loses (.node (.closed node generation reason)) id
        ⟨command, .sent node partition (some generation) closed⟩

/-- An entry without notes is not enough for that. -/
theorem not_loses_unnotedAt {input : Input} {id : Nat} {entry : Entry} :
    ¬Loses input id (unnotedAt id id entry) := by
  intro h
  obtain ⟨command, stage⟩ := entry
  cases stage with
  | sent =>
      simp only [unnotedAt, ite_true, Entry.unnoted] at h
      cases h with
      | acked dead => cases dead
  | waiting | awaitingTopology | backoff =>
      simp only [unnotedAt_waiting, unnotedAt_awaiting, unnotedAt_backoff] at h
      cases h

/-- The attempt is not over by the input. -/
def Spared (d : Dispatcher) (input : Input) (id : Nat) : Prop :=
  ∀ entry, d.inFlight.get? id = some entry → ¬Loses input id entry

theorem spared_unnoted (d : Dispatcher) (input : Input) (id : Nat) :
    Spared (d.unnoted id) input id := by
  intro entry hentry
  rw [unnoted_get?] at hentry
  obtain ⟨noted, -, rfl⟩ := Option.map_eq_some_iff.mp hentry
  exact not_loses_unnotedAt

theorem unnoted_onSent_self {d : Dispatcher} {id generation : Nat}
    (h : Spared d (.task (.sent id generation)) id) :
    (d.onSent m id generation).unnoted id = d.unnoted id := by
  unfold onSent
  split
  · next command node partition carrier closed hentry =>
      have halive : generation ∉ closed := fun dead => h _ hentry (.acked dead)
      simp only [List.contains_iff_mem, halive, ite_false]
      exact unnoted_put d id hentry _ _
  · rfl

theorem unnoted_onSent_other (d : Dispatcher) {id key : Nat} (hkey : key ≠ id) (generation : Nat) :
    (d.onSent m key generation).unnoted id = (d.unnoted id).onSent m key generation := by
  have hget := unnoted_get? d id key
  have hsame : ∀ entry, unnotedAt id key entry = entry := fun entry => if_neg hkey
  have hid : (d.inFlight.get? key).map (unnotedAt id key) = d.inFlight.get? key := by
    cases d.inFlight.get? key <;> simp [hsame]
  rw [hid] at hget
  unfold onSent
  rw [hget]
  split
  · next command node partition carrier closed hentry =>
      have hput := Assoc.put_map_values d.inFlight (unnotedAt id) key
        ⟨command, .sent node partition (some generation) closed⟩
      rw [hsame] at hput
      have hentries : ({ d with
          inFlight := d.inFlight.put key
            ⟨command, .sent node partition (some generation) closed⟩ } : Dispatcher).unnoted id =
          { d.unnoted id with
            inFlight := (d.unnoted id).inFlight.put key
              ⟨command, .sent node partition (some generation) closed⟩ } := by
        simp only [unnoted, hput]
      split
      · rw [unnoted_apply, unnoted_remove, hentries]
      · exact hentries
  · rfl

theorem unnoted_onClosed {d : Dispatcher} (hd : Numbered d .empty) {id : Nat} {node : NodeId}
    {generation : Nat} {reason : String}
    (h : Spared d (.node (.closed node generation reason)) id) :
    (d.onClosed m node generation reason).unnoted id =
      ((d.unnoted id).onClosed m node generation reason).unnoted id := by
  have hlost : (((d.unnoted id).inFlight.filter fun e => carriedBy node generation e.2).map
      (·.1)) = (d.inFlight.filter fun e => carriedBy node generation e.2).map (·.1) := by
    simp only [unnoted, List.filter_map, List.map_map, Function.comp_def]
    congr 1
    apply List.filter_congr
    rintro ⟨key, command, stage⟩ he
    by_cases hkey : key = id
    · subst hkey
      cases stage with
      | sent other partition carrier closed =>
          have hnot := h _ (Assoc.get?_of_mem hd.distinct he)
          cases carrier with
          | none => simp [unnotedAt, Entry.unnoted, carriedBy]
          | some carrier =>
              simp only [unnotedAt, ite_true, Entry.unnoted, carriedBy]
              refine (Bool.eq_false_iff.mpr ?_).symm
              intro hcarried
              simp only [Bool.and_eq_true, decide_eq_true_eq] at hcarried
              obtain ⟨rfl, rfl⟩ := hcarried
              exact hnot .closed
      | waiting | awaitingTopology | backoff => simp
    · simp [unnotedAt, hkey]
  have hfold := unnoted_foldl id fun d key => unnoted_endLost (m := m) d id reason key
  rw [onClosed_eq, onClosed_eq, hlost, hfold, hfold, unnoted_mark]

/-! ## Turns -/

theorem unnoted_act {d : Dispatcher} (hd : Numbered d .empty) {input : Input} {id : Nat}
    (h : Spared d input id) :
    (d.act m input).unnoted id = ((d.unnoted id).act m input).unnoted id := by
  have hexact : ∀ f : Dispatcher → Dispatcher,
      (∀ d, (f d).unnoted id = f (d.unnoted id)) →
        (f d).unnoted id = (f (d.unnoted id)).unnoted id := by
    intro f hf
    rw [hf, hf, unnoted_idem]
  cases input with
  | accept => exact hexact _ fun d => unnoted_accept d id
  | timers => exact hexact (fireTimers m) fun d => unnoted_fireDue d id _
  | shutdown => exact hexact _ fun d => unnoted_shutDown d id
  | node event =>
      cases event with
      | response node response => exact hexact _ fun d => unnoted_onResponse d id response
      | closed node generation reason => exact unnoted_onClosed hd h
  | task event =>
      cases event with
      | sent key generation =>
          by_cases hkey : key = id
          · subst hkey
            have hself := unnoted_onSent_self (m := m)
              (spared_unnoted d (.task (.sent key generation)) key)
            exact (unnoted_onSent_self h).trans ((hself.trans (unnoted_idem d _)).symm)
          · exact hexact _ fun d => unnoted_onSent_other d hkey generation
      | sendFailed key node generation error =>
          exact hexact _ fun d => unnoted_onSendFailed d id key node generation error
      | abandoned key => exact hexact _ fun d => unnoted_onAbandoned (m := m) d id key
      | refreshed result => exact hexact _ fun d => unnoted_onRefreshed d id result

/-- A turn that does not end an attempt by its notes does the same without them. -/
theorem unnoted_turn {d : Dispatcher} (hd : Numbered d .empty) {input : Input} {id : Nat}
    (h : Spared d input id) :
    (d.turn m input).unnoted id = ((d.unnoted id).turn m input).unnoted id := by
  by_cases hinput : input = .shutdown
  · subst hinput
    exact unnoted_act (m := m) hd h
  · rw [turn_eq d hinput, turn_eq _ hinput, unnoted_promoteWaiting, unnoted_promoteWaiting,
      unnoted_act hd h]

end Dispatcher

end ClusterKv

import ClusterKv.Proofs.Dispatcher.Carriers

/-! # What a turn does with each command

A turn deals with one command after another. Each time the command is taken from where it is, sent
on its way or told what its attempt came to, and put away again. The deals of a turn say in which
order commands were sent on their way and which attempts were started for whom. -/

namespace ClusterKv

/-- Why another attempt is due after an outcome, and whether the connection is at fault; nothing if
the outcome is final. A command for one node is never sent to another. -/
def Command.setback? (command : Command) : Outcome → Option (String × Bool)
  | .routingStale partition =>
    match command.target with
    | .key => some (s!"stale route for partition {partition}", false)
    | .node _ => none
  | .temporaryFailure => some ("temporary failure", false)
  | .connectionFault reason => some (reason, true)
  | .success _ | .applicationError _ => none

namespace Dispatcher

variable {m : Moment} {input : Input} {cause : Cause}

/-! ## Commands on their way -/

/-- Does nobody own the partition of a command that is sent on its way in time? -/
def missing (m : Moment) (command : Command) : Bool :=
  m.now < command.deadline && !(routeOf m command).2.isOk

/-- The attempt that is started for a command when it is sent on its way: its caller and its
number. -/
def startedBy (m : Moment) (d : Dispatcher) (command : Command) : List (Nat × Nat) :=
  if command.deadline ≤ m.now then []
  else match (routeOf m command).2 with
    | .ok route => if d.hasCapacity m route.node then [(command.ticket, command.id)] else []
    | .error _ => []

/-- The command that a timer sends on its way. -/
def resumed (m : Moment) (d : Dispatcher) (id : Nat) : List Command :=
  match d.inFlight.get? id with
  | some ⟨command, .backoff resume⟩ =>
    if m.now < command.deadline ∧ resume ≤ m.now then [command] else []
  | _ => []

/-- The commands that the timers which are due send on their way, with one unit of fuel for each
timer. -/
def resumedBy (m : Moment) : Nat → Dispatcher → List Command
  | 0, _ => []
  | fuel + 1, d =>
    match d.timers with
    | (due, id) :: rest =>
      if due ≤ m.now then
        resumed m { d with timers := rest } id ++
          resumedBy m fuel ({ d with timers := rest }.fireTimer m id)
      else []
    | [] => []

/-- The command that is sent on its way when a number is called up. -/
def calledUp (d : Dispatcher) (id : Nat) : List Command :=
  match d.inFlight.get? id with
  | some entry => if entry.command.retries > 1 then [] else [entry.command]
  | none => []

/-- The commands that are sent on their way when numbers are called up after a refresh. -/
def calledUpBy (m : Moment) : List Nat → Dispatcher → List Command
  | [], _ => []
  | id :: ids, d => calledUp d id ++ calledUpBy m ids (callUp m (.ok ()) d id)

/-- The commands that a turn sends on their way, one after another: every use it makes of
`route`. -/
def routed (m : Moment) (d : Dispatcher) : Input → List Command
  | .accept =>
    match d.inbound with
    | [] => []
    | command :: rest => [({ d with inbound := rest }.assignId command).2]
  | .timers => resumedBy m (d.timers.countP (·.1 ≤ m.now)) d
  | .task (.refreshed (.ok ())) =>
    calledUpBy m d.parked { d with refreshing := false, parked := [] }
  | _ => []

/-! ## What transitions come to -/

/-- What becomes of a command that is sent on its way, and the attempt that is started. -/
inductive Routed (m : Moment) (d : Dispatcher) (command : Command) :
    List (Nat × Nat) → Dispatcher → Prop where
  | late (late : command.deadline ≤ m.now) : Routed m d command [] (d.timeOut command)
  | started {route : Route} (inTime : m.now < command.deadline)
      (found : (routeOf m command).2 = .ok route) :
      Routed m d command [(command.ticket, command.id)]
        ((d.insert command.id
          ⟨(routeOf m command).1, .sent route.node route.partition none []⟩).emit
          (.attempt command.id route.node
            ⟨command.id.toUInt64, route.partition, command.operation⟩ command.deadline))
  | waiting {route : Route} (inTime : m.now < command.deadline)
      (found : (routeOf m command).2 = .ok route) :
      Routed m d command []
        (d.insert command.id ⟨(routeOf m command).1, .waiting route.node route.partition⟩)
  | parked {miss : RoutingError} (inTime : m.now < command.deadline)
      (missed : (routeOf m command).2 = .error miss)
      (left : command.routeRefreshes < m.config.maxRouteRefreshes) :
      Routed m d command []
        (d.park { (routeOf m command).1 with routeRefreshes := command.routeRefreshes + 1 })
  | unowned {miss : RoutingError} (inTime : m.now < command.deadline)
      (missed : (routeOf m command).2 = .error miss)
      (reached : m.config.maxRouteRefreshes ≤ command.routeRefreshes) :
      Routed m d command [] (d.finish command (.error (.noRoute miss.partition)))

/-- Finding its route leaves a command as it is but for the partition. -/
theorem routeOf_fst (m : Moment) (command : Command) :
    ∃ partition, (routeOf m command).1 = { command with partition } := by
  rcases routeOf_cases (m := m) command with ⟨node, -, h⟩ | ⟨-, partition, -, h⟩
  · exact ⟨command.partition, by rw [h]⟩
  · exact ⟨some partition, by rw [h]⟩

theorem route_routed (m : Moment) (d : Dispatcher) (command : Command) :
    Routed m d command (startedBy m d command) (d.route m command) := by
  obtain ⟨partition, hsame⟩ := routeOf_fst m command
  unfold startedBy route
  split
  · next late => exact .late late
  · next inTime =>
      have inTime : m.now < command.deadline := Nat.lt_of_not_le inTime
      generalize hroute : routeOf m command = located at hsame
      obtain ⟨located, result⟩ := located
      obtain rfl : located = { command with partition } := hsame
      cases result with
      | ok route =>
          simp only [send, dispatch]
          split
          · have hstart := Routed.started (d := d) inTime (by rw [hroute])
            rw [hroute] at hstart
            exact hstart
          · have hwait := Routed.waiting (d := d) inTime (by rw [hroute])
            rw [hroute] at hwait
            exact hwait
      | error miss =>
          simp only
          split
          · next reached => exact Routed.unowned (d := d) inTime (by rw [hroute]) reached
          · next left =>
              have hpark := Routed.parked (d := d) inTime (by rw [hroute]) (Nat.lt_of_not_le left)
              rw [hroute] at hpark
              exact hpark

/-- A command after a retry has been counted. -/
def charged (command : Command) (failure : String) : Command :=
  { command with retries := command.retries + 1, lastFailure := some failure }

/-- What becomes of a command whose attempt has come to an outcome. -/
inductive Applied (m : Moment) (d : Dispatcher) (command : Command) : Outcome → Dispatcher → Prop
    where
  | late {outcome} (late : command.deadline ≤ m.now) :
      Applied m d command outcome (d.timeOut command)
  | success {reply} (inTime : m.now < command.deadline) :
      Applied m d command (.success reply) (d.finish command (.ok reply))
  | definitive {status} (inTime : m.now < command.deadline) :
      Applied m d command (.applicationError status)
        (d.finish command (.error (.application status)))
  | misdirected {partition node} (inTime : m.now < command.deadline)
      (target : command.target = .node node) :
      Applied m d command (.routingStale partition)
        (d.finish command (.error (.noRoute partition)))
  | parked {partition failure fault} (inTime : m.now < command.deadline)
      (setback : command.setback? (.routingStale partition) = some (failure, fault))
      (left : command.retries + 1 ≤ m.config.maxRetries) :
      Applied m d command (.routingStale partition)
        (d.park { charged command failure with fastForward := true })
  | paused {outcome failure fault} (inTime : m.now < command.deadline)
      (setback : command.setback? outcome = some (failure, fault))
      (left : command.retries + 1 ≤ m.config.maxRetries) :
      Applied m d command outcome (d.backOff m (charged command failure))
  | exhausted {outcome failure fault} (inTime : m.now < command.deadline)
      (setback : command.setback? outcome = some (failure, fault))
      (exceeded : m.config.maxRetries < command.retries + 1) :
      Applied m d command outcome
        (d.finish command (.error (exhausted m command failure fault)))

theorem apply_applied (m : Moment) (d : Dispatcher) (command : Command) (outcome : Outcome) :
    Applied m d command outcome (d.apply m command outcome) := by
  unfold apply
  split
  · next late => exact .late late
  · next inTime =>
      have inTime : m.now < command.deadline := Nat.lt_of_not_le inTime
      cases outcome with
      | success reply => exact .success inTime
      | applicationError status => exact .definitive inTime
      | routingStale partition =>
          cases htarget : command.target with
          | node node => exact .misdirected inTime htarget
          | key =>
              have hsetback : command.setback? (.routingStale partition) =
                  some (s!"stale route for partition {partition}", false) := by
                simp [Command.setback?, htarget]
              simp only
              rcases chargeRetry_cases (m := m) d command
                s!"stale route for partition {partition}" false with ⟨left, h⟩ | ⟨exceeded, h⟩
              · rw [h]
                exact .parked inTime hsetback left
              · rw [h]
                exact .exhausted inTime hsetback exceeded
      | temporaryFailure =>
          simp only
          rcases chargeRetry_cases (m := m) d command "temporary failure" false with
            ⟨left, h⟩ | ⟨exceeded, h⟩
          · rw [h]
            exact .paused inTime rfl left
          · rw [h]
            exact .exhausted inTime rfl exceeded
      | connectionFault reason =>
          simp only
          rcases chargeRetry_cases (m := m) d command reason true with
            ⟨left, h⟩ | ⟨exceeded, h⟩
          · rw [h]
            exact .paused inTime rfl left
          · rw [h]
            exact .exhausted inTime rfl exceeded

/-! ## Outcomes of attempts -/

/-- An input says what an attempt has come to, given its entry. -/
inductive Brings : Input → Nat → Entry → Outcome → Prop where
  | answered {sender response command node partition carrier closed} :
      Brings (.node (.response sender response)) response.opaqueId.toNat
        ⟨command, .sent node partition carrier closed⟩
        (.ofResponse command.operation partition response)
  | lost {id generation command node partition carrier closed} (dead : generation ∈ closed) :
      Brings (.task (.sent id generation)) id ⟨command, .sent node partition carrier closed⟩
        (.connectionFault s!"connection to {node.address} closed")
  | unsent {id other generation error command node partition carrier closed}
      (pool : error ≠ .poolClosed) (accepted : ∀ node reason, error ≠ .auth node reason) :
      Brings (.task (.sendFailed id other generation error)) id
        ⟨command, .sent node partition carrier closed⟩ (.connectionFault error.message)
  | closed {id node generation reason command partition closed} :
      Brings (.node (.closed node generation reason)) id
        ⟨command, .sent node partition (some generation) closed⟩ (.connectionFault reason)

/-- An input ends an attempt without an outcome, and this is the error of its command. -/
inductive Dismisses : Input → Nat → Command → Error → Prop where
  | abandoned {id command} : Dismisses (.task (.abandoned id)) id command (.timeout command.timeout)
  | poolClosed {id node generation command} :
      Dismisses (.task (.sendFailed id node generation .poolClosed)) id command .shutdown
  | rejected {id node generation other reason command} :
      Dismisses (.task (.sendFailed id node generation (.auth other reason))) id command
        (.connection (ConnectionError.auth other reason).message)

/-- A connection that failed is dropped. -/
def dropped (d : Dispatcher) : Input → Dispatcher
  | .task (.sendFailed _ node (some generation) _) => d.emit (.disconnect node generation)
  | _ => d

theorem dropped_eq (d : Dispatcher) (input : Input) :
    d.dropped input = d ∨ ∃ node generation, d.dropped input = d.emit (.disconnect node generation)
    := by
  unfold dropped
  split
  · exact .inr ⟨_, _, rfl⟩
  · exact .inl rfl

/-! ## Deals -/

/-- The dispatcher deals with one command, or only with its own books, in a turn that has started
from `d₀`. The lists are the commands sent on their way and the attempts started. -/
inductive Deal (m : Moment) (input : Input) (d₀ : Dispatcher) :
    Dispatcher → List Command → List (Nat × Nat) → Dispatcher → Prop where
  | aside {cause d d'} (causes : cause = some input ∨ cause = none)
      (move : Move m cause (d, .empty) (d', .empty)) (entries : d'.inFlight = d.inFlight) (queue : d'.inbound = d.inbound)
      (outbox : d'.outbox = d.outbox) : Deal m input d₀ d [] [] d'
  | accepted {d command rest} (cause : input = .accept) (queued : d.inbound = command :: rest) :
      Deal m input d₀ d [({ d with inbound := rest }.assignId command).2]
        (startedBy m ({ d with inbound := rest }.assignId command).1
          ({ d with inbound := rest }.assignId command).2)
        (({ d with inbound := rest }.assignId command).1.route m
          ({ d with inbound := rest }.assignId command).2)
  | resumed {d id command due} (cause : input = .timers)
      (found : d.inFlight.get? id = some ⟨command, .backoff due⟩) (reached : due ≤ m.now) :
      Deal m input d₀ d [command] (startedBy m (d.remove id).1 command)
        ((d.remove id).1.route m command)
  | unparked {d id command} (cause : input = .task (.refreshed (.ok ())))
      (found : d.inFlight.get? id = some ⟨command, .awaitingTopology⟩) (taken : id ∉ d.parked) :
      Deal m input d₀ d [command] (startedBy m (d.remove id).1 command)
        ((d.remove id).1.route m command)
  | rested {d id command} (cause : input = .task (.refreshed (.ok ())))
      (found : d.inFlight.get? id = some ⟨command, .awaitingTopology⟩) (taken : id ∉ d.parked) :
      Deal m input d₀ d [] [] ((d.remove id).1.backOff m command)
  | refused {d id command error} (cause : input = .task (.refreshed (.error error)))
      (found : d.inFlight.get? id = some ⟨command, .awaitingTopology⟩) (taken : id ∉ d.parked) :
      Deal m input d₀ d [] [] ((d.remove id).1.finish command (.error error.toError))
  | expired {d id entry} (cause : input = .timers) (found : d.inFlight.get? id = some entry)
      (late : entry.command.deadline ≤ m.now) :
      Deal m input d₀ d [] [] ((d.remove id).1.timeOut entry.command)
  | promoted {d node id rest command other partition} (first : d.waitingFor node = id :: rest)
      (room : d.hasCapacity m node = true)
      (found : d.inFlight.get? id = some ⟨command, .waiting other partition⟩) :
      Deal m input d₀ d [] (if command.deadline ≤ m.now then [] else [(command.ticket, command.id)])
        (({ d with waiting := d.waiting.put node rest }.remove id).1.dispatch m command
          ⟨partition, node⟩)
  | ended {d id entry outcome node partition carrier closed}
      (since : d₀.inFlight.get? id = some entry) (brings : Brings input id entry outcome)
      (under : d.inFlight.get? id = some ⟨entry.command, .sent node partition carrier closed⟩)
      (ends : Ends (some input) id ⟨entry.command, .sent node partition carrier closed⟩) :
      Deal m input d₀ d [] [] (((d.remove id).1.dropped input).apply m entry.command outcome)
  | dismissed {d id entry error node partition carrier closed}
      (since : d₀.inFlight.get? id = some entry) (dismisses : Dismisses input id entry.command error)
      (under : d.inFlight.get? id = some ⟨entry.command, .sent node partition carrier closed⟩)
      (ends : Ends (some input) id ⟨entry.command, .sent node partition carrier closed⟩) :
      Deal m input d₀ d [] []
        (((d.remove id).1.dropped input).finish entry.command (.error error))

/-- Some deals, one after another. -/
inductive Deals (m : Moment) (input : Input) (d₀ : Dispatcher) :
    Dispatcher → List Command → List (Nat × Nat) → Dispatcher → Prop where
  | refl {d} : Deals m input d₀ d [] [] d
  | tail {d d' d'' routes starts routes' starts'} (first : Deals m input d₀ d routes starts d')
      (last : Deal m input d₀ d' routes' starts' d'') :
      Deals m input d₀ d (routes ++ routes') (starts ++ starts') d''

namespace Deals

variable {d₀ d d' d'' : Dispatcher} {routes routes' : List Command}
  {starts starts' : List (Nat × Nat)}

theorem single (h : Deal m input d₀ d routes starts d') : Deals m input d₀ d routes starts d' := by
  simpa using (refl (d := d)).tail h

theorem trans (h : Deals m input d₀ d routes starts d')
    (h' : Deals m input d₀ d' routes' starts' d'') :
    Deals m input d₀ d (routes ++ routes') (starts ++ starts') d'' := by
  induction h' with
  | refl => simpa using h
  | tail _ last ih =>
      rw [← List.append_assoc, ← List.append_assoc]
      exact ih.tail last

theorem head (h : Deal m input d₀ d routes starts d')
    (h' : Deals m input d₀ d' routes' starts' d'') :
    Deals m input d₀ d (routes ++ routes') (starts ++ starts') d'' :=
  (single h).trans h'

theorem skip (h : Deal m input d₀ d [] [] d') (h' : Deals m input d₀ d' routes starts d'') :
    Deals m input d₀ d routes starts d'' :=
  head h h'

/-- What one deal keeps, all deals keep. -/
theorem induct {P : Dispatcher → List Command → List (Nat × Nat) → Prop}
    (h : Deals m input d₀ d routes starts d') (hstart : P d [] [])
    (hstep : ∀ d d' routes starts routes' starts', Deal m input d₀ d routes' starts' d' →
      P d routes starts → P d' (routes ++ routes') (starts ++ starts')) : P d' routes starts := by
  induction h with
  | refl => exact hstart
  | tail _ last ih => exact hstep _ _ _ _ _ _ last ih

end Deals

/-! ## Deals are made of moves -/

theorem Brings.stage_eq {id : Nat} {entry : Entry} {outcome : Outcome}
    (h : Brings input id entry outcome) : ∃ node partition carrier closed,
      entry.stage = .sent node partition carrier closed := by
  cases h <;> exact ⟨_, _, _, _, rfl⟩

theorem Brings.handlings {id : Nat} {entry : Entry} {outcome : Outcome}
    (h : Brings input id entry outcome) (d : Dispatcher) :
    Handlings m (some input) (d, .spent id entry.command)
      (d.apply m entry.command outcome, .empty) := by
  cases h with
  | answered => exact apply_response_handlings _ _ _ _ _
  | lost => exact apply_fault_handlings _ _ .lost _
  | unsent => exact apply_fault_handlings _ _ .unsent _
  | closed => exact apply_fault_handlings _ _ .closed _

theorem Dismisses.verdict {id : Nat} {command : Command} {error : Error}
    (h : Dismisses input id command error) :
    Verdict m (some input) (.spent id command) command (.error error) := by
  cases h with
  | abandoned => exact .abandoned
  | poolClosed => exact .poolClosed
  | rejected => exact .rejected

/-- Only the attempt that could not be sent gives cause to drop a connection. -/
theorem dropped_handlings {id : Nat} {entry : Entry} (h : Ends (some input) id entry)
    (d : Dispatcher) (command : Command) :
    Handlings m (some input) (d, .spent id command) (d.dropped input, .spent id command) := by
  cases h with
  | @unsent id node generation error =>
      cases generation with
      | none => exact .refl
      | some generation => exact .single .disconnect
  | lost | abandoned | answered | closed => exact .refl

theorem Deal.moves {d₀ d d' : Dispatcher} {routes : List Command} {starts : List (Nat × Nat)}
    (h : Deal m input d₀ d routes starts d') :
    ∃ cause, (cause = some input ∨ cause = none) ∧ Moves m cause (d, .empty) (d', .empty) := by
  cases h with
  | aside causes move => exact ⟨_, causes, .single move⟩
  | accepted cause queued =>
      subst cause
      exact ⟨_, .inl rfl, .head (.draw queued) (route_handlings _ _).moves⟩
  | resumed cause found reached =>
      subst cause
      exact ⟨_, .inl rfl, .head (.resume found reached) (route_handlings _ _).moves⟩
  | unparked cause found taken =>
      subst cause
      exact ⟨_, .inl rfl, .head (.unpark found taken) (route_handlings _ _).moves⟩
  | rested cause found taken =>
      subst cause
      exact ⟨_, .inl rfl, .head (.unpark found taken) (backOff_handlings _ _).moves⟩
  | refused cause found taken =>
      subst cause
      exact ⟨_, .inl rfl, .head (.unpark found taken) (Handlings.moves (.single (.settle .noTable)))⟩
  | expired cause found late =>
      subst cause
      exact ⟨_, .inl rfl, .single (.expire found late)⟩
  | @promoted _ node id rest command other partition first room found =>
      refine ⟨_, .inr rfl, .head (.promote first room found) (Handlings.moves ?_)⟩
      apply dispatch_handlings
      rw [← room]
      have hsent :=
        remove_sentPerNode_of_waiting { d with waiting := d.waiting.put node rest } found
      exact hasCapacity_congr hsent m node
  | ended since brings under ends =>
      exact ⟨_, .inl rfl, .head (.retire under ends)
        (Handlings.moves ((dropped_handlings ends _ _).trans (brings.handlings _)))⟩
  | dismissed since dismisses under ends =>
      exact ⟨_, .inl rfl, .head (.retire under ends)
        (Handlings.moves ((dropped_handlings ends _ _).tail (.settle dismisses.verdict)))⟩

/-! ## Turns are made of deals -/

section

variable (d₀ : Dispatcher)

theorem accept_deals (d : Dispatcher) :
    ∃ starts, Deals m .accept d₀ d (d.routed m .accept) starts (d.accept m) := by
  unfold accept routed
  cases hqueued : d.inbound with
  | nil => exact ⟨_, .refl⟩
  | cons command rest => exact ⟨_, .single (.accepted rfl hqueued)⟩

theorem fireTimer_deals (d : Dispatcher) (id : Nat) :
    ∃ starts, Deals m .timers d₀ d (resumed m d id) starts (d.fireTimer m id) := by
  unfold fireTimer resumed
  cases hentry : d.inFlight.get? id with
  | none => exact ⟨_, .refl⟩
  | some entry =>
      obtain ⟨command, stage⟩ := entry
      by_cases hlate : command.deadline ≤ m.now
      · have hearly : ¬m.now < command.deadline := Nat.not_lt.mpr hlate
        have hexpired : Deals m .timers d₀ d [] [] ((d.remove id).1.timeOut command) :=
          .single (.expired rfl hentry hlate)
        cases stage with
        | backoff =>
            simp only [hlate, hearly, false_and, ite_true, ite_false]
            exact ⟨_, hexpired⟩
        | sent | waiting | awaitingTopology =>
            simp only [hlate, ite_true]
            exact ⟨_, hexpired⟩
      · have hearly : m.now < command.deadline := Nat.lt_of_not_le hlate
        cases stage with
        | backoff due =>
            by_cases hreached : due ≤ m.now
            · simp only [hlate, hearly, hreached, and_self, ite_true, ite_false]
              exact ⟨_, .single (.resumed rfl hentry hreached)⟩
            · simp only [hlate, hreached, and_false, ite_false]
              exact ⟨_, .refl⟩
        | sent | waiting | awaitingTopology =>
            simp only [hlate, ite_false]
            exact ⟨_, .refl⟩

theorem fireDue_deals (fuel : Nat) (d : Dispatcher) :
    ∃ starts, Deals m .timers d₀ d (resumedBy m fuel d) starts (d.fireDue m fuel) := by
  induction fuel generalizing d with
  | zero => exact ⟨_, .refl⟩
  | succ fuel ih =>
      unfold fireDue resumedBy
      cases htimers : d.timers with
      | nil => exact ⟨_, .refl⟩
      | cons timer rest =>
          obtain ⟨due, id⟩ := timer
          simp only
          split
          · next reached =>
              have htick : Deal m .timers d₀ d [] [] { d with timers := rest } :=
                .aside (.inl rfl) (.tick htimers reached) rfl rfl rfl
              obtain ⟨starts, hfire⟩ := fireTimer_deals (m := m) d₀
                { d with timers := rest } id
              obtain ⟨more, hrest⟩ := ih ({ d with timers := rest }.fireTimer m id)
              exact ⟨_, .skip htick (hfire.trans hrest)⟩
          · exact ⟨_, .refl⟩

theorem callUp_deals (result : Except TopologyError Unit) {d : Dispatcher} {id : Nat}
    {ids : List Nat} (h : Awaiting d (id :: ids)) :
    ∃ starts, Deals m (.task (.refreshed result)) d₀ d
      (match result with | .ok () => calledUp d id | .error _ => []) starts
      (callUp m result d id) := by
  obtain ⟨-, htaken, hstage⟩ := h id (List.mem_cons_self ..)
  cases hentry : d.inFlight.get? id with
  | none =>
      rw [callUp_of_none hentry]
      cases result <;> simp only [calledUp, hentry] <;> exact ⟨_, .refl⟩
  | some entry =>
      obtain ⟨command, stage⟩ := entry
      obtain rfl : stage = .awaitingTopology := (hstage _ hentry).1
      have hremove : d.remove id = ((d.remove id).1, some ⟨command, .awaitingTopology⟩) := by
        rw [← hentry, ← remove_snd]
      unfold callUp
      rw [hremove]
      cases result with
      | error error => exact ⟨_, .single (.refused rfl hentry htaken)⟩
      | ok =>
          simp only [calledUp, hentry]
          split
          · exact ⟨_, .single (.rested rfl hentry htaken)⟩
          · exact ⟨_, .single (.unparked rfl hentry htaken)⟩

theorem callUps_deals (result : Except TopologyError Unit) (ids : List Nat) (d : Dispatcher)
    (honce : ids.Nodup) (hparked : Awaiting d ids) :
    ∃ starts, Deals m (.task (.refreshed result)) d₀ d
      (match result with | .ok () => calledUpBy m ids d | .error _ => []) starts
      (ids.foldl (callUp m result) d) := by
  induction ids generalizing d with
  | nil => cases result <;> exact ⟨_, .refl⟩
  | cons id rest ih =>
      obtain ⟨hid, honce⟩ := List.nodup_cons.mp honce
      obtain ⟨starts, hfirst⟩ := callUp_deals (m := m) d₀ result hparked
      obtain ⟨more, hrest⟩ := ih _ honce (hparked.callUp (m := m) hid result)
      rw [List.foldl_cons]
      cases result with
      | ok => exact ⟨_, hfirst.trans hrest⟩
      | error error => exact ⟨_, hfirst.trans hrest⟩

theorem onRefreshed_deals {d : Dispatcher} (hd : Numbered d .empty)
    (result : Except TopologyError Unit) :
    ∃ starts, Deals m (.task (.refreshed result)) d₀ d (d.routed m (.task (.refreshed result)))
      starts (d.onRefreshed m result) := by
  have hcollect : Deal m (.task (.refreshed result)) d₀ d [] []
      { d with refreshing := false, parked := [] } := .aside (.inl rfl) .collect rfl rfl rfl
  obtain ⟨starts, hcalled⟩ :=
    callUps_deals (m := m) d₀ result d.parked _ hd.parked_once hd.awaiting
  rw [onRefreshed_eq]
  cases result with
  | ok => exact ⟨_, .skip hcollect hcalled⟩
  | error error => exact ⟨_, .skip hcollect hcalled⟩

end

/-! ### Attempts that end -/

section

variable {d : Dispatcher}

theorem onResponse_deals (d : Dispatcher) (sender : NodeId) (response : Response) :
    Deals m (.node (.response sender response)) d d [] [] (d.onResponse m response) := by
  unfold onResponse
  rcases takeSent_cases d response.opaqueId.toNat with
    ⟨command, node, partition, carrier, closed, hentry, h⟩ | ⟨-, h⟩
  · rw [h]
    exact .single (.ended hentry .answered hentry .answered)
  · rw [h]
    exact .refl

theorem onSendFailed_deals (d : Dispatcher) (id : Nat) (node : NodeId) (generation : Option Nat)
    (error : ConnectionError) :
    Deals m (.task (.sendFailed id node generation error)) d d [] []
      (d.onSendFailed m id node generation error) := by
  unfold onSendFailed
  rcases takeSent_cases d id with ⟨command, other, partition, carrier, closed, hentry, h⟩ | ⟨-, h⟩
  · rw [h]
    have hdropped : (generation.elim (d.remove id).1
        fun generation => (d.remove id).1.emit (.disconnect node generation)) =
          (d.remove id).1.dropped (.task (.sendFailed id node generation error)) := by
      cases generation <;> rfl
    simp only [hdropped]
    cases error with
    | poolClosed => exact .single (.dismissed hentry .poolClosed hentry .unsent)
    | auth => exact .single (.dismissed hentry .rejected hentry .unsent)
    | connect | closed =>
        exact .single (.ended hentry (.unsent (by simp) (by simp)) hentry .unsent)
  · rw [h]
    exact .refl

theorem onAbandoned_deals (d : Dispatcher) (id : Nat) :
    Deals m (.task (.abandoned id)) d d [] [] (d.onTask m (.abandoned id)) := by
  rcases takeSent_cases d id with ⟨command, node, partition, carrier, closed, hentry, h⟩ | ⟨-, h⟩
  · simp only [onTask, h]
    exact .single (.dismissed hentry .abandoned hentry .abandoned)
  · simp only [onTask, h]
    exact .refl

theorem onSent_deals (hd : Numbered d .empty) (id generation : Nat) :
    Deals m (.task (.sent id generation)) d (d.mark (.task (.sent id generation))) [] []
      (d.onSent m id generation) := by
  rcases takeSent_cases d id with ⟨command, node, partition, carrier, closed, h, -⟩ | ⟨hnone, -⟩
  · rw [mark_sent_of_sent hd h]
    simp only [onSent, h]
    split
    · next hdead =>
        have hdead : generation ∈ closed := by simpa using hdead
        exact .single (.ended h (.lost hdead) (Assoc.get?_put_self _ _ _) (.lost hdead))
    · exact .refl
  · rw [mark_sent_of_not_sent hd hnone]
    unfold onSent
    split
    · next command node partition carrier closed h => exact absurd h (hnone _ _ _ _ _)
    · exact .refl

/-- Some numbers are those of attempts that went out on a connection, and their entries are still
as they were unless they are gone. -/
def Carrying (d₀ d : Dispatcher) (node : NodeId) (generation : Nat) (ids : List Nat) : Prop :=
  ∀ id ∈ ids, id < d.nextId ∧
    ∀ entry, d.inFlight.get? id = some entry →
      d₀.inFlight.get? id = some entry ∧ carriedBy node generation entry

theorem Carrying.endLost {d₀ : Dispatcher} {node : NodeId} {generation : Nat} {ids : List Nat}
    (h : Carrying d₀ d node generation ids) (id : Nat) (reason : String) :
    Carrying d₀ (endLost m reason d id) node generation ids := by
  intro other hother
  obtain ⟨hissued, hcarried⟩ := h other hother
  obtain ⟨hissued', hsame | ⟨-, hgone⟩⟩ := endLost_get? (m := m) id reason hissued
  · exact ⟨hissued', by rw [hsame]; exact hcarried⟩
  · exact ⟨hissued', by simp [hgone]⟩

theorem endLost_deals {d₀ : Dispatcher} {node : NodeId} {generation : Nat} {id : Nat}
    (reason : String) (h : ∀ entry, d.inFlight.get? id = some entry →
      d₀.inFlight.get? id = some entry ∧ carriedBy node generation entry) :
    Deals m (.node (.closed node generation reason)) d₀ d [] [] (endLost m reason d id) := by
  rcases takeSent_cases d id with ⟨command, other, _, carrier, _, hentry, -⟩ | ⟨hnone, -⟩
  · rw [endLost_of_sent hentry]
    obtain ⟨hsince, hcarried⟩ := h _ hentry
    cases carrier with
    | none => simp [carriedBy] at hcarried
    | some carrier =>
        have hends : Ends (some (.node (.closed node generation reason))) id _ :=
          .closed hcarried
        simp only [carriedBy, Bool.and_eq_true, decide_eq_true_eq] at hcarried
        obtain ⟨rfl, rfl⟩ := hcarried
        exact .single (.ended hsince .closed hentry hends)
  · rw [endLost_of_not_sent hnone]
    exact .refl

theorem endLosts_deals {d₀ : Dispatcher} (node : NodeId) (generation : Nat) (reason : String)
    (lost : List Nat) (d : Dispatcher) (hlost : Carrying d₀ d node generation lost) :
    Deals m (.node (.closed node generation reason)) d₀ d [] []
      (lost.foldl (endLost m reason) d) := by
  induction lost generalizing d with
  | nil => exact .refl
  | cons id rest ih =>
      have hrest : Carrying d₀ d node generation rest :=
        fun other hother => hlost other (List.mem_cons_of_mem _ hother)
      exact (endLost_deals reason (hlost id (List.mem_cons_self ..)).2).trans
        (ih _ (hrest.endLost id reason))

theorem onClosed_deals (hd : Numbered d .empty) (node : NodeId) (generation : Nat)
    (reason : String) :
    Deals m (.node (.closed node generation reason)) d
      (d.mark (.node (.closed node generation reason))) [] []
      (d.onClosed m node generation reason) := by
  rw [onClosed_eq]
  refine endLosts_deals node generation reason _ _ ?_
  intro id hid
  obtain ⟨⟨key, entry⟩, hmem, rfl⟩ := List.mem_map.mp hid
  obtain ⟨hentry, hcarried⟩ := List.mem_filter.mp hmem
  have hget := Assoc.get?_of_mem hd.distinct hentry
  have hsame : markEntry (.node (.closed node generation reason)) key entry = entry := by
    obtain ⟨command, stage⟩ := entry
    cases stage with
    | sent other partition carrier closed =>
        cases carrier with
        | none => simp [carriedBy] at hcarried
        | some carrier => simp [markEntry, heard]
    | waiting | awaitingTopology | backoff => rfl
  refine ⟨hd.issued key entry hget, ?_⟩
  intro marked hmarked
  rw [mark_get?, hget, Option.map_some, hsame] at hmarked
  obtain rfl := Option.some.inj hmarked
  exact ⟨hget, hcarried⟩

end

/-! ### Room at nodes -/

section

variable (d₀ : Dispatcher)

theorem promoteNode_deals (input : Input) (node : NodeId) (fuel : Nat) (d : Dispatcher) :
    ∃ starts, Deals m input d₀ d [] starts (d.promoteNode m node fuel) := by
  induction fuel generalizing d with
  | zero => exact ⟨_, .refl⟩
  | succ fuel ih =>
      rcases promoteNode_cases m node fuel d with ⟨-, h⟩ | ⟨-, h⟩ |
        ⟨hroom, id, rest, hqueue, ⟨command, other, partition, hentry, h⟩ | ⟨hgone, h⟩⟩
      · rw [h]
        exact ⟨_, .refl⟩
      · rw [h]
        exact ⟨_, .refl⟩
      · rw [h]
        obtain ⟨starts, hrest⟩ := ih
          (({ d with waiting := d.waiting.put node rest }.remove id).1.dispatch m command
            ⟨partition, node⟩)
        exact ⟨_, .head (.promoted hqueue hroom hentry) hrest⟩
      · rw [h]
        obtain ⟨starts, hrest⟩ := ih { d with waiting := d.waiting.put node rest }
        exact ⟨_, .skip (.aside (.inr rfl) (.skip hqueue hgone) rfl rfl rfl) hrest⟩

theorem promoteNodes_deals (input : Input) (nodes : List NodeId) (d : Dispatcher) :
    ∃ starts, Deals m input d₀ d [] starts
      (nodes.foldl (fun d node => d.promoteNode m node (d.waitingFor node).length) d) := by
  induction nodes generalizing d with
  | nil => exact ⟨_, .refl⟩
  | cons node nodes ih =>
      obtain ⟨starts, hfirst⟩ := promoteNode_deals (m := m) d₀ input node
        (d.waitingFor node).length d
      obtain ⟨more, hrest⟩ := ih (d.promoteNode m node (d.waitingFor node).length)
      exact ⟨_, hfirst.trans hrest⟩

theorem promoteWaiting_deals (input : Input) (d : Dispatcher) :
    ∃ starts, Deals m input d₀ d [] starts (d.promoteWaiting m) := by
  unfold promoteWaiting
  split
  · exact ⟨_, .refl⟩
  · obtain ⟨starts, hnodes⟩ := promoteNodes_deals (m := m) d₀ input _ d
    exact ⟨_, hnodes.tail (.aside (.inr rfl) .tidy rfl rfl rfl)⟩

end

/-! ### Whole turns -/

theorem act_deals {d : Dispatcher} (hd : Numbered d .empty) (hinput : input ≠ .shutdown) :
    ∃ starts, Deals m input d (d.mark input) (d.routed m input) starts (d.act m input) := by
  cases input with
  | accept =>
      rw [mark_eq_self d (by simp) (by simp)]
      exact accept_deals d d
  | timers =>
      rw [mark_eq_self d (by simp) (by simp)]
      exact fireDue_deals d _ d
  | shutdown => exact absurd rfl hinput
  | node event =>
      cases event with
      | response sender response =>
          rw [mark_eq_self d (by simp) (by simp)]
          exact ⟨_, onResponse_deals d sender response⟩
      | closed node generation reason => exact ⟨_, onClosed_deals hd node generation reason⟩
  | task event =>
      cases event with
      | sent id generation => exact ⟨_, onSent_deals hd id generation⟩
      | sendFailed id node generation error =>
          rw [mark_eq_self d (by simp) (by simp)]
          exact ⟨_, onSendFailed_deals d id node generation error⟩
      | abandoned id =>
          rw [mark_eq_self d (by simp) (by simp)]
          exact ⟨_, onAbandoned_deals d id⟩
      | refreshed result =>
          rw [mark_eq_self d (by simp) (by simp)]
          exact onRefreshed_deals d hd result

/-- Once its input is noted a turn is made of deals, in which just the commands are sent on their
way that `routed` lists. -/
theorem turn_deals {d : Dispatcher} (hd : Numbered d .empty) (hinput : input ≠ .shutdown) :
    ∃ starts, Deals m input d (d.mark input) (d.routed m input) starts (d.turn m input) := by
  obtain ⟨starts, hact⟩ := act_deals (m := m) hd hinput
  obtain ⟨more, hpromote⟩ :=
    promoteWaiting_deals (m := m) d input (d.act m input)
  rw [turn_eq d hinput]
  have hturn := hact.trans hpromote
  rw [List.append_nil] at hturn
  exact ⟨_, hturn⟩

end Dispatcher

end ClusterKv

import ClusterKv.Proofs.Cluster.Answers
import ClusterKv.Proofs.Simulation.Phases

/-! # The steps of a world with one command

One lemma for each phase: which step is taken there, and what it leads to. -/

namespace ClusterKv

/-! ## Connections -/

namespace Pool

variable {pool : Pool}

theorem Calm.slot_idle (h : pool.Calm) (node : NodeId) :
    (pool.slot node).creation = .idle ∧ (pool.slot node).queue = [] := by
  unfold Pool.slot
  cases hget : pool.slots.get? node with
  | none => exact ⟨rfl, rfl⟩
  | some slot => exact h.slots _ (Assoc.mem_of_get? hget)

/-- A pool is calm again once the slot of the one node is. -/
theorem Calm.of_put {others : Pool} (h : pool.Calm) {node : NodeId} {slot : Slot}
    (hslots : others.slots = pool.slots.put node slot) (hclosed : others.closed = pool.closed)
    (hidle : slot.creation = .idle) (hqueue : slot.queue = []) : others.Calm where
  unclosed := hclosed.trans h.unclosed
  slots := by
    intro e he
    rw [hslots] at he
    rcases Assoc.mem_put he with he | rfl
    · exact h.slots e he
    · exact ⟨hidle, hqueue⟩

/-- Who needs a connection gets one that is alive, or may connect at once. -/
theorem Calm.acquire (h : pool.Calm) (alive : Nat → Bool) (caller : Nat) (node : NodeId) :
    (∃ pool' generation, pool.acquire alive caller node = (pool', .ready generation) ∧
      alive generation = true ∧ pool'.Calm) ∨
    ∃ pool' generation, pool.acquire alive caller node = (pool', .dial generation) ∧
      ∀ result, ∃ pool'', pool'.dialed node generation result = (pool'', result, false) ∧
        pool''.Calm := by
  obtain ⟨hidle, hqueue⟩ := h.slot_idle node
  cases hcurrent : (pool.slot node).current.filter alive with
  | some generation =>
      refine Or.inl ⟨pool.setSlot node (Slot.prune alive (pool.slot node)), generation, ?_, ?_,
        h.of_put rfl rfl hidle hqueue⟩
      · simp [Pool.acquire, h.unclosed, Slot.prune, hcurrent]
      · exact (Option.filter_eq_some_iff.mp hcurrent).2
  | none =>
      let claimed := { pool with nextGeneration := pool.nextGeneration + 1 }.setSlot node
        { Slot.prune alive (pool.slot node) with
          creation := .dialing caller pool.nextGeneration }
      refine Or.inr ⟨claimed, pool.nextGeneration, ?_, ?_⟩
      · simp [Pool.acquire, Pool.enter, h.unclosed, Slot.prune, hcurrent, hidle, claimed]
      · intro result
        have hslot : (claimed.slot node).queue = [] := by
          simpa [claimed, Pool.slot, Pool.setSlot, Slot.prune] using hqueue
        have hunclosed : claimed.closed = false := h.unclosed
        cases result with
        | error error =>
            refine ⟨claimed.setSlot node (Slot.release (claimed.slot node)), rfl,
              h.of_put (Assoc.put_put _ _ _ _) rfl ?_ ?_⟩ <;> simp [Slot.release, hslot]
        | ok =>
            let held : Slot :=
              { claimed.slot node with current := some pool.nextGeneration }
            refine ⟨claimed.setSlot node (Slot.release held), by simp [Pool.dialed, hunclosed, held],
              h.of_put (Assoc.put_put _ _ _ _) rfl ?_ ?_⟩ <;> simp [Slot.release, hslot, held]

end Pool

namespace World

variable {w : World Cluster}

/-! ## Attempts -/

/-- The world once the request of an attempt was written and executed. -/
def delivered (w : World Cluster) (id generation : Nat) (attempt : Attempt) : World Cluster :=
  { w with
    network := (Cluster.network.perform w.network attempt.node attempt.request w.now).1
    writeLog := ⟨w.now, w.now, id, generation, attempt⟩ :: w.writeLog
    sentLog := ⟨w.now, attempt.node, generation, attempt.request⟩ :: w.sentLog
    nodeEvents := w.nodeEvents ++ [.response attempt.node
      (Cluster.network.perform w.network attempt.node attempt.request w.now).2]
    attempts := w.attempts.erase id
    endLog := ⟨w.now, id, .sent id generation⟩ :: w.endLog
    taskEvents := w.taskEvents ++ [.sent id generation] }

/-- A request is executed as it is written to a connection that is alive. -/
theorem write_alive {id generation : Nat} {attempt : Attempt}
    (hattempt : w.attempts.get? id = some attempt) (live : w.now < attempt.deadline)
    (hstopped : w.dispatcher.stopped = false)
    (halive : w.isAlive Cluster.network attempt.node generation = true) :
    w.write Cluster.network id generation attempt = w.delivered id generation attempt := by
  have hlate : ¬ attempt.deadline ≤ w.now := Nat.not_le_of_lt live
  have hup : Cluster.network.isUp w.network attempt.node = true := by
    unfold isAlive at halive
    exact (Bool.and_eq_true_iff.mp halive).1
  have hplan : Cluster.network.write w.network attempt.node attempt.request =
      (w.network, { result := .ok [(.zero, .perform attempt.request)] }) := rfl
  have hzero : Duration.zero.nanos = 0 := rfl
  simp only [World.write, hlate, ite_false, hup, ite_true, halive, Bool.not_true,
    Bool.false_eq_true, hplan, hzero, startWriting, written, hattempt, performAll, perform, report,
    conclude, hstopped, delivered, Nat.add_zero]

/-- The world once there was no connection for an attempt. -/
def undelivered (w : World Cluster) (id : Nat) (attempt : Attempt) (error : ConnectionError) :
    World Cluster :=
  { w with
    attempts := w.attempts.erase id
    endLog := ⟨w.now, id, .sendFailed id attempt.node none error⟩ :: w.endLog
    taskEvents := w.taskEvents ++ [.sendFailed id attempt.node none error] }

/-- A world that differs in nothing but its pool, its connections and its attempts to connect. -/
def rewired (w : World Cluster) (pool : Pool) (connections : List Connection)
    (dialLog : List DialRecord) : World Cluster :=
  { w with pool, connections, dialLog }

/-- Whoever can be connected to is up. -/
theorem isUp_of_connect {c : Cluster} {credentials : Credentials} {id : NodeId}
    (h : Node.connect c.nodes credentials id = .ok ()) : Cluster.network.isUp c id = true := by
  unfold Node.connect at h
  split at h
  · cases h
  next node hnode =>
  split at h
  · cases h
  next hup =>
  have hid : node.id = id := by simpa using List.find?_some hnode
  exact List.any_eq_true.mpr ⟨node, List.mem_of_find?_eq_some hnode, by simp_all⟩

/-- An attempt gets a connection and is executed, or there is no connection for it. -/
theorem acquire_cases {id : Nat} {attempt : Attempt} (hpool : w.pool.Calm)
    (hattempt : w.attempts.get? id = some attempt) (live : w.now < attempt.deadline)
    (hstopped : w.dispatcher.stopped = false) :
    ∃ pool connections dialLog, pool.Calm ∧
      ((∃ generation, w.acquire Cluster.network id attempt.node =
          (w.rewired pool connections dialLog).delivered id generation attempt) ∨
        ∃ error, Node.connect w.network.nodes w.network.credentials attempt.node = .error error ∧
          w.acquire Cluster.network id attempt.node =
            (w.rewired pool connections dialLog).undelivered id attempt error) := by
  rcases hpool.acquire (w.isAlive Cluster.network attempt.node) id attempt.node with
    ⟨pool, generation, hacquire, halive, hcalm⟩ | ⟨pool, generation, hacquire, hdialed⟩
  · refine ⟨pool, w.connections, w.dialLog, hcalm, Or.inl ⟨generation, ?_⟩⟩
    simp only [World.acquire, hacquire, follow, obtained, hattempt]
    exact write_alive (w := w.rewired pool w.connections w.dialLog) hattempt live hstopped halive
  · let dialLog := ⟨w.now, attempt.node, generation⟩ :: w.dialLog
    have hplan : Cluster.network.dial w.network attempt.node = (w.network, some (.zero,
        Node.connect w.network.nodes w.network.credentials attempt.node)) := rfl
    have hzero : Duration.zero.nanos = 0 := rfl
    cases hresult : Node.connect w.network.nodes w.network.credentials attempt.node with
    | error error =>
        obtain ⟨pool', hpool', hcalm⟩ := hdialed (.error error)
        refine ⟨pool', w.connections, dialLog, hcalm, Or.inr ⟨error, rfl, ?_⟩⟩
        simp only [World.acquire, hacquire, follow, hplan, hzero, ite_true, dialed, hresult, hpool',
          Bool.false_eq_true, ite_false, List.append_nil, obtained, hattempt, Except.map, conclude,
          hstopped]
        rfl
    | ok =>
        obtain ⟨pool', hpool', hcalm⟩ := hdialed (.ok ())
        refine ⟨pool', w.connections ++ [{ link := { node := attempt.node, generation } }], dialLog,
          hcalm, Or.inl ⟨generation, ?_⟩⟩
        simp only [World.acquire, hacquire, follow, hplan, hzero, ite_true, dialed, hresult, hpool',
          Bool.false_eq_true, ite_false, obtained, hattempt, Except.map]
        refine write_alive (w := w.rewired pool' _ dialLog) hattempt live hstopped ?_
        have hup : Cluster.network.isUp w.network attempt.node = true := isUp_of_connect hresult
        have hopened : Connection.isOf { link := { node := attempt.node, generation } }
            attempt.node generation = true := by
          simp [Connection.isOf]
        simp only [isAlive, rewired, hup, Bool.true_and, List.any_append, List.any_cons, hopened]
        simp

/-! ## The steps of each phase -/

/-- A world takes a step to a phase. -/
structure LeadsTo (w w' : World Cluster) (phase : Phase) : Prop extends Settles w' phase where
  step : w.step? Cluster.network = some w'

variable {c : Command} {route : Route}

/-- What is seen of a world once a request was executed. -/
def View.executed (v : View) (node : NodeId) (generation : Nat) (request : Request) : View :=
  { v with
    network := (Cluster.network.perform v.network node request v.now).1
    sentLog := ⟨v.now, node, generation, request⟩ :: v.sentLog }

/-- An attempt starts: its request is executed at once, or there is no connection for it. -/
theorem step_starting (hs : Settles w (.starting c route)) :
    (∃ w' generation, LeadsTo w w' (.answered c route generation
        (Cluster.network.perform w.network route.node (Dispatcher.requestOf c route) w.now).2) ∧
      w'.dispatcher.nextId = w.dispatcher.nextId ∧
      w'.view = w.view.executed route.node generation (Dispatcher.requestOf c route)) ∨
    ∃ w' error, Node.connect w.network.nodes w.network.credentials route.node = .error error ∧
      LeadsTo w w' (.failing c route error) ∧ w'.view = w.view := by
  obtain ⟨hq, h⟩ := hs
  have live : w.now < c.deadline := h.live c rfl
  have hkeyed : c.target = .key := h.keyed c rfl
  have hknown : c.id < w.dispatcher.nextId := h.known c rfl
  let w₁ : World Cluster := { w with jobs := [] }
  let attempt : Attempt := ⟨route.node, Dispatcher.requestOf c route, c.deadline⟩
  have hattempts : w.attempts = [(c.id, attempt)] := h.attempts
  have hattempt : w₁.attempts.get? c.id = some attempt := by
    simp [w₁, hattempts, Assoc.get?]
  have hstep : w.step? Cluster.network = some (w₁.acquire Cluster.network c.id attempt.node) := by
    rw [step?_job hq h h.taskEvents h.nodeEvents h.inbound h.jobs]
    simp only [run]
    rw [show ({ w with jobs := [] } : World Cluster).attempts.get? c.id = some attempt from hattempt]
  have herase : w.attempts.erase c.id = [] := by simp [hattempts, Assoc.erase]
  obtain ⟨pool, connections, dialLog, hcalm, hacquire⟩ :=
    acquire_cases (w := w₁) hq.pool hattempt live h.stopped
  rcases hacquire with ⟨generation, heq⟩ | ⟨error, hconnect, heq⟩
  · refine Or.inl ⟨(w₁.rewired pool connections dialLog).delivered c.id generation attempt,
      generation, ⟨⟨⟨hq.1, hq.2, hq.3, hq.4, hq.5, hcalm, hq.7⟩, ?_⟩,
        hstep.trans (congrArg some heq)⟩, rfl, rfl⟩
    refine ⟨h.dispatcher, rfl, ?_, ?_, herase, ?_, ?_, ?_, ?_⟩
    · simp [delivered, rewired, w₁, h.taskEvents, Phase.taskEvents]
    · simp [delivered, rewired, w₁, h.nodeEvents, Phase.nodeEvents, attempt]
    · exact fun _ hc => Option.some.inj hc ▸ hkeyed
    · exact fun _ hc => Option.some.inj hc ▸ hknown
    · exact fun _ hc => Option.some.inj hc ▸ live
    · exact fun _ he => Option.some.inj he ▸ Cluster.executeOn_opaqueId _ _ _ _
  · refine Or.inr ⟨(w₁.rewired pool connections dialLog).undelivered c.id attempt error, error,
      hconnect, ⟨⟨⟨hq.1, hq.2, hq.3, hq.4, hq.5, hcalm, hq.7⟩, ?_⟩,
        hstep.trans (congrArg some heq)⟩, rfl⟩
    refine ⟨h.dispatcher, rfl, ?_, h.nodeEvents, herase, ?_, ?_, ?_, ?_⟩
    · simp [undelivered, rewired, w₁, h.taskEvents, Phase.taskEvents, attempt]
    · exact fun _ hc => Option.some.inj hc ▸ hkeyed
    · exact fun _ hc => Option.some.inj hc ▸ hknown
    · simp [Phase.pressing?]
    · simp [Phase.answer?]

/-- A turn of the dispatcher about the command leads on. -/
theorem leads_of_turn {w₀ : World Cluster} {input : Dispatcher.Input}
    (hstep : w.step? Cluster.network = some (w₀.turn input)) (hq : Quiet w₀) (hfree : Free w₀)
    (hkey : c.target = .key) (hview : w₀.view = w.view)
    (hdealt : Dispatcher.DealtWith w₀.moment c w.dispatcher.nextId
      (w₀.dispatcher.turn w₀.moment input)) :
    ∃ w' phase', LeadsTo w w' phase' ∧ Onward w.view c phase' w'.view := by
  obtain ⟨phase', hsettles, honward⟩ := turn_dealt hq hfree hkey hdealt
  exact ⟨_, phase', ⟨hsettles, hstep⟩, hview ▸ honward⟩

/-- The dispatcher learns that there was no connection. -/
theorem step_failing {error : ConnectionError} (hs : Settles w (.failing c route error)) :
    ∃ w' phase', LeadsTo w w' phase' ∧ Onward w.view c phase' w'.view := by
  obtain ⟨hq, h⟩ := hs
  have hkey : c.target = .key := h.keyed c rfl
  refine leads_of_turn (step?_task hq h h.taskEvents) (hq.congr rfl rfl rfl rfl rfl rfl rfl)
    ⟨h.jobs, rfl, h.nodeEvents, h.attempts⟩ hkey rfl ?_
  change Dispatcher.DealtWith w.moment c w.dispatcher.nextId
    ((w.dispatcher.onSendFailed w.moment c.id route.node none error).promoteWaiting w.moment)
  rw [h.dispatcher]
  simp only [Phase.lone, Lone.dispatcher_nextId]
  exact (Dispatcher.onSendFailed_dealt hkey route error).promoteWaiting

/-- The dispatcher learns that the refresh is over. -/
theorem step_refreshed {result : Except TopologyError Unit}
    (hs : Settles w (.refreshed c result)) (hroom : 0 < w.config.maxInFlightPerNode) :
    ∃ w' phase', LeadsTo w w' phase' ∧ Onward w.view c phase' w'.view := by
  obtain ⟨hq, h⟩ := hs
  have hkey : c.target = .key := h.keyed c rfl
  have hknown : c.id < w.dispatcher.nextId := h.known c rfl
  refine leads_of_turn (step?_task hq h h.taskEvents) (hq.congr rfl rfl rfl rfl rfl rfl rfl)
    ⟨h.jobs, rfl, h.nodeEvents, h.attempts⟩ hkey rfl ?_
  change Dispatcher.DealtWith w.moment c w.dispatcher.nextId
    ((w.dispatcher.onRefreshed w.moment result).promoteWaiting w.moment)
  rw [h.dispatcher]
  simp only [Phase.lone, Lone.dispatcher_nextId]
  exact (Dispatcher.onRefreshed_dealt hkey hroom hknown result).promoteWaiting

/-- The dispatcher learns that the request went out. -/
theorem step_answered {generation : Nat} {response : Response}
    (hs : Settles w (.answered c route generation response)) :
    ∃ w', LeadsTo w w' (.acked c route generation response) ∧
      w'.dispatcher.nextId = w.dispatcher.nextId ∧ w'.view = w.view := by
  obtain ⟨hq, h⟩ := hs
  let w₀ : World Cluster := { w with taskEvents := [] }
  let acked := (Lone.sent c route (some generation)).dispatcher w.dispatcher.nextId
    w.dispatcher.timers []
  have hturn : w₀.dispatcher.turn w₀.moment (.task (.sent c.id generation)) = acked := by
    change (w.dispatcher.onSent w.moment c.id generation).promoteWaiting w.moment = acked
    rw [h.dispatcher, Phase.lone, Dispatcher.onSent_sent, Lone.dispatcher_promoteWaiting]
  have hw : w₀.turn (.task (.sent c.id generation)) = { w₀.setAlarm with dispatcher := acked } :=
    turn_eq hturn
  refine ⟨{ w₀.setAlarm with dispatcher := acked }, ⟨⟨hq.congr rfl rfl rfl rfl rfl rfl rfl, ?_⟩,
    (step?_task hq h h.taskEvents).trans (congrArg some hw)⟩, by simp [acked], rfl⟩
  exact ⟨by simp [acked, Phase.lone], h.jobs, rfl, h.nodeEvents, h.attempts, h.keyed,
    fun c' hc => by simpa [acked] using h.known c' hc, h.live, h.echoed⟩

theorem acked_turn {generation : Nat} {response : Response}
    (h : At w (.acked c route generation response)) (hid : c.id < UInt64.size) :
    w.dispatcher.turn w.moment (.node (.response route.node response)) =
      ((Lone.nothing.dispatcher w.dispatcher.nextId w.dispatcher.timers []).apply w.moment c
        (Outcome.ofResponse c.operation route.partition response)).promoteWaiting w.moment := by
  have hecho : response.opaqueId = c.id.toUInt64 := h.echoed (c, response) rfl
  change (w.dispatcher.onResponse w.moment response).promoteWaiting w.moment = _
  rw [h.dispatcher, Phase.lone, Dispatcher.onResponse_sent hid route _ hecho]
  simp

/-- The dispatcher learns the answer, which decides the command. -/
theorem step_decided {generation : Nat} {response : Response} {result : Except Error Reply}
    (hs : Settles w (.acked c route generation response)) (hid : c.id < UInt64.size)
    (hresult : Dispatcher.decided? c response = some result) :
    ∃ w', LeadsTo w w' .idle ∧ w'.view = w.view.resolve c result := by
  obtain ⟨hq, h⟩ := hs
  let w₀ : World Cluster := { w with nodeEvents := [] }
  have hturn : w₀.dispatcher.turn w₀.moment (.node (.response route.node response)) =
      Lone.nothing.dispatcher w.dispatcher.nextId w.dispatcher.timers
        [.resolve c.ticket result] := by
    have live : w.moment.now < c.deadline := h.live c rfl
    refine (acked_turn h hid).trans ?_
    rw [Dispatcher.apply_decided live hresult, Lone.dispatcher_promoteWaiting]
  obtain ⟨hsettles, -, hview⟩ := turn_ended (w := w₀) (hq.congr rfl rfl rfl rfl rfl rfl rfl)
    ⟨h.jobs, h.taskEvents, rfl, h.attempts⟩ hturn
  exact ⟨_, ⟨hsettles, step?_node hq h h.taskEvents h.nodeEvents⟩, hview⟩

/-- The dispatcher learns the answer, which does not decide the command. -/
theorem step_undecided {generation : Nat} {response : Response}
    (hs : Settles w (.acked c route generation response)) (hid : c.id < UInt64.size)
    (hopen : Dispatcher.decided? c response = none) :
    ∃ w' phase', LeadsTo w w' phase' ∧ Onward w.view c phase' w'.view := by
  obtain ⟨hq, h⟩ := hs
  have hkey : c.target = .key := h.keyed c rfl
  refine leads_of_turn (step?_node hq h h.taskEvents h.nodeEvents)
    (hq.congr rfl rfl rfl rfl rfl rfl rfl) ⟨h.jobs, h.taskEvents, rfl, h.attempts⟩ hkey rfl ?_
  change Dispatcher.DealtWith w.moment c w.dispatcher.nextId
    (w.dispatcher.turn w.moment (.node (.response route.node response)))
  rw [acked_turn h hid]
  exact (Dispatcher.apply_undecided hkey hopen).promoteWaiting

/-- What is seen of a world once a refresh is over. -/
def View.refreshed (v : View) : View :=
  { v with refresher := (v.refresher.start.finish v.network.fetch).1 }

/-- A refresh is over as soon as it starts. -/
theorem step_parked (hs : Settles w (.parked c)) :
    ∃ w', LeadsTo w w' (.refreshed c
        ((w.refresher.start.finish w.network.fetch).2.map fun _ => ())) ∧
      w'.dispatcher.nextId = w.dispatcher.nextId ∧ w'.view = w.view.refreshed := by
  obtain ⟨hq, h⟩ := hs
  let finished := w.refresher.start.finish w.network.fetch
  let w' : World Cluster :=
    { w with jobs := [], refresher := finished.1
             taskEvents := w.taskEvents ++ [.refreshed (finished.2.map fun _ => ())] }
  have hstopped := h.stopped
  have hplan : Cluster.network.fetch w.network = (w.network, .zero, w.network.fetch) := rfl
  have hzero : Duration.zero.nanos = 0 := rfl
  have hrun : ({ w with jobs := [] } : World Cluster).run Cluster.network (.fetch .dispatcher) =
      w' := by
    simp only [run, startFetch, hplan, hzero, ite_true, finishFetch, hstopped, Bool.false_eq_true,
      ite_false]
    rfl
  refine ⟨w', ⟨⟨hq.congr rfl rfl rfl rfl rfl rfl rfl, ?_⟩,
    (step?_job hq h h.taskEvents h.nodeEvents h.inbound h.jobs).trans (congrArg some hrun)⟩,
    rfl, rfl⟩
  exact ⟨h.dispatcher, rfl, by simp [w', h.taskEvents, Phase.taskEvents, finished], h.nodeEvents,
    h.attempts, h.keyed, h.known, h.live, by simp [Phase.answer?]⟩

/-- The dispatcher accepts the submission, unless a timer is due. -/
theorem step?_accept (hs : Settles w (.queued c)) (hwaiting : 0 < w.config.maxWaiting)
    (hdue : w.timerDue = false) :
    w.step? Cluster.network = some (w.turn .accept).unblock := by
  obtain ⟨hq, h⟩ := hs
  have haccepting : w.dispatcher.isAccepting w.moment = true := by
    rw [h.dispatcher]
    exact decide_eq_true hwaiting
  have hinbound : w.dispatcher.inbound = [c] := h.inbound
  have htasks : w.taskEvents = [] := h.taskEvents
  have hnodes : w.nodeEvents = [] := h.nodeEvents
  simp [hq.step?_eq, dispatcherStep?, hq.attended, h.stopped, hq.stopRequests,
    htasks, hnodes, hdue, haccepting, hinbound]

theorem Quiet.unblock (hq : Quiet w) : w.unblock = w := by
  simp [World.unblock, hq.blocked]

theorem accept_turn (h : At w (.queued c)) :
    w.dispatcher.turn w.moment .accept =
      (((Lone.inbound c).dispatcher w.dispatcher.nextId w.dispatcher.timers []).accept
        w.moment).promoteWaiting w.moment := by
  change (w.dispatcher.accept w.moment).promoteWaiting w.moment = _
  rw [h.dispatcher]
  simp [Phase.lone]

theorem step_queued (hs : Settles w (.queued c)) (hroom : 0 < w.config.maxInFlightPerNode)
    (hwaiting : 0 < w.config.maxWaiting) (hdue : w.timerDue = false) :
    ∃ w' phase', LeadsTo w w' phase' ∧ Onward w.view c phase' w'.view := by
  obtain ⟨hq, h⟩ := hs
  have hkey : c.target = .key := h.keyed c rfl
  have hdealt : Dispatcher.DealtWith w.moment c w.dispatcher.nextId
      (w.dispatcher.turn w.moment .accept) := by
    rw [accept_turn h]
    exact (Dispatcher.accept_dealt hkey hroom).promoteWaiting
  obtain ⟨phase', hsettles, honward⟩ :=
    turn_dealt hq ⟨h.jobs, h.taskEvents, h.nodeEvents, h.attempts⟩ hkey hdealt
  refine ⟨w.turn .accept, phase', ⟨hsettles, ?_⟩, honward⟩
  rw [step?_accept ⟨hq, h⟩ hwaiting hdue, hsettles.quiet.unblock]

/-! ## Ticks and timers -/

variable {phase : Phase}

theorem At.unoccupied (h : At w phase) (hwaits : phase.waits = true) :
    Free w ∧ phase.jobs = [] ∧ phase.taskEvents = [] ∧ phase.nodeEvents = [] ∧
      phase.attempts = [] ∧ phase.answer? = none ∧ phase.pressing? = none := by
  have hphase : phase.jobs = [] ∧ phase.taskEvents = [] ∧ phase.nodeEvents = [] ∧
      phase.attempts = [] ∧ phase.answer? = none ∧ phase.pressing? = none := by
    cases phase with
    | idle | queued | resting => exact ⟨rfl, rfl, rfl, rfl, rfl, rfl⟩
    | starting | failing | answered | acked | parked | refreshed => cases hwaits
  have ⟨hjobs, htasks, hnodes, hattempts, _⟩ := hphase
  exact ⟨⟨h.jobs.trans hjobs, h.taskEvents.trans htasks, h.nodeEvents.trans hnodes,
    h.attempts.trans hattempts⟩, hphase⟩

/-- While nothing is at hand, and no submission can be accepted, there are ticks and timers. -/
theorem step?_waiting (hs : Settles w phase) (hwaits : phase.waits = true)
    (hopen : (∃ c, phase = .queued c) → w.timerDue = true) :
    w.step? Cluster.network = w.idleStep? Cluster.network := by
  obtain ⟨hq, h⟩ := hs
  obtain ⟨hfree, -⟩ := h.unoccupied hwaits
  cases phase with
  | queued c =>
      have hdue := hopen ⟨c, rfl⟩
      have hnone : w.dispatcherStep? = none := by
        simp [dispatcherStep?, hq.attended, h.stopped, hq.stopRequests, hfree.taskEvents,
          hfree.nodeEvents, hdue]
      simp [hq.step?_eq, hnone, jobStep?, hfree.jobs, hq.pool.granted?]
  | idle => exact step?_idle hq h hfree.taskEvents hfree.nodeEvents h.inbound hfree.jobs
  | resting => exact step?_idle hq h hfree.taskEvents hfree.nodeEvents h.inbound hfree.jobs
  | starting | failing | answered | acked | parked | refreshed => cases hwaits

/-- A tick, or the end of polling, leaves the dispatcher alone. -/
theorem poll_settles {w' : World Cluster} (hs : Settles w phase)
    (hpoll : w.pollStep? Cluster.network = some w') :
    Settles w' phase ∧ w'.dispatcher = w.dispatcher ∧
      (w'.view = w.view ∨ w'.view = w.view.refreshed) := by
  obtain ⟨hq, h⟩ := hs
  unfold pollStep? at hpoll
  split at hpoll
  · cases hpoll
  next p hp =>
  split at hpoll
  · cases hpoll
  have hperiod : 0 < p.period.nanos := hq.ticking p hp
  split at hpoll
  · cases hpoll
    exact ⟨⟨⟨hq.1, hq.2, hq.3, hq.4, hq.5, hq.6, by simp⟩,
      ⟨h.1, h.2, h.3, h.4, h.5, h.6, h.7, h.8, h.9⟩⟩, rfl, Or.inl rfl⟩
  split at hpoll
  · cases hpoll
    exact ⟨⟨⟨hq.1, hq.2, hq.3, hq.4, hq.5, hq.6, fun q hq => Option.some.inj hq ▸ hperiod⟩,
      ⟨h.1, h.2, h.3, h.4, h.5, h.6, h.7, h.8, h.9⟩⟩, rfl, Or.inr rfl⟩
  · cases hpoll

/-- Timers of commands that are gone. -/
theorem timers_unclaimed (h : At w phase) (hlone : phase = .idle ∨ ∃ c, phase = .queued c) :
    ∃ ts, w.dispatcher.turn w.moment .timers =
        phase.lone.dispatcher w.dispatcher.nextId ts [] ∧
      ts.head?.any (·.1 ≤ w.now) = false := by
  have hlone : phase.lone = .nothing ∨ ∃ c, phase.lone = .inbound c := by
    rcases hlone with rfl | ⟨c, rfl⟩
    · exact Or.inl rfl
    · exact Or.inr ⟨c, rfl⟩
  obtain ⟨ts, heq, hdue⟩ := Dispatcher.fireDue_unclaimed (m := w.moment) hlone
    w.dispatcher.nextId w.dispatcher.timers (Nat.le_refl _)
  refine ⟨ts, ?_, hdue⟩
  change (w.dispatcher.fireTimers w.moment).promoteWaiting w.moment = _
  have hfire : w.dispatcher.fireTimers w.moment =
      phase.lone.dispatcher w.dispatcher.nextId ts [] := by
    rw [← heq, ← h.dispatcher]
    rfl
  rw [hfire, Lone.dispatcher_promoteWaiting]

/-- Timers while nothing is at hand: a pause may be over. -/
theorem timers_settle (hs : Settles w phase) (hwaits : phase.waits = true)
    (hroom : 0 < w.config.maxInFlightPerNode) :
    ∃ phase', Settles (w.turn .timers) phase' ∧
      (phase' = phase ∧ (w.turn .timers).view = w.view ∨
        ∃ c ∈ phase.command?, Onward w.view c phase' (w.turn .timers).view) := by
  obtain ⟨hq, h⟩ := hs
  obtain ⟨hfree, hjobs, htasks, hnodes, hattempts, hanswer, hpressing⟩ := h.unoccupied hwaits
  have hunclaimed : phase = .idle ∨ (∃ c, phase = .queued c) →
      ∃ phase', Settles (w.turn .timers) phase' ∧
        (phase' = phase ∧ (w.turn .timers).view = w.view ∨
          ∃ c ∈ phase.command?, Onward w.view c phase' (w.turn .timers).view) := by
    intro hlone
    obtain ⟨ts, heq, -⟩ := timers_unclaimed h hlone
    obtain ⟨hsettles, -, hview⟩ := turn_silent phase hq hfree rfl hjobs htasks hnodes hattempts
      hanswer hpressing h.keyed h.known heq
    exact ⟨phase, hsettles, Or.inl ⟨rfl, hview⟩⟩
  cases phase with
  | idle => exact hunclaimed (Or.inl rfl)
  | queued c => exact hunclaimed (Or.inr ⟨c, rfl⟩)
  | resting c resume =>
      have hkey : c.target = .key := h.keyed c rfl
      have hdealt : Dispatcher.DealtWith w.moment c w.dispatcher.nextId
          (w.dispatcher.turn w.moment .timers) := by
        change Dispatcher.DealtWith w.moment c w.dispatcher.nextId
          ((w.dispatcher.fireTimers w.moment).promoteWaiting w.moment)
        rw [h.dispatcher]
        simp only [Phase.lone, Lone.dispatcher_nextId]
        exact (Dispatcher.fireTimers_resting hkey hroom (h.known c rfl) resume).promoteWaiting
      obtain ⟨phase', hsettles, honward⟩ := turn_dealt hq hfree hkey hdealt
      exact ⟨phase', hsettles, Or.inr ⟨c, rfl, honward⟩⟩
  | starting | failing | answered | acked | parked | refreshed => cases hwaits

end World

end ClusterKv

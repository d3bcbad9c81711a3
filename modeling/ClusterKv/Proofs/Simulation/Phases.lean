import ClusterKv.Cluster.Basic
import ClusterKv.Proofs.Dispatcher.Lone
import ClusterKv.Simulation.Run
import Mathlib.Logic.Relation

/-! # Worlds with one command

A caller who waits for each result before it goes on has one command under way at most. Such a
world is in one of a few phases, and what it can do next depends on the phase alone. -/

namespace ClusterKv

/-- What is under way in a world with one command at most. -/
inductive Phase where
  | idle
  /-- The command has been submitted. -/
  | queued (command : Command)
  /-- An attempt is about to start. -/
  | starting (command : Command) (route : Route)
  /-- There was no connection for the attempt. -/
  | failing (command : Command) (route : Route) (error : ConnectionError)
  /-- The request was written and executed. -/
  | answered (command : Command) (route : Route) (generation : Nat) (response : Response)
  /-- The dispatcher knows that the request was written, but not the answer. -/
  | acked (command : Command) (route : Route) (generation : Nat) (response : Response)
  /-- A refresh is about to start. -/
  | parked (command : Command)
  | refreshed (command : Command) (result : Except TopologyError Unit)
  | resting (command : Command) (resume : Instant)

namespace Phase

/-- What the dispatcher has. -/
def lone : Phase → Lone
  | idle => .nothing
  | queued c => .inbound c
  | starting c route | failing c route _ | answered c route _ _ => .sent c route none
  | acked c route generation _ => .sent c route (some generation)
  | parked c | refreshed c _ => .parked c
  | resting c resume => .resting c resume

def jobs : Phase → List Job
  | starting c _ => [.start c.id]
  | parked _ => [.fetch .dispatcher]
  | _ => []

def taskEvents : Phase → List TaskEvent
  | failing c route error => [.sendFailed c.id route.node none error]
  | answered c _ generation _ => [.sent c.id generation]
  | refreshed _ result => [.refreshed result]
  | _ => []

def nodeEvents : Phase → List NodeEvent
  | answered _ route _ response | acked _ route _ response => [.response route.node response]
  | _ => []

def attempts : Phase → Assoc Nat Attempt
  | starting c route => [(c.id, ⟨route.node, Dispatcher.requestOf c route, c.deadline⟩)]
  | _ => []

def command? : Phase → Option Command
  | idle => none
  | queued c | starting c _ | failing c _ _ | answered c _ _ _ | acked c _ _ _ | parked c
  | refreshed c _ | resting c _ => some c

/-- The command, if it has been accepted. -/
def accepted? : Phase → Option Command
  | queued _ => none
  | phase => phase.command?

/-- The command, if its deadline cannot pass before it has an answer. -/
def pressing? : Phase → Option Command
  | starting c _ | answered c _ _ _ | acked c _ _ _ => some c
  | _ => none

/-- The command and the answer to it that is under way. -/
def answer? : Phase → Option (Command × Response)
  | answered c _ _ response | acked c _ _ response => some (c, response)
  | _ => none

/-- Is nothing at hand, so that the clock may move on? -/
def waits : Phase → Bool
  | idle | queued _ | resting .. => true
  | _ => false

end Phase

/-- Nobody is connecting, or waits for somebody to connect. -/
structure Pool.Calm (pool : Pool) : Prop where
  unclosed : pool.closed = false
  slots : ∀ e ∈ pool.slots, e.2.creation = .idle ∧ e.2.queue = []

/-- Nobody's turn has come to connect. -/
theorem Pool.Calm.granted? {pool : Pool} (h : pool.Calm) : pool.granted? = none := by
  unfold Pool.granted?
  rw [List.findSome?_eq_none_iff]
  intro e he
  simp [(h.slots e he).1]

namespace World

/-- Nothing is going on in a world but one command at most. -/
structure Quiet (w : World Cluster) : Prop where
  attended : w.attended = true
  kept : w.dropped = false
  stopRequests : w.stopRequests = []
  agenda : w.agenda = []
  blocked : w.blocked = []
  pool : w.pool.Calm
  ticking : ∀ p ∈ w.poller, 0 < p.period.nanos

/-- A world is in a phase. -/
structure At (w : World Cluster) (phase : Phase) : Prop where
  dispatcher : w.dispatcher =
    phase.lone.dispatcher w.dispatcher.nextId w.dispatcher.timers []
  jobs : w.jobs = phase.jobs
  taskEvents : w.taskEvents = phase.taskEvents
  nodeEvents : w.nodeEvents = phase.nodeEvents
  attempts : w.attempts = phase.attempts
  keyed : ∀ c ∈ phase.command?, c.target = .key
  known : ∀ c ∈ phase.accepted?, c.id < w.dispatcher.nextId
  live : ∀ c ∈ phase.pressing?, w.now < c.deadline
  echoed : ∀ e ∈ phase.answer?, e.2.opaqueId = e.1.id.toUInt64

/-- What there is of a world besides the one command. -/
structure View where
  config : Config
  network : Cluster
  now : Instant
  refresher : Refresher
  nextTicket : Nat
  calls : Assoc Nat Call
  results : Assoc Nat (Except Error Reply × Instant)
  sentLog : List SentRecord

def view (w : World Cluster) : View :=
  ⟨w.config, w.network, w.now, w.refresher, w.nextTicket, w.calls, w.results, w.sentLog⟩

/-- What the dispatcher can see. -/
def View.moment (v : View) : Moment := ⟨v.config, v.now, v.refresher.current⟩

/-- A command gets its result. -/
def View.resolve (v : View) (c : Command) (result : Except Error Reply) : View :=
  { v with results := v.results.put c.ticket (result, v.now) }

variable {w : World Cluster} {phase : Phase} {c : Command}

/-! ## Who takes the next step -/

/-- With nothing on the agenda the alarm goes off before nothing. -/
theorem Quiet.step?_eq (h : Quiet w) : w.step? Cluster.network =
    (w.dispatcherStep? <|> w.jobStep? Cluster.network <|> w.idleStep? Cluster.network) := by
  simp [World.step?, alarmStep?, World.agendaStep?, h.agenda]

theorem At.stopped (h : At w phase) : w.dispatcher.stopped = false := by
  rw [h.dispatcher, Lone.dispatcher_stopped]

theorem At.inbound (h : At w phase) :
    w.dispatcher.inbound = match phase with | .queued c => [c] | _ => [] := by
  rw [h.dispatcher]
  cases phase <;> rfl

/-- What is reported to the dispatcher comes before all else. -/
theorem step?_task (hq : Quiet w) (h : At w phase) {event : TaskEvent} {rest : List TaskEvent}
    (hevent : w.taskEvents = event :: rest) :
    w.step? Cluster.network = some ({ w with taskEvents := rest }.turn (.task event)) := by
  simp [hq.step?_eq, dispatcherStep?, hq.attended, h.stopped, hq.stopRequests,
    hevent]

theorem step?_node (hq : Quiet w) (h : At w phase) (htask : w.taskEvents = [])
    {event : NodeEvent} {rest : List NodeEvent} (hevent : w.nodeEvents = event :: rest) :
    w.step? Cluster.network = some ({ w with nodeEvents := rest }.turn (.node event)) := by
  simp [hq.step?_eq, dispatcherStep?, hq.attended, h.stopped, hq.stopRequests,
    htask, hevent]

theorem dispatcherStep?_none (hq : Quiet w) (h : At w phase) (htask : w.taskEvents = [])
    (hnode : w.nodeEvents = []) (hinbound : w.dispatcher.inbound = []) :
    w.dispatcherStep? = none := by
  unfold dispatcherStep?
  simp [hq.attended, h.stopped, hq.stopRequests, htask, hnode, hinbound, hq.kept]

theorem step?_job (hq : Quiet w) (h : At w phase) (htask : w.taskEvents = [])
    (hnode : w.nodeEvents = []) (hinbound : w.dispatcher.inbound = []) {job : Job}
    {rest : List Job} (hjob : w.jobs = job :: rest) :
    w.step? Cluster.network = some ({ w with jobs := rest }.run Cluster.network job) := by
  simp [hq.step?_eq, dispatcherStep?_none hq h htask hnode hinbound, jobStep?,
    hjob]

/-- Without work at hand there are ticks and timers. -/
theorem step?_idle (hq : Quiet w) (h : At w phase) (htask : w.taskEvents = [])
    (hnode : w.nodeEvents = []) (hinbound : w.dispatcher.inbound = []) (hjobs : w.jobs = []) :
    w.step? Cluster.network = w.idleStep? Cluster.network := by
  simp [hq.step?_eq, dispatcherStep?_none hq h htask hnode hinbound, jobStep?,
    hjobs, hq.pool.granted?]

/-! ## Turns -/

theorem turn_eq {input : Dispatcher.Input} {lone : Lone} {n : Nat} {ts : List (Instant × Nat)}
    {effects : List Effect}
    (h : w.dispatcher.turn w.moment input = lone.dispatcher n ts effects) :
    w.turn input =
      effects.reverse.foldl carryOut
        { w.setAlarm with dispatcher := lone.dispatcher n ts [] } := by
  simp only [World.turn, h]
  cases lone <;> rfl

/-- What becomes of a command that has no answer yet. -/
inductive Onward (v : View) (c : Command) : Phase → View → Prop
  | ended (error : Error) (unanswered : error.status? = none) :
      Onward v c .idle (v.resolve c (.error error))
  | starting (c' : Command) (route : Route) (serves : c'.Serves c)
      (routed : resolvePartition (Dispatcher.partitionOf v.moment c) v.moment.table
        c'.fastForward = .ok route) : Onward v c (.starting c' route) v
  | parked (c' : Command) (serves : c'.Serves c) : Onward v c (.parked c') v
  | resting (c' : Command) (resume : Instant) (serves : c'.Serves c) :
      Onward v c (.resting c' resume) v

/-- The dispatcher's hands are free: whatever it deals with is the command at hand. -/
structure Free (w : World Cluster) : Prop where
  jobs : w.jobs = []
  taskEvents : w.taskEvents = []
  nodeEvents : w.nodeEvents = []
  attempts : w.attempts = []

theorem Quiet.congr {w' : World Cluster} (h : Quiet w) (hattended : w'.attended = w.attended)
    (hdropped : w'.dropped = w.dropped) (hstop : w'.stopRequests = w.stopRequests)
    (hagenda : w'.agenda = w.agenda) (hblocked : w'.blocked = w.blocked)
    (hpool : w'.pool = w.pool) (hpoller : w'.poller = w.poller) : Quiet w' where
  attended := hattended.trans h.attended
  kept := hdropped.trans h.kept
  stopRequests := hstop.trans h.stopRequests
  agenda := hagenda.trans h.agenda
  blocked := hblocked.trans h.blocked
  pool := hpool ▸ h.pool
  ticking := hpoller ▸ h.ticking

/-- Nothing is under way in a world but one command, which is in a phase. -/
structure Settles (w : World Cluster) (phase : Phase) : Prop where
  quiet : Quiet w
  arrived : At w phase

variable {input : Dispatcher.Input} {n : Nat} {ts : List (Instant × Nat)}

theorem turn_ended (hq : Quiet w) (hfree : Free w) {result : Except Error Reply}
    (h : w.dispatcher.turn w.moment input =
      Lone.nothing.dispatcher n ts [.resolve c.ticket result]) :
    Settles (w.turn input) .idle ∧ (w.turn input).dispatcher.nextId = n ∧
      (w.turn input).view = w.view.resolve c result := by
  have hw : w.turn input =
      { w.setAlarm with
        dispatcher := Lone.nothing.dispatcher n ts []
        results := w.results.put c.ticket (result, w.now) } := turn_eq h
  rw [hw]
  refine ⟨⟨hq.congr rfl rfl rfl rfl rfl rfl rfl, ⟨by simp [Phase.lone], hfree.1, hfree.2, hfree.3,
    hfree.4, ?_, ?_, ?_, ?_⟩⟩, rfl, rfl⟩ <;>
    simp [Phase.command?, Phase.accepted?, Phase.pressing?, Phase.answer?]

theorem turn_attempt (hq : Quiet w) (hfree : Free w) {route : Route} (hkey : c.target = .key)
    (known : c.id < n) (live : w.now < c.deadline)
    (h : w.dispatcher.turn w.moment input = (Lone.sent c route none).dispatcher n ts
      [.attempt c.id route.node (Dispatcher.requestOf c route) c.deadline]) :
    Settles (w.turn input) (.starting c route) ∧ (w.turn input).dispatcher.nextId = n ∧
      (w.turn input).view = w.view := by
  have hw : w.turn input =
      { w.setAlarm with
        dispatcher := (Lone.sent c route none).dispatcher n ts []
        attempts := w.attempts.put c.id
          ⟨route.node, Dispatcher.requestOf c route, c.deadline⟩
        jobs := w.jobs ++ [.start c.id] } := turn_eq h
  rw [hw]
  refine ⟨⟨hq.congr rfl rfl rfl rfl rfl rfl rfl, ⟨by simp [Phase.lone], ?_, hfree.2, hfree.3, ?_, ?_,
    ?_, ?_, ?_⟩⟩, rfl, rfl⟩
  · simp [hfree.jobs, Phase.jobs]
  · simp [hfree.attempts, Phase.attempts, Assoc.put]
  · exact fun _ hc => Option.some.inj hc ▸ hkey
  · exact fun _ hc => Option.some.inj hc ▸ known
  · exact fun _ hc => Option.some.inj hc ▸ live
  · simp [Phase.answer?]

theorem turn_parked (hq : Quiet w) (hfree : Free w) (hkey : c.target = .key) (known : c.id < n)
    (h : w.dispatcher.turn w.moment input = (Lone.parked c).dispatcher n ts [.refresh]) :
    Settles (w.turn input) (.parked c) ∧ (w.turn input).dispatcher.nextId = n ∧
      (w.turn input).view = w.view := by
  have hw : w.turn input =
      { w.setAlarm with
        dispatcher := (Lone.parked c).dispatcher n ts []
        jobs := w.jobs ++ [.fetch .dispatcher] } := turn_eq h
  rw [hw]
  refine ⟨⟨hq.congr rfl rfl rfl rfl rfl rfl rfl, ⟨by simp [Phase.lone], ?_, hfree.2, hfree.3, hfree.4,
    ?_, ?_, ?_, ?_⟩⟩, rfl, rfl⟩
  · simp [hfree.jobs, Phase.jobs]
  · exact fun _ hc => Option.some.inj hc ▸ hkey
  · exact fun _ hc => Option.some.inj hc ▸ known
  · simp [Phase.pressing?]
  · simp [Phase.answer?]

/-- A turn that leaves nothing to be done. -/
theorem turn_silent (phase : Phase) (hq : Quiet w) (hfree : Free w) {lone : Lone}
    (hlone : phase.lone = lone) (hjobs : phase.jobs = []) (htasks : phase.taskEvents = [])
    (hnodes : phase.nodeEvents = []) (hattempts : phase.attempts = [])
    (hanswer : phase.answer? = none) (hpressing : phase.pressing? = none)
    (hkey : ∀ c ∈ phase.command?, c.target = .key) (known : ∀ c ∈ phase.accepted?, c.id < n)
    (h : w.dispatcher.turn w.moment input = lone.dispatcher n ts []) :
    Settles (w.turn input) phase ∧ (w.turn input).dispatcher.nextId = n ∧
      (w.turn input).view = w.view := by
  have hw : w.turn input = { w.setAlarm with dispatcher := lone.dispatcher n ts [] } := turn_eq h
  rw [hw]
  refine ⟨⟨hq.congr rfl rfl rfl rfl rfl rfl rfl, ⟨by simp [hlone], hjobs ▸ hfree.1, htasks ▸ hfree.2,
    hnodes ▸ hfree.3, hattempts ▸ hfree.4, hkey, by simpa using known, ?_, ?_⟩⟩, by simp, rfl⟩
  · simp [hpressing]
  · simp [hanswer]

/-- A turn that deals with the command takes the world to its next phase. -/
theorem turn_dealt (hq : Quiet w) (hfree : Free w) (hkey : c.target = .key)
    (h : Dispatcher.DealtWith w.moment c n (w.dispatcher.turn w.moment input)) :
    ∃ phase', Settles (w.turn input) phase' ∧ Onward w.view c phase' (w.turn input).view := by
  obtain ⟨lone, effects, next, timers, heq, -, honward⟩ := h
  cases honward with
  | ended error unanswered =>
      obtain ⟨hsettles, -, hview⟩ := turn_ended hq hfree heq
      exact ⟨.idle, hsettles, hview ▸ .ended error unanswered⟩
  | sent c' route serves known live routed =>
      obtain ⟨hsettles, -, hview⟩ := turn_attempt hq hfree (serves.target.trans hkey) known
        (serves.deadline ▸ live) heq
      exact ⟨.starting c' route, hsettles, by rw [hview]; exact .starting c' route serves routed⟩
  | parked c' serves known live =>
      obtain ⟨hsettles, -, hview⟩ := turn_parked hq hfree (serves.target.trans hkey) known heq
      exact ⟨.parked c', hsettles, by rw [hview]; exact .parked c' serves⟩
  | rested c' resume serves known =>
      obtain ⟨hsettles, -, hview⟩ := turn_silent (.resting c' resume) hq hfree rfl rfl
        rfl rfl rfl rfl rfl (fun _ hc => Option.some.inj hc ▸ serves.target.trans hkey)
        (fun _ hc => Option.some.inj hc ▸ known) heq
      exact ⟨.resting c' resume, hsettles, by rw [hview]; exact .resting c' resume serves⟩

end World

end ClusterKv

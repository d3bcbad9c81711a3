import ClusterKv.Proofs.Dispatcher.Tracking
import ClusterKv.Proofs.Simulation.Orders
import ClusterKv.Proofs.Simulation.Steps
import ClusterKv.Proofs.Simulation.Tickets

/-! # A client left to itself

In a cluster nothing takes time but pauses and polls, so there is never anything on the agenda.
While nobody asks the client to stop, all that happens is a few chores, in any order: the dispatcher
takes turns, and what it wants done takes no time. -/

namespace ClusterKv

/-! ## The pool stays open -/

namespace Dispatcher

variable {m : Moment} {cause : Cause}

theorem Handling.stays_open {s t : Dispatcher × Hand} (h : Handling m cause s t)
    (hs : .closePool ∉ s.1.outbox) : .closePool ∉ t.1.outbox := by
  cases h with
  | locate | miss | charge | advance | renumber | renumberUnused => exact hs
  | disconnect | settle | start => simpa using hs
  | wait | pause => simpa using hs
  | park =>
      unfold requestRefresh
      split <;> simpa using hs

theorem Move.stays_open {s t : Dispatcher × Hand} (h : Move m cause s t)
    (hs : .closePool ∉ s.1.outbox) : .closePool ∉ t.1.outbox := by
  cases h with
  | handle handling => exact handling.stays_open hs
  | draw | skip | tidy | collect | tick => exact hs
  | retire | expire | resume | unpark | promote => simpa using hs

/-- Only a shutdown closes the pool. -/
theorem turn_stays_open {d : Dispatcher} (hd : Numbered d .empty) (hdone : d.outbox = [])
    {input : Input} (hinput : input ≠ .shutdown) : .closePool ∉ (d.turn m input).outbox :=
  turn_induct (P := fun s => .closePool ∉ s.1.outbox) hd hinput
    (fun _ _ _ _ hmove hs => hmove.stays_open hs) (by simp [mark, hdone])

end Dispatcher

/-- Dropping a connection keeps nobody waiting. -/
theorem Pool.Calm.invalidateGeneration {pool : Pool} (h : pool.Calm) (node : NodeId)
    (generation : Nat) : (pool.invalidateGeneration node generation).1.Calm := by
  obtain ⟨hidle, hqueue⟩ := h.slot_idle node
  unfold Pool.invalidateGeneration Pool.invalidate
  split
  · dsimp only
    split
    · exact h
    · exact h.of_put rfl rfl hidle hqueue
  · exact h

namespace World

open Dispatcher (Numbered)

/-! ## What the dispatcher wants done -/

section

variable {σ : Type} {w w' w'' : World σ}

/-- Some effects have been carried out, none of which closes the pool. -/
structure Carried (effects : List Effect) (w w' : World σ) : Prop where
  besides : ∃ pool connections nodeEvents attempts jobs results,
    w' = { w with pool, connections, nodeEvents, attempts, jobs, results }
  calm : w.pool.Calm → w'.pool.Calm
  heard : ∀ event ∈ w'.nodeEvents, event ∈ w.nodeEvents ∨
    ∃ node generation reason, event = .closed node generation reason
  attempts : ∀ id attempt, w'.attempts.get? id = some attempt →
    w.attempts.get? id = some attempt ∨
      .attempt id attempt.node attempt.request attempt.deadline ∈ effects ∧ .start id ∈ w'.jobs
  kept : ∀ job ∈ w.jobs, job ∈ w'.jobs
  jobs : ∀ job ∈ w'.jobs, job ∈ w.jobs ∨ (∃ id, job = .start id) ∨ ∃ purpose, job = .fetch purpose

theorem Carried.refl (w : World σ) : Carried [] w w :=
  ⟨⟨_, _, _, _, _, _, rfl⟩, id, fun _ h => .inl h, fun _ _ h => .inl h, fun _ h => h,
    fun _ h => .inl h⟩

theorem Carried.trans {effects more : List Effect} (h : Carried effects w w')
    (h' : Carried more w' w'') : Carried (effects ++ more) w w'' where
  besides := by
    obtain ⟨_, _, _, _, _, _, rfl⟩ := h.besides
    obtain ⟨_, _, _, _, _, _, rfl⟩ := h'.besides
    exact ⟨_, _, _, _, _, _, rfl⟩
  calm := h'.calm ∘ h.calm
  heard event hevent := by
    rcases h'.heard event hevent with hold | hclosed
    · exact h.heard event hold
    · exact .inr hclosed
  attempts id attempt hattempt := by
    rcases h'.attempts id attempt hattempt with hold | ⟨hnew, hjob⟩
    · rcases h.attempts id attempt hold with hold | ⟨hnew, hjob⟩
      · exact .inl hold
      · exact .inr ⟨List.mem_append_left _ hnew, h'.kept _ hjob⟩
    · exact .inr ⟨List.mem_append_right _ hnew, hjob⟩
  kept job hjob := h'.kept job (h.kept job hjob)
  jobs job hjob := by
    rcases h'.jobs job hjob with hold | hnew
    · exact h.jobs job hold
    · exact .inr hnew

/-- A connection that is shut may be reported dead. -/
theorem shut_carried (w : World σ) (node : NodeId) (generation : Nat) (reason : String)
    (effects : List Effect) : Carried effects w (w.shut node generation reason).1 := by
  have hshut : ∃ connections nodeEvents,
      (w.shut node generation reason).1 = { w with connections, nodeEvents } ∧
        ∀ event ∈ nodeEvents, event ∈ w.nodeEvents ∨
          ∃ node generation reason, event = .closed node generation reason := by
    unfold shut
    split
    · exact ⟨w.connections, w.nodeEvents, rfl, fun _ h => .inl h⟩
    next c _ =>
    cases hlive : c.link.live with
    | false =>
        simp only [Link.shut, hlive, Bool.false_eq_true, if_false]
        exact ⟨_, w.nodeEvents, rfl, fun _ h => .inl h⟩
    | true =>
        simp only [Link.shut, hlive, if_true, report]
        split
        · exact ⟨_, w.nodeEvents, rfl, fun _ h => .inl h⟩
        · refine ⟨_, w.nodeEvents ++ [.closed c.link.node c.link.generation reason], rfl, ?_⟩
          intro event hevent
          exact (List.mem_append.mp hevent).imp_right
            fun hnew => ⟨_, _, _, List.mem_singleton.mp hnew⟩
  obtain ⟨connections, nodeEvents, hsame, hheard⟩ := hshut
  rw [hsame]
  exact ⟨⟨_, _, _, _, _, _, rfl⟩, id, hheard, fun _ _ h => .inl h, fun _ h => h, fun _ h => .inl h⟩

theorem carryOut_carried (w : World σ) {effect : Effect} (hopen : effect ≠ .closePool) :
    Carried [effect] w (w.carryOut effect) := by
  cases effect with
  | attempt id node request deadline =>
      refine ⟨⟨_, _, _, _, _, _, rfl⟩, fun h => h, fun _ h => .inl h, ?_,
        fun _ h => List.mem_append_left _ h, ?_⟩
      · intro other attempt hattempt
        by_cases hother : other = id
        · subst hother
          have hnew := Assoc.get?_put_self w.attempts other (⟨node, request, deadline⟩ : Attempt)
          obtain rfl := Option.some.inj (hnew.symm.trans hattempt)
          exact .inr ⟨List.mem_singleton_self _, List.mem_append_right _ (List.mem_singleton_self _)⟩
        · exact .inl ((Assoc.get?_put_of_ne _ _ hother).symm.trans hattempt)
      · intro job hjob
        exact (List.mem_append.mp hjob).imp_right fun hnew => .inl ⟨id, List.mem_singleton.mp hnew⟩
  | refresh =>
      refine ⟨⟨_, _, _, _, _, _, rfl⟩, fun h => h, fun _ h => .inl h, fun _ _ h => .inl h,
        fun _ h => List.mem_append_left _ h, fun job hjob => ?_⟩
      exact (List.mem_append.mp hjob).imp_right fun hnew => .inr ⟨_, List.mem_singleton.mp hnew⟩
  | disconnect node generation =>
      let forgotten : World σ := { w with pool := (w.pool.invalidateGeneration node generation).1 }
      have hforgotten : Carried [] w forgotten :=
        ⟨⟨_, _, _, _, _, _, rfl⟩, fun h => h.invalidateGeneration node generation,
          fun _ h => .inl h, fun _ _ h => .inl h, fun _ h => h, fun _ h => .inl h⟩
      simp only [carryOut, World.invalidateGeneration]
      cases (w.pool.invalidateGeneration node generation).2 with
      | none => exact hforgotten.trans ⟨⟨_, _, _, _, _, _, rfl⟩, id, fun _ h => .inl h,
          fun _ _ h => .inl h, fun _ h => h, fun _ h => .inl h⟩
      | some stale => exact hforgotten.trans (shut_carried forgotten node stale _ _)
  | closePool => exact absurd rfl hopen
  | resolve ticket result =>
      exact ⟨⟨_, _, _, _, _, _, rfl⟩, fun h => h, fun _ h => .inl h, fun _ _ h => .inl h,
        fun _ h => h, fun _ h => .inl h⟩

theorem carryOuts_carried (effects : List Effect) (w : World σ) (hopen : .closePool ∉ effects) :
    Carried effects w (effects.foldl carryOut w) := by
  induction effects generalizing w with
  | nil => exact .refl w
  | cons effect rest ih =>
      obtain ⟨hfirst, hrest⟩ := not_or.mp (mt List.mem_cons.mpr hopen)
      exact (carryOut_carried w (Ne.symm hfirst)).trans (ih _ hrest)

/-- A turn leaves a dispatcher whose outbox has been emptied, and what was in it has been carried
out. -/
theorem turn_carried (w : World σ) (hn : Numbered w.dispatcher .empty)
    (hdone : w.dispatcher.outbox = []) {input : Dispatcher.Input} (hinput : input ≠ .shutdown) :
    Carried (w.dispatcher.turn w.moment input).outbox.reverse
      { w.setAlarm with dispatcher := { w.dispatcher.turn w.moment input with outbox := [] } }
      (w.turn input) := by
  refine carryOuts_carried _ _ ?_
  simpa using Dispatcher.turn_stays_open (m := w.moment) hn hdone hinput

end

/-! ## Chores -/

variable {w w' : World Cluster}

/-- A client that nobody asks to stop. Nothing is on its way that takes time, and every attempt that
has not started yet is about to, before its deadline. -/
structure Undisturbed (w : World Cluster) : Prop where
  running : w.dispatcher.stopped = false
  numbered : Numbered w.dispatcher .empty
  done : w.dispatcher.outbox = []
  kept : w.dropped = false
  stopRequests : w.stopRequests = []
  agenda : w.agenda = []
  pool : w.pool.Calm
  jobs : ∀ job ∈ w.jobs, (∃ id, job = .start id) ∨ ∃ purpose, job = .fetch purpose
  prompt : ∀ id attempt, w.attempts.get? id = some attempt →
    .start id ∈ w.jobs ∧ w.now < attempt.deadline

/-- A world that differs in nothing but the work at hand, and what fetches have come to. -/
def informed (w : World Cluster) (jobs : List Job) (refresher : Refresher)
    (taskEvents : List TaskEvent) (fetches : Assoc Nat (Except TopologyError Topology × Instant))
    (poller : Option Poller) : World Cluster :=
  { w with jobs, refresher, taskEvents, fetches, poller }

/-- What happens in a client that nobody asks to stop. -/
inductive Chore (w : World Cluster) : World Cluster → Prop
  | told {event : TaskEvent} {rest : List TaskEvent} (first : w.taskEvents = event :: rest) :
      Chore w ({ w with taskEvents := rest }.turn (.task event))
  | heard {event : NodeEvent} {rest : List NodeEvent} (first : w.nodeEvents = event :: rest) :
      Chore w ({ w with nodeEvents := rest }.turn (.node event))
  | accepted : Chore w (w.turn .accept).unblock
  | timers : Chore w (w.turn .timers)
  /-- A request is executed as it is sent. -/
  | delivered {id : Nat} {rest : List Job} {attempt : Attempt} {pool : Pool}
      {connections : List Connection} {dialLog : List DialRecord} (generation : Nat)
      (picked : Picks w.jobs (.start id) rest) (found : w.attempts.get? id = some attempt)
      (calm : pool.Calm) :
      Chore w (({ w with jobs := rest }.rewired pool connections dialLog).delivered id generation
        attempt)
  /-- There is no connection for a request. -/
  | undelivered {id : Nat} {rest : List Job} {attempt : Attempt} {pool : Pool}
      {connections : List Connection} {dialLog : List DialRecord} (error : ConnectionError)
      (picked : Picks w.jobs (.start id) rest) (found : w.attempts.get? id = some attempt)
      (calm : pool.Calm) :
      Chore w (({ w with jobs := rest }.rewired pool connections dialLog).undelivered id attempt
        error)
  /-- A table is fetched, or there was nothing to do after all. -/
  | aside (jobs : List Job) (refresher : Refresher) (taskEvents : List TaskEvent)
      (fetches : Assoc Nat (Except TopologyError Topology × Instant)) (poller : Option Poller)
      (others : jobs = w.jobs ∨ ∃ job, Picks w.jobs job jobs ∧
        ∀ id, job = .start id → w.attempts.get? id = none) :
      Chore w (w.informed jobs refresher taskEvents fetches poller)
  | noted (ahead : List Instant) (awake : Bool) : Chore w { w with ahead, awake }
  | wait (now : Instant) (idle : w.jobs = []) : Chore w { w with now }

/-! ## Nothing but chores happens -/

/-- A table is fetched as soon as it is asked for. -/
theorem startFetch_informed (w : World Cluster) (purpose : Purpose) :
    ∃ refresher taskEvents fetches poller, w.startFetch Cluster.network purpose =
      w.informed w.jobs refresher taskEvents fetches poller := by
  have hplan : Cluster.network.fetch w.network = (w.network, .zero, w.network.fetch) := rfl
  have hzero : Duration.zero.nanos = 0 := rfl
  simp only [startFetch, hplan, hzero, if_true]
  cases purpose with
  | dispatcher =>
      simp only [finishFetch]
      split
      · exact ⟨_, w.taskEvents, _, _, rfl⟩
      · exact ⟨_, _, w.fetches, w.poller, rfl⟩
  | call | poller => exact ⟨_, _, _, _, rfl⟩

theorem tick_chore (w : World Cluster) (p : Poller) : Chore w (w.tick Cluster.network p) := by
  obtain ⟨refresher, taskEvents, fetches, poller, hsame⟩ := startFetch_informed
    { w with poller := some { p with
        busy := true
        next := (if w.now > p.next + tickTolerance then w.now else p.next) + p.period.nanos } }
    .poller
  rw [tick]
  rw [hsame]
  exact .aside w.jobs refresher taskEvents fetches poller (.inl rfl)

namespace Undisturbed

/-- An attempt reaches its node or fails, and a fetch is over at once. -/
theorem run (h : Undisturbed w) {job : Job} {rest : List Job} (picked : Picks w.jobs job rest) :
    Chore w ({ w with jobs := rest }.run Cluster.network job) := by
  rcases h.jobs job picked.mem with ⟨id, rfl⟩ | ⟨purpose, rfl⟩
  · simp only [World.run]
    split
    · next hnone =>
      refine .aside rest w.refresher w.taskEvents w.fetches w.poller (.inr ⟨_, picked, ?_⟩)
      rintro _ ⟨⟩
      exact hnone
    · next attempt hfound =>
      obtain ⟨-, hlive⟩ := h.prompt id attempt hfound
      obtain ⟨pool, connections, dialLog, hcalm, ⟨generation, hsame⟩ | ⟨error, -, hsame⟩⟩ :=
        acquire_cases (w := { w with jobs := rest }) h.pool hfound hlive h.running
      · exact hsame ▸ .delivered generation picked hfound hcalm
      · exact hsame ▸ .undelivered error picked hfound hcalm
  · obtain ⟨refresher, taskEvents, fetches, poller, hsame⟩ :=
      startFetch_informed { w with jobs := rest } purpose
    simp only [World.run]
    rw [hsame]
    exact .aside rest refresher taskEvents fetches poller (.inr ⟨_, picked, by simp⟩)

/-- However a client goes on that nobody asks to stop, it does its chores. -/
theorem chore (h : Undisturbed w) (hgoes : Stirs Cluster.network w w') : Chore w w' := by
  cases hgoes with
  | told _ first => exact .told first
  | heard _ first => exact .heard first
  | accept => exact .accepted
  | timers => exact .timers
  | stop _ asked => simp [h.stopRequests, h.kept] at asked
  | job picked => exact h.run picked
  | @enter node slot caller member granted =>
      -- Nobody waits for a connection, so nobody has been told to open one.
      have hidle := (h.pool.slots (node, slot) member).1
      rw [granted] at hidle
      cases hidle
  | due waits => simp [h.agenda] at waits
  | halt => exact .aside w.jobs w.refresher w.taskEvents w.fetches none (.inl rfl)
  | tick p => exact tick_chore w p
  | note ahead awake => exact .noted ahead awake
  | wait now idle => exact .wait now idle

/-! ## Chores keep a client undisturbed -/

theorem turn (h : Undisturbed w) {input : Dispatcher.Input} (hinput : input ≠ .shutdown) :
    Undisturbed (w.turn input) := by
  have hcarried := turn_carried w h.numbered h.done hinput
  obtain ⟨pool, connections, nodeEvents, attempts, jobs, results, hsame⟩ := hcarried.besides
  have hnumbered := Dispatcher.turn_numbered (m := w.moment) h.numbered input
  have hcalm := hcarried.calm h.pool
  have hstarts := hcarried.attempts
  have hkept := hcarried.kept
  have hjobs := hcarried.jobs
  rw [hsame] at hcalm hstarts hkept hjobs ⊢
  refine ⟨?_, hnumbered.congr rfl rfl hnumbered.queues rfl, rfl, h.kept, h.stopRequests, h.agenda,
    hcalm, ?_, ?_⟩
  · exact (Dispatcher.turn_stopped h.numbered hinput).trans h.running
  · intro job hjob
    rcases hjobs job hjob with hold | hnew
    · exact h.jobs job hold
    · exact hnew
  · intro id attempt hattempt
    rcases hstarts id attempt hattempt with hold | ⟨hnew, hjob⟩
    · exact (h.prompt id attempt hold).imp_left (hkept _)
    · obtain ⟨command, partition, -, -, hdeadline, hlive⟩ :=
        Dispatcher.turn_begun h.numbered h.done input (List.mem_reverse.mp hnew)
      exact ⟨hjob, hdeadline ▸ hlive⟩

/-- An attempt that has started is none of those that have not. -/
theorem started (h : Undisturbed w) {id : Nat} {rest : List Job}
    (picked : Picks w.jobs (.start id) rest) (other : Nat) (attempt : Attempt)
    (hattempt : (w.attempts.erase id).get? other = some attempt) :
    .start other ∈ rest ∧ w.now < attempt.deadline := by
  obtain ⟨hother, hattempt⟩ := Assoc.get?_of_erase hattempt
  obtain ⟨hjob, hlive⟩ := h.prompt other attempt hattempt
  exact ⟨picked.rest_of_ne hjob fun hsame => hother (Job.start.inj hsame), hlive⟩

/-- What has been reported is of no account. -/
theorem hear (h : Undisturbed w) (taskEvents : List TaskEvent) (nodeEvents : List NodeEvent) :
    Undisturbed { w with taskEvents, nodeEvents } :=
  ⟨h.running, h.numbered, h.done, h.kept, h.stopRequests, h.agenda, h.pool, h.jobs, h.prompt⟩

/-- So are calls and what they have submitted. -/
theorem resubmitted (h : Undisturbed w) (nextTicket : Nat) (calls : Assoc Nat Call)
    (blocked : List (Nat × Command)) (results : Assoc Nat (Except Error Reply × Instant))
    (inbound : List Command) :
    Undisturbed (w.resubmitted nextTicket calls blocked results inbound) :=
  ⟨h.running, h.numbered.congr rfl rfl h.numbered.queues rfl, h.done, h.kept, h.stopRequests,
    h.agenda, h.pool, h.jobs, h.prompt⟩

theorem unblock (h : Undisturbed w) : Undisturbed w.unblock := by
  obtain ⟨nextTicket, calls, blocked, results, inbound, hsame⟩ := unblock_frame w
  exact hsame ▸ h.resubmitted nextTicket calls blocked results inbound

end Undisturbed

/-- Chores bring nobody to stop a client. -/
theorem Chore.undisturbed (hchore : Chore w w') (h : Undisturbed w) : Undisturbed w' := by
  cases hchore with
  | told => exact (h.hear _ w.nodeEvents).turn (by simp)
  | heard => exact (h.hear w.taskEvents _).turn (by simp)
  | accepted => exact (h.turn (by simp)).unblock
  | timers => exact h.turn (by simp)
  | delivered generation picked found calm =>
      exact ⟨h.running, h.numbered, h.done, h.kept, h.stopRequests, h.agenda, calm,
        fun other hother => h.jobs other (picked.mem_of_rest hother), h.started picked⟩
  | undelivered error picked found calm =>
      exact ⟨h.running, h.numbered, h.done, h.kept, h.stopRequests, h.agenda, calm,
        fun other hother => h.jobs other (picked.mem_of_rest hother), h.started picked⟩
  | aside jobs refresher taskEvents fetches poller others =>
      refine ⟨h.running, h.numbered, h.done, h.kept, h.stopRequests, h.agenda, h.pool, ?_, ?_⟩
      · rcases others with rfl | ⟨job, picked, -⟩
        · exact h.jobs
        · exact fun other hother => h.jobs other (picked.mem_of_rest hother)
      · intro id attempt hattempt
        refine (h.prompt id attempt hattempt).imp_left fun hjob => ?_
        rcases others with rfl | ⟨job, picked, hnone⟩
        · exact hjob
        · refine picked.rest_of_ne hjob fun hsame => ?_
          cases (hnone id hsame.symm).symm.trans hattempt
  | noted =>
      exact ⟨h.running, h.numbered, h.done, h.kept, h.stopRequests, h.agenda, h.pool, h.jobs,
        h.prompt⟩
  | wait now idle =>
      refine ⟨h.running, h.numbered, h.done, h.kept, h.stopRequests, h.agenda, h.pool, h.jobs, ?_⟩
      intro id attempt hattempt
      have hjob := (h.prompt id attempt hattempt).1
      rw [idle] at hjob
      cases hjob

end World

end ClusterKv

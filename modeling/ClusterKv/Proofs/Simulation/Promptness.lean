import ClusterKv.Proofs.Simulation.Line

/-! # Calls end in time

While a client makes calls for keys alone, all commands have the same time. Then they are in line in
the order of their deadlines, and the clock never passes the deadline of a command without a result:
a command in flight has a timer, and one in line comes after a command in flight. -/

namespace ClusterKv.World

variable {σ : Type} {net : Network σ} {config : Config} {w w' : World σ}

/-! ## What is known of all commands -/

namespace Front

/-- Every command without a result is in its place, and not late. -/
structure Prompt (config : Config) (f : Front) : Prop where
  configured : f.config = config
  attended : f.attended = true
  sound : f.Sound
  flowing : Flowing f
  ordered : Ordered f
  timely : Everyone (fun command => f.now ≤ command.deadline ∧
    command.deadline ≤ f.now + config.operationTimeout.nanos) f
  accounted : Accounted f

variable {f f' : Front}

theorem drafted_deadline {draft : Draft} (h : KeyDraft config draft) :
    (f.drafted draft).deadline = f.now + config.operationTimeout.nanos := by
  obtain ⟨key, call, rfl⟩ := h
  rfl

theorem Deed.prompt (h : Deed (KeyDraft config) f f') (hf : Prompt config f) :
    Prompt config f' := by
  obtain ⟨hconfig, hnow, hattended⟩ := h.frame
  have hlast : ∀ draft, KeyDraft config draft →
      Everyone (·.deadline ≤ (f.drafted draft).deadline) f := by
    intro draft hdraft
    rw [drafted_deadline hdraft]
    exact .of_all fun command hcommand => (hf.timely.holds hcommand).2
  refine ⟨hconfig.trans hf.configured, hattended.trans hf.attended, h.sound hf.sound,
    h.flowing hf.sound.numbered hf.flowing, h.ordered hlast hf.sound.numbered hf.ordered, ?_,
    h.accounted hf.sound hf.accounted⟩
  rw [hnow]
  refine h.everyone ?_ ?_ hf.sound.numbered hf.timely
  · intro origin command hsame horigin
    rwa [hsame.deadline]
  · intro draft hdraft
    rw [drafted_deadline hdraft]
    exact ⟨Nat.le_add_right _ _, Nat.le_refl _⟩

theorem Prompt.start (hconfig : f.config = config) (hdispatcher : f.dispatcher = {})
    (hblocked : f.blocked = []) (hticket : f.nextTicket = 0) (hattended : f.attended = true) :
    Prompt config f where
  configured := hconfig
  attended := hattended
  sound := .start hdispatcher
  flowing := ⟨by simp [hblocked], by simp [line, hdispatcher, hblocked]⟩
  ordered := ⟨by simp [line, hdispatcher, hblocked], by simp [hdispatcher],
    by simp [Dispatcher.Hand.command?]⟩
  timely := ⟨⟨by simp [hdispatcher], by simp [hdispatcher], by simp [Dispatcher.Hand.command?]⟩,
    by simp [hblocked]⟩
  accounted := by simp [Accounted, hticket]

end Front

/-! ## Waiting -/

/-- The clock moves on to the first timer at the latest. -/
theorem nextInstant?_le (hattended : w.attended = true)
    (hsorted : Dispatcher.InOrder w.dispatcher.timers) {timer : Instant × Nat}
    (htimer : timer ∈ w.dispatcher.timers) : ∃ next ∈ w.nextInstant?, next ≤ timer.1 := by
  obtain ⟨first, rest, htimers⟩ := List.exists_cons_of_ne_nil (List.ne_nil_of_mem htimer)
  have hfirst : first.1 ≤ timer.1 := by
    rw [htimers] at htimer hsorted
    rcases List.mem_cons.mp htimer with rfl | hrest
    · exact Nat.le_refl _
    · exact (List.pairwise_cons.mp hsorted).1 timer hrest
  unfold nextInstant?
  simp only [hattended, ite_true, htimers, List.head?_cons, Option.map_some, Option.toList_some]
  generalize htimes : (w.agenda.head?.map (·.1)).toList ++ [first.1] ++
    ((w.poller.filter fun p => !p.busy).map (·.next)).toList = times
  have hmem : first.1 ∈ times := by simp [← htimes]
  cases hmin : times.min? with
  | none => simp [List.min?_eq_none_iff.mp hmin] at hmem
  | some next =>
      refine ⟨next, rfl, Nat.le_trans ?_ hfirst⟩
      exact (List.min?_eq_some_iff.mp hmin).2 _ hmem

/-- A submission that is not accepted while nothing else is to do is held up by those that wait. -/
theorem full_of_still (h : w.dispatcherStep? = none) (hattended : w.attended = true)
    (hrunning : w.dispatcher.stopped = false) (hdue : w.timerDue = false)
    (hqueue : w.dispatcher.inbound ≠ []) : w.config.maxWaiting ≤ w.dispatcher.waitingTotal := by
  by_contra hroom
  have haccepting : w.dispatcher.isAccepting w.moment = true :=
    decide_eq_true (Nat.lt_of_not_le hroom)
  have hsome : w.dispatcher.inbound.isEmpty = false := by simpa using hqueue
  unfold dispatcherStep? at h
  simp only [hattended, hrunning, hdue, haccepting, hsome] at h
  split at h
  · contradiction
  split at h
  · cases h
  · split at h <;> simp at h

/-- What holds a submission up while nothing happens is a command in flight. -/
theorem held_up (hw : w.front.Prompt config) (hroom : 0 < config.maxWaiting)
    (nothing : w.step? net = none) (hline : w.front.line ≠ []) :
    ∃ id entry, w.dispatcher.inFlight.get? id = some entry := by
  have hattended : w.attended = true := hw.attended
  have hrunning : w.dispatcher.stopped = false := by
    cases hstopped : w.dispatcher.stopped with
    | false => rfl
    | true => exact absurd (hw.flowing.ended hstopped) hline
  -- Submissions are blocked only while the queue is full, so whoever is first in line is in it.
  have hqueue : w.dispatcher.inbound ≠ [] := by
    intro hnone
    have hblocked : w.front.blocked ≠ [] := by
      intro hblocked
      refine hline ?_
      rw [Front.line, hblocked]
      simpa using hnone
    have hdepth := hw.flowing.full hblocked
    simp [Front.depth, hnone] at hdepth
  obtain ⟨-, -, hdispatcher, -, hidle⟩ := step?_eq_none_iff.mp nothing
  have hdue : w.timerDue = false := by
    unfold idleStep? at hidle
    split at hidle
    · cases hidle
    · simpa [hattended, hrunning] using hidle
  have hfull := full_of_still hdispatcher hattended hrunning hdue hqueue
  rw [show w.config = config from hw.configured,
    show w.dispatcher.waitingTotal = _ from hw.sound.booked.total] at hfull
  obtain ⟨⟨id, entry⟩, hentry, -⟩ := List.countP_pos_iff.mp (Nat.lt_of_lt_of_le hroom hfull)
  exact ⟨id, entry, Assoc.get?_of_mem hw.sound.numbered.distinct hentry⟩

/-- While nothing happens the clock does not pass a deadline. -/
theorem wait_in_time (hw : w.front.Prompt config) (hroom : 0 < config.maxWaiting)
    (nothing : w.step? net = none) {now : Instant}
    (due : ∀ next ∈ w.nextInstant?, now ≤ max next w.now) {command : Command}
    (hcommand : w.front.Unresolved command) : now ≤ command.deadline := by
  have hinFlight : ∀ id entry, w.dispatcher.inFlight.get? id = some entry →
      now ≤ entry.command.deadline := by
    intro id entry hentry
    obtain ⟨next, hnext, hle⟩ := nextInstant?_le hw.attended hw.sound.timed.sorted
      (hw.sound.timed.deadline id entry hentry)
    have hlater := (hw.timely.holds (.underWay hentry rfl)).1
    exact Nat.le_trans (due next hnext) (Nat.max_le.mpr ⟨hle, hlater⟩)
  rcases hcommand.cases_line with ⟨id, entry, hentry, rfl⟩ | hline
  · exact hinFlight id entry hentry
  · -- A command in line has no timer, but it comes after one that has.
    obtain ⟨id, entry, hentry⟩ := held_up hw hroom nothing (List.ne_nil_of_mem hline)
    exact Nat.le_trans (hinFlight id entry hentry)
      (hw.ordered.ahead.underWay id entry hentry command hline)

theorem wait_prompt (hw : w.front.Prompt config) (hroom : 0 < config.maxWaiting)
    (nothing : w.step? net = none) {now : Instant} (later : w.now ≤ now)
    (due : ∀ next ∈ w.nextInstant?, now ≤ max next w.now) :
    Front.Prompt config { w.front with now } := by
  have htimely : w.front.Everyone fun command =>
      now ≤ command.deadline ∧ command.deadline ≤ now + config.operationTimeout.nanos := by
    refine .of_all fun command hcommand => ⟨wait_in_time hw hroom nothing due hcommand, ?_⟩
    exact Nat.le_trans (hw.timely.holds hcommand).2 (Nat.add_le_add_right later _)
  exact ⟨hw.configured, hw.attended, hw.sound.queue rfl rfl, ⟨hw.flowing.full, hw.flowing.ended⟩,
    hw.ordered.congr rfl rfl, ⟨htimely.everywhere, htimely.blocked⟩, hw.accounted⟩

/-! ## Whatever happens -/

/-- Whatever happens to a client of which only calls for keys are made, no command is late. -/
theorem History.prompt (h : History net (KeyDraft config) w w') (hroom : 0 < config.maxWaiting)
    (hdrafted : w.front.Drafted (KeyDraft config)) (hw : w.front.Prompt config) :
    w'.front.Prompt config ∧ w'.front.Drafted (KeyDraft config) :=
  h.induct (fun _ _ hdeed hf => hdeed.prompt hf)
    (fun _ _ nothing later due hw => wait_prompt hw hroom nothing later due) hdrafted hw

/-- What was submitted before some point is through one timeout later. -/
theorem History.bounded (h : History net (KeyDraft config) w w') (hroom : 0 < config.maxWaiting)
    (hdrafted : w.front.Drafted (KeyDraft config)) (hw : w.front.Prompt config) :
    w.nextTicket ≤ w'.nextTicket ∧
      w'.front.Everyone fun command => command.ticket < w.nextTicket →
        command.deadline ≤ w.now + config.operationTimeout.nanos := by
  have hstart : w.front.Everyone fun command => command.ticket < w.nextTicket →
      command.deadline ≤ w.now + config.operationTimeout.nanos :=
    .of_all fun command hcommand _ => (hw.timely.holds hcommand).2
  have hhistory := h.induct
    (P := fun f => f.Prompt config ∧ w.nextTicket ≤ f.nextTicket ∧
      f.Everyone fun command => command.ticket < w.nextTicket →
        command.deadline ≤ w.now + config.operationTimeout.nanos) ?_ ?_ hdrafted
    ⟨hw, Nat.le_refl _, hstart⟩
  · exact hhistory.1.2
  · rintro f f' hdeed ⟨hf, hle, hearly⟩
    refine ⟨hdeed.prompt hf, Nat.le_trans hle hdeed.tickets,
      hdeed.everyone ?_ ?_ hf.sound.numbered hearly⟩
    · intro origin command hsame horigin
      rwa [hsame.deadline, hsame.ticket]
    · -- A new command has a new ticket.
      intro draft _ hticket
      exact absurd hticket (Nat.not_lt.mpr hle)
  · rintro w₁ now nothing later due ⟨hf, hle, hearly⟩
    exact ⟨wait_prompt hf hroom nothing later due, hle, ⟨hearly.everywhere, hearly.blocked⟩⟩

/-- The clock never passes the deadline of a command without a result, be it in flight, in the queue
or blocked. So whatever was submitted has its result one timeout later. -/
theorem never_outlives {network : σ} {w₀ : World σ}
    (hconnect : connect net config network = .ok w₀)
    (h : History net (KeyDraft config) w₀ w) (h' : History net (KeyDraft config) w w') :
    (∀ command, w'.front.Unresolved command → w'.now ≤ command.deadline) ∧
      ∀ ticket < w.nextTicket, w'.results.has ticket = false →
        (∃ command, w'.front.Unresolved command ∧ command.ticket = ticket) ∧
          w'.now ≤ w.now + config.operationTimeout.nanos := by
  obtain ⟨hfault, hstart⟩ : config.fault? = none ∧
      History net (KeyDraft config) { config, network } w₀ := connect_history hconnect
  have hroom := (usable_of_fault? hfault).waiting
  have hhistory : History net (KeyDraft config) { config, network } w := hstart.trans h
  obtain ⟨hw, hdrafted⟩ := hhistory.prompt hroom (by simp [Front.Drafted])
    (.start rfl rfl rfl rfl rfl)
  obtain ⟨hw', -⟩ := h'.prompt hroom hdrafted hw
  obtain ⟨hle, hearly⟩ := h'.bounded hroom hdrafted hw
  refine ⟨fun command hcommand => (hw'.timely.holds hcommand).1, ?_⟩
  intro ticket hticket hunresolved
  have hawaits := (hw'.accounted ticket (Nat.lt_of_lt_of_le hticket hle)).resolve_left
    (by simp [hunresolved])
  obtain ⟨command, hcommand, rfl⟩ := hawaits.unresolved hw'.sound.numbered
  refine ⟨⟨command, hcommand, rfl⟩, ?_⟩
  exact Nat.le_trans (hw'.timely.holds hcommand).1 (hearly.holds hcommand hticket)

/-- The crowded client half a timeout later. -/
def halfway : World Unit := crowded.sleep silent (.ofMillis 50)

/-- Nothing has come of its call yet. -/
theorem halfway_in_time :
    (crowded.nextTicket = 4 ∧ halfway.now = 50000000 ∧ halfway.results.keys = []) ∧
      (∀ command, halfway.front.Unresolved command → halfway.now ≤ command.deadline) ∧
      ∀ ticket < crowded.nextTicket, halfway.results.has ticket = false →
        (∃ command, halfway.front.Unresolved command ∧ command.ticket = ticket) ∧
          halfway.now ≤ crowded.now + narrow.operationTimeout.nanos := by
  have hrest : History silent (KeyDraft narrow) crowded halfway :=
    (runUntil_proceeds silent _ _ _ _).history
  exact ⟨by decide +kernel, never_outlives started_connected crowded_history hrest⟩

end ClusterKv.World

import ClusterKv.Proofs.Pool.Closing
import ClusterKv.Proofs.Simulation.Writing

/-! # Shutting down

Once the dispatcher has stopped its pool is closed for good. Attempts that are still on their way
may start, wait or connect, but none of them begins to write. -/

namespace ClusterKv.World

variable {σ : Type} {net : Network σ} {w₀ w w' : World σ} {caller generation : Nat} {node : NodeId}

/-! ## At a closed pool -/

/-- The pool is closed. Nobody has begun to connect, and nobody has begun to write. -/
structure Silent (w₀ w : World σ) : Prop where
  shut : w.pool.Shut
  numbered : w.pool.nextGeneration = w₀.pool.nextGeneration
  unwritten : w.writeLog = w₀.writeLog

namespace Silent

theorem refl (shut : w.pool.Shut) : Silent w w := ⟨shut, rfl, rfl⟩

theorem trans {w'' : World σ} (h : Silent w w') (h' : Silent w' w'') : Silent w w'' :=
  ⟨h'.shut, h'.numbered.trans h.numbered, h'.unwritten.trans h.unwritten⟩

/-- Other things may happen. -/
theorem congr (h : Silent w₀ w) (hpool : w'.pool = w.pool) (hlog : w'.writeLog = w.writeLog) :
    Silent w₀ w' where
  shut := hpool ▸ h.shut
  numbered := (congrArg Pool.nextGeneration hpool).trans h.numbered
  unwritten := hlog.trans h.unwritten

theorem desk (h : Silent w₀ w) (hdesk : w'.desk = w.desk) : Silent w₀ w' :=
  h.congr (congrArg Desk.pool hdesk) (congrArg Desk.writeLog hdesk)

theorem conclude (h : Silent w₀ w) (id : Nat) (event : TaskEvent) :
    Silent w₀ (w.conclude id event) := by
  unfold World.conclude
  dsimp only
  split <;> exact h.congr rfl rfl

theorem performAll (h : Silent w₀ w) (acts : List (Duration × Act)) :
    Silent w₀ (w.performAll net node generation acts) := by
  induction acts generalizing w with
  | nil => exact h
  | cons act rest ih =>
      obtain ⟨after, act⟩ := act
      simp only [World.performAll]
      split
      · exact ih (h.desk (desk_perform ..))
      · exact ih (h.congr rfl rfl)

theorem written (h : Silent w₀ w) (id generation : Nat)
    (result : Except ConnectionError (List (Duration × Act))) :
    Silent w₀ (w.written net id generation result) := by
  unfold World.written
  split
  · exact h
  · split
    · exact h.conclude ..
    · refine conclude (performAll ?_ _) _ _
      exact h.congr rfl rfl

theorem finishFetch (h : Silent w₀ w) (purpose : Purpose)
    (fetched : Except TopologyError Topology) : Silent w₀ (w.finishFetch purpose fetched) := by
  cases purpose with
  | dispatcher =>
      simp only [World.finishFetch]
      split <;> exact h.congr rfl rfl
  | call | poller => exact h.congr rfl rfl

theorem startFetch (h : Silent w₀ w) (purpose : Purpose) :
    Silent w₀ (w.startFetch net purpose) := by
  unfold World.startFetch
  dsimp only
  split
  · refine finishFetch ?_ _ _
    exact h.congr rfl rfl
  · exact h.congr rfl rfl

/-- Who gets no connection writes nothing. -/
theorem refused (h : Silent w₀ w) (caller : Nat) (error : ConnectionError) :
    Silent w₀ (w.obtained net caller (.error error)) := by
  unfold World.obtained
  split
  · next heq => cases heq
  · exact h.conclude ..
  · exact h.congr rfl rfl

/-- A slot is released. -/
theorem release (h : Silent w₀ w)
    (hpool : w'.pool = w.pool.setSlot node (Pool.Slot.release (w.pool.slot node)))
    (hlog : w'.writeLog = w.writeLog) : Silent w₀ w' where
  shut := hpool ▸ h.shut.release
  numbered := (congrArg Pool.nextGeneration hpool).trans h.numbered
  unwritten := hlog.trans h.unwritten

theorem acquire (h : Silent w₀ w) (caller : Nat) (node : NodeId) :
    Silent w₀ (w.acquire net caller node) := by
  unfold World.acquire
  rw [h.shut.acquire_eq]
  exact h.refused caller .poolClosed

theorem enter (h : Silent w₀ w) (caller : Nat) (node : NodeId) :
    Silent w₀ (w.enter net caller node) := by
  unfold World.enter
  rw [h.shut.enter_eq]
  refine refused ?_ caller .poolClosed
  exact h.release rfl rfl

theorem dialed (h : Silent w₀ w) (caller : Nat) (node : NodeId) (generation : Nat)
    (result : Except ConnectionError Unit) :
    Silent w₀ (w.dialed net caller node generation result) := by
  obtain ⟨error, late, hdialed⟩ := h.shut.dialed_eq node generation result
  unfold World.dialed
  simp only [hdialed]
  refine refused ?_ caller error
  split
  · refine desk ?_ (desk_close ..)
    exact h.release rfl rfl
  · exact h.release rfl rfl

/-- Whatever is done, nobody begins to write. -/
theorem run (h : Silent w₀ w) (job : Job) : Silent w₀ (w.run net job) := by
  cases job with
  | start id =>
      simp only [World.run]
      split
      · exact h
      · exact h.acquire ..
  | fetch purpose => exact h.startFetch purpose
  | dialed caller node generation result => exact h.dialed ..
  | written id generation result => exact h.written ..
  | expired id => exact h.conclude ..
  | act node generation act => exact h.desk (desk_perform ..)
  | fetched purpose result => exact h.finishFetch ..

end Silent

/-! ## The dispatcher stops -/

/-- The last thing that a dispatcher does is to close its pool. -/
theorem stopDispatcher_shut (w : World σ) : w.stopDispatcher.pool.Shut := by
  have hpool : w.stopDispatcher.pool = (w.turn .shutdown).pool :=
    congrArg Desk.pool (desk_stopDispatcher w)
  have hclosed : ∀ (held : List (NodeId × Nat)) (w : World σ),
      (held.foldl (fun w e => w.close e.1 e.2) w).pool = w.pool := by
    intro held
    induction held with
    | nil => exact fun _ => rfl
    | cons e rest ih => exact fun w => (ih _).trans (congrArg Desk.pool (desk_close w e.1 e.2))
  rw [hpool]
  simp only [turn, Dispatcher.turn, Dispatcher.takeOutbox, Dispatcher.shutDown_eq,
    List.cons_append, List.reverse_cons, List.foldl_append, List.foldl_cons, List.foldl_nil,
    carryOut, closeAll, hclosed]
  exact Pool.closeAll_shut _

/-- Nothing else stops it, or has it start again. -/
theorem Occurs.stopped_cases (h : Occurs net w w') (numbered : w.dispatcher.Numbered .empty) :
    w'.dispatcher.stopped = w.dispatcher.stopped ∨
      w.dispatcher.stopped = false ∧ w' = w.stopDispatcher := by
  have hturn : ∀ {input}, input ≠ .shutdown →
      (w.turn input).dispatcher.stopped = w.dispatcher.stopped := by
    intro input hinput
    have hfront := congrArg (fun f : Front => f.dispatcher.stopped) (front_turn w input)
    exact hfront.trans (Dispatcher.turn_stopped numbered hinput)
  have hsame : ∀ {w₀ w' : World σ}, w'.front = w₀.front →
      w'.dispatcher.stopped = w₀.dispatcher.stopped :=
    fun hfront => congrArg (fun f : Front => f.dispatcher.stopped) hfront
  have hapart : ∀ {w' : World σ} {inbound}, w'.dispatcher = { w.dispatcher with inbound } →
      w'.dispatcher.stopped = w.dispatcher.stopped :=
    fun hdispatcher => by rw [hdispatcher]
  cases h with
  | turn _ other lasting => exact .inl (hturn lasting)
  | accept =>
      obtain ⟨-, inbound, hdispatcher⟩ := unblock_apart (w.turn .accept)
      exact .inl ((congrArg Dispatcher.stopped hdispatcher).trans (hturn nofun))
  | stop running => exact .inr ⟨running, rfl⟩
  | @job before after job => exact .inl (hsame (front_run net { w with jobs := _ } job))
  | @due before after _ job => exact .inl (hsame (front_run net { w with agenda := _ } job))
  | enter => exact .inl (hsame (front_enter ..))
  | wait | hear => exact .inl rfl
  | fetch => exact .inl (hsame (front_startFetch ..))
  | call number drafts =>
      obtain ⟨-, inbound, hdispatcher⟩ : (w.startCall number drafts).desk = w.desk ∧ _ :=
        submitDrafts_apart ..
      exact .inl (hapart hdispatcher)
  | flush number =>
      obtain ⟨-, inbound, hdispatcher⟩ := startFlush_apart w number
      exact .inl (hapart hdispatcher)
  | beside front => exact .inl (hsame front)

/-- Once the dispatcher has stopped and its pool is closed, nobody begins to write. -/
theorem Occurs.silent (h : Occurs net w w') (stopped : w.dispatcher.stopped = true)
    (shut : w.pool.Shut) : Silent w w' := by
  have hidle := Silent.refl shut
  have hrunning : w.dispatcher.stopped ≠ false := by simp [stopped]
  cases h with
  | turn running | accept running | stop running => exact absurd running hrunning
  | job waits =>
      refine .run ?_ _
      exact hidle.congr rfl rfl
  | enter => exact hidle.enter ..
  | due waits due =>
      refine .run ?_ _
      exact hidle.congr rfl rfl
  | wait | hear => exact hidle.congr rfl rfl
  | fetch purpose => exact hidle.startFetch purpose
  | call number drafts => exact hidle.desk (submitDrafts_apart ..).1
  | flush number => exact hidle.desk (startFlush_apart w number).1
  | beside front desk => exact hidle.desk desk

section

variable {config : Config} {network : σ}

/-- Whenever the dispatcher has stopped its pool is closed. -/
theorem Course.shut (h : Course net { config, network } w)
    (stopped : w.dispatcher.stopped = true) : w.pool.Shut := by
  induction h with
  | refl => cases stopped
  | tail before occurs ih =>
      rcases occurs.stopped_cases (Course.tracked before).sound.numbered with hsame | ⟨-, rfl⟩
      · have hstopped := hsame.symm.trans stopped
        exact (occurs.silent hstopped (ih hstopped)).shut
      · exact stopDispatcher_shut _

/-- Nobody begins to write any more once it has. -/
theorem Course.silent (h : Course net { config, network } w)
    (stopped : w.dispatcher.stopped = true) (later : Course net w w') : Silent w w' := by
  suffices hlater : Silent w w' ∧ w'.dispatcher.stopped = true from hlater.1
  induction later with
  | refl => exact ⟨.refl (h.shut stopped), stopped⟩
  | tail before occurs ih =>
      obtain ⟨hsilent, hstopped⟩ := ih
      refine ⟨hsilent.trans (occurs.silent hstopped hsilent.shut), ?_⟩
      have hnumbered := (Course.tracked (h.trans before)).sound.numbered
      rcases occurs.stopped_cases hnumbered with hsame | ⟨running, -⟩
      · exact hsame.trans hstopped
      · cases running.symm.trans hstopped

/-- Nothing is connected or written once a pool has been closed: whatever callers do, in any order,
before and after, none gets a connection any more, and once the dispatcher has stopped, nobody
begins to connect or to write. -/
theorem nothing_after_shutdown (h : Course net { config, network } w)
    (stopped : w.dispatcher.stopped = true) (later : Course net w w') :
    (∀ before after, Traffic.Aftermath (.of before) after (.of (before ++ .closeAll :: after))) ∧
      Silent w w' :=
  ⟨Traffic.aftermath, h.silent stopped later⟩

end

/-- A network in which connecting takes a while. -/
def leisurely : Network Unit where
  dial s _ := (s, some (.ofMillis 50, .ok ()))
  isUp _ _ := true
  write s _ _ := (s, { result := .ok [] })
  perform s _ request _ := (s, .success request.opaqueId 0)
  fetch s := (s, .zero, .ok ⟨1, [⟨"a:1"⟩], [some 0], none⟩)

/-- A client there that has just started. -/
def greeted : World Unit :=
  match connect leisurely { pollInterval := none } () with
  | .ok w => w
  | .error _ => { config := {}, network := () }

theorem greeted_connected : connect leisurely { pollInterval := none } () = .ok greeted := rfl

/-- The client connects for a call. -/
def connecting : World Unit :=
  (Client.many [([1], .get)] greeted 1).1.sleep leisurely (.ofMillis 10)

/-- It stops meanwhile. -/
def halted : World Unit := connecting.stopDispatcher

theorem halted_course :
    Course leisurely { config := { pollInterval := none }, network := () } halted := by
  have hcalled : Course leisurely greeted connecting := .head (.call 1 _) (runUntil_course _ _ _)
  exact ((connect_course greeted_connected).trans hcalled).tail (.stop (by decide +kernel))

/-- Some time later, when it would have connected. -/
def lapsed : World Unit := halted.sleep leisurely (.ofMillis 100)

/-- It was connecting when it stopped, and has closed the connection without writing to it. -/
theorem lapsed_silent :
    (halted.dispatcher.stopped = true ∧ halted.agenda.map (·.1) = [50000000] ∧
      lapsed.agenda = [] ∧ lapsed.isAlive leisurely ⟨"a:1"⟩ 1 = false ∧ lapsed.writeLog = []) ∧
    (∀ before after, Traffic.Aftermath (.of before) after (.of (before ++ .closeAll :: after))) ∧
      Silent halted lapsed :=
  ⟨by decide +kernel,
    nothing_after_shutdown halted_course (by decide +kernel) (runUntil_course _ _ _)⟩

/-- Not everybody is told that the pool is closed: whoever fails to connect is told why. -/
theorem not_only_pool_closed :
    ¬∀ before after, ∃ told, (Traffic.of (before ++ .closeAll :: after)).answers =
      (Traffic.of before).answers ++ told ∧ ∀ answer ∈ told, answer.2.2 = .error .poolClosed := by
  intro hall
  obtain ⟨told, hanswers, htold⟩ := hall [.call 0 ⟨"a:1"⟩]
    [.connected ⟨0, ⟨"a:1"⟩, 1⟩ (.error (.connect ⟨"a:1"⟩ "refused"))]
  have hfailed : told = [(0, ⟨"a:1"⟩, .error (.connect ⟨"a:1"⟩ "refused"))] := by
    rw [← List.nil_append told]
    exact hanswers.symm
  simp [hfailed] at htold

end ClusterKv.World

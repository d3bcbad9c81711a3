import ClusterKv.Proofs.Dispatcher.Capacity
import ClusterKv.Proofs.Dispatcher.Timers

/-! # The loops of a turn come to an end

A turn goes through the timers that are due, and through the queues of the nodes that have room.
Both loops send commands on their way while they run, which adds entries, timers and attempts, but
never anything that would keep the loop going. Here they are taken round by round, without fuel. -/

namespace ClusterKv

/-- A loop goes from one state to another in so many rounds, and is over there. -/
inductive Loop {σ : Type} (round : σ → Option σ) : Nat → σ → σ → Prop where
  | over {s : σ} (last : round s = none) : Loop round 0 s s
  | again {s s' t : σ} {rounds : Nat} (next : round s = some s') (rest : Loop round rounds s' t) :
      Loop round (rounds + 1) s t

namespace Dispatcher

variable {m : Moment} {d d' : Dispatcher}

/-! ## Timers -/

/-- A round of the loop over the timers: the first one goes off if it is due. -/
def fireRound (m : Moment) (d : Dispatcher) : Option Dispatcher :=
  match d.timers with
  | [] => none
  | (due, id) :: rest =>
    if due ≤ m.now then some ({ d with timers := rest }.fireTimer m id) else none

theorem fireRound_cases (h : fireRound m d = some d') :
    ∃ due id rest, d.timers = (due, id) :: rest ∧ due ≤ m.now ∧
      d' = { d with timers := rest }.fireTimer m id := by
  unfold fireRound at h
  split at h
  · cases h
  · next due id rest htimers =>
      split at h
      · next hdue => exact ⟨due, id, rest, htimers, hdue, (Option.some.inj h).symm⟩
      · cases h

theorem fireRound_eq_none (h : ∀ timer ∈ d.timers.head?, m.now < timer.1) :
    fireRound m d = none := by
  unfold fireRound
  split
  · rfl
  · next due id rest htimers =>
      have hlater : m.now < due := h (due, id) (by simp [htimers])
      rw [if_neg (Nat.not_le.mpr hlater)]

/-- A command that is sent on its way arms a timer for its deadline at most, which is to come. -/
theorem route_timers (d : Dispatcher) (command : Command) :
    ∀ timer ∈ (d.route m command).timers, timer ∈ d.timers ∨ m.now < timer.1 := by
  have hrouted := route_routed m d command
  generalize startedBy m d command = starts at hrouted
  generalize d.route m command = d' at hrouted
  intro timer htimer
  cases hrouted with
  | late | unowned => exact .inl htimer
  | started | waiting => exact .inl (by simpa using htimer)
  | parked inTime missed left =>
      simp only [park, requestRefresh_timers, insert_timers] at htimer
      rcases List.mem_cons.mp ((insertTimer_perm _ _).subset htimer) with rfl | hold
      · obtain ⟨partition, hsame⟩ := routeOf_fst m command
        exact .inr (by rwa [hsame])
      · exact .inl hold

theorem fireTimer_timers (d : Dispatcher) (id : Nat) :
    ∀ timer ∈ (d.fireTimer m id).timers, timer ∈ d.timers ∨ m.now < timer.1 := by
  intro timer htimer
  unfold fireTimer at htimer
  split at htimer
  · exact .inl htimer
  split at htimer
  · exact .inl (by simpa using htimer)
  split at htimer
  · split at htimer
    · simpa using route_timers _ _ timer htimer
    · exact .inl htimer
  · exact .inl htimer

/-- Each round uses up a timer that is due, and arms none. -/
theorem fireRound_dueCount (h : fireRound m d = some d') :
    dueCount m d = dueCount m d' + 1 := by
  obtain ⟨due, id, rest, htimers, hdue, rfl⟩ := fireRound_cases h
  rw [fireTimer_dueCount]
  simp [dueCount, htimers, hdue]

theorem fireRound_timers (h : fireRound m d = some d') :
    ∀ timer ∈ d'.timers, timer ∈ d.timers ∨ m.now < timer.1 := by
  obtain ⟨due, id, rest, htimers, hdue, rfl⟩ := fireRound_cases h
  intro timer htimer
  refine (fireTimer_timers _ id timer htimer).imp_left fun hrest => ?_
  rw [htimers]
  exact List.mem_cons_of_mem _ hrest

/-- The loop takes as many rounds as there are timers due when it begins. -/
theorem fireDue_loop (fuel : Nat) (d : Dispatcher) (hd : Numbered d .empty)
    (h : Timed (d, .empty)) (hfuel : dueCount m d = fuel) :
    Loop (fireRound m) fuel d (d.fireDue m fuel) := by
  induction fuel generalizing d with
  | zero =>
      refine .over (fireRound_eq_none ?_)
      intro timer htimer
      have hnone := List.countP_eq_zero.mp hfuel timer (List.mem_of_mem_head? htimer)
      simpa using hnone
  | succ fuel ih =>
      have hdue : ∃ timer ∈ d.timers.head?, timer.1 ≤ m.now := by
        by_contra hnone
        have hlater : ∀ timer ∈ d.timers, m.now < timer.1 := by
          refine h.sorted.none_due fun timer htimer => ?_
          exact Nat.lt_of_not_le fun hdue => hnone ⟨timer, htimer, hdue⟩
        have hcount : dueCount m d = 0 :=
          List.countP_eq_zero.mpr fun timer htimer => by simpa using hlater timer htimer
        omega
      obtain ⟨⟨due, id⟩, hfirst, hdue⟩ := hdue
      obtain ⟨rest, htimers⟩ := List.head?_eq_some_iff.mp hfirst
      have hround : fireRound m d = some ({ d with timers := rest }.fireTimer m id) := by
        simp only [fireRound, htimers, if_pos hdue]
      have hcount := fireRound_dueCount hround
      have hmoves : Moves m (some .timers) (d, .empty)
          ({ d with timers := rest }.fireTimer m id, .empty) :=
        .head (.tick htimers hdue) (fireTimer_moves _ id)
      have hfewer : dueCount m ({ d with timers := rest }.fireTimer m id) = fuel := by omega
      have hrest := ih _ (hmoves.numbered hd) (h.fire hd htimers hdue) hfewer
      simp only [fireDue, htimers, if_pos hdue]
      exact .again hround hrest

/-! ## Queues -/

/-- The nodes that have room and are waited for. -/
def ready (m : Moment) (d : Dispatcher) : List NodeId :=
  (d.waiting.filter fun e => !e.2.isEmpty && d.hasCapacity m e.1).map (·.1)

/-- A round of the loops over the nodes and their queues: the next node is done with, or the first
number leaves its queue and its command, if it still waits, is sent off. -/
def promoteRound (m : Moment) : List NodeId × Dispatcher → Option (List NodeId × Dispatcher)
  | ([], _) => none
  | (node :: nodes, d) =>
    if !d.hasCapacity m node then some (nodes, d)
    else match d.waitingFor node with
      | [] => some (nodes, d)
      | id :: rest =>
        let d := { d with waiting := d.waiting.put node rest }
        match d.inFlight.get? id with
        | some ⟨command, .waiting _ partition⟩ =>
          some (node :: nodes, (d.remove id).1.dispatch m command ⟨partition, node⟩)
        | _ => some (node :: nodes, d)

section

variable {node : NodeId} {nodes : List NodeId} {id : Nat} {rest : List Nat}

theorem promoteRound_done (h : Done m d node) :
    promoteRound m (node :: nodes, d) = some (nodes, d) := by
  rcases h with hempty | hfull
  · simp [promoteRound, hempty]
  · simp [promoteRound, hfull]

theorem promoteRound_waiting {command : Command} {other : NodeId} {partition : UInt16}
    (room : d.hasCapacity m node = true) (queue : d.waitingFor node = id :: rest)
    (found : d.inFlight.get? id = some ⟨command, .waiting other partition⟩) :
    promoteRound m (node :: nodes, d) = some (node :: nodes,
      ({ d with waiting := d.waiting.put node rest }.remove id).1.dispatch m command
        ⟨partition, node⟩) := by
  simp [promoteRound, room, queue, found]

theorem promoteRound_gone (room : d.hasCapacity m node = true)
    (queue : d.waitingFor node = id :: rest)
    (gone : ∀ command other partition,
      d.inFlight.get? id ≠ some ⟨command, .waiting other partition⟩) :
    promoteRound m (node :: nodes, d) =
      some (node :: nodes, { d with waiting := d.waiting.put node rest }) := by
  simp [promoteRound, room, queue]

/-- The loop over the queue of a node takes a round for each number in it at most, and one to find
that the node is done with. -/
theorem promoteNode_loop (fuel : Nat) (d : Dispatcher) {rounds : Nat}
    {t : List NodeId × Dispatcher}
    (hfuel : (d.waitingFor node).length ≤ fuel)
    (hrest : Loop (promoteRound m) rounds (nodes, d.promoteNode m node fuel) t) :
    ∃ more ≤ (d.waitingFor node).length + 1,
      Loop (promoteRound m) (rounds + more) (node :: nodes, d) t := by
  have hdone : ∀ d : Dispatcher, Done m d node → Loop (promoteRound m) rounds (nodes, d) t →
      ∃ more ≤ (d.waitingFor node).length + 1,
        Loop (promoteRound m) (rounds + more) (node :: nodes, d) t :=
    fun d hnode hloop => ⟨1, by omega, .again (promoteRound_done hnode) hloop⟩
  induction fuel generalizing d with
  | zero =>
      have hempty : d.waitingFor node = [] := List.eq_nil_of_length_eq_zero (by omega)
      exact hdone d (.inl hempty) hrest
  | succ fuel ih =>
      rcases promoteNode_cases m node fuel d with ⟨hfull, h⟩ | ⟨hempty, h⟩ |
        ⟨hroom, id, queue, hqueue, ⟨command, other, partition, hentry, h⟩ | ⟨hgone, h⟩⟩
      · rw [h] at hrest
        exact hdone d (.inr hfull) hrest
      · rw [h] at hrest
        exact hdone d (.inl hempty) hrest
      · -- A command whose deadline has passed is ended here, and so takes no room.
        rw [h] at hrest
        rw [hqueue, List.length_cons] at hfuel ⊢
        have hadvance := (advanced_remove (d := { d with waiting := d.waiting.put node queue })
          hentry).trans (advanced_dispatch (m := m) _ command ⟨partition, node⟩)
        have hshorter := hadvance.queues node
        rw [waitingFor_put, if_pos rfl] at hshorter
        obtain ⟨more, hmore, hloop⟩ := ih _ (by omega) hrest
        exact ⟨more + 1, by omega, .again (promoteRound_waiting hroom hqueue hentry) hloop⟩
      · rw [h] at hrest
        rw [hqueue, List.length_cons] at hfuel ⊢
        have hshorter := waitingFor_put d node queue node
        rw [if_pos rfl] at hshorter
        obtain ⟨more, hmore, hloop⟩ := ih _ (by rw [hshorter]; omega) hrest
        rw [hshorter] at hmore
        exact ⟨more + 1, by omega, .again (promoteRound_gone hroom hqueue hgone) hloop⟩

end

/-- How many numbers the queues of some nodes hold. -/
def queueLengths : List NodeId → Dispatcher → Nat
  | [], _ => 0
  | node :: nodes, d => (d.waitingFor node).length + queueLengths nodes d

theorem Advanced.queueLengths_le (h : Advanced d d') (nodes : List NodeId) :
    queueLengths nodes d' ≤ queueLengths nodes d := by
  induction nodes with
  | nil => exact Nat.le_refl _
  | cons node nodes ih => exact Nat.add_le_add (h.queues node) ih

/-- The loop over some nodes ends with all their queues gone through. -/
theorem promoteNodes_loop (nodes : List NodeId) (d : Dispatcher) :
    ∃ rounds ≤ nodes.length + queueLengths nodes d, Loop (promoteRound m) rounds (nodes, d)
      ([], nodes.foldl (fun d node => d.promoteNode m node (d.waitingFor node).length) d) := by
  induction nodes generalizing d with
  | nil => exact ⟨0, by simp, .over rfl⟩
  | cons node nodes ih =>
      obtain ⟨rounds, hrounds, hrest⟩ := ih (d.promoteNode m node (d.waitingFor node).length)
      obtain ⟨more, hmore, hloop⟩ := promoteNode_loop _ d (Nat.le_refl _) hrest
      have hadvance := advanced_promoteNode (m := m) node (d.waitingFor node).length d
      have hlengths := hadvance.queueLengths_le nodes
      refine ⟨rounds + more, ?_, hloop⟩
      rw [queueLengths, List.length_cons]
      omega

/-! ## Between the parts of a turn -/

theorem act_numbered (hd : Numbered d .empty) (input : Input) :
    Numbered (d.act m input) .empty := by
  by_cases hinput : input = .shutdown
  · rw [hinput]
    exact shutDown_numbered d
  · exact Moves.numbered (act_moves hd hinput) (mark_numbered hd input)

theorem act_booked (hd : Numbered d .empty) (h : Booked m.config d) (input : Input) :
    Booked m.config (d.act m input) := by
  by_cases hinput : input = .shutdown
  · rw [hinput]
    exact shutDown_booked m.config d
  · exact Moves.booked (act_moves hd hinput) (mark_numbered hd input) (mark_booked h input)

/-- How the loop over the timers goes. -/
structure TimersDrain (m : Moment) (d : Dispatcher) : Prop where
  /-- No round arms a timer that is due, whatever it sends on its way, so each leaves fewer. -/
  shrinks : ∀ s s', fireRound m s = some s' →
    dueCount m s' < dueCount m s ∧ ∀ timer ∈ s'.timers, timer ∈ s.timers ∨ m.now < timer.1
  ends : Loop (fireRound m) (dueCount m d) d (d.fireTimers m)
  none_due : ∀ timer ∈ (d.fireTimers m).timers, m.now < timer.1

/-- How the loops over the queues go. -/
structure QueuesDrain (m : Moment) (d : Dispatcher) : Prop where
  /-- In whatever order the nodes are taken the loops end, and all of them are done with then. -/
  ends : ∀ nodes, nodes.Perm (ready m d) → ∃ rounds ≤ nodes.length + queueLengths nodes d,
    ∃ d', Loop (promoteRound m) rounds (nodes, d) ([], d') ∧ ∀ node, Done m d' node
  /-- The loops in the order of the books lead to the state that the turn ends in. -/
  leads : d.waitingTotal ≠ 0 → ∃ rounds d', Loop (promoteRound m) rounds (ready m d, d) ([], d') ∧
    d.promoteWaiting m = { d' with waiting := d'.waiting.filter fun e => !e.2.isEmpty }
  done : ∀ node, Done m (d.promoteWaiting m) node

theorem timersDrain (hd : Numbered d .empty) (h : Timed (d, .empty)) : TimersDrain m d where
  shrinks s s' hround := by
    have hcount := fireRound_dueCount hround
    exact ⟨by omega, fireRound_timers hround⟩
  ends := fireDue_loop _ d hd h rfl
  none_due := (fireDue_timed _ d hd h (Nat.le_refl _)).2

theorem queuesDrain (hd : Numbered d .empty) (h : Booked m.config d) : QueuesDrain m d where
  ends nodes hnodes := by
    obtain ⟨rounds, hrounds, hloop⟩ := promoteNodes_loop (m := m) nodes d
    refine ⟨rounds, hrounds, _, hloop, fun node => promoteNodes_done nodes d ?_⟩
    exact (Classical.em _).symm.imp_left fun hnode => hnodes.symm.subset (mem_ready hnode)
  leads hsome := by
    obtain ⟨rounds, -, hloop⟩ := promoteNodes_loop (m := m) (ready m d) d
    exact ⟨rounds, _, hloop, if_neg hsome⟩
  done node := by
    unfold promoteWaiting
    split
    · next hnone => exact .inl (h.waitingFor_eq_nil hnone node)
    · have hready : node ∈ ready m d ∨ Done m d node :=
        (Classical.em _).symm.imp_left mem_ready
      have hdone := promoteNodes_done (ready m d) d hready
      have hnumbered := (promoteNodes_moves (m := m) (ready m d) d).numbered hd
      have htidy := waitingFor_tidy hnumbered.queues node
      exact hdone.imp_left htidy.trans

end Dispatcher

namespace Run

open Dispatcher

/-- In every state of every run, at any time and under any table, the loops of a turn come to an
end. -/
theorem loops_end (config : Config) (events : List Event) (now : Instant) (table : Topology) :
    TimersDrain ⟨config, now, table⟩ (of config events).dispatcher ∧
      ∀ input, QueuesDrain ⟨config, now, table⟩
        ((of config events).dispatcher.act ⟨config, now, table⟩ input) := by
  have hnumbered := (sound config events).numbered
  have hbooked := booked config events
  refine ⟨timersDrain hnumbered (timed config events), fun input => ?_⟩
  exact queuesDrain (act_numbered hnumbered input) (act_booked hnumbered hbooked input)

end Run

end ClusterKv

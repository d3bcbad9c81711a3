import ClusterKv.Proofs.Dispatcher.Conservation

/-! # Nothing waits for nothing

Between turns no command waits for a node that has room for it: every turn ends by going through
the queues until they are empty or their nodes are full. -/

namespace ClusterKv.Dispatcher

variable {m : Moment}

/-! ## Queues shrink while nodes fill up -/

/-- No queue is longer than before, and no node has more room. -/
structure Advanced (d d' : Dispatcher) : Prop where
  queues : ∀ node, (d'.waitingFor node).length ≤ (d.waitingFor node).length
  sent : ∀ node, d.sentTo node ≤ d'.sentTo node

theorem Advanced.refl (d : Dispatcher) : Advanced d d :=
  ⟨fun _ => Nat.le_refl _, fun _ => Nat.le_refl _⟩

theorem Advanced.trans {d d' d'' : Dispatcher} (h : Advanced d d') (h' : Advanced d' d'') :
    Advanced d d'' :=
  ⟨fun node => Nat.le_trans (h'.queues node) (h.queues node),
    fun node => Nat.le_trans (h.sent node) (h'.sent node)⟩

theorem waitingFor_put (d : Dispatcher) (node : NodeId) (queue : List Nat) (other : NodeId) :
    ({ d with waiting := d.waiting.put node queue } : Dispatcher).waitingFor other =
      if other = node then queue else d.waitingFor other := by
  unfold waitingFor
  split
  · next h => simp [h]
  · next h => simp [h]

theorem advanced_put {d : Dispatcher} {node : NodeId} {queue : List Nat}
    (h : queue.length ≤ (d.waitingFor node).length) :
    Advanced d { d with waiting := d.waiting.put node queue } := by
  refine ⟨?_, fun _ => Nat.le_refl _⟩
  intro other
  rw [waitingFor_put]
  split
  · next hother => rwa [hother]
  · exact Nat.le_refl _

theorem advanced_remove {d : Dispatcher} {id : Nat} {command : Command} {node : NodeId}
    {partition : UInt16} (h : d.inFlight.get? id = some ⟨command, .waiting node partition⟩) :
    Advanced d (d.remove id).1 := by
  refine ⟨?_, ?_⟩
  · intro other
    simp only [remove, h, leaveQueue]
    cases hqueue : d.waiting.get? node with
    | none => exact Nat.le_refl _
    | some queue =>
        by_cases hother : other = node
        · simp only [waitingFor, hother, Assoc.get?_put_self, hqueue, Option.getD_some]
          exact List.length_filter_le _ _
        · simp only [waitingFor, Assoc.get?_put_of_ne _ _ hother]
          exact Nat.le_refl _
  · intro other
    simp [sentTo, remove_sentPerNode_of_waiting d h]

theorem advanced_dispatch (d : Dispatcher) (command : Command) (route : Route) :
    Advanced d (d.dispatch m command route) := by
  unfold dispatch
  split
  · exact ⟨fun _ => Nat.le_refl _, fun _ => Nat.le_refl _⟩
  · refine ⟨fun _ => Nat.le_refl _, ?_⟩
    intro other
    simp only [sentTo, insert, emit_sentPerNode]
    by_cases hother : other = route.node
    · simp [hother]
    · simp [Assoc.get?_put_of_ne _ _ hother]

theorem advanced_promoteNode (node : NodeId) (fuel : Nat) (d : Dispatcher) :
    Advanced d (d.promoteNode m node fuel) := by
  induction fuel generalizing d with
  | zero => exact .refl d
  | succ fuel ih =>
      rcases promoteNode_cases m node fuel d with ⟨-, h⟩ | ⟨-, h⟩ |
        ⟨-, id, rest, hqueue, ⟨command, other, partition, hentry, h⟩ | ⟨-, h⟩⟩
      · rw [h]
        exact .refl d
      · rw [h]
        exact .refl d
      · rw [h]
        have hput : Advanced d { d with waiting := d.waiting.put node rest } :=
          advanced_put (by simp [hqueue])
        exact ((hput.trans (advanced_remove hentry)).trans (advanced_dispatch _ _ _)).trans (ih _)
      · rw [h]
        exact (advanced_put (by simp [hqueue])).trans (ih _)

/-! ## What is gone through is done -/

/-- Nothing waits for a node, or it has no room. -/
def Done (m : Moment) (d : Dispatcher) (node : NodeId) : Prop :=
  d.waitingFor node = [] ∨ d.hasCapacity m node = false

theorem Done.advance {d d' : Dispatcher} {node : NodeId} (h : Done m d node)
    (hadvance : Advanced d d') : Done m d' node := by
  have hqueue := hadvance.queues node
  have hsent := hadvance.sent node
  rcases h with h | h
  · left
    rw [h] at hqueue
    exact List.eq_nil_of_length_eq_zero (Nat.le_zero.mp hqueue)
  · right
    simp only [hasCapacity, decide_eq_false_iff_not] at h ⊢
    omega

theorem promoteNode_done (node : NodeId) (fuel : Nat) (d : Dispatcher)
    (hfuel : (d.waitingFor node).length ≤ fuel) : Done m (d.promoteNode m node fuel) node := by
  induction fuel generalizing d with
  | zero => exact .inl (List.eq_nil_of_length_eq_zero (Nat.le_zero.mp hfuel))
  | succ fuel ih =>
      rcases promoteNode_cases m node fuel d with ⟨hfull, h⟩ | ⟨hempty, h⟩ |
        ⟨-, id, rest, hqueue, ⟨command, other, partition, hentry, h⟩ | ⟨-, h⟩⟩
      · rw [h]
        exact .inr hfull
      · rw [h]
        exact .inl hempty
      · rw [h]
        apply ih
        have hadvance := (advanced_remove (d := { d with waiting := d.waiting.put node rest })
          hentry).trans (advanced_dispatch (m := m) _ command ⟨partition, node⟩)
        have hrest := hadvance.queues node
        rw [waitingFor_put, if_pos rfl] at hrest
        rw [hqueue, List.length_cons] at hfuel
        omega
      · rw [h]
        apply ih
        rw [waitingFor_put, if_pos rfl]
        rw [hqueue, List.length_cons] at hfuel
        omega

theorem promoteNodes_done (nodes : List NodeId) (d : Dispatcher) {node : NodeId}
    (hnode : node ∈ nodes ∨ Done m d node) :
    Done m (nodes.foldl (fun d node => d.promoteNode m node (d.waitingFor node).length) d)
      node := by
  induction nodes generalizing d with
  | nil => simpa using hnode
  | cons first rest ih =>
      rw [List.foldl_cons]
      apply ih
      rcases hnode with hnode | hdone
      · rcases List.mem_cons.mp hnode with rfl | hnode
        · exact .inr (promoteNode_done node _ d (Nat.le_refl _))
        · exact .inl hnode
      · exact .inr (hdone.advance (advanced_promoteNode first _ d))

/-! ## Between turns -/

/-- Every queue there is has commands in it, and its node no room. -/
def Settled (config : Config) (d : Dispatcher) : Prop :=
  d.waitingTotal = 0 ∨
    ∀ e ∈ d.waiting, e.2 ≠ [] ∧ config.maxInFlightPerNode ≤ d.sentTo e.1

theorem mem_ready {d : Dispatcher} {node : NodeId} (h : ¬Done m d node) :
    node ∈ (d.waiting.filter fun e => !e.2.isEmpty && d.hasCapacity m e.1).map (·.1) := by
  obtain ⟨hqueue, hroom⟩ := not_or.mp h
  unfold waitingFor at hqueue
  cases hget : d.waiting.get? node with
  | none => simp [hget] at hqueue
  | some queue =>
      refine List.mem_map.mpr ⟨(node, queue), List.mem_filter.mpr ⟨Assoc.mem_of_get? hget, ?_⟩, rfl⟩
      simp only [hget, Option.getD_some] at hqueue
      simpa [hqueue] using hroom

theorem promoteWaiting_settled {d : Dispatcher} (hd : Numbered d .empty) :
    Settled m.config (d.promoteWaiting m) := by
  unfold promoteWaiting
  split
  · next hnone => exact .inl hnone
  · right
    intro e he
    simp only at he ⊢
    generalize hready :
      (d.waiting.filter fun e => !e.2.isEmpty && d.hasCapacity m e.1).map (·.1) = ready at he ⊢
    have hmoves := promoteNodes_moves (m := m) ready d
    have hpromoted : e.1 ∈ ready ∨ Done m d e.1 := by
      rw [← hready]
      exact (Classical.em _).symm.imp_left mem_ready
    have hdone := promoteNodes_done ready d hpromoted
    generalize ready.foldl (fun d node => d.promoteNode m node (d.waitingFor node).length) d = d'
      at he hmoves hdone ⊢
    obtain ⟨hqueued, hsome⟩ := List.mem_filter.mp he
    have hget := Assoc.get?_of_mem (Moves.numbered hmoves hd).queues
      (show (e.1, e.2) ∈ d'.waiting from hqueued)
    have hqueue : e.2 ≠ [] := by simpa using hsome
    refine ⟨hqueue, ?_⟩
    rcases hdone with hempty | hfull
    · simp only [waitingFor, hget, Option.getD_some] at hempty
      exact absurd hempty hqueue
    · simp only [hasCapacity, decide_eq_false_iff_not, Nat.not_lt] at hfull
      exact hfull

/-- Where nothing waits for nothing there is nothing to promote. -/
theorem promoteWaiting_of_settled {d : Dispatcher} (h : Settled m.config d) :
    d.promoteWaiting m = d := by
  rcases h with hnone | hfull
  · simp [promoteWaiting, hnone]
  · have hready : (d.waiting.filter fun e => !e.2.isEmpty && d.hasCapacity m e.1) = [] := by
      apply List.filter_eq_nil_iff.mpr
      intro e he
      have := (hfull e he).2
      simp [hasCapacity, this]
    have hwaiting : (d.waiting.filter fun e => !e.2.isEmpty) = d.waiting := by
      apply List.filter_eq_self.mpr
      intro e he
      simpa using (hfull e he).1
    simp [promoteWaiting, hready, hwaiting]

/-- After a turn nothing waits for nothing. -/
theorem turn_settled {d : Dispatcher} (hd : Numbered d .empty) (input : Input) :
    Settled m.config (d.turn m input) := by
  by_cases hinput : input = .shutdown
  · rw [hinput, turn, shutDown_eq]
    exact .inl rfl
  · rw [turn_eq _ hinput]
    exact promoteWaiting_settled (Moves.numbered (act_moves hd hinput) (mark_numbered hd input))

end Dispatcher

namespace Run

open Dispatcher

theorem settled (config : Config) (events : List Event) :
    Settled config (of config events).dispatcher := by
  refine dispatcher_induct (P := fun _ d => Settled config d) (.inl rfl) (fun _ _ _ h => h) ?_
    events
  intro journal d m input hconfig hd _ _
  rw [← hconfig]
  exact turn_settled hd input

end Run

end ClusterKv

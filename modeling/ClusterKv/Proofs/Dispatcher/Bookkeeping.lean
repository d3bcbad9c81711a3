import ClusterKv.Dispatcher.Turn
import ClusterKv.Proofs.Assoc

/-! # What the small operations of the dispatcher leave alone

Each operation on the places of commands changes the entries in flight in one known way; the
remaining fields stay as they are. -/

namespace ClusterKv.Dispatcher

variable (d : Dispatcher)

/-! ## Effects and results -/

@[simp] theorem emit_inFlight (effect : Effect) : (d.emit effect).inFlight = d.inFlight := rfl
@[simp] theorem emit_inbound (effect : Effect) : (d.emit effect).inbound = d.inbound := rfl
@[simp] theorem emit_nextId (effect : Effect) : (d.emit effect).nextId = d.nextId := rfl
@[simp] theorem emit_parked (effect : Effect) : (d.emit effect).parked = d.parked := rfl
@[simp] theorem emit_waiting (effect : Effect) : (d.emit effect).waiting = d.waiting := rfl
@[simp] theorem emit_sentPerNode (effect : Effect) :
    (d.emit effect).sentPerNode = d.sentPerNode := rfl
@[simp] theorem emit_timers (effect : Effect) : (d.emit effect).timers = d.timers := rfl
@[simp] theorem emit_stopped (effect : Effect) : (d.emit effect).stopped = d.stopped := rfl
@[simp] theorem emit_outbox (effect : Effect) : (d.emit effect).outbox = effect :: d.outbox := rfl

@[simp] theorem finish_eq (command : Command) (result : Except Error Reply) :
    d.finish command result = d.emit (.resolve command.ticket result) := rfl

@[simp] theorem timeOut_eq (command : Command) :
    d.timeOut command = d.emit (.resolve command.ticket (.error (.timeout command.timeout))) := rfl

/-! ## Numbers and timers -/

@[simp] theorem arm_inFlight (due : Instant) (id : Nat) :
    (d.arm due id).inFlight = d.inFlight := rfl
@[simp] theorem arm_inbound (due : Instant) (id : Nat) : (d.arm due id).inbound = d.inbound := rfl
@[simp] theorem arm_nextId (due : Instant) (id : Nat) : (d.arm due id).nextId = d.nextId := rfl
@[simp] theorem arm_parked (due : Instant) (id : Nat) : (d.arm due id).parked = d.parked := rfl
@[simp] theorem arm_waiting (due : Instant) (id : Nat) : (d.arm due id).waiting = d.waiting := rfl
@[simp] theorem arm_stopped (due : Instant) (id : Nat) : (d.arm due id).stopped = d.stopped := rfl
@[simp] theorem arm_outbox (due : Instant) (id : Nat) : (d.arm due id).outbox = d.outbox := rfl

theorem assignId_eq (command : Command) :
    d.assignId command =
      ({ d with nextId := d.nextId + 1 }.arm command.deadline d.nextId,
        { command with id := d.nextId }) := rfl

/-! ## Room at nodes -/

theorem hasCapacity_congr {d d' : Dispatcher} (h : d'.sentPerNode = d.sentPerNode) (m : Moment)
    (node : NodeId) : d'.hasCapacity m node = d.hasCapacity m node := by
  unfold hasCapacity sentTo
  rw [h]

/-! ## Adding entries -/

theorem insert_frame (id : Nat) (entry : Entry) :
    ∃ sentPerNode waiting waitingTotal,
      d.insert id entry =
        { d with inFlight := d.inFlight.put id entry, sentPerNode, waiting, waitingTotal } := by
  unfold insert
  split
  · exact ⟨_, d.waiting, d.waitingTotal, rfl⟩
  · exact ⟨d.sentPerNode, _, _, rfl⟩
  · exact ⟨d.sentPerNode, d.waiting, d.waitingTotal, rfl⟩
  · exact ⟨d.sentPerNode, d.waiting, d.waitingTotal, rfl⟩

@[simp] theorem insert_inFlight (id : Nat) (entry : Entry) :
    (d.insert id entry).inFlight = d.inFlight.put id entry := by
  obtain ⟨_, _, _, h⟩ := insert_frame d id entry
  rw [h]

@[simp] theorem insert_inbound (id : Nat) (entry : Entry) :
    (d.insert id entry).inbound = d.inbound := by
  obtain ⟨_, _, _, h⟩ := insert_frame d id entry
  rw [h]

@[simp] theorem insert_nextId (id : Nat) (entry : Entry) :
    (d.insert id entry).nextId = d.nextId := by
  obtain ⟨_, _, _, h⟩ := insert_frame d id entry
  rw [h]

@[simp] theorem insert_timers (id : Nat) (entry : Entry) :
    (d.insert id entry).timers = d.timers := by
  obtain ⟨_, _, _, h⟩ := insert_frame d id entry
  rw [h]

@[simp] theorem insert_parked (id : Nat) (entry : Entry) :
    (d.insert id entry).parked = d.parked := by
  obtain ⟨_, _, _, h⟩ := insert_frame d id entry
  rw [h]

@[simp] theorem insert_stopped (id : Nat) (entry : Entry) :
    (d.insert id entry).stopped = d.stopped := by
  obtain ⟨_, _, _, h⟩ := insert_frame d id entry
  rw [h]

@[simp] theorem insert_outbox (id : Nat) (entry : Entry) :
    (d.insert id entry).outbox = d.outbox := by
  obtain ⟨_, _, _, h⟩ := insert_frame d id entry
  rw [h]

theorem insert_waiting_keys_nodup (hd : d.waiting.keys.Nodup) (id : Nat) (entry : Entry) :
    (d.insert id entry).waiting.keys.Nodup := by
  unfold insert
  split
  · exact hd
  · exact Assoc.nodup_keys_put hd _ _
  · exact hd
  · exact hd

/-! ## Removing entries -/

theorem remove_of_none {id : Nat} (h : d.inFlight.get? id = none) : d.remove id = (d, none) := by
  simp only [remove, h]

theorem remove_snd {id : Nat} : (d.remove id).2 = d.inFlight.get? id := by
  cases h : d.inFlight.get? id with
  | none => rw [remove_of_none d h]
  | some entry => simp only [remove, h]

theorem remove_frame (id : Nat) :
    ∃ sentPerNode waiting waitingTotal,
      (d.remove id).1 =
        { d with inFlight := d.inFlight.erase id, sentPerNode, waiting, waitingTotal } := by
  cases h : d.inFlight.get? id with
  | none =>
      refine ⟨d.sentPerNode, d.waiting, d.waitingTotal, ?_⟩
      rw [remove_of_none d h, Assoc.erase_of_get?_eq_none h]
  | some entry =>
      simp only [remove, h]
      split
      · exact ⟨_, d.waiting, d.waitingTotal, rfl⟩
      · exact ⟨d.sentPerNode, _, _, rfl⟩
      · exact ⟨d.sentPerNode, d.waiting, d.waitingTotal, rfl⟩
      · exact ⟨d.sentPerNode, d.waiting, d.waitingTotal, rfl⟩

@[simp] theorem remove_inFlight (id : Nat) : (d.remove id).1.inFlight = d.inFlight.erase id := by
  obtain ⟨_, _, _, h⟩ := remove_frame d id
  rw [h]

@[simp] theorem remove_inbound (id : Nat) :
    (d.remove id).1.inbound = d.inbound := by
  obtain ⟨_, _, _, h⟩ := remove_frame d id
  rw [h]

@[simp] theorem remove_nextId (id : Nat) :
    (d.remove id).1.nextId = d.nextId := by
  obtain ⟨_, _, _, h⟩ := remove_frame d id
  rw [h]

@[simp] theorem remove_timers (id : Nat) :
    (d.remove id).1.timers = d.timers := by
  obtain ⟨_, _, _, h⟩ := remove_frame d id
  rw [h]

@[simp] theorem remove_parked (id : Nat) :
    (d.remove id).1.parked = d.parked := by
  obtain ⟨_, _, _, h⟩ := remove_frame d id
  rw [h]

@[simp] theorem remove_stopped (id : Nat) :
    (d.remove id).1.stopped = d.stopped := by
  obtain ⟨_, _, _, h⟩ := remove_frame d id
  rw [h]

@[simp] theorem remove_outbox (id : Nat) :
    (d.remove id).1.outbox = d.outbox := by
  obtain ⟨_, _, _, h⟩ := remove_frame d id
  rw [h]

theorem remove_waiting_keys_nodup (hd : d.waiting.keys.Nodup) (id : Nat) :
    (d.remove id).1.waiting.keys.Nodup := by
  cases h : d.inFlight.get? id with
  | none => rwa [remove_of_none d h]
  | some entry =>
      simp only [remove, h]
      split
      · exact hd
      · simp only [leaveQueue]
        split
        · exact hd
        · exact Assoc.nodup_keys_put hd _ _
      · exact hd
      · exact hd

theorem remove_sentPerNode_of_waiting {id : Nat} {command : Command} {node : NodeId}
    {partition : UInt16} (h : d.inFlight.get? id = some ⟨command, .waiting node partition⟩) :
    (d.remove id).1.sentPerNode = d.sentPerNode := by
  simp only [remove, h]

theorem takeSent_of_sent {id : Nat} {command : Command} {node : NodeId} {partition : UInt16}
    {generation : Option Nat} {closed : List Nat}
    (h : d.inFlight.get? id = some ⟨command, .sent node partition generation closed⟩) :
    d.takeSent id = ((d.remove id).1, some ⟨command, node, partition⟩) := by
  simp only [takeSent, h]

/-- Nothing is taken out unless there is an attempt under way. -/
theorem takeSent_cases (id : Nat) :
    (∃ command node partition generation closed,
      d.inFlight.get? id = some ⟨command, .sent node partition generation closed⟩ ∧
      d.takeSent id = ((d.remove id).1, some ⟨command, node, partition⟩)) ∨
    (∀ command node partition generation closed,
      d.inFlight.get? id ≠ some ⟨command, .sent node partition generation closed⟩) ∧
      d.takeSent id = (d, none) := by
  cases h : d.inFlight.get? id with
  | none => exact .inr ⟨by simp, by simp only [takeSent, h]⟩
  | some entry =>
      obtain ⟨command, stage⟩ := entry
      cases stage with
      | sent node partition generation closed =>
          exact .inl ⟨command, node, partition, generation, closed, rfl, takeSent_of_sent d h⟩
      | waiting node partition => exact .inr ⟨by simp, by simp only [takeSent, h]⟩
      | awaitingTopology => exact .inr ⟨by simp, by simp only [takeSent, h]⟩
      | backoff resume => exact .inr ⟨by simp, by simp only [takeSent, h]⟩

end ClusterKv.Dispatcher

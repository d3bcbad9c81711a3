import ClusterKv.Dispatcher.Transition

/-! The turns of the dispatcher: one event, and then the waiting commands for which there is room
again. -/

namespace ClusterKv.Dispatcher

/-- Goes through the queue of a node while there is room, with one unit of fuel for each command
in it. -/
def promoteNode (m : Moment) (node : NodeId) : Nat → Dispatcher → Dispatcher
  | 0, d => d
  | fuel + 1, d =>
    if !d.hasCapacity m node then d
    else match d.waitingFor node with
      | [] => d
      | id :: rest =>
        let d := { d with waiting := d.waiting.put node rest }
        match d.inFlight.get? id with
        | some ⟨command, .waiting _ partition⟩ =>
          promoteNode m node fuel ((d.remove id).1.dispatch m command ⟨partition, node⟩)
        | _ => promoteNode m node fuel d

/-- Starts the attempts for which there is room again. -/
def promoteWaiting (m : Moment) (d : Dispatcher) : Dispatcher :=
  if d.waitingTotal = 0 then d
  else
    let ready := (d.waiting.filter fun e => !e.2.isEmpty && d.hasCapacity m e.1).map (·.1)
    let d := ready.foldl (fun d node => d.promoteNode m node (d.waitingFor node).length) d
    { d with waiting := d.waiting.filter fun e => !e.2.isEmpty }

/-- Accepts the oldest submission. -/
def accept (m : Moment) (d : Dispatcher) : Dispatcher :=
  match d.inbound with
  | [] => d
  | command :: rest =>
    let (d, command) := { d with inbound := rest }.assignId command
    d.route m command

/-- The ending of a refresh sets every parked command going, or ends it. A command that has been
turned away more than once pauses first. -/
def onRefreshed (m : Moment) (d : Dispatcher) (result : Except TopologyError Unit) : Dispatcher :=
  d.parked.foldl
    (fun d id =>
      match d.remove id with
      | (d, none) => d
      | (d, some entry) =>
        match result with
        | .ok () =>
          if entry.command.retries > 1 then d.backOff m entry.command
          else d.route m entry.command
        | .error error => d.finish entry.command (.error error.toError))
    { d with refreshing := false, parked := [] }

/-- A request went out. If its connection has died since, the attempt is over. -/
def onSent (m : Moment) (d : Dispatcher) (id generation : Nat) : Dispatcher :=
  match d.inFlight.get? id with
  | some ⟨command, .sent node partition _ closed⟩ =>
    let entry : Entry := ⟨command, .sent node partition (some generation) closed⟩
    let d := { d with inFlight := d.inFlight.put id entry }
    if closed.contains generation then
      (d.remove id).1.apply m command
        (.connectionFault s!"connection to {node.address} closed")
    else d
  | _ => d

/-- A request could not be sent. -/
def onSendFailed (m : Moment) (d : Dispatcher) (id : Nat) (node : NodeId)
    (generation : Option Nat) (error : ConnectionError) : Dispatcher :=
  match d.takeSent id with
  | (d, none) => d
  | (d, some attempted) =>
    let d := generation.elim d fun generation => d.emit (.disconnect node generation)
    match error with
    | .poolClosed => d.finish attempted.command (.error .shutdown)
    | .auth .. => d.finish attempted.command (.error (.connection error.message))
    | _ => d.apply m attempted.command (.connectionFault error.message)

def onTask (m : Moment) (d : Dispatcher) : TaskEvent → Dispatcher
  | .sent id generation => d.onSent m id generation
  | .sendFailed id node generation error => d.onSendFailed m id node generation error
  | .abandoned id =>
    match d.takeSent id with
    | (d, none) => d
    | (d, some attempted) => d.timeOut attempted.command
  | .refreshed result => d.onRefreshed m result

/-- A response ends the attempt it answers; any other response is dropped. -/
def onResponse (m : Moment) (d : Dispatcher) (response : Response) : Dispatcher :=
  match d.takeSent response.opaqueId.toNat with
  | (d, none) => d
  | (d, some ⟨command, _, partition⟩) =>
    d.apply m command (.ofResponse command.operation partition response)

/-- Was the request of an entry carried by a connection of this generation? -/
def carriedBy (node : NodeId) (generation : Nat) (entry : Entry) : Bool :=
  match entry.stage with
  | .sent sentTo _ (some carrier) _ => sentTo = node && carrier = generation
  | _ => false

/-- Notes the death of a connection where it is not yet known which connection carries the
request. -/
def noteClosed (node : NodeId) (generation : Nat) (entry : Entry) : Entry :=
  match entry.stage with
  | .sent sentTo partition none closed =>
    if sentTo = node then
      { entry with stage := .sent sentTo partition none (closed ++ [generation]) }
    else entry
  | _ => entry

/-- The death of a connection ends the attempts that went out on it. -/
def onClosed (m : Moment) (d : Dispatcher) (node : NodeId) (generation : Nat) (reason : String) :
    Dispatcher :=
  let lost := (d.inFlight.filter fun e => carriedBy node generation e.2).map (·.1)
  let noted := d.inFlight.map fun e => (e.1, noteClosed node generation e.2)
  lost.foldl
    (fun d id =>
      match d.takeSent id with
      | (d, none) => d
      | (d, some attempted) => d.apply m attempted.command (.connectionFault reason))
    { d with inFlight := noted }

def onNode (m : Moment) (d : Dispatcher) : NodeEvent → Dispatcher
  | .response _ response => d.onResponse m response
  | .closed node generation reason => d.onClosed m node generation reason

/-- Takes the first timer off, which is due, and does what it is there for. -/
def fireTimer (m : Moment) (d : Dispatcher) (id : Nat) : Dispatcher :=
  match d.inFlight.get? id with
  | none => d
  | some entry =>
    if entry.command.deadline ≤ m.now then (d.remove id).1.timeOut entry.command
    else match entry.stage with
      | .backoff resume => if resume ≤ m.now then (d.remove id).1.route m entry.command else d
      | _ => d

/-- Fires the timers that are due, with one unit of fuel for each. -/
def fireDue (m : Moment) : Nat → Dispatcher → Dispatcher
  | 0, d => d
  | fuel + 1, d =>
    match d.timers with
    | (due, id) :: rest =>
      if due ≤ m.now then fireDue m fuel ({ d with timers := rest }.fireTimer m id) else d
    | [] => d

/-- Fires every timer that is due. -/
def fireTimers (m : Moment) (d : Dispatcher) : Dispatcher :=
  d.fireDue m (d.timers.countP (·.1 ≤ m.now))

/-- Ends everything that has been submitted. -/
def shutDown (d : Dispatcher) : Dispatcher :=
  let d := d.inbound.foldl (fun d command => d.finish command (.error .shutdown)) d
  let d := d.inFlight.foldl (fun d e => d.finish e.2.command (.error .shutdown)) d
  { d with
    inbound := [], inFlight := [], timers := [], parked := [], sentPerNode := [], waiting := []
    waitingTotal := 0, stopped := true }.emit .closePool

/-- What a turn is about. -/
inductive Input where
  /-- A submission that has not been accepted yet. -/
  | accept
  | task (event : TaskEvent)
  | node (event : NodeEvent)
  | timers
  | shutdown

/-- One turn. -/
def turn (m : Moment) (d : Dispatcher) : Input → Dispatcher
  | .accept => (d.accept m).promoteWaiting m
  | .task event => (d.onTask m event).promoteWaiting m
  | .node event => (d.onNode m event).promoteWaiting m
  | .timers => (d.fireTimers m).promoteWaiting m
  | .shutdown => d.shutDown

/-- Are submissions accepted now? -/
def isAccepting (m : Moment) (d : Dispatcher) : Bool := d.waitingTotal < m.config.maxWaiting

/-- Takes what is to be done out of the outbox, first things first. -/
def takeOutbox (d : Dispatcher) : Dispatcher × List Effect :=
  ({ d with outbox := [] }, d.outbox.reverse)

end ClusterKv.Dispatcher

import ClusterKv.Assoc
import ClusterKv.Command
import ClusterKv.Link
import ClusterKv.Routing

/-! The state of the dispatcher and its bookkeeping.

The dispatcher owns every command that has been accepted. What it wants done outside (an attempt
to send, a refresh, an answer to a caller) it puts into its outbox. -/

namespace ClusterKv

/-- How far an accepted command has come. -/
inductive Stage where
  /-- An attempt is under way. The generation is that of the connection that carried the request,
  once known; before, `closed` collects the connections to the node that have died. -/
  | sent (node : NodeId) (partition : UInt16) (generation : Option Nat) (closed : List Nat)
  /-- The node has its fill of commands. -/
  | waiting (node : NodeId) (partition : UInt16)
  /-- A refresh is awaited. -/
  | awaitingTopology
  /-- The next attempt is due at some time. -/
  | backoff (resume : Instant)
deriving DecidableEq, Repr

/-- An accepted command. -/
structure Entry where
  command : Command
  stage : Stage
deriving DecidableEq, Repr

/-- Something to be done outside the dispatcher. -/
inductive Effect where
  /-- Send a request to a node before the deadline, over whatever connection there is. -/
  | attempt (id : Nat) (node : NodeId) (request : Request) (deadline : Instant)
  /-- Fetch the partition table. -/
  | refresh
  /-- Drop the connection to a node if it is of this generation. -/
  | disconnect (node : NodeId) (generation : Nat)
  /-- Drop all connections for good. -/
  | closePool
  /-- Tell the caller the result. -/
  | resolve (ticket : Nat) (result : Except Error Reply)

/-- What came of something done outside. -/
inductive TaskEvent where
  /-- The request of an attempt went out on a connection. -/
  | sent (id generation : Nat)
  /-- It could not be sent; the generation is missing if there was no connection. -/
  | sendFailed (id : Nat) (node : NodeId) (generation : Option Nat) (error : ConnectionError)
  /-- The deadline passed before it could be sent, and so it was not. -/
  | abandoned (id : Nat)
  /-- The refresh is over. -/
  | refreshed (result : Except TopologyError Unit)
deriving Repr

/-- What the dispatcher can see when it acts. -/
structure Moment where
  config : Config
  now : Instant
  /-- The current partition table. -/
  table : Topology

/-- When the pause before the next attempt ends: after the time that is set for it, but not after
the deadline. The clock has to show the end of that time, though the deadline may come first. -/
def Moment.resume? (m : Moment) (command : Command) : Option Instant :=
  (m.now.plus? (m.config.backoff (command.retries.toNat - 1))).map (min · command.deadline)

/-- When the pause ends. Where the clock does not show the end of the time set for it the program
stops; all that is said of what comes next is then said of a pause until the deadline. -/
def Moment.resume (m : Moment) (command : Command) : Instant :=
  (m.resume? command).getD command.deadline

theorem Moment.resume_le_deadline (m : Moment) (command : Command) :
    m.resume command ≤ command.deadline := by
  unfold resume resume?
  cases m.now.plus? _ with
  | none => exact Nat.le_refl _
  | some _ => exact Nat.min_le_right _ _

structure Dispatcher where
  /-- The number of the next attempt. This count goes on for ever. One of 64 bits starts over after
  the number `2 ^ 64 - 1`, and what is said of later attempts is not said of it. -/
  nextId : Nat := 1
  /-- Submissions that have not been accepted yet. -/
  inbound : List Command := []
  /-- The accepted commands, by the number of the attempt. -/
  inFlight : Assoc Nat Entry := []
  /-- Deadlines and ends of pauses, earliest first. Those of numbers no longer in flight are dead. -/
  timers : List (Instant × Nat) := []
  /-- The numbers of the commands that await a refresh. -/
  parked : List Nat := []
  /-- Is a refresh under way? -/
  refreshing : Bool := false
  /-- How many attempts are under way, for each node that has any. -/
  sentPerNode : Assoc NodeId Nat := []
  /-- The commands that wait for each node, oldest first. -/
  waiting : Assoc NodeId (List Nat) := []
  waitingTotal : Nat := 0
  /-- After a shutdown nothing is accepted any more. -/
  stopped : Bool := false
  /-- What is to be done, last first. -/
  outbox : List Effect := []

namespace Dispatcher

/-- Puts something into the outbox. -/
def emit (d : Dispatcher) (effect : Effect) : Dispatcher := { d with outbox := effect :: d.outbox }

/-- Ends a command. -/
def finish (d : Dispatcher) (command : Command) (result : Except Error Reply) : Dispatcher :=
  d.emit (.resolve command.ticket result)

/-- Ends a command whose deadline has passed. -/
def timeOut (d : Dispatcher) (command : Command) : Dispatcher :=
  d.finish command (.error (.timeout command.timeout))

/-- Adds a timer in its place. -/
def insertTimer (timer : Instant × Nat) : List (Instant × Nat) → List (Instant × Nat)
  | [] => [timer]
  | t :: rest =>
    if timer.1 < t.1 ∨ (timer.1 = t.1 ∧ timer.2 < t.2) then timer :: t :: rest
    else t :: insertTimer timer rest

/-- Arms a timer for a number. -/
def arm (d : Dispatcher) (due : Instant) (id : Nat) : Dispatcher :=
  { d with timers := insertTimer (due, id) d.timers }

/-- Gives a command a number of its own for its next attempt and arms its deadline. -/
def assignId (d : Dispatcher) (command : Command) : Dispatcher × Command :=
  let id := d.nextId
  ({ d with nextId := id + 1 }.arm command.deadline id, { command with id })

/-- How many attempts to a node are under way. -/
def sentTo (d : Dispatcher) (node : NodeId) : Nat := (d.sentPerNode.get? node).getD 0

/-- The commands that wait for a node, oldest first. -/
def waitingFor (d : Dispatcher) (node : NodeId) : List Nat := (d.waiting.get? node).getD []

/-- May another attempt to a node start? -/
def hasCapacity (d : Dispatcher) (m : Moment) (node : NodeId) : Bool :=
  d.sentTo node < m.config.maxInFlightPerNode

/-- Adds an entry and counts it. -/
def insert (d : Dispatcher) (id : Nat) (entry : Entry) : Dispatcher :=
  let d := match entry.stage with
    | .sent node .. => { d with sentPerNode := d.sentPerNode.put node (d.sentTo node + 1) }
    | .waiting node _ =>
      { d with
        waiting := d.waiting.put node (d.waitingFor node ++ [id])
        waitingTotal := d.waitingTotal + 1 }
    | .awaitingTopology | .backoff _ => d
  { d with inFlight := d.inFlight.put id entry }

/-- Counts one attempt less. -/
def lowerSent (sent : Assoc NodeId Nat) (node : NodeId) : Assoc NodeId Nat :=
  match sent.get? node with
  | none => sent
  | some count => if count ≤ 1 then sent.erase node else sent.put node (count - 1)

/-- Takes a command out of a queue. -/
def leaveQueue (waiting : Assoc NodeId (List Nat)) (node : NodeId) (id : Nat) :
    Assoc NodeId (List Nat) :=
  match waiting.get? node with
  | none => waiting
  | some queue => waiting.put node (queue.filter (· ≠ id))

/-- Takes an entry out and off the counts. -/
def remove (d : Dispatcher) (id : Nat) : Dispatcher × Option Entry :=
  match d.inFlight.get? id with
  | none => (d, none)
  | some entry =>
    let d := { d with inFlight := d.inFlight.erase id }
    let d := match entry.stage with
      | .sent node .. => { d with sentPerNode := lowerSent d.sentPerNode node }
      | .waiting node _ =>
        { d with
          waiting := leaveQueue d.waiting node id
          waitingTotal := d.waitingTotal - 1 }
      | .awaitingTopology | .backoff _ => d
    (d, some entry)

/-- A command whose attempt is over. -/
structure Attempted where
  command : Command
  node : NodeId
  partition : UInt16
deriving DecidableEq, Repr

/-- Takes out the command of an attempt under way, if there is one of this number. -/
def takeSent (d : Dispatcher) (id : Nat) : Dispatcher × Option Attempted :=
  match d.inFlight.get? id with
  | some ⟨command, .sent node partition _ _⟩ =>
    ((d.remove id).1, some ⟨command, node, partition⟩)
  | _ => (d, none)

end Dispatcher

end ClusterKv

import ClusterKv.Dispatcher.Basic

/-! How a command goes from stage to stage. Each way checks the deadline first. -/

namespace ClusterKv.Dispatcher

/-- Starts an attempt. -/
def dispatch (m : Moment) (d : Dispatcher) (command : Command) (route : Route) : Dispatcher :=
  if command.deadline ≤ m.now then d.timeOut command
  else
    let request : Request := ⟨command.id.toUInt64, route.partition, command.operation⟩
    (d.insert command.id ⟨command, .sent route.node route.partition none []⟩).emit
      (.attempt command.id route.node request command.deadline)

/-- Starts an attempt, or waits until the node has room for one. -/
def send (m : Moment) (d : Dispatcher) (command : Command) (route : Route) : Dispatcher :=
  if d.hasCapacity m route.node then d.dispatch m command route
  else d.insert command.id ⟨command, .waiting route.node route.partition⟩

/-- Starts a refresh unless one is under way. -/
def requestRefresh (d : Dispatcher) : Dispatcher :=
  if d.refreshing then d else { d with refreshing := true }.emit .refresh

/-- Lets a command wait for a refresh. -/
def park (d : Dispatcher) (command : Command) : Dispatcher :=
  let (d, command) := d.assignId command
  ({ d with parked := d.parked ++ [command.id] }.insert command.id
    ⟨command, .awaitingTopology⟩).requestRefresh

/-- Where a command is to go. -/
def routeOf (m : Moment) (command : Command) : Command × Except RoutingError Route :=
  match command.target with
  | .node node => (command, .ok ⟨0, node⟩)
  | .key =>
    let partition := partitionForKey (command.operation.key?.getD []) m.table.partitionCount
    ({ command with partition := some partition },
      resolvePartition partition m.table command.fastForward)

/-- Sends a command on its way. Where nobody owns the partition it waits for a refresh, so many
times and no more. -/
def route (m : Moment) (d : Dispatcher) (command : Command) : Dispatcher :=
  if command.deadline ≤ m.now then d.timeOut command
  else match routeOf m command with
    | (command, .ok route) => d.send m command route
    | (command, .error miss) =>
      if command.routeRefreshes ≥ m.config.maxRouteRefreshes then
        d.finish command (.error (.noRoute miss.partition))
      else d.park { command with routeRefreshes := command.routeRefreshes + 1 }

/-- Lets a command pause before its next attempt. -/
def backOff (m : Moment) (d : Dispatcher) (command : Command) : Dispatcher :=
  let resume := m.resume command
  let (d, command) := d.assignId command
  (d.arm resume command.id).insert command.id ⟨command, .backoff resume⟩

/-- The error of a command that may not be tried again. -/
def exhausted (m : Moment) (command : Command) (failure : String) (connectionFault : Bool) :
    Error :=
  match command.target, connectionFault with
  | .node _, true => .connection failure
  | _, _ => .retriesExhausted m.config.maxRetries.toNat failure

/-- Counts one retry. Gives the command back if it may be tried again, and ends it otherwise. -/
def chargeRetry (m : Moment) (d : Dispatcher) (command : Command) (failure : String)
    (connectionFault : Bool) : Dispatcher × Option Command :=
  let command := { command with retries := command.retries + 1 }
  if command.retries ≤ m.config.maxRetries then
    (d, some { command with lastFailure := some failure })
  else (d.finish command (.error (exhausted m command failure connectionFault)), none)

/-- Draws the consequence of what an attempt came to. -/
def apply (m : Moment) (d : Dispatcher) (command : Command) (outcome : Outcome) : Dispatcher :=
  if command.deadline ≤ m.now then d.timeOut command
  else match outcome with
    | .success reply => d.finish command (.ok reply)
    | .applicationError status => d.finish command (.error (.application status))
    | .routingStale partition =>
      match command.target with
      | .node _ => d.finish command (.error (.noRoute partition))
      | .key =>
        match d.chargeRetry m command s!"stale route for partition {partition}" false with
        | (d, none) => d
        | (d, some command) => d.park { command with fastForward := true }
    | .temporaryFailure =>
      match d.chargeRetry m command "temporary failure" false with
      | (d, none) => d
      | (d, some command) => d.backOff m command
    | .connectionFault reason =>
      match d.chargeRetry m command reason true with
      | (d, none) => d
      | (d, some command) => d.backOff m command

end ClusterKv.Dispatcher

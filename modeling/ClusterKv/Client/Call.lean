import ClusterKv.Client.Result
import ClusterKv.Simulation.Run

/-! The calls of a client, and its start and end. -/

namespace ClusterKv

/-- The submissions of a call for some keys, one command for each. A command is created when its
turn to be submitted comes. -/
def Draft.forKeys (config : Config) (operations : List Operation) : List Draft :=
  operations.map fun operation => { operation, timeout := config.operationTimeout }

/-- The submissions of a flush: one command for each node of the table, all created at once. -/
def Draft.forFlush (config : Config) (table : Topology) (now : Instant) : List Draft :=
  table.nodes.map fun node =>
    { operation := .flushAll, target := .node node, timeout := config.operationTimeout
      created := some now }

/-- A flush goes well if it does on every node. Otherwise the first failure counts. -/
def flushResult (results : List (Except Error Reply)) : Except Error Unit :=
  match results with
  | [] => .ok ()
  | .ok _ :: rest => flushResult rest
  | .error error :: _ => .error error

namespace World

variable {σ : Type}

/-- Starts a flush, for which at least one node has to be known. -/
def startFlush (w : World σ) (number : Nat) : World σ :=
  match Draft.forFlush w.config w.refresher.current w.now with
  | [] =>
    let ticket := w.nextTicket
    let w := { w with nextTicket := ticket + 1 }.resolve ticket
      (.error (.topologyUnavailable "no nodes known to flush"))
    { w with calls := w.calls.put number { drafts := [], tickets := [ticket], acceptedAt := w.now } }
  | drafts => w.startCall number drafts

/-- The results of a call that is done, in the order of submission, and when that was. -/
def callResults? (w : World σ) (number : Nat) : Option (List (Except Error Reply) × Instant) :=
  match w.calls.get? number with
  | none => none
  | some call =>
    if w.isDone number then
      (w.doneAt? call).map fun time =>
        (call.tickets.filterMap fun ticket => (w.results.get? ticket).map (·.1), time)
    else none

/-- Fetches the first table. The client starts only if that goes well. -/
def boot (net : Network σ) (w : World σ) : World σ × Except TopologyError Unit :=
  let w := (w.startFetch net (.call 0)).await net fun w => w.fetches.has 0
  match w.fetches.get? 0 with
  | some (.ok _, _) => (w, .ok ())
  | some (.error error, _) => (w, .error error)
  | none => (w, .error (.unavailable "no answer"))

/-- Starts a client: checks its configuration, fetches the first table, and polls from then on if
it is to. -/
def connect (net : Network σ) (config : Config) (network : σ) : Except Error (World σ) :=
  match config.validate with
  | .error fault => .error (.config fault.message)
  | .ok config =>
    match boot net { config, network } with
    | (_, .error error) => .error error.toError
    | (w, .ok ()) => .ok (config.pollInterval.elim w w.startPoller)

/-- Shuts a client down: polling ends, and then the dispatcher. -/
def startShutdown (w : World σ) (number : Nat) : World σ :=
  { w with poller := none }.requestStop number

end World

end ClusterKv

import ClusterKv.Dispatcher.Turn
import ClusterKv.Pool
import ClusterKv.Refresher
import ClusterKv.Simulation.Network

/-! A client in a network, at one instant.

The clock stands still while there is work at hand; whatever takes time is on the agenda. -/

namespace ClusterKv

/-- A connection that has been opened. -/
structure Connection where
  link : Link
  /-- Dead, though nobody has noticed. -/
  severed : Bool := false
deriving DecidableEq, Repr

/-- An attempt to send that is under way. -/
structure Attempt where
  node : NodeId
  request : Request
  deadline : Instant
deriving DecidableEq, Repr

/-- Who asked for a refresh. -/
inductive Purpose where
  | dispatcher
  | call (number : Nat)
  | poller
deriving DecidableEq, Repr

/-- A piece of work. -/
inductive Job where
  /-- An attempt starts. -/
  | start (id : Nat)
  | fetch (purpose : Purpose)
  /-- Connecting ends. -/
  | dialed (caller : Nat) (node : NodeId) (generation : Nat)
      (result : Except ConnectionError Unit)
  /-- Writing ends. -/
  | written (id generation : Nat) (result : Except ConnectionError (List (Duration × Act)))
  /-- The deadline of an attempt passes while it writes. -/
  | expired (id : Nat)
  | act (node : NodeId) (generation : Nat) (act : Act)
  | fetched (purpose : Purpose) (result : Except TopologyError Topology)

/-- A submission to come. -/
structure Draft where
  operation : Operation
  target : Target := .key
  timeout : Duration
  /-- When the command was created, if it has been. -/
  created : Option Instant := none
  /-- Is the key checked first? -/
  checked : Bool := true

/-- A call of the client: submissions one after another, and then their results. -/
structure Call where
  /-- The submissions that have not been tried. -/
  drafts : List Draft
  /-- The handles on the results, in the order of submission. -/
  tickets : List Nat := []
  /-- When the last submission returned. -/
  acceptedAt : Instant

/-- The refresher's clock: a tick for each period. -/
structure Poller where
  period : Duration
  next : Instant
  /-- Is a refresh under way? -/
  busy : Bool := false
  /-- Is it to stop after that? -/
  stopping : Bool := false

/-- A request that was written. -/
structure SentRecord where
  time : Instant
  node : NodeId
  generation : Nat
  request : Request

/-- An attempt to connect. -/
structure DialRecord where
  time : Instant
  node : NodeId
  generation : Nat

/-- The writing of a request to a connection. -/
structure WriteRecord where
  time : Instant
  /-- When it is done, unless it is given up before. -/
  finish : Instant
  id : Nat
  generation : Nat
  attempt : Attempt

/-- The end of an attempt, and what is reported of it. -/
structure EndRecord where
  time : Instant
  id : Nat
  event : TaskEvent

structure World (σ : Type) where
  config : Config
  network : σ
  now : Instant := 0
  connections : List Connection := []
  pool : Pool := {}
  refresher : Refresher := {}
  dispatcher : Dispatcher := {}
  /-- Is there a dispatcher that takes events? -/
  attended : Bool := true
  taskEvents : List TaskEvent := []
  nodeEvents : List NodeEvent := []
  /-- The calls that want the dispatcher to shut down. -/
  stopRequests : List Nat := []
  attempts : Assoc Nat Attempt := []
  jobs : List Job := []
  agenda : List (Instant × Job) := []
  /-- The alarm of the dispatcher is set anew with each of its turns. These are the times of what was
  on the agenda by then and has not happened: at the same instant it comes before the alarm, and
  what was put there since comes after it. -/
  ahead : List Instant := []
  /-- Has the alarm gone off, and is the dispatcher still at what it finds to do? -/
  awake : Bool := false
  poller : Option Poller := none
  /-- Has the client let go of the dispatcher? -/
  dropped : Bool := false
  nextTicket : Nat := 0
  calls : Assoc Nat Call := []
  /-- The calls with a submission for which there is no room. -/
  blocked : List (Nat × Command) := []
  results : Assoc Nat (Except Error Reply × Instant) := []
  /-- What came of refreshes that calls asked for. -/
  fetches : Assoc Nat (Except TopologyError Topology × Instant) := []
  /-- When shutdowns that calls asked for were done. -/
  stops : Assoc Nat Instant := []
  /-- What callers who need a connection were told. -/
  leases : Assoc Nat (Except ConnectionError Nat × Instant) := []
  /-- Last first. -/
  sentLog : List SentRecord := []
  /-- Last first. -/
  dialLog : List DialRecord := []
  /-- Last first. -/
  writeLog : List WriteRecord := []
  /-- Last first. -/
  endLog : List EndRecord := []

namespace World

variable {σ : Type}

/-- What the dispatcher can see. -/
def moment (w : World σ) : Moment := ⟨w.config, w.now, w.refresher.current⟩

/-- Adds to the work at hand. -/
def enqueue (w : World σ) (job : Job) : World σ := { w with jobs := w.jobs ++ [job] }

/-- Puts work on the agenda, after what is there for the same instant. -/
def insertJob (time : Instant) (job : Job) : List (Instant × Job) → List (Instant × Job)
  | [] => [(time, job)]
  | e :: rest => if time < e.1 then (time, job) :: e :: rest else e :: insertJob time job rest

/-- Does some work after a while. -/
def schedule (w : World σ) (time : Instant) (job : Job) : World σ :=
  { w with agenda := insertJob time job w.agenda }

/-- Is this the connection to the node of this generation? -/
def Connection.isOf (c : Connection) (node : NodeId) (generation : Nat) : Bool :=
  c.link.node = node && c.link.generation = generation

/-- A link to a node, live or not: of those that were ever opened the one of a place, counted from
one, or the newest. -/
def linkTo? (w : World σ) (node : NodeId) (place : Option Nat) : Option Link :=
  let links := (w.connections.map (·.link)).filter (·.node = node)
  match place with
  | none => links.getLast?
  | some place => (links.take place)[place - 1]?

/-- Is a connection of use? -/
def isAlive (net : Network σ) (w : World σ) (node : NodeId) (generation : Nat) : Bool :=
  net.isUp w.network node && w.connections.any fun c =>
    Connection.isOf c node generation && c.link.live && !c.severed

/-- Reports an event of a connection. Once the dispatcher has stopped nobody listens. -/
def report (w : World σ) (event : NodeEvent) : World σ :=
  if w.dispatcher.stopped then w else { w with nodeEvents := w.nodeEvents ++ [event] }

/-- Shuts a connection. The second part says whether it was live. -/
def shut (w : World σ) (node : NodeId) (generation : Nat) (reason : String) : World σ × Bool :=
  match w.connections.find? (Connection.isOf · node generation) with
  | none => (w, false)
  | some c =>
    let (link, event) := c.link.shut reason
    let connections := w.connections.map fun c =>
      if Connection.isOf c node generation then { c with link } else c
    let w := { w with connections }
    match event with
    | none => (w, false)
    | some event => (w.report event, true)

/-- What is said of a connection that the client closes itself. -/
abbrev closedByClient : String := "closed by client"

/-- Closes a connection. -/
def close (w : World σ) (node : NodeId) (generation : Nat) : World σ :=
  (w.shut node generation closedByClient).1

/-- Kills a connection without a word. -/
def sever (w : World σ) (node : NodeId) (generation : Nat) : World σ :=
  { w with
    connections := w.connections.map fun c =>
      if Connection.isOf c node generation then { c with severed := true } else c }

/-- Records the result of a command. -/
def resolve (w : World σ) (ticket : Nat) (result : Except Error Reply) : World σ :=
  { w with results := w.results.put ticket (result, w.now) }

/-- Ends an attempt and tells the dispatcher. -/
def conclude (w : World σ) (id : Nat) (event : TaskEvent) : World σ :=
  let w := { w with
    attempts := w.attempts.erase id, endLog := ⟨w.now, id, event⟩ :: w.endLog }
  if w.dispatcher.stopped then w else { w with taskEvents := w.taskEvents ++ [event] }

end World

end ClusterKv

import ClusterKv.Link
import ClusterKv.Wire.Frame

/-! The sending half of a connection: callers hand their requests over to a queue of limited length,
and a writer takes them from there, one after another. -/

namespace ClusterKv

structure Outbound where
  link : Link
  /-- How many requests the queue holds. -/
  depth : Nat
  /-- The requests that callers wait to put into the queue, first come first served. -/
  waiting : List Request := []
  queue : List Request := []
  /-- What the writer has taken and not written yet. -/
  inHand : Option Request := none
  /-- Does the writer still take requests? -/
  writing : Bool := true
  /-- What has gone to the node. -/
  written : Bytes := []
  /-- What the link has reported. -/
  reports : List NodeEvent := []
  /-- What callers have been told. -/
  answers : List (Request × Except ConnectionError Unit) := []

namespace Outbound

/-- The sending half of a new connection. There is room for one request at least. -/
def start (link : Link) (depth : Nat) : Outbound := { link, depth := max depth 1 }

/-- A call is over. -/
def answer (o : Outbound) (request : Request) (result : Except ConnectionError Unit) : Outbound :=
  { o with answers := o.answers ++ [(request, result)] }

/-- A caller sends a request: it waits for room unless the link is dead. -/
def send (o : Outbound) (request : Request) : Outbound :=
  if o.link.live then { o with waiting := o.waiting ++ [request] }
  else o.answer request (.error (.closed o.link.node))

/-- Whoever has waited longest goes on, if there is room, or if there is no writer any more. -/
def enqueue (o : Outbound) : Outbound :=
  match o.waiting with
  | [] => o
  | request :: waiting =>
    if !o.writing then { o with waiting }.answer request (.error (.closed o.link.node))
    else if o.queue.length < o.depth then
      { o with waiting, queue := o.queue ++ [request] }.answer request (.ok ())
    else o

/-- The writer takes the next request. -/
def take (o : Outbound) : Outbound :=
  match o.inHand, o.queue with
  | none, request :: queue => { o with inHand := some request, queue }
  | _, _ => o

/-- The writer writes the request that it has taken. If that cannot be done, the link is shut and
the writer is gone, and the queue with it. -/
def write (o : Outbound) : Outbound :=
  match o.inHand with
  | none => o
  | some request =>
    match Wire.writeFrame o.written (ClientMessage.request request).write with
    | (.ok (), written) => { o with inHand := none, written }
    | (.error fault, written) =>
      let (link, report) := o.link.shut ("write failed: " ++ fault.message)
      { o with
        link, written, inHand := none, queue := [], writing := false
        reports := o.reports ++ report.toList }

/-- Something that happens at the sending half of a connection. -/
inductive Event where
  | send (request : Request)
  | enqueue
  | take
  | write
deriving DecidableEq, Repr

def step (o : Outbound) : Event → Outbound
  | .send request => o.send request
  | .enqueue => o.enqueue
  | .take => o.take
  | .write => o.write

/-- What has come of some events, one after another. -/
def run (o : Outbound) (events : List Event) : Outbound := events.foldl step o

/-- The requests that callers were told are on their way, in this order. -/
def accepted (o : Outbound) : List Request :=
  o.answers.filterMap fun (request, result) =>
    match result with
    | .ok () => some request
    | .error _ => none

end Outbound

end ClusterKv

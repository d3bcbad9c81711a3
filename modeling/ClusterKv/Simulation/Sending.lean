import ClusterKv.Simulation.World

/-! Getting connections, writing requests, and what follows from it. -/

namespace ClusterKv.World

variable {σ : Type} (net : Network σ)

/-- Something happens to a connection. -/
def perform (w : World σ) (node : NodeId) (generation : Nat) : Act → World σ
  | .respond response => w.report (.response node response)
  | .hangUp reason => (w.shut node generation reason).1
  | .sever => w.sever node generation
  | .perform request =>
    let (network, response) := net.perform w.network node request w.now
    { w with network }.report (.response node response)

/-- Acts happen, now or later. -/
def performAll (w : World σ) (node : NodeId) (generation : Nat) :
    List (Duration × Act) → World σ
  | [] => w
  | (after, act) :: rest =>
    let w := if after.nanos = 0 then w.perform net node generation act
      else w.schedule (w.now + after.nanos) (.act node generation act)
    performAll w node generation rest

/-- The writing of a request ends. -/
def written (w : World σ) (id generation : Nat)
    (result : Except ConnectionError (List (Duration × Act))) : World σ :=
  match w.attempts.get? id with
  | none => w
  | some attempt =>
    match result with
    | .error error =>
      w.conclude id (.sendFailed id attempt.node (some generation) error)
    | .ok acts =>
      let sent : SentRecord := ⟨w.now, attempt.node, generation, attempt.request⟩
      ({ w with sentLog := sent :: w.sentLog }.performAll net attempt.node generation acts).conclude
        id (.sent id generation)

/-- Writing begins that takes until some instant. -/
def startWriting (w : World σ) (id generation : Nat) (attempt : Attempt) (finish : Instant) :
    World σ :=
  { w with writeLog := ⟨w.now, finish, id, generation, attempt⟩ :: w.writeLog }

/-- Writes the request of an attempt to a connection, unless the deadline has passed. Writing that
would go on beyond the deadline is given up then. -/
def write (w : World σ) (id generation : Nat) (attempt : Attempt) : World σ :=
  if attempt.deadline ≤ w.now then w.conclude id (.abandoned id)
  else
    let node := attempt.node
    let w := if net.isUp w.network node then w else (w.shut node generation "node stopped").1
    if !w.isAlive net node generation then
      (w.startWriting id generation attempt w.now).conclude id
        (.sendFailed id node (some generation) (.closed node))
    else
      let (network, plan) := net.write w.network node attempt.request
      let finish := w.now + plan.stall.nanos
      let w := { w with network }.startWriting id generation attempt finish
      if plan.stall.nanos = 0 then w.written net id generation plan.result
      else if finish ≤ attempt.deadline then w.schedule finish (.written id generation plan.result)
      else w.schedule attempt.deadline (.expired id)

/-- A caller gets a connection, or does not. -/
def obtained (w : World σ) (caller : Nat) (result : Except ConnectionError Nat) : World σ :=
  match w.attempts.get? caller, result with
  | some attempt, .ok generation => w.write net caller generation attempt
  | some attempt, .error error =>
    w.conclude caller (.sendFailed caller attempt.node none error)
  | none, _ => { w with leases := w.leases.put caller (result, w.now) }

/-- Connecting ends. -/
def dialed (w : World σ) (caller : Nat) (node : NodeId) (generation : Nat)
    (result : Except ConnectionError Unit) : World σ :=
  let opened : List Connection := match result with
    | .ok () => [{ link := { node, generation } }]
    | .error _ => []
  let w := { w with connections := w.connections ++ opened }
  let (pool, result, late) := w.pool.dialed node generation result
  let w := { w with pool }
  let w := if late then w.close node generation else w
  w.obtained net caller (result.map fun () => generation)

/-- Does what the pool says. -/
def follow (w : World σ) (caller : Nat) (node : NodeId) : Lease → World σ
  | .ready generation => w.obtained net caller (.ok generation)
  | .refused error => w.obtained net caller (.error error)
  | .wait => w
  | .dial generation =>
    let (network, plan) := net.dial w.network node
    let w := { w with network, dialLog := ⟨w.now, node, generation⟩ :: w.dialLog }
    match plan with
    | none => w
    | some (delay, result) =>
      if delay.nanos = 0 then w.dialed net caller node generation result
      else w.schedule (w.now + delay.nanos) (.dialed caller node generation result)

/-- A caller asks the pool for a connection. -/
def acquire (w : World σ) (caller : Nat) (node : NodeId) : World σ :=
  let (pool, lease) := w.pool.acquire (w.isAlive net node) caller node
  { w with pool }.follow net caller node lease

/-- A caller goes on whose turn it is. -/
def enter (w : World σ) (caller : Nat) (node : NodeId) : World σ :=
  let (pool, lease) := w.pool.enter (w.isAlive net node) caller node
  { w with pool }.follow net caller node lease

/-- Connects to a node by hand, past the pool, under the next generation; what comes of it at
once. -/
def dialOnce (w : World σ) (node : NodeId) : World σ × Option (Except ConnectionError Nat) :=
  let generation := w.dialLog.length + 1
  let w := w.follow net generation node (.dial generation)
  (w, (w.leases.get? generation).map (·.1))

/-- Writes a request to a connection by hand; what comes of it at once. -/
def writeOnce (w : World σ) (link : Link) (request : Request) :
    World σ × Option (Except ConnectionError Unit) :=
  let attempt : Attempt := ⟨link.node, request, w.now + 1⟩
  let w := { w with attempts := w.attempts.put 0 attempt }.write net 0 link.generation attempt
  ({ w with taskEvents := [] }, match w.taskEvents.getLast? with
    | some (.sent ..) => some (.ok ())
    | some (.sendFailed _ _ _ error) => some (.error error)
    | some (.abandoned _) | some (.refreshed _) | none => none)

/-- Forgets and closes the connection to a node. -/
def invalidate (w : World σ) (node : NodeId) : World σ :=
  let (pool, stale) := w.pool.invalidate node
  let w := { w with pool }
  stale.elim w (w.close node)

/-- Forgets and closes the connection to a node if it is of this generation. -/
def invalidateGeneration (w : World σ) (node : NodeId) (generation : Nat) : World σ :=
  let (pool, stale) := w.pool.invalidateGeneration node generation
  let w := { w with pool }
  stale.elim w (w.close node)

/-- Closes the pool and all its connections. -/
def closeAll (w : World σ) : World σ :=
  let (pool, held) := w.pool.closeAll
  held.foldl (fun w e => w.close e.1 e.2) { w with pool }

end ClusterKv.World

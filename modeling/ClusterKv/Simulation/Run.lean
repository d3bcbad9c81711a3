import ClusterKv.Simulation.Calls

/-! Running a world. At each instant the work at hand is done first; then the clock jumps to the
next instant at which there is any. -/

namespace ClusterKv.World

variable {σ : Type} (net : Network σ)

/-- Does a piece of work, and what follows from it at once. -/
def run (w : World σ) : Job → World σ
  | .start id =>
    match w.attempts.get? id with
    | none => w
    | some attempt => w.acquire net id attempt.node
  | .fetch purpose => w.startFetch net purpose
  | .dialed caller node generation result => w.dialed net caller node generation result
  | .written id generation result => w.written net id generation result
  | .expired id => w.conclude id (.abandoned id)
  | .act node generation act => w.perform net node generation act
  | .fetched purpose result => w.finishFetch purpose result

/-- Is a timer of the dispatcher due? -/
def timerDue (w : World σ) : Bool :=
  w.dispatcher.timers.head?.any fun t => t.1 ≤ w.now

/-- A turn of the dispatcher, if there is anything for it to do. Requests to stop come first, then
what its attempts and refreshes report, then what connections report, then submissions; but those
wait while a timer is due. -/
def dispatcherStep? (w : World σ) : Option (World σ) :=
  if !w.attended || w.dispatcher.stopped then none
  else if !w.stopRequests.isEmpty then some w.stopDispatcher
  else match w.taskEvents, w.nodeEvents with
    | event :: rest, _ => some ({ w with taskEvents := rest }.turn (.task event))
    | [], event :: rest => some ({ w with nodeEvents := rest }.turn (.node event))
    | [], [] =>
      if w.timerDue || !w.dispatcher.isAccepting w.moment then none
      else if !w.dispatcher.inbound.isEmpty then some (w.turn .accept).unblock
      else if w.dropped && w.calls.all (fun e => w.isDone e.1) then some w.stopDispatcher
      else none

/-- The poller's tick, if it is due. -/
def pollStep? (w : World σ) : Option (World σ) :=
  match w.poller with
  | none => none
  | some p =>
    if p.busy then none
    else if p.stopping then some { w with poller := none }
    else if p.next ≤ w.now then some (w.tick net p)
    else none

/-- What is left when everything else is done: ticks and timers. -/
def idleStep? (w : World σ) : Option (World σ) :=
  match w.pollStep? net with
  | some w => some w
  | none =>
    if w.attended && !w.dispatcher.stopped && w.timerDue then some (w.turn .timers) else none

/-- What the agenda has for this instant, earliest entry first. -/
def agendaStep? (w : World σ) : Option (World σ) :=
  match w.agenda with
  | (time, job) :: agenda =>
    if time ≤ w.now then
      some ({ w with agenda, ahead := w.ahead.erase time, awake := false }.run net job)
    else none
  | [] => none

/-- Does the alarm go off before what is left on the agenda for this instant? -/
def rings (w : World σ) : Bool := w.timerDue && !w.ahead.any (· ≤ w.now)

/-- The alarm goes off before something on the agenda, or has gone off. The dispatcher then does all
that it finds to do: reports come first, the timers next, and submissions last. -/
def alarmStep? (w : World σ) : Option (World σ) :=
  if w.agenda.any (·.1 ≤ w.now) && (w.awake || w.rings) then
    match w.dispatcherStep? with
    | some w => some w
    | none =>
      if w.attended && !w.dispatcher.stopped && w.timerDue then
        some { w.turn .timers with awake := true }
      else none
  else none

/-- The work at hand: jobs in the order in which they came up, then callers whose turn it is to
connect. -/
def jobStep? (w : World σ) : Option (World σ) :=
  match w.jobs, w.pool.granted? with
  | job :: jobs, _ => some ({ w with jobs }.run net job)
  | [], some (node, caller) => some (w.enter net caller node)
  | [], none => none

/-- One step at this instant, if there is any work. Whoever waits for an instant goes on in the order
in which they began to wait: what the agenda has for it happens first, but for what was put there
after the dispatcher had set its alarm for the same instant. What follows from that comes after it,
the dispatcher's turns before all else. A tick of the poller comes last but for the timers. -/
def step? (w : World σ) : Option (World σ) :=
  w.alarmStep? <|> w.agendaStep? net <|> w.dispatcherStep? <|> w.jobStep? net <|> w.idleStep? net

/-- The next instant at which there is work. -/
def nextInstant? (w : World σ) : Option Instant :=
  let times := (w.agenda.head?.map (·.1)).toList
    ++ (if w.attended then (w.dispatcher.timers.head?.map (·.1)).toList else [])
    ++ ((w.poller.filter fun p => !p.busy).map (·.next)).toList
  times.min?

/-- Runs a world until something has happened and all work of that instant is done, or until there
is no more work before a given instant. -/
def runUntil (happened : World σ → Bool) (limit : Option Instant) : Nat → World σ → World σ
  | 0, w => w
  | fuel + 1, w =>
    match w.step? net with
    | some w => runUntil happened limit fuel w
    | none =>
      if happened w then w
      else match w.nextInstant?, limit with
        | none, none => w
        | none, some last =>
          if last ≤ w.now then w else runUntil happened limit fuel { w with now := last }
        | some next, none => runUntil happened limit fuel { w with now := max next w.now }
        | some next, some last =>
          if last ≤ w.now then w
          else runUntil happened limit fuel { w with now := max (min next last) w.now }

/-- More steps than a run takes. -/
abbrev plenty : Nat := 10000000

/-- Does all the work of this instant. -/
def settle (w : World σ) : World σ := w.runUntil net (fun _ => true) none plenty

/-- Lets time pass. -/
def sleep (w : World σ) (d : Duration) : World σ :=
  w.runUntil net (fun _ => false) (some (w.now + d.nanos)) plenty

/-- Runs until a call is done. -/
def await (w : World σ) (happened : World σ → Bool) : World σ :=
  w.runUntil net happened none plenty

end ClusterKv.World

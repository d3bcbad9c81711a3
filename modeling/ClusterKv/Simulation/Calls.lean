import ClusterKv.Simulation.Sending

/-! Calls of the client, refreshes, and the turns of the dispatcher. -/

namespace ClusterKv.World

variable {σ : Type}

/-- The longest key that a node takes. -/
abbrev maxKeyLength : Nat := 250

/-- Is there a key that no node would take? -/
def hasBadKey (operation : Operation) : Bool :=
  operation.key?.any fun key => key.isEmpty || key.length > maxKeyLength

/-- Submits one draft after another, until there is no room for one. -/
def submitDrafts (number : Nat) : List Draft → Call → World σ → World σ
  | [], call, w => { w with calls := w.calls.put number { call with drafts := [] } }
  | draft :: rest, call, w =>
    let ticket := w.nextTicket
    let call := { call with tickets := call.tickets ++ [ticket], acceptedAt := w.now }
    let w := { w with nextTicket := ticket + 1 }
    if draft.checked && hasBadKey draft.operation then
      submitDrafts number rest call (w.resolve ticket (.error (.application .invalidArguments)))
    else
      let command := Command.create ticket draft.operation draft.target draft.timeout
        (draft.created.getD w.now)
      if w.dispatcher.stopped then
        submitDrafts number rest call (w.resolve ticket (.error .shutdown))
      else if w.blocked.isEmpty && w.dispatcher.inbound.length < max w.config.inboundDepth 1 then
        let inbound := w.dispatcher.inbound ++ [command]
        submitDrafts number rest call { w with dispatcher := { w.dispatcher with inbound } }
      else
        { w with
          calls := w.calls.put number { call with drafts := rest }
          blocked := w.blocked ++ [(number, command)] }

/-- Goes on with a call whose submission has returned. -/
def resumeCall (w : World σ) (number : Nat) : World σ :=
  match w.calls.get? number with
  | none => w
  | some call => submitDrafts number call.drafts { call with acceptedAt := w.now } w

/-- Starts a call. -/
def startCall (w : World σ) (number : Nat) (drafts : List Draft) : World σ :=
  submitDrafts number drafts { drafts, acceptedAt := w.now } w

/-- Takes in the oldest submission that was blocked, if there is room now. -/
def unblock (w : World σ) : World σ :=
  match w.blocked with
  | [] => w
  | (number, command) :: blocked =>
    if w.dispatcher.inbound.length < max w.config.inboundDepth 1 then
      let inbound := w.dispatcher.inbound ++ [command]
      { w with blocked, dispatcher := { w.dispatcher with inbound } }.resumeCall number
    else w

/-- Ends the submissions that were blocked when the dispatcher stopped. -/
def abandonBlocked (w : World σ) : World σ :=
  w.blocked.foldl
    (fun w e => (w.resolve e.2.ticket (.error .shutdown)).resumeCall e.1)
    { w with blocked := [] }

/-- Does something that the dispatcher wants done. -/
def carryOut (w : World σ) : Effect → World σ
  | .attempt id node request deadline =>
    { w with attempts := w.attempts.put id ⟨node, request, deadline⟩ }.enqueue (.start id)
  | .refresh => w.enqueue (.fetch .dispatcher)
  | .disconnect node generation => w.invalidateGeneration node generation
  | .closePool => w.closeAll
  | .resolve ticket result => w.resolve ticket result

/-- The dispatcher sets its alarm. -/
def setAlarm (w : World σ) : World σ :=
  { w with ahead := (w.agenda.map (·.1)).filter (w.now < ·) }

/-- Lets the dispatcher take a turn, and does what it wants done. -/
def turn (w : World σ) (input : Dispatcher.Input) : World σ :=
  let (dispatcher, effects) := (w.dispatcher.turn w.moment input).takeOutbox
  effects.foldl carryOut { w.setAlarm with dispatcher }

/-- Lets the dispatcher stop. What is reported to it later goes nowhere. -/
def stopDispatcher (w : World σ) : World σ :=
  let requests := w.stopRequests
  let w := w.turn .shutdown
  { w with
    taskEvents := [], nodeEvents := [], stopRequests := []
    stops := requests.foldl (fun stops number => stops.put number w.now) w.stops }.abandonBlocked

/-- A refresh ends. -/
def finishFetch (w : World σ) (purpose : Purpose) (fetched : Except TopologyError Topology) :
    World σ :=
  let (refresher, result) := w.refresher.finish fetched
  let w := { w with refresher }
  match purpose with
  | .dispatcher =>
    if w.dispatcher.stopped then w
    else { w with taskEvents := w.taskEvents ++ [.refreshed (result.map fun _ => ())] }
  | .call number => { w with fetches := w.fetches.put number (result, w.now) }
  | .poller => { w with poller := w.poller.map fun p => { p with busy := false } }

/-- A refresh starts. -/
def startFetch (net : Network σ) (w : World σ) (purpose : Purpose) : World σ :=
  let (network, delay, result) := net.fetch w.network
  let w := { w with network, refresher := w.refresher.start }
  if delay.nanos = 0 then w.finishFetch purpose result
  else w.schedule (w.now + delay.nanos) (.fetched purpose result)

/-- The refresher starts to poll. Its first tick is at once and does nothing. -/
def startPoller (w : World σ) (period : Duration) : World σ :=
  { w with poller := some { period, next := w.now + period.nanos } }

/-- The refresher stops polling once no refresh of its own is under way. -/
def stopPoller (w : World σ) : World σ :=
  { w with poller := w.poller.map fun p => { p with stopping := true } }

/-- How late a tick may be without putting off those after it. -/
abbrev tickTolerance : Nat := 5 * Duration.perMilli

/-- A tick: a refresh starts, and the next tick is due one period after this one was, or after now
if this one was late. -/
def tick (net : Network σ) (w : World σ) (p : Poller) : World σ :=
  let due := if w.now > p.next + tickTolerance then w.now else p.next
  let p := { p with busy := true, next := due + p.period.nanos }
  { w with poller := some p }.startFetch net .poller

/-- Asks the dispatcher to shut down. -/
def requestStop (w : World σ) (number : Nat) : World σ :=
  if w.dispatcher.stopped then { w with stops := w.stops.put number w.now }
  else { w with stopRequests := w.stopRequests ++ [number] }

/-- When a call was done: all its submissions are in and have their results. -/
def doneAt? (w : World σ) (call : Call) : Option Instant :=
  call.tickets.foldlM
    (fun time ticket => (w.results.get? ticket).map fun r => max time r.2) call.acceptedAt

/-- Is a call done? -/
def isDone (w : World σ) (number : Nat) : Bool :=
  match w.calls.get? number with
  | none => false
  | some call =>
    call.drafts.isEmpty && !(w.blocked.any (·.1 = number)) && (w.doneAt? call).isSome

end ClusterKv.World

import ClusterKv.Proofs.Dispatcher.Turns
import Mathlib.Data.List.Induction

/-! # Runs of the dispatcher

A run is any sequence of events whatever: submissions, turns about anything at any time under any
partition table, and requests that go out on connections. The events of tasks and nodes need not
make sense. -/

namespace ClusterKv

/-- Something that happens to a dispatcher or around it. -/
inductive Event where
  /-- A caller submits a command that was created at some time. -/
  | submit (operation : Operation) (target : Target) (timeout : Duration) (created : Instant)
  /-- The dispatcher takes a turn. -/
  | turn (now : Instant) (table : Topology) (input : Dispatcher.Input)
  /-- The request of an attempt is handed to a connection. The attempt is given by its place in
  what the dispatcher has had done. -/
  | write (place : Nat)

/-- How far a run has come. -/
structure Run where
  dispatcher : Dispatcher := {}
  /-- The commands that entered the queue, first ones first. -/
  submitted : List Command := []
  /-- What the dispatcher has had done, first things first. -/
  journal : List Effect := []
  /-- The requests that were handed to connections. -/
  written : List Request := []

namespace Run

/-- One event. After a shutdown the queue takes nothing more, and there are no more turns. -/
def step (config : Config) (r : Run) : Event → Run
  | .submit operation target timeout created =>
    if r.dispatcher.stopped then r
    else
      let command := Command.create r.submitted.length operation target timeout created
      { r with
        dispatcher := { r.dispatcher with inbound := r.dispatcher.inbound ++ [command] }
        submitted := r.submitted ++ [command] }
  | .turn now table input =>
    if r.dispatcher.stopped then r
    else
      let (dispatcher, effects) := (r.dispatcher.turn ⟨config, now, table⟩ input).takeOutbox
      { r with dispatcher, journal := r.journal ++ effects }
  | .write place =>
    match r.journal[place]? with
    | some (.attempt _ _ request _) => { r with written := r.written ++ [request] }
    | _ => r

/-- The run of some events, one after another. -/
def of (config : Config) (events : List Event) : Run := events.foldl (step config) {}

variable {config : Config}

@[simp] theorem of_nil : of config [] = {} := rfl

theorem of_append (events more : List Event) :
    of config (events ++ more) = more.foldl (step config) (of config events) :=
  List.foldl_append ..

@[simp] theorem of_concat (events : List Event) (event : Event) :
    of config (events ++ [event]) = (of config events).step config event :=
  of_append ..

/-- What the first state has and every event keeps, every run has. -/
theorem induct {P : Run → Prop} (hstart : P {})
    (hstep : ∀ r event, P r → P (step config r event)) (events : List Event) :
    P (of config events) := by
  induction events using List.reverseRecOn with
  | nil => exact hstart
  | append_singleton events event ih =>
      rw [of_concat]
      exact hstep _ event ih

/-! ## The three kinds of events -/

theorem step_turn {r : Run} (h : r.dispatcher.stopped = false) (now : Instant) (table : Topology)
    (input : Dispatcher.Input) :
    r.step config (.turn now table input) =
      { r with
        dispatcher := { r.dispatcher.turn ⟨config, now, table⟩ input with outbox := [] }
        journal := r.journal ++
          (r.dispatcher.turn ⟨config, now, table⟩ input).outbox.reverse } := by
  simp [step, h, Dispatcher.takeOutbox]

theorem step_submit {r : Run} (h : r.dispatcher.stopped = false) (operation : Operation)
    (target : Target) (timeout : Duration) (created : Instant) :
    r.step config (.submit operation target timeout created) =
      { r with
        dispatcher := { r.dispatcher with
          inbound := r.dispatcher.inbound ++
            [Command.create r.submitted.length operation target timeout created] }
        submitted := r.submitted ++
          [Command.create r.submitted.length operation target timeout created] } := by
  simp [step, h]

/-- A turn in which nothing happens. -/
theorem step_turn_self {r : Run} (hdone : r.dispatcher.outbox = []) {now : Instant}
    {table : Topology} {input : Dispatcher.Input}
    (hturn : r.dispatcher.turn ⟨config, now, table⟩ input = r.dispatcher) :
    r.step config (.turn now table input) = r := by
  cases hstopped : r.dispatcher.stopped with
  | true => simp [step, hstopped]
  | false =>
      rw [step_turn hstopped, hturn, hdone, List.reverse_nil, List.append_nil]
      have hsame : ({ r.dispatcher with outbox := [] } : Dispatcher) = r.dispatcher := by
        rw [← hdone]
      rw [hsame]

/-- Handing over a request concerns the dispatcher in no way. -/
theorem step_write (config : Config) (r : Run) (place : Nat) :
    ∃ written, r.step config (.write place) = { r with written } := by
  simp only [step]
  split
  · exact ⟨_, rfl⟩
  · exact ⟨r.written, rfl⟩

/-- An event hands over a request at most, or adds a submission, or is a turn of a dispatcher that
has not stopped. -/
theorem step_cases (config : Config) (r : Run) (event : Event) :
    (∃ written, r.step config event = { r with written }) ∨
    (∃ command, r.step config event =
      { r with
        dispatcher := { r.dispatcher with inbound := r.dispatcher.inbound ++ [command] }
        submitted := r.submitted ++ [command] }) ∨
    ∃ now table input, event = .turn now table input ∧ r.dispatcher.stopped = false ∧
      r.step config event =
        { r with
          dispatcher := { r.dispatcher.turn ⟨config, now, table⟩ input with outbox := [] }
          journal := r.journal ++
            (r.dispatcher.turn ⟨config, now, table⟩ input).outbox.reverse } := by
  cases event with
  | write place => exact .inl (step_write config r place)
  | submit operation target timeout created =>
      cases hstopped : r.dispatcher.stopped with
      | true => exact .inl ⟨r.written, by simp [step, hstopped]⟩
      | false => exact .inr (.inl ⟨_, step_submit hstopped operation target timeout created⟩)
  | turn now table input =>
      cases hstopped : r.dispatcher.stopped with
      | true => exact .inl ⟨r.written, by simp [step, hstopped]⟩
      | false =>
          exact .inr (.inr ⟨now, table, input, rfl, rfl, step_turn hstopped now table input⟩)

end Run

end ClusterKv

import ClusterKv.Proofs.Dispatcher.Bookkeeping
import Mathlib.Logic.Relation

/-! # Moves of the dispatcher

On its way from one place to another a command is in the hand of the dispatcher. The moves below
say how commands come into the hand, what is done with them there, where they are put, and why.
Every turn is made of such moves, so what all of them keep is kept by every turn. -/

namespace ClusterKv.Dispatcher

/-! ## Commands in hand -/

/-- What the dispatcher has in hand. -/
inductive Hand where
  | empty
  /-- A command under a number of its own, which no attempt has borne. -/
  | held (command : Command)
  /-- A command whose attempt of this number is over. -/
  | spent (id : Nat) (command : Command)
  /-- A command whose retry is counted. It is to get another number. -/
  | charged (command : Command)
  /-- A command under another number, which is to rest. -/
  | shelved (command : Command)

/-- The number under which the command in hand may be put away. -/
def Hand.number? : Hand → Option Nat
  | held command | shelved command => some command.id
  | empty | spent .. | charged _ => none

/-- The command in hand. -/
def Hand.command? : Hand → Option Command
  | held command | spent _ command | charged command | shelved command => some command
  | empty => none

/-! ## Causes -/

/-- What a move is due to: the input of the turn, or none if there is room again at a node. -/
abbrev Cause := Option Input

/-- An input ends an attempt, given its entry. -/
inductive Ends : Cause → Nat → Entry → Prop where
  | lost {id generation command node partition carrier closed} (dead : generation ∈ closed) :
      Ends (some (.task (.sent id generation))) id ⟨command, .sent node partition carrier closed⟩
  | unsent {id node generation error entry} :
      Ends (some (.task (.sendFailed id node generation error))) id entry
  | abandoned {id entry} : Ends (some (.task (.abandoned id))) id entry
  | answered {node response entry} :
      Ends (some (.node (.response node response))) response.opaqueId.toNat entry
  | closed {node generation reason id entry} (carried : carriedBy node generation entry) :
      Ends (some (.node (.closed node generation reason))) id entry

/-- An input gives cause to repeat an attempt. -/
inductive Setback : Cause → Nat → Prop where
  | lost {id generation} : Setback (some (.task (.sent id generation))) id
  | unsent {id node generation error} :
      Setback (some (.task (.sendFailed id node generation error))) id
  | turnedAway {node response} (status : response.status = .notMyPartition) :
      Setback (some (.node (.response node response))) response.opaqueId.toNat
  | refused {node response} (status : response.status = .temporaryFailure) :
      Setback (some (.node (.response node response))) response.opaqueId.toNat
  | closed {id node generation reason} : Setback (some (.node (.closed node generation reason))) id

/-- The command in hand may be ended with a result. -/
inductive Verdict (m : Moment) : Cause → Hand → Command → Except Error Reply → Prop where
  | late {cause command} (late : command.deadline ≤ m.now) :
      Verdict m cause (.held command) command (.error (.timeout command.timeout))
  | lateAttempt {cause id command} (late : command.deadline ≤ m.now) :
      Verdict m cause (.spent id command) command (.error (.timeout command.timeout))
  | abandoned {id command} :
      Verdict m (some (.task (.abandoned id))) (.spent id command) command
        (.error (.timeout command.timeout))
  | unowned {cause command partition}
      (reached : m.config.maxRouteRefreshes ≤ command.routeRefreshes) :
      Verdict m cause (.held command) command (.error (.noRoute partition))
  | noTable {command error} :
      Verdict m (some (.task (.refreshed (.error error)))) (.held command) command
        (.error error.toError)
  | success {node response command} (inTime : m.now < command.deadline)
      (status : response.status = .success) :
      Verdict m (some (.node (.response node response))) (.spent response.opaqueId.toNat command)
        command (.ok (command.operation.reply response))
  | definitive {node response command} (inTime : m.now < command.deadline)
      (success : response.status ≠ .success) (stale : response.status ≠ .notMyPartition)
      (temporary : response.status ≠ .temporaryFailure) :
      Verdict m (some (.node (.response node response))) (.spent response.opaqueId.toNat command)
        command (.error (.application response.status))
  | misdirected {node response command other partition} (inTime : m.now < command.deadline)
      (stale : response.status = .notMyPartition) (target : command.target = .node other) :
      Verdict m (some (.node (.response node response))) (.spent response.opaqueId.toNat command)
        command (.error (.noRoute partition))
  | exhausted {cause id command failure fault} (inTime : m.now < command.deadline)
      (setback : Setback cause id) (exceeded : m.config.maxRetries < command.retries + 1) :
      Verdict m cause (.spent id command) command (.error (exhausted m command failure fault))
  | poolClosed {id node generation command} :
      Verdict m (some (.task (.sendFailed id node generation .poolClosed))) (.spent id command)
        command (.error .shutdown)
  | rejected {id node generation other reason command} :
      Verdict m (some (.task (.sendFailed id node generation (.auth other reason))))
        (.spent id command) command
        (.error (.connection (ConnectionError.auth other reason).message))

/-! ## The moves -/

/-- What is done with a command in hand, until it is put away. -/
inductive Handling (m : Moment) : Cause → Dispatcher × Hand → Dispatcher × Hand → Prop where
  /-- The partition of its key is found. -/
  | locate {cause d command partition} :
      Handling m cause (d, .held command) (d, .held { command with partition := some partition })
  /-- Nobody owns its partition. -/
  | miss {cause d command} (left : command.routeRefreshes < m.config.maxRouteRefreshes) :
      Handling m cause (d, .held command)
        (d, .held { command with routeRefreshes := command.routeRefreshes + 1 })
  /-- A retry is counted. -/
  | charge {cause d id command failure} (inTime : m.now < command.deadline)
      (setback : Setback cause id) (left : command.retries + 1 ≤ m.config.maxRetries) :
      Handling m cause (d, .spent id command)
        (d, .charged { command with
          retries := command.retries + 1, lastFailure := some failure })
  /-- From now on the forward map counts for it. -/
  | advance {cause d command} :
      Handling m cause (d, .charged command) (d, .charged { command with fastForward := true })
  /-- It gets a new number after an attempt. -/
  | renumber {cause d command} :
      Handling m cause (d, .charged command)
        ((d.assignId command).1, .shelved (d.assignId command).2)
  /-- It gets a new number though the old one was not used. -/
  | renumberUnused {cause d command} :
      Handling m cause (d, .held command)
        ((d.assignId command).1, .shelved (d.assignId command).2)
  /-- A connection that failed is to be dropped. -/
  | disconnect {d id node generation error command} :
      Handling m (some (.task (.sendFailed id node (some generation) error)))
        (d, .spent id command) (d.emit (.disconnect node generation), .spent id command)
  | start {cause d command node partition} (inTime : m.now < command.deadline)
      (room : d.hasCapacity m node = true) :
      Handling m cause (d, .held command)
        ((d.insert command.id ⟨command, .sent node partition none []⟩).emit
          (.attempt command.id node ⟨command.id.toUInt64, partition, command.operation⟩
            command.deadline), .empty)
  | wait {cause d command node partition} (full : d.hasCapacity m node = false) :
      Handling m cause (d, .held command)
        (d.insert command.id ⟨command, .waiting node partition⟩, .empty)
  | park {cause d command} :
      Handling m cause (d, .shelved command)
        (({ d with parked := d.parked ++ [command.id] }.insert command.id
          ⟨command, .awaitingTopology⟩).requestRefresh, .empty)
  | pause {cause d command resume} (due : resume = m.resume command) :
      Handling m cause (d, .shelved command)
        ((d.arm resume command.id).insert command.id ⟨command, .backoff resume⟩, .empty)
  | settle {cause d hand command result} (verdict : Verdict m cause hand command result) :
      Handling m cause (d, hand) (d.finish command result, .empty)

/-- One move. -/
inductive Move (m : Moment) : Cause → Dispatcher × Hand → Dispatcher × Hand → Prop where
  | handle {cause s t} (handling : Handling m cause s t) : Move m cause s t
  /-- A submission is accepted. -/
  | draw {d command rest} (queued : d.inbound = command :: rest) :
      Move m (some .accept) (d, .empty)
        (({ d with inbound := rest }.assignId command).1,
          .held ({ d with inbound := rest }.assignId command).2)
  /-- An attempt is over. -/
  | retire {cause d id command node partition carrier closed}
      (under : d.inFlight.get? id = some ⟨command, .sent node partition carrier closed⟩)
      (ends : Ends cause id ⟨command, .sent node partition carrier closed⟩) :
      Move m cause (d, .empty) ((d.remove id).1, .spent id command)
  /-- A deadline has passed. -/
  | expire {d id entry} (found : d.inFlight.get? id = some entry)
      (late : entry.command.deadline ≤ m.now) :
      Move m (some .timers) (d, .empty) ((d.remove id).1.timeOut entry.command, .empty)
  /-- A pause is over. -/
  | resume {d id command due} (found : d.inFlight.get? id = some ⟨command, .backoff due⟩)
      (reached : due ≤ m.now) :
      Move m (some .timers) (d, .empty) ((d.remove id).1, .held command)
  /-- The refresh is over that a command has waited for. -/
  | unpark {result d id command}
      (found : d.inFlight.get? id = some ⟨command, .awaitingTopology⟩) (taken : id ∉ d.parked) :
      Move m (some (.task (.refreshed result))) (d, .empty) ((d.remove id).1, .held command)
  /-- There is room again at a node for the first command in its queue. -/
  | promote {d node id rest command other partition}
      (first : d.waitingFor node = id :: rest) (room : d.hasCapacity m node = true)
      (found : d.inFlight.get? id = some ⟨command, .waiting other partition⟩) :
      Move m none (d, .empty)
        (({ d with waiting := d.waiting.put node rest }.remove id).1, .held command)
  /-- The first command in a queue is not there any more. -/
  | skip {d node id rest} (first : d.waitingFor node = id :: rest)
      (gone : ∀ command other partition,
        d.inFlight.get? id ≠ some ⟨command, .waiting other partition⟩) :
      Move m none (d, .empty) ({ d with waiting := d.waiting.put node rest }, .empty)
  /-- Empty queues are dropped. -/
  | tidy {d} :
      Move m none (d, .empty) ({ d with waiting := d.waiting.filter fun e => !e.2.isEmpty }, .empty)
  /-- The parked commands are called up. -/
  | collect {result d} :
      Move m (some (.task (.refreshed result))) (d, .empty)
        ({ d with refreshing := false, parked := [] }, .empty)
  /-- A timer goes off. -/
  | tick {d due id rest} (first : d.timers = (due, id) :: rest) (reached : due ≤ m.now) :
      Move m (some .timers) (d, .empty) ({ d with timers := rest }, .empty)

/-- Some handlings, one after another. -/
abbrev Handlings (m : Moment) (cause : Cause) := Relation.ReflTransGen (Handling m cause)

/-- Some moves, one after another. -/
abbrev Moves (m : Moment) (cause : Cause) := Relation.ReflTransGen (Move m cause)

theorem Handlings.moves {m : Moment} {cause : Cause} {s t : Dispatcher × Hand}
    (h : Handlings m cause s t) : Moves m cause s t :=
  h.lift id fun _ _ => Move.handle

/-! ## Transitions are made of handlings -/

section

variable {m : Moment} {cause : Cause} (d : Dispatcher) (command : Command)

theorem dispatch_handlings (route : Route) (room : d.hasCapacity m route.node = true) :
    Handlings m cause (d, .held command) (d.dispatch m command route, .empty) := by
  unfold dispatch
  split
  · next late => exact .single (.settle (.late late))
  · next inTime => exact .single (.start (Nat.lt_of_not_le inTime) room)

theorem send_handlings (route : Route) :
    Handlings m cause (d, .held command) (d.send m command route, .empty) := by
  unfold send
  split
  · next room => exact dispatch_handlings d command route room
  · next full => exact .single (.wait (by simpa using full))

theorem park_handlings : Handlings m cause (d, .held command) (d.park command, .empty) := by
  have hnumber : Handling m cause (d, .held command) _ := .renumberUnused
  exact .head hnumber (.single .park)

theorem park_handlings_charged :
    Handlings m cause (d, .charged command) (d.park command, .empty) := by
  have hnumber : Handling m cause (d, .charged command) _ := .renumber
  exact .head hnumber (.single .park)

theorem backOff_handlings :
    Handlings m cause (d, .held command) (d.backOff m command, .empty) := by
  have hnumber : Handling m cause (d, .held command) _ := .renumberUnused
  exact .head hnumber (.single (.pause rfl))

theorem backOff_handlings_charged :
    Handlings m cause (d, .charged command) (d.backOff m command, .empty) := by
  have hnumber : Handling m cause (d, .charged command) _ := .renumber
  exact .head hnumber (.single (.pause rfl))

/-- A command for a node goes there; one for a key goes where the table says. -/
theorem routeOf_cases :
    (∃ node, command.target = .node node ∧ routeOf m command = (command, .ok ⟨0, node⟩)) ∨
    (command.target = .key ∧ ∃ partition,
      partition = partitionForKey (command.operation.key?.getD []) m.table.partitionCount ∧
      routeOf m command =
        ({ command with partition := some partition },
          resolvePartition partition m.table command.fastForward)) := by
  obtain ⟨id, ticket, operation, target, _, _, _, _, _, _, _⟩ := command
  cases target with
  | node node => exact .inl ⟨node, rfl, rfl⟩
  | key => exact .inr ⟨rfl, _, rfl, rfl⟩

theorem route_handlings : Handlings m cause (d, .held command) (d.route m command, .empty) := by
  unfold route
  split
  · next late => exact .single (.settle (.late late))
  · rcases routeOf_cases (m := m) command with ⟨node, -, h⟩ | ⟨-, partition, -, h⟩
    · rw [h]
      exact send_handlings d command _
    · rw [h]
      refine Relation.ReflTransGen.head (Handling.locate : Handling m cause _
        (d, .held { command with partition := some partition })) ?_
      cases resolvePartition partition m.table command.fastForward with
      | ok route => exact send_handlings d _ route
      | error miss =>
          simp only
          split
          · next reached => exact .single (.settle (.unowned reached))
          · next left =>
              refine .head (.miss ?_) (park_handlings d _)
              exact Nat.lt_of_not_le left

/-- A retry is either counted or refused. -/
theorem chargeRetry_cases (failure : String) (fault : Bool) :
    (command.retries + 1 ≤ m.config.maxRetries ∧
      d.chargeRetry m command failure fault =
        (d, some { command with retries := command.retries + 1, lastFailure := some failure })) ∨
    (m.config.maxRetries < command.retries + 1 ∧
      d.chargeRetry m command failure fault =
        (d.finish command (.error (exhausted m command failure fault)), none)) := by
  by_cases left : command.retries + 1 ≤ m.config.maxRetries
  · exact .inl ⟨left, by simp only [chargeRetry, left, ite_true]⟩
  · refine .inr ⟨UInt32.not_le.mp left, ?_⟩
    simp only [chargeRetry, left, ite_false]
    rfl

theorem apply_fault_handlings {id : Nat} (setback : Setback cause id) (reason : String) :
    Handlings m cause (d, .spent id command)
      (d.apply m command (.connectionFault reason), .empty) := by
  unfold apply
  split
  · next late => exact .single (.settle (.lateAttempt late))
  · next inTime =>
      have inTime : m.now < command.deadline := Nat.lt_of_not_le inTime
      rcases chargeRetry_cases (m := m) d command reason true with ⟨left, h⟩ | ⟨exceeded, h⟩
      · simp only [h]
        exact .head (.charge inTime setback left) (backOff_handlings_charged d _)
      · simp only [h]
        exact .single (.settle (.exhausted inTime setback exceeded))

theorem apply_response_handlings (node : NodeId) (partition : UInt16) (response : Response) :
    Handlings m (some (.node (.response node response)))
      (d, .spent response.opaqueId.toNat command)
      (d.apply m command (.ofResponse command.operation partition response), .empty) := by
  unfold apply
  split
  · next late => exact .single (.settle (.lateAttempt late))
  · next inTime =>
      have inTime : m.now < command.deadline := Nat.lt_of_not_le inTime
      cases hstatus : response.status with
      | success =>
          simp only [Outcome.ofResponse, hstatus]
          exact .single (.settle (.success inTime hstatus))
      | notMyPartition =>
          simp only [Outcome.ofResponse, hstatus]
          cases htarget : command.target with
          | node other => exact .single (.settle (.misdirected inTime hstatus htarget))
          | key =>
              simp only
              rcases chargeRetry_cases (m := m) d command
                s!"stale route for partition {partition}" false with ⟨left, h⟩ | ⟨exceeded, h⟩
              · simp only [h]
                exact .head (.charge inTime (.turnedAway hstatus) left)
                  (.head .advance (park_handlings_charged d _))
              · simp only [h]
                exact .single (.settle (.exhausted inTime (.turnedAway hstatus) exceeded))
      | temporaryFailure =>
          simp only [Outcome.ofResponse, hstatus]
          rcases chargeRetry_cases (m := m) d command "temporary failure" false with
            ⟨left, h⟩ | ⟨exceeded, h⟩
          · simp only [h]
            exact .head (.charge inTime (.refused hstatus) left) (backOff_handlings_charged d _)
          · simp only [h]
            exact .single (.settle (.exhausted inTime (.refused hstatus) exceeded))
      | keyNotFound | keyExists | notStored | valueTooLarge | deltaBadValue | locked
      | invalidArguments =>
          simp only [Outcome.ofResponse, hstatus]
          rw [← hstatus]
          exact .single (.settle (.definitive inTime (by simp [hstatus]) (by simp [hstatus])
            (by simp [hstatus])))

end

end ClusterKv.Dispatcher

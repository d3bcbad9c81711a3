import ClusterKv.Dispatcher.Turn

/-! # A dispatcher with one command

As long as callers wait for each other there is one command at most. Every turn that concerns it
ends it, or takes it to one of three stages: an attempt, a wait for a refresh, or a pause. -/

namespace ClusterKv

/-- What a dispatcher has with one command at most. -/
inductive Lone where
  | nothing
  | inbound (command : Command)
  | sent (command : Command) (route : Route) (generation : Option Nat)
  | parked (command : Command)
  | resting (command : Command) (resume : Instant)

/-- The dispatcher that has no more than that. -/
def Lone.dispatcher (nextId : Nat) (timers : List (Instant × Nat)) (outbox : List Effect) :
    Lone → Dispatcher
  | nothing => { nextId, timers, outbox }
  | inbound c => { nextId, timers, outbox, inbound := [c] }
  | sent c route generation =>
    { nextId, timers, outbox
      inFlight := [(c.id, ⟨c, .sent route.node route.partition generation []⟩)]
      sentPerNode := [(route.node, 1)] }
  | parked c =>
    { nextId, timers, outbox, refreshing := true, parked := [c.id]
      inFlight := [(c.id, ⟨c, .awaitingTopology⟩)] }
  | resting c resume =>
    { nextId, timers, outbox, inFlight := [(c.id, ⟨c, .backoff resume⟩)] }

namespace Lone

variable (lone : Lone) (nextId : Nat) (timers : List (Instant × Nat)) (outbox : List Effect)

@[simp] theorem dispatcher_nextId : (lone.dispatcher nextId timers outbox).nextId = nextId := by
  cases lone <;> rfl

@[simp] theorem dispatcher_timers : (lone.dispatcher nextId timers outbox).timers = timers := by
  cases lone <;> rfl

@[simp] theorem dispatcher_stopped : (lone.dispatcher nextId timers outbox).stopped = false := by
  cases lone <;> rfl

/-- Timers may be exchanged for others. -/
theorem dispatcher_with_timers (others : List (Instant × Nat)) :
    { lone.dispatcher nextId timers outbox with timers := others } =
      lone.dispatcher nextId others outbox := by
  cases lone <;> rfl

/-- Nobody waits for room where there is one command. -/
theorem dispatcher_promoteWaiting (m : Moment) :
    (lone.dispatcher nextId timers outbox).promoteWaiting m =
      lone.dispatcher nextId timers outbox := by
  cases lone <;> rfl

end Lone

/-- One command serves what another did: the same caller wants the same done in the same time. -/
structure Command.Serves (c' c : Command) : Prop where
  ticket : c'.ticket = c.ticket
  operation : c'.operation = c.operation
  target : c'.target = c.target
  deadline : c'.deadline = c.deadline
  timeout : c'.timeout = c.timeout

theorem Command.Serves.refl (c : Command) : c.Serves c := ⟨rfl, rfl, rfl, rfl, rfl⟩

theorem Command.Serves.trans {c'' c' c : Command} (h' : c''.Serves c') (h : c'.Serves c) :
    c''.Serves c :=
  ⟨h'.ticket.trans h.ticket, h'.operation.trans h.operation, h'.target.trans h.target,
    h'.deadline.trans h.deadline, h'.timeout.trans h.timeout⟩

namespace Dispatcher

/-- The request that an attempt of a command sends. -/
def requestOf (c : Command) (route : Route) : Request :=
  ⟨c.id.toUInt64, route.partition, c.operation⟩

/-- The partition that a command for a key is for, by the table at hand. -/
def partitionOf (m : Moment) (c : Command) : UInt16 :=
  partitionForKey (c.operation.key?.getD []) m.table.partitionCount

/-- What becomes of a command that has no answer yet, and what that takes. -/
inductive Onward (m : Moment) (c : Command) (nextId : Nat) : Lone → List Effect → Prop
  | ended (error : Error) (unanswered : error.status? = none) :
      Onward m c nextId .nothing [.resolve c.ticket (.error error)]
  | sent (c' : Command) (route : Route) (serves : c'.Serves c) (known : c'.id < nextId)
      (live : m.now < c.deadline)
      (routed : resolvePartition (partitionOf m c) m.table c'.fastForward = .ok route) :
      Onward m c nextId (.sent c' route none)
        [.attempt c'.id route.node (requestOf c' route) c'.deadline]
  | parked (c' : Command) (serves : c'.Serves c) (known : c'.id < nextId)
      (live : m.now < c.deadline) : Onward m c nextId (.parked c') [.refresh]
  | rested (c' : Command) (resume : Instant) (serves : c'.Serves c) (known : c'.id < nextId) :
      Onward m c nextId (.resting c' resume) []

/-- A dispatcher has dealt with a command. -/
def DealtWith (m : Moment) (c : Command) (nextId : Nat) (d : Dispatcher) : Prop :=
  ∃ lone effects nextId' timers, d = lone.dispatcher nextId' timers effects ∧
    nextId ≤ nextId' ∧ Onward m c nextId' lone effects

variable {m : Moment} {c : Command} {n : Nat} {ts : List (Instant × Nat)}

theorem DealtWith.serves {c' : Command} {d : Dispatcher} {n' : Nat} (h : DealtWith m c' n' d)
    (hc : c'.Serves c) (hn : n ≤ n') : DealtWith m c n d := by
  have hpartition : partitionOf m c' = partitionOf m c := by simp [partitionOf, hc.operation]
  obtain ⟨lone, effects, next, timers, hd, hle, honward⟩ := h
  refine ⟨lone, effects, next, timers, hd, Nat.le_trans hn hle, ?_⟩
  cases honward with
  | ended error unanswered => exact hc.ticket ▸ .ended error unanswered
  | sent c'' route serves known live routed =>
      exact .sent c'' route (serves.trans hc) known (hc.deadline ▸ live) (hpartition ▸ routed)
  | parked c'' serves known live =>
      exact .parked c'' (serves.trans hc) known (hc.deadline ▸ live)
  | rested c'' resume serves known => exact .rested c'' resume (serves.trans hc) known

/-! ## Ends -/

theorem timeOut_dealt : DealtWith m c n ((Lone.nothing.dispatcher n ts []).timeOut c) :=
  ⟨.nothing, _, n, ts, rfl, Nat.le_refl _, .ended (.timeout c.timeout) rfl⟩

theorem finish_dealt {error : Error} (unanswered : error.status? = none) :
    DealtWith m c n ((Lone.nothing.dispatcher n ts []).finish c (.error error)) :=
  ⟨.nothing, _, n, ts, rfl, Nat.le_refl _, .ended error unanswered⟩

/-! ## Stages -/

theorem park_eq : (Lone.nothing.dispatcher n ts []).park c =
    (Lone.parked { c with id := n }).dispatcher (n + 1) (insertTimer (c.deadline, n) ts)
      [.refresh] := by
  simp [park, assignId, arm, insert, requestRefresh, emit, Lone.dispatcher, Assoc.put]

theorem park_dealt (live : m.now < c.deadline) :
    DealtWith m c n ((Lone.nothing.dispatcher n ts []).park c) :=
  ⟨_, _, _, _, park_eq, Nat.le_succ n,
    .parked { c with id := n } ⟨rfl, rfl, rfl, rfl, rfl⟩ (Nat.lt_succ_self n) live⟩

theorem backOff_dealt :
    DealtWith m c n ((Lone.nothing.dispatcher n ts []).backOff m c) := by
  refine ⟨.resting { c with id := n } (m.resume c), [], n + 1,
    insertTimer (m.resume c, n) (insertTimer (c.deadline, n) ts), ?_, Nat.le_succ n,
    .rested { c with id := n } _ ⟨rfl, rfl, rfl, rfl, rfl⟩ (Nat.lt_succ_self n)⟩
  simp [backOff, assignId, arm, insert, Lone.dispatcher, Assoc.put]

/-- An attempt starts at once where nothing else is under way. -/
theorem send_eq (hroom : 0 < m.config.maxInFlightPerNode) (live : m.now < c.deadline)
    (route : Route) : (Lone.nothing.dispatcher n ts []).send m c route =
      (Lone.sent c route none).dispatcher n ts
        [.attempt c.id route.node (requestOf c route) c.deadline] := by
  have hlate : ¬ c.deadline ≤ m.now := Nat.not_le_of_lt live
  simp [send, hasCapacity, sentTo, Lone.dispatcher, hroom, dispatch, hlate, insert, emit,
    requestOf, Assoc.put]

theorem route_eq (hkey : c.target = .key) (hroom : 0 < m.config.maxInFlightPerNode)
    (live : m.now < c.deadline) {route : Route}
    (hroute : resolvePartition (partitionOf m c) m.table c.fastForward = .ok route) :
    (Lone.nothing.dispatcher n ts []).route m c =
      (Lone.sent { c with partition := some (partitionOf m c) } route none).dispatcher n ts
        [.attempt c.id route.node (requestOf c route) c.deadline] := by
  have hlate : ¬ c.deadline ≤ m.now := Nat.not_le_of_lt live
  have hrouteOf : routeOf m c =
      ({ c with partition := some (partitionOf m c) }, .ok route) := by
    obtain ⟨id, ticket, operation, target, partition, fastForward, deadline, timeout, retries,
      routeRefreshes, lastFailure⟩ := c
    obtain rfl : target = .key := hkey
    simpa [routeOf, partitionOf] using hroute
  simp only [Dispatcher.route, hlate, ite_false, hrouteOf]
  exact send_eq hroom (by exact live) route

theorem route_dealt (hkey : c.target = .key) (hroom : 0 < m.config.maxInFlightPerNode)
    (known : c.id < n) : DealtWith m c n ((Lone.nothing.dispatcher n ts []).route m c) := by
  unfold route
  split
  · exact timeOut_dealt
  next hlate =>
  have live : m.now < c.deadline := Nat.lt_of_not_le hlate
  simp only [routeOf, hkey]
  cases hroute : resolvePartition (partitionForKey (c.operation.key?.getD [])
      m.table.partitionCount) m.table c.fastForward with
  | ok route =>
      simp only
      rw [send_eq hroom (by exact live)]
      exact ⟨_, _, n, ts, rfl, Nat.le_refl _,
        .sent _ route ⟨rfl, rfl, hkey.symm, rfl, rfl⟩ known live hroute⟩
  | error miss =>
      simp only
      split
      · exact ⟨.nothing, _, n, ts, rfl, Nat.le_refl _, .ended (.noRoute miss.partition) rfl⟩
      · exact (park_dealt (by exact live)).serves ⟨rfl, rfl, hkey.symm, rfl, rfl⟩ (Nat.le_refl n)

/-! ## Attempts that end -/

theorem takeSent_sent {route : Route} {generation : Option Nat} :
    ((Lone.sent c route generation).dispatcher n ts []).takeSent c.id =
      (Lone.nothing.dispatcher n ts [], some ⟨c, route.node, route.partition⟩) := by
  simp [takeSent, remove, Lone.dispatcher, Assoc.get?, Assoc.erase, lowerSent]

/-- A command that may be tried again, or has been tried often enough. -/
theorem charge_dealt (failure : String) (fault : Bool) (next : Dispatcher → Command → Dispatcher)
    (hnext : DealtWith m c n (next (Lone.nothing.dispatcher n ts [])
      { c with retries := c.retries + 1, lastFailure := some failure })) :
    DealtWith m c n (match chargeRetry m (Lone.nothing.dispatcher n ts []) c failure fault with
      | (d, none) => d
      | (d, some command) => next d command) := by
  by_cases hleft : c.retries + 1 ≤ m.config.maxRetries
  · simpa [chargeRetry, hleft] using hnext
  · have hunanswered : (exhausted m { c with retries := c.retries + 1 } failure fault).status? =
        none := by
      unfold exhausted
      split <;> rfl
    simp only [chargeRetry, hleft, ite_false]
    exact ⟨.nothing, _, n, ts, rfl, Nat.le_refl n, .ended _ hunanswered⟩

theorem apply_dealt (hkey : c.target = .key) {outcome : Outcome}
    (hopen : (∃ p, outcome = .routingStale p) ∨ (∃ reason, outcome = .connectionFault reason) ∨
      outcome = .temporaryFailure) :
    DealtWith m c n ((Lone.nothing.dispatcher n ts []).apply m c outcome) := by
  unfold apply
  split
  · exact timeOut_dealt
  next hlate =>
  have live : m.now < c.deadline := Nat.lt_of_not_le hlate
  rcases hopen with ⟨p, rfl⟩ | ⟨reason, rfl⟩ | rfl
  · simp only [hkey]
    refine charge_dealt _ _ (fun d command => d.park { command with fastForward := true }) ?_
    exact (park_dealt (by exact live)).serves ⟨rfl, rfl, rfl, rfl, rfl⟩ (Nat.le_refl n)
  · refine charge_dealt _ _ (fun d command => d.backOff m command) ?_
    exact backOff_dealt.serves ⟨rfl, rfl, rfl, rfl, rfl⟩ (Nat.le_refl n)
  · refine charge_dealt _ _ (fun d command => d.backOff m command) ?_
    exact backOff_dealt.serves ⟨rfl, rfl, rfl, rfl, rfl⟩ (Nat.le_refl n)

/-- An attempt for which there was no connection. -/
theorem onSendFailed_dealt (hkey : c.target = .key) (route : Route) (error : ConnectionError) :
    DealtWith m c n (((Lone.sent c route none).dispatcher n ts []).onSendFailed m c.id route.node
      none error) := by
  simp only [onSendFailed, takeSent_sent, Option.elim_none]
  split
  · exact finish_dealt rfl
  · exact finish_dealt rfl
  · exact apply_dealt hkey (Or.inr (Or.inl ⟨_, rfl⟩))

/-- The request of an attempt went out. -/
theorem onSent_sent (route : Route) (generation : Nat) :
    ((Lone.sent c route none).dispatcher n ts []).onSent m c.id generation =
      (Lone.sent c route (some generation)).dispatcher n ts [] := by
  simp [onSent, Lone.dispatcher, Assoc.get?, Assoc.put]

theorem toNat_toUInt64 {id : Nat} (h : id < UInt64.size) : id.toUInt64.toNat = id := by
  simpa [Nat.toUInt64] using h

/-- The answer to the attempt decides it. -/
theorem onResponse_sent (hid : c.id < UInt64.size) (route : Route) (generation : Option Nat)
    {response : Response} (hresponse : response.opaqueId = c.id.toUInt64) :
    ((Lone.sent c route generation).dispatcher n ts []).onResponse m response =
      (Lone.nothing.dispatcher n ts []).apply m c
        (Outcome.ofResponse c.operation route.partition response) := by
  simp [onResponse, hresponse, toNat_toUInt64 hid, takeSent_sent]

/-- What an answer means that decides the command. -/
def decided? (c : Command) (response : Response) : Option (Except Error Reply) :=
  match response.status with
  | .success => some (.ok (c.operation.reply response))
  | .notMyPartition | .temporaryFailure => none
  | status => some (.error (.application status))

/-- An answer that neither turns a command away nor puts it off decides it. -/
theorem decided?_of_status {response : Response}
    (here : response.status ≠ .notMyPartition) (prompt : response.status ≠ .temporaryFailure) :
    ∃ result, decided? c response = some result := by
  unfold decided?
  split
  · exact ⟨_, rfl⟩
  · contradiction
  · contradiction
  · exact ⟨_, rfl⟩

theorem apply_decided (live : m.now < c.deadline) {response : Response} {p : UInt16}
    {result : Except Error Reply} (h : decided? c response = some result) :
    (Lone.nothing.dispatcher n ts []).apply m c (Outcome.ofResponse c.operation p response) =
      Lone.nothing.dispatcher n ts [.resolve c.ticket result] := by
  have hlate : ¬ c.deadline ≤ m.now := Nat.not_le_of_lt live
  unfold decided? at h
  unfold Outcome.ofResponse
  cases hstatus : response.status <;> rw [hstatus] at h <;> cases h <;>
    simp [apply, hlate, finish, emit, Lone.dispatcher]

theorem apply_undecided (hkey : c.target = .key) {response : Response} {p : UInt16}
    (h : decided? c response = none) :
    DealtWith m c n ((Lone.nothing.dispatcher n ts []).apply m c
      (Outcome.ofResponse c.operation p response)) := by
  refine apply_dealt hkey ?_
  unfold decided? at h
  unfold Outcome.ofResponse
  cases hstatus : response.status <;> rw [hstatus] at h <;> simp at h ⊢

/-- A command that was turned away for the first time awaits a refresh. -/
theorem apply_stale_eq (n : Nat) (ts : List (Instant × Nat)) (p : UInt16)
    (hkey : c.target = .key) (live : m.now < c.deadline) {response : Response}
    (hstale : response.status = .notMyPartition)
    (hleft : c.retries + 1 ≤ m.config.maxRetries) :
    ∃ failure, (Lone.nothing.dispatcher n ts []).apply m c
        (Outcome.ofResponse c.operation p response) =
      (Lone.parked { c with id := n, retries := c.retries + 1, lastFailure := some failure
                            fastForward := true }).dispatcher (n + 1)
        (insertTimer (c.deadline, n) ts) [.refresh] := by
  have hlate : ¬ c.deadline ≤ m.now := Nat.not_le_of_lt live
  refine ⟨s!"stale route for partition {p}", ?_⟩
  simp only [Outcome.ofResponse, hstale, apply, hlate, ite_false, hkey, chargeRetry, hleft,
    ite_true, park_eq]

/-! ## Refreshes that end -/

theorem parked_remove : Dispatcher.remove
    { (Lone.parked c).dispatcher n ts [] with refreshing := false, parked := [] } c.id =
      (Lone.nothing.dispatcher n ts [], some ⟨c, .awaitingTopology⟩) := by
  simp [remove, Lone.dispatcher, Assoc.get?, Assoc.erase]

/-- A command that has been turned away at most once is routed again. -/
theorem onRefreshed_eq_route (hfew : c.retries ≤ 1) :
    ((Lone.parked c).dispatcher n ts []).onRefreshed m (.ok ()) =
      (Lone.nothing.dispatcher n ts []).route m c := by
  have hparked : ((Lone.parked c).dispatcher n ts []).parked = [c.id] := rfl
  have hfew : ¬ c.retries > 1 := Nat.not_lt_of_le hfew
  simp only [onRefreshed, hparked, List.foldl_cons, List.foldl_nil, parked_remove, hfew, ite_false]

theorem onRefreshed_dealt (hkey : c.target = .key) (hroom : 0 < m.config.maxInFlightPerNode)
    (known : c.id < n) (result : Except TopologyError Unit) :
    DealtWith m c n (((Lone.parked c).dispatcher n ts []).onRefreshed m result) := by
  have hparked : ((Lone.parked c).dispatcher n ts []).parked = [c.id] := rfl
  simp only [onRefreshed, hparked, List.foldl_cons, List.foldl_nil, parked_remove]
  cases result with
  | error error => exact finish_dealt rfl
  | ok =>
      simp only
      split
      · exact backOff_dealt
      · exact route_dealt hkey hroom known

/-! ## Timers -/

theorem DealtWith.withTimers {d : Dispatcher} (h : DealtWith m c n d)
    (timers : List (Instant × Nat)) : DealtWith m c n { d with timers } := by
  obtain ⟨lone, effects, next, _, rfl, hle, honward⟩ := h
  exact ⟨lone, effects, next, timers, Lone.dispatcher_with_timers _ _ _ _ _, hle, honward⟩

/-- A timer that fires finds nothing to do, or takes a pause to its end. -/
theorem DealtWith.fireTimer {d : Dispatcher} (h : DealtWith m c n d) (hkey : c.target = .key)
    (hroom : 0 < m.config.maxInFlightPerNode) (id : Nat) :
    DealtWith m c n (d.fireTimer m id) := by
  obtain ⟨lone, effects, next, timers, rfl, hle, honward⟩ := h
  have hsame : DealtWith m c n (lone.dispatcher next timers effects) :=
    ⟨lone, effects, next, timers, rfl, hle, honward⟩
  cases honward with
  | ended => simpa [Dispatcher.fireTimer, Lone.dispatcher] using hsame
  | sent c' route serves known live =>
      have hlate : ¬ c'.deadline ≤ m.now := serves.deadline ▸ Nat.not_le_of_lt live
      by_cases hid : c'.id = id
      · simpa [Dispatcher.fireTimer, Lone.dispatcher, Assoc.get?, hid, hlate] using hsame
      · simpa [Dispatcher.fireTimer, Lone.dispatcher, Assoc.get?, hid] using hsame
  | parked c' serves known live =>
      have hlate : ¬ c'.deadline ≤ m.now := serves.deadline ▸ Nat.not_le_of_lt live
      by_cases hid : c'.id = id
      · simpa [Dispatcher.fireTimer, Lone.dispatcher, Assoc.get?, hid, hlate] using hsame
      · simpa [Dispatcher.fireTimer, Lone.dispatcher, Assoc.get?, hid] using hsame
  | rested c' resume serves known =>
      by_cases hid : c'.id = id
      · subst hid
        have hremove : ((Lone.resting c' resume).dispatcher next timers []).remove c'.id =
            (Lone.nothing.dispatcher next timers [], some ⟨c', .backoff resume⟩) := by
          simp [remove, Lone.dispatcher, Assoc.get?, Assoc.erase]
        have hget : ((Lone.resting c' resume).dispatcher next timers []).inFlight.get? c'.id =
            some ⟨c', .backoff resume⟩ := by
          simp [Lone.dispatcher, Assoc.get?]
        simp only [Dispatcher.fireTimer, hget, hremove]
        split
        · exact timeOut_dealt.serves serves hle
        split
        · exact (route_dealt (serves.target.trans hkey) hroom known).serves serves hle
        · exact hsame
      · simpa [Dispatcher.fireTimer, Lone.dispatcher, Assoc.get?, hid] using hsame

theorem DealtWith.fireDue {d : Dispatcher} (h : DealtWith m c n d) (hkey : c.target = .key)
    (hroom : 0 < m.config.maxInFlightPerNode) (fuel : Nat) :
    DealtWith m c n (d.fireDue m fuel) := by
  induction fuel generalizing d with
  | zero => exact h
  | succ fuel ih =>
      unfold Dispatcher.fireDue
      split
      · split
        · exact ih ((h.withTimers _).fireTimer hkey hroom _)
        · exact h
      · exact h

/-- A pause goes on or is over. -/
theorem fireTimers_resting (hkey : c.target = .key) (hroom : 0 < m.config.maxInFlightPerNode)
    (known : c.id < n) (resume : Instant) :
    DealtWith m c n (((Lone.resting c resume).dispatcher n ts []).fireTimers m) := by
  have hresting : DealtWith m c n ((Lone.resting c resume).dispatcher n ts []) :=
    ⟨_, [], n, ts, rfl, Nat.le_refl n, .rested c resume (.refl c) known⟩
  exact hresting.fireDue hkey hroom _

/-- Timers of commands that are gone find nothing to do. -/
theorem fireDue_unclaimed {lone : Lone} (hlone : lone = .nothing ∨ ∃ c, lone = .inbound c)
    (n : Nat) (ts : List (Instant × Nat)) {fuel : Nat} (hfuel : ts.countP (·.1 ≤ m.now) ≤ fuel) :
    ∃ ts', (lone.dispatcher n ts []).fireDue m fuel = lone.dispatcher n ts' [] ∧
      ts'.head?.any (·.1 ≤ m.now) = false := by
  induction fuel generalizing ts with
  | zero =>
      refine ⟨ts, rfl, ?_⟩
      have hnone := List.countP_eq_zero.mp (Nat.le_zero.mp hfuel)
      cases ts with
      | nil => rfl
      | cons t rest => simpa using hnone t (by simp)
  | succ fuel ih =>
      unfold Dispatcher.fireDue
      rw [Lone.dispatcher_timers]
      cases ts with
      | nil => exact ⟨[], rfl, rfl⟩
      | cons t rest =>
          obtain ⟨due, id⟩ := t
          by_cases hdue : due ≤ m.now
          · have hunclaimed : (lone.dispatcher n rest []).fireTimer m id =
                lone.dispatcher n rest [] := by
              rcases hlone with rfl | ⟨c, rfl⟩ <;> rfl
            simp only [hdue, ite_true, Lone.dispatcher_with_timers, hunclaimed]
            exact ih rest (by simpa [List.countP_cons, hdue] using hfuel)
          · exact ⟨(due, id) :: rest, by simp [hdue], by simpa using hdue⟩

/-! ## Turns -/

theorem DealtWith.promoteWaiting {d : Dispatcher} (h : DealtWith m c n d) :
    DealtWith m c n (d.promoteWaiting m) := by
  obtain ⟨lone, effects, next, timers, rfl, hle, honward⟩ := h
  rw [Lone.dispatcher_promoteWaiting]
  exact ⟨lone, effects, next, timers, rfl, hle, honward⟩

theorem accept_eq : ((Lone.inbound c).dispatcher n ts []).accept m =
    (Lone.nothing.dispatcher (n + 1) (insertTimer (c.deadline, n) ts) []).route m
      { c with id := n } := rfl

theorem accept_dealt (hkey : c.target = .key) (hroom : 0 < m.config.maxInFlightPerNode) :
    DealtWith m c n (((Lone.inbound c).dispatcher n ts []).accept m) := by
  rw [accept_eq]
  exact (route_dealt (c := { c with id := n }) hkey hroom (Nat.lt_succ_self n)).serves
    ⟨rfl, rfl, rfl, rfl, rfl⟩ (Nat.le_succ n)

end Dispatcher

end ClusterKv

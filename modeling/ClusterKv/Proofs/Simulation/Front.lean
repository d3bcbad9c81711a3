import ClusterKv.Proofs.Assoc
import ClusterKv.Simulation.Run

/-! # What callers notice

Callers have to do with a small part of a world: the dispatcher, their calls and the results, and
the clock. Connections, attempts and fetches leave it as it is, and a turn changes the dispatcher
and the results in it. -/

namespace ClusterKv.World

variable {σ : Type}

/-- What callers have to do with: the dispatcher, their calls and results, and the clock. -/
structure Front where
  config : Config
  now : Instant
  dispatcher : Dispatcher
  attended : Bool
  nextTicket : Nat
  calls : Assoc Nat Call
  blocked : List (Nat × Command)
  results : Assoc Nat (Except Error Reply × Instant)

/-- The front of a world. -/
@[reducible] def front (w : World σ) : Front where
  config := w.config
  now := w.now
  dispatcher := w.dispatcher
  attended := w.attended
  nextTicket := w.nextTicket
  calls := w.calls
  blocked := w.blocked
  results := w.results

section

variable (net : Network σ) (w : World σ)

/-! ## What callers do not notice -/

@[simp] theorem front_enqueue (job : Job) : (w.enqueue job).front = w.front := rfl

@[simp] theorem front_schedule (time : Instant) (job : Job) :
    (w.schedule time job).front = w.front := rfl

@[simp] theorem front_sever (node : NodeId) (generation : Nat) :
    (w.sever node generation).front = w.front := rfl

@[simp] theorem front_report (event : NodeEvent) :
    (w.report event).front = w.front := by
  unfold report
  split <;> rfl

@[simp] theorem front_shut (node : NodeId) (generation : Nat) (reason : String) :
    (w.shut node generation reason).1.front = w.front := by
  unfold shut
  split
  · rfl
  · dsimp only
    split
    · rfl
    · simp

@[simp] theorem front_close (node : NodeId) (generation : Nat) :
    (w.close node generation).front = w.front := by
  simp [close]

@[simp] theorem front_conclude (id : Nat) (event : TaskEvent) :
    (w.conclude id event).front = w.front := by
  unfold conclude
  dsimp only
  split <;> rfl

@[simp] theorem front_perform (node : NodeId) (generation : Nat) (act : Act) :
    (w.perform net node generation act).front = w.front := by
  cases act <;> simp [perform]

@[simp] theorem front_performAll (node : NodeId) (generation : Nat)
    (acts : List (Duration × Act)) :
    (w.performAll net node generation acts).front = w.front := by
  induction acts generalizing w with
  | nil => rfl
  | cons act rest ih =>
      obtain ⟨after, act⟩ := act
      simp only [performAll, ih]
      split <;> simp

@[simp] theorem front_written (id generation : Nat)
    (result : Except ConnectionError (List (Duration × Act))) :
    (w.written net id generation result).front = w.front := by
  unfold written
  split
  · rfl
  · split <;> simp

@[simp] theorem front_startWriting (id generation : Nat) (attempt : Attempt) (finish : Instant) :
    (w.startWriting id generation attempt finish).front = w.front := rfl

@[simp] theorem front_write (id generation : Nat) (attempt : Attempt) :
    (w.write net id generation attempt).front = w.front := by
  have hshut : (if net.isUp w.network attempt.node then w
      else (w.shut attempt.node generation "node stopped").1).front = w.front := by
    split <;> simp
  unfold write
  split
  · simp
  dsimp only
  generalize (if net.isUp w.network attempt.node then w
    else (w.shut attempt.node generation "node stopped").1) = w₁ at hshut ⊢
  rw [← hshut]
  split
  · simp
  split
  · simp
  · split <;> simp

@[simp] theorem front_obtained (caller : Nat) (result : Except ConnectionError Nat) :
    (w.obtained net caller result).front = w.front := by
  unfold obtained
  split <;> simp

@[simp] theorem front_dialed (caller : Nat) (node : NodeId) (generation : Nat)
    (result : Except ConnectionError Unit) :
    (w.dialed net caller node generation result).front = w.front := by
  simp only [dialed, front_obtained]
  split <;> simp

@[simp] theorem front_follow (caller : Nat) (node : NodeId) (lease : Lease) :
    (w.follow net caller node lease).front = w.front := by
  cases lease with
  | ready | refused | wait => simp [follow]
  | dial generation =>
      simp only [follow]
      split
      · rfl
      · split <;> simp

@[simp] theorem front_acquire (caller : Nat) (node : NodeId) :
    (w.acquire net caller node).front = w.front := by
  simp [acquire]

@[simp] theorem front_enter (caller : Nat) (node : NodeId) :
    (w.enter net caller node).front = w.front := by
  simp [enter]

@[simp] theorem front_finishFetch (purpose : Purpose)
    (fetched : Except TopologyError Topology) :
    (w.finishFetch purpose fetched).front = w.front := by
  cases purpose with
  | dispatcher =>
      simp only [finishFetch]
      split <;> rfl
  | call | poller => rfl

@[simp] theorem front_startFetch (purpose : Purpose) :
    (w.startFetch net purpose).front = w.front := by
  simp only [startFetch]
  split <;> simp

@[simp] theorem front_tick (p : Poller) : (w.tick net p).front = w.front := by
  simp [tick]

theorem front_run (job : Job) : (w.run net job).front = w.front := by
  cases job with
  | start id =>
      simp only [run]
      split <;> simp
  | fetch | dialed | written | expired | act | fetched => simp [run]


end

/-! ## Submissions -/

/-- A world that differs in nothing but calls and what they have submitted. -/
def resubmitted (w : World σ) (nextTicket : Nat) (calls : Assoc Nat Call)
    (blocked : List (Nat × Command)) (results : Assoc Nat (Except Error Reply × Instant))
    (inbound : List Command) : World σ :=
  { w with nextTicket, calls, blocked, results, dispatcher := { w.dispatcher with inbound } }

/-- Submissions touch nothing else. -/
theorem submitDrafts_frame (number : Nat) (drafts : List Draft) (call : Call) (w : World σ) :
    ∃ nextTicket calls blocked results inbound, submitDrafts number drafts call w =
      w.resubmitted nextTicket calls blocked results inbound := by
  induction drafts generalizing call w with
  | nil => exact ⟨_, _, _, _, w.dispatcher.inbound, rfl⟩
  | cons draft rest ih =>
      simp only [submitDrafts]
      split
      · exact ih ..
      split
      · exact ih ..
      split
      · exact ih ..
      · exact ⟨_, _, _, _, w.dispatcher.inbound, rfl⟩

theorem resumeCall_frame (w : World σ) (number : Nat) :
    ∃ nextTicket calls blocked results inbound, w.resumeCall number =
      w.resubmitted nextTicket calls blocked results inbound := by
  unfold resumeCall
  split
  · exact ⟨_, _, _, _, w.dispatcher.inbound, rfl⟩
  · exact submitDrafts_frame ..

theorem unblock_frame (w : World σ) :
    ∃ nextTicket calls blocked results inbound, w.unblock =
      w.resubmitted nextTicket calls blocked results inbound := by
  unfold unblock
  split
  · exact ⟨_, _, _, _, w.dispatcher.inbound, rfl⟩
  split
  · exact resumeCall_frame ..
  · exact ⟨_, _, _, _, w.dispatcher.inbound, rfl⟩

/-! ## Turns -/

/-- An effect that is a result goes into the records. -/
def record (now : Instant) (results : Assoc Nat (Except Error Reply × Instant)) :
    Effect → Assoc Nat (Except Error Reply × Instant)
  | .resolve ticket result => results.put ticket (result, now)
  | .attempt .. | .refresh | .disconnect .. | .closePool => results

theorem front_carryOut (w : World σ) (effect : Effect) :
    (w.carryOut effect).front = { w.front with results := record w.now w.results effect } := by
  cases effect with
  | attempt | refresh | resolve => rfl
  | disconnect node generation =>
      simp only [carryOut, invalidateGeneration]
      cases (w.pool.invalidateGeneration node generation).2 with
      | none => rfl
      | some stale => exact front_close _ node stale
  | closePool =>
      suffices h : ∀ (held : List (NodeId × Nat)) (w : World σ),
          (held.foldl (fun w e => w.close e.1 e.2) w).front = w.front from h _ _
      intro held
      induction held with
      | nil => exact fun _ => rfl
      | cons e rest ih => exact fun w => (ih _).trans (front_close w e.1 e.2)

theorem front_carryOuts (effects : List Effect) (w : World σ) :
    (effects.foldl carryOut w).front =
      { w.front with results := effects.foldl (record w.now) w.results } := by
  induction effects generalizing w with
  | nil => rfl
  | cons effect rest ih =>
      have hfirst := front_carryOut w effect
      simp only [Front.mk.injEq] at hfirst
      obtain ⟨hconfig, hnow, hdispatcher, hattended, hticket, hcalls, hblocked, hresults⟩ := hfirst
      rw [List.foldl_cons, ih, List.foldl_cons]
      simp only [hconfig, hnow, hdispatcher, hattended, hticket, hcalls, hblocked, hresults]

/-- What the dispatcher can see, given the current table. -/
abbrev Front.moment (f : Front) (table : Topology) : Moment := ⟨f.config, f.now, table⟩

/-- A turn of the dispatcher. -/
def Front.turn (f : Front) (table : Topology) (input : Dispatcher.Input) : Front :=
  let dispatcher := f.dispatcher.turn (f.moment table) input
  { f with
    dispatcher := { dispatcher with outbox := [] }
    results := dispatcher.outbox.reverse.foldl (record f.now) f.results }

theorem front_turn (w : World σ) (input : Dispatcher.Input) :
    (w.turn input).front = w.front.turn w.refresher.current input :=
  front_carryOuts _ _

theorem turn_dispatcher (w : World σ) (input : Dispatcher.Input) :
    (w.turn input).dispatcher = { w.dispatcher.turn w.moment input with outbox := [] } :=
  congrArg Front.dispatcher (front_turn w input)

theorem has_record (now : Instant) (effects : List Effect)
    (results : Assoc Nat (Except Error Reply × Instant)) (ticket : Nat) :
    (effects.foldl (record now) results).has ticket = true ↔
      results.has ticket = true ∨ ∃ result, .resolve ticket result ∈ effects := by
  induction effects generalizing results with
  | nil => simp
  | cons effect rest ih =>
      rw [List.foldl_cons, ih]
      cases effect with
      | attempt | refresh | disconnect | closePool => simp [record]
      | resolve other result =>
          simp only [record, Assoc.has_put, List.mem_cons, Effect.resolve.injEq]
          constructor
          · rintro ((rfl | hold) | ⟨given, hlater⟩)
            · exact .inr ⟨result, .inl ⟨rfl, rfl⟩⟩
            · exact .inl hold
            · exact .inr ⟨given, .inr hlater⟩
          · rintro (hold | ⟨given, ⟨rfl, -⟩ | hlater⟩)
            · exact .inl (.inr hold)
            · exact .inl (.inl rfl)
            · exact .inr ⟨given, hlater⟩

/-- A result that is recorded was there before, or is given. -/
theorem get?_record {now : Instant} {effects : List Effect}
    {results : Assoc Nat (Except Error Reply × Instant)} {ticket : Nat}
    {found : Except Error Reply × Instant}
    (h : (effects.foldl (record now) results).get? ticket = some found) :
    results.get? ticket = some found ∨ .resolve ticket found.1 ∈ effects := by
  induction effects generalizing results with
  | nil => exact .inl h
  | cons effect rest ih =>
      rcases ih h with hold | hlater
      · cases effect with
        | attempt | refresh | disconnect | closePool => exact .inl hold
        | resolve other result =>
            by_cases hother : ticket = other
            · subst hother
              rw [record, Assoc.get?_put_self] at hold
              exact .inr (Option.some.inj hold ▸ List.mem_cons_self)
            · exact .inl ((Assoc.get?_put_of_ne _ _ hother).symm.trans hold)
      · exact .inr (List.mem_cons_of_mem _ hlater)

end ClusterKv.World

import ClusterKv.Proofs.Simulation.Histories
import ClusterKv.Proofs.Simulation.Numbers

/-! # Work in any order

A world does its work in one order. Nothing but the order within each queue of reports is owed to
how a client runs: whatever is at hand may come next, and the clock may move on once no job is at
hand. -/

namespace ClusterKv

/-- One of some jobs is taken out, wherever it stands. -/
def Picks (jobs : List Job) (job : Job) (rest : List Job) : Prop :=
  ∃ before after, jobs = before ++ job :: after ∧ rest = before ++ after

namespace Picks

variable {jobs rest : List Job} {job other : Job}

theorem head (job : Job) (rest : List Job) : Picks (job :: rest) job rest := ⟨[], rest, rfl, rfl⟩

theorem mem (h : Picks jobs job rest) : job ∈ jobs := by
  obtain ⟨before, after, rfl, -⟩ := h
  simp

theorem mem_of_rest (h : Picks jobs job rest) (hother : other ∈ rest) : other ∈ jobs := by
  obtain ⟨before, after, rfl, rfl⟩ := h
  rcases List.mem_append.mp hother with hfirst | hlast
  · exact List.mem_append_left _ hfirst
  · exact List.mem_append_right _ (List.mem_cons_of_mem _ hlast)

theorem rest_of_ne (h : Picks jobs job rest) (hother : other ∈ jobs) (hne : other ≠ job) :
    other ∈ rest := by
  obtain ⟨before, after, rfl, rfl⟩ := h
  rcases List.mem_append.mp hother with hfirst | hlast
  · exact List.mem_append_left _ hfirst
  · exact List.mem_append_right _ ((List.mem_cons.mp hlast).resolve_left hne)

end Picks

namespace World

variable {σ : Type} {net : Network σ} {w w' : World σ}

/-- Something at hand is done, whichever it is, or the clock moves on. -/
inductive Stirs {σ : Type} (net : Network σ) (w : World σ) : World σ → Prop
  | told {event : TaskEvent} {rest : List TaskEvent} (running : w.dispatcher.stopped = false)
      (first : w.taskEvents = event :: rest) :
      Stirs net w ({ w with taskEvents := rest }.turn (.task event))
  | heard {event : NodeEvent} {rest : List NodeEvent} (running : w.dispatcher.stopped = false)
      (first : w.nodeEvents = event :: rest) :
      Stirs net w ({ w with nodeEvents := rest }.turn (.node event))
  | accept (running : w.dispatcher.stopped = false)
      (accepting : w.dispatcher.waitingTotal < w.config.maxWaiting)
      (filled : w.dispatcher.inbound ≠ []) : Stirs net w (w.turn .accept).unblock
  | timers (running : w.dispatcher.stopped = false) : Stirs net w (w.turn .timers)
  | stop (running : w.dispatcher.stopped = false)
      (asked : w.stopRequests ≠ [] ∨ w.dropped = true) : Stirs net w w.stopDispatcher
  | job {job : Job} {rest : List Job} (picked : Picks w.jobs job rest) :
      Stirs net w ({ w with jobs := rest }.run net job)
  | enter {node : NodeId} {slot : Slot} {caller : Nat} (member : (node, slot) ∈ w.pool.slots)
      (granted : slot.creation = .granted caller) : Stirs net w (w.enter net caller node)
  | due {before after : List (Instant × Job)} {time : Instant} {job : Job}
      (waits : w.agenda = before ++ (time, job) :: after) (due : time ≤ w.now) :
      Stirs net w ({ w with agenda := before ++ after }.run net job)
  | halt : Stirs net w { w with poller := none }
  | tick (p : Poller) : Stirs net w (w.tick net p)
  /-- Which timer comes first at an instant is of no account. -/
  | note (ahead : List Instant) (awake : Bool) : Stirs net w { w with ahead, awake }
  /-- The clock moves on, but not beyond what comes first on the agenda. -/
  | wait (now : Instant) (idle : w.jobs = []) (later : w.now ≤ now)
      (due : ∀ e ∈ w.agenda.head?, now ≤ e.1) : Stirs net w { w with now }

/-- A world goes on for some time, and does its work in any order. -/
abbrev Drifts {σ : Type} (net : Network σ) : World σ → World σ → Prop :=
  Relation.ReflTransGen (Stirs net)

/-! ## How a world runs -/

theorem agendaStep?_drifts (h : w.agendaStep? net = some w') : Drifts net w w' := by
  unfold agendaStep? at h
  split at h
  · next time job agenda hagenda =>
    split at h
    · next hdue =>
      have hfirst : { w with ahead := w.ahead.erase time, awake := false }.agenda =
          [] ++ (time, job) :: agenda := hagenda
      cases h
      exact .tail (.single (.note _ _)) (.due hfirst hdue)
    · cases h
  · cases h

theorem dispatcherStep?_stirs (h : w.dispatcherStep? = some w') : Stirs net w w' := by
  obtain ⟨hrunning, hcases⟩ := dispatcherStep?_cases h
  rcases hcases with ⟨hasked, rfl⟩ | ⟨event, rest, hfirst, rfl⟩ | ⟨event, rest, hfirst, rfl⟩ |
    ⟨haccepting, hfilled, rfl⟩
  · exact .stop hrunning hasked
  · exact .told hrunning hfirst
  · exact .heard hrunning hfirst
  · exact .accept hrunning haccepting hfilled

theorem alarmStep?_drifts (h : w.alarmStep? = some w') : Drifts net w w' := by
  rcases alarmStep?_cases h with hstep | ⟨hrunning, rfl⟩
  · exact .single (dispatcherStep?_stirs hstep)
  · exact .tail (.single (.timers hrunning)) (.note (w.turn .timers).ahead true)

theorem jobStep?_stirs (h : w.jobStep? net = some w') : Stirs net w w' := by
  unfold jobStep? at h
  split at h
  · next _ job jobs hjobs =>
    cases h
    exact .job (hjobs ▸ .head job jobs)
  · next node caller _ hgranted =>
    cases h
    obtain ⟨⟨other, slot⟩, hmember, hslot⟩ := List.exists_of_findSome?_eq_some hgranted
    cases hcreation : slot.creation with
    | granted first =>
        simp only [hcreation, Option.some.injEq, Prod.mk.injEq] at hslot
        obtain ⟨rfl, rfl⟩ := hslot
        exact .enter hmember hcreation
    | idle | dialing => simp [hcreation] at hslot
  · cases h

theorem idleStep?_stirs (h : w.idleStep? net = some w') : Stirs net w w' := by
  rcases idleStep?_cases h with rfl | ⟨p, rfl⟩ | ⟨hrunning, rfl⟩
  · exact .halt
  · exact .tick p
  · exact .timers hrunning

theorem step?_drifts (h : w.step? net = some w') : Drifts net w w' := by
  rcases step?_cases h with h | h | h | h | h
  · exact alarmStep?_drifts h
  · exact agendaStep?_drifts h
  · exact .single (dispatcherStep?_stirs h)
  · exact .single (jobStep?_stirs h)
  · exact .single (idleStep?_stirs h)

/-- The clock moves on to what comes first on the agenda at the latest. -/
theorem nextInstant?_le_agenda {e : Instant × Job} (he : e ∈ w.agenda.head?) :
    ∃ next ∈ w.nextInstant?, next ≤ e.1 := by
  unfold nextInstant?
  generalize htimes : (w.agenda.head?.map (·.1)).toList ++
    (if w.attended then (w.dispatcher.timers.head?.map (·.1)).toList else []) ++
      ((w.poller.filter fun p => !p.busy).map (·.next)).toList = times
  have hmem : e.1 ∈ times := by
    rw [← htimes, Option.mem_def.mp he]
    simp
  cases hmin : times.min? with
  | none => simp [List.min?_eq_none_iff.mp hmin] at hmem
  | some next => exact ⟨next, rfl, (List.min?_eq_some_iff.mp hmin).2 _ hmem⟩

/-- While nothing happens there is nothing on the agenda for this instant. -/
theorem agenda_later (nothing : w.agendaStep? net = none) {e : Instant × Job}
    (he : e ∈ w.agenda.head?) : w.now < e.1 := by
  unfold agendaStep? at nothing
  split at nothing
  · next time job rest hfirst =>
    rw [hfirst] at he
    obtain rfl := Option.some.inj he
    split at nothing
    · cases nothing
    · next hnot => exact Nat.lt_of_not_le hnot
  · next hnone => simp [hnone] at he

theorem jobs_of_still (nothing : w.jobStep? net = none) : w.jobs = [] := by
  unfold jobStep? at nothing
  split at nothing
  · cases nothing
  · cases nothing
  · next hjobs _ => exact hjobs

theorem Advance.drifts (h : Advance net w w') : Drifts net w w' := by
  cases h with
  | step taken => exact step?_drifts taken
  | wait now nothing later due =>
      obtain ⟨-, hagenda, -, hjobs, -⟩ := step?_eq_none_iff.mp nothing
      refine .single (.wait now (jobs_of_still hjobs) later fun e he => ?_)
      obtain ⟨next, hnext, hle⟩ := nextInstant?_le_agenda he
      have hahead := agenda_later hagenda he
      exact Nat.le_trans (due next hnext) (Nat.max_le.mpr ⟨hle, Nat.le_of_lt hahead⟩)

/-- Doing the work in the order of the world is one way to do it in any order. -/
theorem Proceeds.drifts (h : Proceeds net w w') : Drifts net w w' := by
  induction h with
  | refl => exact .refl
  | tail _ goes ih => exact ih.trans goes.drifts

/-! ## What callers notice -/

/-- What happens is as far as callers notice a step of a world, or it takes time. -/
theorem Stirs.stride_or_wait (h : Stirs net w w') :
    Stride w w' ∨ ∃ now, w' = { w with now } := by
  cases h with
  | told running => exact .inl (.turn running (by simp) (by simp) (front_turn _ _))
  | heard running => exact .inl (.turn running (by simp) (by simp) (front_turn _ _))
  | accept running accepting filled => exact .inl (.accept running accepting filled)
  | timers running => exact .inl (.turn running (by simp) (by simp) (front_turn w .timers))
  | stop running => exact .inl (.stop running)
  | job => exact .inl (.beside (front_run net _ _))
  | enter => exact .inl (.beside (front_enter net w _ _))
  | due => exact .inl (.beside (front_run net _ _))
  | halt | note => exact .inl (.beside rfl)
  | tick p => exact .inl (.beside (front_tick net w p))
  | wait now => exact .inr ⟨now, rfl⟩

/-- In whatever order a world does its work, it takes no number back. -/
theorem Stirs.issues (h : Stirs net w w') : Issues w w' := by
  rcases h.stride_or_wait with hstride | ⟨now, rfl⟩
  · have hdeeds : Front.Deeds (fun _ => True) w.front w'.front :=
      hstride.deeds (by simp [Front.Drafted])
    exact issues_of_deeds hdeeds
  · exact .of_eq rfl

theorem Drifts.issues (h : Drifts net w w') : Issues w w' := by
  induction h with
  | refl => exact .of_eq rfl
  | tail _ stirs ih => exact ih.trans stirs.issues

end World

end ClusterKv

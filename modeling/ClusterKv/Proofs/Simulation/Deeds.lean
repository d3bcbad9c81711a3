import ClusterKv.Proofs.Dispatcher.Turns
import ClusterKv.Proofs.Simulation.Front

/-! # Deeds

Whatever a step of a world or a call does to what callers notice is a row of deeds: turns of the
dispatcher, and submissions that are refused, enter the queue or are blocked. What every deed keeps
is kept by every step and every call. -/

namespace ClusterKv.World

variable {σ : Type}

/-! ## Steps -/

/-- A step of a world, as far as callers notice. -/
inductive Stride (w : World σ) : World σ → Prop where
  | beside {w' : World σ} (same : w'.front = w.front) : Stride w w'
  | turn {w' : World σ} {table : Topology} {input : Dispatcher.Input}
      (running : w.dispatcher.stopped = false) (other : input ≠ .accept)
      (lasting : input ≠ .shutdown) (turned : w'.front = w.front.turn table input) : Stride w w'
  | accept (running : w.dispatcher.stopped = false)
      (accepting : w.dispatcher.waitingTotal < w.config.maxWaiting)
      (filled : w.dispatcher.inbound ≠ []) : Stride w (w.turn .accept).unblock
  | stop (running : w.dispatcher.stopped = false) : Stride w w.stopDispatcher

section

variable {net : Network σ} {w w' : World σ}

/-- What a turn of the dispatcher can be about. -/
theorem dispatcherStep?_cases (h : w.dispatcherStep? = some w') :
    w.dispatcher.stopped = false ∧
      ((w.stopRequests ≠ [] ∨ w.dropped = true) ∧ w' = w.stopDispatcher ∨
        (∃ event rest, w.taskEvents = event :: rest ∧
          w' = { w with taskEvents := rest }.turn (.task event)) ∨
        (∃ event rest, w.nodeEvents = event :: rest ∧
          w' = { w with nodeEvents := rest }.turn (.node event)) ∨
        w.dispatcher.waitingTotal < w.config.maxWaiting ∧ w.dispatcher.inbound ≠ [] ∧
          w' = (w.turn .accept).unblock) := by
  unfold dispatcherStep? at h
  split at h
  · cases h
  next hrunning =>
  have hrunning : w.dispatcher.stopped = false := by simp at hrunning; exact hrunning.2
  refine ⟨hrunning, ?_⟩
  split at h
  · next hasked => exact .inl ⟨.inl (by simpa using hasked), (Option.some.inj h).symm⟩
  split at h
  · next hevents => exact .inr (.inl ⟨_, _, hevents, (Option.some.inj h).symm⟩)
  · next hevents => exact .inr (.inr (.inl ⟨_, _, hevents, (Option.some.inj h).symm⟩))
  split at h
  · cases h
  next hopen =>
  split at h
  · next hsome =>
    simp only [Dispatcher.isAccepting, Bool.or_eq_true, Bool.not_eq_true', decide_eq_false_iff_not,
      not_or, not_not] at hopen
    exact .inr (.inr (.inr ⟨hopen.2, by simpa using hsome, (Option.some.inj h).symm⟩))
  split at h
  · next hlast =>
    have hdropped : w.dropped = true := by simp at hlast; exact hlast.1
    exact .inl ⟨.inr hdropped, (Option.some.inj h).symm⟩
  · cases h

theorem dispatcherStep?_stride (h : w.dispatcherStep? = some w') : Stride w w' := by
  obtain ⟨hrunning, hcases⟩ := dispatcherStep?_cases h
  rcases hcases with
    ⟨-, rfl⟩ | ⟨event, rest, -, rfl⟩ | ⟨event, rest, -, rfl⟩ | ⟨haccepting, hfilled, rfl⟩
  · exact .stop hrunning
  · exact .turn hrunning (by simp) (by simp) (front_turn _ _)
  · exact .turn hrunning (by simp) (by simp) (front_turn _ _)
  · exact .accept hrunning haccepting hfilled

theorem agendaStep?_stride (h : w.agendaStep? net = some w') : Stride w w' := by
  unfold agendaStep? at h
  split at h
  · split at h
    · cases h
      exact .beside (front_run net _ _)
    · cases h
  · cases h

theorem jobStep?_stride (h : w.jobStep? net = some w') : Stride w w' := by
  unfold jobStep? at h
  split at h
  · cases h
    exact .beside (front_run net _ _)
  · cases h
    exact .beside (front_enter net w _ _)
  · cases h

/-- What is left when everything else is done. -/
theorem idleStep?_cases (h : w.idleStep? net = some w') :
    w' = { w with poller := none } ∨ (∃ p, w' = w.tick net p) ∨
      w.dispatcher.stopped = false ∧ w' = w.turn .timers := by
  unfold idleStep? at h
  split at h
  · next polled hpoll =>
    obtain rfl := Option.some.inj h
    unfold pollStep? at hpoll
    split at hpoll
    · cases hpoll
    split at hpoll
    · cases hpoll
    split at hpoll
    · exact .inl (Option.some.inj hpoll).symm
    split at hpoll
    · exact .inr (.inl ⟨_, (Option.some.inj hpoll).symm⟩)
    · cases hpoll
  · split at h
    · next hdue =>
      have hrunning : w.dispatcher.stopped = false := by simp at hdue; exact hdue.1.2
      exact .inr (.inr ⟨hrunning, (Option.some.inj h).symm⟩)
    · cases h

theorem idleStep?_stride (h : w.idleStep? net = some w') : Stride w w' := by
  rcases idleStep?_cases h with rfl | ⟨p, rfl⟩ | ⟨hrunning, rfl⟩
  · exact .beside rfl
  · exact .beside (front_tick net w p)
  · exact .turn hrunning (by simp) (by simp) (front_turn _ _)

/-- An alarm that has gone off brings a turn of the dispatcher, the timers' among them. -/
theorem alarmStep?_cases (h : w.alarmStep? = some w') :
    w.dispatcherStep? = some w' ∨
      w.dispatcher.stopped = false ∧ w' = { w.turn .timers with awake := true } := by
  unfold alarmStep? at h
  split at h
  · split at h
    · next hstep => exact .inl (hstep.trans h)
    · split at h
      · next hdue =>
        have hrunning : w.dispatcher.stopped = false := by simp at hdue; exact hdue.1.2
        exact .inr ⟨hrunning, (Option.some.inj h).symm⟩
      · cases h
  · cases h

theorem alarmStep?_stride (h : w.alarmStep? = some w') : Stride w w' := by
  rcases alarmStep?_cases h with hstep | ⟨hrunning, rfl⟩
  · exact dispatcherStep?_stride hstep
  · exact .turn hrunning (by simp) (by simp) (front_turn w .timers)

/-- What a step can be. -/
theorem step?_cases (h : w.step? net = some w') :
    w.alarmStep? = some w' ∨ w.agendaStep? net = some w' ∨ w.dispatcherStep? = some w' ∨
      w.jobStep? net = some w' ∨ w.idleStep? net = some w' := by
  simp only [step?, Option.orElse_eq_orElse, Option.orElse_eq_or, Option.or_eq_some_iff] at h
  rcases h with h | ⟨-, h | ⟨-, h | ⟨-, h | ⟨-, h⟩⟩⟩⟩ <;> simp only [h, true_or, or_true]

/-- Where there is no step there is none of any kind. -/
theorem step?_eq_none_iff : w.step? net = none ↔
    w.alarmStep? = none ∧ w.agendaStep? net = none ∧ w.dispatcherStep? = none ∧
      w.jobStep? net = none ∧ w.idleStep? net = none := by
  simp only [step?, Option.orElse_eq_orElse, Option.orElse_eq_or, Option.or_eq_none_iff]

theorem step?_stride (h : w.step? net = some w') : Stride w w' := by
  rcases step?_cases h with h | h | h | h | h
  · exact alarmStep?_stride h
  · exact agendaStep?_stride h
  · exact dispatcherStep?_stride h
  · exact jobStep?_stride h
  · exact idleStep?_stride h

end

/-! ## Deeds -/

namespace Front

/-- How many submissions the queue takes. -/
def depth (f : Front) : Nat := max f.config.inboundDepth 1

/-- The command that a draft becomes now. -/
def drafted (f : Front) (draft : Draft) : Command :=
  Command.create f.nextTicket draft.operation draft.target draft.timeout
    (draft.created.getD f.now)

/-- Everything has been ended: what was in the queue, in flight or blocked, and whatever else the
calls that go on then have submitted. -/
structure Halts (f f' : Front) : Prop where
  config : f'.config = f.config
  now : f'.now = f.now
  attended : f'.attended = f.attended
  dispatcher : f'.dispatcher = { f.dispatcher.shutDown with outbox := [] }
  blocked : f'.blocked = []
  tickets : f.nextTicket ≤ f'.nextTicket
  calls : ∀ number call, f'.calls.get? number = some call →
    call.drafts = [] ∨ f.calls.get? number = some call
  kept : ∀ ticket, f.results.has ticket = true → f'.results.has ticket = true
  ended : ∀ ticket result, .resolve ticket result ∈ f.dispatcher.shutDown.outbox →
    f'.results.has ticket = true
  released : ∀ e ∈ f.blocked, f'.results.has e.2.ticket = true
  refused : ∀ ticket, f.nextTicket ≤ ticket → ticket < f'.nextTicket →
    f'.results.has ticket = true

/-- One deed. -/
inductive Deed (permitted : Draft → Prop) : Front → Front → Prop where
  | turn {f table input} (running : f.dispatcher.stopped = false) (other : input ≠ .accept)
      (lasting : input ≠ .shutdown) : Deed permitted f (f.turn table input)
  /-- A submission is accepted, and none is blocked, or the queue is still full. -/
  | accept {f table} (running : f.dispatcher.stopped = false)
      (accepting : f.dispatcher.waitingTotal < f.config.maxWaiting)
      (filled : f.dispatcher.inbound ≠ [])
      (stays : f.blocked = [] ∨ f.depth ≤ (f.turn table .accept).dispatcher.inbound.length) :
      Deed permitted f (f.turn table .accept)
  /-- A submission is accepted, and one that was blocked follows. -/
  | follow {f table number command blocked} (running : f.dispatcher.stopped = false)
      (accepting : f.dispatcher.waitingTotal < f.config.maxWaiting)
      (filled : f.dispatcher.inbound ≠ []) (first : f.blocked = (number, command) :: blocked)
      (room : (f.turn table .accept).dispatcher.inbound.length < f.depth) :
      Deed permitted f
        { f.turn table .accept with
          blocked
          dispatcher := { (f.turn table .accept).dispatcher with
            inbound := (f.turn table .accept).dispatcher.inbound ++ [command] } }
  | stop {f f'} (running : f.dispatcher.stopped = false) (halts : Halts f f') : Deed permitted f f'
  /-- A submission is refused. -/
  | refuse {f error} :
      Deed permitted f
        { f with
          nextTicket := f.nextTicket + 1
          results := f.results.put f.nextTicket (.error error, f.now) }
  /-- A submission enters the queue. -/
  | enter {f draft} (allowed : permitted draft) (running : f.dispatcher.stopped = false)
      (vacant : f.blocked = []) (room : f.dispatcher.inbound.length < f.depth) :
      Deed permitted f
        { f with
          nextTicket := f.nextTicket + 1
          dispatcher := { f.dispatcher with
            inbound := f.dispatcher.inbound ++ [f.drafted draft] } }
  /-- A submission is blocked, and its call with it. -/
  | block {f draft number call} (allowed : permitted draft)
      (others : ∀ draft ∈ call.drafts, permitted draft) (running : f.dispatcher.stopped = false)
      (full : f.blocked ≠ [] ∨ f.depth ≤ f.dispatcher.inbound.length) :
      Deed permitted f
        { f with
          nextTicket := f.nextTicket + 1
          calls := f.calls.put number call
          blocked := f.blocked ++ [(number, f.drafted draft)] }
  /-- A call has no more to submit. -/
  | note {f number call} (done : call.drafts = []) :
      Deed permitted f { f with calls := f.calls.put number call }

/-- Deeds take no time. -/
theorem Deed.frame {permitted : Draft → Prop} {f f' : Front} (h : Deed permitted f f') :
    f'.config = f.config ∧ f'.now = f.now ∧ f'.attended = f.attended := by
  cases h with
  | turn | accept | follow | refuse | enter | block | note => exact ⟨rfl, rfl, rfl⟩
  | stop running halts => exact ⟨halts.config, halts.now, halts.attended⟩

/-- No ticket is given out twice. -/
theorem Deed.tickets {permitted : Draft → Prop} {f f' : Front} (h : Deed permitted f f') :
    f.nextTicket ≤ f'.nextTicket := by
  cases h with
  | turn | accept | follow | note => exact Nat.le_refl _
  | refuse | enter | block => exact Nat.le_succ _
  | stop running halts => exact halts.tickets

/-- Some deeds, one after another. -/
abbrev Deeds (permitted : Draft → Prop) := Relation.ReflTransGen (Deed permitted)

/-- All that calls have still to submit is permitted. -/
def Drafted (permitted : Draft → Prop) (f : Front) : Prop :=
  ∀ number call, f.calls.get? number = some call → ∀ draft ∈ call.drafts, permitted draft

/-- A call is put on record, and the others are what they were. -/
theorem Drafted.put {permitted : Draft → Prop} {f f' : Front} {number : Nat} {call : Call}
    (h : Drafted permitted f) (hcalls : f'.calls = f.calls.put number call)
    (hcall : ∀ draft ∈ call.drafts, permitted draft) : Drafted permitted f' := by
  intro other otherCall hother
  rw [hcalls] at hother
  by_cases hnumber : other = number
  · rw [hnumber, Assoc.get?_put_self] at hother
    rw [← Option.some.inj hother]
    exact hcall
  · rw [Assoc.get?_put_of_ne _ _ hnumber] at hother
    exact h other otherCall hother

theorem Deed.drafted {permitted : Draft → Prop} {f f' : Front} (h : Deed permitted f f')
    (hf : Drafted permitted f) : Drafted permitted f' := by
  cases h with
  | turn | accept | follow | refuse | enter => exact hf
  | stop running halts =>
      intro number call hcall draft hdraft
      rcases halts.calls number call hcall with hnone | hold
      · rw [hnone] at hdraft
        cases hdraft
      · exact hf number call hold draft hdraft
  | block allowed others => exact hf.put rfl others
  | note done => exact hf.put rfl (by simp [done])

/-- What one deed keeps, a row of deeds keeps. -/
theorem Deeds.induct {permitted : Draft → Prop} {P : Front → Prop} {f f' : Front}
    (h : Deeds permitted f f') (hstep : ∀ f f', Deed permitted f f' → P f → P f') (hf : P f) :
    P f' := by
  induction h with
  | refl => exact hf
  | tail _ hdeed ih => exact hstep _ _ hdeed ih

end Front

open Front (Deed Deeds Drafted Halts)

/-! ## Submissions are deeds -/

section

variable {permitted : Draft → Prop}

theorem submitDrafts_deeds (number : Nat) (drafts : List Draft) (call : Call) (w : World σ)
    (hdrafts : ∀ draft ∈ drafts, permitted draft) :
    Deeds permitted w.front (submitDrafts number drafts call w).front := by
  induction drafts generalizing call w with
  | nil => exact .single (.note rfl)
  | cons draft rest ih =>
      have hrest : ∀ draft ∈ rest, permitted draft :=
        fun other hother => hdrafts other (List.mem_cons_of_mem _ hother)
      have hdraft := hdrafts draft (List.mem_cons_self ..)
      simp only [submitDrafts]
      split
      · refine .trans ?_ (ih _ _ hrest)
        exact .single .refuse
      split
      · refine .trans ?_ (ih _ _ hrest)
        exact .single .refuse
      next hrunning =>
      have hrunning : w.dispatcher.stopped = false := by simpa using hrunning
      split
      · next hroom =>
        simp only [Bool.and_eq_true, List.isEmpty_iff, decide_eq_true_eq] at hroom
        refine .trans ?_ (ih _ _ hrest)
        exact .single (.enter hdraft hrunning hroom.1 hroom.2)
      · next hfull =>
        refine .single (.block hdraft hrest hrunning ?_)
        simp only [Bool.and_eq_true, List.isEmpty_iff, decide_eq_true_eq, not_and_or,
          Nat.not_lt] at hfull
        exact hfull

theorem startCall_deeds (w : World σ) (number : Nat) {drafts : List Draft}
    (hdrafts : ∀ draft ∈ drafts, permitted draft) :
    Deeds permitted w.front (w.startCall number drafts).front :=
  submitDrafts_deeds number drafts _ w hdrafts

theorem resumeCall_deeds (w : World σ) (number : Nat) (hw : Drafted permitted w.front) :
    Deeds permitted w.front (w.resumeCall number).front := by
  unfold resumeCall
  split
  · exact .refl
  · next call hcall => exact submitDrafts_deeds _ _ _ w (hw number call hcall)

/-! ## The end is one deed -/

/-- A dispatcher that has stopped refuses whatever is submitted. -/
structure Refuses (f f' : Front) : Prop where
  config : f'.config = f.config
  now : f'.now = f.now
  attended : f'.attended = f.attended
  dispatcher : f'.dispatcher = f.dispatcher
  blocked : f'.blocked = f.blocked
  tickets : f.nextTicket ≤ f'.nextTicket
  calls : ∀ number call, f'.calls.get? number = some call →
    call.drafts = [] ∨ f.calls.get? number = some call
  kept : ∀ ticket, f.results.has ticket = true → f'.results.has ticket = true
  refused : ∀ ticket, f.nextTicket ≤ ticket → ticket < f'.nextTicket →
    f'.results.has ticket = true

theorem Refuses.refl (f : Front) : Refuses f f where
  config := rfl
  now := rfl
  attended := rfl
  dispatcher := rfl
  blocked := rfl
  tickets := Nat.le_refl _
  calls _ _ h := .inr h
  kept _ h := h
  refused _ hge hlt := absurd hlt (Nat.not_lt.mpr hge)

theorem Refuses.trans {f f' f'' : Front} (h : Refuses f f') (h' : Refuses f' f'') :
    Refuses f f'' where
  config := h'.config.trans h.config
  now := h'.now.trans h.now
  attended := h'.attended.trans h.attended
  dispatcher := h'.dispatcher.trans h.dispatcher
  blocked := h'.blocked.trans h.blocked
  tickets := Nat.le_trans h.tickets h'.tickets
  calls number call hcall := by
    rcases h'.calls number call hcall with hnone | hold
    · exact .inl hnone
    · exact h.calls number call hold
  kept ticket hticket := h'.kept ticket (h.kept ticket hticket)
  refused ticket hge hlt := by
    by_cases hfirst : ticket < f'.nextTicket
    · exact h'.kept ticket (h.refused ticket hge hfirst)
    · exact h'.refused ticket (Nat.le_of_not_lt hfirst) hlt

theorem resolve_refuses (w : World σ) (ticket : Nat) (result : Except Error Reply) :
    Refuses w.front (w.resolve ticket result).front := by
  refine { Refuses.refl w.front with kept := ?_, refused := ?_ }
  · intro other hother
    exact (Assoc.has_put _ _ _ _).mpr (.inr hother)
  · intro other hge hlt
    exact absurd hlt (Nat.not_lt.mpr hge)

theorem refuse_refuses (w : World σ) (result : Except Error Reply) :
    Refuses w.front
      ({ w with nextTicket := w.nextTicket + 1 }.resolve w.nextTicket result).front := by
  refine { Refuses.refl w.front with tickets := Nat.le_succ _, kept := ?_, refused := ?_ }
  · intro other hother
    exact (Assoc.has_put _ _ _ _).mpr (.inr hother)
  · intro other hge hlt
    exact (Assoc.has_put _ _ _ _).mpr (.inl (Nat.le_antisymm hge (Nat.le_of_lt_succ hlt)))

theorem submitDrafts_refuses (number : Nat) (drafts : List Draft) (call : Call) (w : World σ)
    (hstopped : w.dispatcher.stopped = true) :
    Refuses w.front (submitDrafts number drafts call w).front := by
  induction drafts generalizing call w with
  | nil =>
      refine { Refuses.refl w.front with calls := ?_ }
      intro other otherCall hother
      by_cases hnumber : other = number
      · rw [hnumber] at hother
        simp only [submitDrafts, Assoc.get?_put_self, Option.some.injEq] at hother
        exact .inl (by rw [← hother])
      · simp only [submitDrafts, Assoc.get?_put_of_ne _ _ hnumber] at hother
        exact .inr hother
  | cons draft rest ih =>
      simp only [submitDrafts, hstopped, ite_true]
      split
      · exact (refuse_refuses w _).trans (ih _ _ hstopped)
      · exact (refuse_refuses w _).trans (ih _ _ hstopped)

theorem resumeCall_refuses (w : World σ) (number : Nat) (hstopped : w.dispatcher.stopped = true) :
    Refuses w.front (w.resumeCall number).front := by
  unfold resumeCall
  split
  · exact .refl _
  · exact submitDrafts_refuses _ _ _ w hstopped

/-- The blocked submissions are refused, and their calls go on. -/
theorem releases (blocked : List (Nat × Command)) (w : World σ)
    (hstopped : w.dispatcher.stopped = true) :
    Refuses w.front (blocked.foldl
        (fun w e => (w.resolve e.2.ticket (.error .shutdown)).resumeCall e.1) w).front ∧
      ∀ e ∈ blocked, (blocked.foldl
        (fun w e => (w.resolve e.2.ticket (.error .shutdown)).resumeCall e.1) w).results.has
          e.2.ticket = true := by
  induction blocked generalizing w with
  | nil => exact ⟨.refl _, by simp⟩
  | cons e rest ih =>
      have hresolved := resolve_refuses w e.2.ticket (.error .shutdown)
      have hresumed := resumeCall_refuses (w.resolve e.2.ticket (.error .shutdown)) e.1 hstopped
      have hfirst := hresolved.trans hresumed
      have hstill := (congrArg Dispatcher.stopped hfirst.dispatcher).trans hstopped
      obtain ⟨hrest, htold⟩ := ih _ hstill
      refine ⟨hfirst.trans hrest, ?_⟩
      intro other hother
      rcases List.mem_cons.mp hother with rfl | hother
      · exact hrest.kept _ (hresumed.kept _ ((Assoc.has_put _ _ _ _).mpr (.inl rfl)))
      · exact htold other hother

theorem stopDispatcher_halts (w : World σ) : Halts w.front w.stopDispatcher.front := by
  have hturn := front_turn w .shutdown
  simp only [Front.turn, Front.mk.injEq] at hturn
  obtain ⟨hconfig, hnow, hdispatcher, hattended, htickets, hcalls, hblocked, hresults⟩ := hturn
  have hstopped : (w.turn .shutdown).dispatcher.stopped = true := by
    rw [hdispatcher]
    simp [Dispatcher.turn, Dispatcher.shutDown_eq]
  obtain ⟨hrefuses, hreleased⟩ := releases (w.turn .shutdown).blocked
    { w.turn .shutdown with
      taskEvents := [], nodeEvents := [], stopRequests := [], blocked := []
      stops := w.stopRequests.foldl (fun stops number => stops.put number (w.turn .shutdown).now)
        (w.turn .shutdown).stops } hstopped
  refine ⟨hrefuses.config.trans hconfig, hrefuses.now.trans hnow,
    hrefuses.attended.trans hattended, hrefuses.dispatcher.trans hdispatcher, hrefuses.blocked,
    ?_, ?_, ?_, ?_, ?_, ?_⟩
  · exact Nat.le_trans (Nat.le_of_eq htickets.symm) hrefuses.tickets
  · intro number call hcall
    refine (hrefuses.calls number call hcall).imp_right fun hold => ?_
    exact (congrArg (Assoc.get? · number) hcalls).symm.trans hold
  · intro ticket hticket
    refine hrefuses.kept ticket ?_
    simp only [hresults, has_record]
    exact .inl hticket
  · intro ticket result hresult
    refine hrefuses.kept ticket ?_
    simp only [hresults, has_record]
    exact .inr ⟨result, List.mem_reverse.mpr hresult⟩
  · intro e he
    exact hreleased e (hblocked ▸ he)
  · intro ticket hge
    exact hrefuses.refused ticket (Nat.le_trans (Nat.le_of_eq htickets) hge)

/-! ## Steps are deeds -/

theorem accept_deeds {w : World σ} (hw : Drafted permitted w.front)
    (running : w.dispatcher.stopped = false)
    (accepting : w.dispatcher.waitingTotal < w.config.maxWaiting)
    (filled : w.dispatcher.inbound ≠ []) :
    Deeds permitted w.front (w.turn .accept).unblock.front := by
  have hturn := front_turn w .accept
  have hblocked : (w.turn .accept).blocked = w.blocked := congrArg Front.blocked hturn
  have hdispatcher : (w.turn .accept).dispatcher = (w.front.turn _ .accept).dispatcher :=
    congrArg Front.dispatcher hturn
  have hdepth : max (w.turn .accept).config.inboundDepth 1 = w.front.depth :=
    congrArg Front.depth hturn
  unfold unblock
  split
  · next hnone =>
    rw [hturn]
    exact .single (.accept running accepting filled (.inl (hblocked.symm.trans hnone)))
  next number command blocked hfirst =>
  rw [hblocked] at hfirst
  split
  · next hroom =>
    rw [hdepth, hdispatcher] at hroom
    refine .head (.follow running accepting filled hfirst hroom) ?_
    let w₁ : World σ :=
      { w.turn .accept with
        blocked
        dispatcher := { (w.turn .accept).dispatcher with
          inbound := (w.turn .accept).dispatcher.inbound ++ [command] } }
    have hcalls : w₁.calls = w.calls := congrArg Front.calls hturn
    have hdrafted : Drafted permitted w₁.front := fun other call hcall =>
      hw other call ((congrArg (Assoc.get? · other) hcalls).symm.trans hcall)
    rw [← hturn]
    exact resumeCall_deeds w₁ number hdrafted
  · next hfull =>
    rw [hdepth, hdispatcher] at hfull
    rw [hturn]
    exact .single (.accept running accepting filled (.inr (Nat.le_of_not_lt hfull)))

theorem Stride.deeds {w w' : World σ} (h : Stride w w') (hw : Drafted permitted w.front) :
    Deeds permitted w.front w'.front := by
  cases h with
  | beside same => rw [same]
  | turn running other lasting turned =>
      rw [turned]
      exact .single (.turn running other lasting)
  | accept running accepting filled => exact accept_deeds hw running accepting filled
  | stop running => exact .single (.stop running (stopDispatcher_halts w))

end

end ClusterKv.World

import ClusterKv.Client.Call
import ClusterKv.Proofs.Dispatcher.Attempts
import ClusterKv.Proofs.Simulation.Errands
import ClusterKv.Proofs.Simulation.Front

/-! # The work of sending

Every piece of work takes attempts up where they are, and leaves them elsewhere on their way or ends
them. -/

namespace ClusterKv.World

open Desk (Errands)

variable {σ : Type} {net : Network σ} {w : World σ} {P : Nat → Attempt → Prop} {hand : List Nat}
  {node : NodeId} {s : WriteRecord}

/-! ## What attempts have nothing to do with -/

@[simp] theorem desk_report (w : World σ) (event : NodeEvent) : (w.report event).desk = w.desk := by
  unfold report
  split <;> rfl

@[simp] theorem desk_shut (w : World σ) (node : NodeId) (generation : Nat) (reason : String) :
    (w.shut node generation reason).1.desk = w.desk := by
  unfold shut
  split
  · rfl
  · dsimp only
    split
    · rfl
    · simp

@[simp] theorem desk_close (w : World σ) (node : NodeId) (generation : Nat) :
    (w.close node generation).desk = w.desk := by
  simp [close]

@[simp] theorem desk_perform (net : Network σ) (w : World σ) (node : NodeId) (generation : Nat)
    (act : Act) : (w.perform net node generation act).desk = w.desk := by
  cases act <;> simp [perform, sever]

theorem finishFetch_errands (h : Errands P w.desk hand) (purpose : Purpose)
    (fetched : Except TopologyError Topology) :
    Errands P (w.finishFetch purpose fetched).desk hand := by
  cases purpose with
  | dispatcher =>
      simp only [finishFetch]
      split
      · exact h
      · refine h.hear fun event hevent => ?_
        rcases List.mem_append.mp hevent with hold | hnew
        · exact .inl hold
        · exact .inr (List.mem_singleton.mp hnew ▸ rfl)
  | call | poller => exact h

/-- An attempt is over, and the dispatcher is told so if it listens. -/
theorem conclude_errands {id : Nat} {event : TaskEvent} (h : Errands P w.desk [id])
    (hevent : event.attempt? = some id)
    (hreports : ∀ s ∈ w.writeLog, s.id = id → s.Reports ⟨w.now, id, event⟩) :
    Errands P (w.conclude id event).desk [] := by
  unfold conclude
  dsimp only
  split
  · exact h.conclude hevent (.inl rfl) hreports
  · exact h.conclude hevent (.inr rfl) hreports

/-- Work that neither starts an attempt nor ends one may be put on the agenda. -/
theorem schedule_errands (h : Errands P w.desk hand) {time : Instant} (hlater : w.now ≤ time)
    {job : Job} (hstarts : job.starts? = none) (hends : job.ends? = none)
    (hdials : job.dialsAt? = none) : Errands P (w.schedule time job).desk hand := by
  refine Errands.schedule (by simpa [hends] using h) hlater hstarts ?_ (by simp [hends])
  rintro caller node generation result rfl
  cases hdials

/-- What follows from a request is put on the agenda, if it does not happen at once. -/
theorem performAll_errands (net : Network σ) (h : Errands P w.desk hand) (node : NodeId)
    (generation : Nat) (acts : List (Duration × Act)) :
    Errands P (w.performAll net node generation acts).desk hand ∧
      (w.performAll net node generation acts).now = w.now ∧
      (w.performAll net node generation acts).writeLog = w.writeLog := by
  induction acts generalizing w with
  | nil => exact ⟨h, rfl, rfl⟩
  | cons act rest ih =>
      obtain ⟨after, act⟩ := act
      simp only [performAll]
      split
      · have hdesk := desk_perform net w node generation act
        obtain ⟨hrest, hnow, hlog⟩ := ih (hdesk ▸ h)
        exact ⟨hrest, hnow.trans (congrArg Desk.now hdesk),
          hlog.trans (congrArg Desk.writeLog hdesk)⟩
      · exact ih (schedule_errands h (Nat.le_add_right _ _) rfl rfl rfl)

/-! ## Writing -/

/-- An attempt that has written is over. -/
theorem report_errands {event : TaskEvent} (h : Errands P w.desk [s.id]) (hs : s ∈ w.writeLog)
    (hevent : event.attempt? = some s.id) (hreports : s.Reports ⟨w.now, s.id, event⟩) :
    Errands P (w.conclude s.id event).desk [] := by
  refine conclude_errands h hevent fun other hother hid => ?_
  obtain rfl := h.unique hs hother hid
  exact hreports

/-- Writing that is done is reported. -/
theorem written_errands (h : Errands P w.desk [s.id]) (hs : s ∈ w.writeLog)
    (hdone : s.finish = w.now) (hinTime : s.finish ≤ s.attempt.deadline)
    (result : Except ConnectionError (List (Duration × Act))) :
    Errands P (w.written net s.id s.generation result).desk [] := by
  have hattempt : w.attempts.get? s.id = some s.attempt := h.current hs (by simp)
  unfold written
  simp only [hattempt]
  cases result with
  | error error =>
      refine report_errands h hs rfl ?_
      rw [← hdone]
      exact .failed hinTime
  | ok acts =>
      let logged := { w with
        sentLog := ⟨w.now, s.attempt.node, s.generation, s.attempt.request⟩ :: w.sentLog }
      have hlogged : Errands P logged.desk [s.id] := h
      obtain ⟨hacts, hnow, hlog⟩ :=
        performAll_errands net hlogged s.attempt.node s.generation acts
      refine report_errands hacts ?_ rfl ?_
      · rw [hlog]
        exact hs
      · rw [hnow]
        change s.Reports ⟨w.now, _, _⟩
        rw [← hdone]
        exact .sent hinTime

/-- Writing begins, if the deadline has not passed, and goes on until it is done or given up. -/
theorem write_errands {id : Nat} {attempt : Attempt} (h : Errands P w.desk [id])
    (hattempt : w.attempts.get? id = some attempt) (hnew : ∀ s ∈ w.writeLog, s.id ≠ id)
    (generation : Nat) : Errands P (w.write net id generation attempt).desk [] := by
  have hdesk : (if net.isUp w.network attempt.node then w
      else (w.shut attempt.node generation "node stopped").1).desk = w.desk := by
    split
    · rfl
    · exact desk_shut ..
  unfold write
  split
  · exact conclude_errands h rfl fun s hs hid => absurd hid (hnew s hs)
  next hlive =>
  dsimp only
  generalize (if net.isUp w.network attempt.node then w
    else (w.shut attempt.node generation "node stopped").1) = w₁ at hdesk ⊢
  rw [← hdesk] at h
  have hnow : w₁.now = w.now := congrArg Desk.now hdesk
  have hlog : w₁.writeLog = w.writeLog := congrArg Desk.writeLog hdesk
  have hget : w₁.attempts.get? id = some attempt :=
    (congrArg (fun d : Desk => d.attempts.get? id) hdesk).trans hattempt
  have hlive : w₁.now < attempt.deadline := hnow ▸ Nat.lt_of_not_le hlive
  rw [← hlog] at hnew
  have hbegun : ∀ finish, Errands P
      { w₁.desk with writeLog := ⟨w₁.now, finish, id, generation, attempt⟩ :: w₁.writeLog } [id] :=
    fun _ => h.startWriting hget hnew hlive
  split
  · exact report_errands (w := w₁.startWriting id generation attempt w₁.now)
      (s := ⟨w₁.now, w₁.now, id, generation, attempt⟩) (hbegun w₁.now) List.mem_cons_self rfl
      (.failed (Nat.le_of_lt hlive))
  let plan : WritePlan := (net.write w₁.network attempt.node attempt.request).2
  let begun : WriteRecord := ⟨w₁.now, w₁.now + plan.stall.nanos, id, generation, attempt⟩
  let started : World σ :=
    { w₁ with network := (net.write w₁.network attempt.node attempt.request).1 }.startWriting
      id generation attempt begun.finish
  split
  · next hzero =>
    have hdone : begun.finish = w₁.now := congrArg (w₁.now + ·) hzero
    exact written_errands (w := started) (s := begun) (hbegun begun.finish) List.mem_cons_self hdone
      (hdone ▸ Nat.le_of_lt hlive) plan.result
  split
  · next hinTime =>
    have hready : Errands P _ ((Job.written id generation plan.result).ends?.toList ++ []) :=
      hbegun begun.finish
    refine hready.schedule (Nat.le_add_right w₁.now plan.stall.nanos) rfl nofun ?_
    rintro _ ⟨⟩
    exact ⟨begun, List.mem_cons_self, rfl, .written (s := begun) hinTime⟩
  · next hlate =>
    have hready : Errands P _ ((Job.expired id).ends?.toList ++ []) := hbegun begun.finish
    refine hready.schedule (Nat.le_of_lt hlive) rfl nofun ?_
    rintro _ ⟨⟩
    exact ⟨begun, List.mem_cons_self, rfl, .expired (s := begun) (Nat.lt_of_not_le hlate)⟩

/-! ## Connecting -/

variable {caller generation : Nat}

/-- Who has a connection writes, and who gets none is over. -/
theorem obtained_errands (h : Errands P w.desk [caller]) (hnew : ∀ s ∈ w.writeLog, s.id ≠ caller)
    (result : Except ConnectionError Nat) :
    Errands P (w.obtained net caller result).desk [] := by
  obtain ⟨attempt, hattempt⟩ := h.present caller (by simp)
  replace hattempt : w.attempts.get? caller = some attempt := hattempt
  unfold obtained
  rw [hattempt]
  cases result with
  | ok generation => exact write_errands h hattempt hnew generation
  | error error => exact conclude_errands h rfl fun s hs hid => absurd hid (hnew s hs)

/-- A connect is over. -/
theorem dialed_errands (h : Errands P w.desk [])
    (hdialing : (w.pool.slot node).creation = .dialing caller generation)
    (hnone : ∀ e ∈ w.agenda, e.2.dialsAt? ≠ some node) (result : Except ConnectionError Unit) :
    Errands P (w.dialed net caller node generation result).desk [] := by
  have hleaves := Pool.dialed_leaves result hdialing
  have hnew : ∀ s ∈ w.writeLog, s.id ≠ caller := by
    rintro s hs rfl
    refine h.unwritten s hs (List.mem_append_right _ ?_)
    exact hleaves.callers.mem_iff.mp List.mem_cons_self
  have hpassed : Errands P { w.desk with pool := (w.pool.dialed node generation result).1 }
      [caller] := by
    refine h.pass (hleaves.keys h.slots) hleaves.callers ?_ (by simp)
    intro time other place number outcome he
    rw [hleaves.others place fun hplace => hnone _ he (by rw [Job.dialsAt?, hplace])]
    exact h.dials time other place number outcome he
  have hobtained : ∀ (w' : World σ) (got : Except ConnectionError Nat),
      w'.desk = { w.desk with pool := (w.pool.dialed node generation result).1 } →
        Errands P (w'.obtained net caller got).desk [] := by
    intro w' got hdesk
    refine obtained_errands (hdesk ▸ hpassed) ?_ got
    rw [show w'.writeLog = w.writeLog from congrArg Desk.writeLog hdesk]
    exact hnew
  have hclosed : ∀ (w' : World σ) (late : Bool),
      (if late then w'.close node generation else w').desk = w'.desk := by
    intro w' late
    split
    · exact desk_close ..
    · rfl
  exact hobtained _ _ (hclosed _ _)

/-- Whoever is told something does it. -/
theorem follow_errands {come : List Nat} {pool : Pool} {lease : Lease}
    (htold : Pool.Told w.pool caller node come (pool, lease)) (h : Errands P w.desk come)
    (hnew : ∀ s ∈ w.writeLog, s.id ∉ come) :
    Errands P ({ w with pool }.follow net caller node lease).desk [] := by
  have hfresh : ∀ {pool}, Pool.Passes w.pool pool come [caller] →
      ∀ s ∈ w.writeLog, s.id ≠ caller := by
    rintro pool hpasses s hs rfl
    rcases List.mem_append.mp (hpasses.callers.mem_iff.mp List.mem_cons_self) with hcome | hold
    · exact hnew s hs hcome
    · exact h.unwritten s hs (List.mem_append_right _ hold)
  cases htold with
  | ready passes =>
      exact obtained_errands (w := { w with pool }) (h.passes passes hnew) (hfresh passes) _
  | refused passes =>
      exact obtained_errands (w := { w with pool }) (h.passes passes hnew) (hfresh passes) _
  | waits passes => exact h.passes passes hnew
  | @dials _ generation passes free begun =>
      have hnone : ∀ e ∈ w.agenda, e.2.dialsAt? ≠ some node := by
        rintro ⟨time, job⟩ he hdials
        cases job with
        | dialed other place number result =>
            obtain rfl : place = node := Option.some.inj hdials
            exact free _ _ (h.dials time other place number result he)
        | start | fetch | written | expired | act | fetched => cases hdials
      let dialing : World σ :=
        { w with
          pool
          network := (net.dial w.network node).1
          dialLog := ⟨w.now, node, generation⟩ :: w.dialLog }
      have hdialing : Errands P dialing.desk [] := h.passes passes hnew
      simp only [follow]
      split
      · exact hdialing
      next delay result _ =>
      split
      · exact dialed_errands (w := dialing) hdialing begun hnone result
      · have hready : Errands P dialing.desk
            ((Job.dialed caller node generation result).ends?.toList ++ []) := hdialing
        refine hready.schedule (Nat.le_add_right w.now delay.nanos) rfl ?_ (by simp [Job.ends?])
        rintro _ _ _ _ ⟨⟩
        exact ⟨begun, hnone⟩

/-- An attempt starts. -/
theorem acquire_errands (h : Errands P w.desk [caller]) (hnew : ∀ s ∈ w.writeLog, s.id ≠ caller) :
    Errands P (w.acquire net caller node).desk [] :=
  follow_errands (Pool.acquire_told w.pool _ caller node) h (by simpa using hnew)

/-- A caller goes on whose turn it is. -/
theorem enter_errands (h : Errands P w.desk [])
    (hgranted : (w.pool.slot node).creation = .granted caller) :
    Errands P (w.enter net caller node).desk [] :=
  follow_errands (Pool.enter_told hgranted) h (by simp)

/-! ## Fetching -/

theorem startFetch_errands (h : Errands P w.desk []) (purpose : Purpose) :
    Errands P (w.startFetch net purpose).desk [] := by
  let started : World σ :=
    { w with network := (net.fetch w.network).1, refresher := w.refresher.start }
  simp only [startFetch]
  split
  · exact finishFetch_errands (w := started) h purpose _
  · exact schedule_errands h (Nat.le_add_right _ _) rfl rfl rfl

/-! ## Work at hand and on the agenda -/

/-- A piece of work at hand is done. -/
theorem job_errands {before after : List Job} {job : Job} (h : Errands P w.desk [])
    (hjobs : w.jobs = before ++ job :: after) :
    Errands P ({ w with jobs := before ++ after }.run net job).desk [] := by
  have hpicked := h.pick hjobs
  rcases h.jobs job (by simp [hjobs]) with ⟨id, rfl⟩ | ⟨purpose, rfl⟩
  · obtain ⟨attempt, hattempt⟩ := hpicked.present id (by simp [Job.starts?])
    replace hattempt : w.attempts.get? id = some attempt := hattempt
    simp only [run, hattempt]
    refine acquire_errands hpicked ?_
    rintro s hs rfl
    refine h.unwritten s hs (List.mem_append_left _ ?_)
    exact List.mem_filterMap.mpr ⟨.start s.id, by simp [hjobs], rfl⟩
  · exact startFetch_errands hpicked purpose

/-- Something on the agenda happens. -/
theorem due_errands {before after : List (Instant × Job)} {time : Instant} {job : Job}
    (h : Errands P w.desk []) (hagenda : w.agenda = before ++ (time, job) :: after)
    (hdue : time ≤ w.now) :
    Errands P ({ w with agenda := before ++ after }.run net job).desk [] := by
  let taken : World σ := { w with agenda := before ++ after }
  have htaken : Errands P taken.desk job.ends?.toList := h.takeUp hagenda
  have hmem : (time, job) ∈ w.agenda := by simp [hagenda]
  have hnow : time = w.now := Nat.le_antisymm hdue (h.punctual _ hmem)
  cases job with
  | start id => exact absurd (h.later _ hmem) (by simp [Job.starts?])
  | fetch purpose => exact startFetch_errands (w := taken) htaken purpose
  | dialed caller node generation result =>
      have honce : (((time, Job.dialed caller node generation result) ::
          (before ++ after)).filterMap fun e => e.2.dialsAt?).Nodup := by
        have hperm : w.agenda.Perm _ := hagenda ▸ List.perm_middle
        exact (hperm.filterMap _).nodup_iff.mp h.dialsOnce
      have hnone := (List.nodup_cons.mp honce).1
      exact dialed_errands (w := taken) htaken (h.dials time caller node generation result hmem)
        (fun e he hdials => hnone (List.mem_filterMap.mpr ⟨e, he, hdials⟩)) result
  | written id generation result =>
      obtain ⟨s, hs, rfl, hends⟩ := h.writing _ hmem id rfl
      cases hends with
      | written inTime => exact written_errands (w := taken) htaken hs hnow inTime result
  | expired id =>
      obtain ⟨s, hs, rfl, hends⟩ := h.writing _ hmem id rfl
      cases hends with
      | expired late =>
          refine report_errands (w := taken) htaken hs rfl ?_
          change s.Reports ⟨w.now, _, _⟩
          rw [← hnow]
          exact .abandoned late
  | act node generation act =>
      simp only [run, desk_perform]
      exact htaken
  | fetched purpose result => exact finishFetch_errands (w := taken) htaken purpose result

/-! ## Turns of the dispatcher -/

theorem closeAll_errands (h : Errands P w.desk []) : Errands P w.closeAll.desk [] := by
  have hclosed : ∀ (held : List (NodeId × Nat)) (w : World σ),
      (held.foldl (fun w e => w.close e.1 e.2) w).desk = w.desk := by
    intro held
    induction held with
    | nil => exact fun _ => rfl
    | cons e rest ih => exact fun w => (ih _).trans (desk_close w e.1 e.2)
  unfold closeAll
  dsimp only
  rw [hclosed]
  exact h.passes (Pool.closeAll_passes w.pool) (by simp)

theorem invalidateGeneration_errands (h : Errands P w.desk []) (node : NodeId) (generation : Nat) :
    Errands P (w.invalidateGeneration node generation).desk [] := by
  have hpassed : Errands P
      { w.desk with pool := (w.pool.invalidateGeneration node generation).1 } [] :=
    h.passes (Pool.invalidateGeneration_passes w.pool node generation) (by simp)
  unfold invalidateGeneration
  dsimp only
  cases (w.pool.invalidateGeneration node generation).2 with
  | none => exact hpassed
  | some stale =>
      rw [Option.elim_some, desk_close]
      exact hpassed

/-- What the dispatcher wants done is done. New attempts are on their way then. -/
theorem carryOuts_errands (effects : List Effect) (h : Errands P w.desk [])
    (hnew : ∀ a ∈ ClusterKv.attempts effects, ∀ attempt, ¬P a.1 attempt)
    (honce : ((ClusterKv.attempts effects).map (·.1)).Nodup) :
    Errands (fun id attempt => P id attempt ∨
        .attempt id attempt.node attempt.request attempt.deadline ∈ effects)
      (effects.foldl carryOut w).desk [] := by
  induction effects generalizing w P with
  | nil => exact h.mono fun _ _ hP => .inl hP
  | cons effect rest ih =>
      have hother : effect.attempt? = none → Errands P (w.carryOut effect).desk [] →
          Errands (fun id attempt => P id attempt ∨
              .attempt id attempt.node attempt.request attempt.deadline ∈ effect :: rest)
            ((effect :: rest).foldl carryOut w).desk [] := by
        intro hnone hdone
        have hrest : ClusterKv.attempts (effect :: rest) = ClusterKv.attempts rest :=
          List.filterMap_cons_none hnone
        rw [hrest] at hnew honce
        exact (ih hdone hnew honce).mono fun _ _ hP => hP.imp_right (List.mem_cons_of_mem _)
      cases effect with
      | attempt id node request deadline =>
          let attempt : Attempt := ⟨node, request, deadline⟩
          obtain ⟨hfirst, honce⟩ := List.nodup_cons.mp honce
          have hset : Errands (fun other given => P other given ∨ other = id ∧ given = attempt)
              (w.carryOut (.attempt id node request deadline)).desk [] :=
            h.setOut (hnew (id, request) List.mem_cons_self) (.inr ⟨rfl, rfl⟩) fun _ _ => .inl
          refine (ih hset ?_ honce).mono ?_
          · rintro a ha given (hold | ⟨hid, -⟩)
            · exact hnew a (List.mem_cons_of_mem _ ha) given hold
            · exact hfirst (hid ▸ List.mem_map_of_mem (f := (·.1)) ha)
          · rintro other given ((hold | ⟨rfl, rfl⟩) | hrest)
            · exact .inl hold
            · exact .inr List.mem_cons_self
            · exact .inr (List.mem_cons_of_mem _ hrest)
      | refresh => exact hother rfl (h.fetch .dispatcher)
      | disconnect node generation =>
          exact hother rfl (invalidateGeneration_errands h node generation)
      | closePool => exact hother rfl (closeAll_errands h)
      | resolve ticket result => exact hother rfl h

/-! ## Calls -/

/-- Submissions join the queue of the dispatcher, and have nothing to do with attempts. -/
theorem submitDrafts_apart (number : Nat) (drafts : List Draft) (call : Call) (w : World σ) :
    (submitDrafts number drafts call w).desk = w.desk ∧ ∃ inbound,
      (submitDrafts number drafts call w).dispatcher = { w.dispatcher with inbound } := by
  obtain ⟨_, _, _, _, inbound, hsame⟩ := submitDrafts_frame number drafts call w
  rw [hsame]
  exact ⟨rfl, inbound, rfl⟩

theorem startFlush_apart (w : World σ) (number : Nat) : (w.startFlush number).desk = w.desk ∧
    ∃ inbound, (w.startFlush number).dispatcher = { w.dispatcher with inbound } := by
  unfold startFlush
  split
  · exact ⟨rfl, w.dispatcher.inbound, rfl⟩
  · exact submitDrafts_apart ..

theorem resumeCall_apart (w : World σ) (number : Nat) : (w.resumeCall number).desk = w.desk ∧
    ∃ inbound, (w.resumeCall number).dispatcher = { w.dispatcher with inbound } := by
  obtain ⟨_, _, _, _, inbound, hsame⟩ := resumeCall_frame w number
  rw [hsame]
  exact ⟨rfl, inbound, rfl⟩

theorem unblock_apart (w : World σ) : w.unblock.desk = w.desk ∧
    ∃ inbound, w.unblock.dispatcher = { w.dispatcher with inbound } := by
  obtain ⟨_, _, _, _, inbound, hsame⟩ := unblock_frame w
  rw [hsame]
  exact ⟨rfl, inbound, rfl⟩

theorem desk_stopDispatcher (w : World σ) :
    w.stopDispatcher.desk = { (w.turn .shutdown).desk with taskEvents := [] } := by
  suffices h : ∀ (blocked : List (Nat × Command)) (w : World σ), (blocked.foldl
      (fun w e => (w.resolve e.2.ticket (.error .shutdown)).resumeCall e.1) w).desk = w.desk from
    h _ _
  intro blocked
  induction blocked with
  | nil => exact fun _ => rfl
  | cons e rest ih => exact fun w => (ih _).trans (resumeCall_apart ..).1

end ClusterKv.World

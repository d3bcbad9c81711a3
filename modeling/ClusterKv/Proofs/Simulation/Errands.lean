import ClusterKv.Proofs.Pool.Callers
import ClusterKv.Simulation.Run
import Mathlib.Data.List.Nodup

/-! # Attempts on their way

An attempt is in one place at a time: it has yet to start, or it is at the pool for a connection, or
it writes. Writing begins before the deadline, and whoever writes is on the agenda for when the
writing is done, or for the deadline if that comes first. -/

namespace ClusterKv

/-- The attempt that a piece of work starts. -/
def Job.starts? : Job → Option Nat
  | start id => some id
  | fetch _ | dialed .. | written .. | expired _ | act .. | fetched .. => none

/-- The attempt whose writing is over with a piece of work. -/
def Job.ends? : Job → Option Nat
  | written id .. | expired id => some id
  | start _ | fetch _ | dialed .. | act .. | fetched .. => none

/-- The node to which connecting is over with a piece of work. -/
def Job.dialsAt? : Job → Option NodeId
  | dialed _ node .. => some node
  | start _ | fetch _ | written .. | expired _ | act .. | fetched .. => none

/-- The attempt that a report is about. -/
def TaskEvent.attempt? : TaskEvent → Option Nat
  | sent id _ | sendFailed id .. | abandoned id => some id
  | refreshed _ => none

/-- With this piece of work at this time writing is over: it is done by the deadline, or it is given
up then. -/
inductive WriteRecord.Ends (s : WriteRecord) : Instant → Job → Prop where
  | written {result} (inTime : s.finish ≤ s.attempt.deadline) :
      s.Ends s.finish (.written s.id s.generation result)
  | expired (late : s.attempt.deadline < s.finish) : s.Ends s.attempt.deadline (.expired s.id)

/-- What is reported of an attempt that has written: how the writing ended, or that it was given up
at the deadline. -/
inductive WriteRecord.Reports (s : WriteRecord) : EndRecord → Prop where
  | sent (inTime : s.finish ≤ s.attempt.deadline) :
      s.Reports ⟨s.finish, s.id, .sent s.id s.generation⟩
  | failed {error} (inTime : s.finish ≤ s.attempt.deadline) :
      s.Reports ⟨s.finish, s.id, .sendFailed s.id s.attempt.node (some s.generation) error⟩
  | abandoned (late : s.attempt.deadline < s.finish) :
      s.Reports ⟨s.attempt.deadline, s.id, .abandoned s.id⟩

theorem WriteRecord.Reports.id_eq {s : WriteRecord} {e : EndRecord} (h : s.Reports e) :
    e.id = s.id := by
  cases h <;> rfl

namespace World

/-! ## The agenda -/

section

variable (time : Instant) (job : Job)

theorem insertJob_perm (agenda : List (Instant × Job)) :
    (insertJob time job agenda).Perm ((time, job) :: agenda) := by
  induction agenda with
  | nil => exact .refl _
  | cons e rest ih =>
      unfold insertJob
      split
      · exact .refl _
      · exact (ih.cons e).trans (.swap (time, job) e rest)

theorem insertJob_sorted {agenda : List (Instant × Job)} (h : agenda.Pairwise (·.1 ≤ ·.1)) :
    (insertJob time job agenda).Pairwise (·.1 ≤ ·.1) := by
  induction agenda with
  | nil => exact List.pairwise_singleton _ _
  | cons e rest ih =>
      obtain ⟨hfirst, hrest⟩ := List.pairwise_cons.mp h
      unfold insertJob
      split
      · next hearlier =>
        refine List.pairwise_cons.mpr ⟨List.forall_mem_cons.mpr ⟨Nat.le_of_lt hearlier, ?_⟩, h⟩
        exact fun other hother => Nat.le_trans (Nat.le_of_lt hearlier) (hfirst other hother)
      · next hlater =>
        refine List.pairwise_cons.mpr ⟨?_, ih hrest⟩
        intro other hother
        rcases List.mem_cons.mp ((insertJob_perm time job rest).mem_iff.mp hother) with rfl | hother
        · exact Nat.le_of_not_lt hlater
        · exact hfirst other hother

end

/-! ## The desk -/

/-- What attempts to send have to do with. -/
structure Desk where
  now : Instant
  pool : Pool
  attempts : Assoc Nat Attempt
  jobs : List Job
  agenda : List (Instant × Job)
  taskEvents : List TaskEvent
  writeLog : List WriteRecord
  endLog : List EndRecord

/-- The desk of a world. -/
@[reducible] def desk {σ : Type} (w : World σ) : Desk where
  now := w.now
  pool := w.pool
  attempts := w.attempts
  jobs := w.jobs
  agenda := w.agenda
  taskEvents := w.taskEvents
  writeLog := w.writeLog
  endLog := w.endLog

namespace Desk

/-- The attempts that have not begun to write. -/
def waiting (d : Desk) : List Nat := d.jobs.filterMap Job.starts? ++ d.pool.callers

/-- The attempts that write. -/
def writing (d : Desk) : List Nat := d.agenda.filterMap fun e => e.2.ends?

/-- All the attempts that are on their way. -/
def underWay (d : Desk) : List Nat := d.waiting ++ d.writing

/-- Attempts are on their way, but for one that may be in hand. -/
structure Errands (P : Nat → Attempt → Prop) (d : Desk) (hand : List Nat) : Prop where
  sorted : d.agenda.Pairwise (·.1 ≤ ·.1)
  punctual : ∀ e ∈ d.agenda, d.now ≤ e.1
  jobs : ∀ job ∈ d.jobs, (∃ id, job = .start id) ∨ ∃ purpose, job = .fetch purpose
  later : ∀ e ∈ d.agenda, e.2.starts? = none
  slots : d.pool.slots.keys.Nodup
  /-- Whoever is to be connected at some time is connecting until then. -/
  dials : ∀ time caller node generation result,
    (time, .dialed caller node generation result) ∈ d.agenda →
      (d.pool.slot node).creation = .dialing caller generation
  dialsOnce : (d.agenda.filterMap fun e => e.2.dialsAt?).Nodup
  /-- No attempt is in two places. -/
  once : (hand ++ d.underWay).Nodup
  present : ∀ id ∈ hand ++ d.underWay, ∃ attempt, d.attempts.get? id = some attempt
  known : ∀ id attempt, d.attempts.get? id = some attempt → P id attempt
  /-- Nobody who waits has written already. -/
  unwritten : ∀ s ∈ d.writeLog, s.id ∉ d.waiting
  writing : ∀ e ∈ d.agenda, ∀ id ∈ e.2.ends?, ∃ s ∈ d.writeLog, s.id = id ∧ s.Ends e.1 e.2
  written : ∀ s ∈ d.writeLog, P s.id s.attempt ∧ s.time < s.attempt.deadline ∧
    (d.attempts.get? s.id = some s.attempt ∧ s.id ∈ hand ++ d.writing ∨
      ∃ e ∈ d.endLog, s.Reports e)
  writtenOnce : (d.writeLog.map (·.id)).Nodup
  ended : ∀ e ∈ d.endLog, e.event.attempt? = some e.id ∧ d.attempts.get? e.id = none ∧
    ∃ attempt, P e.id attempt
  endedOnce : (d.endLog.map (·.id)).Nodup
  /-- The dispatcher is told of the ends of attempts as they were. -/
  told : ∀ event ∈ d.taskEvents, event.attempt? = none ∨ ∃ e ∈ d.endLog, e.event = event

namespace Errands

variable {P Q : Nat → Attempt → Prop} {d : Desk} {hand come leave : List Nat} {id : Nat}
  {attempt : Attempt} {time : Instant} {job : Job} {pool : Pool}

theorem mono (h : Errands P d hand) (hPQ : ∀ id attempt, P id attempt → Q id attempt) :
    Errands Q d hand := by
  refine { h with known := ?_, written := ?_, ended := ?_ }
  · exact fun id attempt hid => hPQ id attempt (h.known id attempt hid)
  · intro s hs
    obtain ⟨hP, hrest⟩ := h.written s hs
    exact ⟨hPQ _ _ hP, hrest⟩
  · intro e he
    obtain ⟨hevent, hgone, attempt, hP⟩ := h.ended e he
    exact ⟨hevent, hgone, attempt, hPQ _ _ hP⟩

/-- An attempt has written once at most. -/
theorem unique {s other : WriteRecord} (h : Errands P d hand) (hs : s ∈ d.writeLog)
    (hother : other ∈ d.writeLog) (hid : other.id = s.id) : other = s :=
  List.inj_on_of_nodup_map h.writtenOnce hother hs hid

/-- An attempt that is on its way is not over, if it has written. -/
theorem current {s : WriteRecord} (h : Errands P d hand) (hs : s ∈ d.writeLog)
    (hplace : s.id ∈ hand ++ d.underWay) : d.attempts.get? s.id = some s.attempt := by
  obtain ⟨attempt, hattempt⟩ := h.present s.id hplace
  obtain ⟨-, -, ⟨hget, -⟩ | ⟨e, he, hreports⟩⟩ := h.written s hs
  · exact hget
  · have hgone := (h.ended e he).2.1
    rw [hreports.id_eq, hattempt] at hgone
    cases hgone

/-- Writing goes on until it is done, and no longer than until the deadline. -/
theorem ongoing {s : WriteRecord} (h : Errands P d hand) (hs : s ∈ d.writeLog)
    (hwrites : s.id ∈ d.writing) : d.now ≤ s.finish ∧ d.now ≤ s.attempt.deadline := by
  obtain ⟨e, he, hid⟩ := List.mem_filterMap.mp hwrites
  obtain ⟨other, hother, hsame, hends⟩ := h.writing e he s.id hid
  obtain rfl := h.unique hs hother hsame
  have hpunctual : d.now ≤ e.1 := h.punctual e he
  obtain ⟨time, job⟩ := e
  cases hends with
  | written inTime => exact ⟨hpunctual, Nat.le_trans hpunctual inTime⟩
  | expired late => exact ⟨Nat.le_of_lt (Nat.lt_of_le_of_lt hpunctual late), hpunctual⟩

/-- When writing is over its end is on record, and only that is reported. -/
theorem reported {s : WriteRecord} (h : Errands P d []) (hs : s ∈ d.writeLog)
    (hidle : s.id ∉ d.writing) : d.attempts.get? s.id = none ∧
      ∃ e ∈ d.endLog, s.Reports e ∧ (∀ other ∈ d.endLog, other.id = s.id → other = e) ∧
        ∀ event ∈ d.taskEvents, event.attempt? = some s.id → event = e.event := by
  obtain ⟨-, -, ⟨-, hwrites⟩ | ⟨e, he, hreports⟩⟩ := h.written s hs
  · exact absurd hwrites hidle
  have hsole : ∀ other ∈ d.endLog, other.id = s.id → other = e := fun other hother hid =>
    List.inj_on_of_nodup_map h.endedOnce hother he (hid.trans hreports.id_eq.symm)
  refine ⟨hreports.id_eq ▸ (h.ended e he).2.1, e, he, hreports, hsole, ?_⟩
  intro event hevent hid
  rcases h.told event hevent with hnone | ⟨other, hother, rfl⟩
  · rw [hnone] at hid
    cases hid
  · have hself := (h.ended other hother).1
    rw [hsole other hother (Option.some.inj (hself.symm.trans hid))]

/-- What has been written stays on record when the writers change their places. -/
theorem recorded {places : List Nat} (h : Errands P d hand)
    (hplaces : ∀ s ∈ d.writeLog, s.id ∈ hand ++ d.writing → s.id ∈ places) :
    ∀ s ∈ d.writeLog, P s.id s.attempt ∧ s.time < s.attempt.deadline ∧
      (d.attempts.get? s.id = some s.attempt ∧ s.id ∈ places ∨ ∃ e ∈ d.endLog, s.Reports e) := by
  intro s hs
  obtain ⟨hP, hlive, hplace⟩ := h.written s hs
  exact ⟨hP, hlive, hplace.imp_left fun hstill => ⟨hstill.1, hplaces s hs hstill.2⟩⟩

/-- Something is put on the agenda, with the attempt in hand if it ends one. -/
theorem schedule (h : Errands P d (job.ends?.toList ++ hand)) (hlater : d.now ≤ time)
    (hstarts : job.starts? = none)
    (hdials : ∀ caller node generation result, job = .dialed caller node generation result →
      (d.pool.slot node).creation = .dialing caller generation ∧
        ∀ e ∈ d.agenda, e.2.dialsAt? ≠ some node)
    (hends : ∀ id ∈ job.ends?, ∃ s ∈ d.writeLog, s.id = id ∧ s.Ends time job) :
    Errands P { d with agenda := insertJob time job d.agenda } hand := by
  have hperm := insertJob_perm time job d.agenda
  have hmem : ∀ e, e ∈ insertJob time job d.agenda ↔ e = (time, job) ∨ e ∈ d.agenda := by
    intro e
    rw [hperm.mem_iff, List.mem_cons]
  have hwriting : ({ d with agenda := insertJob time job d.agenda } : Desk).writing.Perm
      (job.ends?.toList ++ d.writing) := by
    refine (hperm.filterMap _).trans (.of_eq ?_)
    cases hjob : job.ends? <;> simp [hjob, Desk.writing]
  have hplaces : (hand ++ ({ d with agenda := insertJob time job d.agenda } : Desk).underWay).Perm
      (job.ends?.toList ++ hand ++ d.underWay) := by
    refine ((hwriting.append_left d.waiting).append_left hand).trans ?_
    refine List.perm_iff_count.mpr fun id => ?_
    simp only [Desk.underWay, List.count_append]
    omega
  refine { h with
    sorted := insertJob_sorted time job h.sorted, punctual := ?_, later := ?_, dials := ?_,
    dialsOnce := ?_, once := hplaces.nodup_iff.mpr h.once,
    present := fun id hid => h.present id (hplaces.mem_iff.mp hid), writing := ?_, written := ?_ }
  · intro e he
    rcases (hmem e).mp he with rfl | hold
    · exact hlater
    · exact h.punctual e hold
  · intro e he
    rcases (hmem e).mp he with rfl | hold
    · exact hstarts
    · exact h.later e hold
  · intro t caller node generation result he
    rcases (hmem _).mp he with hnew | hold
    · obtain ⟨-, rfl⟩ := Prod.mk.inj hnew
      exact (hdials caller node generation result rfl).1
    · exact h.dials t caller node generation result hold
  · refine ((hperm.filterMap _).nodup_iff).mpr ?_
    cases job with
    | dialed caller node generation result =>
        refine List.nodup_cons.mpr ⟨?_, h.dialsOnce⟩
        intro hnode
        obtain ⟨e, he, hdials'⟩ := List.mem_filterMap.mp hnode
        exact (hdials caller node generation result rfl).2 e he hdials'
    | start | fetch | written | expired | act | fetched => exact h.dialsOnce
  · intro e he id hid
    rcases (hmem e).mp he with rfl | hold
    · exact hends id hid
    · exact h.writing e hold id hid
  · refine h.recorded fun s _ hplace => ?_
    simp only [List.mem_append, hwriting.mem_iff] at hplace ⊢
    tauto

/-- Something on the agenda is taken up. -/
theorem takeUp {before after : List (Instant × Job)} (h : Errands P d [])
    (hagenda : d.agenda = before ++ (time, job) :: after) :
    Errands P { d with agenda := before ++ after } job.ends?.toList := by
  have hperm : d.agenda.Perm ((time, job) :: (before ++ after)) := hagenda ▸ List.perm_middle
  have hmem : ∀ e ∈ before ++ after, e ∈ d.agenda :=
    fun e he => hperm.mem_iff.mpr (List.mem_cons_of_mem _ he)
  have hsub : (before ++ after).Sublist d.agenda :=
    hagenda ▸ (List.Sublist.refl before).append (List.sublist_cons_self _ _)
  have hwriting : d.writing.Perm
      (job.ends?.toList ++ ({ d with agenda := before ++ after } : Desk).writing) := by
    refine (hperm.filterMap _).trans (.of_eq ?_)
    cases hjob : job.ends? <;> simp [hjob, Desk.writing]
  have hplaces : (job.ends?.toList ++ ({ d with agenda := before ++ after } : Desk).underWay).Perm
      ([] ++ d.underWay) := by
    refine List.perm_append_comm_assoc .. |>.trans ?_
    exact (hwriting.append_left d.waiting).symm
  refine { h with
    sorted := h.sorted.sublist hsub, punctual := fun e he => h.punctual e (hmem e he),
    later := fun e he => h.later e (hmem e he),
    dials := fun t caller node generation result he =>
      h.dials t caller node generation result (hmem _ he),
    dialsOnce := h.dialsOnce.sublist (hsub.filterMap _),
    once := hplaces.nodup_iff.mpr h.once,
    present := fun id hid => h.present id (hplaces.mem_iff.mp hid),
    writing := fun e he => h.writing e (hmem e he),
    written := h.recorded fun _ _ hplace => hwriting.mem_iff.mp hplace }

/-- The attempt in hand is over. -/
theorem conclude {event : TaskEvent} {taskEvents : List TaskEvent} (h : Errands P d [id])
    (hevent : event.attempt? = some id)
    (htold : taskEvents = d.taskEvents ∨ taskEvents = d.taskEvents ++ [event])
    (hreports : ∀ s ∈ d.writeLog, s.id = id → s.Reports ⟨d.now, id, event⟩) :
    Errands P
      { d with
        attempts := d.attempts.erase id
        taskEvents
        endLog := ⟨d.now, id, event⟩ :: d.endLog } [] := by
  obtain ⟨hout, honce⟩ := List.nodup_cons.mp h.once
  obtain ⟨attempt, hattempt⟩ := h.present id (by simp)
  have hget : ∀ other, other ≠ id → (d.attempts.erase id).get? other = d.attempts.get? other :=
    fun other hother => Assoc.get?_erase_of_ne _ hother
  refine { h with
    once := honce, present := ?_, known := ?_, written := ?_, ended := ?_, endedOnce := ?_,
    told := ?_ }
  · intro other hother
    have hne : other ≠ id := by
      rintro rfl
      exact hout hother
    rw [hget other hne]
    exact h.present other (List.mem_cons_of_mem _ hother)
  · intro other otherAttempt hother
    by_cases hid : other = id
    · simp [hid] at hother
    · exact h.known other otherAttempt (by rwa [hget other hid] at hother)
  · intro s hs
    obtain ⟨hP, hlive, hplace⟩ := h.written s hs
    refine ⟨hP, hlive, ?_⟩
    by_cases hid : s.id = id
    · exact .inr ⟨_, List.mem_cons_self, hreports s hs hid⟩
    rcases hplace with ⟨hget', hplace⟩ | ⟨e, he, hover⟩
    · exact .inl ⟨(hget _ hid).trans hget', (List.mem_cons.mp hplace).resolve_left hid⟩
    · exact .inr ⟨e, List.mem_cons_of_mem _ he, hover⟩
  · intro e he
    rcases List.mem_cons.mp he with rfl | hold
    · exact ⟨hevent, Assoc.get?_erase_self _ _, attempt, h.known id attempt hattempt⟩
    · obtain ⟨hsame, hgone, hknown⟩ := h.ended e hold
      refine ⟨hsame, ?_, hknown⟩
      by_cases hid : e.id = id
      · rw [hid]
        exact Assoc.get?_erase_self _ _
      · rwa [hget _ hid]
  · refine List.nodup_cons.mpr ⟨?_, h.endedOnce⟩
    intro hmem
    obtain ⟨e, he, hid⟩ := List.mem_map.mp hmem
    have hgone := (h.ended e he).2.1
    rw [hid, hattempt] at hgone
    cases hgone
  · intro other hother
    have hcases : other ∈ d.taskEvents ∨ other = event := by
      rcases htold with rfl | rfl
      · exact .inl hother
      · simpa using hother
    rcases hcases with hold | rfl
    · refine (h.told other hold).imp_right ?_
      rintro ⟨e, he, hsame⟩
      exact ⟨e, List.mem_cons_of_mem _ he, hsame⟩
    · exact .inr ⟨_, List.mem_cons_self, rfl⟩

/-- The attempt in hand begins to write. -/
theorem startWriting {generation : Nat} {finish : Instant} (h : Errands P d [id])
    (hattempt : d.attempts.get? id = some attempt) (hnew : ∀ s ∈ d.writeLog, s.id ≠ id)
    (hlive : d.now < attempt.deadline) :
    Errands P
      { d with writeLog := ⟨d.now, finish, id, generation, attempt⟩ :: d.writeLog } [id] := by
  have hout := (List.nodup_cons.mp h.once).1
  refine { h with unwritten := ?_, writing := ?_, written := ?_, writtenOnce := ?_ }
  · exact List.forall_mem_cons.mpr
      ⟨fun hwaits => hout (List.mem_append_left d.writing hwaits), h.unwritten⟩
  · intro e he other hother
    obtain ⟨s, hs, hends⟩ := h.writing e he other hother
    exact ⟨s, List.mem_cons_of_mem _ hs, hends⟩
  · have hbegun : id ∈ [id] ++ d.writing := List.mem_cons_self
    exact List.forall_mem_cons.mpr
      ⟨⟨h.known id attempt hattempt, hlive, .inl ⟨hattempt, hbegun⟩⟩, h.written⟩
  · refine List.nodup_cons.mpr ⟨?_, h.writtenOnce⟩
    intro hmem
    obtain ⟨s, hs, hid⟩ := List.mem_map.mp hmem
    exact hnew s hs hid

/-- Callers come to the pool, and some leave it. -/
theorem pass (h : Errands P d come) (hslots : pool.slots.keys.Nodup)
    (hcallers : (leave ++ pool.callers).Perm (come ++ d.pool.callers))
    (hdialing : ∀ time caller node generation result,
      (time, .dialed caller node generation result) ∈ d.agenda →
        (pool.slot node).creation = .dialing caller generation)
    (hnew : ∀ s ∈ d.writeLog, s.id ∉ come) : Errands P { d with pool } leave := by
  have hwaiting : (leave ++ ({ d with pool } : Desk).waiting).Perm (come ++ d.waiting) := by
    refine List.perm_iff_count.mpr fun id => ?_
    have hcount := hcallers.count_eq id
    simp only [Desk.waiting, List.count_append] at hcount ⊢
    omega
  have hplaces : (leave ++ ({ d with pool } : Desk).underWay).Perm (come ++ d.underWay) := by
    simp only [Desk.underWay, ← List.append_assoc]
    exact hwaiting.append_right _
  refine { h with
    slots := hslots, dials := hdialing, once := hplaces.nodup_iff.mpr h.once,
    present := fun id hid => h.present id (hplaces.mem_iff.mp hid), unwritten := ?_,
    written := h.recorded fun s hs hplace =>
      List.mem_append_right _ ((List.mem_append.mp hplace).resolve_left (hnew s hs)) }
  · intro s hs hwaits
    have hold := hwaiting.mem_iff.mp (List.mem_append_right _ hwaits)
    rcases List.mem_append.mp hold with hcome | hold
    · exact hnew s hs hcome
    · exact h.unwritten s hs hold

/-- The pool takes some callers in and lets others go, and whoever connects goes on. -/
theorem passes (h : Errands P d come) (hpasses : Pool.Passes d.pool pool come leave)
    (hnew : ∀ s ∈ d.writeLog, s.id ∉ come) : Errands P { d with pool } leave := by
  refine h.pass (hpasses.keys h.slots) hpasses.callers ?_ hnew
  intro time caller node generation result he
  exact hpasses.dialing node caller generation (h.dials time caller node generation result he)

/-- A piece of work at hand is taken up. -/
theorem pick {before after : List Job} (h : Errands P d [])
    (hjobs : d.jobs = before ++ job :: after) :
    Errands P { d with jobs := before ++ after } job.starts?.toList := by
  have hperm : d.jobs.Perm (job :: (before ++ after)) := hjobs ▸ List.perm_middle
  have hstarts : (d.jobs.filterMap Job.starts?).Perm
      (job.starts?.toList ++ (before ++ after).filterMap Job.starts?) := by
    refine (hperm.filterMap _).trans (.of_eq ?_)
    cases hjob : job.starts? <;> simp [hjob]
  have hwaiting : (job.starts?.toList ++ ({ d with jobs := before ++ after } : Desk).waiting).Perm
      d.waiting := by
    simp only [Desk.waiting, ← List.append_assoc]
    exact hstarts.symm.append_right _
  have hplaces : (job.starts?.toList ++ ({ d with jobs := before ++ after } : Desk).underWay).Perm
      ([] ++ d.underWay) := by
    simp only [Desk.underWay, ← List.append_assoc]
    exact hwaiting.append_right _
  refine { h with
    jobs := fun other hother => h.jobs other (hperm.mem_iff.mpr (List.mem_cons_of_mem _ hother)),
    once := hplaces.nodup_iff.mpr h.once,
    present := fun id hid => h.present id (hplaces.mem_iff.mp hid), unwritten := ?_,
    written := h.recorded fun _ _ hplace => List.mem_append_right _ hplace }
  intro s hs hwaits
  exact h.unwritten s hs (hwaiting.mem_iff.mp (List.mem_append_right _ hwaits))

/-- A fetch is to be started. -/
theorem fetch (h : Errands P d hand) (purpose : Purpose) :
    Errands P { d with jobs := d.jobs ++ [.fetch purpose] } hand := by
  have hwaiting : ({ d with jobs := d.jobs ++ [.fetch purpose] } : Desk).waiting = d.waiting := by
    simp [Desk.waiting, Job.starts?]
  have hplaces : ({ d with jobs := d.jobs ++ [.fetch purpose] } : Desk).underWay = d.underWay :=
    congrArg (· ++ d.writing) hwaiting
  refine { h with
    jobs := ?_, once := hplaces ▸ h.once, present := hplaces ▸ h.present,
    unwritten := hwaiting ▸ h.unwritten }
  · intro job hjob
    rcases List.mem_append.mp hjob with hold | hnew
    · exact h.jobs job hold
    · exact .inr ⟨purpose, List.mem_singleton.mp hnew⟩

/-- A new attempt is to be started. -/
theorem setOut (h : Errands P d []) (hnew : ∀ attempt, ¬P id attempt) (hQ : Q id attempt)
    (hPQ : ∀ id attempt, P id attempt → Q id attempt) :
    Errands Q
      { d with attempts := d.attempts.put id attempt, jobs := d.jobs ++ [.start id] } [] := by
  have hget : ∀ {other}, other ≠ id →
      (d.attempts.put id attempt).get? other = d.attempts.get? other :=
    fun hother => Assoc.get?_put_of_ne _ _ hother
  have hold : ∀ {other old}, P other old → other ≠ id := by
    rintro other old hP rfl
    exact hnew old hP
  have hunknown : d.attempts.get? id = none := by
    cases hid : d.attempts.get? id with
    | none => rfl
    | some old => exact absurd rfl (hold (h.known id old hid))
  have hother : ∀ other ∈ [] ++ d.underWay, other ≠ id := by
    rintro other hmem rfl
    obtain ⟨old, hpresent⟩ := h.present other hmem
    rw [hunknown] at hpresent
    cases hpresent
  have hwaiting : (d.jobs ++ [Job.start id]).filterMap Job.starts? ++ d.pool.callers |>.Perm
      (id :: d.waiting) := by
    rw [List.filterMap_append]
    exact (List.perm_append_singleton id _).append_right _
  have hplaces := hwaiting.append_right d.writing
  refine { h with
    jobs := ?_, once := hplaces.nodup_iff.mpr (List.nodup_cons.mpr ⟨?_, h.once⟩), present := ?_,
    known := ?_, unwritten := ?_, written := ?_, ended := ?_ }
  · intro job hjob
    rcases List.mem_append.mp hjob with hwaits | hlast
    · exact h.jobs job hwaits
    · exact .inl ⟨id, List.mem_singleton.mp hlast⟩
  · exact fun hmem => hother id hmem rfl
  · intro other hmem
    rcases List.mem_cons.mp (hplaces.mem_iff.mp hmem) with rfl | hwas
    · exact ⟨attempt, Assoc.get?_put_self _ _ _⟩
    · rw [hget (hother other hwas)]
      exact h.present other hwas
  · intro other otherAttempt hattempt
    by_cases hid : other = id
    · rw [hid, Assoc.get?_put_self] at hattempt
      rw [hid, ← Option.some.inj hattempt]
      exact hQ
    · exact hPQ _ _ (h.known other otherAttempt (by rwa [hget hid] at hattempt))
  · intro s hs hwaits
    have hwas := (List.mem_cons.mp (hwaiting.mem_iff.mp hwaits)).resolve_left
      (hold (h.written s hs).1)
    exact h.unwritten s hs hwas
  · intro s hs
    obtain ⟨hP, hlive, hplace⟩ := h.written s hs
    rw [hget (hold hP)]
    exact ⟨hPQ _ _ hP, hlive, hplace⟩
  · intro e he
    obtain ⟨hevent, hgone, old, hP⟩ := h.ended e he
    rw [hget (hold hP)]
    exact ⟨hevent, hgone, old, hPQ _ _ hP⟩

/-- The dispatcher hears of something, or is told of what is not about an attempt. -/
theorem hear {taskEvents : List TaskEvent} (h : Errands P d hand)
    (htold : ∀ event ∈ taskEvents, event ∈ d.taskEvents ∨ event.attempt? = none) :
    Errands P { d with taskEvents } hand := by
  refine { h with told := fun event hevent => ?_ }
  rcases htold event hevent with hold | hnone
  · exact h.told event hold
  · exact .inl hnone

/-- Time passes, but not beyond what comes first on the agenda. -/
theorem wait {now : Instant} (h : Errands P d hand) (hdue : ∀ e ∈ d.agenda.head?, now ≤ e.1) :
    Errands P { d with now } hand := by
  refine { h with punctual := ?_ }
  intro e he
  obtain ⟨first, rest, hagenda⟩ := List.exists_cons_of_ne_nil (List.ne_nil_of_mem he)
  have hfirst : now ≤ first.1 := hdue first (by rw [hagenda]; rfl)
  have hsorted := h.sorted
  rw [hagenda] at hsorted
  rw [show d.agenda = first :: rest from hagenda] at he
  rcases List.mem_cons.mp he with rfl | hrest
  · exact hfirst
  · exact Nat.le_trans hfirst ((List.pairwise_cons.mp hsorted).1 e hrest)

end Errands

end Desk

end World

end ClusterKv

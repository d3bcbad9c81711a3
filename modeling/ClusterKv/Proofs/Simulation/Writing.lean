import ClusterKv.Proofs.Simulation.Courses

/-! # Writing in time

Whatever happens, nothing is written for a command once its deadline has passed: writing begins
before the deadline or not at all, and what is not done by the deadline is given up then. -/

namespace ClusterKv.World

open Desk (Errands)
open Dispatcher (Tried)

variable {σ : Type} {net : Network σ} {w₀ w w' : World σ}

/-! ## Where attempts come from -/

/-- A command was created when its draft says, or else when it was submitted. -/
def Created (net : Network σ) (w₀ w : World σ) (command : Command) : Prop :=
  ∃ w₁ ticket, ∃ draft : Draft, Course net w₀ w₁ ∧ Course net w₁ w ∧
    command = Command.create ticket draft.operation draft.target draft.timeout
      (draft.created.getD w₁.now)

theorem Created.later {command : Command} (h : Created net w₀ w command)
    (hlater : Course net w w') : Created net w₀ w' command := by
  obtain ⟨w₁, ticket, draft, hbefore, hafter, heq⟩ := h
  exact ⟨w₁, ticket, draft, hbefore, hafter.trans hlater, heq⟩

/-- An attempt was made to send a command, which had been created before. -/
def Undertaken (net : Network σ) (w₀ w : World σ) (id : Nat) (attempt : Attempt) : Prop :=
  ∃ w₁ origin command partition, Course net w₀ w₁ ∧ Course net w₁ w ∧
    Created net w₀ w₁ origin ∧ origin.Continues command ∧
    w₁.dispatcher.inFlight.get? id = some ⟨command, .sent attempt.node partition none []⟩ ∧
    attempt.request = ⟨id.toUInt64, partition, command.operation⟩ ∧
    attempt.deadline = command.deadline

theorem Undertaken.later {id : Nat} {attempt : Attempt} (h : Undertaken net w₀ w id attempt)
    (hlater : Course net w w') : Undertaken net w₀ w' id attempt := by
  obtain ⟨w₁, origin, command, partition, hbefore, hafter, hrest⟩ := h
  exact ⟨w₁, origin, command, partition, hbefore, hafter.trans hlater, hrest⟩

/-! ## The invariant -/

/-- All commands were created before, and all attempts are those of commands. -/
structure Tracked (net : Network σ) (w₀ w : World σ) : Prop where
  sound : w.front.Sound
  created : w.front.Everyone fun command =>
    ∃ origin, Created net w₀ w origin ∧ origin.Continues command
  underWay : ∃ journal, Tried journal (w.dispatcher, .empty) ∧
    Errands (fun id attempt => Undertaken net w₀ w id attempt ∧
      id ∈ (ClusterKv.attempts journal).map (·.1)) w.desk []

namespace Tracked

theorem start {config : Config} {network : σ} :
    Tracked net { config, network } { config, network } where
  sound := .start rfl
  created := ⟨⟨by simp, by simp, by simp [Dispatcher.Hand.command?]⟩, by simp⟩
  underWay := by
    refine ⟨[], ⟨List.nodup_nil, by simp [Dispatcher.tried, ClusterKv.attempts],
      by simp [Dispatcher.tried, ClusterKv.attempts], by simp [Dispatcher.Hand.number?], by simp,
      by simp⟩, ?_⟩
    have hnone : ({ config, network } : World σ).desk.underWay = [] := rfl
    refine ⟨.nil, by simp, by simp, by simp, List.nodup_nil, by simp, List.nodup_nil, ?_, ?_,
      by simp, by simp, by simp, by simp, List.nodup_nil, by simp, List.nodup_nil, by simp⟩
    · simp [hnone]
    · simp [hnone]

/-- What happens brings in no command but those that are created then. -/
theorem front (hcourse : Course net w₀ w) (h : Tracked net w₀ w) (ho : Occurs net w w') :
    w'.front.Sound ∧ w'.front.Everyone fun command =>
      ∃ origin, Created net w₀ w' origin ∧ origin.Continues command := by
  have hcreated : w.front.Everyone fun command =>
      ∃ origin, Created net w₀ w' origin ∧ origin.Continues command := by
    refine .of_all fun command hcommand => ?_
    obtain ⟨origin, horigin, hsame⟩ := h.created.holds hcommand
    exact ⟨origin, horigin.later (.single ho), hsame⟩
  rcases ho.front_cases with hdeeds | ⟨now, -, rfl⟩
  · have hall := hdeeds.induct
      (P := fun f => f.now = w.now ∧ f.Sound ∧ f.Everyone fun command =>
        ∃ origin, Created net w₀ w' origin ∧ origin.Continues command) ?_
      ⟨rfl, h.sound, hcreated⟩
    · exact hall.2
    · rintro f f' hdeed ⟨hnow, hsound, heveryone⟩
      refine ⟨hdeed.frame.2.1.trans hnow, hdeed.sound hsound,
        hdeed.everyone ?_ ?_ hsound.numbered heveryone⟩
      · rintro origin command hsame ⟨first, hfirst, hcontinues⟩
        exact ⟨first, hfirst, hcontinues.trans hsame⟩
      · intro draft _
        refine ⟨f.drafted draft, ⟨w, f.nextTicket, draft, hcourse, .single ho, ?_⟩,
          ⟨rfl, rfl, rfl, rfl, rfl⟩⟩
        rw [← hnow]
        rfl
  · exact ⟨h.sound.queue rfl rfl, hcreated.everywhere, hcreated.blocked⟩

/-- A turn starts attempts for commands in flight. -/
theorem turn {input : Dispatcher.Input} {inbound : List Command} (hcourse : Course net w₀ w)
    (h : Tracked net w₀ w) (ho : Occurs net w w')
    (hdispatcher : w'.dispatcher = { (w.turn input).dispatcher with inbound })
    (hdesk : ∀ {P : Nat → Attempt → Prop},
      Errands P (w.turn input).desk [] → Errands P w'.desk []) : Tracked net w₀ w' := by
  obtain ⟨hsound, hcreated⟩ := h.front hcourse ho
  obtain ⟨journal, htried, herrands⟩ := h.underWay
  refine ⟨hsound, hcreated, ?_⟩
  let turned := w.dispatcher.turn w.moment input
  let effects := turned.outbox.reverse
  have hturned : w'.dispatcher = { turned with outbox := [], inbound } := by
    rw [hdispatcher, turn_dispatcher]
  have hdelivered : Tried (journal ++ effects) (w'.dispatcher, .empty) := by
    rw [hturned]
    have hturn := (Dispatcher.turn_tried (m := w.moment) h.sound.numbered htried input).delivered
    exact hturn.congr rfl (Nat.le_refl _) rfl (by simp [Dispatcher.Hand.number?])
  refine ⟨journal ++ effects, hdelivered, ?_⟩
  have honce := hdelivered.once
  rw [Dispatcher.tried_of_done (by rw [hturned]), attempts_append, List.map_append] at honce
  obtain ⟨-, honce, hapart⟩ := List.nodup_append'.mp honce
  have hcarried := carryOuts_errands
    (w := { w.setAlarm with dispatcher := { turned with outbox := [] } }) effects herrands (fun a ha _ hold => hapart hold.2 (List.mem_map_of_mem ha)) honce
  refine hdesk (hcarried.mono ?_)
  rw [attempts_append, List.map_append]
  rintro id attempt (⟨hold, hknown⟩ | hnew)
  · exact ⟨hold.later (.single ho), List.mem_append_left _ hknown⟩
  · refine ⟨?_, List.mem_append_right _ (List.mem_map.mpr
      ⟨(id, attempt.request), List.mem_filterMap.mpr ⟨_, hnew, rfl⟩, rfl⟩)⟩
    obtain ⟨command, partition, hentry, hrequest, hdeadline, -⟩ :=
      Dispatcher.turn_begun h.sound.numbered h.sound.done input (List.mem_reverse.mp hnew)
    have hget : w'.dispatcher.inFlight.get? id =
        some ⟨command, .sent attempt.node partition none []⟩ := by
      rw [hturned]
      exact hentry
    obtain ⟨origin, horigin, hsame⟩ := hcreated.holds (.underWay hget rfl)
    exact ⟨w', origin, command, partition, hcourse.tail ho, .refl, horigin, hsame, hget, hrequest,
      hdeadline⟩

/-- Where the dispatcher takes no turn, attempts go on their way. -/
theorem between (hcourse : Course net w₀ w) (h : Tracked net w₀ w) (ho : Occurs net w w')
    {inbound : List Command} (hdispatcher : w'.dispatcher = { w.dispatcher with inbound })
    (hdesk : ∀ {P : Nat → Attempt → Prop}, Errands P w.desk [] → Errands P w'.desk []) :
    Tracked net w₀ w' := by
  obtain ⟨hsound, hcreated⟩ := h.front hcourse ho
  obtain ⟨journal, htried, herrands⟩ := h.underWay
  refine ⟨hsound, hcreated, journal, ?_, ?_⟩
  · rw [hdispatcher]
    exact htried.congr rfl (Nat.le_refl _) rfl (by simp [Dispatcher.Hand.number?])
  · exact (hdesk herrands).mono fun _ _ hold => ⟨hold.1.later (.single ho), hold.2⟩

theorem step (hcourse : Course net w₀ w) (h : Tracked net w₀ w) (ho : Occurs net w w') :
    Tracked net w₀ w' := by
  have hsame : ∀ {w' : World σ}, w'.front = w.front →
      w'.dispatcher = { w.dispatcher with inbound := w.dispatcher.inbound } :=
    fun hfront => congrArg Front.dispatcher hfront
  have hslots : w.pool.slots.keys.Nodup := by
    obtain ⟨_, -, herrands⟩ := h.underWay
    exact herrands.slots
  cases ho with
  | turn running other lasting => exact h.turn hcourse (.turn running other lasting) rfl id
  | accept running accepting filled =>
      obtain ⟨hdesk, inbound, hdispatcher⟩ := unblock_apart (w.turn .accept)
      exact h.turn hcourse (.accept running accepting filled) hdispatcher fun herrands =>
        hdesk ▸ herrands
  | stop running =>
      have hturned : (w.turn .shutdown).dispatcher = w.stopDispatcher.dispatcher :=
        (congrArg Front.dispatcher (front_turn w .shutdown)).trans
          (stopDispatcher_halts w).dispatcher.symm
      refine h.turn hcourse (.stop running) hturned.symm fun herrands => ?_
      rw [desk_stopDispatcher]
      exact herrands.hear (by simp)
  | job waits =>
      exact h.between hcourse (.job waits) (hsame (front_run ..)) fun herrands =>
        job_errands herrands waits
  | enter member granted =>
      refine h.between hcourse (.enter member granted) (hsame (front_enter ..)) fun herrands =>
        enter_errands herrands ?_
      rw [Pool.slot, Assoc.get?_of_mem hslots member]
      exact granted
  | due waits due =>
      exact h.between hcourse (.due waits due) (hsame (front_run ..)) fun herrands =>
        due_errands herrands waits due
  | wait now later due =>
      have hunchanged : ({ w with now } : World σ).dispatcher =
        { w.dispatcher with inbound := w.dispatcher.inbound } := rfl
      exact h.between hcourse (.wait now later due) hunchanged fun herrands => herrands.wait due
  | hear later =>
      refine h.between hcourse (.hear later) (hsame rfl) fun herrands => herrands.hear ?_
      exact fun event hevent => .inl (later.subset hevent)
  | fetch purpose =>
      exact h.between hcourse (.fetch purpose) (hsame (front_startFetch ..)) fun herrands =>
        startFetch_errands herrands purpose
  | call number drafts =>
      obtain ⟨hdesk, inbound, hdispatcher⟩ : (w.startCall number drafts).desk = w.desk ∧ _ :=
        submitDrafts_apart ..
      exact h.between hcourse (.call number drafts) hdispatcher fun herrands => hdesk ▸ herrands
  | flush number =>
      obtain ⟨hdesk, inbound, hdispatcher⟩ := startFlush_apart w number
      exact h.between hcourse (.flush number) hdispatcher fun herrands => hdesk ▸ herrands
  | beside front desk =>
      exact h.between hcourse (.beside front desk) (hsame front) fun herrands => desk ▸ herrands

end Tracked

theorem Course.tracked {config : Config} {network : σ} (h : Course net { config, network } w) :
    Tracked net { config, network } w := by
  induction h with
  | refl => exact .start
  | tail hbefore ho ih => exact ih.step hbefore ho

/-! ## Nothing is written late -/

/-- Writing keeps to the deadline. -/
structure InTime (w : World σ) (s : WriteRecord) : Prop where
  /-- It begins before the deadline. -/
  early : s.time < s.attempt.deadline
  /-- It goes on until it is done, and no longer than until the deadline. -/
  ongoing : s.id ∈ w.desk.writing → w.now ≤ s.finish ∧ w.now ≤ s.attempt.deadline
  /-- When it is over its end is on record, and only that is reported. -/
  ended : s.id ∉ w.desk.writing → w.attempts.get? s.id = none ∧
    ∃ e ∈ w.endLog, s.Reports e ∧ (∀ other ∈ w.endLog, other.id = s.id → other = e) ∧
      ∀ event ∈ w.taskEvents, event.attempt? = some s.id → event = e.event
  /-- If it takes longer it has been given up at the deadline, and is never reported as sent. -/
  dropped : s.attempt.deadline < s.finish → s.attempt.deadline < w.now →
    s.id ∉ w.desk.writing ∧
      ⟨s.attempt.deadline, s.id, .abandoned s.id⟩ ∈ w.endLog ∧
      (∀ e ∈ w.endLog, e.id = s.id → e.event = .abandoned s.id) ∧
      ∀ event ∈ w.taskEvents, event.attempt? = some s.id → event = .abandoned s.id

/-- Whatever is written, it is written for a command, and in time. -/
theorem never_written_late {config : Config} {network : σ} (h : Course net { config, network } w) :
    ∀ s ∈ w.writeLog,
      Undertaken net { config, network } w s.id s.attempt ∧ w.InTime s := by
  intro s hs
  obtain ⟨journal, -, herrands⟩ := h.tracked.underWay
  obtain ⟨⟨hundertaken, -⟩, hearly, -⟩ := herrands.written s hs
  refine ⟨hundertaken, hearly, herrands.ongoing hs, herrands.reported hs, fun hlong hlate => ?_⟩
  have hidle : s.id ∉ w.desk.writing :=
    fun hwrites => absurd hlate (Nat.not_lt.mpr (herrands.ongoing hs hwrites).2)
  obtain ⟨-, e, he, hreports, hsole, htold⟩ := herrands.reported hs hidle
  cases hreports with
  | sent inTime | failed inTime => exact absurd hlong (Nat.not_lt.mpr inTime)
  | abandoned late =>
      exact ⟨hidle, he, fun other hother hid => congrArg EndRecord.event (hsole other hother hid),
        htold⟩

/-- A network in which every key has the same owner, and writing takes a long time. -/
def sluggish : Network Unit where
  dial s _ := (s, some (.zero, .ok ()))
  isUp _ _ := true
  write s _ _ := (s, { stall := .ofMillis 200, result := .ok [] })
  perform s _ request _ := (s, .success request.opaqueId 0)
  fetch s := (s, .zero, .ok ⟨1, [⟨"a:1"⟩], [some 0], none⟩)

/-- Settings under which an operation may take half as long as writing takes there. -/
def hasty : Config := { operationTimeout := .ofMillis 100, pollInterval := none }

/-- A client that has just started in the sluggish network. -/
def fresh : World Unit :=
  match connect sluggish hasty () with
  | .ok w => w
  | .error _ => { config := hasty, network := () }

theorem fresh_connected : connect sluggish hasty () = .ok fresh := rfl

/-- The client after a call, when the writing would be over. -/
def overdue : World Unit :=
  (Client.many [([1], .get)] fresh 1).1.sleep sluggish (.ofMillis 300)

theorem overdue_course : Course sluggish { config := hasty, network := () } overdue :=
  (connect_course fresh_connected).trans (.head (.call 1 _) (runUntil_course _ _ _))

/-- What would have taken until later was given up at the deadline. -/
theorem overdue_given_up :
    (overdue.now = 300000000 ∧
      overdue.writeLog.map (fun s => (s.time, s.finish, s.attempt.deadline)) =
        [(0, 200000000, 100000000)] ∧
      overdue.endLog.map (·.time) = [100000000]) ∧
    ∀ s ∈ overdue.writeLog,
      Undertaken sluggish { config := hasty, network := () } overdue s.id s.attempt ∧
        overdue.InTime s :=
  ⟨by decide +kernel, never_written_late overdue_course⟩

end ClusterKv.World

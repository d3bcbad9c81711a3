import ClusterKv.Proofs.Dispatcher.Budgets

/-! # How commands end

Every result that a turn gives has its reason, and an attempt that comes to an outcome has its
consequence: a final outcome resolves the command, and any other uses up a retry if there is one
left. -/

namespace ClusterKv.Dispatcher

variable {m : Moment} {input : Input} {cause : Cause} {n : Tally} {k : Nat}

/-! ## Reasons for results -/

/-- An outcome that comes in time settles a command with a result. -/
inductive Concludes (m : Moment) (command : Command) : Outcome → Except Error Reply → Prop where
  | success {reply} : Concludes m command (.success reply) (.ok reply)
  | definitive {status} :
      Concludes m command (.applicationError status) (.error (.application status))
  | misdirected {partition node} (target : command.target = .node node) :
      Concludes m command (.routingStale partition) (.error (.noRoute partition))
  | exhausted {outcome failure fault} (setback : command.setback? outcome = some (failure, fault))
      (exceeded : m.config.maxRetries < command.retries + 1) :
      Concludes m command outcome (.error (exhausted m command failure fault))

/-- Why a command gets a result in a turn that has started from `d₀` and sent some commands on
their way. -/
inductive Reason (m : Moment) (input : Input) (d₀ : Dispatcher) (routes : List Command) :
    Command → Except Error Reply → Prop where
  | late {command : Command} (late : command.deadline ≤ m.now) :
      Reason m input d₀ routes command (.error (.timeout command.timeout))
  | unowned {command : Command} {miss : RoutingError} (routed : command ∈ routes)
      (missed : missing m command = true)
      (reached : m.config.maxRouteRefreshes ≤ command.routeRefreshes) :
      Reason m input d₀ routes command (.error (.noRoute miss.partition))
  | noTable {command : Command} {error : TopologyError}
      (refused : input = .task (.refreshed (.error error))) :
      Reason m input d₀ routes command (.error error.toError)
  | ended {id entry outcome result} (since : d₀.inFlight.get? id = some entry)
      (brings : Brings input id entry outcome) (inTime : m.now < entry.command.deadline)
      (concludes : Concludes m entry.command outcome result) :
      Reason m input d₀ routes entry.command result
  | dismissed {id entry error} (since : d₀.inFlight.get? id = some entry)
      (dismisses : Dismisses input id entry.command error) :
      Reason m input d₀ routes entry.command (.error error)

theorem Reason.mono {d₀ : Dispatcher} {routes more : List Command} {command : Command}
    {result : Except Error Reply} (h : Reason m input d₀ routes command result)
    (hmore : ∀ command ∈ routes, command ∈ more) : Reason m input d₀ more command result := by
  cases h with
  | late late => exact .late late
  | unowned routed missed reached => exact .unowned (hmore _ routed) missed reached
  | noTable refused => exact .noTable refused
  | ended since brings inTime concludes => exact .ended since brings inTime concludes
  | dismissed since dismisses => exact .dismissed since dismisses

section

variable {d d' : Dispatcher} {command : Command} {ticket : Nat} {result : Except Error Reply}

theorem park_resolve (h : .resolve ticket result ∈ (d.park command).outbox) :
    .resolve ticket result ∈ d.outbox := by
  rcases park_outbox d command with hsame | hsame
  · rwa [hsame] at h
  · simpa [hsame] using h

theorem dropped_resolve (h : .resolve ticket result ∈ (d.dropped input).outbox) :
    .resolve ticket result ∈ d.outbox := by
  rcases dropped_eq d input with hsame | ⟨node, generation, hsame⟩
  · rwa [hsame] at h
  · simpa [hsame] using h

theorem finish_resolve {given : Except Error Reply}
    (h : .resolve ticket result ∈ (d.finish command given).outbox) :
    .resolve ticket result ∈ d.outbox ∨ ticket = command.ticket ∧ result = given := by
  simp only [finish_eq, emit_outbox, List.mem_cons, Effect.resolve.injEq] at h
  exact h.symm

theorem Routed.resolve {starts : List (Nat × Nat)} (h : Routed m d command starts d')
    (hresult : .resolve ticket result ∈ d'.outbox) :
    .resolve ticket result ∈ d.outbox ∨
      ticket = command.ticket ∧
        (command.deadline ≤ m.now ∧ result = .error (.timeout command.timeout) ∨
        missing m command = true ∧ m.config.maxRouteRefreshes ≤ command.routeRefreshes ∧
          ∃ partition, result = .error (.noRoute partition)) := by
  cases h with
  | late late => exact (finish_resolve hresult).imp_right (.imp_right fun hsame => .inl ⟨late, hsame⟩)
  | started | waiting => exact .inl (by simpa using hresult)
  | parked => exact .inl (park_resolve hresult)
  | @unowned miss inTime missed reached =>
      refine (finish_resolve hresult).imp_right (.imp_right fun hsame => .inr ?_)
      exact ⟨missing_of_error inTime missed, reached, miss.partition, hsame⟩

theorem Applied.resolve {outcome : Outcome} (h : Applied m d command outcome d')
    (hresult : .resolve ticket result ∈ d'.outbox) :
    .resolve ticket result ∈ d.outbox ∨
      ticket = command.ticket ∧
        (command.deadline ≤ m.now ∧ result = .error (.timeout command.timeout) ∨
        m.now < command.deadline ∧ Concludes m command outcome result) := by
  cases h with
  | late late => exact (finish_resolve hresult).imp_right (.imp_right fun hsame => .inl ⟨late, hsame⟩)
  | parked => exact .inl (park_resolve hresult)
  | paused => exact .inl (by simpa using hresult)
  | success inTime =>
      refine (finish_resolve hresult).imp_right (.imp_right ?_)
      rintro rfl
      exact .inr ⟨inTime, .success⟩
  | definitive inTime =>
      refine (finish_resolve hresult).imp_right (.imp_right ?_)
      rintro rfl
      exact .inr ⟨inTime, .definitive⟩
  | misdirected inTime target =>
      refine (finish_resolve hresult).imp_right (.imp_right ?_)
      rintro rfl
      exact .inr ⟨inTime, .misdirected target⟩
  | exhausted inTime setback exceeded =>
      refine (finish_resolve hresult).imp_right (.imp_right ?_)
      rintro rfl
      exact .inr ⟨inTime, .exhausted setback exceeded⟩

end

theorem reason_of_routed {d₀ d₁ d' : Dispatcher} {command : Command} {starts : List (Nat × Nat)}
    {ticket : Nat} {result : Except Error Reply} (h : Routed m d₁ command starts d')
    (hresult : .resolve ticket result ∈ d'.outbox) :
    .resolve ticket result ∈ d₁.outbox ∨
      ticket = command.ticket ∧ Reason m input d₀ [command] command result := by
  refine (h.resolve hresult).imp_right (.imp_right ?_)
  rintro (⟨late, rfl⟩ | ⟨missed, reached, partition, rfl⟩)
  · exact .late late
  · have hunowned : Reason m input d₀ [command] command
        (.error (.noRoute (RoutingError.mk partition).partition)) :=
      .unowned (List.mem_singleton_self _) missed reached
    exact hunowned

section

variable {P : Command → Prop} (hP : ∀ origin command : Command, origin.Continues command →
  P origin → P command)
include hP

/-- Whatever a deal resolves it has a reason for. -/
theorem Deal.reason {d₀ d d' : Dispatcher} {routes : List Command} {starts : List (Nat × Nat)}
    {ticket : Nat} {result : Except Error Reply} (h : Deal m input d₀ d routes starts d')
    (hd : Everywhere P (d, .empty)) (hresult : .resolve ticket result ∈ d'.outbox) :
    .resolve ticket result ∈ d.outbox ∨
      ∃ command, P command ∧ ticket = command.ticket ∧
        Reason m input d₀ routes command result := by
  cases h with
  | aside causes move entries queue outbox => exact .inl (by rwa [outbox] at hresult)
  | @accepted _ command rest cause queued =>
      have hcommand : P ({ d with inbound := rest }.assignId command).2 :=
        hP command _ ⟨rfl, rfl, rfl, rfl, rfl⟩ (hd.queued command (by simp [queued]))
      rcases reason_of_routed (route_routed _ _ _) hresult with hold | hreason
      · exact .inl hold
      · exact .inr ⟨_, hcommand, hreason⟩
  | resumed cause found | unparked cause found =>
      rcases reason_of_routed (route_routed _ _ _) hresult with hold | hreason
      · exact .inl (by simpa using hold)
      · exact .inr ⟨_, hd.underWay _ _ found, hreason⟩
  | rested => exact .inl (by simpa using hresult)
  | refused cause found =>
      rcases finish_resolve hresult with hold | ⟨rfl, rfl⟩
      · exact .inl (by simpa using hold)
      · exact .inr ⟨_, hd.underWay _ _ found, rfl, .noTable cause⟩
  | expired cause found late =>
      rcases finish_resolve hresult with hold | ⟨rfl, rfl⟩
      · exact .inl (by simpa using hold)
      · exact .inr ⟨_, hd.underWay _ _ found, rfl, .late late⟩
  | promoted first room found =>
      unfold dispatch at hresult
      split at hresult
      · next late =>
          rcases finish_resolve hresult with hold | ⟨rfl, rfl⟩
          · exact .inl (by simpa using hold)
          · exact .inr ⟨_, hd.underWay _ _ found, rfl, .late late⟩
      · exact .inl (by simpa using hresult)
  | @ended _ id entry _ _ _ _ _ since brings under ends =>
      have hcommand : P entry.command := by simpa using hd.underWay id _ under
      rcases (apply_applied _ _ _ _).resolve hresult with
        hold | ⟨rfl, ⟨late, rfl⟩ | ⟨inTime, concludes⟩⟩
      · exact .inl (by simpa using dropped_resolve hold)
      · exact .inr ⟨_, hcommand, rfl, .late late⟩
      · exact .inr ⟨_, hcommand, rfl, .ended since brings inTime concludes⟩
  | @dismissed _ id entry _ _ _ _ _ since dismisses under ends =>
      have hcommand : P entry.command := by simpa using hd.underWay id _ under
      rcases finish_resolve hresult with hold | ⟨rfl, rfl⟩
      · exact .inl (by simpa using dropped_resolve hold)
      · exact .inr ⟨_, hcommand, rfl, .dismissed since dismisses⟩

/-- Every result that a turn gives has a reason, and is for a command that was there before. -/
theorem turn_reason {d : Dispatcher} (hd : Numbered d .empty) (hdone : d.outbox = [])
    (hinput : input ≠ .shutdown) (h : Everywhere P (d, .empty)) {ticket : Nat}
    {result : Except Error Reply} (hresult : .resolve ticket result ∈ (d.turn m input).outbox) :
    ∃ command, P command ∧ ticket = command.ticket ∧
      Reason m input d (d.routed m input) command result := by
  obtain ⟨starts, hdeals⟩ := turn_deals (m := m) hd hinput
  have hreason := hdeals.induct
    (P := fun d₁ routes _ => Everywhere P (d₁, .empty) ∧ (.resolve ticket result ∈ d₁.outbox →
      ∃ command, P command ∧ ticket = command.ticket ∧ Reason m input d routes command result))
    ?_ ?_
  · exact hreason.2 hresult
  · exact ⟨mark_everywhere h input, by simp [mark, hdone]⟩
  · rintro d₁ d₂ routes starts routes' starts' hdeal ⟨hcommands, ih⟩
    obtain ⟨cause, -, hmoves⟩ := hdeal.moves
    refine ⟨Moves.induct hmoves (fun _ _ hmove => hmove.everywhere hP) hcommands, ?_⟩
    intro hresult
    rcases hdeal.reason hP hcommands hresult with hold | ⟨command, hcommand, hticket, hreason⟩
    · obtain ⟨command, hcommand, hticket, hreason⟩ := ih hold
      exact ⟨command, hcommand, hticket, hreason.mono fun _ => List.mem_append_left _⟩
    · exact ⟨command, hcommand, hticket, hreason.mono fun _ => List.mem_append_right _⟩

end

/-! ## The last retry -/

theorem Moves.outbox_mono {s t : Dispatcher × Hand} (h : Moves m cause s t) {effect : Effect}
    (heffect : effect ∈ s.1.outbox) : effect ∈ t.1.outbox :=
  Moves.induct h (P := fun s => effect ∈ s.1.outbox) (fun _ _ hmove => hmove.outbox_mono) heffect

/-- At some point of the turn the outcome is applied to the command. -/
theorem act_brings {d : Dispatcher} (hd : Numbered d .empty) {id : Nat} {entry : Entry}
    {outcome : Outcome} (hentry : d.inFlight.get? id = some entry)
    (hbrings : Brings input id entry outcome) :
    ∃ d₁ : Dispatcher, Moves m (some input) (d₁.apply m entry.command outcome, .empty)
      (d.act m input, .empty) := by
  cases hbrings with
  | @answered sender response =>
      refine ⟨(d.remove response.opaqueId.toNat).1, ?_⟩
      simp only [act, onNode, onResponse, takeSent_of_sent d hentry]
      exact .refl
  | @lost id generation command node partition carrier closed dead =>
      refine ⟨({ d with
        inFlight := d.inFlight.put id
          ⟨command, .sent node partition (some generation) closed⟩ }.remove id).1, ?_⟩
      simp only [act, onTask, onSent, hentry, List.contains_iff_mem, dead, ite_true]
      exact .refl
  | @unsent id other generation error command node partition carrier closed pool accepted =>
      refine ⟨generation.elim (d.remove id).1
        fun generation => (d.remove id).1.emit (.disconnect other generation), ?_⟩
      simp only [act, onTask, onSendFailed, takeSent_of_sent d hentry]
      cases error with
      | poolClosed => exact absurd rfl pool
      | auth node reason => exact absurd rfl (accepted node reason)
      | connect | closed => exact .refl
  | @closed id node generation reason command partition closed =>
      have hmarked : (d.mark (.node (.closed node generation reason))).inFlight.get? id =
          some ⟨command, .sent node partition (some generation) closed⟩ := by
        simp [mark_get?, hentry, markEntry, heard]
      have hlost : id ∈ (d.inFlight.filter fun e => carriedBy node generation e.2).map (·.1) :=
        List.mem_map.mpr ⟨_, List.mem_filter.mpr ⟨Assoc.mem_of_get? hentry, by simp [carriedBy]⟩,
          rfl⟩
      obtain ⟨d₁, -, -, hmoves⟩ := endLost_splits (m := m) reason hlost
        (mark_numbered hd (.node (.closed node generation reason)))
        (lost_onClosed hd node generation reason) hmarked rfl
      refine ⟨(d₁.remove id).1, ?_⟩
      have hact : d.act m (.node (.closed node generation reason)) =
          d.onClosed m node generation reason := rfl
      rw [hact, onClosed_eq]
      exact hmoves

theorem apply_exhausted {command : Command} {outcome : Outcome} {failure : String} {fault : Bool}
    (d : Dispatcher) (inTime : m.now < command.deadline)
    (hsetback : command.setback? outcome = some (failure, fault))
    (hexceeded : m.config.maxRetries < command.retries + 1) :
    d.apply m command outcome =
      d.finish command (.error (exhausted m command failure fault)) := by
  have happlied := apply_applied m d command outcome
  generalize d.apply m command outcome = d' at happlied
  cases happlied with
  | late late => exact absurd inTime (Nat.not_lt.mpr late)
  | success | definitive => cases hsetback
  | misdirected _ target => simp [Command.setback?, target] at hsetback
  | parked _ _ left | paused _ _ left => exact absurd left (UInt32.not_le.mpr hexceeded)
  | exhausted _ setback =>
      rw [hsetback] at setback
      cases setback
      rfl

/-- An attempt that ends in time and in something worth another try, when there is no other try
left, ends its command. -/
theorem turn_exhausts {d : Dispatcher} (hd : Numbered d .empty) {id : Nat} {entry : Entry}
    {outcome : Outcome} {failure : String} {fault : Bool}
    (hentry : d.inFlight.get? id = some entry) (hbrings : Brings input id entry outcome)
    (inTime : m.now < entry.command.deadline)
    (hsetback : entry.command.setback? outcome = some (failure, fault))
    (hexceeded : m.config.maxRetries < entry.command.retries + 1) :
    .resolve entry.command.ticket (.error (exhausted m entry.command failure fault)) ∈
      (d.turn m input).outbox := by
  have hinput : input ≠ .shutdown := by
    rintro rfl
    cases hbrings
  obtain ⟨d₁, hmoves⟩ := act_brings (m := m) hd hentry hbrings
  rw [apply_exhausted d₁ inTime hsetback hexceeded] at hmoves
  rw [turn_eq d hinput]
  exact Moves.outbox_mono (promoteWaiting_moves _)
    (Moves.outbox_mono hmoves (List.mem_cons_self ..))

/-- An error says that there is no retry left, unless it is that of an attempt whose node has turned
down the password. -/
inductive GivesUp (input : Input) : Error → Prop where
  | retries {retries last} : GivesUp input (.retriesExhausted retries last)
  | connection {reason} (accepted : ∀ id node generation other cause,
      input ≠ .task (.sendFailed id node generation (.auth other cause))) :
      GivesUp input (.connection reason)

theorem Concludes.of_givesUp {command : Command} {outcome : Outcome}
    {error : Error} (h : Concludes m command outcome (.error error)) (hup : GivesUp input error) :
    ∃ failure fault, command.setback? outcome = some (failure, fault) ∧
      m.config.maxRetries < command.retries + 1 ∧
      error = Dispatcher.exhausted m command failure fault := by
  cases h with
  | definitive | misdirected => cases hup
  | exhausted setback exceeded => exact ⟨_, _, setback, exceeded, rfl⟩

theorem givesUp_exhausted {input : Input} {id : Nat} {entry : Entry} {outcome : Outcome}
    (hbrings : Brings input id entry outcome) (failure : String) (fault : Bool) :
    GivesUp input (exhausted m entry.command failure fault) := by
  unfold exhausted
  split
  · refine .connection ?_
    rintro id' node generation other cause rfl
    cases hbrings with
    | unsent _ accepted => exact accepted _ _ rfl
  · exact .retries

/-! ## The last miss -/

/-- The number of misses before is what a command that finds no owner has used of its budget. If
that is all, the command ends. -/
theorem Deal.missed {d₀ d d' : Dispatcher} {routes : List Command} {starts : List (Nat × Nat)}
    (h : Deal m input d₀ d routes starts d') (hb : Budgeted m.config k n d) {command : Command}
    (hrouted : command ∈ routes) (hmissing : missing m command = true) :
    n.misses command.ticket = command.routeRefreshes ∧
      (command.routeRefreshes < m.config.maxRouteRefreshes ∨
        ∃ partition, .resolve command.ticket (.error (.noRoute partition)) ∈ d'.outbox) := by
  have hroute : ∀ {d₁ starts d'}, Routed m d₁ command starts d' →
      command.routeRefreshes < m.config.maxRouteRefreshes ∨
        ∃ partition, .resolve command.ticket (.error (.noRoute partition)) ∈ d'.outbox := by
    intro d₁ starts d' h
    cases h with
    | late late => simp [missing_of_late late] at hmissing
    | started _ found | waiting _ found => simp [missing_of_ok found] at hmissing
    | parked _ _ left => exact .inl left
    | unowned => exact .inr ⟨_, List.mem_cons_self ..⟩
  cases h with
  | aside | rested | refused | expired | promoted | ended | dismissed => cases hrouted
  | @accepted _ queuedCommand rest cause queued =>
      obtain rfl := List.mem_singleton.mp hrouted
      obtain ⟨hpaid, -⟩ := hb.queued queuedCommand (by simp [queued])
      exact ⟨hpaid.misses, hroute (route_routed _ _ _)⟩
  | resumed cause found | unparked cause found =>
      obtain rfl := List.mem_singleton.mp hrouted
      obtain ⟨used, hpaid⟩ := hb.covered _ _ found
      exact ⟨hpaid.misses, hroute (route_routed _ _ _)⟩

end ClusterKv.Dispatcher

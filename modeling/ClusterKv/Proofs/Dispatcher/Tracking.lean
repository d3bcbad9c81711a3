import ClusterKv.Proofs.Dispatcher.Attempts

/-! # What becomes of an entry

An entry stays as it is until a move takes it out, and each stage is left in its own ways. From
this follows what a turn can do to an attempt under way, and that a turn leaves every attempt that
it starts under way. -/

namespace ClusterKv

/-- A stage in which a command waits for something other than room. -/
def Stage.isRest : Stage → Bool
  | .awaitingTopology | .backoff _ => true
  | .sent .. | .waiting .. => false

namespace Dispatcher

variable {m : Moment} {cause : Cause} {input : Input}

/-! ## How entries leave -/

/-- An entry is taken out, and its command goes in hand or is ended. -/
inductive Leaves (m : Moment) : Cause → Nat → Entry → Hand → Prop where
  | retire {cause id command node partition carrier closed}
      (ends : Ends cause id ⟨command, .sent node partition carrier closed⟩) :
      Leaves m cause id ⟨command, .sent node partition carrier closed⟩ (.spent id command)
  | expire {id entry} (late : entry.command.deadline ≤ m.now) :
      Leaves m (some .timers) id entry .empty
  | resume {id command due} :
      Leaves m (some .timers) id ⟨command, .backoff due⟩ (.held command)
  | unpark {result id command} :
      Leaves m (some (.task (.refreshed result))) id ⟨command, .awaitingTopology⟩ (.held command)
  | promote {id command node partition} :
      Leaves m none id ⟨command, .waiting node partition⟩ (.held command)

/-- A number stays out of the hand when another entry is taken out. -/
theorem apart_erase {d d' : Dispatcher} {hand : Hand} {id other : Nat}
    (hid : Apart id (d, .empty)) (hne : id ≠ other)
    (hentries : d'.inFlight = d.inFlight.erase other) (hnext : d'.nextId = d.nextId)
    (hhand : ∀ number, hand.number? = some number → number = other) :
    d'.inFlight.get? id = d.inFlight.get? id ∧ Apart id (d', hand) := by
  refine ⟨?_, ?_, ?_⟩
  · rw [hentries, Assoc.get?_erase_of_ne _ hne]
  · rw [hnext]
    exact hid.1
  · intro hnumber
    exact hne (hhand id hnumber)

/-- A move leaves an entry alone or takes it out. -/
theorem Move.entry_cases {s t : Dispatcher × Hand} (h : Move m cause s t)
    (hs : Numbered s.1 s.2) {id : Nat} (hid : Apart id s) :
    t.1.inFlight.get? id = s.1.inFlight.get? id ∧ Apart id t ∨
      ∃ entry, s.1.inFlight.get? id = some entry ∧ t.1.inFlight.get? id = none ∧
        id < t.1.nextId ∧ Leaves m cause id entry t.2 ∧
        (t.2 = .empty →
          ∃ result, .resolve entry.command.ticket result ∈ t.1.outbox) := by
  have hheld : ∀ other command stage, s.1.inFlight.get? other = some ⟨command, stage⟩ →
      ∀ number, Hand.number? (.held command) = some number → number = other := by
    intro other command stage hentry number hnumber
    exact (Option.some.inj hnumber).symm.trans (hs.keyed other _ hentry)
  cases h with
  | handle handling =>
      obtain ⟨hapart, hget, -⟩ := handling.frame hid
      exact .inl ⟨hget, hapart⟩
  | draw =>
      refine .inl ⟨rfl, Nat.lt_succ_of_lt hid.1, ?_⟩
      intro hnumber
      exact Nat.ne_of_gt hid.1 (Option.some.inj hnumber)
  | @retire _ d other command node partition carrier closed under ends =>
      by_cases hother : id = other
      · subst hother
        exact .inr ⟨_, under, by simp, by simpa using hid.1, .retire ends, by simp⟩
      · exact .inl (apart_erase hid hother (by simp) (by simp) (by simp [Hand.number?]))
  | @expire d other entry found late =>
      by_cases hother : id = other
      · subst hother
        exact .inr ⟨entry, found, by simp, by simpa using hid.1, .expire late, by simp⟩
      · exact .inl (apart_erase hid hother (by simp) (by simp) (by simp [Hand.number?]))
  | @resume d other command due found reached =>
      by_cases hother : id = other
      · subst hother
        exact .inr ⟨_, found, by simp, by simpa using hid.1, .resume, by simp⟩
      · exact .inl (apart_erase hid hother (by simp) (by simp) (hheld other _ _ found))
  | @unpark _ d other command found taken =>
      by_cases hother : id = other
      · subst hother
        exact .inr ⟨_, found, by simp, by simpa using hid.1, .unpark, by simp⟩
      · exact .inl (apart_erase hid hother (by simp) (by simp) (hheld other _ _ found))
  | @promote d node other rest command otherNode partition first room found =>
      by_cases hother : id = other
      · subst hother
        exact .inr ⟨_, found, by simp, by simpa using hid.1, .promote, by simp⟩
      · exact .inl (apart_erase hid hother (by simp) (by simp) (hheld other _ _ found))
  | skip | tidy | collect | tick => exact .inl ⟨rfl, hid.1, by simp [Hand.number?]⟩

/-- A number whose entry is gone stays free. -/
theorem Move.gone {s t : Dispatcher × Hand} (h : Move m cause s t) (hs : Numbered s.1 s.2)
    {id : Nat} (hid : Apart id s) (hgone : s.1.inFlight.get? id = none) :
    Apart id t ∧ t.1.inFlight.get? id = none := by
  rcases h.entry_cases hs hid with ⟨hget, hid⟩ | ⟨entry, hentry, -⟩
  · exact ⟨hid, hget.trans hgone⟩
  · rw [hgone] at hentry
    cases hentry

theorem Moves.gone {s t : Dispatcher × Hand} (h : Moves m cause s t) (hs : Numbered s.1 s.2)
    {id : Nat} (hid : Apart id s) (hgone : s.1.inFlight.get? id = none) :
    Apart id t ∧ t.1.inFlight.get? id = none := by
  have hmoves := Moves.induct h
    (P := fun s => Numbered s.1 s.2 ∧ Apart id s ∧ s.1.inFlight.get? id = none)
    (fun _ _ hmove hs => ⟨hmove.numbered hs.1, hmove.gone hs.1 hs.2.1 hs.2.2⟩) ⟨hs, hid, hgone⟩
  exact hmoves.2

theorem turn_gone {d : Dispatcher} (hd : Numbered d .empty) (input : Input) {id : Nat}
    (hissued : id < d.nextId) (hgone : d.inFlight.get? id = none) :
    (d.turn m input).inFlight.get? id = none := by
  by_cases hinput : input = .shutdown
  · simp [hinput, turn, shutDown_eq]
  · have hmark := mark_numbered hd input
    have hmoves := act_moves (m := m) hd hinput
    have hid : Apart id (d.mark input, .empty) := ⟨hissued, by simp [Hand.number?]⟩
    obtain ⟨hid, hact⟩ := Moves.gone hmoves hmark hid (by simp [mark_get?, hgone])
    rw [turn_eq d hinput]
    exact (Moves.gone (promoteWaiting_moves _) (Moves.numbered hmoves hmark) hid hact).2

/-! ## Attempts under way -/

/-- What has become of an attempt since the input was noted: its entry is there as noted; or its
command is in hand or rests, as the input gave cause for; or the command is resolved. -/
inductive Fate (input : Input) (id : Nat) (noted : Entry) (s : Dispatcher × Hand) : Prop where
  | stays (entry : s.1.inFlight.get? id = some noted)
  | spent (gone : s.1.inFlight.get? id = none) (ends : Ends (some input) id noted)
      (hand : s.2 = .spent id noted.command)
  | charged (gone : s.1.inFlight.get? id = none) (ends : Ends (some input) id noted)
      (setback : Setback (some input) id) (command : Command)
      (hand : s.2 = .charged command ∨ s.2 = .shelved command)
      (same : noted.command.Continues command)
  | rests (gone : s.1.inFlight.get? id = none) (ends : Ends (some input) id noted)
      (setback : Setback (some input) id) (other : Nat) (entry : Entry)
      (found : s.1.inFlight.get? other = some entry) (rest : entry.stage.isRest = true)
      (same : noted.command.Continues entry.command)
  | resolved (gone : s.1.inFlight.get? id = none)
      (cause : Ends (some input) id noted ∨ input = .timers) (result : Except Error Reply)
      (told : .resolve noted.command.ticket result ∈ s.1.outbox)

theorem Move.handling_or_empty {s t : Dispatcher × Hand} (h : Move m cause s t) :
    Handling m cause s t ∨ s.2 = .empty := by
  cases h with
  | handle handling => exact .inl handling
  | draw | retire | expire | resume | unpark | promote | skip | tidy | collect | tick =>
      exact .inr rfl

theorem Handling.outbox_mono {s t : Dispatcher × Hand} (h : Handling m cause s t)
    {effect : Effect} (heffect : effect ∈ s.1.outbox) : effect ∈ t.1.outbox := by
  cases h with
  | locate | miss | charge | advance | renumber | renumberUnused => exact heffect
  | disconnect | settle => exact List.mem_cons_of_mem _ heffect
  | start => exact List.mem_cons_of_mem _ (by simpa using heffect)
  | wait | pause => simpa using heffect
  | park =>
      unfold requestRefresh
      split
      · simpa using heffect
      · exact List.mem_cons_of_mem _ (by simpa using heffect)

theorem Move.outbox_mono {s t : Dispatcher × Hand} (h : Move m cause s t)
    {effect : Effect} (heffect : effect ∈ s.1.outbox) : effect ∈ t.1.outbox := by
  cases h with
  | handle handling => exact handling.outbox_mono heffect
  | draw | skip | tidy | collect | tick => exact heffect
  | retire | resume | unpark | promote => simpa using heffect
  | expire => exact List.mem_cons_of_mem _ (by simpa using heffect)

/-- Where the command of an ended attempt can go. -/
theorem Handling.fate {s t : Dispatcher × Hand} {id : Nat} {noted : Entry}
    (h : Handling m cause s t) (hcause : cause = some input ∨ cause = none)
    (hs : Numbered s.1 s.2) (hid : Apart id s) (hfate : Fate input id noted s) :
    Fate input id noted t := by
  obtain ⟨-, hget, -⟩ := h.frame hid
  cases hfate with
  | stays entry => exact .stays (hget.trans entry)
  | spent gone ends hand =>
      obtain ⟨d, hand⟩ := s
      subst hand
      cases h with
      | charge inTime setback left =>
          rcases hcause with rfl | rfl
          · exact .charged gone ends setback _ (.inl rfl) ⟨rfl, rfl, rfl, rfl, rfl⟩
          · cases setback
      | disconnect => exact .spent gone ends rfl
      | settle verdict =>
          obtain rfl := Option.some.inj verdict.command_eq
          exact .resolved gone (.inl ends) _ (List.mem_cons_self ..)
  | charged gone ends setback command hand same =>
      obtain ⟨d, hand⟩ := s
      rcases hand with rfl | rfl
      · cases h with
        | advance =>
            exact .charged gone ends setback _ (.inl rfl)
              ⟨same.ticket, same.operation, same.target, same.deadline, same.timeout⟩
        | renumber =>
            exact .charged gone ends setback _ (.inr rfl)
              ⟨same.ticket, same.operation, same.target, same.deadline, same.timeout⟩
        | settle verdict => cases verdict
      · cases h with
        | park =>
            refine .rests (hget.trans gone) ends setback command.id ⟨command, .awaitingTopology⟩
              ?_ rfl same
            simp
        | @pause _ _ _ resume due =>
            refine .rests (hget.trans gone) ends setback command.id ⟨command, .backoff resume⟩
              ?_ rfl same
            simp
        | settle verdict => cases verdict
  | rests gone ends setback other entry found rest same =>
      obtain ⟨-, hother, -⟩ := h.frame (hs.apart found)
      exact .rests (hget.trans gone) ends setback other entry (hother.trans found) rest same
  | resolved gone why result told =>
      exact .resolved (hget.trans gone) why result (h.outbox_mono told)

/-- Timers, refreshes and room at a node end no attempt. -/
theorem Ends.cause_ne {id : Nat} {entry : Entry} (h : Ends cause id entry) :
    cause ≠ some .timers ∧ (∀ result, cause ≠ some (.task (.refreshed result))) ∧
      cause ≠ some .accept := by
  cases h <;> exact ⟨by simp, by simp, by simp⟩

/-- A resting entry is not touched where attempts are ended. -/
theorem Leaves.not_rest {id other : Nat} {entry noted : Entry} {hand : Hand}
    (h : Leaves m cause other entry hand) (hcause : cause = some input ∨ cause = none)
    (hends : Ends (some input) id noted) : entry.stage.isRest = false := by
  obtain ⟨htimers, hrefreshed, -⟩ := hends.cause_ne
  cases h with
  | retire => rfl
  | promote => rfl
  | expire =>
      rcases hcause with hcause | hcause
      · exact absurd hcause.symm htimers
      · cases hcause
  | resume =>
      rcases hcause with hcause | hcause
      · exact absurd hcause.symm htimers
      · cases hcause
  | unpark =>
      rcases hcause with hcause | hcause
      · exact absurd hcause.symm (hrefreshed _)
      · cases hcause

/-- A resting command stays at rest where attempts are ended. -/
theorem Move.rest_stays {s t : Dispatcher × Hand} (h : Move m cause s t)
    (hcause : cause = some input ∨ cause = none) (hs : Numbered s.1 s.2) {id other : Nat}
    {noted entry : Entry} (hends : Ends (some input) id noted)
    (hentry : s.1.inFlight.get? other = some entry) (hrest : entry.stage.isRest = true) :
    t.1.inFlight.get? other = some entry := by
  rcases h.entry_cases hs (hs.apart hentry) with ⟨hget, -⟩ | ⟨found, hfound, -, -, hleaves, -⟩
  · exact hget.trans hentry
  · obtain rfl := Option.some.inj (hentry.symm.trans hfound)
    rw [hleaves.not_rest hcause hends] at hrest
    cases hrest

theorem Move.fate {s t : Dispatcher × Hand} {id : Nat} {noted : Entry} (h : Move m cause s t)
    (hcause : cause = some input ∨ cause = none) (hs : Numbered s.1 s.2) (hid : Apart id s)
    (hsent : noted.isSent = true) (hfate : Fate input id noted s) :
    Apart id t ∧ Fate input id noted t := by
  rcases h.entry_cases hs hid with ⟨hget, hapart⟩ | ⟨entry, hentry, hgone, hissued, hleaves, htold⟩
  · refine ⟨hapart, ?_⟩
    rcases h.handling_or_empty with handling | hempty
    · exact handling.fate hcause hs hid hfate
    · cases hfate with
      | stays entry => exact .stays (hget.trans entry)
      | spent gone ends hand =>
          rw [hempty] at hand
          cases hand
      | charged gone ends setback command hand same =>
          rw [hempty] at hand
          rcases hand with hand | hand <;> cases hand
      | rests gone ends setback other entry found rest same =>
          have hother := h.rest_stays hcause hs ends found rest
          exact .rests (hget.trans gone) ends setback other entry hother rest same
      | resolved gone why result told =>
          exact .resolved (hget.trans gone) why result (h.outbox_mono told)
  · cases hfate with
    | stays hnoted =>
        obtain rfl := Option.some.inj (hnoted.symm.trans hentry)
        generalize hhand : t.2 = hand at hleaves htold
        cases hleaves with
        | retire ends =>
            refine ⟨⟨hissued, by simp [hhand, Hand.number?]⟩, .spent hgone ?_ hhand⟩
            rcases hcause with rfl | rfl
            · exact ends
            · cases ends
        | expire late =>
            obtain ⟨result, hresult⟩ := htold rfl
            have htimers : input = .timers := by
              rcases hcause with hcause | hcause
              · exact (Option.some.inj hcause).symm
              · cases hcause
            exact ⟨⟨hissued, by simp [hhand, Hand.number?]⟩,
              .resolved hgone (.inr htimers) result hresult⟩
        | resume | unpark | promote => cases hsent
    | spent gone | charged gone | rests gone | resolved gone =>
        rw [gone] at hentry
        cases hentry

/-! ## Attempts under way through a turn -/

/-- After a turn an attempt that was under way is still there, as the input was noted, or it was
ended by the input. In that case its command rests or is resolved. -/
theorem turn_fate {d : Dispatcher} (hd : Numbered d .empty) (hinput : input ≠ .shutdown)
    {id : Nat} {entry : Entry} (hentry : d.inFlight.get? id = some entry)
    (hsent : entry.isSent = true) :
    Fate input id (markEntry input id entry) (d.turn m input, .empty) := by
  have hmarked : (markEntry input id entry).isSent = true := by
    obtain ⟨command, stage⟩ := entry
    cases stage with
    | sent => rfl
    | waiting | awaitingTopology | backoff => cases hsent
  have hstart : Fate input id (markEntry input id entry) (d.mark input, .empty) :=
    .stays (by simp [mark_get?, hentry])
  have hturn := turn_induct (m := m)
    (P := fun s => Numbered s.1 s.2 ∧ Apart id s ∧ Fate input id (markEntry input id entry) s)
    hd hinput
    (fun _ _ _ hcause hmove hs =>
      ⟨hmove.numbered hs.1, hmove.fate hcause hs.1 hs.2.1 hmarked hs.2.2⟩)
    ⟨mark_numbered hd input, ⟨hd.issued id entry hentry, by simp [Hand.number?]⟩, hstart⟩
  exact hturn.2.2

/-! ## Attempts that a turn starts -/

/-- An attempt has been started and nothing has been heard of it yet. -/
def Begun (m : Moment) (id : Nat) (node : NodeId) (request : Request) (deadline : Instant)
    (d : Dispatcher) : Prop :=
  ∃ command partition,
    d.inFlight.get? id = some ⟨command, .sent node partition none []⟩ ∧
    request = ⟨id.toUInt64, partition, command.operation⟩ ∧ deadline = command.deadline ∧
    m.now < command.deadline

theorem Move.attempt_cases {s t : Dispatcher × Hand} (h : Move m cause s t)
    (hs : Numbered s.1 s.2) {id : Nat} {node : NodeId} {request : Request} {deadline : Instant}
    (hattempt : .attempt id node request deadline ∈ t.1.outbox) :
    .attempt id node request deadline ∈ s.1.outbox ∨
      (∃ command, s.2 = .held command) ∧ Apart id t ∧ Begun m id node request deadline t.1 := by
  cases h with
  | handle handling =>
      cases handling with
      | locate | miss | charge | advance | renumber | renumberUnused => exact .inl hattempt
      | disconnect | wait | pause | settle => exact .inl (by simpa using hattempt)
      | park =>
          left
          unfold requestRefresh at hattempt
          split at hattempt <;> simpa using hattempt
      | @start _ d command node partition inTime room =>
          simp only [emit_outbox, insert_outbox, List.mem_cons, Effect.attempt.injEq] at hattempt
          rcases hattempt with ⟨rfl, rfl, rfl, rfl⟩ | hold
          · refine .inr ⟨⟨command, rfl⟩, ⟨?_, by simp [Hand.number?]⟩, command, partition, ?_,
              rfl, rfl, inTime⟩
            · simpa using (hs.in_hand command.id rfl).1
            · simp
          · exact .inl hold
  | draw | skip | tidy | collect | tick => exact .inl hattempt
  | retire | resume | unpark | promote => exact .inl (by simpa using hattempt)
  | expire => exact .inl (by simpa using hattempt)

/-- Where attempts are ended none is started. -/
theorem act_starts_none {d : Dispatcher} (hd : Numbered d .empty) (hinput : input ≠ .shutdown)
    {id : Nat} {entry : Entry} (hends : Ends (some input) id entry) {other : Nat} {node : NodeId}
    {request : Request} {deadline : Instant}
    (hnone : .attempt other node request deadline ∉ d.outbox) :
    .attempt other node request deadline ∉ (d.act m input).outbox := by
  obtain ⟨htimers, hrefreshed, haccept⟩ := hends.cause_ne
  have hact := Moves.induct (m := m)
    (P := fun s => Numbered s.1 s.2 ∧ (∀ command, s.2 ≠ .held command) ∧
      .attempt other node request deadline ∉ s.1.outbox)
    (act_moves hd hinput) ?_ ⟨mark_numbered hd input, by simp, hnone⟩
  · exact hact.2.2
  · rintro s t hmove ⟨hs, hheld, hnone⟩
    refine ⟨hmove.numbered hs, ?_, ?_⟩
    · cases hmove with
      | handle handling =>
          cases handling with
          | locate | miss => exact absurd rfl (hheld _)
          | disconnect => exact hheld
          | charge | advance | renumber | renumberUnused | start | wait | park | pause | settle =>
              simp
      | draw => exact absurd rfl haccept
      | resume => exact absurd rfl htimers
      | unpark => exact absurd rfl (hrefreshed _)
      | retire | expire | collect | tick => simp
    · intro hattempt
      rcases hmove.attempt_cases hs hattempt with hold | ⟨⟨command, hcommand⟩, -⟩
      · exact hnone hold
      · exact hheld command hcommand

/-- Where no attempt is ended, attempts that have been started stay. -/
theorem Move.begun {s t : Dispatcher × Hand} (h : Move m cause s t)
    (hs : Numbered s.1 s.2) (hquiet : ∀ id entry, ¬Ends cause id entry) {id : Nat} {node : NodeId}
    {request : Request} {deadline : Instant}
    (hbegun : .attempt id node request deadline ∈ s.1.outbox →
      Apart id s ∧ Begun m id node request deadline s.1)
    (hattempt : .attempt id node request deadline ∈ t.1.outbox) :
    Apart id t ∧ Begun m id node request deadline t.1 := by
  rcases h.attempt_cases hs hattempt with hold | ⟨-, hnew⟩
  · obtain ⟨hid, command, partition, hentry, hrest⟩ := hbegun hold
    rcases h.entry_cases hs hid with ⟨hget, hapart⟩ | ⟨entry, hfound, -, -, hleaves, -⟩
    · exact ⟨hapart, command, partition, hget.trans hentry, hrest⟩
    · obtain rfl := Option.some.inj (hentry.symm.trans hfound)
      obtain ⟨-, -, hinTime⟩ := hrest
      generalize t.2 = hand at hleaves
      cases hleaves with
      | retire ends => exact absurd ends (hquiet _ _)
      | expire late => exact absurd hinTime (Nat.not_lt.mpr late)
  · exact hnew

/-- After a turn every attempt that it has started is under way, and nothing has been heard of it
yet. -/
theorem turn_begun {d : Dispatcher} (hd : Numbered d .empty) (hdone : d.outbox = [])
    (input : Input) {id : Nat} {node : NodeId} {request : Request} {deadline : Instant}
    (hattempt : .attempt id node request deadline ∈ (d.turn m input).outbox) :
    Begun m id node request deadline (d.turn m input) := by
  by_cases hinput : input = .shutdown
  · rw [hinput, turn, shutDown_eq, hdone] at hattempt
    simp at hattempt
  · have hnone : .attempt id node request deadline ∉ d.outbox := by simp [hdone]
    have hmark := mark_numbered hd input
    have hact : Numbered (d.act m input) .empty ∧
        (.attempt id node request deadline ∈ (d.act m input).outbox →
          Apart id (d.act m input, .empty) ∧ Begun m id node request deadline (d.act m input)) := by
      refine ⟨Moves.numbered (act_moves hd hinput) hmark, ?_⟩
      by_cases hends : ∃ other entry, Ends (some input) other entry
      · obtain ⟨other, entry, hends⟩ := hends
        intro hstarted
        exact absurd hstarted (act_starts_none hd hinput hends hnone)
      · have hquiet : ∀ other entry, ¬Ends (some input) other entry :=
          fun other entry h => hends ⟨other, entry, h⟩
        have hmoves := Moves.induct (m := m)
          (P := fun s => Numbered s.1 s.2 ∧
            (.attempt id node request deadline ∈ s.1.outbox →
              Apart id s ∧ Begun m id node request deadline s.1))
          (act_moves hd hinput)
          (fun _ _ hmove hs => ⟨hmove.numbered hs.1, hmove.begun hs.1 hquiet hs.2⟩)
          ⟨hmark, fun hstarted => absurd hstarted hnone⟩
        exact hmoves.2
    rw [turn_eq d hinput] at hattempt ⊢
    have hquiet : ∀ other entry, ¬Ends none other entry := by
      intro other entry h
      cases h
    have hmoves := Moves.induct (m := m)
      (P := fun s => Numbered s.1 s.2 ∧
        (.attempt id node request deadline ∈ s.1.outbox →
          Apart id s ∧ Begun m id node request deadline s.1))
      (promoteWaiting_moves (d.act m input))
      (fun _ _ hmove hs => ⟨hmove.numbered hs.1, hmove.begun hs.1 hquiet hs.2⟩) hact
    exact (hmoves.2 hattempt).2

end Dispatcher

end ClusterKv

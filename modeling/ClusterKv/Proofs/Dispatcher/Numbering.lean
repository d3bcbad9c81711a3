import ClusterKv.Proofs.Dispatcher.Moves

/-! # Numbers of attempts

Every entry in flight stands under the number of its command, and numbers are handed out in
ascending order. Moves keep this, and they concern no number but those of the commands they move
and numbers that have not been handed out yet. -/

namespace ClusterKv.Dispatcher

variable {m : Moment} {cause : Cause}

/-! ## More on the small operations -/

@[simp] theorem requestRefresh_inFlight (d : Dispatcher) :
    d.requestRefresh.inFlight = d.inFlight := by
  unfold requestRefresh
  split <;> rfl

@[simp] theorem requestRefresh_inbound (d : Dispatcher) :
    d.requestRefresh.inbound = d.inbound := by
  unfold requestRefresh
  split <;> rfl

@[simp] theorem requestRefresh_nextId (d : Dispatcher) : d.requestRefresh.nextId = d.nextId := by
  unfold requestRefresh
  split <;> rfl

@[simp] theorem requestRefresh_timers (d : Dispatcher) : d.requestRefresh.timers = d.timers := by
  unfold requestRefresh
  split <;> rfl

@[simp] theorem requestRefresh_parked (d : Dispatcher) : d.requestRefresh.parked = d.parked := by
  unfold requestRefresh
  split <;> rfl

@[simp] theorem requestRefresh_waiting (d : Dispatcher) :
    d.requestRefresh.waiting = d.waiting := by
  unfold requestRefresh
  split <;> rfl

@[simp] theorem requestRefresh_stopped (d : Dispatcher) :
    d.requestRefresh.stopped = d.stopped := by
  unfold requestRefresh
  split <;> rfl

/-! ## The invariant -/

/-- The numbers of a dispatcher are in order. Each entry stands once, under the number of its
command, and no number is used before it is handed out. Whatever is parked and still in flight
waits for a refresh. The number of the command in hand is free. -/
structure Numbered (d : Dispatcher) (hand : Hand) : Prop where
  distinct : d.inFlight.keys.Nodup
  queues : d.waiting.keys.Nodup
  keyed : ∀ id entry, d.inFlight.get? id = some entry → entry.command.id = id
  issued : ∀ id entry, d.inFlight.get? id = some entry → id < d.nextId
  parked : ∀ id ∈ d.parked, ∀ entry, d.inFlight.get? id = some entry →
    entry.stage = .awaitingTopology
  parked_issued : ∀ id ∈ d.parked, id < d.nextId
  parked_once : d.parked.Nodup
  in_hand : ∀ id, hand.number? = some id →
    id < d.nextId ∧ d.inFlight.get? id = none ∧ id ∉ d.parked

namespace Numbered

variable {d d' : Dispatcher} {hand : Hand}

theorem start : Numbered {} .empty where
  distinct := by simp [Assoc.keys]
  queues := by simp [Assoc.keys]
  keyed := by simp
  issued := by simp
  parked := by simp
  parked_issued := by simp
  parked_once := by simp
  in_hand := by simp [Hand.number?]

theorem fresh_free (h : Numbered d hand) {id : Nat} (hid : d.nextId ≤ id) :
    d.inFlight.get? id = none := by
  cases hentry : d.inFlight.get? id with
  | none => rfl
  | some entry =>
      have hlt := h.issued id entry hentry
      omega

/-- Putting the command in hand away keeps the numbers in order. -/
theorem place {command : Command} {stage : Stage} (h : Numbered d hand)
    (hhand : hand.number? = some command.id)
    (hentries : d'.inFlight = d.inFlight.put command.id ⟨command, stage⟩)
    (hnext : d'.nextId = d.nextId) (hqueues : d'.waiting.keys.Nodup)
    (hparked : ∀ id ∈ d'.parked, id ∈ d.parked ∨ id = command.id ∧ stage = .awaitingTopology)
    (honce : d'.parked.Nodup) : Numbered d' .empty := by
  obtain ⟨hissued, hfree, hunparked⟩ := h.in_hand command.id hhand
  have hget : ∀ id entry, d'.inFlight.get? id = some entry →
      id = command.id ∧ entry = ⟨command, stage⟩ ∨ d.inFlight.get? id = some entry := by
    intro id entry hentry
    rw [hentries] at hentry
    by_cases hid : id = command.id
    · subst hid
      rw [Assoc.get?_put_self] at hentry
      exact .inl ⟨rfl, (Option.some.inj hentry).symm⟩
    · rw [Assoc.get?_put_of_ne _ _ hid] at hentry
      exact .inr hentry
  refine ⟨?_, hqueues, ?_, ?_, ?_, ?_, honce, by simp [Hand.number?]⟩
  · rw [hentries]
    exact Assoc.nodup_keys_put h.distinct _ _
  · intro id entry hentry
    rcases hget id entry hentry with ⟨rfl, rfl⟩ | hold
    · rfl
    · exact h.keyed id entry hold
  · intro id entry hentry
    rw [hnext]
    rcases hget id entry hentry with ⟨rfl, -⟩ | hold
    · exact hissued
    · exact h.issued id entry hold
  · intro id hid entry hentry
    rcases hparked id hid with hid | ⟨rfl, hstage⟩
    · rcases hget id entry hentry with ⟨rfl, -⟩ | hold
      · exact absurd hid hunparked
      · exact h.parked id hid entry hold
    · rw [hentries, Assoc.get?_put_self] at hentry
      rw [← Option.some.inj hentry]
      exact hstage
  · intro id hid
    rw [hnext]
    rcases hparked id hid with hid | ⟨rfl, -⟩
    · exact h.parked_issued id hid
    · exact hissued

/-- Taking a command out keeps the numbers in order. -/
theorem release {id : Nat} {hand' : Hand} (h : Numbered d .empty)
    (hentries : d'.inFlight = d.inFlight.erase id) (hnext : d'.nextId = d.nextId)
    (hqueues : d'.waiting.keys.Nodup) (hparked : d'.parked = d.parked)
    (hhand : ∀ number, hand'.number? = some number →
      number = id ∧ id < d.nextId ∧ id ∉ d.parked) : Numbered d' hand' := by
  have hget : ∀ other entry, d'.inFlight.get? other = some entry →
      d.inFlight.get? other = some entry := by
    intro other entry hentry
    rw [hentries] at hentry
    exact (Assoc.get?_of_erase hentry).2
  refine ⟨?_, hqueues, fun other entry hentry => h.keyed other entry (hget other entry hentry),
    ?_, ?_, ?_, ?_, ?_⟩
  · rw [hentries]
    exact Assoc.nodup_keys_erase h.distinct _
  · intro other entry hentry
    rw [hnext]
    exact h.issued other entry (hget other entry hentry)
  · intro other hother entry hentry
    rw [hparked] at hother
    exact h.parked other hother entry (hget other entry hentry)
  · intro other hother
    rw [hparked] at hother
    rw [hnext]
    exact h.parked_issued other hother
  · rw [hparked]
    exact h.parked_once
  · intro number hnumber
    obtain ⟨rfl, hissued, hunparked⟩ := hhand number hnumber
    rw [hnext, hentries, hparked]
    exact ⟨hissued, Assoc.get?_erase_self _ _, hunparked⟩

/-- A new number is free. -/
theorem renumber {hand' : Hand} (h : Numbered d hand) (command : Command)
    (hhand : hand'.number? = some d.nextId) : Numbered (d.assignId command).1 hand' := by
  refine ⟨h.distinct, h.queues, h.keyed, ?_, h.parked, ?_, h.parked_once, ?_⟩
  · intro id entry hentry
    exact Nat.lt_succ_of_lt (h.issued id entry hentry)
  · intro id hid
    exact Nat.lt_succ_of_lt (h.parked_issued id hid)
  · intro id hid
    obtain rfl : d.nextId = id := Option.some.inj (hhand.symm.trans hid)
    refine ⟨Nat.lt_succ_self _, h.fresh_free (Nat.le_refl _), ?_⟩
    intro hparked
    exact Nat.lt_irrefl _ (h.parked_issued _ hparked)

/-- The hand may be emptied, or hold the command under the same number. -/
theorem of_number (h : Numbered d hand) {hand' : Hand}
    (hhand : ∀ id, hand'.number? = some id → hand.number? = some id) : Numbered d hand' :=
  { h with in_hand := fun id hid => h.in_hand id (hhand id hid) }

/-- Only the entries in flight, the queues' names and what is parked count. -/
theorem congr (h : Numbered d hand) (hentries : d'.inFlight = d.inFlight)
    (hnext : d'.nextId = d.nextId) (hqueues : d'.waiting.keys.Nodup)
    (hparked : d'.parked = d.parked) : Numbered d' hand := by
  refine ⟨?_, hqueues, ?_, ?_, ?_, ?_, ?_, ?_⟩
  all_goals simp only [hentries, hnext, hparked]
  exacts [h.distinct, h.keyed, h.issued, h.parked, h.parked_issued, h.parked_once, h.in_hand]

end Numbered

/-! ## Moves keep the invariant -/

theorem Handling.numbered {s t : Dispatcher × Hand} (h : Handling m cause s t)
    (hs : Numbered s.1 s.2) : Numbered t.1 t.2 := by
  cases h with
  | locate => exact hs.of_number fun _ => id
  | miss => exact hs.of_number fun _ => id
  | charge => exact hs.of_number (by simp [Hand.number?])
  | advance => exact hs.of_number (by simp [Hand.number?])
  | renumber => exact hs.renumber _ rfl
  | renumberUnused => exact hs.renumber _ rfl
  | disconnect => exact hs.congr rfl rfl hs.queues rfl
  | @start _ d command =>
      refine hs.place rfl (by simp; rfl) (by simp) ?_ (by simp) (by simpa using hs.parked_once)
      rw [emit_waiting]
      exact insert_waiting_keys_nodup d hs.queues _ _
  | wait =>
      refine hs.place rfl (by simp; rfl) (by simp) ?_ (by simp) (by simpa using hs.parked_once)
      exact insert_waiting_keys_nodup _ (by exact hs.queues) _ _
  | @park _ d command =>
      refine hs.place rfl (by simp; rfl) (by simp) ?_ (by simp) ?_
      · simp only [requestRefresh_waiting]
        exact insert_waiting_keys_nodup _ (by exact hs.queues) _ _
      · obtain ⟨-, -, hunparked⟩ := hs.in_hand command.id rfl
        simp only [requestRefresh_parked, insert_parked]
        exact List.Nodup.append hs.parked_once (List.nodup_singleton _) (by simpa using hunparked)
  | pause =>
      refine hs.place rfl (by simp; rfl) (by simp) ?_ (by simp) (by simpa using hs.parked_once)
      exact insert_waiting_keys_nodup _ (by exact hs.queues) _ _
  | @settle _ d hand command result =>
      have hfinish : Numbered (d.finish command result) hand := hs.congr rfl rfl hs.queues rfl
      exact hfinish.of_number (by simp [Hand.number?])

theorem Move.numbered {s t : Dispatcher × Hand} (h : Move m cause s t)
    (hs : Numbered s.1 s.2) : Numbered t.1 t.2 := by
  cases h with
  | handle handling => exact handling.numbered hs
  | @draw d command rest =>
      have hrest : Numbered { d with inbound := rest } .empty := hs.congr rfl rfl hs.queues rfl
      exact hrest.renumber command rfl
  | retire =>
      exact hs.release (by simp; rfl) (by simp) (remove_waiting_keys_nodup _ hs.queues _) (by simp)
        (by simp [Hand.number?])
  | expire =>
      exact hs.release (by simp; rfl) (by simp) (remove_waiting_keys_nodup _ hs.queues _) (by simp)
        (by simp [Hand.number?])
  | @resume d id command due found reached =>
      refine hs.release (by simp; rfl) (by simp) (remove_waiting_keys_nodup _ hs.queues _)
        (by simp) ?_
      intro number hnumber
      obtain rfl : command.id = number := Option.some.inj hnumber
      refine ⟨hs.keyed id _ found, hs.issued id _ found, ?_⟩
      intro hparked
      cases hs.parked id hparked _ found
  | @unpark _ d id command found taken =>
      refine hs.release (by simp; rfl) (by simp) (remove_waiting_keys_nodup _ hs.queues _)
        (by simp) ?_
      intro number hnumber
      obtain rfl : command.id = number := Option.some.inj hnumber
      exact ⟨hs.keyed id _ found, hs.issued id _ found, taken⟩
  | @promote d node id rest command other partition first room found =>
      refine hs.release (by simp; rfl) (by simp) (remove_waiting_keys_nodup _ ?_ _) (by simp) ?_
      · exact Assoc.nodup_keys_put hs.queues _ _
      · intro number hnumber
        obtain rfl : command.id = number := Option.some.inj hnumber
        refine ⟨hs.keyed id _ found, hs.issued id _ found, ?_⟩
        intro hparked
        cases hs.parked id hparked _ found
  | skip => exact hs.congr rfl rfl (Assoc.nodup_keys_put hs.queues _ _) rfl
  | tidy => exact hs.congr rfl rfl (Assoc.nodup_keys_filter hs.queues _) rfl
  | collect =>
      exact ⟨hs.distinct, hs.queues, hs.keyed, hs.issued, by simp, by simp, by simp,
        by simp [Hand.number?]⟩
  | tick => exact hs.congr rfl rfl hs.queues rfl

/-- What every move keeps, a whole row of moves keeps. -/
theorem Moves.induct {P : Dispatcher × Hand → Prop} {s t : Dispatcher × Hand}
    (h : Moves m cause s t) (hstep : ∀ s t, Move m cause s t → P s → P t) (hs : P s) : P t := by
  induction h with
  | refl => exact hs
  | tail _ hmove ih => exact hstep _ _ hmove ih

theorem Moves.numbered {s t : Dispatcher × Hand} (h : Moves m cause s t)
    (hs : Numbered s.1 s.2) : Numbered t.1 t.2 :=
  h.induct (P := fun s => Numbered s.1 s.2) (fun _ _ hmove => hmove.numbered) hs

/-! ## What handling a command leaves alone -/

/-- A number that has been handed out, but not to the command in hand. -/
def Apart (id : Nat) (s : Dispatcher × Hand) : Prop :=
  id < s.1.nextId ∧ s.2.number? ≠ some id

/-- No entry in flight stands under the number in hand. -/
theorem Numbered.apart {s : Dispatcher × Hand} (hs : Numbered s.1 s.2) {id : Nat} {entry : Entry}
    (hentry : s.1.inFlight.get? id = some entry) : Apart id s := by
  refine ⟨hs.issued id entry hentry, ?_⟩
  intro hnumber
  rw [(hs.in_hand id hnumber).2.1] at hentry
  cases hentry

/-- Handling a command changes no entry under another number, and parks no other. -/
theorem Handling.frame {s t : Dispatcher × Hand} (h : Handling m cause s t) {id : Nat}
    (hs : Apart id s) :
    Apart id t ∧ t.1.inFlight.get? id = s.1.inFlight.get? id ∧
      (id ∈ t.1.parked → id ∈ s.1.parked) := by
  obtain ⟨hissued, hother⟩ := hs
  have hplace : ∀ command stage, Hand.number? (.held command) ≠ some id → ∀ entries,
      Assoc.get? (Assoc.put entries command.id (⟨command, stage⟩ : Entry)) id =
        Assoc.get? entries id := by
    intro command stage hne entries
    apply Assoc.get?_put_of_ne
    rintro rfl
    exact hne rfl
  have hempty : Hand.number? .empty ≠ some id := by simp [Hand.number?]
  cases h with
  | locate => exact ⟨⟨hissued, hother⟩, rfl, fun hid => hid⟩
  | miss => exact ⟨⟨hissued, hother⟩, rfl, fun hid => hid⟩
  | charge => exact ⟨⟨hissued, by simp [Hand.number?]⟩, rfl, fun hid => hid⟩
  | advance => exact ⟨⟨hissued, by simp [Hand.number?]⟩, rfl, fun hid => hid⟩
  | renumber =>
      refine ⟨⟨Nat.lt_succ_of_lt hissued, ?_⟩, rfl, fun hid => hid⟩
      intro hnumber
      exact Nat.ne_of_gt hissued (Option.some.inj hnumber)
  | renumberUnused =>
      refine ⟨⟨Nat.lt_succ_of_lt hissued, ?_⟩, rfl, fun hid => hid⟩
      intro hnumber
      exact Nat.ne_of_gt hissued (Option.some.inj hnumber)
  | disconnect => exact ⟨⟨hissued, hother⟩, rfl, fun hid => hid⟩
  | start => exact ⟨⟨by simpa using hissued, hempty⟩, by simpa using hplace _ _ hother _, by simp⟩
  | wait => exact ⟨⟨by simpa using hissued, hempty⟩, by simpa using hplace _ _ hother _, by simp⟩
  | park =>
      refine ⟨⟨by simpa using hissued, hempty⟩, by simpa using hplace _ _ hother _, ?_⟩
      simp only [requestRefresh_parked, insert_parked, List.mem_append, List.mem_singleton]
      rintro (hid | rfl)
      · exact hid
      · exact absurd rfl hother
  | pause => exact ⟨⟨by simpa using hissued, hempty⟩, by simpa using hplace _ _ hother _, by simp⟩
  | settle => exact ⟨⟨hissued, hempty⟩, rfl, fun hid => hid⟩

theorem Handlings.frame {s t : Dispatcher × Hand} (h : Handlings m cause s t) {id : Nat}
    (hs : Apart id s) :
    Apart id t ∧ t.1.inFlight.get? id = s.1.inFlight.get? id ∧
      (id ∈ t.1.parked → id ∈ s.1.parked) := by
  induction h with
  | refl => exact ⟨hs, rfl, fun hid => hid⟩
  | tail _ hlast ih =>
      obtain ⟨hmid, hget, hparked⟩ := ih
      obtain ⟨hend, hget', hparked'⟩ := hlast.frame hmid
      exact ⟨hend, hget'.trans hget, fun hid => hparked (hparked' hid)⟩

end ClusterKv.Dispatcher

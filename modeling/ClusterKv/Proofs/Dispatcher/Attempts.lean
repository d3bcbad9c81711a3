import ClusterKv.Proofs.Dispatcher.Settled

/-! # Attempts

Every attempt has a number of its own, which its request carries. The number of a command in hand
has never been sent, and the entry of an attempt under way says what has been sent. -/

namespace ClusterKv

/-- The number and the request of an attempt. -/
def Effect.attempt? : Effect → Option (Nat × Request)
  | attempt id _ request _ => some (id, request)
  | refresh | disconnect .. | closePool | resolve .. => none

/-- The numbers and requests of the attempts among some effects, one after another. -/
def attempts (effects : List Effect) : List (Nat × Request) := effects.filterMap Effect.attempt?

theorem attempts_append (effects more : List Effect) :
    attempts (effects ++ more) = attempts effects ++ attempts more :=
  List.filterMap_append

/-- Is an attempt under way? -/
def Entry.isSent (entry : Entry) : Bool :=
  match entry.stage with
  | .sent .. => true
  | .waiting .. | .awaitingTopology | .backoff _ => false

namespace Dispatcher

variable {m : Moment} {cause : Cause}

/-! ## The invariant -/

/-- The attempts of a dispatcher, those that are still in the outbox last. -/
def tried (journal : List Effect) (d : Dispatcher) : List (Nat × Request) :=
  attempts (journal ++ d.outbox.reverse)

theorem tried_of_done {journal : List Effect} {d : Dispatcher} (h : d.outbox = []) :
    tried journal d = attempts journal := by
  rw [tried, h, List.reverse_nil, List.append_nil]

theorem tried_congr {journal : List Effect} {d d' : Dispatcher} (h : d'.outbox = d.outbox) :
    tried journal d' = tried journal d := by
  rw [tried, h, tried]

theorem tried_emit (journal : List Effect) (d : Dispatcher) (effect : Effect) :
    tried journal (d.emit effect) = tried journal d ++ effect.attempt?.toList := by
  have hlast : attempts [effect] = effect.attempt?.toList := by
    cases effect <;> rfl
  rw [tried, emit_outbox, List.reverse_cons, ← List.append_assoc, attempts_append, hlast, tried]

theorem tried_requestRefresh (journal : List Effect) (d : Dispatcher) :
    tried journal d.requestRefresh = tried journal d := by
  unfold requestRefresh
  split
  · rfl
  · rw [tried_emit]
    exact List.append_nil _

/-- The attempts are in order: each has a number of its own, which was handed out before, and is
sent under it. An entry under the number of an attempt is the entry of that attempt. -/
structure Tried (journal : List Effect) (s : Dispatcher × Hand) : Prop where
  once : ((tried journal s.1).map (·.1)).Nodup
  issued : ∀ a ∈ tried journal s.1, a.1 < s.1.nextId
  labelled : ∀ a ∈ tried journal s.1, a.2.opaqueId = a.1.toUInt64
  unused : ∀ id, s.2.number? = some id → ∀ a ∈ tried journal s.1, a.1 ≠ id
  begun : ∀ id entry, s.1.inFlight.get? id = some entry →
    ∀ a ∈ tried journal s.1, a.1 = id → entry.isSent = true
  recorded : ∀ id command node partition carrier closed,
    s.1.inFlight.get? id = some ⟨command, .sent node partition carrier closed⟩ →
      (id, ⟨id.toUInt64, partition, command.operation⟩) ∈ tried journal s.1

namespace Tried

variable {journal : List Effect} {d d' : Dispatcher} {hand hand' : Hand}

/-- Only the entries, the attempts and the number in hand count. -/
theorem congr (h : Tried journal (d, hand)) (hentries : d'.inFlight = d.inFlight)
    (hnext : d.nextId ≤ d'.nextId) (htried : tried journal d' = tried journal d)
    (hhand : ∀ id, hand'.number? = some id → hand.number? = some id ∨ id = d.nextId) :
    Tried journal (d', hand') := by
  refine ⟨?_, ?_, ?_, ?_, ?_, ?_⟩
  all_goals simp only [htried, hentries]
  · exact h.once
  · intro a ha
    exact Nat.lt_of_lt_of_le (h.issued a ha) hnext
  · exact h.labelled
  · intro id hid a ha
    rcases hhand id hid with hid | rfl
    · exact h.unused id hid a ha
    · exact Nat.ne_of_lt (h.issued a ha)
  · exact h.begun
  · exact h.recorded

/-- Putting the command in hand away without an attempt. -/
theorem put {command : Command} {stage : Stage} (h : Tried journal (d, hand))
    (hhand : hand.number? = some command.id)
    (hentries : d'.inFlight = d.inFlight.put command.id ⟨command, stage⟩)
    (hnext : d'.nextId = d.nextId) (htried : tried journal d' = tried journal d)
    (hstage : Entry.isSent ⟨command, stage⟩ = false) : Tried journal (d', .empty) := by
  refine ⟨?_, ?_, ?_, by simp [Hand.number?], ?_, ?_⟩
  all_goals simp only [htried, hentries, hnext]
  · exact h.once
  · exact h.issued
  · exact h.labelled
  · intro id entry hentry a ha hid
    by_cases hself : id = command.id
    · exact absurd (hid.trans hself) (h.unused _ hhand a ha)
    · rw [Assoc.get?_put_of_ne _ _ hself] at hentry
      exact h.begun id entry hentry a ha hid
  · intro id other node partition carrier closed hentry
    by_cases hself : id = command.id
    · rw [hself, Assoc.get?_put_self] at hentry
      rw [Option.some.inj hentry] at hstage
      cases hstage
    · rw [Assoc.get?_put_of_ne _ _ hself] at hentry
      exact h.recorded id other node partition carrier closed hentry

/-- Putting the command in hand away with an attempt. -/
theorem start {command : Command} {node : NodeId} {partition : UInt16}
    (h : Tried journal (d, hand)) (hhand : hand.number? = some command.id)
    (hissued : command.id < d.nextId)
    (hentries : d'.inFlight =
      d.inFlight.put command.id ⟨command, .sent node partition none []⟩)
    (hnext : d'.nextId = d.nextId)
    (htried : tried journal d' =
      tried journal d ++ [(command.id, ⟨command.id.toUInt64, partition, command.operation⟩)]) :
    Tried journal (d', .empty) := by
  refine ⟨?_, ?_, ?_, by simp [Hand.number?], ?_, ?_⟩
  all_goals simp only [htried, hentries, hnext, List.mem_append, List.mem_singleton]
  · rw [List.map_append]
    refine List.Nodup.append h.once (List.nodup_singleton _) ?_
    intro id hid hself
    obtain ⟨a, ha, rfl⟩ := List.mem_map.mp hid
    exact h.unused _ hhand a ha (List.mem_singleton.mp hself)
  · rintro a (ha | rfl)
    · exact h.issued a ha
    · exact hissued
  · rintro a (ha | rfl)
    · exact h.labelled a ha
    · rfl
  · intro id entry hentry a ha hid
    by_cases hself : id = command.id
    · rw [hself, Assoc.get?_put_self] at hentry
      rw [← Option.some.inj hentry]
      rfl
    · rw [Assoc.get?_put_of_ne _ _ hself] at hentry
      rcases ha with ha | rfl
      · exact h.begun id entry hentry a ha hid
      · exact absurd hid.symm hself
  · intro id other otherNode otherPartition carrier closed hentry
    by_cases hself : id = command.id
    · rw [hself, Assoc.get?_put_self] at hentry
      cases hentry
      rw [hself]
      exact .inr rfl
    · rw [Assoc.get?_put_of_ne _ _ hself] at hentry
      exact .inl (h.recorded id other otherNode otherPartition carrier closed hentry)

/-- Taking out a command that has not been sent, or one for which there is no way back. -/
theorem erase {id : Nat} (h : Tried journal (d, .empty))
    (hentries : d'.inFlight = d.inFlight.erase id) (hnext : d'.nextId = d.nextId)
    (htried : tried journal d' = tried journal d)
    (hhand : ∀ number, hand'.number? = some number →
      number = id ∧ ∃ entry, d.inFlight.get? id = some entry ∧ entry.isSent = false) :
    Tried journal (d', hand') := by
  have hget : ∀ other entry, d'.inFlight.get? other = some entry →
      d.inFlight.get? other = some entry := by
    intro other entry hentry
    rw [hentries] at hentry
    exact (Assoc.get?_of_erase hentry).2
  refine ⟨?_, ?_, ?_, ?_, ?_, ?_⟩
  all_goals simp only [htried, hnext]
  · exact h.once
  · exact h.issued
  · exact h.labelled
  · intro number hnumber a ha hid
    obtain ⟨rfl, entry, hentry, hwaiting⟩ := hhand number hnumber
    rw [h.begun number entry hentry a ha hid] at hwaiting
    cases hwaiting
  · exact fun other entry hentry => h.begun other entry (hget other entry hentry)
  · exact fun other command node partition carrier closed hentry =>
      h.recorded other command node partition carrier closed (hget other _ hentry)

/-- The effects are taken out of the outbox. -/
theorem delivered (h : Tried journal (d, .empty)) :
    Tried (journal ++ d.outbox.reverse) ({ d with outbox := [] }, .empty) := by
  have hsame : tried (journal ++ d.outbox.reverse) { d with outbox := [] } = tried journal d := by
    simp [tried]
  refine ⟨?_, ?_, ?_, by simp [Hand.number?], ?_, ?_⟩
  all_goals simp only [hsame]
  · exact h.once
  · exact h.issued
  · exact h.labelled
  · exact h.begun
  · exact h.recorded

end Tried

/-! ## Moves keep the invariant -/

variable {journal : List Effect}

theorem Handling.tried {s t : Dispatcher × Hand} (h : Handling m cause s t)
    (hs : Numbered s.1 s.2) (htried : Tried journal s) : Tried journal t := by
  cases h with
  | locate | miss => exact htried.congr rfl (Nat.le_refl _) rfl fun _ hid => .inl hid
  | charge | advance => exact htried.congr rfl (Nat.le_refl _) rfl (by simp [Hand.number?])
  | renumber | renumberUnused =>
      refine htried.congr rfl (Nat.le_succ _) rfl ?_
      intro id hid
      exact .inr (Option.some.inj hid).symm
  | disconnect =>
      refine htried.congr rfl (Nat.le_refl _) ?_ fun _ hid => .inl hid
      rw [tried_emit]
      exact List.append_nil _
  | @start _ d command =>
      refine htried.start rfl (hs.in_hand command.id rfl).1 (by simp; rfl) (by simp) ?_
      rw [tried_emit, tried_congr (insert_outbox _ _ _)]
      rfl
  | wait =>
      exact htried.put rfl (by simp; rfl) (by simp) (tried_congr (insert_outbox _ _ _)) rfl
  | pause =>
      exact htried.put rfl (by simp; rfl) (by simp) (tried_congr (insert_outbox _ _ _)) rfl
  | park =>
      refine htried.put rfl (by simp; rfl) (by simp) ?_ rfl
      rw [tried_requestRefresh]
      exact tried_congr (insert_outbox _ _ _)
  | settle =>
      refine htried.congr rfl (Nat.le_refl _) ?_ (by simp [Hand.number?])
      rw [finish_eq, tried_emit]
      exact List.append_nil _

theorem Move.tried {s t : Dispatcher × Hand} (h : Move m cause s t)
    (hs : Numbered s.1 s.2) (htried : Tried journal s) : Tried journal t := by
  have hheld : ∀ id command stage, s.1.inFlight.get? id = some ⟨command, stage⟩ →
      Entry.isSent ⟨command, stage⟩ = false → ∀ number, Hand.number? (.held command) = some number →
      number = id ∧ ∃ entry, s.1.inFlight.get? id = some entry ∧ entry.isSent = false := by
    intro id command stage hentry hwaiting number hnumber
    obtain rfl : command.id = number := Option.some.inj hnumber
    exact ⟨hs.keyed id _ hentry, _, hentry, hwaiting⟩
  cases h with
  | handle handling => exact handling.tried hs htried
  | draw =>
      refine htried.congr rfl (Nat.le_succ _) rfl ?_
      intro id hid
      exact .inr (Option.some.inj hid).symm
  | retire under ends =>
      exact htried.erase (by simp; rfl) (by simp) (tried_congr (remove_outbox _ _))
        (by simp [Hand.number?])
  | expire found late =>
      refine htried.erase (by simp; rfl) (by simp) ?_ (by simp [Hand.number?])
      rw [timeOut_eq, tried_emit, tried_congr (remove_outbox _ _)]
      exact List.append_nil _
  | resume found reached =>
      exact htried.erase (by simp) (by simp) (tried_congr (remove_outbox _ _))
        (hheld _ _ _ found rfl)
  | unpark found taken =>
      exact htried.erase (by simp) (by simp) (tried_congr (remove_outbox _ _))
        (hheld _ _ _ found rfl)
  | promote first room found =>
      exact htried.erase (by simp) (by simp) (tried_congr (remove_outbox _ _))
        (hheld _ _ _ found rfl)
  | skip | tidy | collect | tick =>
      exact htried.congr rfl (Nat.le_refl _) rfl (by simp [Hand.number?])

/-- Notes leave the entries of attempts the entries of attempts. -/
theorem mark_tried {d : Dispatcher} (h : Tried journal (d, .empty)) (input : Input) :
    Tried journal (d.mark input, .empty) := by
  refine ⟨h.once, h.issued, h.labelled, h.unused, ?_, ?_⟩
  · intro id entry hentry a ha hid
    rw [mark_get?] at hentry
    obtain ⟨old, hold, rfl⟩ := Option.map_eq_some_iff.mp hentry
    have hsent := h.begun id old hold a ha hid
    obtain ⟨command, stage⟩ := old
    cases stage with
    | sent => rfl
    | waiting | awaitingTopology | backoff => cases hsent
  · intro id command node partition carrier closed hentry
    simp only [mark_get?] at hentry
    obtain ⟨⟨old, stage⟩, hold, hmark⟩ := Option.map_eq_some_iff.mp hentry
    cases stage with
    | sent =>
        cases hmark
        exact h.recorded id _ _ _ _ _ hold
    | waiting | awaitingTopology | backoff => cases hmark

theorem turn_tried {d : Dispatcher} (hd : Numbered d .empty) (h : Tried journal (d, .empty))
    (input : Input) : Tried journal (d.turn m input, .empty) := by
  by_cases hinput : input = .shutdown
  · have hsame : tried journal d.shutDown = tried journal d := by
      have hended : ∀ {α : Type} (items : List α) (ticket : α → Nat),
          attempts (items.map fun item => .resolve (ticket item) (.error .shutdown)) = [] := by
        intro α items ticket
        induction items with
        | nil => rfl
        | cons item items ih => exact ih
      rw [shutDown_eq]
      simp only [tried, List.cons_append, List.reverse_cons, List.reverse_append,
        List.reverse_reverse, attempts_append, hended, List.append_assoc]
      simp [attempts, Effect.attempt?]
    rw [hinput, turn]
    refine ⟨?_, ?_, ?_, by simp [Hand.number?], ?_, ?_⟩
    all_goals simp only [hsame]
    · exact h.once
    · rw [shutDown_eq]
      exact h.issued
    · exact h.labelled
    · simp [shutDown_eq]
    · simp [shutDown_eq]
  · have hturn := turn_induct (m := m) (P := fun s => Numbered s.1 s.2 ∧ Tried journal s) hd hinput
      (fun _ _ _ _ hmove hs => ⟨hmove.numbered hs.1, hmove.tried hs.1 hs.2⟩)
      ⟨mark_numbered hd input, mark_tried h input⟩
    exact hturn.2

end Dispatcher

namespace Run

open Dispatcher

/-- The attempts of every run are in order. -/
theorem tried (config : Config) (events : List Event) :
    Tried (of config events).journal ((of config events).dispatcher, .empty) := by
  refine dispatcher_induct (P := fun journal d => Tried journal (d, .empty)) ?_ ?_ ?_ events
  · exact ⟨List.nodup_nil, by simp [Dispatcher.tried, attempts],
      by simp [Dispatcher.tried, attempts], by simp [Hand.number?], by simp, by simp⟩
  · intro journal d command h
    exact h.congr rfl (Nat.le_refl _) rfl (by simp [Hand.number?])
  · intro journal d m input _ hd _ h
    exact (turn_tried (m := m) hd h input).delivered

theorem nextId_step (config : Config) (events : List Event) (event : Event) :
    (of config events).dispatcher.nextId ≤ (of config (events ++ [event])).dispatcher.nextId := by
  rw [of_concat]
  rcases step_cases config (of config events) event with
    ⟨_, h⟩ | ⟨_, h⟩ | ⟨_, _, input, -, -, h⟩
  · simp [h]
  · simp [h]
  · rw [h]
    exact turn_nextId (sound config events).numbered input

theorem nextId_append (config : Config) (events more : List Event) :
    (of config events).dispatcher.nextId ≤ (of config (events ++ more)).dispatcher.nextId := by
  induction more using List.reverseRecOn with
  | nil => simp
  | append_singleton more event ih =>
      rw [← List.append_assoc]
      exact Nat.le_trans ih (nextId_step config _ event)

end Run

end ClusterKv

import ClusterKv.Proofs.Pool.Callers
import ClusterKv.Proofs.Pool.Traffic

/-! # A pool that has been closed

A closed pool holds no connection and lets nobody connect. Whoever asks is refused, whoever waits is
refused when his turn comes, and whoever is connecting is refused as well, unless connecting fails:
then he is told why. What is connected too late is closed before anybody hears of it. -/

namespace ClusterKv

namespace Pool

variable {pool : Pool} {alive : Nat → Bool} {caller generation : Nat} {node : NodeId} {slot : Slot}

/-- The pool is closed and holds no connection. -/
structure Shut (pool : Pool) : Prop where
  closed : pool.closed = true
  empty : ∀ node, (pool.slot node).current = none

theorem closeAll_shut (pool : Pool) : pool.closeAll.1.Shut :=
  ⟨rfl, fun node => by rw [closeAll_slot]⟩

namespace Shut

theorem setSlot (h : pool.Shut) (hslot : slot.current = none) : (pool.setSlot node slot).Shut := by
  refine ⟨h.closed, fun other => ?_⟩
  by_cases hnode : other = node
  · rw [hnode, slot_setSlot, hslot]
  · rw [slot_setSlot_of_ne _ _ hnode, h.empty]

theorem release (h : pool.Shut) : (pool.setSlot node (Slot.release (pool.slot node))).Shut :=
  h.setSlot ((release_current _).trans (h.empty node))

theorem acquire_eq (h : pool.Shut) (alive : Nat → Bool) (caller : Nat) (node : NodeId) :
    pool.acquire alive caller node = (pool, .refused .poolClosed) := by
  simp [acquire, h.closed]

theorem enter_eq (h : pool.Shut) (alive : Nat → Bool) (caller : Nat) (node : NodeId) :
    pool.enter alive caller node =
      (pool.setSlot node (Slot.release (pool.slot node)), .refused .poolClosed) := by
  have hsame : Slot.prune alive (pool.slot node) = pool.slot node := by
    rcases prune_cases pool alive node with ⟨generation, held, -, -⟩ | ⟨-, hprune⟩
    · cases (h.empty node).symm.trans held
    · rw [hprune, ← h.empty node]
  simp [enter, hsame, h.empty node, h.closed]

/-- Whatever comes of a connect, the caller gets no connection. -/
theorem dialed_eq (h : pool.Shut) (node : NodeId) (generation : Nat)
    (result : Except ConnectionError Unit) :
    ∃ error late, pool.dialed node generation result =
      (pool.setSlot node (Slot.release (pool.slot node)), .error error, late) := by
  cases result with
  | error error => exact ⟨error, false, rfl⟩
  | ok => exact ⟨.poolClosed, true, by simp [dialed, h.closed]⟩

end Shut

/-- Where nobody connects and nobody may, nobody waits. -/
def Manned (pool : Pool) : Prop :=
  ∀ node, (pool.slot node).creation = .idle → (pool.slot node).queue = []

theorem Manned.setSlot (h : pool.Manned) (hslot : slot.creation = .idle → slot.queue = []) :
    (pool.setSlot node slot).Manned := by
  intro other
  by_cases hnode : other = node
  · rw [hnode, slot_setSlot]
    exact hslot
  · rw [slot_setSlot_of_ne _ _ hnode]
    exact h other

theorem Manned.claim (h : pool.Manned) (caller : Nat) (node : NodeId) :
    (pool.claim caller node).Manned := by
  have hnumbered : { pool with nextGeneration := pool.nextGeneration + 1 }.Manned := h
  exact hnumbered.setSlot (by simp)

theorem release_manned (slot : Slot) :
    (Slot.release slot).creation = .idle → (Slot.release slot).queue = [] := by
  rcases release_creation slot with ⟨-, -, hqueue⟩ | ⟨_, _, -, hcreation, -⟩
  · exact fun _ => hqueue
  · simp [hcreation]

end Pool

namespace Traffic

variable {t₀ t t' : Traffic} {event : Event} {node : NodeId} {caller : Nat}

/-! ## Who has yet to return -/

/-- The callers at a node who have not returned, in the order of their turns. -/
def pending (t : Traffic) (node : NodeId) : List Nat := Pool.Slot.callers (t.pool.slot node)

theorem Does.manned (hdoes : Does t event t') (h : t.pool.Manned) : t'.pool.Manned := by
  cases hdoes with
  | turnedAway | early | unknown | bare | spared | died => exact h
  | @served _ node => exact h.setSlot (h node)
  | dials | dialsInTurn => exact h.claim _ _
  | waits opened vacant busy => exact h.setSlot fun hidle => absurd hidle busy
  | servedInTurn | turnedAwayInTurn | failed | succeeded | discarded =>
      exact h.setSlot (Pool.release_manned _)
  | @invalidated node | @struck node => exact h.setSlot (h node)
  | closedAll =>
      intro node
      rw [Pool.closeAll_slot]
      exact h node

theorem manned (events : List Event) : (of events).pool.Manned := by
  induction events using List.reverseRecOn with
  | nil => simp [Pool.Manned, Pool.slot]
  | append_singleton events event ih =>
      rw [of_concat]
      exact (step_does _ event).manned ih

/-- The first of those who have yet to return may go on, or is connecting. -/
theorem first_pending (h : t.Sound) (hmanned : t.pool.Manned) {rest : List Nat}
    (hpending : t.pending node = caller :: rest) :
    (t.pool.slot node).creation = .granted caller ∨
      ∃ generation, ⟨caller, node, generation⟩ ∈ t.dials := by
  unfold pending Pool.Slot.callers at hpending
  cases hcreation : (t.pool.slot node).creation with
  | idle => simp [hcreation, hmanned node hcreation, Creation.caller?] at hpending
  | granted first =>
      simp only [hcreation, Creation.caller?, Option.toList_some, List.singleton_append,
        List.cons.injEq] at hpending
      exact .inl (by rw [hpending.1])
  | dialing first generation =>
      simp only [hcreation, Creation.caller?, Option.toList_some, List.singleton_append,
        List.cons.injEq] at hpending
      refine .inr ⟨generation, (h.dialing _).mpr ?_⟩
      rw [← hpending.1]
      exact hcreation

/-- Whoever connects is the first of them. -/
theorem Sound.pending_of_dial (h : t.Sound) {dial : Dial} (present : dial ∈ t.dials) :
    t.pending dial.node = dial.caller :: (t.pool.slot dial.node).queue := by
  simp [pending, Pool.Slot.callers, Creation.caller?, (h.dialing dial).mp present]

/-! ## One event at a closed pool -/

/-- The first of those who have yet to return at a node returns without a connection. -/
structure SendsAway (t t' : Traffic) (caller : Nat) (node : NodeId) (error : ConnectionError) :
    Prop where
  told : t'.answers = t.answers ++ [(caller, node, .error error)]
  first : t.pending node = caller :: t'.pending node
  others : ∀ other, other ≠ node → t'.pending other = t.pending other

/-- So it is when a slot is released: those who wait there are kept. -/
theorem SendsAway.of_release {slot : Slot} {error : ConnectionError}
    (hpool : t'.pool = t.pool.setSlot node (Pool.Slot.release slot))
    (hpending : t.pending node = caller :: slot.queue)
    (told : t'.answers = t.answers ++ [(caller, node, .error error)]) :
    SendsAway t t' caller node error where
  told := told
  first := by
    rw [hpending]
    simp only [pending, hpool, Pool.slot_setSlot, Pool.release_callers]
  others := by
    intro other hother
    simp only [pending, hpool, Pool.slot_setSlot_of_ne _ _ hother]

/-- With this event somebody returns from a closed pool. -/
def Returns (t : Traffic) : Event → Prop
  | .call .. => True
  | .proceed node => ∃ caller, (t.pool.slot node).creation = .granted caller
  | .connected dial _ => dial ∈ t.dials
  | .invalidate _ | .invalidateGeneration .. | .died .. | .closeAll => False

/-- What an event does for callers at a closed pool. -/
inductive Refuses (t t' : Traffic) : Event → Prop
  /-- Whoever asks is refused at once. -/
  | asked {caller : Nat} {node : NodeId}
      (told : t'.answers = t.answers ++ [(caller, node, .error .poolClosed)])
      (kept : t'.pending = t.pending) : Refuses t t' (.call caller node)
  /-- Whoever has waited is refused when his turn comes. -/
  | inTurn {caller : Nat} {node : NodeId}
      (granted : (t.pool.slot node).creation = .granted caller)
      (away : SendsAway t t' caller node .poolClosed) : Refuses t t' (.proceed node)
  /-- Whoever has connected is refused once his connection has been closed. -/
  | late {dial : Dial} {closing : Traffic} (present : dial ∈ t.dials)
      (closed : (dial.node, dial.generation) ∈ closing.closed)
      (dead : closing.alive dial.node dial.generation = false)
      (answered : t' = closing.answer dial.caller dial.node (.error .poolClosed))
      (away : SendsAway t t' dial.caller dial.node .poolClosed) :
      Refuses t t' (.connected dial (.ok ()))
  /-- Whoever has failed to connect is told why. -/
  | failed {dial : Dial} {error : ConnectionError} (present : dial ∈ t.dials)
      (away : SendsAway t t' dial.caller dial.node error) :
      Refuses t t' (.connected dial (.error error))
  /-- Nobody else is told anything. -/
  | idle {event : Event} (nobody : ¬t.Returns event) (silent : t'.answers = t.answers)
      (kept : t'.pending = t.pending) : Refuses t t' event

/-- At a closed pool nobody gets a connection. -/
theorem Does.refuses (hdoes : Does t event t') (hsound : t.Sound) (h : t.pool.Shut) :
    Refuses t t' event := by
  have hopen : t.pool.closed ≠ false := by simp [h.closed]
  cases hdoes with
  | turnedAway => exact .asked rfl rfl
  | early nobody => exact .idle (fun ⟨caller, granted⟩ => nobody caller granted) rfl rfl
  | unknown absent => exact .idle absent rfl rfl
  | bare | spared | died => exact .idle id rfl rfl
  | served opened | dials opened | waits opened | succeeded _ opened => exact absurd opened hopen
  | dialsInTurn _ _ opened => exact absurd opened hopen
  | servedInTurn _ held | invalidated held | struck held =>
      cases (h.empty _).symm.trans held
  | turnedAwayInTurn granted =>
      refine .inTurn granted (.of_release rfl ?_ rfl)
      simp [pending, Pool.Slot.callers, Creation.caller?, granted]
  | failed present => exact .failed present (.of_release rfl (hsound.pending_of_dial present) rfl)
  | discarded present =>
      exact .late present (by simp [close]) (by simp [close, Traffic.alive]) rfl
        (.of_release rfl (hsound.pending_of_dial present) rfl)
  | closedAll =>
      refine .idle id rfl (funext fun other => ?_)
      simp only [pending, Pool.closeAll_slot]
      rfl

/-! ## All that happens after -/

/-- Connections are closed, and connects end. None begins. -/
structure Subsides (t t' : Traffic) : Prop where
  shut : t'.pool.Shut
  closed : t.closed ⊆ t'.closed
  live : t'.live ⊆ t.live
  begun : t'.begun = t.begun
  dials : t'.dials ⊆ t.dials

theorem Subsides.trans {t'' : Traffic} (h : Subsides t t') (h' : Subsides t' t'') :
    Subsides t t'' where
  shut := h'.shut
  closed := List.Subset.trans h.closed h'.closed
  live := List.Subset.trans h'.live h.live
  begun := h'.begun.trans h.begun
  dials := List.Subset.trans h'.dials h.dials

/-- That is all that happens at a closed pool. -/
theorem Does.subsides (hdoes : Does t event t') (h : t.pool.Shut) : Subsides t t' := by
  have hopen : t.pool.closed ≠ false := by simp [h.closed]
  have hsame : ∀ {α : Type} (l : List α), l ⊆ l := fun _ => List.Subset.refl _
  cases hdoes with
  | turnedAway | early | unknown | bare | spared =>
      exact ⟨h, hsame _, hsame _, rfl, hsame _⟩
  | died => exact ⟨h, hsame _, List.filter_subset_self _, rfl, hsame _⟩
  | served opened | dials opened | waits opened | succeeded _ opened => exact absurd opened hopen
  | dialsInTurn _ _ opened => exact absurd opened hopen
  | servedInTurn _ held | invalidated held | struck held =>
      cases (h.empty _).symm.trans held
  | turnedAwayInTurn =>
      exact ⟨h.setSlot (Pool.release_current _), hsame _, hsame _, rfl, hsame _⟩
  | failed => exact ⟨h.release, hsame _, hsame _, rfl, List.filter_subset_self _⟩
  | discarded =>
      refine ⟨h.release, List.subset_append_left _ _, ?_, rfl, List.filter_subset_self _⟩
      intro c hc
      simp only [answer, close, List.mem_filter, List.mem_append, List.mem_singleton] at hc
      rcases hc with ⟨hold | rfl, hother⟩
      · exact hold
      · simp at hother
  | closedAll =>
      exact ⟨Pool.closeAll_shut _, List.subset_append_left _ _, List.filter_subset_self _, rfl,
        hsame _⟩

/-- What callers have been told since a pool was closed: that it is closed, or that they have failed
to connect. Nobody has left without a word. -/
structure Told (t₀ : Traffic) (after : List Event) (t : Traffic)
    (told : List (Nat × NodeId × Except ConnectionError Nat)) : Prop where
  answers : t.answers = t₀.answers ++ told
  reasons : ∀ answer ∈ told, answer.2.2 = .error .poolClosed ∨ ∃ dial ∈ t₀.dials, ∃ error,
    .connected dial (.error error) ∈ after ∧ answer = (dial.caller, dial.node, .error error)
  left : ∀ node, ∃ returned, t₀.pending node = returned ++ t.pending node ∧
    ∀ caller ∈ returned, ∃ error, (caller, node, .error error) ∈ told

section

variable {after : List Event} {told : List (Nat × NodeId × Except ConnectionError Nat)}

theorem Told.start {t : Traffic} (silent : t.answers = t₀.answers)
    (kept : t.pending = t₀.pending) : Told t₀ [] t [] where
  answers := by rw [silent, List.append_nil]
  reasons := by simp
  left := fun node => ⟨[], by rw [kept, List.nil_append], by simp⟩

theorem Told.silent (h : Told t₀ after t told) (event : Event) (silent : t'.answers = t.answers)
    (kept : t'.pending = t.pending) : Told t₀ (after ++ [event]) t' told where
  answers := silent.trans h.answers
  reasons := by
    intro answer hanswer
    refine (h.reasons answer hanswer).imp_right ?_
    rintro ⟨dial, hdial, error, hfailed, heq⟩
    exact ⟨dial, hdial, error, List.mem_append_left _ hfailed, heq⟩
  left := by
    rw [kept]
    exact h.left

theorem Told.tell (h : Told t₀ after t told) (event : Event) {error : ConnectionError}
    (answered : t'.answers = t.answers ++ [(caller, node, .error error)])
    (reason : error = .poolClosed ∨ ∃ dial ∈ t₀.dials, event = .connected dial (.error error) ∧
      caller = dial.caller ∧ node = dial.node)
    (left : t'.pending = t.pending ∨ SendsAway t t' caller node error) :
    Told t₀ (after ++ [event]) t' (told ++ [(caller, node, .error error)]) where
  answers := by rw [answered, h.answers, List.append_assoc]
  reasons := by
    intro answer hanswer
    rcases List.mem_append.mp hanswer with hold | hnew
    · have hsilent : Told t₀ (after ++ [event]) t told := h.silent event rfl rfl
      exact hsilent.reasons answer hold
    · obtain rfl := List.mem_singleton.mp hnew
      refine reason.imp (congrArg Except.error) ?_
      rintro ⟨dial, hdial, rfl, rfl, rfl⟩
      exact ⟨dial, hdial, error, by simp, rfl⟩
  left := by
    intro other
    obtain ⟨returned, hpending, htold⟩ := h.left other
    have hkept : ∀ first ∈ returned, ∃ error',
        (first, other, .error error') ∈ told ++ [(caller, node, .error error)] := by
      intro first hfirst
      obtain ⟨error', hmem⟩ := htold first hfirst
      exact ⟨error', List.mem_append_left _ hmem⟩
    rcases left with hsame | haway
    · exact ⟨returned, by rw [hpending, hsame], hkept⟩
    · by_cases hnode : other = node
      · subst hnode
        refine ⟨returned ++ [caller], ?_, List.forall_mem_append.mpr ⟨hkept, ?_⟩⟩
        · rw [hpending, haway.first, List.append_assoc, List.singleton_append]
        · exact List.forall_mem_singleton.mpr ⟨error, by simp⟩
      · exact ⟨returned, by rw [hpending, haway.others other hnode], hkept⟩

/-- One more event. -/
theorem Told.refuses (h : Told t₀ after t told) (hdials : t.dials ⊆ t₀.dials)
    (hrefuses : Refuses t t' event) : ∃ told, Told t₀ (after ++ [event]) t' told := by
  cases hrefuses with
  | asked answered kept => exact ⟨_, h.tell _ answered (.inl rfl) (.inl kept)⟩
  | inTurn granted away => exact ⟨_, h.tell _ away.told (.inl rfl) (.inr away)⟩
  | late present closed dead answered away =>
      exact ⟨_, h.tell _ away.told (.inl rfl) (.inr away)⟩
  | @failed dial error present away =>
      exact ⟨_, h.tell _ away.told (.inr ⟨dial, hdials present, rfl, rfl, rfl⟩) (.inr away)⟩
  | idle nobody silent kept => exact ⟨told, h.silent event silent kept⟩

end

/-- Where nobody connects, whoever waits at a closed pool is refused, one after another. -/
theorem drain (hsound : t.Sound) (hmanned : t.pool.Manned) (h : t.pool.Shut)
    (hfree : ∀ dial ∈ t.dials, dial.node ≠ node) :
    let drained := (List.replicate (t.pending node).length (.proceed node)).foldl step t
    drained.pending node = [] ∧ drained.answers = t.answers ++
      (t.pending node).map fun caller => (caller, node, .error .poolClosed) := by
  generalize hwaiting : t.pending node = waiting
  induction waiting generalizing t with
  | nil => exact ⟨hwaiting, (List.append_nil _).symm⟩
  | cons caller rest ih =>
      have hdoes := step_does t (.proceed node)
      obtain ⟨hshut, -, -, -, hdials⟩ := hdoes.subsides h
      have hgranted : (t.pool.slot node).creation = .granted caller :=
        (first_pending hsound hmanned hwaiting).resolve_right
          fun ⟨generation, present⟩ => hfree _ present rfl
      cases hdoes.refuses hsound h with
      | idle nobody => exact absurd ⟨caller, hgranted⟩ nobody
      | @inTurn other _ granted away =>
          obtain rfl : other = caller := by simpa [hgranted] using granted.symm
          have hrest : (t.step (.proceed node)).pending node = rest := by
            simpa [hwaiting] using away.first.symm
          obtain ⟨hempty, hanswers⟩ := ih (hsound.does hdoes) (hdoes.manned hmanned) hshut
            (fun dial hdial => hfree dial (hdials hdial)) hrest
          refine ⟨hempty, hanswers.trans ?_⟩
          rw [away.told, List.append_assoc, List.map_cons, List.singleton_append]

/-- What has come of closing a pool, and what will: how things stood before, what has happened
since, and how things stand now. -/
structure Aftermath (t₀ : Traffic) (after : List Event) (t : Traffic) : Prop where
  /-- No slot holds a connection. -/
  shut : t.pool.Shut
  /-- What was held was closed. -/
  dropped : ∀ node generation, (t₀.pool.slot node).current = some generation →
    (node, generation) ∈ t.closed ∧ t.alive node generation = false
  /-- Nobody has begun to connect. -/
  begun : t.begun = t₀.begun
  dials : t.dials ⊆ t₀.dials
  told : ∃ told, Told t₀ after t told
  /-- Nobody will get a connection. -/
  next : ∀ event, Refuses t (t.step event) event
  /-- Where somebody connects, he is the first to return. -/
  connecting : ∀ dial ∈ t.dials, ∃ rest, t.pending dial.node = dial.caller :: rest
  /-- Where nobody does, all who wait are refused one after another. -/
  drains : ∀ node, (∀ dial ∈ t.dials, dial.node ≠ node) →
    let drained := (List.replicate (t.pending node).length (.proceed node)).foldl step t
    drained.pending node = [] ∧ drained.answers = t.answers ++
      (t.pending node).map fun caller => (caller, node, .error .poolClosed)

/-- What a slot holds is given back to be closed. -/
theorem closeAll_held {pool : Pool} {generation : Nat}
    (h : (pool.slot node).current = some generation) : (node, generation) ∈ pool.closeAll.2 := by
  unfold Pool.slot at h
  cases hslot : pool.slots.get? node with
  | none => simp [hslot] at h
  | some slot =>
      rw [hslot, Option.getD_some] at h
      exact List.mem_filterMap.mpr ⟨(node, slot), Assoc.mem_of_get? hslot, by simp [h]⟩

/-- Closing a pool drops what is held. All that goes on around it goes on. -/
theorem closes (t : Traffic) : ∃ t', t.step .closeAll = t' ∧ t'.pool.Shut ∧
    (∀ node generation, (t.pool.slot node).current = some generation →
      (node, generation) ∈ t'.closed ∧ (node, generation) ∉ t'.live) ∧
    t'.begun = t.begun ∧ t'.dials = t.dials ∧ t'.answers = t.answers ∧ t'.pending = t.pending := by
  have hdoes := step_does t .closeAll
  generalize t.step .closeAll = t' at hdoes
  cases hdoes with
  | closedAll =>
      refine ⟨_, rfl, Pool.closeAll_shut _, fun node generation held => ?_, rfl, rfl, rfl,
        funext fun node => ?_⟩
      · exact ⟨List.mem_append_right _ (closeAll_held held), by simp [closeAll_held held]⟩
      · simp only [pending, Pool.closeAll_slot]
        rfl

/-- Whatever happens once a pool has been closed, it stays closed, and whoever returns, returns
without a connection. -/
theorem aftermath (before after : List Event) :
    Aftermath (of before) after (of (before ++ .closeAll :: after)) := by
  obtain ⟨closing, hclosing, hshut, hdropped, hbegun, hdials, hanswers, hpending⟩ :=
    closes (of before)
  have hclosed : of (before ++ [.closeAll]) = closing := by rw [of_concat, hclosing]
  -- The events since are taken one by one: each finds a closed pool and leaves a closed pool.
  have hall : Subsides closing (of (before ++ .closeAll :: after)) ∧
      ∃ told, Told (of before) after (of (before ++ .closeAll :: after)) told := by
    induction after using List.reverseRecOn with
    | nil =>
        rw [hclosed]
        exact ⟨⟨hshut, fun _ => id, fun _ => id, rfl, fun _ => id⟩, [], .start hanswers hpending⟩
    | append_singleton after event ih =>
        obtain ⟨hsubsides, told, htold⟩ := ih
        have hsound := sound (before ++ .closeAll :: after)
        have hdoes := step_does (of (before ++ .closeAll :: after)) event
        rw [← List.cons_append, ← List.append_assoc, of_concat]
        refine ⟨hsubsides.trans (hdoes.subsides hsubsides.shut), ?_⟩
        exact htold.refuses (hdials ▸ hsubsides.dials) (hdoes.refuses hsound hsubsides.shut)
  obtain ⟨hsubsides, htold⟩ := hall
  have hsound := sound (before ++ .closeAll :: after)
  have hmanned := manned (before ++ .closeAll :: after)
  refine ⟨hsubsides.shut, ?_, hsubsides.begun.trans hbegun, hdials ▸ hsubsides.dials, htold,
    fun event => (step_does _ event).refuses hsound hsubsides.shut, ?_, ?_⟩
  · intro node generation held
    obtain ⟨hin, hout⟩ := hdropped node generation held
    exact ⟨hsubsides.closed hin, decide_eq_false fun hlive => hout (hsubsides.live hlive)⟩
  · exact fun dial present => ⟨_, hsound.pending_of_dial present⟩
  · exact fun node hfree => drain hsound hmanned hsubsides.shut hfree

end Traffic

end ClusterKv

import ClusterKv.Proofs.Pool.Traffic

/-! # Connecting once

The pool connects to a node only while it holds no connection there, one caller at a time. Each
connection has a generation of its own, by which the pool tells it from those before and after. -/

namespace ClusterKv.Traffic

variable {t t' : Traffic} {event : Event} {node other : NodeId}

/-! ## Other nodes -/

/-- Nothing has changed at a node, and who asks for a connection there waits if he did before. -/
structure Same (t t' : Traffic) (node : NodeId) : Prop where
  slot : t'.pool.slot node = t.pool.slot node
  alive : t'.alive node = t.alive node
  closed : ∀ generation, (node, generation) ∈ t'.closed ↔ (node, generation) ∈ t.closed
  dials : ∀ dial : Dial, dial.node = node → (dial ∈ t'.dials ↔ dial ∈ t.dials)
  waits : ∀ caller, (t'.pool.acquire (t'.alive node) caller node).2 = .wait ↔
    (t.pool.acquire (t.alive node) caller node).2 = .wait

namespace Same

theorem of_unchanged (hslot : t'.pool.slot node = t.pool.slot node)
    (hopen : t'.pool.closed = t.pool.closed)
    (hlive : ∀ generation, (node, generation) ∈ t'.live ↔ (node, generation) ∈ t.live)
    (hclosed : ∀ generation, (node, generation) ∈ t'.closed ↔ (node, generation) ∈ t.closed)
    (hdials : ∀ dial : Dial, dial.node = node → (dial ∈ t'.dials ↔ dial ∈ t.dials)) :
    Same t t' node := by
  have halive : t'.alive node = t.alive node := by
    funext generation
    simp [Traffic.alive, hlive]
  refine ⟨hslot, halive, hclosed, hdials, fun caller => ?_⟩
  rw [Pool.acquire_wait_iff, Pool.acquire_wait_iff, Pool.Vacant, Pool.Vacant, hslot, hopen, halive]

theorem refl (t : Traffic) (node : NodeId) : Same t t node :=
  .of_unchanged rfl rfl (fun _ => .rfl) (fun _ => .rfl) fun _ _ => .rfl

end Same

/-- An event at one node changes nothing at the others. -/
theorem Does.apart (hdoes : Does t event t') (hnode : event.node? = some node)
    (hother : other ≠ node) : Same t t' other := by
  cases hdoes with
  | early | unknown | bare | spared => exact .refl t other
  | turnedAway => exact .of_unchanged rfl rfl (fun _ => .rfl) (fun _ => .rfl) fun _ _ => .rfl
  | served | waits | servedInTurn | turnedAwayInTurn =>
      obtain rfl := Option.some.inj hnode
      exact .of_unchanged (Pool.slot_setSlot_of_ne _ _ hother) rfl (fun _ => .rfl) (fun _ => .rfl)
        fun _ _ => .rfl
  | dials | dialsInTurn =>
      obtain rfl := Option.some.inj hnode
      refine .of_unchanged (Pool.claim_slot_of_ne _ _ hother) rfl (fun _ => .rfl) (fun _ => .rfl) ?_
      rintro dial rfl
      rw [connect_dials, List.mem_append, List.mem_singleton]
      refine or_iff_left ?_
      rintro rfl
      exact hother rfl
  | failed | succeeded | discarded =>
      obtain rfl := Option.some.inj hnode
      refine .of_unchanged (Pool.slot_setSlot_of_ne _ _ hother) rfl ?_ ?_ ?_
      · intro generation
        simp [answer, close, ended, put, hother]
      · intro generation
        simp [answer, close, ended, put, hother]
      · rintro dial rfl
        refine List.mem_filter.trans (and_iff_left (decide_eq_true ?_))
        rintro rfl
        exact hother rfl
  | invalidated | struck =>
      obtain rfl := Option.some.inj hnode
      refine .of_unchanged (Pool.slot_setSlot_of_ne _ _ hother) rfl ?_ ?_ fun _ _ => .rfl
      · intro generation
        simp [close, put, hother]
      · intro generation
        simp [close, put, hother]
  | died =>
      obtain rfl := Option.some.inj hnode
      refine .of_unchanged rfl rfl ?_ (fun _ => .rfl) fun _ _ => .rfl
      intro generation
      simp [hother]
  | closedAll => cases hnode

/-! ## Connecting -/

/-- Connects begin only at nodes where none is in progress and no connection is alive. -/
theorem Does.begins (h : t.Sound) (hdoes : Does t event t') {dial : Dial} (hdial : dial ∈ t'.dials)
    (hnew : dial ∉ t.dials) :
    (∀ other ∈ t.dials, other.node ≠ dial.node) ∧ t.pool.Vacant (t.alive dial.node) dial.node ∧
      t'.begun = t.begun ++ [(dial.node, dial.generation)] := by
  have hfree : ∀ node, (∀ caller generation,
      (t.pool.slot node).creation ≠ .dialing caller generation) →
      ∀ other ∈ t.dials, other.node ≠ node := by
    rintro node hfree other hother rfl
    exact hfree _ _ ((h.dialing other).mp hother)
  cases hdoes with
  | dials opened vacant idle =>
      rcases List.mem_append.mp hdial with hold | hlast
      · exact absurd hold hnew
      · obtain rfl := List.mem_singleton.mp hlast
        exact ⟨hfree _ (by simp [idle]), vacant, rfl⟩
  | dialsInTurn granted vacant =>
      rcases List.mem_append.mp hdial with hold | hlast
      · exact absurd hold hnew
      · obtain rfl := List.mem_singleton.mp hlast
        exact ⟨hfree _ (by simp [granted]), vacant, rfl⟩
  | failed | succeeded | discarded => exact absurd (List.mem_filter.mp hdial).1 hnew
  | _ => exact absurd hdial hnew

/-- A slot holds what it held before, or a connection just made. -/
theorem Does.fills (hdoes : Does t event t') {generation : Nat}
    (hheld : (t'.pool.slot node).current = some generation) :
    (t.pool.slot node).current = some generation ∨
      ∃ caller, ⟨caller, node, generation⟩ ∈ t.dials ∧
        event = .connected ⟨caller, node, generation⟩ (.ok ()) := by
  cases hdoes with
  | early | unknown | bare | spared | turnedAway | died => exact .inl hheld
  | served => exact .inl (Pool.held_of_setSlot (.inr rfl) hheld)
  | waits | invalidated | struck | dials | dialsInTurn =>
      exact .inl (Pool.held_of_setSlot (.inl rfl) hheld)
  | servedInTurn | failed | discarded =>
      exact .inl (Pool.held_of_setSlot (.inr (Pool.release_current _)) hheld)
  | turnedAwayInTurn => exact .inl (Pool.held_of_setSlot (.inl (Pool.release_current _)) hheld)
  | @succeeded dial present opened =>
      obtain ⟨caller, made, number⟩ := dial
      by_cases hnode : node = made
      · subst hnode
        have hnew : some number = some generation := by simpa [answer, ended, put] using hheld
        obtain rfl := Option.some.inj hnew
        exact .inr ⟨caller, present, rfl⟩
      · left
        simpa [answer, ended, put, hnode] using hheld
  | closedAll =>
      rw [Pool.closeAll_slot] at hheld
      cases hheld

/-- The next caller at a node connects: who may connect there already, or else who asks first. -/
def NextConnects (t : Traffic) (node : NodeId) : Prop :=
  (∃ caller, (t.pool.slot node).creation = .granted caller ∧
      (t.step (.proceed node)).dials = t.dials ++ [⟨caller, node, t.pool.nextGeneration⟩]) ∨
    (t.pool.slot node).creation = .idle ∧ ∀ caller,
      (t.step (.call caller node)).dials = t.dials ++ [⟨caller, node, t.pool.nextGeneration⟩]

/-- Where there is neither a connection nor a connect in progress the next caller connects. -/
theorem Sound.next (h : t.Sound) (hopen : t.pool.closed = false)
    (hvacant : t.pool.Vacant (t.alive node) node) (hnone : ∀ dial ∈ t.dials, dial.node ≠ node) :
    t.NextConnects node := by
  cases hcreation : (t.pool.slot node).creation with
  | idle =>
      refine .inr ⟨hcreation, fun caller => ?_⟩
      have hdoes := step_does t (.call caller node)
      generalize t.step (.call caller node) = t' at hdoes
      cases hdoes with
      | turnedAway closed => simp [hopen] at closed
      | served _ held use => simp [hvacant _ held] at use
      | dials => rfl
      | waits _ _ busy => exact absurd hcreation busy
  | granted caller =>
      refine .inl ⟨caller, hcreation, ?_⟩
      have hdoes := step_does t (.proceed node)
      generalize t.step (.proceed node) = t' at hdoes
      cases hdoes with
      | early nobody => exact absurd hcreation (nobody caller)
      | servedInTurn _ held use => simp [hvacant _ held] at use
      | turnedAwayInTurn _ _ closed => simp [hopen] at closed
      | dialsInTurn granted =>
          rw [hcreation] at granted
          obtain rfl := Creation.granted.inj granted
          rfl
  | dialing caller generation =>
      exact absurd rfl (hnone ⟨caller, node, generation⟩ ((h.dialing _).mpr hcreation))

/-! ## Failures -/

/-- What a failed connect leaves behind. -/
structure Fails (t t' : Traffic) (dial : Dial) (error : ConnectionError) : Prop where
  empty : (t'.pool.slot dial.node).current = none
  free : ∀ other ∈ t'.dials, other.node ≠ dial.node
  told : t'.answers = t.answers ++ [(dial.caller, dial.node, .error error)]
  next : t.pool.closed = false → t'.NextConnects dial.node

theorem Does.fails (h : t.Sound) {dial : Dial} {error : ConnectionError} (hdial : dial ∈ t.dials)
    (hdoes : Does t (.connected dial (.error error)) t') : Fails t t' dial error := by
  have hsound := h.does hdoes
  cases hdoes with
  | unknown absent => exact absurd hdial absent
  | failed =>
      have hempty : ((t.ended dial (Pool.Slot.release (t.pool.slot dial.node))).pool.slot
          dial.node).current = none := by
        simpa [Traffic.ended, put] using h.empty dial hdial
      have hfree : ∀ other ∈ t.dials.filter (· ≠ dial), other.node ≠ dial.node := by
        intro other hother hnode
        have hkept := List.mem_filter.mp hother
        exact of_decide_eq_true hkept.2
          (List.inj_on_of_nodup_map h.single hkept.1 hdial hnode)
      refine ⟨hempty, hfree, rfl, fun hopen => hsound.next hopen ?_ hfree⟩
      intro generation hheld
      cases hempty.symm.trans hheld

/-! ## Dropping a connection by its generation -/

/-- What becomes of the connections when one is dropped by its generation. -/
structure Strikes (t t' : Traffic) (node : NodeId) (generation : Nat) : Prop where
  /-- It is dropped, and closed if the pool held it. -/
  gone : (t'.pool.slot node).current ≠ some generation
  stopped : (t.pool.slot node).current = some generation →
    t'.alive node generation = false ∧ (node, generation) ∈ t'.closed
  /-- All the others are left as they are. -/
  held : ∀ other number, (other, number) ≠ (node, generation) →
    ((t'.pool.slot other).current = some number ↔ (t.pool.slot other).current = some number)
  alive : ∀ other number, (other, number) ≠ (node, generation) →
    t'.alive other number = t.alive other number
  closed : ∀ other number, (other, number) ≠ (node, generation) →
    ((other, number) ∈ t'.closed ↔ (other, number) ∈ t.closed)
  /-- Nobody begins or ceases to connect or to wait. -/
  dials : t'.dials = t.dials
  callers : ∀ other, (t'.pool.slot other).creation = (t.pool.slot other).creation ∧
    (t'.pool.slot other).queue = (t.pool.slot other).queue

theorem Does.strikes {generation : Nat}
    (hdoes : Does t (.invalidateGeneration node generation) t') : Strikes t t' node generation := by
  cases hdoes with
  | spared hother =>
      exact ⟨hother, fun hheld => absurd hheld hother, fun _ _ _ => .rfl, fun _ _ _ => rfl,
        fun _ _ _ => .rfl, rfl, fun _ => ⟨rfl, rfl⟩⟩
  | struck hheld =>
      refine ⟨?_, fun _ => ⟨?_, ?_⟩, ?_, ?_, ?_, rfl, ?_⟩
      · simp [close, put]
      · simp [close, put, Traffic.alive]
      · simp [close]
      · intro other number hne
        by_cases hnode : other = node
        · subst hnode
          have hnumber : number ≠ generation := fun h => hne (by rw [h])
          simp [close, put, hheld, hnumber.symm]
        · simp [close, put, hnode]
      · intro other number hne
        simp only [close, put, Traffic.alive, List.mem_filter, hne, ne_eq, not_false_eq_true,
          decide_true, and_true]
      · intro other number hne
        simp only [close, put, List.mem_append, List.mem_singleton, hne, or_false]
      · intro other
        by_cases hnode : other = node
        · simp [close, put, hnode]
        · simp [close, put, hnode]

/-! ## All of it -/

/-- What the pool and its callers keep to at any time. -/
structure Single (t : Traffic) : Prop where
  /-- At each node one connect at most is in progress, and meanwhile the pool has no connection. -/
  dials : (t.dials.map (·.node)).Nodup
  empty : ∀ dial ∈ t.dials, (t.pool.slot dial.node).current = none
  /-- No generation is used for two connects. -/
  generations : (t.begun.map (·.2)).Nodup
  begun : ∀ dial ∈ t.dials, (dial.node, dial.generation) ∈ t.begun
  /-- What a slot holds was made for its node. -/
  own : ∀ node generation, (t.pool.slot node).current = some generation →
    (node, generation) ∈ t.begun
  next : ∀ node, t.pool.closed = false → t.pool.Vacant (t.alive node) node →
    (∀ dial ∈ t.dials, dial.node ≠ node) → t.NextConnects node

/-- What the pool and its callers keep to when something happens. -/
structure Apart (t : Traffic) (event : Event) (t' : Traffic) : Prop where
  /-- Connects begin only at nodes where none is in progress and no connection is alive. -/
  begins : ∀ dial ∈ t'.dials, dial ∉ t.dials →
    (∀ other ∈ t.dials, other.node ≠ dial.node) ∧ t.pool.Vacant (t.alive dial.node) dial.node ∧
      t'.begun = t.begun ++ [(dial.node, dial.generation)]
  /-- Only a connect that succeeds puts a connection into a slot. -/
  fills : ∀ node generation, (t'.pool.slot node).current = some generation →
    (t.pool.slot node).current = some generation ∨
      ∃ caller, ⟨caller, node, generation⟩ ∈ t.dials ∧
        event = .connected ⟨caller, node, generation⟩ (.ok ())
  fails : ∀ dial ∈ t.dials, ∀ error, event = .connected dial (.error error) →
    Fails t t' dial error
  strikes : ∀ node generation, event = .invalidateGeneration node generation →
    Strikes t t' node generation
  /-- What happens at one node changes nothing at the others. -/
  others : ∀ node other, event.node? = some node → other ≠ node → Same t t' other

/-- The pool connects once, and keeps the connections apart by their generations. -/
theorem connects_once (events : List Event) :
    (of events).Single ∧ ∀ event, Apart (of events) event (of (events ++ [event])) := by
  have hsound := sound events
  refine ⟨⟨hsound.single, hsound.empty, hsound.distinct, hsound.recorded, hsound.own,
    fun _ => hsound.next⟩, fun event => ?_⟩
  have hdoes := step_does (of events) event
  rw [of_concat]
  refine ⟨fun _ => hdoes.begins hsound, fun _ _ => hdoes.fills, ?_, ?_, fun _ _ => hdoes.apart⟩
  · rintro dial hdial error rfl
    exact hdoes.fails hsound hdial
  · rintro node generation rfl
    exact hdoes.strikes

/-- Two callers at a node: the first connects in vain, so the second connects anew and both the node
and the caller who comes after have its connection. -/
example :
    let a : NodeId := ⟨"a:1"⟩
    let t := of [.call 0 a, .call 1 a, .connected ⟨0, a, 1⟩ (.error (.closed a)), .proceed a,
      .connected ⟨1, a, 2⟩ (.ok ()), .call 2 a]
    t.begun = [(a, 1), (a, 2)] ∧ (t.pool.slot a).current = some 2 ∧
      t.answers.map (fun answer => (answer.1, answer.2.2.toOption)) =
        [(0, none), (1, some 2), (2, some 2)] := by
  decide

end ClusterKv.Traffic

import ClusterKv.Proofs.Pool.Slots
import Mathlib.Data.List.Induction

/-! # Callers at the pool

Any number of callers ask for connections, wait and connect, while connections die and are dropped,
in any order. What happens between two points where a caller waits is one event. -/

namespace ClusterKv

/-- A connect in progress. -/
structure Dial where
  caller : Nat
  node : NodeId
  generation : Nat
deriving DecidableEq

/-- A pool and what is going on around it. -/
structure Traffic where
  pool : Pool := {}
  /-- The connects in progress. -/
  dials : List Dial := []
  /-- All connects that were ever begun, by node and generation. -/
  begun : List (NodeId × Nat) := []
  /-- The connections that are alive. -/
  live : List (NodeId × Nat) := []
  /-- The connections that the pool has closed. -/
  closed : List (NodeId × Nat) := []
  /-- What callers have got from the pool. -/
  answers : List (Nat × NodeId × Except ConnectionError Nat) := []

namespace Traffic

/-- Something that happens at a pool. -/
inductive Event where
  /-- A caller asks for a connection. -/
  | call (caller : Nat) (node : NodeId)
  /-- The caller whose turn it is at a node goes on. -/
  | proceed (node : NodeId)
  /-- A connect comes to its end. -/
  | connected (dial : Dial) (result : Except ConnectionError Unit)
  | invalidate (node : NodeId)
  | invalidateGeneration (node : NodeId) (generation : Nat)
  /-- A connection dies. -/
  | died (node : NodeId) (generation : Nat)
  | closeAll

/-- The node that an event is about. -/
def Event.node? : Event → Option NodeId
  | call _ node | proceed node | invalidate node | invalidateGeneration node _ | died node _ =>
    some node
  | connected dial _ => some dial.node
  | closeAll => none

/-- Is a connection alive? -/
def alive (t : Traffic) (node : NodeId) (generation : Nat) : Bool := (node, generation) ∈ t.live

/-- A call is over. -/
def answer (t : Traffic) (caller : Nat) (node : NodeId) (result : Except ConnectionError Nat) :
    Traffic :=
  { t with answers := t.answers ++ [(caller, node, result)] }

/-- A caller begins to connect. -/
def begin (t : Traffic) (caller : Nat) (node : NodeId) (generation : Nat) : Traffic :=
  { t with
    dials := t.dials ++ [⟨caller, node, generation⟩]
    begun := t.begun ++ [(node, generation)] }

/-- A caller does what the pool says. -/
def follow (t : Traffic) (caller : Nat) (node : NodeId) : Lease → Traffic
  | .ready generation => t.answer caller node (.ok generation)
  | .refused error => t.answer caller node (.error error)
  | .wait => t
  | .dial generation => t.begin caller node generation

/-- The pool closes a connection. -/
def close (t : Traffic) (node : NodeId) (generation : Nat) : Traffic :=
  { t with
    live := t.live.filter (· ≠ (node, generation))
    closed := t.closed ++ [(node, generation)] }

/-- A connect ends. If it has come too late the connection is closed at once. -/
def finish (t : Traffic) (dial : Dial) (result : Except ConnectionError Unit) : Traffic :=
  let opened := match result with
    | .ok () => [(dial.node, dial.generation)]
    | .error _ => []
  let (pool, result, late) := t.pool.dialed dial.node dial.generation result
  let t := { t with pool, dials := t.dials.filter (· ≠ dial), live := t.live ++ opened }
  let t := if late then t.close dial.node dial.generation else t
  t.answer dial.caller dial.node (result.map fun () => dial.generation)

/-- One event. Nobody goes on whose turn it is not, and only what has begun comes to an end. -/
def step (t : Traffic) : Event → Traffic
  | .call caller node =>
    let (pool, lease) := t.pool.acquire (t.alive node) caller node
    { t with pool }.follow caller node lease
  | .proceed node =>
    match (t.pool.slot node).creation with
    | .granted caller =>
      let (pool, lease) := t.pool.enter (t.alive node) caller node
      { t with pool }.follow caller node lease
    | .idle | .dialing .. => t
  | .connected dial result => if dial ∈ t.dials then t.finish dial result else t
  | .invalidate node =>
    let (pool, stale) := t.pool.invalidate node
    stale.elim { t with pool } ({ t with pool }.close node)
  | .invalidateGeneration node generation =>
    let (pool, stale) := t.pool.invalidateGeneration node generation
    stale.elim { t with pool } ({ t with pool }.close node)
  | .died node generation => { t with live := t.live.filter (· ≠ (node, generation)) }
  | .closeAll =>
    let (pool, held) := t.pool.closeAll
    held.foldl (fun t c => t.close c.1 c.2) { t with pool }

/-- What has come of some events, one after another. -/
def of (events : List Event) : Traffic := events.foldl step {}

@[simp] theorem of_nil : of [] = {} := rfl

@[simp] theorem of_concat (events : List Event) (event : Event) :
    of (events ++ [event]) = (of events).step event :=
  List.foldl_append ..

/-! ## What an event does -/

/-- The slot of a node is changed. -/
def put (t : Traffic) (node : NodeId) (slot : Slot) : Traffic :=
  { t with pool := t.pool.setSlot node slot }

/-- A connect is over, and the slot of its node is changed. -/
def ended (t : Traffic) (dial : Dial) (slot : Slot) : Traffic :=
  { t.put dial.node slot with dials := t.dials.filter (· ≠ dial) }

/-- A caller gets the next generation and begins to connect. -/
def connect (t : Traffic) (caller : Nat) (node : NodeId) : Traffic :=
  { t with pool := t.pool.claim caller node }.begin caller node t.pool.nextGeneration

@[simp] theorem connect_pool (t : Traffic) (caller : Nat) (node : NodeId) :
    (t.connect caller node).pool = t.pool.claim caller node := rfl

@[simp] theorem connect_dials (t : Traffic) (caller : Nat) (node : NodeId) :
    (t.connect caller node).dials = t.dials ++ [⟨caller, node, t.pool.nextGeneration⟩] := rfl

@[simp] theorem connect_begun (t : Traffic) (caller : Nat) (node : NodeId) :
    (t.connect caller node).begun = t.begun ++ [(node, t.pool.nextGeneration)] := rfl

/-- All that an event can do. -/
inductive Does (t : Traffic) : Event → Traffic → Prop where
  | turnedAway {caller node} (closed : t.pool.closed = true) :
      Does t (.call caller node) (t.answer caller node (.error .poolClosed))
  | served {caller node generation} (opened : t.pool.closed = false)
      (held : (t.pool.slot node).current = some generation) (use : t.alive node generation = true) :
      Does t (.call caller node)
        ((t.put node (t.pool.slot node)).answer caller node (.ok generation))
  | dials {caller node} (opened : t.pool.closed = false)
      (vacant : t.pool.Vacant (t.alive node) node) (idle : (t.pool.slot node).creation = .idle) :
      Does t (.call caller node) (t.connect caller node)
  | waits {caller node} (opened : t.pool.closed = false)
      (vacant : t.pool.Vacant (t.alive node) node) (busy : (t.pool.slot node).creation ≠ .idle) :
      Does t (.call caller node)
        (t.put node { t.pool.slot node with
          current := none, queue := (t.pool.slot node).queue ++ [caller] })
  | early {node} (nobody : ∀ caller, (t.pool.slot node).creation ≠ .granted caller) :
      Does t (.proceed node) t
  | servedInTurn {caller node generation} (granted : (t.pool.slot node).creation = .granted caller)
      (held : (t.pool.slot node).current = some generation) (use : t.alive node generation = true) :
      Does t (.proceed node)
        ((t.put node (Pool.Slot.release (t.pool.slot node))).answer caller node (.ok generation))
  | turnedAwayInTurn {caller node} (granted : (t.pool.slot node).creation = .granted caller)
      (vacant : t.pool.Vacant (t.alive node) node) (closed : t.pool.closed = true) :
      Does t (.proceed node)
        ((t.put node (Pool.Slot.release { t.pool.slot node with current := none })).answer caller
          node (.error .poolClosed))
  | dialsInTurn {caller node} (granted : (t.pool.slot node).creation = .granted caller)
      (vacant : t.pool.Vacant (t.alive node) node) (opened : t.pool.closed = false) :
      Does t (.proceed node) (t.connect caller node)
  | unknown {dial result} (absent : dial ∉ t.dials) : Does t (.connected dial result) t
  | failed {dial error} (present : dial ∈ t.dials) :
      Does t (.connected dial (.error error))
        ((t.ended dial (Pool.Slot.release (t.pool.slot dial.node))).answer dial.caller dial.node
          (.error error))
  | succeeded {dial} (present : dial ∈ t.dials) (opened : t.pool.closed = false) :
      Does t (.connected dial (.ok ()))
        ({ t.ended dial (Pool.Slot.release
            { t.pool.slot dial.node with current := some dial.generation }) with
          live := t.live ++ [(dial.node, dial.generation)] }.answer dial.caller dial.node
            (.ok dial.generation))
  | discarded {dial} (present : dial ∈ t.dials) (closed : t.pool.closed = true) :
      Does t (.connected dial (.ok ()))
        (({ t.ended dial (Pool.Slot.release (t.pool.slot dial.node)) with
          live := t.live ++ [(dial.node, dial.generation)] }.close dial.node dial.generation).answer
            dial.caller dial.node (.error .poolClosed))
  | bare {node} (none : (t.pool.slot node).current = none) : Does t (.invalidate node) t
  | invalidated {node generation} (held : (t.pool.slot node).current = some generation) :
      Does t (.invalidate node)
        ((t.put node { t.pool.slot node with current := none }).close node generation)
  | spared {node generation} (other : (t.pool.slot node).current ≠ some generation) :
      Does t (.invalidateGeneration node generation) t
  | struck {node generation} (held : (t.pool.slot node).current = some generation) :
      Does t (.invalidateGeneration node generation)
        ((t.put node { t.pool.slot node with current := none }).close node generation)
  | died {node generation} :
      Does t (.died node generation) { t with live := t.live.filter (· ≠ (node, generation)) }
  | closedAll :
      Does t .closeAll
        { t with
          pool := t.pool.closeAll.1
          live := t.live.filter (· ∉ t.pool.closeAll.2)
          closed := t.closed ++ t.pool.closeAll.2 }

variable {t : Traffic} {node other : NodeId} {caller generation : Nat} {dial : Dial}

theorem close_all (held : List (NodeId × Nat)) (t : Traffic) :
    held.foldl (fun t c => t.close c.1 c.2) t =
      { t with live := t.live.filter (· ∉ held), closed := t.closed ++ held } := by
  induction held generalizing t with
  | nil => simp
  | cons c held ih =>
      obtain ⟨node, generation⟩ := c
      rw [List.foldl_cons, ih]
      simp [close, List.filter_filter, Bool.and_comm]

theorem finish_does {dial : Dial} (present : dial ∈ t.dials)
    (result : Except ConnectionError Unit) :
    Does t (.connected dial result) (t.finish dial result) := by
  cases result with
  | error error =>
      have hfailed : Does t (.connected dial (.error error)) _ := .failed present
      simpa [finish, Pool.dialed, ended, put, Except.map] using hfailed
  | ok done =>
      cases done
      by_cases hclosed : t.pool.closed = true
      · have hdiscarded := Does.discarded present hclosed
        simpa [finish, Pool.dialed, hclosed, ended, put, Except.map] using hdiscarded
      · have hsucceeded := Does.succeeded present (by simpa using hclosed)
        simpa [finish, Pool.dialed, hclosed, ended, put, Except.map] using hsucceeded

theorem step_does (t : Traffic) (event : Event) : Does t event (t.step event) := by
  cases event with
  | call caller node =>
      have hacquired := Pool.acquire_acquired t.pool (t.alive node) caller node
      simp only [step]
      generalize t.pool.acquire (t.alive node) caller node = result at hacquired
      cases hacquired with
      | refused closed => exact .turnedAway closed
      | ready opened held use => exact .served opened held use
      | dials opened vacant idle => exact .dials opened vacant idle
      | waits opened vacant busy => exact .waits opened vacant busy
  | proceed node =>
      have hentered := fun caller => Pool.enter_entered t.pool (t.alive node) caller node
      simp only [step]
      cases hcreation : (t.pool.slot node).creation with
      | granted caller =>
          have hentered := hentered caller
          simp only
          generalize t.pool.enter (t.alive node) caller node = result at hentered
          cases hentered with
          | ready held use => exact .servedInTurn hcreation held use
          | refused vacant closed => exact .turnedAwayInTurn hcreation vacant closed
          | dials vacant opened => exact .dialsInTurn hcreation vacant opened
      | idle | dialing => exact .early (by simp [hcreation])
  | connected dial result =>
      simp only [step]
      split
      · next present => exact finish_does present result
      · next absent => exact .unknown absent
  | invalidate node =>
      simp only [step]
      rcases Pool.invalidate_cases t.pool node with ⟨hnone, h⟩ | ⟨generation, hsome, h⟩
      · rw [h]
        exact .bare hnone
      · rw [h]
        exact .invalidated hsome
  | invalidateGeneration node generation =>
      simp only [step]
      rcases Pool.invalidateGeneration_cases t.pool node generation with ⟨hother, h⟩ | ⟨hheld, h⟩
      · rw [h]
        exact .spared hother
      · rw [h]
        exact .struck hheld
  | died node generation => exact .died
  | closeAll =>
      simp only [step, close_all]
      exact .closedAll

/-! ## The invariant -/

/-- The pool and what is going on around it agree. -/
structure Sound (t : Traffic) : Prop where
  /-- No two connects have the same generation. -/
  distinct : (t.begun.map (·.2)).Nodup
  issued : ∀ c ∈ t.begun, c.2 < t.pool.nextGeneration
  /-- A slot holds connections to its own node only. -/
  own : ∀ node generation, (t.pool.slot node).current = some generation →
    (node, generation) ∈ t.begun
  /-- At each node there is one connect in progress at most. -/
  single : (t.dials.map (·.node)).Nodup
  dialing : ∀ dial, dial ∈ t.dials ↔
    (t.pool.slot dial.node).creation = .dialing dial.caller dial.generation
  /-- While there is one the slot is empty. -/
  empty : ∀ dial ∈ t.dials, (t.pool.slot dial.node).current = none
  recorded : ∀ dial ∈ t.dials, (dial.node, dial.generation) ∈ t.begun

namespace Sound

theorem start : Sound {} where
  distinct := List.nodup_nil
  issued := by simp
  own := by simp [Pool.slot]
  single := List.nodup_nil
  dialing := by simp [Pool.slot]
  empty := by simp
  recorded := by simp

/-- Slots may be changed, if only the connections that they hold are kept and nobody begins or ends
to connect. -/
theorem adjust {t' : Traffic} (h : t.Sound)
    (hcurrent : ∀ node, (t'.pool.slot node).current = none ∨
      (t'.pool.slot node).current = (t.pool.slot node).current)
    (hcreation : ∀ node caller generation,
      (t'.pool.slot node).creation = .dialing caller generation ↔
        (t.pool.slot node).creation = .dialing caller generation)
    (hnext : t'.pool.nextGeneration = t.pool.nextGeneration) (hdials : t'.dials = t.dials)
    (hbegun : t'.begun = t.begun) : t'.Sound := by
  have hheld : ∀ node generation, (t'.pool.slot node).current = some generation →
      (t.pool.slot node).current = some generation := by
    intro node generation hnode
    rcases hcurrent node with hnone | hsame
    · rw [hnone] at hnode
      cases hnode
    · rwa [← hsame]
  refine ⟨?_, ?_, ?_, ?_, ?_, ?_, ?_⟩
  · rw [hbegun]
    exact h.distinct
  · rw [hbegun, hnext]
    exact h.issued
  · intro node generation hnode
    rw [hbegun]
    exact h.own node generation (hheld node generation hnode)
  · rw [hdials]
    exact h.single
  · intro dial
    rw [hdials, hcreation]
    exact h.dialing dial
  · intro dial hdial
    rw [hdials] at hdial
    rcases hcurrent dial.node with hnone | hsame
    · exact hnone
    · rw [hsame]
      exact h.empty dial hdial
  · rw [hdials, hbegun]
    exact h.recorded

/-- One slot may be changed so. -/
theorem adjustSlot {t' : Traffic} {slot : Slot} (h : t.Sound)
    (hpool : t'.pool = t.pool.setSlot node slot) (hdials : t'.dials = t.dials)
    (hbegun : t'.begun = t.begun)
    (hcurrent : slot.current = none ∨ slot.current = (t.pool.slot node).current)
    (hcreation : ∀ caller generation, slot.creation = .dialing caller generation ↔
      (t.pool.slot node).creation = .dialing caller generation) : t'.Sound := by
  have hother : ∀ other, other ≠ node → t'.pool.slot other = t.pool.slot other := by
    intro other hother
    rw [hpool, Pool.slot_setSlot_of_ne _ _ hother]
  have hself : t'.pool.slot node = slot := by rw [hpool, Pool.slot_setSlot]
  refine h.adjust ?_ ?_ (by rw [hpool]; rfl) hdials hbegun
  · intro other
    by_cases hnode : other = node
    · rw [hnode, hself]
      exact hcurrent
    · exact .inr (by rw [hother other hnode])
  · intro other caller generation
    by_cases hnode : other = node
    · rw [hnode, hself]
      exact hcreation caller generation
    · rw [hother other hnode]

/-- A connect begins where there is none in progress. -/
theorem connect (h : t.Sound) (caller : Nat)
    (hfree : ∀ caller generation, (t.pool.slot node).creation ≠ .dialing caller generation) :
    (t.connect caller node).Sound := by
  have hnone : ∀ dial ∈ t.dials, dial.node ≠ node := by
    rintro dial hdial rfl
    exact hfree _ _ ((h.dialing dial).mp hdial)
  refine ⟨?_, ?_, ?_, ?_, ?_, ?_, ?_⟩
  · rw [connect_begun, List.map_append]
    refine List.Nodup.append h.distinct (List.nodup_singleton _) ?_
    intro generation hold hnew
    obtain ⟨c, hc, rfl⟩ := List.mem_map.mp hold
    have hissued := h.issued c hc
    rw [List.map_singleton, List.mem_singleton] at hnew
    omega
  · intro c hc
    rw [connect_pool, Pool.claim_nextGeneration]
    rcases List.mem_append.mp hc with hold | hnew
    · exact Nat.lt_succ_of_lt (h.issued c hold)
    · rw [List.mem_singleton.mp hnew]
      exact Nat.lt_succ_self _
  · intro other generation hother
    rw [connect_pool] at hother
    by_cases hnode : other = node
    · simp [hnode] at hother
    · rw [Pool.claim_slot_of_ne _ _ hnode] at hother
      exact List.mem_append_left _ (h.own other generation hother)
  · rw [connect_dials, List.map_append]
    refine List.Nodup.append h.single (List.nodup_singleton _) ?_
    intro other hold hnew
    obtain ⟨dial, hdial, rfl⟩ := List.mem_map.mp hold
    exact hnone dial hdial (by simpa using hnew)
  · intro dial
    rw [connect_dials, connect_pool, List.mem_append, List.mem_singleton]
    by_cases hnode : dial.node = node
    · obtain ⟨other, named, generation⟩ := dial
      obtain rfl : node = named := hnode.symm
      have hold : (⟨other, node, generation⟩ : Dial) ∉ t.dials := fun hdial => hnone _ hdial rfl
      simp only [hold, false_or, Dial.mk.injEq, true_and, Pool.claim_slot, Creation.dialing.injEq]
      exact ⟨fun ⟨hcaller, hgeneration⟩ => ⟨hcaller.symm, hgeneration.symm⟩,
        fun ⟨hcaller, hgeneration⟩ => ⟨hcaller.symm, hgeneration.symm⟩⟩
    · rw [Pool.claim_slot_of_ne _ _ hnode, ← h.dialing]
      refine ⟨fun hdial => hdial.resolve_right ?_, .inl⟩
      rintro rfl
      exact hnode rfl
  · intro dial hdial
    rw [connect_pool]
    rcases List.mem_append.mp hdial with hold | hnew
    · rw [Pool.claim_slot_of_ne _ _ (hnone dial hold)]
      exact h.empty dial hold
    · obtain rfl := List.mem_singleton.mp hnew
      simp
  · intro dial hdial
    rcases List.mem_append.mp hdial with hold | hnew
    · exact List.mem_append_left _ (h.recorded dial hold)
    · obtain rfl := List.mem_singleton.mp hnew
      exact List.mem_append_right _ (List.mem_singleton.mpr rfl)

/-- A connect that is over leaves its slot with the new connection or with none. -/
theorem finish {t' : Traffic} {slot : Slot} (h : t.Sound) (hdial : dial ∈ t.dials)
    (hpool : t'.pool = t.pool.setSlot dial.node slot)
    (hdials : t'.dials = t.dials.filter (· ≠ dial)) (hbegun : t'.begun = t.begun)
    (hcurrent : slot.current = none ∨ slot.current = some dial.generation)
    (hcreation : ∀ caller generation, slot.creation ≠ .dialing caller generation) :
    t'.Sound := by
  have hslot : t'.pool.slot dial.node = slot := by rw [hpool, Pool.slot_setSlot]
  have hothers : ∀ other, other ≠ dial.node → t'.pool.slot other = t.pool.slot other := by
    intro other hother
    rw [hpool, Pool.slot_setSlot_of_ne _ _ hother]
  have hleft : ∀ other, other ∈ t'.dials ↔ other ∈ t.dials ∧ other.node ≠ dial.node := by
    intro other
    rw [hdials, List.mem_filter]
    refine and_congr_right fun hother => ?_
    simp only [ne_eq, decide_eq_true_eq]
    refine ⟨fun hne hnode => hne ?_, fun hne hsame => hne (by rw [hsame])⟩
    exact List.inj_on_of_nodup_map h.single hother hdial hnode
  refine ⟨?_, ?_, ?_, ?_, ?_, ?_, ?_⟩
  · rw [hbegun]
    exact h.distinct
  · rw [hbegun, hpool]
    exact h.issued
  · intro other generation hother
    rw [hbegun]
    by_cases hnode : other = dial.node
    · subst hnode
      rw [hslot] at hother
      rcases hcurrent with hnone | hnew
      · rw [hnone] at hother
        cases hother
      · obtain rfl := Option.some.inj (hnew.symm.trans hother)
        exact h.recorded dial hdial
    · rw [hothers other hnode] at hother
      exact h.own other generation hother
  · rw [hdials]
    exact h.single.sublist (List.filter_sublist.map _)
  · intro other
    rw [hleft]
    by_cases hnode : other.node = dial.node
    · simp [hnode, hslot, hcreation]
    · rw [hothers _ hnode, ← h.dialing]
      exact and_iff_left hnode
  · intro other hother
    obtain ⟨hold, hnode⟩ := (hleft other).mp hother
    rw [hothers _ hnode]
    exact h.empty other hold
  · intro other hother
    rw [hbegun]
    exact h.recorded other ((hleft other).mp hother).1

/-- Every event keeps it. -/
theorem does (h : t.Sound) {event : Event} {t' : Traffic} (hdoes : Does t event t') :
    t'.Sound := by
  have hgranted : ∀ {node caller} slot, (t.pool.slot node).creation = .granted caller →
      ∀ caller generation, (Pool.Slot.release slot).creation = .dialing caller generation ↔
        (t.pool.slot node).creation = .dialing caller generation := by
    intro node caller slot hgranted other generation
    simp [hgranted, Pool.release_not_dialing]
  cases hdoes with
  | early | unknown | bare | spared => exact h
  | turnedAway | died => exact h.adjust (fun _ => .inr rfl) (fun _ _ _ => .rfl) rfl rfl rfl
  | served => exact h.adjustSlot rfl rfl rfl (.inr rfl) fun _ _ => .rfl
  | waits | invalidated | struck => exact h.adjustSlot rfl rfl rfl (.inl rfl) fun _ _ => .rfl
  | dials opened vacant idle => exact h.connect _ (by simp [idle])
  | dialsInTurn granted => exact h.connect _ (by simp [granted])
  | servedInTurn granted =>
      exact h.adjustSlot rfl rfl rfl (.inr (Pool.release_current _)) (hgranted _ granted)
  | turnedAwayInTurn granted =>
      exact h.adjustSlot rfl rfl rfl (.inl (Pool.release_current _)) (hgranted _ granted)
  | failed present | discarded present =>
      exact h.finish present rfl rfl rfl
        (.inl ((Pool.release_current _).trans (h.empty _ present))) (Pool.release_not_dialing _)
  | succeeded present =>
      exact h.finish present rfl rfl rfl (.inr (Pool.release_current _))
        (Pool.release_not_dialing _)
  | closedAll =>
      refine h.adjust ?_ ?_ rfl rfl rfl
      · intro node
        rw [Pool.closeAll_slot]
        exact .inl rfl
      · intro node caller generation
        rw [Pool.closeAll_slot]

end Sound

theorem sound (events : List Event) : (of events).Sound := by
  induction events using List.reverseRecOn with
  | nil => exact .start
  | append_singleton events event ih =>
      rw [of_concat]
      exact ih.does (step_does _ event)

end Traffic

end ClusterKv

import ClusterKv.Pool
import ClusterKv.Proofs.Assoc

/-! # Slots of the pool

Whatever the pool does for a caller it does in the slot of one node. What a caller can be told, and
what becomes of the slot then, is said here once. -/

namespace ClusterKv.Pool

variable {pool : Pool} {alive : Nat → Bool} {caller : Nat} {node other : NodeId} {slot : Slot}

/-! ## Setting slots -/

@[simp] theorem slot_setSlot (pool : Pool) (node : NodeId) (slot : Slot) :
    (pool.setSlot node slot).slot node = slot := by
  simp [Pool.slot, setSlot]

@[simp] theorem slot_setSlot_of_ne (pool : Pool) (slot : Slot) (h : other ≠ node) :
    (pool.setSlot node slot).slot other = pool.slot other := by
  simp [Pool.slot, setSlot, Assoc.get?_put_of_ne _ _ h]

/-- A slot that is given up or keeps what it holds brings no connection into the pool. -/
theorem held_of_setSlot {generation : Nat}
    (hslot : slot.current = none ∨ slot.current = (pool.slot node).current)
    (hheld : ((pool.setSlot node slot).slot other).current = some generation) :
    (pool.slot other).current = some generation := by
  by_cases hnode : other = node
  · rw [hnode, slot_setSlot] at hheld
    rcases hslot with hnone | hsame
    · rw [hnone] at hheld
      cases hheld
    · rwa [hnode, ← hsame]
  · rwa [slot_setSlot_of_ne _ _ hnode] at hheld

@[simp] theorem release_current (slot : Slot) : (Slot.release slot).current = slot.current := by
  unfold Slot.release
  split <;> rfl

/-- Once a slot is released nobody connects there for now. -/
theorem release_creation (slot : Slot) :
    slot.queue = [] ∧ (Slot.release slot).creation = .idle ∧ (Slot.release slot).queue = [] ∨
      ∃ caller rest, slot.queue = caller :: rest ∧
        (Slot.release slot).creation = .granted caller ∧ (Slot.release slot).queue = rest := by
  unfold Slot.release
  split
  · next hqueue => exact .inl ⟨hqueue, rfl, hqueue⟩
  · next caller rest hqueue => exact .inr ⟨caller, rest, hqueue, rfl, rfl⟩

theorem release_not_dialing (slot : Slot) (caller generation : Nat) :
    (Slot.release slot).creation ≠ .dialing caller generation := by
  rcases release_creation slot with ⟨-, h, -⟩ | ⟨_, _, -, h, -⟩ <;> simp [h]

/-! ## Callers -/

/-- The slot of a node holds no connection that is alive. -/
def Vacant (pool : Pool) (alive : Nat → Bool) (node : NodeId) : Prop :=
  ∀ generation, (pool.slot node).current = some generation → alive generation = false

/-- The pool after a caller has begun to connect to a node. -/
def claim (pool : Pool) (caller : Nat) (node : NodeId) : Pool :=
  { pool with nextGeneration := pool.nextGeneration + 1 }.setSlot node
    { pool.slot node with current := none, creation := .dialing caller pool.nextGeneration }

/-- What a caller is told whose turn it is to connect, and the pool after that. -/
inductive Entered (pool : Pool) (alive : Nat → Bool) (caller : Nat) (node : NodeId) :
    Pool × Lease → Prop where
  | ready {generation} (held : (pool.slot node).current = some generation)
      (use : alive generation = true) :
      Entered pool alive caller node
        (pool.setSlot node (Slot.release (pool.slot node)), .ready generation)
  | refused (vacant : pool.Vacant alive node) (closed : pool.closed = true) :
      Entered pool alive caller node
        (pool.setSlot node (Slot.release { pool.slot node with current := none }),
          .refused .poolClosed)
  | dials (vacant : pool.Vacant alive node) (opened : pool.closed = false) :
      Entered pool alive caller node (pool.claim caller node, .dial pool.nextGeneration)

/-- What a caller is told who needs a connection, and the pool after that. -/
inductive Acquired (pool : Pool) (alive : Nat → Bool) (caller : Nat) (node : NodeId) :
    Pool × Lease → Prop where
  | refused (closed : pool.closed = true) :
      Acquired pool alive caller node (pool, .refused .poolClosed)
  | ready {generation} (opened : pool.closed = false)
      (held : (pool.slot node).current = some generation) (use : alive generation = true) :
      Acquired pool alive caller node (pool.setSlot node (pool.slot node), .ready generation)
  | dials (opened : pool.closed = false) (vacant : pool.Vacant alive node)
      (idle : (pool.slot node).creation = .idle) :
      Acquired pool alive caller node (pool.claim caller node, .dial pool.nextGeneration)
  | waits (opened : pool.closed = false) (vacant : pool.Vacant alive node)
      (busy : (pool.slot node).creation ≠ .idle) :
      Acquired pool alive caller node
        (pool.setSlot node { pool.slot node with
          current := none, queue := (pool.slot node).queue ++ [caller] }, .wait)

/-- Forgetting a dead connection leaves a slot with one that is alive, or with none. -/
theorem prune_cases (pool : Pool) (alive : Nat → Bool) (node : NodeId) :
    (∃ generation, (pool.slot node).current = some generation ∧ alive generation = true ∧
      Slot.prune alive (pool.slot node) = pool.slot node) ∨
    pool.Vacant alive node ∧
      Slot.prune alive (pool.slot node) = { pool.slot node with current := none } := by
  unfold Vacant Slot.prune
  generalize pool.slot node = slot
  obtain ⟨current, creation, queue⟩ := slot
  cases current with
  | none => exact .inr ⟨by simp, rfl⟩
  | some generation =>
      cases halive : alive generation with
      | true => exact .inl ⟨generation, rfl, halive, by simp [Option.filter, halive]⟩
      | false => exact .inr ⟨by simp [halive], by simp [Option.filter, halive]⟩

theorem enter_entered (pool : Pool) (alive : Nat → Bool) (caller : Nat) (node : NodeId) :
    Entered pool alive caller node (pool.enter alive caller node) := by
  unfold enter
  rcases prune_cases pool alive node with ⟨generation, held, use, h⟩ | ⟨vacant, h⟩
  · simp only [h, held]
    exact .ready held use
  · simp only [h]
    by_cases hclosed : pool.closed = true
    · rw [if_pos hclosed]
      exact .refused vacant hclosed
    · rw [if_neg hclosed]
      exact .dials vacant (by simpa using hclosed)

theorem acquire_acquired (pool : Pool) (alive : Nat → Bool) (caller : Nat) (node : NodeId) :
    Acquired pool alive caller node (pool.acquire alive caller node) := by
  unfold acquire
  by_cases hclosed : pool.closed = true
  · rw [if_pos hclosed]
    exact .refused hclosed
  · rw [if_neg hclosed]
    have hopened : pool.closed = false := by simpa using hclosed
    rcases prune_cases pool alive node with ⟨generation, held, use, h⟩ | ⟨vacant, h⟩
    · simp only [h, held]
      exact .ready hopened held use
    · simp only [h]
      by_cases hidle : (pool.slot node).creation = .idle
      · rw [if_pos hidle]
        have hentered := enter_entered pool alive caller node
        generalize pool.enter alive caller node = result at hentered
        cases hentered with
        | ready held use => simp [vacant _ held] at use
        | refused _ closed => exact absurd closed hclosed
        | dials => exact .dials hopened vacant hidle
      · rw [if_neg hidle]
        exact .waits hopened vacant hidle

/-- Who has to wait: only callers at a node without a connection to which another is connecting, or
may connect. -/
theorem acquire_wait_iff :
    (pool.acquire alive caller node).2 = .wait ↔
      pool.closed = false ∧ pool.Vacant alive node ∧ (pool.slot node).creation ≠ .idle := by
  have hacquired := acquire_acquired pool alive caller node
  generalize pool.acquire alive caller node = result at hacquired
  cases hacquired with
  | refused closed => simp [closed]
  | @ready generation opened held use =>
      refine ⟨by simp, ?_⟩
      rintro ⟨-, vacant, -⟩
      simp [vacant _ held] at use
  | dials opened vacant idle => simp [idle]
  | waits opened vacant busy => simp [opened, vacant, busy]

@[simp] theorem claim_nextGeneration (pool : Pool) (caller : Nat) (node : NodeId) :
    (pool.claim caller node).nextGeneration = pool.nextGeneration + 1 := rfl

@[simp] theorem claim_slot (pool : Pool) (caller : Nat) (node : NodeId) :
    (pool.claim caller node).slot node =
      { pool.slot node with current := none, creation := .dialing caller pool.nextGeneration } :=
  slot_setSlot _ _ _

@[simp] theorem claim_slot_of_ne (pool : Pool) (caller : Nat) (h : other ≠ node) :
    (pool.claim caller node).slot other = pool.slot other :=
  slot_setSlot_of_ne _ _ h

/-! ## Closing connections -/

theorem invalidate_cases (pool : Pool) (node : NodeId) :
    (pool.slot node).current = none ∧ pool.invalidate node = (pool, none) ∨
      ∃ generation, (pool.slot node).current = some generation ∧
        pool.invalidate node =
          (pool.setSlot node { pool.slot node with current := none }, some generation) := by
  unfold invalidate
  cases h : (pool.slot node).current with
  | none => exact .inl ⟨rfl, by simp only [h]⟩
  | some generation => exact .inr ⟨generation, rfl, by simp only [h]⟩

theorem invalidateGeneration_cases (pool : Pool) (node : NodeId) (generation : Nat) :
    (pool.slot node).current ≠ some generation ∧
        pool.invalidateGeneration node generation = (pool, none) ∨
      (pool.slot node).current = some generation ∧
        pool.invalidateGeneration node generation =
          (pool.setSlot node { pool.slot node with current := none }, some generation) := by
  unfold invalidateGeneration
  by_cases h : (pool.slot node).current = some generation
  · rw [if_pos h]
    rcases invalidate_cases pool node with ⟨hnone, -⟩ | ⟨other, hother, hinvalidate⟩
    · rw [h] at hnone
      cases hnone
    · obtain rfl := Option.some.inj (h.symm.trans hother)
      exact .inr ⟨h, hinvalidate⟩
  · rw [if_neg h]
    exact .inl ⟨h, rfl⟩

theorem closeAll_slot (pool : Pool) (node : NodeId) :
    pool.closeAll.1.slot node = { pool.slot node with current := none } := by
  have hget := Assoc.get?_map_values pool.slots
    (fun _ (slot : Slot) => { slot with current := none }) node
  simp only [Pool.slot, closeAll, hget]
  cases pool.slots.get? node <;> rfl

end ClusterKv.Pool

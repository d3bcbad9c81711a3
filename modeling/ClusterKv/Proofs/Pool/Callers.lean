import ClusterKv.Proofs.Pool.Slots

/-! # Who is at the pool

Whoever connects, may connect or waits for his turn is at one node. What the pool does for a caller
brings him in or lets him go, and leaves the others where they are. -/

namespace ClusterKv

/-- Who connects or may connect. -/
def Creation.caller? : Creation → Option Nat
  | idle => none
  | granted caller | dialing caller _ => some caller

namespace Pool

variable {alive : Nat → Bool} {caller : Nat} {node : NodeId} {slot : Slot}

/-- Everyone at a slot, who connects or may connect first. -/
def Slot.callers (slot : Slot) : List Nat := slot.creation.caller?.toList ++ slot.queue

/-- Everyone at the pool. -/
def callers (pool : Pool) : List Nat := pool.slots.flatMap fun e => Slot.callers e.2

@[simp] theorem release_callers (slot : Slot) : Slot.callers (Slot.release slot) = slot.queue := by
  rcases release_creation slot with
    ⟨hqueue, hcreation, hrest⟩ | ⟨caller, rest, hqueue, hcreation, hrest⟩
  · simp [Slot.callers, Creation.caller?, hqueue, hcreation, hrest]
  · simp [Slot.callers, Creation.caller?, hqueue, hcreation, hrest]

section

variable (pool : Pool)

theorem setSlot_callers (node : NodeId) (slot : Slot) :
    ((pool.setSlot node slot).callers ++ Slot.callers (pool.slot node)).Perm
      (pool.callers ++ Slot.callers slot) := by
  have hput := Assoc.flatMap_put Slot.callers pool.slots node slot
  have hold : ((pool.slots.get? node).map Slot.callers).getD [] =
      Slot.callers (pool.slot node) := by
    unfold Pool.slot
    cases pool.slots.get? node <;> rfl
  rwa [hold] at hput

/-- Somebody comes to a slot. -/
theorem setSlot_joins (h : (Slot.callers slot).Perm (caller :: Slot.callers (pool.slot node))) :
    (pool.setSlot node slot).callers.Perm (caller :: pool.callers) := by
  have hput := (setSlot_callers pool node slot).trans (h.append_left _)
  exact (List.perm_append_right_iff _).mp (hput.trans List.perm_middle)

/-- Somebody leaves a slot. -/
theorem setSlot_leaves (h : Slot.callers (pool.slot node) = caller :: Slot.callers slot) :
    (caller :: (pool.setSlot node slot).callers).Perm pool.callers := by
  have hput := setSlot_callers pool node slot
  rw [h] at hput
  exact (List.perm_append_right_iff _).mp (List.perm_middle.symm.trans hput)

/-- Nobody comes to a slot or leaves it. -/
theorem setSlot_stays (h : Slot.callers slot = Slot.callers (pool.slot node)) :
    (pool.setSlot node slot).callers.Perm pool.callers := by
  have hput := setSlot_callers pool node slot
  rw [h] at hput
  exact (List.perm_append_right_iff _).mp hput

end

/-! ## What the pool does -/

variable {pool pool' : Pool} {come leave : List Nat}

/-- Some callers come and some leave. Whoever connects goes on. -/
structure Passes (pool pool' : Pool) (come leave : List Nat) : Prop where
  keys : pool.slots.keys.Nodup → pool'.slots.keys.Nodup
  callers : (leave ++ pool'.callers).Perm (come ++ pool.callers)
  dialing : ∀ node caller generation, (pool.slot node).creation = .dialing caller generation →
    (pool'.slot node).creation = .dialing caller generation

theorem Passes.setSlot
    (hcallers : (leave ++ (pool.setSlot node slot).callers).Perm (come ++ pool.callers))
    (hdialing : ∀ caller generation, (pool.slot node).creation = .dialing caller generation →
      slot.creation = .dialing caller generation) :
    Passes pool (pool.setSlot node slot) come leave := by
  refine ⟨fun hkeys => Assoc.nodup_keys_put hkeys _ _, hcallers,
    fun other caller generation hother => ?_⟩
  by_cases hnode : other = node
  · rw [hnode, slot_setSlot]
    exact hdialing caller generation (hnode ▸ hother)
  · rwa [slot_setSlot_of_ne _ _ hnode]

/-- What comes of a caller who is told something. -/
inductive Told (pool : Pool) (caller : Nat) (node : NodeId) (come : List Nat) :
    Pool × Lease → Prop where
  | ready {told : Pool} {generation} (passes : Passes pool told come [caller]) :
      Told pool caller node come (told, .ready generation)
  | refused {told : Pool} {error} (passes : Passes pool told come [caller]) :
      Told pool caller node come (told, .refused error)
  | waits {told : Pool} (passes : Passes pool told come []) :
      Told pool caller node come (told, .wait)
  | dials {told : Pool} {generation} (passes : Passes pool told come [])
      (free : ∀ other number, (pool.slot node).creation ≠ .dialing other number)
      (begun : (told.slot node).creation = .dialing caller generation) :
      Told pool caller node come (told, .dial generation)

/-- Who begins to connect comes from outside, or had the turn. -/
theorem claim_told (h : come = [caller] ∧ (pool.slot node).creation = .idle ∨
      come = [] ∧ (pool.slot node).creation = .granted caller) :
    Told pool caller node come (pool.claim caller node, .dial pool.nextGeneration) := by
  have hfree : ∀ other number, (pool.slot node).creation ≠ .dialing other number := by
    rcases h with ⟨-, hidle⟩ | ⟨-, hgranted⟩
    · simp [hidle]
    · simp [hgranted]
  let numbered := { pool with nextGeneration := pool.nextGeneration + 1 }
  refine .dials ⟨fun hkeys => Assoc.nodup_keys_put hkeys _ _, ?_, fun other _ _ hother => ?_⟩
    hfree (by simp)
  rotate_left
  · have hnode : other ≠ node := by
      rintro rfl
      exact hfree _ _ hother
    rwa [claim_slot_of_ne _ _ hnode]
  rcases h with ⟨rfl, hidle⟩ | ⟨rfl, hgranted⟩
  · refine setSlot_joins numbered (.of_eq ?_)
    change _ = caller :: Slot.callers (pool.slot node)
    simp [Slot.callers, Creation.caller?, hidle]
  · refine setSlot_stays numbered ?_
    change _ = Slot.callers (pool.slot node)
    simp [Slot.callers, Creation.caller?, hgranted]

theorem acquire_told (pool : Pool) (alive : Nat → Bool) (caller : Nat) (node : NodeId) :
    Told pool caller node [caller] (pool.acquire alive caller node) := by
  have hacquired := acquire_acquired pool alive caller node
  generalize pool.acquire alive caller node = result at hacquired
  cases hacquired with
  | refused closed => exact .refused ⟨id, .rfl, fun _ _ _ h => h⟩
  | ready opened held use =>
      exact .ready (.setSlot ((setSlot_stays pool rfl).cons _) fun _ _ h => h)
  | dials opened vacant idle => exact claim_told (.inl ⟨rfl, idle⟩)
  | waits opened vacant busy =>
      refine .waits (.setSlot (setSlot_joins pool ?_) fun _ _ h => h)
      simp only [Slot.callers, ← List.append_assoc]
      exact List.perm_append_singleton ..

theorem enter_told (hgranted : (pool.slot node).creation = .granted caller) :
    Told pool caller node [] (pool.enter alive caller node) := by
  have hleaves : Slot.callers (pool.slot node) = caller :: (pool.slot node).queue := by
    simp [Slot.callers, Creation.caller?, hgranted]
  have hentered := enter_entered pool alive caller node
  generalize pool.enter alive caller node = result at hentered
  cases hentered with
  | ready held use =>
      refine .ready (.setSlot (setSlot_leaves pool ?_) (by simp [hgranted]))
      rw [hleaves, release_callers]
  | refused vacant closed =>
      refine .refused (.setSlot (setSlot_leaves pool ?_) (by simp [hgranted]))
      rw [hleaves, release_callers]
  | dials vacant opened => exact claim_told (.inr ⟨rfl, hgranted⟩)

/-- What is left when a connect is over: whoever connected leaves. -/
structure Leaves (pool pool' : Pool) (caller : Nat) (node : NodeId) : Prop where
  keys : pool.slots.keys.Nodup → pool'.slots.keys.Nodup
  callers : (caller :: pool'.callers).Perm pool.callers
  others : ∀ other, other ≠ node → pool'.slot other = pool.slot other

theorem dialed_leaves {generation : Nat} (result : Except ConnectionError Unit)
    (hdialing : (pool.slot node).creation = .dialing caller generation) :
    Leaves pool (pool.dialed node generation result).1 caller node := by
  have hrelease : ∀ slot : Slot, slot.queue = (pool.slot node).queue →
      Leaves pool (pool.setSlot node (Slot.release slot)) caller node := by
    intro slot hqueue
    refine ⟨fun hkeys => Assoc.nodup_keys_put hkeys _ _, setSlot_leaves pool ?_,
      fun _ hother => slot_setSlot_of_ne _ _ hother⟩
    rw [release_callers, hqueue]
    simp [Slot.callers, Creation.caller?, hdialing]
  unfold dialed
  cases result with
  | error error => exact hrelease _ rfl
  | ok =>
      dsimp only
      split
      · exact hrelease _ rfl
      · exact hrelease _ rfl

/-- Forgetting connections keeps the callers where they are. -/
theorem invalidateGeneration_passes (pool : Pool) (node : NodeId) (generation : Nat) :
    Passes pool (pool.invalidateGeneration node generation).1 [] [] := by
  rcases invalidateGeneration_cases pool node generation with ⟨-, h⟩ | ⟨-, h⟩
  · rw [h]
    exact ⟨id, .rfl, fun _ _ _ h => h⟩
  · rw [h]
    exact .setSlot (setSlot_stays pool rfl) fun _ _ h => h

theorem closeAll_passes (pool : Pool) : Passes pool pool.closeAll.1 [] [] := by
  refine ⟨fun hkeys => ?_, .of_eq ?_, fun node _ _ h => ?_⟩
  · exact (Assoc.keys_map_values pool.slots fun _ slot => { slot with current := none }) ▸ hkeys
  · simp [callers, closeAll, List.flatMap_map, Slot.callers]
  · rwa [closeAll_slot]

end Pool

end ClusterKv

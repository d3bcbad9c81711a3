import ClusterKv.Proofs.Simulation.Deeds

/-! # Numbers of attempts in a world

Only turns of the dispatcher hand out numbers, and they never take any back: whatever else happens
in a world leaves the dispatcher as it is, or adds to what waits to be accepted. -/

namespace ClusterKv.World

open Dispatcher (Numbered)
open Front (Deed Deeds)

variable {σ : Type} {w w' w'' : World σ}

/-- Numbers stay in order, and none is taken back. -/
def Issues (w w' : World σ) : Prop :=
  Numbered w.dispatcher .empty →
    Numbered w'.dispatcher .empty ∧ w.dispatcher.nextId ≤ w'.dispatcher.nextId

theorem Issues.of_eq (h : w'.dispatcher = w.dispatcher) : Issues w w' := by
  intro hw
  rw [h]
  exact ⟨hw, Nat.le_refl _⟩

theorem Issues.trans (h : Issues w w') (h' : Issues w' w'') : Issues w w'' := by
  intro hw
  obtain ⟨hw', hle⟩ := h hw
  obtain ⟨hw'', hle'⟩ := h' hw'
  exact ⟨hw'', Nat.le_trans hle hle'⟩

theorem Front.turn_issues {f : Front} (hf : Numbered f.dispatcher .empty) (table : Topology)
    (input : Dispatcher.Input) :
    Numbered (f.turn table input).dispatcher .empty ∧
      f.dispatcher.nextId ≤ (f.turn table input).dispatcher.nextId := by
  have hturn := Dispatcher.turn_numbered (m := f.moment table) hf input
  exact ⟨hturn.congr rfl rfl hturn.queues rfl, Dispatcher.turn_nextId hf input⟩

/-- No deed takes a number back. -/
theorem Front.Deed.issues {permitted : Draft → Prop} {f f' : Front} (h : Deed permitted f f')
    (hf : Numbered f.dispatcher .empty) :
    Numbered f'.dispatcher .empty ∧ f.dispatcher.nextId ≤ f'.dispatcher.nextId := by
  cases h with
  | turn | accept => exact turn_issues hf _ _
  | follow =>
      obtain ⟨hturn, hle⟩ := turn_issues hf _ _
      exact ⟨hturn.congr rfl rfl hturn.queues rfl, hle⟩
  | stop running halts =>
      rw [halts.dispatcher]
      exact turn_issues hf default .shutdown
  | enter => exact ⟨hf.congr rfl rfl hf.queues rfl, Nat.le_refl _⟩
  | refuse | block | note => exact ⟨hf, Nat.le_refl _⟩

theorem issues_of_deeds {permitted : Draft → Prop} (h : Deeds permitted w.front w'.front) :
    Issues w w' := by
  intro hw
  exact h.induct
    (P := fun f => Numbered f.dispatcher .empty ∧ w.dispatcher.nextId ≤ f.dispatcher.nextId)
    (fun _ _ hdeed hf => (hdeed.issues hf.1).imp_right (Nat.le_trans hf.2)) ⟨hw, Nat.le_refl _⟩

theorem submitDrafts_issues (number : Nat) (drafts : List Draft) (call : Call) (w : World σ) :
    Issues w (submitDrafts number drafts call w) := by
  have hdeeds : Deeds (fun _ => True) w.front (submitDrafts number drafts call w).front :=
    submitDrafts_deeds number drafts call w (by simp)
  exact issues_of_deeds hdeeds

end ClusterKv.World

import ClusterKv.Topology.Basic
import Mathlib.Logic.Basic

/-! # Parts of a table

Tables are made of parts that fit together, and of all such parts. A map names the nodes at the
places that it holds. -/

namespace ClusterKv.Topology

variable {revision : Nat} {nodes : List NodeId} {current : List (Option Nat)}
  {forward : Option (List (Option Nat))} {table : Topology}

/-- The parts of a table fit together. -/
structure Fits (table : Topology) : Prop where
  count : table.current.length ≤ maxPartitions
  current : WithinNodes table.nodes.length table.current
  forward : ∀ owners, table.forward = some owners →
    owners.length = table.current.length ∧ WithinNodes table.nodes.length owners

theorem ofParts_eq_ok (h : ofParts revision nodes current forward = .ok table) :
    table = ⟨revision, nodes, current, forward⟩ ∧ table.Fits := by
  unfold ofParts at h
  split at h
  · cases h
  next hcount =>
  split at h
  · cases h
  next hcurrent =>
  have hcurrent := not_not.mp hcurrent
  cases forward with
  | none =>
      cases h
      exact ⟨rfl, Nat.le_of_not_lt hcount, hcurrent, nofun⟩
  | some owners =>
      dsimp only at h
      split at h
      · cases h
      next hlength =>
      split at h
      · cases h
      next howners =>
      cases h
      refine ⟨rfl, Nat.le_of_not_lt hcount, hcurrent, fun other hother => ?_⟩
      cases hother
      exact ⟨not_not.mp hlength, not_not.mp howners⟩

theorem Fits.ofParts (h : table.Fits) :
    ofParts table.revision table.nodes table.current table.forward = .ok table := by
  obtain ⟨revision, nodes, current, forward⟩ := table
  unfold Topology.ofParts
  rw [if_neg (Nat.not_lt.mpr h.count), if_neg (not_not_intro h.current)]
  cases forward with
  | none => rfl
  | some owners =>
      obtain ⟨hlength, howners⟩ := h.forward owners rfl
      simp only [if_neg (not_not_intro hlength), if_neg (not_not_intro howners)]

/-! ## What a map names -/

theorem lookup_eq_some_iff {owners : List (Option Nat)} {partition : UInt16} {node : NodeId} :
    lookup nodes owners partition = some node ↔
      ∃ place, owners[partition.toNat]? = some (some place) ∧ nodes[place]? = some node := by
  unfold lookup
  split
  next place hentry => simp [hentry]
  next hnone =>
    refine ⟨nofun, ?_⟩
    rintro ⟨place, hentry, -⟩
    exact (hnone place hentry).elim

end ClusterKv.Topology

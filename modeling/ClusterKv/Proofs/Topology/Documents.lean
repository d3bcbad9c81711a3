import ClusterKv.Topology.Document

/-! # Documents of partition tables

A document says everything about a table that it is written for, if the places of the nodes have
room in it. -/

namespace ClusterKv.Topology

variable {owners : List (Option Nat)}

/-- There is room for so many nodes in a row. -/
abbrev maxNodes : Nat := 0x80000000

theorem WithinNodes.mono {count count' : Nat} (h : WithinNodes count owners)
    (hcount : count ≤ count') : WithinNodes count' owners :=
  fun owner howner place hplace => Nat.lt_of_lt_of_le (h owner howner place hplace) hcount

/-- A place that has room does not wrap around. -/
theorem bmod_place {place : Nat} (h : place < maxNodes) :
    (place : Int).bmod 0x100000000 = place := by
  have h : place < 0x80000000 := h
  rw [Int.bmod_def]
  omega

/-- The owners are read back from the rows that are written for them. -/
theorem ownersOfRows_rowsOfOwners (h : WithinNodes maxNodes owners) (partition : Nat) :
    ownersOfRows partition (rowsOfOwners owners) = .ok owners := by
  induction owners generalizing partition with
  | nil => rfl
  | cons owner rest ih =>
      have hrest := ih (fun other hother => h other (List.mem_cons_of_mem _ hother)) (partition + 1)
      unfold rowsOfOwners at hrest ⊢
      cases owner with
      | none => simp [ownersOfRows, hrest]
      | some place =>
          have hplace := bmod_place (h _ List.mem_cons_self place rfl)
          simp [ownersOfRows, hrest, hplace]

/-- A table is read back from the document that is written for it. Only a forward map without
partitions is lost, for which there is no need. -/
theorem ofDocument_toDocument {table : Topology} (bucket : String)
    (hcurrent : WithinNodes maxNodes table.current)
    (hforward : ∀ owners ∈ table.forward, owners ≠ [] ∧ WithinNodes maxNodes owners) :
    ofDocument (table.toDocument bucket) =
      ofParts table.revision table.nodes table.current table.forward := by
  have hnodes : (table.nodes.map NodeId.address).map NodeId.mk = table.nodes := by
    rw [List.map_map]
    exact List.map_id _
  have hname : hashName.toList.map Char.toUpper = hashName.toList := by decide
  simp only [ofDocument, toDocument, ownersOfRows_rowsOfOwners hcurrent, hnodes,
    if_neg (not_not_intro hname)]
  cases h : table.forward with
  | none => rfl
  | some owners =>
      obtain ⟨hsome, howners⟩ := hforward owners h
      -- the rows are read as they are only since there is at least one
      have hrows : rowsOfOwners owners ≠ [] := by simpa [rowsOfOwners] using hsome
      simp only [Option.map_some, ownersOfRows_rowsOfOwners howners]

end ClusterKv.Topology

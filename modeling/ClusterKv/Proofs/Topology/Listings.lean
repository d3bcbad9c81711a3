import ClusterKv.Proofs.Topology.Parts
import Mathlib.Data.List.Basic
import Mathlib.Data.List.Nodup

/-! # Tables from lists of owners

Each listed node is looked up among those before it, and joins them if it is new. The table that
comes of it means just what was listed, and its parts fit together. -/

namespace ClusterKv.Topology

variable {nodes listed owners : List NodeId} {places : List Nat}

/-! ## Nodes in the order of their appearance -/

/-- The nodes of a list, each once, in the order of their first appearance. -/
structure FirstAppearances (nodes listed : List NodeId) : Prop where
  nodup : nodes.Nodup
  mem : ∀ node, node ∈ nodes ↔ node ∈ listed
  order : nodes.Pairwise fun a b => listed.idxOf a < listed.idxOf b

theorem FirstAppearances.nil : FirstAppearances [] [] := ⟨.nil, fun _ => .rfl, .nil⟩

/-- Further appearances do not change who came first. -/
theorem FirstAppearances.order_append (h : FirstAppearances nodes listed) (more : List NodeId) :
    nodes.Pairwise fun a b => (listed ++ more).idxOf a < (listed ++ more).idxOf b := by
  refine h.order.imp_of_mem fun ha hb hlt => ?_
  rwa [List.idxOf_append_of_mem ((h.mem _).mp ha), List.idxOf_append_of_mem ((h.mem _).mp hb)]

theorem FirstAppearances.again (h : FirstAppearances nodes listed) {node : NodeId}
    (hnode : node ∈ nodes) : FirstAppearances nodes (listed ++ [node]) where
  nodup := h.nodup
  mem other := by
    rw [List.mem_append, List.mem_singleton, ← h.mem]
    exact ⟨.inl, fun hother => hother.elim id fun heq => heq ▸ hnode⟩
  order := h.order_append [node]

theorem FirstAppearances.new (h : FirstAppearances nodes listed) {node : NodeId}
    (hnode : node ∉ nodes) : FirstAppearances (nodes ++ [node]) (listed ++ [node]) where
  nodup := by
    refine List.nodup_append.mpr ⟨h.nodup, List.nodup_singleton node, fun a ha b hb heq => ?_⟩
    rw [List.mem_singleton.mp hb] at heq
    exact hnode (heq ▸ ha)
  mem other := by rw [List.mem_append, List.mem_append, h.mem]
  order := by
    refine List.pairwise_append.mpr ⟨h.order_append [node], List.pairwise_singleton _ _, ?_⟩
    intro a ha b hb
    rw [List.mem_singleton.mp hb, List.idxOf_append_of_mem ((h.mem a).mp ha),
      List.idxOf_append_of_notMem (mt (h.mem node).mpr hnode)]
    exact Nat.lt_of_lt_of_le (List.idxOf_lt_length_of_mem ((h.mem a).mp ha)) (Nat.le_add_right _ _)

/-! ## Places of nodes -/

/-- A node has its place already, or it gets the next one. -/
theorem place_cases (nodes : List NodeId) (node : NodeId) :
    (∃ index, place nodes node = (nodes, index) ∧ nodes[index]? = some node) ∨
      node ∉ nodes ∧ place nodes node = (nodes ++ [node], nodes.length) := by
  unfold place
  split
  next index hfound =>
    obtain ⟨hlt, hnode, -⟩ := List.findIdx?_eq_some_iff_getElem.mp hfound
    have hnode : nodes[index] = node := by simpa using hnode
    exact .inl ⟨index, rfl, by rw [List.getElem?_eq_getElem hlt, hnode]⟩
  next hnone =>
    refine .inr ⟨fun hmem => ?_, rfl⟩
    simpa using List.findIdx?_eq_none_iff.mp hnone node hmem

theorem place_extends (nodes : List NodeId) (node : NodeId) : nodes <+: (place nodes node).1 := by
  rcases place_cases nodes node with ⟨index, hplace, -⟩ | ⟨-, hplace⟩
  · exact hplace ▸ List.prefix_refl nodes
  · exact hplace ▸ List.prefix_append nodes [node]

theorem getElem?_place (nodes : List NodeId) (node : NodeId) :
    (place nodes node).1[(place nodes node).2]? = some node := by
  rcases place_cases nodes node with ⟨index, hplace, hnode⟩ | ⟨-, hplace⟩
  · rw [hplace, hnode]
  · simp [hplace]

theorem FirstAppearances.place (h : FirstAppearances nodes listed) (node : NodeId) :
    FirstAppearances (place nodes node).1 (listed ++ [node]) := by
  rcases place_cases nodes node with ⟨index, hplace, hnode⟩ | ⟨hnode, hplace⟩
  · rw [hplace]
    exact h.again (List.mem_of_getElem? hnode)
  · rw [hplace]
    exact h.new hnode

theorem placeAll_cons (nodes : List NodeId) (node : NodeId) (more : List NodeId) :
    placeAll nodes (node :: more) =
      ((placeAll (place nodes node).1 more).1,
        (place nodes node).2 :: (placeAll (place nodes node).1 more).2) := rfl

theorem placeAll_extends (nodes owners : List NodeId) : nodes <+: (placeAll nodes owners).1 := by
  induction owners generalizing nodes with
  | nil => exact List.prefix_refl nodes
  | cons node more ih => exact (place_extends nodes node).trans (ih _)

theorem FirstAppearances.placeAll (h : FirstAppearances nodes listed) (owners : List NodeId) :
    FirstAppearances (placeAll nodes owners).1 (listed ++ owners) := by
  induction owners generalizing nodes listed with
  | nil => simpa [Topology.placeAll] using h
  | cons node more ih => simpa [placeAll_cons] using ih (h.place node)

/-! ## What places stand for -/

/-- Each place stands for the owner that is listed in its stead. -/
def Names (nodes : List NodeId) (places : List Nat) (owners : List NodeId) : Prop :=
  places.map (nodes[·]?) = owners.map some

theorem getElem?_of_prefix {nodes' : List NodeId} (h : nodes <+: nodes') {index : Nat}
    {node : NodeId} (hnode : nodes[index]? = some node) : nodes'[index]? = some node := by
  obtain ⟨rest, rfl⟩ := h
  rw [List.getElem?_append_left (List.getElem?_eq_some_iff.mp hnode).1, hnode]

theorem Names.length (h : Names nodes places owners) : places.length = owners.length := by
  simpa using congrArg List.length h

theorem Names.named (h : Names nodes places owners) {index : Nat} (hindex : index ∈ places) :
    ∃ node, nodes[index]? = some node := by
  have hmem : nodes[index]? ∈ owners.map some := h ▸ List.mem_map_of_mem hindex
  obtain ⟨node, -, hnode⟩ := List.mem_map.mp hmem
  exact ⟨node, hnode.symm⟩

/-- Nodes that come later do not change what a place stands for. -/
theorem Names.extend {nodes' : List NodeId} (h : Names nodes places owners)
    (hnodes : nodes <+: nodes') : Names nodes' places owners := by
  unfold Names at h ⊢
  rw [← h]
  refine List.map_congr_left fun index hindex => ?_
  obtain ⟨node, hnode⟩ := Names.named h hindex
  rw [hnode, getElem?_of_prefix hnodes hnode]

theorem Names.within (h : Names nodes places owners) :
    WithinNodes nodes.length (places.map some) := by
  intro owner howner index hindex
  obtain ⟨place, hplace, rfl⟩ := List.mem_map.mp howner
  obtain ⟨node, hnode⟩ := h.named hplace
  cases hindex
  exact (List.getElem?_eq_some_iff.mp hnode).1

theorem WithinNodes.append_none {count : Nat} {map : List (Option Nat)} (h : WithinNodes count map)
    (left : Nat) : WithinNodes count (map ++ List.replicate left none) := by
  intro owner howner place hplace
  rcases List.mem_append.mp howner with hmem | hmem
  · exact h owner hmem place hplace
  · rw [List.eq_of_mem_replicate hmem] at hplace
    cases hplace

theorem placeAll_names (nodes owners : List NodeId) :
    Names (placeAll nodes owners).1 (placeAll nodes owners).2 owners := by
  induction owners generalizing nodes with
  | nil => rfl
  | cons node more ih =>
      have hnode := getElem?_of_prefix (placeAll_extends (place nodes node).1 more)
        (getElem?_place nodes node)
      exact congrArg₂ List.cons hnode (ih (place nodes node).1)

theorem getElem?_append_none (places : List Nat) (left i place : Nat) :
    (places.map some ++ List.replicate left none)[i]? = some (some place) ↔
      places[i]? = some place := by
  by_cases hlt : i < places.length
  · simp [List.getElem?_append_left, hlt]
  · simp [List.getElem?_append_right, Nat.le_of_not_lt hlt, List.getElem?_replicate]

/-- A map of places names the owners, and nobody for the partitions that are left. -/
theorem Names.lookup (h : Names nodes places owners) (left : Nat) (partition : UInt16) :
    lookup nodes (places.map some ++ List.replicate left none) partition =
      owners[partition.toNat]? := by
  have hname : places[partition.toNat]?.map (nodes[·]?) = owners[partition.toNat]?.map some := by
    simpa using congrArg (·[partition.toNat]?) h
  refine Option.ext fun node => ?_
  simp only [lookup_eq_some_iff, getElem?_append_none]
  constructor
  · rintro ⟨place, hplace, hnode⟩
    rw [hplace, Option.map_some, hnode] at hname
    obtain ⟨owner, howner, ⟨rfl⟩⟩ := Option.map_eq_some_iff.mp hname.symm
    exact howner
  · intro howner
    rwa [howner, Option.map_some, Option.map_eq_some_iff] at hname

theorem Names.lookup_all (h : Names nodes places owners) (partition : UInt16) :
    Topology.lookup nodes (places.map some) partition = owners[partition.toNat]? := by
  simpa using h.lookup 0 partition

/-! ## Tables -/

/-- The part of a list that is used says nothing past its end and nothing past that of the list. -/
theorem getElem?_take_eq (ahead : List NodeId) (count i : Nat) :
    (ahead.take count)[i]? = if i < count ∧ i < ahead.length then ahead[i]? else none := by
  rw [List.getElem?_take]
  by_cases hcount : i < count
  · by_cases hlength : i < ahead.length
    · rw [if_pos hcount, if_pos ⟨hcount, hlength⟩]
    · have hnone : ahead[i]? = none := List.getElem?_eq_none (Nat.le_of_not_lt hlength)
      rw [if_pos hcount, if_neg fun h => hlength h.2, hnone]
  · rw [if_neg hcount, if_neg fun h => hcount h.1]

theorem ofOwners_names (revision : Nat) (owners : List NodeId) :
    Names (ofOwners revision owners).nodes (placeAll [] owners).2 owners :=
  placeAll_names [] owners

theorem ofOwners_length (revision : Nat) (owners : List NodeId) :
    (ofOwners revision owners).current.length = owners.length :=
  (List.length_map ..).trans (ofOwners_names revision owners).length

theorem owner_ofOwners (revision : Nat) (owners : List NodeId) (partition : UInt16) :
    (ofOwners revision owners).owner partition = owners[partition.toNat]? :=
  (ofOwners_names revision owners).lookup_all partition

/-- The parts of a table with a forward map. What is listed past the last partition is left out. -/
theorem withForwardOwners_eq (table : Topology) (ahead : List NodeId) :
    let used := ahead.take table.current.length
    table.withForwardOwners ahead =
      ⟨table.revision, (placeAll table.nodes used).1, table.current,
        some ((placeAll table.nodes used).2.map some ++
          List.replicate (table.current.length - used.length) none)⟩ := by
  intro used
  rw [← (placeAll_names table.nodes used).length]
  rfl

/-- What a table from lists of owners is to mean. -/
structure AsListed (revision : Nat) (owners ahead : List NodeId) (table : Topology) : Prop where
  owner : ∀ partition : UInt16, table.owner partition = owners[partition.toNat]?
  /-- Where the list is too short, or goes beyond the partitions, it heads none to anywhere. -/
  forwardOwner : ∀ partition : UInt16, table.forwardOwner partition =
    if partition.toNat < owners.length ∧ partition.toNat < ahead.length then
      ahead[partition.toNat]? else none
  nodes : FirstAppearances table.nodes (owners ++ ahead.take owners.length)
  /-- Where partitions are headed does not change who owns them. -/
  unmoved : ∀ partition : UInt16,
    table.owner partition = (ofOwners revision owners).owner partition
  /-- The parts could have been put together to the same table. -/
  accepted : ofParts revision table.nodes table.current table.forward = .ok table

/-- A table from lists of owners means what was listed. -/
theorem withForwardOwners_asListed (revision : Nat) {owners : List NodeId}
    (hcount : owners.length ≤ maxPartitions) (ahead : List NodeId) :
    AsListed revision owners ahead ((ofOwners revision owners).withForwardOwners ahead) := by
  let used := ahead.take owners.length
  let nodes := (placeAll (ofOwners revision owners).nodes used).1
  let current := (placeAll [] owners).2.map some
  let places := (placeAll (ofOwners revision owners).nodes used).2
  let left := owners.length - used.length
  have htable : (ofOwners revision owners).withForwardOwners ahead =
      ⟨revision, nodes, current, some (places.map some ++ List.replicate left none)⟩ := by
    rw [withForwardOwners_eq, ofOwners_length]
    rfl
  have hcurrent : Names nodes (placeAll [] owners).2 owners :=
    (ofOwners_names revision owners).extend (placeAll_extends _ used)
  have hforward : Names nodes places used := placeAll_names _ used
  have howner (partition : UInt16) : lookup nodes current partition = owners[partition.toNat]? :=
    hcurrent.lookup_all partition
  have hfits :
      Fits ⟨revision, nodes, current, some (places.map some ++ List.replicate left none)⟩ := by
    refine ⟨by simpa [current, hcurrent.length] using hcount, hcurrent.within, ?_⟩
    rintro _ ⟨rfl⟩
    have hused : used.length ≤ owners.length := List.length_take_le ..
    refine ⟨?_, hforward.within.append_none left⟩
    simp only [List.length_append, List.length_map, List.length_replicate, current,
      hforward.length, hcurrent.length]
    omega
  rw [htable]
  exact
    { owner := howner
      forwardOwner := fun partition =>
        (hforward.lookup left partition).trans (getElem?_take_eq ahead owners.length _)
      nodes := (FirstAppearances.nil.placeAll owners).placeAll used
      unmoved := fun partition =>
        (howner partition).trans (owner_ofOwners revision owners partition).symm
      accepted := hfits.ofParts }

theorem takenOver_asListed :
    [NodeId.mk "b:1", ⟨"a:1"⟩, ⟨"b:1"⟩].length ≤ maxPartitions ∧
      AsListed 7 [⟨"b:1"⟩, ⟨"a:1"⟩, ⟨"b:1"⟩] [⟨"c:1"⟩, ⟨"b:1"⟩]
        ⟨7, [⟨"b:1"⟩, ⟨"a:1"⟩, ⟨"c:1"⟩], [some 0, some 1, some 0],
          some [some 2, some 0, none]⟩ :=
  ⟨by decide, withForwardOwners_asListed 7 (by decide) [⟨"c:1"⟩, ⟨"b:1"⟩]⟩

end ClusterKv.Topology

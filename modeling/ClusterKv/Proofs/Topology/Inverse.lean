import ClusterKv.Proofs.Topology.Acceptance
import Mathlib.Data.List.Nodup

/-! # The partitions of a node

The partitions that are listed for a node are in ascending order, and the node owns them. It owns no
others, unless its name stands in several places, of which the foremost hides the rest. -/

namespace ClusterKv.Topology

variable {table : Topology} {node : NodeId} {partition : UInt16}

/-- A table that has been read, or put together from parts. -/
inductive Built : Topology → Prop
  | parsed {text : String} {table : Topology} (h : parse text = .ok table) : Built table
  | assembled {revision : Nat} {nodes : List NodeId} {current : List (Option Nat)}
      {forward : Option (List (Option Nat))} {table : Topology}
      (h : ofParts revision nodes current forward = .ok table) : Built table

theorem Built.fits (h : Built table) : table.Fits := by
  cases h with
  | parsed h =>
      unfold parse at h
      split at h
      · cases h
      · obtain ⟨hformed, rfl⟩ := ofDocument_eq_ok_iff.mp h
        exact (wellFormed_iff.mp hformed).2
  | assembled h => exact (ofParts_eq_ok h).2

/-! ## The partitions of a place -/

/-- The partitions of a place are the numbers of the entries that give them to it. -/
theorem ownedFrom_eq (index start : Nat) (owners : List (Option Nat)) :
    ownedFrom index start owners =
      ((owners.zipIdx start).filter (·.1 = some index)).map (·.2.toUInt16) := by
  induction owners generalizing start with
  | nil => rfl
  | cons owner rest ih =>
      rw [ownedFrom, List.zipIdx_cons, List.filter_cons, ih]
      by_cases howner : owner = some index <;> simp [howner]

/-- The number of an entry has room. -/
theorem toNat_number {owners : List (Option Nat)} (hsmall : owners.length ≤ maxPartitions)
    {entry : Option Nat × Nat} (hentry : entry ∈ owners.zipIdx) :
    entry.2.toUInt16.toNat = entry.2 :=
  UInt16.toNat_ofNat_of_lt' (Nat.lt_of_lt_of_le (List.snd_lt_of_mem_zipIdx hentry) hsmall)

theorem mem_ownedFrom {index : Nat} {owners : List (Option Nat)}
    (hsmall : owners.length ≤ maxPartitions) :
    partition ∈ ownedFrom index 0 owners ↔ owners[partition.toNat]? = some (some index) := by
  rw [ownedFrom_eq, List.mem_map]
  constructor
  · rintro ⟨entry, hmem, rfl⟩
    obtain ⟨hentry, hindex⟩ := List.mem_filter.mp hmem
    rw [toNat_number hsmall hentry, List.mem_zipIdx_iff_getElem?.mp hentry,
      of_decide_eq_true hindex]
  · intro hentry
    refine ⟨(some index, partition.toNat), List.mem_filter.mpr ⟨?_, by simp⟩, UInt16.ofNat_toNat⟩
    exact List.mk_mem_zipIdx_iff_getElem?.mpr hentry

theorem ownedFrom_ascending {index : Nat} {owners : List (Option Nat)}
    (hsmall : owners.length ≤ maxPartitions) :
    (ownedFrom index 0 owners).Pairwise (· < ·) := by
  have hnumbers : owners.zipIdx.Pairwise (·.2 < ·.2) := by
    rw [← List.pairwise_map, List.zipIdx_map_snd]
    exact List.pairwise_lt_range' 1
  rw [ownedFrom_eq, List.pairwise_map]
  refine (hnumbers.imp_of_mem fun ha hb hlt => ?_).filter _
  rwa [UInt16.lt_iff_toNat_lt, toNat_number hsmall ha, toNat_number hsmall hb]

/-! ## Foremost places -/

/-- No place before this one bears the same name. -/
def Foremost (table : Topology) (place : Nat) : Prop :=
  ∀ earlier < place, table.nodes[earlier]? ≠ table.nodes[place]?

instance (table : Topology) (place : Nat) : Decidable (table.Foremost place) :=
  inferInstanceAs (Decidable (∀ earlier < place, table.nodes[earlier]? ≠ table.nodes[place]?))

theorem findIdx?_eq_some_iff {place : Nat} :
    table.nodes.findIdx? (· = node) = some place ↔
      table.nodes[place]? = some node ∧ table.Foremost place := by
  rw [List.findIdx?_eq_some_iff_getElem]
  constructor
  · rintro ⟨hplace, hnode, hbefore⟩
    have hnode : table.nodes[place]? = some node := by
      rw [List.getElem?_eq_getElem hplace, of_decide_eq_true hnode]
    refine ⟨hnode, fun earlier hearlier heq => hbefore earlier hearlier ?_⟩
    have hother := heq.trans hnode
    rw [List.getElem?_eq_getElem (hearlier.trans hplace), Option.some_inj] at hother
    exact decide_eq_true hother
  · rintro ⟨hnode, hforemost⟩
    obtain ⟨hplace, hname⟩ := List.getElem?_eq_some_iff.mp hnode
    refine ⟨hplace, decide_eq_true hname, fun earlier hearlier heq => hforemost earlier hearlier ?_⟩
    rw [hnode, List.getElem?_eq_getElem (hearlier.trans hplace), of_decide_eq_true heq]

/-- With no name in two places, every place is foremost. -/
theorem foremost_of_nodup (h : table.nodes.Nodup) {place : Nat}
    (hplace : place < table.nodes.length) : table.Foremost place := by
  intro earlier hearlier heq
  rw [List.getElem?_eq_getElem hplace, List.getElem?_eq_getElem (hearlier.trans hplace),
    Option.some_inj] at heq
  exact Nat.ne_of_lt hearlier ((List.Nodup.getElem_inj_iff h).mp heq)

/-! ## The partitions of a node -/

theorem owner_eq_some_iff :
    table.owner partition = some node ↔ ∃ place,
      table.current[partition.toNat]? = some (some place) ∧ table.nodes[place]? = some node :=
  lookup_eq_some_iff

/-- A node is listed for the partitions that the map gives to its foremost place. -/
theorem mem_partitionsOf_iff (h : table.current.length ≤ maxPartitions) :
    partition ∈ table.partitionsOf node ↔ ∃ place,
      table.current[partition.toNat]? = some (some place) ∧ table.nodes[place]? = some node ∧
        table.Foremost place := by
  unfold partitionsOf
  split
  next index hindex =>
    obtain ⟨hnode, hforemost⟩ := findIdx?_eq_some_iff.mp hindex
    rw [mem_ownedFrom h]
    refine ⟨fun hentry => ⟨index, hentry, hnode, hforemost⟩, ?_⟩
    rintro ⟨place, hentry, hplace⟩
    rwa [Option.some_inj.mp (hindex.symm.trans (findIdx?_eq_some_iff.mpr hplace))]
  next hnone =>
    refine ⟨nofun, ?_⟩
    rintro ⟨place, -, hplace⟩
    cases hnone.symm.trans (findIdx?_eq_some_iff.mpr hplace)

theorem partitionsOf_ascending (h : table.current.length ≤ maxPartitions) (node : NodeId) :
    (table.partitionsOf node).Pairwise (· < ·) := by
  unfold partitionsOf
  split
  · exact ownedFrom_ascending h
  · exact .nil

/-! ## The inverse -/

/-- A table lists for each node just the partitions that it owns. -/
def Inverse (table : Topology) : Prop :=
  ∀ node partition, partition ∈ table.partitionsOf node ↔ table.owner partition = some node

/-- What is listed is just what is owned if and only if each place that owns something is the
foremost of its name. -/
theorem Fits.inverse_iff (h : table.Fits) :
    table.Inverse ↔ ∀ place, some place ∈ table.current → table.Foremost place := by
  constructor
  · intro hinverse place hplace
    obtain ⟨i, hi, hentry⟩ := List.mem_iff_getElem.mp hplace
    have hnumber : i.toUInt16.toNat = i := UInt16.toNat_ofNat_of_lt' (Nat.lt_of_lt_of_le hi h.count)
    have hentry : table.current[i.toUInt16.toNat]? = some (some place) := by
      rw [hnumber, List.getElem?_eq_getElem hi, hentry]
    have hlt : place < table.nodes.length := h.current _ hplace place rfl
    have hnode : table.nodes[place]? = some table.nodes[place] := List.getElem?_eq_getElem hlt
    have hlisted := (hinverse _ _).mpr (owner_eq_some_iff.mpr ⟨place, hentry, hnode⟩)
    obtain ⟨other, hother, -, hforemost⟩ := (mem_partitionsOf_iff h.count).mp hlisted
    cases hentry.symm.trans hother
    exact hforemost
  · intro hforemost node partition
    rw [mem_partitionsOf_iff h.count, owner_eq_some_iff]
    constructor
    · rintro ⟨place, hentry, hnode, -⟩
      exact ⟨place, hentry, hnode⟩
    · rintro ⟨place, hentry, hnode⟩
      exact ⟨place, hentry, hnode, hforemost place (List.mem_of_getElem? hentry)⟩

/-- The partitions of a node are listed in ascending order, and it owns all of them. One that it
owns is among them if its entry holds the foremost place with the name of the node. So the lists are
just what the nodes own if and only if no entry holds a later place of some name, and certainly if
no name stands in two places. -/
theorem partitionsOf_owned (h : Built table) :
    (∀ node, (table.partitionsOf node).Pairwise (· < ·)) ∧
      (∀ node partition, partition ∈ table.partitionsOf node ↔
        table.owner partition = some node ∧
          ∀ place, table.current[partition.toNat]? = some (some place) → table.Foremost place) ∧
      (table.Inverse ↔ ∀ place, some place ∈ table.current → table.Foremost place) ∧
      (table.nodes.Nodup → table.Inverse) := by
  have hfits := h.fits
  refine ⟨partitionsOf_ascending hfits.count, fun node partition => ?_, hfits.inverse_iff,
    fun hnodup => hfits.inverse_iff.mpr fun place hplace =>
      foremost_of_nodup hnodup (hfits.current _ hplace place rfl)⟩
  rw [mem_partitionsOf_iff hfits.count, owner_eq_some_iff]
  constructor
  · rintro ⟨place, hentry, hnode, hforemost⟩
    refine ⟨⟨place, hentry, hnode⟩, fun other hother => ?_⟩
    cases hentry.symm.trans hother
    exact hforemost
  · rintro ⟨⟨place, hentry, hnode⟩, hforemost⟩
    exact ⟨place, hentry, hnode, hforemost place hentry⟩

/-- A table that names a node twice, and gives a partition to it in either place. -/
def namesakes : Topology :=
  ⟨1, [⟨"a:1"⟩, ⟨"b:1"⟩, ⟨"a:1"⟩], [some 0, some 1, some 2], none⟩

/-- The table is read from the document that is written for it. -/
theorem namesakes_parsed : parse (namesakes.toDocument "default").write = .ok namesakes :=
  have hfits : namesakes.Fits := ⟨by decide, by decide, nofun⟩
  (hfits.parse_write (by decide) (by decide) "default").trans (by rfl)

theorem namesakes_owned :
    Built namesakes ∧ 0 ∈ namesakes.partitionsOf ⟨"a:1"⟩ ∧ 1 ∈ namesakes.partitionsOf ⟨"b:1"⟩ ∧
      ¬namesakes.Inverse := by
  have h : Built namesakes := .parsed namesakes_parsed
  obtain ⟨-, hlisted, hinverse, -⟩ := partitionsOf_owned h
  refine ⟨h, (hlisted _ _).mpr ⟨by decide, ?_⟩, (hlisted _ _).mpr ⟨by decide, ?_⟩, ?_⟩
  · rintro _ ⟨rfl⟩
    decide
  · rintro _ ⟨rfl⟩
    decide
  · rw [hinverse]
    exact fun hforemost => absurd (hforemost 2 (by decide)) (by decide)

/-- The node owns a partition that is not listed for it. -/
theorem namesake_overlooked :
    parse (namesakes.toDocument "default").write = .ok namesakes ∧
      ofParts 1 namesakes.nodes namesakes.current none = .ok namesakes ∧
      namesakes.owner 2 = some ⟨"a:1"⟩ ∧ 2 ∉ namesakes.partitionsOf ⟨"a:1"⟩ :=
  ⟨namesakes_parsed, by rfl, by decide, by decide⟩

end ClusterKv.Topology

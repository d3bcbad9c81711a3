import ClusterKv.Proofs.Topology.RoundTrip
import Mathlib.Data.List.Forall2

/-! # Accepted documents

A document describes a table exactly if it is well formed. The table then says of each partition what
the first entry of its row says, in either map. -/

namespace ClusterKv

/-! ## Names in any case -/

/-- Is a text a name in capital letters, of which any may be written small? -/
def Text.Spelled (name text : String) : Prop :=
  List.Forall₂ (fun c capital => c = capital ∨ c = capital.toLower) text.toList name.toList

theorem Text.toUpper_eq_iff {c capital : Char} (h : capital.isUpper) :
    c.toUpper = capital ↔ c = capital ∨ c = capital.toLower := by
  have hcapital : 'A'.val ≤ capital.val ∧ capital.val ≤ 'Z'.val := by
    unfold Char.isUpper at h
    simpa using h
  unfold Char.toUpper Char.toLower
  rw [dif_pos hcapital]
  simp only [UInt32.le_iff_toNat_le] at hcapital
  split
  next hsmall =>
    simp only [UInt32.le_iff_toNat_le] at hsmall
    simp [Char.ext_iff, ← UInt32.toNat_inj, UInt32.toNat_add] at *
    omega
  next hother =>
    simp only [UInt32.le_iff_toNat_le] at hother
    simp [Char.ext_iff, ← UInt32.toNat_inj, UInt32.toNat_add] at *
    omega

theorem Text.map_toUpper_eq_iff {capitals : List Char} (h : ∀ capital ∈ capitals, capital.isUpper)
    (cs : List Char) :
    cs.map Char.toUpper = capitals ↔
      List.Forall₂ (fun c capital => c = capital ∨ c = capital.toLower) cs capitals := by
  induction capitals generalizing cs with
  | nil => simp
  | cons capital rest ih =>
      have hcapital := h capital List.mem_cons_self
      have hrest := ih fun other hother => h other (List.mem_cons_of_mem _ hother)
      cases cs with
      | nil => simp
      | cons c more => simp [toUpper_eq_iff hcapital, hrest]

theorem hashName_spelled (text : String) :
    text.toList.map Char.toUpper = hashName.toList ↔ Text.Spelled hashName text :=
  Text.map_toUpper_eq_iff (List.all_eq_true.mp (by rfl)) text.toList

/-! ## Well-formed documents -/

/-- A row is fit for so many servers if it starts with the place of one of them or below zero. -/
def RowFits (servers : Nat) : List Int → Prop
  | [] => False
  | entry :: _ => entry < 0 ∨ entry < servers

/-- The maps of a document are fit to be a table. An empty forward map is as good as none. -/
structure ServerMap.WellFormed (map : ServerMap) : Prop where
  hash : Text.Spelled hashName map.hashAlgorithm
  count : map.rows.length ≤ 65536
  rows : ∀ row ∈ map.rows, RowFits map.servers.length row
  forward : ∀ rows, map.forwardRows = some rows → rows ≠ [] →
    rows.length = map.rows.length ∧ ∀ row ∈ rows, RowFits map.servers.length row

theorem ServerMap.WellFormed.rows_ahead {map : ServerMap} (h : map.WellFormed) :
    ∀ row ∈ map.forwardRows.getD [], RowFits map.servers.length row := by
  intro row hrow
  cases hforward : map.forwardRows with
  | none => simp [hforward] at hrow
  | some rows =>
      rw [hforward, Option.getD_some] at hrow
      exact (h.forward rows hforward (List.ne_nil_of_mem hrow)).2 row hrow

/-- What the rows of a map say of a partition: that nobody has it, or which server does. -/
inductive ServerMap.Says (map : ServerMap) (rows : List (List Int)) (partition : UInt16) :
    Option NodeId → Prop
  | missing (row : rows[partition.toNat]? = none) : Says map rows partition none
  | nobody {entry : Int} {later : List Int} (row : rows[partition.toNat]? = some (entry :: later))
      (negative : entry < 0) : Says map rows partition none
  | server {place : Nat} {later : List Int} {name : String}
      (row : rows[partition.toNat]? = some ((place : Int) :: later))
      (listed : map.servers[place]? = some name) : Says map rows partition (some ⟨name⟩)

/-- The document with no more than the first entry of each row. -/
def BucketDocument.firstEntries (document : BucketDocument) : BucketDocument :=
  { document with
    map :=
      { document.map with
        rows := document.map.rows.map (List.take 1)
        forwardRows := document.map.forwardRows.map (List.map (List.take 1)) } }

namespace Topology

variable {table : Topology} {document : BucketDocument}

/-! ## The owners in the rows -/

/-- The place of the owner that a row names. -/
def ownerOfRow (row : List Int) : Option Nat :=
  row.head?.bind fun entry => if entry < 0 then none else some entry.toNat

@[simp] theorem ownerOfRow_negative {entry : Int} (h : entry < 0) (later : List Int) :
    ownerOfRow (entry :: later) = none := by
  simp [ownerOfRow, h]

@[simp] theorem ownerOfRow_place (place : Nat) (later : List Int) :
    ownerOfRow (place :: later) = some place := by
  simp [ownerOfRow]

/-- The rows of a map are read exactly if none of them is empty. -/
theorem ownersOfRows_cases (partition : Nat) (rows : List (List Int)) :
    [] ∉ rows ∧ ownersOfRows partition rows = .ok (rows.map ownerOfRow) ∨
      [] ∈ rows ∧ ∃ fault, ownersOfRows partition rows = .error fault := by
  induction rows generalizing partition with
  | nil => exact .inl ⟨List.not_mem_nil, rfl⟩
  | cons row more ih =>
      cases row with
      | nil => exact .inr ⟨List.mem_cons_self, _, rfl⟩
      | cons entry later =>
          rcases ih (partition + 1) with ⟨hmore, hread⟩ | ⟨hmore, fault, hread⟩
          · exact .inl ⟨by simp [hmore], by simp [ownersOfRows, hread, ownerOfRow]⟩
          · exact .inr ⟨List.mem_cons_of_mem _ hmore, fault, by simp [ownersOfRows, hread]⟩

theorem rowFits_iff (count : Nat) (row : List Int) :
    RowFits count row ↔ row ≠ [] ∧ ∀ place ∈ ownerOfRow row, place < count := by
  cases row with
  | nil => simp [RowFits]
  | cons entry later =>
      by_cases hnegative : entry < 0
      · simp [RowFits, hnegative]
      · obtain ⟨place, rfl⟩ := Int.eq_ofNat_of_zero_le (Int.not_lt.mp hnegative)
        simp [RowFits, hnegative]

theorem rowsFit_iff (count : Nat) (rows : List (List Int)) :
    (∀ row ∈ rows, RowFits count row) ↔ [] ∉ rows ∧ WithinNodes count (rows.map ownerOfRow) := by
  have hempty : [] ∉ rows ↔ ∀ row ∈ rows, row ≠ [] :=
    ⟨fun h row hrow hnil => h (hnil ▸ hrow), fun h hnil => h [] hnil rfl⟩
  simp only [rowFits_iff, WithinNodes, List.forall_mem_map, hempty, forall_and]

/-- A map read from rows that fit names for each partition what the rows say. -/
theorem says_lookup {map : ServerMap} {rows : List (List Int)}
    (hrows : ∀ row ∈ rows, RowFits map.servers.length row) (partition : UInt16) :
    map.Says rows partition
      (lookup (map.servers.map NodeId.mk) (rows.map ownerOfRow) partition) := by
  unfold lookup
  rw [List.getElem?_map]
  cases hrow : rows[partition.toNat]? with
  | none => exact .missing hrow
  | some row =>
      have hfits := hrows row (List.mem_of_getElem? hrow)
      cases row with
      | nil => exact hfits.elim
      | cons entry later =>
          by_cases hnegative : entry < 0
          · simpa [hnegative] using ServerMap.Says.nobody hrow hnegative
          · obtain ⟨place, rfl⟩ := Int.eq_ofNat_of_zero_le (Int.not_lt.mp hnegative)
            have hplace : place < map.servers.length :=
              Int.ofNat_lt.mp (hfits.resolve_left hnegative)
            have hserver := List.getElem?_eq_getElem hplace
            simp only [Option.map_some, ownerOfRow_place, List.getElem?_map, hserver]
            exact .server hrow hserver

/-! ## The table of a document -/

/-- The table that a document describes, if it is well formed. -/
def described (document : BucketDocument) : Topology where
  revision := document.revision
  nodes := document.map.servers.map NodeId.mk
  current := document.map.rows.map ownerOfRow
  forward := (document.map.forwardRows.filter (· ≠ [])).map (List.map ownerOfRow)

/-- The hash is known and no row is empty. -/
structure Readable (map : ServerMap) : Prop where
  hash : Text.Spelled hashName map.hashAlgorithm
  rows : [] ∉ map.rows
  forward : ∀ rows, map.forwardRows = some rows → [] ∉ rows

theorem Readable.ofDocument_eq (h : Readable document.map) :
    ofDocument document = ofParts (described document).revision (described document).nodes
      (described document).current (described document).forward := by
  obtain ⟨-, hread⟩ := (ownersOfRows_cases 0 document.map.rows).resolve_right fun h' => h.rows h'.1
  unfold ofDocument described
  rw [if_neg (not_not_intro ((hashName_spelled _).mpr h.hash)), hread]
  cases hforward : document.map.forwardRows with
  | none => rfl
  | some rows =>
      cases rows with
      | nil => rfl
      | cons row more =>
          obtain ⟨-, hread'⟩ := (ownersOfRows_cases 0 (row :: more)).resolve_right fun h' =>
            h.forward _ hforward h'.1
          simp only [hread']
          rfl

theorem readable_of_ofDocument (h : ofDocument document = .ok table) : Readable document.map := by
  simp only [ofDocument] at h
  split at h
  · cases h
  next hhash =>
  rcases ownersOfRows_cases 0 document.map.rows with ⟨hrows, hread⟩ | ⟨-, fault, hread⟩
  swap
  · simp [hread] at h
  refine ⟨(hashName_spelled _).mp (not_not.mp hhash), hrows, ?_⟩
  rintro (- | ⟨row, more⟩) hforward
  · exact List.not_mem_nil
  · rcases ownersOfRows_cases 0 (row :: more) with ⟨hsome, -⟩ | ⟨-, fault, hread'⟩
    · exact hsome
    · simp [hread, hforward, hread'] at h

/-- The owners of a map fit into a table if its rows fit. -/
theorem within_described (rows : List (List Int)) :
    (∀ row ∈ rows, RowFits document.map.servers.length row) ↔
      [] ∉ rows ∧ WithinNodes (described document).nodes.length (rows.map ownerOfRow) := by
  rw [rowsFit_iff, described, List.length_map]

theorem described_forward (owners : List (Option Nat)) :
    (described document).forward = some owners ↔
      ∃ rows, document.map.forwardRows = some rows ∧ rows ≠ [] ∧ rows.map ownerOfRow = owners := by
  simp [described, Option.map_eq_some_iff, Option.filter_eq_some_iff, and_assoc]

theorem wellFormed_iff :
    document.map.WellFormed ↔ Readable document.map ∧ (described document).Fits := by
  have hlength (rows : List (List Int)) :
      (rows.map ownerOfRow).length = (described document).current.length ↔
        rows.length = document.map.rows.length := by simp [described]
  constructor
  · rintro ⟨hash, count, rows, forward⟩
    obtain ⟨hrows, hcurrent⟩ := (within_described _).mp rows
    refine ⟨⟨hash, hrows, fun rows hforward => ?_⟩, ⟨?_, hcurrent, fun owners howners => ?_⟩⟩
    · by_cases hempty : rows = []
      · simp [hempty]
      · exact ((within_described _).mp (forward rows hforward hempty).2).1
    · simpa [described] using count
    · obtain ⟨rows, hforward, hsome, rfl⟩ := (described_forward owners).mp howners
      obtain ⟨hcount, hfits⟩ := forward rows hforward hsome
      exact ⟨(hlength rows).mpr hcount, ((within_described _).mp hfits).2⟩
  · rintro ⟨⟨hash, hrows, hahead⟩, ⟨count, current, forward⟩⟩
    refine ⟨hash, by simpa [described] using count, (within_described _).mpr ⟨hrows, current⟩, ?_⟩
    intro rows hforward hsome
    obtain ⟨hcount, hfits⟩ := forward _ ((described_forward _).mpr ⟨rows, hforward, hsome, rfl⟩)
    exact ⟨(hlength rows).mp hcount, (within_described _).mpr ⟨hahead rows hforward, hfits⟩⟩

theorem ofDocument_eq_ok_iff :
    ofDocument document = .ok table ↔ document.map.WellFormed ∧ table = described document := by
  rw [wellFormed_iff]
  constructor
  · intro h
    have hreadable := readable_of_ofDocument h
    rw [hreadable.ofDocument_eq] at h
    obtain ⟨rfl, hfits⟩ := ofParts_eq_ok h
    exact ⟨⟨hreadable, hfits⟩, rfl⟩
  · rintro ⟨⟨hreadable, hfits⟩, rfl⟩
    rw [hreadable.ofDocument_eq]
    exact hfits.ofParts

/-! ## What the table says -/

theorem described_forwardOwner (partition : UInt16) :
    (described document).forwardOwner partition =
      lookup (document.map.servers.map NodeId.mk)
        ((document.map.forwardRows.getD []).map ownerOfRow) partition := by
  unfold described forwardOwner
  cases document.map.forwardRows with
  | none => rfl
  | some rows => cases rows <;> rfl

/-! ## The later entries -/

theorem ownersOfRows_take (partition : Nat) (rows : List (List Int)) :
    ownersOfRows partition (rows.map (List.take 1)) = ownersOfRows partition rows := by
  induction rows generalizing partition with
  | nil => rfl
  | cons row more ih =>
      cases row with
      | nil => rfl
      | cons entry later => simp [ownersOfRows, ih]

/-- Of each row only the first entry counts, also for what is wrong with a document. -/
theorem ofDocument_firstEntries (document : BucketDocument) :
    ofDocument document.firstEntries = ofDocument document := by
  simp only [ofDocument, BucketDocument.firstEntries, ownersOfRows_take]
  cases document.map.forwardRows with
  | none => rfl
  | some rows =>
      cases rows with
      | nil => rfl
      | cons row more =>
          have hread := ownersOfRows_take 0 (row :: more)
          simp only [List.map_cons] at hread
          simp only [Option.map_some, List.map_cons, hread]

/-- A document is accepted exactly if it is well formed. The table then says of each partition what
the first entry of its row says, in either map, and the later entries make no difference. -/
theorem ofDocument_accepts (document : BucketDocument) :
    ((∃ table, ofDocument document = .ok table) ↔ document.map.WellFormed) ∧
      (∀ table, ofDocument document = .ok table → ∀ partition : UInt16,
        document.map.Says document.map.rows partition (table.owner partition) ∧
          document.map.Says (document.map.forwardRows.getD []) partition
            (table.forwardOwner partition)) ∧
      ofDocument document.firstEntries = ofDocument document := by
  refine ⟨⟨?_, fun h => ⟨_, ofDocument_eq_ok_iff.mpr ⟨h, rfl⟩⟩⟩, ?_,
    ofDocument_firstEntries document⟩
  · rintro ⟨table, h⟩
    exact (ofDocument_eq_ok_iff.mp h).1
  · intro table h partition
    obtain ⟨hformed, rfl⟩ := ofDocument_eq_ok_iff.mp h
    refine ⟨says_lookup hformed.rows partition, ?_⟩
    rw [described_forwardOwner]
    exact says_lookup hformed.rows_ahead partition

/-- A document with a small-lettered hash, replicas behind the owners and a partition that nobody
owns yet. -/
def published : BucketDocument :=
  ⟨"default", 42, ⟨"crc", 1, ["a:1", "b:1"], [[0, 1], [1, -1], [-1, 9]], some [[0], [-2], [1]]⟩⟩

/-- The document with a row less in its forward map. -/
def tornOff : BucketDocument :=
  { published with map := { published.map with forwardRows := some [[0], [-2]] } }

theorem published_accepted :
    published.map.WellFormed ∧ ¬tornOff.map.WellFormed ∧
      published.map.Says published.map.rows 2 none ∧
      published.map.Says [[0], [-2], [1]] 2 (some ⟨"b:1"⟩) :=
  have h : ofDocument published =
      .ok ⟨42, [⟨"a:1"⟩, ⟨"b:1"⟩], [some 0, some 1, none], some [some 0, none, some 1]⟩ := by rfl
  have htorn : ofDocument tornOff = .error (.forwardLength 2 3) := by rfl
  have hsays := (ofDocument_accepts published).2.1 _ h 2
  ⟨(ofDocument_accepts published).1.mp ⟨_, h⟩,
    fun hformed => by simpa [htorn] using (ofDocument_accepts tornOff).1.mpr hformed,
    hsays.1, hsays.2⟩

end Topology

end ClusterKv

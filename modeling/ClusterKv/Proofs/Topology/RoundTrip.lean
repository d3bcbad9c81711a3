import ClusterKv.Proofs.Json.Values
import ClusterKv.Proofs.Topology.Documents
import ClusterKv.Proofs.Topology.Parts

/-! # Round trip of documents

The JSON text of a table's document describes the same table, whatever the servers and the bucket
are called. Only where there are no partitions a forward map is lost, which is empty then. -/

namespace ClusterKv

/-! ## The text of a document -/

/-- The numbers of a document have room in its text. -/
structure BucketDocument.Roomy (document : BucketDocument) : Prop where
  revision : document.revision < UInt64.size
  replicas : document.map.replicas < UInt32.size
  rows : ∀ row ∈ document.map.rows, ∀ i ∈ row, -0x80000000 ≤ i ∧ i ≤ 0x7fffffff
  forwardRows : ∀ rows, document.map.forwardRows = some rows →
    ∀ row ∈ rows, ∀ i ∈ row, -0x80000000 ≤ i ∧ i ≤ 0x7fffffff

open Json in
theorem ServerMap.spells_rows {rows : List (List Int)}
    (h : ∀ row ∈ rows, ∀ i ∈ row, -0x80000000 ≤ i ∧ i ≤ 0x7fffffff) :
    Spells readRows (writeRows rows) rows := by
  refine spells_list fun row hrow => spells_list fun i hi => ?_
  obtain ⟨hleast, hmost⟩ := h row hrow i hi
  exact spells_integer hleast hmost (by omega) (by omega)

open Json in
theorem BucketDocument.Roomy.spells_map {document : BucketDocument} (h : document.Roomy) :
    Spells ServerMap.read document.map.write document.map := by
  have hreplicas := h.replicas
  have hnumber : Spells (natural (UInt32.size - 1)) (toString document.map.replicas)
      document.map.replicas :=
    spells_natural (Nat.le_pred_of_lt hreplicas)
      (Nat.le_trans (Nat.le_pred_of_lt hreplicas) (by decide))
  have hservers : Spells (list string) (writeList (document.map.servers.map writeString))
      document.map.servers := spells_list fun server _ => spells_string server
  have hrows := ServerMap.spells_rows h.rows
  obtain ⟨_, _, ⟨hash, replicas, servers, rows, forwardRows⟩⟩ := document
  cases forwardRows with
  | none =>
      exact spells_record
        (.fill rfl rfl ((spells_string hash).field ..) (.fill rfl rfl (hnumber.field ..)
          (.fill rfl rfl (hservers.field ..) (.fill rfl rfl (hrows.field ..) (.done _))))) rfl
  | some forward =>
      have hforward := (ServerMap.spells_rows (h.forwardRows forward rfl)).optional
      exact spells_record
        (.fill rfl rfl ((spells_string hash).field ..) (.fill rfl rfl (hnumber.field ..)
          (.fill rfl rfl (hservers.field ..) (.fill rfl rfl (hrows.field ..)
            (.fill rfl rfl (hforward.field ..) (.done _)))))) rfl

open Json in
/-- A document is read back from its text. -/
theorem BucketDocument.Roomy.spells {document : BucketDocument} (h : document.Roomy) :
    Spells BucketDocument.read document.write document := by
  have hrevision : Spells (natural (UInt64.size - 1)) (toString document.revision)
      document.revision :=
    spells_natural (Nat.le_pred_of_lt h.revision) (Nat.le_pred_of_lt h.revision)
  exact spells_record
    (.fill rfl rfl ((spells_string document.name).field ..) (.fill rfl rfl (hrevision.field ..)
      (.fill rfl rfl (h.spells_map.field ..) (.done _)))) rfl

namespace Topology

variable {revision : Nat} {nodes : List NodeId} {current : List (Option Nat)}
  {forward : Option (List (Option Nat))} {table : Topology}

/-! ## The document of a table -/

theorem rowsOfOwners_range {owners : List (Option Nat)} (h : WithinNodes maxNodes owners) :
    ∀ row ∈ rowsOfOwners owners, ∀ i ∈ row, -0x80000000 ≤ i ∧ i ≤ 0x7fffffff := by
  intro row hrow i hi
  obtain ⟨owner, howner, rfl⟩ := List.mem_map.mp hrow
  obtain rfl := List.mem_singleton.mp hi
  cases owner with
  | none => decide
  | some place =>
      have hplace : place < 0x80000000 := h _ howner place rfl
      simp only [bmod_place hplace]
      omega

theorem toDocument_roomy (bucket : String) (hrevision : table.revision < UInt64.size)
    (hcurrent : WithinNodes maxNodes table.current)
    (hforward : ∀ owners ∈ table.forward, WithinNodes maxNodes owners) :
    (table.toDocument bucket).Roomy where
  revision := hrevision
  replicas := (by decide : 0 < UInt32.size)
  rows := rowsOfOwners_range hcurrent
  forwardRows := by
    intro rows hrows
    obtain ⟨owners, howners, rfl⟩ := Option.map_eq_some_iff.mp hrows
    exact rowsOfOwners_range (hforward owners howners)

theorem Fits.parse_write (h : table.Fits) (hrevision : table.revision < UInt64.size)
    (hnodes : table.nodes.length ≤ maxNodes) (bucket : String) :
    parse (table.toDocument bucket).write = ofDocument (table.toDocument bucket) := by
  have hroomy := toDocument_roomy bucket hrevision (h.current.mono hnodes)
    fun owners howners => (h.forward owners howners).2.mono hnodes
  simp only [parse, hroomy.spells.parse]

/-- An empty forward map is taken for none. -/
theorem ofDocument_empty_forward (bucket : String) (hforward : table.forward = some []) :
    ofDocument (table.toDocument bucket) =
      ofDocument ({ table with forward := none }.toDocument bucket) := by
  simp only [ofDocument, toDocument, hforward]
  rfl

/-- The document of a table round-trips through its text, for every bucket. The one exception is a
table without partitions that has a forward map: it comes back without the map. -/
theorem document_round_trip (h : ofParts revision nodes current forward = .ok table)
    (hrevision : revision < UInt64.size) (hnodes : nodes.length ≤ maxNodes) (bucket : String) :
    (parse (table.toDocument bucket).write = .ok table ↔
        ¬(table.partitionCount = 0 ∧ table.forward.isSome = true)) ∧
      (table.partitionCount = 0 → table.forward.isSome = true →
        table.forward = some [] ∧
          parse (table.toDocument bucket).write = .ok { table with forward := none }) := by
  obtain ⟨htable, hfits⟩ := ofParts_eq_ok h
  have hrevision : table.revision < UInt64.size := by rwa [htable]
  have hnodes : table.nodes.length ≤ maxNodes := by rwa [htable]
  have hcurrent := hfits.current.mono hnodes
  have lost (hcount : table.partitionCount = 0) (hsome : table.forward.isSome = true) :
      table.forward = some [] ∧
        parse (table.toDocument bucket).write = .ok { table with forward := none } := by
    obtain ⟨owners, hforward⟩ := Option.isSome_iff_exists.mp hsome
    obtain rfl : owners = [] :=
      List.eq_nil_of_length_eq_zero ((hfits.forward owners hforward).1.trans hcount)
    have hbare : Fits { table with forward := none } := ⟨hfits.count, hfits.current, nofun⟩
    have hback : ofDocument ({ table with forward := none }.toDocument bucket) =
        ofParts table.revision table.nodes table.current none :=
      ofDocument_toDocument bucket hcurrent nofun
    refine ⟨hforward, ?_⟩
    rw [hfits.parse_write hrevision hnodes, ofDocument_empty_forward bucket hforward, hback]
    exact hbare.ofParts
  refine ⟨⟨?_, ?_⟩, lost⟩
  · rintro hsame ⟨hcount, hsome⟩
    rw [(lost hcount hsome).2] at hsame
    have hnone : table.forward = none := by
      rw [← Except.ok.inj hsame]
    simp [hnone] at hsome
  · intro hkept
    rw [hfits.parse_write hrevision hnodes, ofDocument_toDocument bucket hcurrent ?_]
    · exact hfits.ofParts
    · intro owners hforward
      obtain ⟨hlength, howners⟩ := hfits.forward owners hforward
      refine ⟨?_, howners.mono hnodes⟩
      rintro rfl
      exact hkept ⟨hlength.symm, by simp [Option.mem_def.mp hforward]⟩

/-- A table in the middle of a move, with a partition that nobody owns and servers whose names are
written with escapes. -/
def migrating : Topology :=
  ⟨7, [⟨"a\"\\:1"⟩, ⟨"é\x01\n:2"⟩], [some 1, none, some 0], some [some 0, none, none]⟩

theorem migrating_round_trip :
    ofParts 7 migrating.nodes migrating.current migrating.forward = .ok migrating ∧
      7 < UInt64.size ∧ migrating.nodes.length ≤ maxNodes ∧
      parse (migrating.toDocument "€\t").write = .ok migrating :=
  have h : ofParts 7 migrating.nodes migrating.current migrating.forward = .ok migrating := by rfl
  ⟨h, by decide, by decide, (document_round_trip h (by decide) (by decide) "€\t").1.mpr (by decide)⟩

end Topology

end ClusterKv

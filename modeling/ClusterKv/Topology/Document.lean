import ClusterKv.Json.Reader
import ClusterKv.Json.Writer
import ClusterKv.Topology.Basic

/-! The document in which a cluster publishes its partition table.

Each row of a map lists places in the list of servers, the owner first; a negative place means
that there is none. -/

namespace ClusterKv

/-- The servers and the rows of a document. -/
structure ServerMap where
  hashAlgorithm : String
  replicas : Nat
  servers : List String
  rows : List (List Int)
  forwardRows : Option (List (List Int))
deriving DecidableEq, Repr

/-- The document of one bucket. -/
structure BucketDocument where
  name : String
  revision : Nat
  map : ServerMap
deriving DecidableEq, Repr

/-- The only hash there is. -/
def hashName : String := "CRC"

namespace ServerMap

/-- A server map of which some fields have been read. -/
structure Draft where
  hashAlgorithm : Option String := none
  replicas : Option Nat := none
  servers : Option (List String) := none
  rows : Option (List (List Int)) := none
  forwardRows : Option (Option (List (List Int))) := none

/-- Reads the rows of a map. -/
def readRows : Json.Reader (List (List Int)) :=
  Json.list (Json.list (Json.integer (-0x80000000) 0x7fffffff))

def fields : List (Json.Field Draft) :=
  [ .ofReader "hashAlgorithm" Json.string (·.hashAlgorithm) fun d v => { d with hashAlgorithm := v },
    .ofReader "numReplicas" (Json.natural (UInt32.size - 1)) (·.replicas) fun d v =>
      { d with replicas := v },
    .ofReader "serverList" (Json.list Json.string) (·.servers) fun d v => { d with servers := v },
    .ofReader "vBucketMap" readRows (·.rows) fun d v => { d with rows := v },
    .ofReader "vBucketMapForward" (Json.optional readRows) (·.forwardRows) fun d v =>
      { d with forwardRows := v } ]

/-- Only the servers and the rows have to be there. -/
def Draft.finish (d : Draft) : Option ServerMap :=
  match d.servers, d.rows with
  | some servers, some rows =>
    some ⟨d.hashAlgorithm.getD hashName, d.replicas.getD 0, servers, rows, d.forwardRows.join⟩
  | _, _ => none

def read : Json.Reader ServerMap := Json.record fields {} Draft.finish

/-- Writes the rows of a map. -/
def writeRows (rows : List (List Int)) : String :=
  Json.writeList (rows.map fun row => Json.writeList (row.map toString))

def write (map : ServerMap) : String :=
  Json.writeObject <|
    [ ("hashAlgorithm", Json.writeString map.hashAlgorithm),
      ("numReplicas", toString map.replicas),
      ("serverList", Json.writeList (map.servers.map Json.writeString)),
      ("vBucketMap", writeRows map.rows) ]
    ++ (map.forwardRows.map fun rows => ("vBucketMapForward", writeRows rows)).toList

end ServerMap

namespace BucketDocument

/-- A document of which some fields have been read. -/
structure Draft where
  name : Option String := none
  revision : Option Nat := none
  map : Option ServerMap := none

def fields : List (Json.Field Draft) :=
  [ .ofReader "name" Json.string (·.name) fun d v => { d with name := v },
    .ofReader "rev" (Json.natural (UInt64.size - 1)) (·.revision) fun d v => { d with revision := v },
    .ofReader "vBucketServerMap" ServerMap.read (·.map) fun d v => { d with map := v } ]

/-- Only the revision may be missing. -/
def Draft.finish (d : Draft) : Option BucketDocument :=
  match d.name, d.map with
  | some name, some map => some ⟨name, d.revision.getD 0, map⟩
  | _, _ => none

def read : Json.Reader BucketDocument := Json.record fields {} Draft.finish

/-- The document as one line of JSON. -/
def write (document : BucketDocument) : String :=
  Json.writeObject
    [ ("name", Json.writeString document.name),
      ("rev", toString document.revision),
      ("vBucketServerMap", document.map.write) ]

end BucketDocument

namespace Topology

/-- The owners in the rows of a map, the first of which is for the given partition. -/
def ownersOfRows : Nat → List (List Int) → Except Malformation (List (Option Nat))
  | _, [] => .ok []
  | partition, [] :: _ => .error (.emptyRow partition)
  | partition, (index :: _) :: more =>
    match ownersOfRows (partition + 1) more with
    | .error fault => .error fault
    | .ok owners => .ok ((if index < 0 then none else some index.toNat) :: owners)

/-- The rows that say who the owners are. Places wrap around at 32 bits. -/
def rowsOfOwners (owners : List (Option Nat)) : List (List Int) :=
  owners.map fun owner => [match owner with
    | some index => (index : Int).bmod 0x100000000
    | none => -1]

/-- The table that a document describes. An empty forward map stands for none. -/
def ofDocument (document : BucketDocument) : Except Malformation Topology :=
  let map := document.map
  if map.hashAlgorithm.toList.map Char.toUpper ≠ hashName.toList then
    .error (.hashAlgorithm map.hashAlgorithm)
  else match ownersOfRows 0 map.rows with
    | .error fault => .error fault
    | .ok current =>
      let nodes := map.servers.map NodeId.mk
      match map.forwardRows with
      | none | some [] => ofParts document.revision nodes current none
      | some rows =>
        match ownersOfRows 0 rows with
        | .error fault => .error fault
        | .ok forward => ofParts document.revision nodes current (some forward)

/-- Reads the JSON text of a document. -/
def parse (text : String) : Except Malformation Topology :=
  match Json.parse BucketDocument.read text with
  | .error fault => .error (.unreadable fault)
  | .ok document => ofDocument document

/-- The document that describes a table. -/
def toDocument (table : Topology) (bucket : String) : BucketDocument where
  name := bucket
  revision := table.revision
  map :=
    { hashAlgorithm := hashName
      replicas := 0
      servers := table.nodes.map NodeId.address
      rows := rowsOfOwners table.current
      forwardRows := table.forward.map rowsOfOwners }

end Topology

end ClusterKv

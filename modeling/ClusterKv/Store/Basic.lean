import ClusterKv.Store.Item

/-! The items of one node. A node owns the partitions it keeps items for; a partition moves with
its items. -/

namespace ClusterKv

/-- The items of one partition. -/
abbrev PartitionData := Assoc Bytes Item

/-- The items of a node. -/
structure Store where
  partitions : Assoc UInt16 PartitionData
  nextCas : UInt64
  maxValueLength : Nat
deriving DecidableEq, Repr

namespace Store

/-- The longest value of a node that does not say otherwise: 20 MiB. -/
abbrev defaultMaxValueLength : Nat := 20 * 1024 * 1024

/-- A store that owns some partitions, all empty. -/
def ofOwned (owned : List UInt16) (maxValueLength : Nat := defaultMaxValueLength) : Store where
  partitions := owned.foldl (fun partitions p => partitions.put p []) []
  nextCas := 1
  maxValueLength := maxValueLength

def owns (store : Store) (partition : UInt16) : Bool := store.partitions.has partition

/-- The partitions owned, in ascending order. -/
def owned (store : Store) : List UInt16 := store.partitions.keys.mergeSort

/-- How many items there are, with the expired ones that nobody has asked for since. -/
def size (store : Store) : Nat := store.partitions.foldl (fun count e => count + e.2.length) 0

/-- Gives up a partition with its items. -/
def release (store : Store) (partition : UInt16) : Store × Option PartitionData :=
  match store.partitions.get? partition with
  | none => (store, none)
  | some data => ({ store with partitions := store.partitions.erase partition }, some data)

/-- Takes over items of a partition, which the store owns from now on. -/
def adopt (store : Store) (partition : UInt16) (data : PartitionData) : Store :=
  let own := (store.partitions.get? partition).getD []
  let merged := data.foldl (fun items e => items.put e.1 e.2) own
  { store with partitions := store.partitions.put partition merged }

/-- The items with one of them set or dropped. -/
def setItem (items : PartitionData) (key : Bytes) : Option Item → PartitionData
  | some item => items.put key item
  | none => items.erase key

/-- The item at a key, unless it has expired. -/
def live? (items : PartitionData) (key : Bytes) (now : Instant) : Option Item :=
  (items.get? key).filter fun item => !item.isExpired now

/-- Drops every item of every partition. -/
def flush (store : Store) : Store :=
  { store with partitions := store.partitions.map fun e => (e.1, []) }

/-- Executes a request. Whatever is asked of an expired item drops it first. -/
def execute (store : Store) (request : Request) (now : Instant) : Store × Response :=
  match request.operation.key? with
  | none => (store.flush, .success request.opaqueId 0)
  | some key =>
    match store.partitions.get? request.partition with
    | none => (store, .ofStatus request.opaqueId .notMyPartition)
    | some items =>
      let given : Setting := ⟨request.opaqueId, now, store.nextCas, store.maxValueLength⟩
      let verdict := given.perform request.operation (live? items key now)
      ({ store with
          partitions := store.partitions.put request.partition (setItem items key verdict.item)
          nextCas := if verdict.drew then store.nextCas + 1 else store.nextCas },
        verdict.response)

end Store

end ClusterKv

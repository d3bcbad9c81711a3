import ClusterKv.Assoc
import ClusterKv.Operation
import ClusterKv.Text.Decimal
import ClusterKv.Time

/-! Items, and what each operation does to the item it names. -/

namespace ClusterKv

/-- A stored value. Its cas changes whenever the item does. -/
structure Item where
  value : Bytes
  flags : UInt32
  cas : UInt64
  expiresAt : Option Instant
  lockedUntil : Option Instant
deriving DecidableEq, Repr

/-- What an operation leaves behind. -/
structure Verdict where
  /-- The item afterwards. -/
  item : Option Item
  /-- Did the operation use up the fresh cas? -/
  drew : Bool
  response : Response
deriving DecidableEq, Repr

/-- The lock that a request for no particular time gets, in seconds. -/
abbrev defaultLock : Nat := 15

/-- The longest lock, in seconds. -/
abbrev maxLock : Nat := 30

/-- The cas that plain readers see of a locked item. -/
abbrev hiddenCas : UInt64 := 0xFFFFFFFFFFFFFFFF

/-- When a lock that starts now ends. -/
def lockEnd (seconds : UInt32) (now : Instant) : Instant :=
  let seconds := seconds.toNat
  now + (if seconds = 0 then defaultLock else min seconds maxLock) * Duration.perSecond

/-- When an item stored now expires; an expiry of zero means never. -/
def expiryEnd (seconds : UInt32) (now : Instant) : Option Instant :=
  if seconds = 0 then none else some (now + seconds.toNat * Duration.perSecond)

/-- The number that a value spells, white space at both ends aside. -/
def counterValue? (value : Bytes) : Option UInt64 :=
  match (Bytes.toString? value).bind fun text => Text.natural? (Text.trim text.toList) with
  | some n => if n < UInt64.size then some n.toUInt64 else none
  | none => none

/-- A counter one step on: increments wrap, decrements stop at zero. -/
def stepCounter (direction : CounterDirection) (current delta : UInt64) : UInt64 :=
  match direction with
  | .increment => current + delta
  | .decrement => if current ≤ delta then 0 else current - delta

namespace Item

def isExpired (item : Item) (now : Instant) : Bool := item.expiresAt.any (· ≤ now)

def isLocked (item : Item) (now : Instant) : Bool := item.lockedUntil.any (now < ·)

/-- Does a lock keep the item from a change? Only the cas of the lock opens it. -/
def blocks (item : Item) (cas : Option UInt64) (now : Instant) : Bool :=
  item.isLocked now && cas ≠ some item.cas

/-- The answer that shows the item, under some cas. -/
def shown (item : Item) (id cas : UInt64) : Response :=
  { Response.ofStatus id .success with cas, flags := item.flags, value := some item.value }

end Item

/-- Everything but the item that an operation depends on. -/
structure Setting where
  /-- The number of the request. -/
  id : UInt64
  now : Instant
  /-- The cas for the next change. -/
  fresh : UInt64
  /-- The longest value. -/
  limit : Nat

namespace Setting

variable (given : Setting)

/-- Leaves the item alone and says why. -/
def refuse (item : Option Item) (status : Status) : Verdict :=
  ⟨item, false, .ofStatus given.id status⟩

/-- Stores an item with the fresh cas. -/
def write (item : Item) : Verdict :=
  ⟨some { item with cas := given.fresh }, true, .success given.id given.fresh⟩

/-- Reads an item. The real cas of a locked item is hidden. -/
def get : Option Item → Verdict
  | none => given.refuse none .keyNotFound
  | some item =>
    let cas := if item.isLocked given.now then hiddenCas else item.cas
    ⟨some item, false, item.shown given.id cas⟩

/-- Reads an item and sets its expiry. -/
def getAndTouch (expiry : UInt32) : Option Item → Verdict
  | none => given.refuse none .keyNotFound
  | some item =>
    if item.isLocked given.now then given.refuse (some item) .locked
    else
      let item := { item with expiresAt := expiryEnd expiry given.now }
      ⟨some item, false, item.shown given.id item.cas⟩

/-- Reads an item and locks it under a fresh cas. -/
def getAndLock (seconds : UInt32) : Option Item → Verdict
  | none => given.refuse none .keyNotFound
  | some item =>
    if item.isLocked given.now then given.refuse (some item) .temporaryFailure
    else
      let item := { item with cas := given.fresh, lockedUntil := some (lockEnd seconds given.now) }
      ⟨some item, true, item.shown given.id item.cas⟩

/-- Opens a lock, given its cas. -/
def unlock (cas : UInt64) : Option Item → Verdict
  | none => given.refuse none .keyNotFound
  | some item =>
    if !item.isLocked given.now then given.refuse (some item) .invalidArguments
    else if item.cas ≠ cas then given.refuse (some item) .locked
    else given.write { item with lockedUntil := none }

/-- Why an item cannot be stored, locks and the length of the value aside. -/
def storeFault? (mode : StoreMode) (cas : Option UInt64) (item : Option Item) : Option Status :=
  match mode, item, cas with
  | .add, some _, _ => some .keyExists
  | .replace, none, _ | .set, none, some _ => some .keyNotFound
  | _, some item, some cas => if item.cas ≠ cas then some .keyExists else none
  | _, _, _ => none

/-- Stores a value. -/
def store (mode : StoreMode) (value : Bytes) (flags expiry : UInt32) (cas : Option UInt64)
    (item : Option Item) : Verdict :=
  if value.length > given.limit then given.refuse item .valueTooLarge
  else if item.any (·.blocks cas given.now) then given.refuse item .locked
  else match storeFault? mode cas item with
    | some status => given.refuse item status
    | none => given.write ⟨value, flags, 0, expiryEnd expiry given.now, none⟩

/-- Lengthens a value at one of its ends. -/
def concat (mode : ConcatMode) (value : Bytes) (cas : Option UInt64) : Option Item → Verdict
  | none => given.refuse none .notStored
  | some item =>
    if item.blocks cas given.now then given.refuse (some item) .locked
    else if cas.any (· ≠ item.cas) then given.refuse (some item) .keyExists
    else if item.value.length + value.length > given.limit then
      given.refuse (some item) .valueTooLarge
    else
      let value := match mode with
        | .append => item.value ++ value
        | .prepend => value ++ item.value
      given.write { item with value, lockedUntil := none }

/-- The answer that reports a counter. -/
def counted (value : UInt64) : Response :=
  { Response.success given.id given.fresh with counter := some value }

/-- Moves a counter, or creates it where an initial value is given. -/
def counter (direction : CounterDirection) (delta : UInt64) (initial : Option UInt64)
    (expiry : UInt32) : Option Item → Verdict
  | none =>
    match initial with
    | none => given.refuse none .keyNotFound
    | some value =>
      ⟨some ⟨Bytes.ofDecimal value.toNat, 0, given.fresh, expiryEnd expiry given.now, none⟩, true,
        given.counted value⟩
  | some item =>
    if item.isLocked given.now then given.refuse (some item) .locked
    else match counterValue? item.value with
      | none => given.refuse (some item) .deltaBadValue
      | some current =>
        let value := stepCounter direction current delta
        ⟨some { item with value := Bytes.ofDecimal value.toNat, cas := given.fresh }, true,
          given.counted value⟩

/-- Drops an item. -/
def delete (cas : Option UInt64) : Option Item → Verdict
  | none => given.refuse none .keyNotFound
  | some item =>
    if item.blocks cas given.now then given.refuse (some item) .locked
    else if cas.any (· ≠ item.cas) then given.refuse (some item) .keyExists
    else ⟨none, true, .success given.id given.fresh⟩

/-- Sets the expiry of an item. -/
def touch (expiry : UInt32) : Option Item → Verdict
  | none => given.refuse none .keyNotFound
  | some item =>
    if item.isLocked given.now then given.refuse (some item) .locked
    else
      ⟨some { item with expiresAt := expiryEnd expiry given.now }, false, .success given.id item.cas⟩

/-- What an operation does to the item it names, if there is one that has not expired. -/
def perform (operation : Operation) (item : Option Item) : Verdict :=
  match operation with
  | .get _ => given.get item
  | .getAndTouch _ expiry => given.getAndTouch expiry item
  | .getAndLock _ seconds => given.getAndLock seconds item
  | .unlock _ cas => given.unlock cas item
  | .store mode _ value flags expiry cas => given.store mode value flags expiry cas item
  | .concat mode _ value cas => given.concat mode value cas item
  | .counter direction _ delta initial expiry => given.counter direction delta initial expiry item
  | .delete _ cas => given.delete cas item
  | .touch _ expiry => given.touch expiry item
  | .flushAll => ⟨none, false, .success given.id 0⟩

end Setting

end ClusterKv

import ClusterKv.Client.KeyCall
import ClusterKv.Proofs.Store.Verdicts

/-! # What callers are told

Of a success, reading gives a value with its flags, counting gives a counter, and no other operation
gives either; a refusal gives its status and nothing else. So a caller who is told what the operation
is about has been told all that there is in the answer. -/

namespace ClusterKv

/-- An answer of a node, but for the number of the request and the cas. -/
structure Gist where
  status : Status
  value : Option Bytes := none
  flags : UInt32 := 0
  counter : Option UInt64 := none
deriving DecidableEq, Repr

def Response.gist (response : Response) : Gist :=
  ⟨response.status, response.value, response.flags, response.counter⟩

/-- The answer that the result of a call tells of, if any. -/
def Gist.told? : Except Error KeyResult → Option Gist
  | .ok (.found item) => some { status := .success, value := some item.value, flags := item.flags }
  | .ok (.changed _) => some { status := .success }
  | .ok (.counted counter) => some { status := .success, counter := some counter.value }
  | .error (.application status) => some { status }
  | .error _ => none

/-- The cas that the result of a successful call tells of. -/
def KeyResult.cas : KeyResult → UInt64
  | .found item => item.cas
  | .changed item => item.cas
  | .counted counter => counter.cas

/-- What the caller of a call is told of a node's definitive answer. -/
def KeyCall.told (call : KeyCall) (key : Bytes) (response : Response) : Except Error KeyResult :=
  match response.status with
  | .success => .ok (call.result ((call.operation key).reply response))
  | status => .error (.application status)

/-- Callers are not told of numbers. -/
theorem KeyCall.told_renumbered (call : KeyCall) (key : Bytes) (response : Response)
    (id : UInt64) : call.told key { response with opaqueId := id } = call.told key response := by
  have hreply : (call.operation key).reply { response with opaqueId := id } =
      (call.operation key).reply response := by
    cases call <;> rfl
  unfold KeyCall.told
  rw [hreply]

/-! ## The answers to an operation -/

/-- The operation reads a value. -/
def Operation.reads : Operation → Bool
  | .get _ | .getAndTouch .. | .getAndLock .. => true
  | _ => false

/-- The operation is about a counter. -/
def Operation.counts : Operation → Bool
  | .counter .. => true
  | _ => false

/-- The answers that suit an operation. -/
inductive Suits (operation : Operation) : Response → Prop where
  | refusal (id : UInt64) {status : Status} (failed : status ≠ .success) :
      Suits operation (.ofStatus id status)
  | value (reads : operation.reads = true) (item : Item) (id cas : UInt64) :
      Suits operation (item.shown id cas)
  | counter (counts : operation.counts = true) (id cas value : UInt64) :
      Suits operation { Response.success id cas with counter := some value }
  | done (silent : operation.reads = false ∧ operation.counts = false) (id cas : UInt64) :
      Suits operation (.success id cas)

/-- An answer that suits an operation says what the caller is told of it, and no more. -/
theorem Suits.told {call : KeyCall} {key : Bytes} {response : Response}
    (h : Suits (call.operation key) response) :
    Gist.told? (call.told key response) = some response.gist ∧
      ∀ result, call.told key response = .ok result → result.cas = response.cas := by
  cases h with
  | @refusal id status failed =>
      cases status with
      | success => exact absurd rfl failed
      | _ => exact ⟨rfl, nofun⟩
  | value reads item id cas =>
      cases call with
      | get | getAndTouch | getAndLock => exact ⟨rfl, by rintro _ ⟨⟩; rfl⟩
      | unlock | store | concat | counter | delete | touch => cases reads
  | counter counts id cas value =>
      cases call with
      | counter => exact ⟨rfl, by rintro _ ⟨⟩; rfl⟩
      | get | getAndTouch | getAndLock | unlock | store | concat | delete | touch => cases counts
  | done silent id cas =>
      cases call with
      | get | getAndTouch | getAndLock => cases silent.1
      | counter => cases silent.2
      | unlock | store | concat | delete | touch => exact ⟨rfl, by rintro _ ⟨⟩; rfl⟩

/-! ## The answers of a node -/

namespace Setting

variable {given : Setting} {item : Option Item} {operation : Operation}

theorem suits_refuse {status : Status} (failed : status ≠ .success) :
    Suits operation (given.refuse item status).response :=
  .refusal given.id failed

theorem suits_write (silent : operation.reads = false ∧ operation.counts = false) (new : Item) :
    Suits operation (given.write new).response :=
  .done silent given.id given.fresh

theorem suits_get (reads : operation.reads = true) : Suits operation (given.get item).response := by
  cases item with
  | none => exact suits_refuse (by decide)
  | some old => exact .value reads _ _ _

theorem suits_getAndTouch (reads : operation.reads = true) (expiry : UInt32) :
    Suits operation (given.getAndTouch expiry item).response := by
  cases item with
  | none => exact suits_refuse (by decide)
  | some old =>
      simp only [getAndTouch]
      split
      · exact suits_refuse (by decide)
      · exact .value reads _ _ _

theorem suits_getAndLock (reads : operation.reads = true) (seconds : UInt32) :
    Suits operation (given.getAndLock seconds item).response := by
  cases item with
  | none => exact suits_refuse (by decide)
  | some old =>
      simp only [getAndLock]
      split
      · exact suits_refuse (by decide)
      · exact .value reads _ _ _

theorem suits_unlock (silent : operation.reads = false ∧ operation.counts = false) (cas : UInt64) :
    Suits operation (given.unlock cas item).response := by
  cases item with
  | none => exact suits_refuse (by decide)
  | some old =>
      simp only [unlock]
      split
      · exact suits_refuse (by decide)
      split
      · exact suits_refuse (by decide)
      · exact suits_write silent _

theorem suits_store (silent : operation.reads = false ∧ operation.counts = false)
    (mode : StoreMode) (value : Bytes) (flags expiry : UInt32) (cas : Option UInt64) :
    Suits operation (given.store mode value flags expiry cas item).response := by
  unfold store
  split
  · exact suits_refuse (by decide)
  split
  · exact suits_refuse (by decide)
  split
  · next h => exact suits_refuse (storeFault?_refusal h).1
  · exact suits_write silent _

theorem suits_concat (silent : operation.reads = false ∧ operation.counts = false)
    (mode : ConcatMode) (value : Bytes) (cas : Option UInt64) :
    Suits operation (given.concat mode value cas item).response := by
  cases item with
  | none => exact suits_refuse (by decide)
  | some old =>
      simp only [concat]
      split
      · exact suits_refuse (by decide)
      split
      · exact suits_refuse (by decide)
      split
      · exact suits_refuse (by decide)
      · exact suits_write silent _

theorem suits_counter (counts : operation.counts = true) (direction : CounterDirection)
    (delta : UInt64) (initial : Option UInt64) (expiry : UInt32) :
    Suits operation (given.counter direction delta initial expiry item).response := by
  cases item with
  | none =>
      cases initial with
      | none => exact suits_refuse (by decide)
      | some value => exact .counter counts _ _ value
  | some old =>
      simp only [counter]
      split
      · exact suits_refuse (by decide)
      split
      · exact suits_refuse (by decide)
      · exact .counter counts _ _ _

theorem suits_delete (silent : operation.reads = false ∧ operation.counts = false)
    (cas : Option UInt64) : Suits operation (given.delete cas item).response := by
  cases item with
  | none => exact suits_refuse (by decide)
  | some old =>
      simp only [delete]
      split
      · exact suits_refuse (by decide)
      split
      · exact suits_refuse (by decide)
      · exact .done silent _ _

theorem suits_touch (silent : operation.reads = false ∧ operation.counts = false)
    (expiry : UInt32) : Suits operation (given.touch expiry item).response := by
  cases item with
  | none => exact suits_refuse (by decide)
  | some old =>
      simp only [touch]
      split
      · exact suits_refuse (by decide)
      · exact .done silent _ _

/-- Whatever an operation comes to, the answer suits it. -/
theorem perform_suits (given : Setting) (operation : Operation) (item : Option Item) :
    Suits operation (given.perform operation item).response := by
  cases operation with
  | get => exact suits_get rfl
  | getAndTouch _ expiry => exact suits_getAndTouch rfl expiry
  | getAndLock _ seconds => exact suits_getAndLock rfl seconds
  | unlock _ cas => exact suits_unlock ⟨rfl, rfl⟩ cas
  | store mode _ value flags expiry cas => exact suits_store ⟨rfl, rfl⟩ mode value flags expiry cas
  | concat mode _ value cas => exact suits_concat ⟨rfl, rfl⟩ mode value cas
  | counter direction _ delta initial expiry => exact suits_counter rfl direction delta initial expiry
  | delete _ cas => exact suits_delete ⟨rfl, rfl⟩ cas
  | touch _ expiry => exact suits_touch ⟨rfl, rfl⟩ expiry
  | flushAll => exact .done ⟨rfl, rfl⟩ _ _

end Setting

/-- The answer of a node suits the request, also where the node does not keep the partition. -/
theorem Store.execute_suits (store : Store) (request : Request) (now : Instant) :
    Suits request.operation (store.execute request now).2 := by
  unfold execute
  split
  · next hkey =>
    cases hoperation : request.operation with
    | flushAll => exact .done ⟨rfl, rfl⟩ _ _
    | _ => simp [hoperation, Operation.key?] at hkey
  split
  · exact .refusal _ (by decide)
  · exact Setting.perform_suits _ _ _

end ClusterKv

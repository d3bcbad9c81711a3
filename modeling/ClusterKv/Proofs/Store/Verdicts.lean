import ClusterKv.Store.Basic
import ClusterKv.Proofs.Assoc

/-! # What an operation can come to

Whatever is asked about an item, the verdict is of one of four kinds. An item that is still there
under the cas it had keeps its value and its flags; every other item that is left behind has the
fresh cas. -/

namespace ClusterKv

/-- The cas that an item must have for a change to go through, if the change asks for one. -/
def Operation.condition? : Operation → Option UInt64
  | .store .set _ _ _ _ cas | .store .replace _ _ _ _ cas | .concat _ _ _ cas | .delete _ cas => cas
  | _ => none

namespace Setting

variable {given : Setting} {item : Option Item}

/-! ## The kinds of verdict -/

/-- The kinds of verdict on an item. -/
inductive Kind (given : Setting) (item : Option Item) : Verdict → Prop
  | refused (status : Status) (failed : status ≠ .success ∧ status ≠ .notMyPartition) :
      Kind given item ⟨item, false, .ofStatus given.id status⟩
  /-- At most the expiry is another. -/
  | shown {old : Item} (found : item = some old) (expiresAt : Option Instant) (response : Response)
      (success : response.status = .success) (numbered : response.opaqueId = given.id)
      (reported : response.cas = old.cas ∨ response.cas = hiddenCas) :
      Kind given item ⟨some { old with expiresAt }, false, response⟩
  | written {new : Item} (stamped : new.cas = given.fresh) (response : Response)
      (success : response.status = .success) (numbered : response.opaqueId = given.id)
      (reported : response.cas = given.fresh) : Kind given item ⟨some new, true, response⟩
  | dropped : Kind given item ⟨none, true, .success given.id given.fresh⟩

theorem kind_refuse {status : Status} (failed : status ≠ .success ∧ status ≠ .notMyPartition) :
    Kind given item (given.refuse item status) :=
  .refused status failed

theorem kind_write (new : Item) : Kind given item (given.write new) :=
  .written rfl _ rfl rfl rfl

/-- The refusals of storing are not successes, and do not concern routing. -/
theorem storeFault?_refusal {mode : StoreMode} {cas : Option UInt64} {status : Status}
    (h : storeFault? mode cas item = some status) :
    status ≠ .success ∧ status ≠ .notMyPartition := by
  unfold storeFault? at h
  split at h
  · cases h; decide
  · cases h; decide
  · cases h; decide
  · split at h
    · cases h; decide
    · cases h
  · cases h

theorem kind_store (mode : StoreMode) (value : Bytes) (flags expiry : UInt32)
    (cas : Option UInt64) : Kind given item (given.store mode value flags expiry cas item) := by
  unfold store
  split
  · exact kind_refuse (by decide)
  split
  · exact kind_refuse (by decide)
  split
  · next h => exact kind_refuse (storeFault?_refusal h)
  · exact kind_write _

theorem kind_concat (mode : ConcatMode) (value : Bytes) (cas : Option UInt64) :
    Kind given item (given.concat mode value cas item) := by
  cases item with
  | none => exact kind_refuse (by decide)
  | some old =>
      simp only [concat]
      split
      · exact kind_refuse (by decide)
      split
      · exact kind_refuse (by decide)
      split
      · exact kind_refuse (by decide)
      · exact kind_write _

theorem kind_counter (direction : CounterDirection) (delta : UInt64) (initial : Option UInt64)
    (expiry : UInt32) : Kind given item (given.counter direction delta initial expiry item) := by
  cases item with
  | none =>
      cases initial with
      | none => exact kind_refuse (by decide)
      | some value => exact .written rfl _ rfl rfl rfl
  | some old =>
      simp only [counter]
      split
      · exact kind_refuse (by decide)
      split
      · exact kind_refuse (by decide)
      · exact .written rfl _ rfl rfl rfl

theorem kind_delete (cas : Option UInt64) : Kind given item (given.delete cas item) := by
  cases item with
  | none => exact kind_refuse (by decide)
  | some old =>
      simp only [delete]
      split
      · exact kind_refuse (by decide)
      split
      · exact kind_refuse (by decide)
      · exact .dropped

theorem kind_get : Kind given item (given.get item) := by
  cases item with
  | none => exact kind_refuse (by decide)
  | some old =>
      refine .shown rfl old.expiresAt _ rfl rfl ?_
      simp only [Item.shown]
      split
      · exact Or.inr rfl
      · exact Or.inl rfl

theorem kind_getAndTouch (expiry : UInt32) : Kind given item (given.getAndTouch expiry item) := by
  cases item with
  | none => exact kind_refuse (by decide)
  | some old =>
      simp only [getAndTouch]
      split
      · exact kind_refuse (by decide)
      · exact .shown rfl _ _ rfl rfl (Or.inl rfl)

theorem kind_getAndLock (seconds : UInt32) : Kind given item (given.getAndLock seconds item) := by
  cases item with
  | none => exact kind_refuse (by decide)
  | some old =>
      simp only [getAndLock]
      split
      · exact kind_refuse (by decide)
      · exact .written rfl _ rfl rfl rfl

theorem kind_unlock (cas : UInt64) : Kind given item (given.unlock cas item) := by
  cases item with
  | none => exact kind_refuse (by decide)
  | some old =>
      simp only [unlock]
      split
      · exact kind_refuse (by decide)
      split
      · exact kind_refuse (by decide)
      · exact kind_write _

theorem kind_touch (expiry : UInt32) : Kind given item (given.touch expiry item) := by
  cases item with
  | none => exact kind_refuse (by decide)
  | some old =>
      simp only [touch]
      split
      · exact kind_refuse (by decide)
      · exact .shown rfl _ _ rfl rfl (Or.inl rfl)

/-- Every operation on a key comes to a verdict of one of the four kinds. -/
theorem kind_perform {operation : Operation} (hkey : operation.key? ≠ none) :
    Kind given item (given.perform operation item) := by
  cases operation with
  | get => exact kind_get
  | getAndTouch _ expiry => exact kind_getAndTouch expiry
  | getAndLock _ seconds => exact kind_getAndLock seconds
  | unlock _ cas => exact kind_unlock cas
  | store mode _ value flags expiry cas => exact kind_store mode value flags expiry cas
  | concat mode _ value cas => exact kind_concat mode value cas
  | counter direction _ delta initial expiry => exact kind_counter direction delta initial expiry
  | delete _ cas => exact kind_delete cas
  | touch _ expiry => exact kind_touch expiry
  | flushAll => exact absurd rfl hkey

/-- A verdict says nothing about routing. -/
theorem Kind.here {verdict : Verdict} (h : Kind given item verdict) :
    verdict.response.status ≠ .notMyPartition := by
  cases h with
  | refused _ failed => exact failed.2
  | shown _ _ _ success => simp [success]
  | written _ _ success => simp [success]
  | dropped => exact nofun

/-- An answer bears the number of its request. -/
theorem Kind.opaqueId {verdict : Verdict} (h : Kind given item verdict) :
    verdict.response.opaqueId = given.id := by
  cases h with
  | refused => rfl
  | shown _ _ _ _ numbered => exact numbered
  | written _ _ _ numbered => exact numbered
  | dropped => rfl

/-! ## Changes that ask for a cas -/

/-- A change that asks for a cas goes through only on an item of that cas. -/
theorem condition_met {operation : Operation} {cas : UInt64}
    (hcas : operation.condition? = some cas)
    (hsuccess : (given.perform operation item).response.status = .success) :
    ∃ old, item = some old ∧ old.cas = cas := by
  cases operation with
  | store mode key value flags expiry condition =>
      have hmode : mode ≠ .add ∧ condition = some cas := by
        cases mode <;> simp_all [Operation.condition?]
      obtain ⟨hmode, rfl⟩ := hmode
      simp only [perform, store] at hsuccess
      split at hsuccess
      · simp [refuse, Response.ofStatus] at hsuccess
      split at hsuccess
      · simp [refuse, Response.ofStatus] at hsuccess
      split at hsuccess
      · next h => exact absurd hsuccess (storeFault?_refusal h).1
      next h =>
      cases item with
      | none => cases mode <;> simp_all [storeFault?]
      | some old =>
          refine ⟨old, rfl, ?_⟩
          cases mode with
          | add => exact absurd rfl hmode
          | set => simpa [storeFault?] using h
          | replace => simpa [storeFault?] using h
  | concat mode key value condition =>
      obtain rfl : condition = some cas := hcas
      cases item with
      | none => simp [perform, concat, refuse, Response.ofStatus] at hsuccess
      | some old =>
          refine ⟨old, rfl, ?_⟩
          by_contra hne
          have hother : (some cas).any (· ≠ old.cas) = true := by simpa using Ne.symm hne
          simp only [perform, concat, hother, ite_true] at hsuccess
          split at hsuccess <;> simp [refuse, Response.ofStatus] at hsuccess
  | delete key condition =>
      obtain rfl : condition = some cas := hcas
      cases item with
      | none => simp [perform, delete, refuse, Response.ofStatus] at hsuccess
      | some old =>
          refine ⟨old, rfl, ?_⟩
          by_contra hne
          have hother : (some cas).any (· ≠ old.cas) = true := by simpa using Ne.symm hne
          simp only [perform, delete, hother, ite_true] at hsuccess
          split at hsuccess <;> simp [refuse, Response.ofStatus] at hsuccess
  | get | getAndTouch | getAndLock | unlock | counter | touch | flushAll => cases hcas

end Setting

end ClusterKv

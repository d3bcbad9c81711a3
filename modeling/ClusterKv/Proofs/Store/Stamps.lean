import ClusterKv.Proofs.Store.Answers

/-! # Operations that are blind to stamps

An operation that neither asks for a cas nor has to do with locks does the same whatever stamps the
items bear and whichever number the request has: erasing both before or after makes no difference. -/

namespace ClusterKv

/-- The operation neither asks for a cas nor has to do with locks, and is about one key. -/
def Operation.isPlain : Operation → Bool
  | .get _ | .getAndTouch .. | .counter .. | .touch .. => true
  | .store _ _ _ _ _ cas | .concat _ _ _ cas | .delete _ cas => cas.isNone
  | .getAndLock .. | .unlock .. | .flushAll => false

theorem Operation.key?_of_isPlain {operation : Operation} (h : operation.isPlain = true) :
    ∃ key, operation.key? = some key := by
  cases operation with
  | flushAll => cases h
  | _ => exact ⟨_, rfl⟩

/-- The call neither asks for a cas nor has to do with locks. -/
def KeyCall.isPlain : KeyCall → Bool
  | .get | .getAndTouch _ | .concat .. | .counter .. | .touch _ => true
  | .store _ _ options => options.cas.isNone
  | .delete cas => cas.isNone
  | .getAndLock _ | .unlock _ => false

theorem KeyCall.isPlain_operation {call : KeyCall} (h : call.isPlain = true) (key : Bytes) :
    (call.operation key).isPlain = true := by
  cases call <;> exact h

/-! ## Erasing stamps -/

/-- An item without its stamp. -/
def Item.bare (item : Item) : Item := { item with cas := 0 }

/-- A response without number and stamp. -/
def Response.bare (response : Response) : Response := { response with opaqueId := 0, cas := 0 }

def Verdict.bare (verdict : Verdict) : Verdict :=
  { verdict with item := verdict.item.map Item.bare, response := verdict.response.bare }

def Setting.bare (given : Setting) : Setting := { given with id := 0, fresh := 0 }

/-- Answers that differ in number and stamp alone tell callers the same. -/
theorem Response.gist_of_bare {response other : Response} (h : response.bare = other.bare) :
    response.gist = other.gist := by
  have hbare : response.bare.gist = other.bare.gist := congrArg Response.gist h
  exact hbare

/-- Verdicts that depend on the same condition differ in their stamps alone if those in each case
do. -/
theorem Verdict.bare_ite {p q : Prop} [Decidable p] [Decidable q] (hpq : p ↔ q)
    {then_ else_ then_' else_' : Verdict} (hthen : then_.bare = then_'.bare)
    (helse : else_.bare = else_'.bare) :
    (if p then then_ else else_).bare = (if q then then_' else else_').bare := by
  by_cases hp : p
  · rw [if_pos hp, if_pos (hpq.mp hp), hthen]
  · rw [if_neg hp, if_neg fun hq => hp (hpq.mpr hq), helse]

namespace Setting

variable (given : Setting)

theorem bare_refuse (item : Option Item) (status : Status) :
    (given.refuse item status).bare = (given.bare.refuse (item.map Item.bare) status).bare := by
  cases item <;> rfl

theorem bare_get (item : Option Item) :
    (given.get item).bare = (given.bare.get (item.map Item.bare)).bare := by
  cases item <;> rfl

theorem bare_getAndTouch (expiry : UInt32) (item : Option Item) :
    (given.getAndTouch expiry item).bare =
      (given.bare.getAndTouch expiry (item.map Item.bare)).bare := by
  cases item with
  | none => rfl
  | some item => exact Verdict.bare_ite .rfl rfl rfl

/-- Without a cas to be met, the stamp of an item keeps nothing from being stored. -/
theorem bare_storeFault? (mode : StoreMode) (item : Option Item) :
    storeFault? mode none (item.map Item.bare) = storeFault? mode none item := by
  cases mode <;> cases item <;> rfl

/-- Without a cas to be met, a lock blocks whatever its stamp is. -/
theorem bare_blocks (item : Option Item) (now : Instant) :
    item.any (·.blocks none now) = (item.map Item.bare).any (·.blocks none now) := by
  cases item with
  | none => rfl
  | some item => simp [Item.blocks, Item.isLocked, Item.bare]

theorem bare_store (mode : StoreMode) (value : Bytes) (flags expiry : UInt32)
    (item : Option Item) :
    (given.store mode value flags expiry none item).bare =
      (given.bare.store mode value flags expiry none (item.map Item.bare)).bare := by
  unfold store
  refine Verdict.bare_ite .rfl (given.bare_refuse _ _)
    (Verdict.bare_ite ?_ (given.bare_refuse _ _) ?_)
  · exact Bool.eq_iff_iff.mp (bare_blocks item given.now)
  · rw [bare_storeFault?]
    cases storeFault? mode none item with
    | none => rfl
    | some status => exact given.bare_refuse _ _

theorem bare_concat (mode : ConcatMode) (value : Bytes) (item : Option Item) :
    (given.concat mode value none item).bare =
      (given.bare.concat mode value none (item.map Item.bare)).bare := by
  cases item with
  | none => rfl
  | some item =>
      refine Verdict.bare_ite ?_ rfl (Verdict.bare_ite .rfl rfl (Verdict.bare_ite .rfl rfl rfl))
      exact Bool.eq_iff_iff.mp (bare_blocks (some item) given.now)

theorem bare_counter (direction : CounterDirection) (delta : UInt64) (initial : Option UInt64)
    (expiry : UInt32) (item : Option Item) :
    (given.counter direction delta initial expiry item).bare =
      (given.bare.counter direction delta initial expiry (item.map Item.bare)).bare := by
  cases item with
  | none => cases initial <;> rfl
  | some item =>
      refine Verdict.bare_ite .rfl rfl ?_
      have hvalue : item.bare.value = item.value := rfl
      rw [hvalue]
      cases counterValue? item.value <;> rfl

theorem bare_delete (item : Option Item) :
    (given.delete none item).bare = (given.bare.delete none (item.map Item.bare)).bare := by
  cases item with
  | none => rfl
  | some item =>
      refine Verdict.bare_ite ?_ rfl (Verdict.bare_ite .rfl rfl rfl)
      exact Bool.eq_iff_iff.mp (bare_blocks (some item) given.now)

theorem bare_touch (expiry : UInt32) (item : Option Item) :
    (given.touch expiry item).bare = (given.bare.touch expiry (item.map Item.bare)).bare := by
  cases item with
  | none => rfl
  | some item => exact Verdict.bare_ite .rfl rfl rfl

/-- A plain operation comes to the same verdict with and without stamps. -/
theorem bare_perform {operation : Operation} (plain : operation.isPlain = true)
    (item : Option Item) :
    (given.perform operation item).bare =
      (given.bare.perform operation (item.map Item.bare)).bare := by
  cases operation with
  | get => exact given.bare_get item
  | getAndTouch _ expiry => exact given.bare_getAndTouch expiry item
  | store mode key value flags expiry cas =>
      obtain rfl : cas = none := by simpa [Operation.isPlain] using plain
      exact given.bare_store mode value flags expiry item
  | concat mode key value cas =>
      obtain rfl : cas = none := by simpa [Operation.isPlain] using plain
      exact given.bare_concat mode value item
  | counter direction key delta initial expiry =>
      exact given.bare_counter direction delta initial expiry item
  | delete key cas =>
      obtain rfl : cas = none := by simpa [Operation.isPlain] using plain
      exact given.bare_delete item
  | touch _ expiry => exact given.bare_touch expiry item
  | getAndLock | unlock | flushAll => cases plain

/-! ## Putting off -/

theorem prompt_refuse {item : Option Item} {status : Status}
    (h : status ≠ .temporaryFailure) :
    (given.refuse item status).response.status ≠ .temporaryFailure := h

theorem storeFault?_prompt {mode : StoreMode} {cas : Option UInt64} {item : Option Item}
    {status : Status} (h : storeFault? mode cas item = some status) :
    status ≠ .temporaryFailure := by
  unfold storeFault? at h
  split at h
  · cases h; decide
  · cases h; decide
  · cases h; decide
  · split at h
    · cases h; decide
    · cases h
  · cases h

/-- A plain operation is never put off. -/
theorem perform_prompt {operation : Operation} (plain : operation.isPlain = true)
    (item : Option Item) :
    (given.perform operation item).response.status ≠ .temporaryFailure := by
  cases operation with
  | get =>
      cases item with
      | none => exact given.prompt_refuse (by decide)
      | some item => simp [perform, get, Item.shown, Response.ofStatus]
  | getAndTouch key expiry =>
      cases item with
      | none => exact given.prompt_refuse (by decide)
      | some item =>
          simp only [perform, getAndTouch]
          split
          · exact given.prompt_refuse (by decide)
          · simp [Item.shown, Response.ofStatus]
  | touch key expiry =>
      cases item with
      | none => exact given.prompt_refuse (by decide)
      | some item =>
          simp only [perform, touch]
          split
          · exact given.prompt_refuse (by decide)
          · simp [Response.success, Response.ofStatus]
  | store mode key value flags expiry cas =>
      simp only [perform, store]
      split
      · exact given.prompt_refuse (by decide)
      split
      · exact given.prompt_refuse (by decide)
      split
      · next h => exact given.prompt_refuse (storeFault?_prompt h)
      · exact ne_of_beq_false rfl
  | concat mode key value cas =>
      cases item with
      | none => exact given.prompt_refuse (by decide)
      | some item =>
          simp only [perform, concat]
          split
          · exact given.prompt_refuse (by decide)
          split
          · exact given.prompt_refuse (by decide)
          split
          · exact given.prompt_refuse (by decide)
          · exact ne_of_beq_false rfl
  | counter direction key delta initial expiry =>
      cases item with
      | none =>
          cases initial with
          | none => exact given.prompt_refuse (by decide)
          | some value => exact ne_of_beq_false rfl
      | some item =>
          simp only [perform, counter]
          split
          · exact given.prompt_refuse (by decide)
          split
          · exact given.prompt_refuse (by decide)
          · exact ne_of_beq_false rfl
  | delete key cas =>
      cases item with
      | none => exact given.prompt_refuse (by decide)
      | some item =>
          simp only [perform, delete]
          split
          · exact given.prompt_refuse (by decide)
          split
          · exact given.prompt_refuse (by decide)
          · exact ne_of_beq_false rfl
  | getAndLock | unlock | flushAll => cases plain

end Setting

/-! ## Items of one partition -/

/-- The same items under every key, stamps aside. -/
def Alike (items others : PartitionData) : Prop :=
  ∀ key, (items.get? key).map Item.bare = (others.get? key).map Item.bare

theorem Alike.live? {items others : PartitionData} (h : Alike items others) (key : Bytes)
    (now : Instant) :
    (Store.live? items key now).map Item.bare = (Store.live? others key now).map Item.bare := by
  have hkey := h key
  unfold Store.live?
  cases hitem : items.get? key with
  | none =>
      rw [hitem] at hkey
      cases hother : others.get? key with
      | none => rfl
      | some other => simp [hother] at hkey
  | some item =>
      rw [hitem] at hkey
      cases hother : others.get? key with
      | none => simp [hother] at hkey
      | some other =>
          rw [hother] at hkey
          have hbare : item.bare = other.bare := Option.some.inj hkey
          have hexpired : item.isExpired now = other.isExpired now :=
            congrArg (·.isExpired now) hbare
          simp only [Option.filter_some, hexpired]
          split
          · exact congrArg some hbare
          · rfl

theorem get?_setItem (items : PartitionData) (key other : Bytes) (item : Option Item) :
    (Store.setItem items key item).get? other = if other = key then item else items.get? other := by
  split
  · next h =>
    subst h
    cases item <;> simp [Store.setItem]
  · next h => cases item <;> simp [Store.setItem, Assoc.get?_put_of_ne, Assoc.get?_erase_of_ne, h]

theorem Alike.setItem {items others : PartitionData} (h : Alike items others) (key : Bytes)
    {item other : Option Item} (hitem : item.map Item.bare = other.map Item.bare) :
    Alike (Store.setItem items key item) (Store.setItem others key other) := by
  intro k
  rw [get?_setItem, get?_setItem]
  split
  · exact hitem
  · exact h k

end ClusterKv

import ClusterKv.Client.KeyCall
import ClusterKv.Proofs.Store.Runs

/-! # How long items last

A client says how long an item is to last, a node is told so in whole seconds, and zero seconds
stand for good. So an item that is to last for a second or longer is gone when its time is over, and
one that is to last for less than a second stays. -/

namespace ClusterKv

/-- How long an item is to last from a call on, if the call says so. -/
def KeyCall.lifetime? : KeyCall → Option Duration
  | .store _ _ options => options.expiry
  | .getAndTouch expiry | .touch expiry => some expiry
  | _ => none

namespace Operation

/-- The expiry that an operation gives to an item, whether or not it was there before. -/
def expiry? : Operation → Option UInt32
  | .getAndTouch _ expiry | .store _ _ _ _ expiry _ | .touch _ expiry => some expiry
  | _ => none

/-- Can an operation give an expiry to an item, be it only to one that it creates? -/
def dates : Operation → Bool
  | .getAndTouch .. | .store .. | .touch .. | .counter .. => true
  | _ => false

/-- Can an operation make an item go away? -/
def drops : Operation → Bool
  | .delete .. | .flushAll => true
  | _ => false

end Operation

theorem KeyCall.expiry?_operation {call : KeyCall} {d : Duration} (h : call.lifetime? = some d)
    (key : Bytes) : (call.operation key).expiry? = some (expirySeconds d) := by
  cases call with
  | store mode value options =>
      have hexpiry : options.expiry = some d := h
      simp only [operation, Operation.expiry?, hexpiry]
  | getAndTouch | touch =>
      cases h
      rfl
  | get | getAndLock | unlock | concat | counter | delete => cases h

/-! ## Whole seconds -/

theorem expirySeconds_toNat (d : Duration) :
    (expirySeconds d).toNat = min (d.nanos / Duration.perSecond) (UInt32.size - 1) := by
  have hroom : min (d.nanos / Duration.perSecond) (UInt32.size - 1) < UInt32.size :=
    Nat.lt_of_le_of_lt (Nat.min_le_right _ _) (by decide)
  rw [expirySeconds, Duration.toSeconds, Nat.toUInt32_eq, UInt32.toNat_ofNat_of_lt' hroom]

/-- The time that a node is told is never longer than what the client says. -/
theorem expirySeconds_le (d : Duration) :
    (expirySeconds d).toNat * Duration.perSecond ≤ d.nanos := by
  rw [expirySeconds_toNat]
  calc min (d.nanos / Duration.perSecond) (UInt32.size - 1) * Duration.perSecond
      ≤ d.nanos / Duration.perSecond * Duration.perSecond :=
        Nat.mul_le_mul_right _ (Nat.min_le_left _ _)
    _ ≤ d.nanos := Nat.div_mul_le_self ..

/-- Less than a second is told as if it were for good. -/
theorem expirySeconds_eq_zero_iff (d : Duration) :
    expirySeconds d = 0 ↔ d.nanos < Duration.perSecond := by
  rw [← UInt32.toNat_inj, expirySeconds_toNat]
  change min (d.nanos / 1000000000) 4294967295 = 0 ↔ d.nanos < 1000000000
  omega

namespace Setting

variable {given : Setting} {operation : Operation} {item : Option Item}

/-- What a verdict does to the expiry of an item. -/
inductive Dated (given : Setting) (operation : Operation) (item : Option Item) : Verdict → Prop
  | refused (status : Status) (failed : status ≠ .success) :
      Dated given operation item (given.refuse item status)
  | kept {old new : Item} (found : item = some old) (same : new.expiresAt = old.expiresAt)
      (undated : operation.expiry? = none) (drew : Bool) (response : Response) :
      Dated given operation item ⟨some new, drew, response⟩
  | set {seconds : UInt32} (dates : operation.expiry? = some seconds) {new : Item}
      (until_ : new.expiresAt = expiryEnd seconds given.now) (drew : Bool) {response : Response}
      (success : response.status = .success) : Dated given operation item ⟨some new, drew, response⟩
  | created (absent : item = none) (dates : operation.dates = true) (undated : operation.expiry? = none)
      {new : Item} {response : Response} (success : response.status = .success) :
      Dated given operation item ⟨some new, true, response⟩
  | dropped (drops : operation.drops = true) (undated : operation.expiry? = none) (drew : Bool)
      {response : Response} (success : response.status = .success) :
      Dated given operation item ⟨none, drew, response⟩

theorem dated_perform (operation : Operation) :
    Dated given operation item (given.perform operation item) := by
  cases operation with
  | flushAll => exact .dropped (by rfl) (by rfl) _ rfl
  | store mode key value flags expiry cas =>
      simp only [perform, store]
      split
      · exact .refused _ (by decide)
      split
      · exact .refused _ (by decide)
      split
      · next h => exact .refused _ (storeFault?_refusal h).1
      · exact .set (by rfl) (by rfl) _ rfl
  | get | getAndTouch | getAndLock | unlock | touch | concat =>
      cases item with
      | none => exact .refused _ (by decide)
      | some old =>
          simp only [perform, get, getAndTouch, getAndLock, unlock, touch, concat]
          -- each of them refuses, sets the expiry, or leaves it as it is
          repeat' split
          all_goals first
            | exact .refused _ (by decide)
            | exact .set (by rfl) (by rfl) _ rfl
            | exact .kept rfl (by rfl) (by rfl) _ _
  | counter direction key delta initial expiry =>
      cases item with
      | none =>
          cases initial with
          | none => exact .refused _ (by decide)
          | some value => exact .created rfl (by rfl) (by rfl) rfl
      | some old =>
          simp only [perform, counter]
          split
          · exact .refused _ (by decide)
          split
          · exact .refused _ (by decide)
          · exact .kept rfl (by rfl) (by rfl) _ _
  | delete key cas =>
      cases item with
      | none => exact .refused _ (by decide)
      | some old =>
          simp only [perform, delete]
          split
          · exact .refused _ (by decide)
          split
          · exact .refused _ (by decide)
          · exact .dropped (by rfl) (by rfl) _ rfl

variable {verdict : Verdict}

/-- An operation that gives an expiry gives it if it has success. -/
theorem Dated.set_of_success (h : Dated given operation item verdict) {seconds : UInt32}
    (hexpiry : operation.expiry? = some seconds) (hsuccess : verdict.response.status = .success) :
    ∃ new, verdict.item = some new ∧ new.expiresAt = expiryEnd seconds given.now := by
  cases h with
  | refused _ failed => exact absurd hsuccess failed
  | kept _ _ undated => cases undated.symm.trans hexpiry
  | set dates until_ =>
      cases dates.symm.trans hexpiry
      exact ⟨_, rfl, until_⟩
  | created _ _ undated => cases undated.symm.trans hexpiry
  | dropped _ undated => cases undated.symm.trans hexpiry

theorem dates_of_expiry? {seconds : UInt32} (h : operation.expiry? = some seconds) :
    operation.dates = true := by
  cases operation <;> first | rfl | cases h

/-- Any other verdict leaves the expiry as it was. -/
theorem Dated.expiresAt_eq (h : Dated given operation item verdict)
    (hundated : verdict.response.status = .success → operation.dates ≠ true) {new : Item}
    (hnew : verdict.item = some new) : ∃ old, item = some old ∧ new.expiresAt = old.expiresAt := by
  cases h with
  | refused => exact ⟨new, hnew, rfl⟩
  | kept found same =>
      cases hnew
      exact ⟨_, found, same⟩
  | set dates _ _ success => exact absurd (dates_of_expiry? dates) (hundated success)
  | created _ dates _ success => exact absurd dates (hundated success)
  | dropped => cases hnew

/-- Only an operation that can make an item go away does so. -/
theorem Dated.exists_item (h : Dated given operation item verdict)
    (hkept : verdict.response.status = .success → operation.drops ≠ true) {old : Item}
    (hold : item = some old) : ∃ new, verdict.item = some new := by
  cases h with
  | refused => exact ⟨old, hold⟩
  | kept | set | created => exact ⟨_, rfl⟩
  | dropped drops _ _ success => exact absurd drops (hkept success)

end Setting

/-! ## One request -/

namespace Store

/-- Whatever is at a key expires by a certain time. -/
def ExpiresBy (store : Store) (p : UInt16) (key : Bytes) (due : Instant) : Prop :=
  ∀ item, store.item? p key = some item → ∃ time, item.expiresAt = some time ∧ time ≤ due

/-- The item at a key never expires. -/
def LastsForGood (store : Store) (p : UInt16) (key : Bytes) : Prop :=
  ∃ item, store.item? p key = some item ∧ item.expiresAt = none

end Store

namespace Execution

/-- A request gives the item of a key another expiry. -/
structure Renews (e : Execution) (p : UInt16) (key : Bytes) : Prop where
  concerned : e.Concerns p key
  success : e.response.status = .success
  dates : e.request.operation.dates = true

instance (e : Execution) (p : UInt16) (key : Bytes) : Decidable (e.Renews p key) :=
  decidable_of_iff (e.Concerns p key ∧ e.response.status = .success ∧
      e.request.operation.dates = true)
    ⟨fun ⟨concerned, success, dates⟩ => ⟨concerned, success, dates⟩,
      fun h => ⟨h.concerned, h.success, h.dates⟩⟩

/-- A request makes the item of a key go away. -/
inductive Removes (e : Execution) (p : UInt16) (key : Bytes) : Prop
  | flush (flush : e.request.operation = .flushAll)
  | drop (concerned : e.Concerns p key) (success : e.response.status = .success)
      (drops : e.request.operation.drops = true)

variable {e : Execution} {p : UInt16} {key : Bytes} {due : Instant} {seconds : UInt32}

theorem dated_verdict (e : Execution) (p : UInt16) (key : Bytes) :
    Setting.Dated (e.before.setting e.request e.now) e.request.operation
      (e.before.found? p key e.now) (e.verdict (e.before.found? p key e.now)) :=
  Setting.dated_perform e.request.operation

/-- A request that gives an expiry and has success leaves an item with it. -/
theorem expiresAt_of_success (hconcerned : e.Concerns p key)
    (hexpiry : e.request.operation.expiry? = some seconds)
    (hsuccess : e.response.status = .success) :
    ∃ item, e.after.item? p key = some item ∧ item.expiresAt = expiryEnd seconds e.now := by
  have hjudged := hconcerned.judged_of_success hsuccess
  rw [hjudged.settled]
  exact (e.dated_verdict p key).set_of_success hexpiry (hjudged.answered ▸ hsuccess)

/-- What expires by a certain time does so after any request that gives it no other expiry. -/
theorem expiresBy_after (h : e.before.ExpiresBy p key due) (hrenews : ¬e.Renews p key) :
    e.after.ExpiresBy p key due := by
  intro item hitem
  cases e.bears p key with
  | flushed _ emptied =>
      rw [emptied, Store.item?_flush] at hitem
      cases hitem
  | spared _ kept => exact h item (kept ▸ hitem)
  | judged judged =>
      have hundated := fun success dates => hrenews
        ⟨judged.concerned, judged.answered ▸ success, dates⟩
      obtain ⟨old, hold, hsame⟩ :=
        (e.dated_verdict p key).expiresAt_eq hundated (judged.settled.symm.trans hitem)
      rw [hsame]
      exact h old (Store.found?_eq_some.mp hold).1

/-- What never expires does not do so after any request that neither gives it an expiry nor makes it
go away. -/
theorem lastsForGood_after (h : e.before.LastsForGood p key) (hrenews : ¬e.Renews p key)
    (hremoves : ¬e.Removes p key) : e.after.LastsForGood p key := by
  obtain ⟨old, hold, hlasting⟩ := h
  cases e.bears p key with
  | flushed flush => exact absurd (.flush flush) hremoves
  | spared _ kept => exact ⟨old, kept.trans hold, hlasting⟩
  | judged judged =>
      have hfound : e.before.found? p key e.now = some old :=
        Store.found?_eq_some.mpr ⟨hold, by simp [Item.isExpired, hlasting]⟩
      have hkept := fun success drops => hremoves
        (.drop judged.concerned (judged.answered ▸ success) drops)
      have hundated := fun success dates => hrenews
        ⟨judged.concerned, judged.answered ▸ success, dates⟩
      obtain ⟨new, hnew⟩ := (e.dated_verdict p key).exists_item hkept hfound
      obtain ⟨found, hsome, hsame⟩ := (e.dated_verdict p key).expiresAt_eq hundated hnew
      obtain rfl : old = found := Option.some.inj (hfound.symm.trans hsome)
      exact ⟨new, judged.settled.trans hnew, hsame.trans hlasting⟩

end Execution

/-! ## Every sequence of requests -/

namespace Store

variable {store : Store} {p : UInt16} {key : Bytes} {due now : Instant} {arrivals : List Arrival}

theorem response_get (howned : store.owns p = true) (id : UInt64) :
    (store.execute ⟨id, p, .get key⟩ now).2 =
      (Setting.get ⟨id, now, store.nextCas, store.maxValueLength⟩
        (store.found? p key now)).response :=
  (Execution.Concerns.judged (e := ⟨⟨⟨id, p, .get key⟩, now⟩, store⟩) ⟨rfl, rfl⟩ howned).answered

theorem get_expired (h : store.ExpiresBy p key due) (howned : store.owns p = true) (id : UInt64)
    (hnow : due ≤ now) :
    (store.execute ⟨id, p, .get key⟩ now).2 = .ofStatus id .keyNotFound := by
  have hfound : store.found? p key now = none := by
    cases hfound : store.found? p key now with
    | none => rfl
    | some item =>
        obtain ⟨hitem, hlive⟩ := found?_eq_some.mp hfound
        obtain ⟨time, htime, hle⟩ := h item hitem
        simp [Item.isExpired, htime, Nat.le_trans hle hnow] at hlive
  rw [response_get howned, hfound]
  rfl

theorem get_lasting (h : store.LastsForGood p key) (id : UInt64) (now : Instant) :
    (store.execute ⟨id, p, .get key⟩ now).2.status = .success := by
  obtain ⟨item, hitem, hlasting⟩ := h
  have hfound : store.found? p key now = some item :=
    found?_eq_some.mpr ⟨hitem, by simp [Item.isExpired, hlasting]⟩
  rw [response_get (owns_of_item? hitem), hfound]
  rfl

end Store

namespace Execution

variable {e : Execution} {p : UInt16} {key : Bytes} {d : Duration} {later : List Arrival}

/-- An item that is given a second or longer expires by the end of its time, whatever is asked later
without giving it another expiry. -/
theorem expiresBy_run (hconcerned : e.Concerns p key)
    (hexpiry : e.request.operation.expiry? = some (expirySeconds d))
    (hsuccess : e.response.status = .success)
    (hlater : ∀ l ∈ e.after.executions later, ¬l.Renews p key)
    (hlong : Duration.perSecond ≤ d.nanos) :
    (e.after.run later).ExpiresBy p key (e.now + d.nanos) := by
  obtain ⟨item, hitem, hdated⟩ := expiresAt_of_success hconcerned hexpiry hsuccess
  have hseconds : expirySeconds d ≠ 0 :=
    mt (expirySeconds_eq_zero_iff d).mp (Nat.not_lt.mpr hlong)
  have hdue : e.after.ExpiresBy p key (e.now + d.nanos) := by
    intro other hother
    obtain rfl : item = other := Option.some.inj (hitem.symm.trans hother)
    refine ⟨_, hdated.trans (if_neg hseconds), ?_⟩
    exact Nat.add_le_add_left (expirySeconds_le d) e.now
  exact Store.run_induct (P := fun store => store.ExpiresBy p key (e.now + d.nanos))
    (fun _ hrenews h => expiresBy_after h hrenews) hdue hlater

/-- An item that is given less than a second lasts for good, unless it is removed later. -/
theorem lastsForGood_run (hconcerned : e.Concerns p key)
    (hexpiry : e.request.operation.expiry? = some (expirySeconds d))
    (hsuccess : e.response.status = .success)
    (hlater : ∀ l ∈ e.after.executions later, ¬l.Renews p key)
    (hstays : ∀ l ∈ e.after.executions later, ¬l.Removes p key)
    (hbrief : d.nanos < Duration.perSecond) : (e.after.run later).LastsForGood p key := by
  obtain ⟨item, hitem, hdated⟩ := expiresAt_of_success hconcerned hexpiry hsuccess
  have hseconds : expirySeconds d = 0 := (expirySeconds_eq_zero_iff d).mpr hbrief
  have hgood : e.after.LastsForGood p key := ⟨item, hitem, hdated.trans (if_pos hseconds)⟩
  exact Store.run_induct (P := fun store => store.LastsForGood p key)
    (fun _ hkept h => lastsForGood_after h hkept.1 hkept.2) hgood
    fun l hl => And.intro (hlater l hl) (hstays l hl)

end Execution

/-- A call that says how long an item is to last is kept to from one second on: once the time is
over the item is not found, unless a request has given it another expiry meanwhile. What is to last
for less than a second lasts for good. -/
theorem Execution.gone_in_time {e : Execution} {key : Bytes} {call : KeyCall} {d : Duration}
    (hcall : e.request.operation = call.operation key) (hlifetime : call.lifetime? = some d)
    (hsuccess : e.response.status = .success) {later : List Arrival}
    (hlater : ∀ l ∈ e.after.executions later, ¬l.Renews e.request.partition key) (id : UInt64)
    (now : Instant) :
    (Duration.perSecond ≤ d.nanos → e.now + d.nanos ≤ now →
        ((e.after.run later).execute ⟨id, e.request.partition, .get key⟩ now).2 =
          .ofStatus id .keyNotFound) ∧
      (d.nanos < Duration.perSecond →
        (∀ l ∈ e.after.executions later, ¬l.Removes e.request.partition key) →
        ((e.after.run later).execute ⟨id, e.request.partition, .get key⟩ now).2.status =
          .success) := by
  have hexpiry : e.request.operation.expiry? = some (expirySeconds d) :=
    hcall ▸ call.expiry?_operation hlifetime key
  have hconcerned : e.Concerns e.request.partition key := ⟨rfl, hcall ▸ call.key?_operation key⟩
  constructor
  · intro hlong hover
    have hrun := expiresBy_run hconcerned hexpiry hsuccess hlater hlong
    obtain ⟨item, hitem, -⟩ := expiresAt_of_success hconcerned hexpiry hsuccess
    have howned : (e.after.run later).owns e.request.partition = true :=
      (Store.owns_run ..).trans (Store.owns_of_item? hitem)
    exact Store.get_expired hrun howned id hover
  · intro hbrief hstays
    have hrun := lastsForGood_run hconcerned hexpiry hsuccess hlater hstays hbrief
    exact Store.get_lasting hrun id now

/-- An item is touched, to last for a second and a half from then on. -/
def touching : Execution :=
  ⟨⟨⟨2, 0, (KeyCall.touch (.ofMillis 1500)).operation [107]⟩, 0⟩,
    (Store.ofOwned [0]).run [⟨⟨1, 0, .store .set [107] [118] 0 0 none⟩, 0⟩]⟩

/-- It is read, lengthened and locked, and another item is stored; a store of this one fails. -/
def touched : List Arrival :=
  [⟨⟨3, 0, .get [107]⟩, 500 * Duration.perMilli⟩,
    ⟨⟨4, 0, .concat .append [107] [119] none⟩, 600 * Duration.perMilli⟩,
    ⟨⟨5, 0, .store .set [108] [118] 0 0 none⟩, 700 * Duration.perMilli⟩,
    ⟨⟨6, 0, .getAndLock [107] 30⟩, 800 * Duration.perMilli⟩,
    ⟨⟨7, 0, .store .set [107] [120] 0 0 none⟩, 900 * Duration.perMilli⟩]

theorem touching_gone :
    touching.request.operation = (KeyCall.touch (.ofMillis 1500)).operation [107] ∧
      (KeyCall.touch (.ofMillis 1500)).lifetime? = some (.ofMillis 1500) ∧
      touching.response.status = .success ∧
      (∀ l ∈ touching.after.executions touched, ¬l.Renews 0 [107]) ∧
      ((touching.after.run touched).execute ⟨8, 0, .get [107]⟩ (1500 * Duration.perMilli)).2 =
        .ofStatus 8 .keyNotFound := by
  have hcall : touching.request.operation = (KeyCall.touch (.ofMillis 1500)).operation [107] := rfl
  have hlifetime : (KeyCall.touch (.ofMillis 1500)).lifetime? = some (.ofMillis 1500) := rfl
  have hsuccess : touching.response.status = .success := by decide +kernel
  have hlater : ∀ l ∈ touching.after.executions touched, ¬l.Renews 0 [107] := by decide +kernel
  refine ⟨hcall, hlifetime, hsuccess, hlater, ?_⟩
  exact (Execution.gone_in_time hcall hlifetime hsuccess hlater 8 _).1 (by decide) (by decide)

/-- An item is stored, to last for half a second. -/
def brief : Execution :=
  ⟨⟨⟨1, 0, (KeyCall.store .set [118] { expiry := some (.ofMillis 500) }).operation [107]⟩, 0⟩,
    .ofOwned [0]⟩

theorem brief_stays :
    0 < (Duration.ofMillis 500).nanos ∧ brief.response.status = .success ∧
      (brief.after.execute ⟨2, 0, .get [107]⟩ (brief.now + (Duration.ofMillis 500).nanos)).2.status ≠
        .keyNotFound := by
  decide +kernel

end ClusterKv

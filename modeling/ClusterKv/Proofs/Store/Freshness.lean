import ClusterKv.Proofs.Cluster.OptimisticLock
import ClusterKv.Proofs.Store.Runs

/-! # A cas authorises one change

A store stamps what it writes from a counter that only grows. So no two of its items have the same
cas, each change reports a higher one than all before it, and of all changes that ask for the same
cas of the same key one goes through at most. -/

namespace ClusterKv

/-- The operation draws a cas if it has success. -/
def Operation.draws : Operation → Bool
  | .getAndLock .. | .unlock .. | .store .. | .concat .. | .counter .. | .delete .. => true
  | .get _ | .getAndTouch .. | .touch .. | .flushAll => false

/-- The operation sets the expiry of an item and nothing else. -/
def Operation.touches : Operation → Bool
  | .getAndTouch .. | .touch .. => true
  | _ => false

/-! ## What a verdict draws -/

namespace Setting

variable {given : Setting} {item : Option Item} {operation : Operation}

/-- A change that has success has drawn its cas. -/
theorem drew_of_success (hdraws : operation.draws = true)
    (hsuccess : (given.perform operation item).response.status = .success) :
    (given.perform operation item).drew = true := by
  suffices h : (given.perform operation item).drew = true ∨
      (given.perform operation item).response.status ≠ .success from
    h.resolve_right (not_not_intro hsuccess)
  cases operation with
  | get | getAndTouch | touch | flushAll => cases hdraws
  | store mode key value flags expiry cas =>
      simp only [perform, store]
      split
      · exact Or.inr (ne_of_beq_false rfl)
      split
      · exact Or.inr (ne_of_beq_false rfl)
      split
      · next h => exact Or.inr (storeFault?_refusal h).1
      · exact Or.inl rfl
  | getAndLock | unlock | concat | delete =>
      cases item with
      | none => exact Or.inr (ne_of_beq_false rfl)
      | some old =>
          simp only [perform, getAndLock, unlock, concat, delete]
          repeat' split
          all_goals first
            | exact Or.inl rfl
            | exact Or.inr (ne_of_beq_false rfl)
  | counter direction key delta initial expiry =>
      cases item with
      | none =>
          cases initial with
          | none => exact Or.inr (ne_of_beq_false rfl)
          | some value => exact Or.inl rfl
      | some old =>
          simp only [perform, counter]
          split
          · exact Or.inr (ne_of_beq_false rfl)
          split
          · exact Or.inr (ne_of_beq_false rfl)
          · exact Or.inl rfl

/-- What has drawn a cas reports it, and leaves it to the item. -/
theorem Kind.of_drew {verdict : Verdict} (h : Kind given item verdict)
    (hdrew : verdict.drew = true) :
    verdict.response.cas = given.fresh ∧ ∀ new ∈ verdict.item, new.cas = given.fresh := by
  cases h with
  | refused => cases hdrew
  | shown => cases hdrew
  | written stamped _ _ _ reported =>
      refine ⟨reported, fun new hnew => ?_⟩
      obtain rfl := Option.some.inj hnew
      exact stamped
  | dropped => exact ⟨rfl, nofun⟩

/-- What has not drawn a cas leaves the item under the cas it had. -/
theorem Kind.of_not_drew {verdict : Verdict} (h : Kind given item verdict)
    (hdrew : verdict.drew = false) :
    ∀ new ∈ verdict.item, ∃ old, item = some old ∧ new.cas = old.cas := by
  cases h with
  | refused => exact fun new hnew => ⟨new, hnew, rfl⟩
  | shown found =>
      intro new hnew
      obtain rfl := Option.some.inj hnew
      exact ⟨_, found, rfl⟩
  | written => cases hdrew
  | dropped => cases hdrew

/-- To set the expiry of an item is to keep its cas. -/
theorem touched_of_success (htouches : operation.touches = true)
    (hsuccess : (given.perform operation item).response.status = .success) :
    ∃ old new, item = some old ∧ (given.perform operation item).item = some new ∧
      new.cas = old.cas ∧ (given.perform operation item).response.cas = old.cas := by
  cases operation with
  | getAndTouch | touch =>
      cases item with
      | none => exact absurd hsuccess (ne_of_beq_false rfl)
      | some old =>
          simp only [perform, getAndTouch, touch] at hsuccess ⊢
          split at hsuccess
          · exact absurd hsuccess (ne_of_beq_false rfl)
          · next hopen =>
            rw [if_neg hopen]
            exact ⟨old, _, rfl, rfl, rfl, rfl⟩
  | get | getAndLock | unlock | store | concat | counter | delete | flushAll => cases htouches

end Setting

/-! ## One execution -/

namespace Execution

variable {e : Execution} {p : UInt16} {key : Bytes} {cas : UInt64}

/-- What an execution has drawn from the counter of its store. -/
def drawn? (e : Execution) : Option UInt64 :=
  if e.after.nextCas = e.before.nextCas then none else some e.before.nextCas

/-- What an execution reports as the cas of the item. -/
structure Reports (e : Execution) : Prop where
  /-- A change reports what it has drawn. -/
  drawn : e.request.operation.draws = true → e.response.status = .success →
    e.drawn? = some e.response.cas
  /-- What sets the expiry of an item reports, and keeps, the cas of the item. -/
  touched : e.request.operation.touches = true → e.response.status = .success →
    ∃ key old new, e.Concerns e.request.partition key ∧
      e.before.item? e.request.partition key = some old ∧
      e.after.item? e.request.partition key = some new ∧
      new.cas = old.cas ∧ e.response.cas = old.cas
  flushed : e.request.operation = .flushAll → e.response.cas = 0

/-- If this is a change that has success, it reports a higher cas than the other has drawn. -/
def Outranks (e other : Execution) : Prop :=
  e.request.operation.draws = true → e.response.status = .success →
    ∀ cas, other.drawn? = some cas → cas < e.response.cas

/-- A change that asks for a cas of a key goes through. -/
def Uses (e : Execution) (p : UInt16) (key : Bytes) (cas : UInt64) : Prop :=
  e.Concerns p key ∧ e.request.operation.condition? = some cas ∧ e.response.status = .success

instance (e : Execution) (p : UInt16) (key : Bytes) (cas : UInt64) :
    Decidable (e.Uses p key cas) :=
  inferInstanceAs (Decidable (_ ∧ _ ∧ _))

theorem counter_le (hroom : e.before.nextCas.toNat + 1 < UInt64.size) :
    e.before.nextCas ≤ e.after.nextCas :=
  Cluster.le_of_drawn hroom (Cluster.execute_nextCas e.before e.request e.now)

theorem counter_toNat_le (e : Execution) :
    e.after.nextCas.toNat ≤ e.before.nextCas.toNat + 1 := by
  rcases Cluster.execute_nextCas e.before e.request e.now with hsame | hnext
  · have hafter : e.after.nextCas = e.before.nextCas := hsame
    rw [hafter]
    exact Nat.le_succ _
  · have hafter : e.after.nextCas = e.before.nextCas + 1 := hnext
    rw [hafter, UInt64.toNat_add]
    exact Nat.mod_le _ _

/-- The verdict on the item that a request finds. -/
theorem kind (h : e.request.operation.key? ≠ none) (item : Option Item) :
    Setting.Kind (e.before.setting e.request e.now) item (e.verdict item) :=
  Setting.kind_perform h

/-- An item afterwards is under the cas it had, or under the one that was next. -/
theorem origin {item : Item} (h : e.after.item? p key = some item) :
    (∃ old, e.before.item? p key = some old ∧ item.cas = old.cas) ∨
      e.Concerns p key ∧ item.cas = e.before.nextCas ∧
        e.after.nextCas = e.before.nextCas + 1 := by
  cases e.bears p key with
  | flushed _ emptied =>
      rw [emptied, Store.item?_flush] at h
      cases h
  | spared _ kept => exact Or.inl ⟨item, kept.symm.trans h, rfl⟩
  | judged judged =>
      rw [judged.settled] at h
      have hkind := e.kind judged.concerned.keyed (e.before.found? p key e.now)
      have hcounter := judged.counter
      cases hdrew : (e.verdict (e.before.found? p key e.now)).drew with
      | true =>
          rw [hdrew] at hcounter
          exact Or.inr ⟨judged.concerned, (hkind.of_drew hdrew).2 item h, hcounter⟩
      | false =>
          obtain ⟨old, hfound, hcas⟩ := hkind.of_not_drew hdrew item h
          exact Or.inl ⟨old, (Store.found?_eq_some.mp hfound).1, hcas⟩

/-- A change that has success leaves the item, if at all, under the cas that was next. -/
theorem Concerns.stamped (h : e.Concerns p key) (hdraws : e.request.operation.draws = true)
    (hsuccess : e.response.status = .success) :
    e.response.cas = e.before.nextCas ∧ e.after.nextCas = e.before.nextCas + 1 ∧
      ∀ item, e.after.item? p key = some item → item.cas = e.before.nextCas := by
  obtain ⟨-, -, settled, answered, counter⟩ := h.judged_of_success hsuccess
  have hdrew : (e.verdict (e.before.found? p key e.now)).drew = true :=
    Setting.drew_of_success hdraws (answered ▸ hsuccess)
  obtain ⟨hcas, hitem⟩ := (e.kind h.keyed _).of_drew hdrew
  rw [hdrew] at counter
  exact ⟨answered ▸ hcas, counter, fun item h => hitem item (settled ▸ h)⟩

/-- A change that has success reports the cas that was next. -/
theorem reported (hdraws : e.request.operation.draws = true)
    (hsuccess : e.response.status = .success) :
    e.response.cas = e.before.nextCas ∧ e.after.nextCas = e.before.nextCas + 1 := by
  have hkeyed : e.request.operation ≠ .flushAll := by
    rintro h
    simp [h, Operation.draws] at hdraws
  obtain ⟨key, hkey⟩ := Operation.exists_key hkeyed
  obtain ⟨hcas, hnext, -⟩ := Concerns.stamped ⟨rfl, hkey⟩ hdraws hsuccess
  exact ⟨hcas, hnext⟩

/-- What has been drawn is behind the counter. -/
theorem drawn_behind (h : e.drawn? = some cas)
    (hroom : e.before.nextCas.toNat + 1 < UInt64.size) :
    cas = e.before.nextCas ∧ e.before.nextCas < e.after.nextCas := by
  unfold drawn? at h
  split at h
  · cases h
  · next hother =>
    refine ⟨(Option.some.inj h).symm, ?_⟩
    exact UInt64.lt_of_le_of_ne (counter_le hroom) (Ne.symm hother)

/-- What an execution reports is what it has drawn, or the cas that the item keeps. -/
theorem reports (e : Execution) : e.Reports where
  drawn hdraws hsuccess := by
    obtain ⟨hcas, hnext⟩ := reported hdraws hsuccess
    simp [drawn?, hnext, hcas]
  touched htouches hsuccess := by
    have hkeyed : e.request.operation ≠ .flushAll := by
      rintro h
      simp [h, Operation.touches] at htouches
    obtain ⟨key, hkey⟩ := Operation.exists_key hkeyed
    have hconcerned : e.Concerns e.request.partition key := ⟨rfl, hkey⟩
    obtain ⟨-, -, settled, answered, -⟩ := hconcerned.judged_of_success hsuccess
    obtain ⟨old, new, hfound, hnew, hkept, hcas⟩ :=
      Setting.touched_of_success htouches (answered ▸ hsuccess)
    exact ⟨key, old, new, hconcerned, (Store.found?_eq_some.mp hfound).1, settled.trans hnew,
      hkept, answered ▸ hcas⟩
  flushed hflush := by
    rw [response, Store.execute_flush (Store.key?_eq_none_iff.mpr hflush)]
    rfl

end Execution

/-! ## Stamps of a store -/

namespace Store

variable {store : Store} {p : UInt16} {key : Bytes} {cas : UInt64}

/-- All items of a store have stamps of their own, from behind the counter. -/
structure Stamped (store : Store) : Prop where
  begun : 1 ≤ store.nextCas
  behind : ∀ p key item, store.item? p key = some item →
    1 ≤ item.cas ∧ item.cas < store.nextCas
  distinct : ∀ p key item q other old, store.item? p key = some item →
    store.item? q other = some old → item.cas = old.cas → p = q ∧ key = other

theorem stamped_ofOwned (owned : List UInt16) (limit : Nat) : (ofOwned owned limit).Stamped where
  begun := UInt64.le_refl 1
  behind := by simp [item?_ofOwned]
  distinct := by simp [item?_ofOwned]

end Store

namespace Execution

variable {e : Execution} {p : UInt16} {key : Bytes} {cas : UInt64}

/-- An execution keeps the stamps of a store apart. -/
theorem stamped (h : e.before.Stamped) (hroom : e.before.nextCas.toNat + 1 < UInt64.size) :
    e.after.Stamped where
  begun := UInt64.le_trans h.begun (counter_le hroom)
  behind p key item hitem := by
    rcases origin hitem with ⟨old, hold, hcas⟩ | ⟨-, hcas, hnext⟩
    · rw [hcas]
      obtain ⟨hpos, hlt⟩ := h.behind p key old hold
      exact ⟨hpos, UInt64.lt_of_lt_of_le hlt (counter_le hroom)⟩
    · rw [hcas, hnext]
      exact ⟨h.begun, Cluster.lt_add_one hroom⟩
  distinct p key item q other old hitem hother heq := by
    rcases origin hitem with ⟨item₀, hitem₀, hcas⟩ | ⟨hconcerned, hcas, -⟩
    · rcases origin hother with ⟨old₀, hold₀, hcas'⟩ | ⟨-, hcas', -⟩
      · exact h.distinct p key item₀ q other old₀ hitem₀ hold₀ (hcas ▸ hcas' ▸ heq)
      · have hlt := (h.behind p key item₀ hitem₀).2
        rw [← hcas, heq, hcas'] at hlt
        exact absurd hlt (UInt64.lt_irrefl _)
    · rcases origin hother with ⟨old₀, hold₀, hcas'⟩ | ⟨hconcerned', -, -⟩
      · have hlt := (h.behind q other old₀ hold₀).2
        rw [← hcas', ← heq, hcas] at hlt
        exact absurd hlt (UInt64.lt_irrefl _)
      · exact hconcerned.unique hconcerned'

end Execution

/-! ## A cas that has been used -/

namespace Store

/-- A cas that no item of a key has any more, and that is not drawn again. -/
structure Spent (store : Store) (p : UInt16) (key : Bytes) (cas : UInt64) : Prop where
  past : cas < store.nextCas
  other : ∀ item, store.item? p key = some item → item.cas ≠ cas

end Store

namespace Execution

variable {e : Execution} {p : UInt16} {key : Bytes} {cas : UInt64}

/-- What asks for a cas is a change. -/
theorem draws_of_condition {operation : Operation} (h : operation.condition? = some cas) :
    operation.draws = true := by
  cases operation <;> first | rfl | cases h

/-- A cas is used on the item that has it. -/
theorem Uses.found (h : e.Uses p key cas) :
    ∃ old, e.before.item? p key = some old ∧ old.cas = cas := by
  obtain ⟨hconcerned, hcondition, hsuccess⟩ := h
  have hanswered := (hconcerned.judged_of_success hsuccess).answered
  obtain ⟨old, hfound, hcas⟩ := Setting.condition_met hcondition (hanswered ▸ hsuccess)
  exact ⟨old, (Store.found?_eq_some.mp hfound).1, hcas⟩

/-- A cas that is used is spent. -/
theorem Uses.spends (h : e.Uses p key cas) (hstamped : e.before.Stamped)
    (hroom : e.before.nextCas.toNat + 1 < UInt64.size) : e.after.Spent p key cas := by
  obtain ⟨old, hold, rfl⟩ := h.found
  have hlt := (hstamped.behind p key old hold).2
  obtain ⟨hconcerned, hcondition, hsuccess⟩ := h
  obtain ⟨-, -, hfresh⟩ := hconcerned.stamped (draws_of_condition hcondition) hsuccess
  refine ⟨UInt64.lt_of_lt_of_le hlt (counter_le hroom), fun item hitem => ?_⟩
  rw [hfresh item hitem]
  exact (UInt64.ne_of_lt hlt).symm

/-- What is spent stays spent. -/
theorem spent (h : e.before.Spent p key cas)
    (hroom : e.before.nextCas.toNat + 1 < UInt64.size) : e.after.Spent p key cas := by
  refine ⟨UInt64.lt_of_lt_of_le h.past (counter_le hroom), fun item hitem => ?_⟩
  rcases origin hitem with ⟨old, hold, hcas⟩ | ⟨-, hcas, -⟩
  · rw [hcas]
    exact h.other old hold
  · rw [hcas]
    exact (UInt64.ne_of_lt h.past).symm

/-- What is spent is not used. -/
theorem not_uses_of_spent (h : e.before.Spent p key cas) : ¬e.Uses p key cas := by
  intro huses
  obtain ⟨old, hold, hcas⟩ := huses.found
  exact h.other old hold hcas

end Execution

/-! ## Every run -/

namespace Store

variable {store : Store} {arrivals : List Arrival} {p : UInt16} {key : Bytes} {cas : UInt64}

/-- There are numbers left for some more changes. -/
def Room (store : Store) (changes : Nat) : Prop :=
  store.nextCas.toNat + changes < UInt64.size

theorem Room.step {changes : Nat} (h : store.Room (changes + 1)) (arrival : Arrival) :
    (Execution.after ⟨arrival, store⟩).Room changes := by
  have hstep : (Execution.after ⟨arrival, store⟩).nextCas.toNat ≤ store.nextCas.toNat + 1 :=
    Execution.counter_toNat_le ⟨arrival, store⟩
  simp only [Room] at h ⊢
  omega

theorem Room.one {changes : Nat} (h : store.Room (changes + 1)) :
    store.nextCas.toNat + 1 < UInt64.size := by
  simp only [Room] at h
  omega

theorem Stamped.run (h : store.Stamped) (hroom : store.Room arrivals.length) :
    (store.run arrivals).Stamped := by
  induction arrivals generalizing store with
  | nil => exact h
  | cons arrival arrivals ih =>
      exact ih (Execution.stamped (e := ⟨arrival, store⟩) h hroom.one) (hroom.step arrival)

/-- Whatever is executed later draws no lower cas. -/
theorem le_counter (hroom : store.Room arrivals.length) :
    ∀ e ∈ store.executions arrivals, store.nextCas ≤ e.before.nextCas := by
  induction arrivals generalizing store with
  | nil => exact nofun
  | cons arrival arrivals ih =>
      rw [executions_cons, List.forall_mem_cons]
      refine ⟨UInt64.le_refl _, fun e he => ?_⟩
      exact UInt64.le_trans (Execution.counter_le (e := ⟨arrival, store⟩) hroom.one)
        (ih (hroom.step arrival) e he)

/-- A change reports a higher cas than has been drawn before. -/
theorem reported_above (hroom : store.Room arrivals.length) :
    (store.executions arrivals).Pairwise fun earlier e => e.Outranks earlier := by
  induction arrivals generalizing store with
  | nil => exact .nil
  | cons arrival arrivals ih =>
      rw [executions_cons, List.pairwise_cons]
      refine ⟨fun e he hdraws hsuccess cas hdrawn => ?_, ih (hroom.step arrival)⟩
      obtain ⟨rfl, hlt⟩ := Execution.drawn_behind hdrawn hroom.one
      rw [(Execution.reported hdraws hsuccess).1]
      exact UInt64.lt_of_lt_of_le hlt (le_counter (hroom.step arrival) e he)

/-- A cas that is spent is never used. -/
theorem Spent.never_used (h : store.Spent p key cas) (hroom : store.Room arrivals.length) :
    (store.executions arrivals).countP (fun e => e.Uses p key cas) = 0 := by
  induction arrivals generalizing store with
  | nil => rfl
  | cons arrival arrivals ih =>
      have hnot : ¬Execution.Uses ⟨arrival, store⟩ p key cas := Execution.not_uses_of_spent h
      rw [executions_cons, List.countP_cons_of_neg (by simpa using hnot)]
      exact ih (Execution.spent (e := ⟨arrival, store⟩) h hroom.one) (hroom.step arrival)

/-- A cas is used once at most. -/
theorem Stamped.used_once (h : store.Stamped) (hroom : store.Room arrivals.length) :
    (store.executions arrivals).countP (fun e => e.Uses p key cas) ≤ 1 := by
  induction arrivals generalizing store with
  | nil => exact Nat.zero_le 1
  | cons arrival arrivals ih =>
      have hstamped := Execution.stamped (e := ⟨arrival, store⟩) h hroom.one
      rw [executions_cons]
      by_cases huses : Execution.Uses ⟨arrival, store⟩ p key cas
      · have hrest := (huses.spends h hroom.one).never_used (hroom.step arrival)
        rw [List.countP_cons_of_pos (by simpa using huses)]
        exact Nat.le_of_eq (congrArg (· + 1) hrest)
      · rw [List.countP_cons_of_neg (by simpa using huses)]
        exact ih hstamped (hroom.step arrival)

/-- A store stamps its items apart, reports each change under a higher cas than all before it, and
lets no cas authorise more than one change of a key, as long as there are numbers left. -/
theorem cas_authorises_once (owned : List UInt16) (limit : Nat) {arrivals : List Arrival}
    (hfew : arrivals.length < UInt64.size - 1) :
    ((ofOwned owned limit).run arrivals).Stamped ∧
      (∀ e ∈ (ofOwned owned limit).executions arrivals, e.Reports) ∧
      ((ofOwned owned limit).executions arrivals).Pairwise (fun earlier e => e.Outranks earlier) ∧
      ∀ p key cas,
        ((ofOwned owned limit).executions arrivals).countP (fun e => e.Uses p key cas) ≤ 1 := by
  have hstart := stamped_ofOwned owned limit
  have hroom : (ofOwned owned limit).Room arrivals.length := by
    have hone : (ofOwned owned limit).nextCas.toNat = 1 := rfl
    rw [Room, hone]
    omega
  exact ⟨hstart.run hroom, fun e _ => e.reports, reported_above hroom,
    fun _ _ _ => hstart.used_once hroom⟩

end Store

/-- A change that asks for a cas is sent three times, and another goes through between. -/
def resent : List Arrival :=
  [⟨⟨1, 0, .store .set [107] [118] 0 0 none⟩, 0⟩,
    ⟨⟨2, 0, .concat .append [107] [119] (some 1)⟩, Duration.perSecond⟩,
    ⟨⟨3, 0, .concat .append [107] [119] (some 1)⟩, 2 * Duration.perSecond⟩,
    ⟨⟨4, 0, .store .set [107] [118] 0 0 none⟩, 3 * Duration.perSecond⟩,
    ⟨⟨5, 0, .concat .append [107] [119] (some 1)⟩, 4 * Duration.perSecond⟩]

theorem resent_applied_once :
    resent.length < UInt64.size - 1 ∧
      ((Store.ofOwned [0]).executions resent).countP (fun e => e.Uses 0 [107] 1) = 1 := by
  have hfew : resent.length < UInt64.size - 1 := by decide
  obtain ⟨-, -, -, honce⟩ := Store.cas_authorises_once [0] Store.defaultMaxValueLength hfew
  refine ⟨hfew, Nat.le_antisymm (honce 0 [107] 1) ?_⟩
  decide +kernel

end ClusterKv

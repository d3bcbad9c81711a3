import ClusterKv.Proofs.Store.Runs

/-! # Locks exclude

As long as a lock holds, its item stays as it is for everybody who does not know the cas of the
lock, and nobody learns that cas. When the time of the lock is over it is as if there were none. -/

namespace ClusterKv

/-- The cas that an operation presents, to open a lock or to change an item of that cas. -/
def Operation.presented? : Operation → Option UInt64
  | .unlock _ cas => some cas
  | .store _ _ _ _ _ cas | .concat _ _ _ cas | .delete _ cas => cas
  | _ => none

/-! ## Verdicts on a locked item -/

namespace Setting

variable {given : Setting} {item : Option Item} {old : Item} {operation : Operation}

/-- The verdicts that leave an item alone and its cas untold. -/
inductive Fended (given : Setting) (old : Item) : Verdict → Prop
  | refused (status : Status) (failed : status ≠ .success) :
      Fended given old (given.refuse (some old) status)
  | shown : Fended given old ⟨some old, false, old.shown given.id hiddenCas⟩

theorem Fended.item_eq {verdict : Verdict} (h : Fended given old verdict) :
    verdict.item = some old := by
  cases h with
  | refused => rfl
  | shown => rfl

theorem Fended.untold {verdict : Verdict} (h : Fended given old verdict)
    (hshown : old.cas < hiddenCas) :
    (verdict.response.status = .success → verdict.response.cas ≠ old.cas) ∧
      (verdict.response.status ≠ .success → verdict.response.cas = 0) := by
  cases h with
  | refused status failed => exact ⟨fun success => absurd success failed, fun _ => rfl⟩
  | shown => exact ⟨fun _ => (UInt64.ne_of_lt hshown).symm, fun failed => absurd rfl failed⟩

theorem blocks_of_locked (hlocked : old.isLocked given.now = true) {cas : Option UInt64}
    (hstranger : cas ≠ some old.cas) : old.blocks cas given.now = true := by
  simp [Item.blocks, hlocked, hstranger]

/-- A lock fends off whoever does not present its cas. -/
theorem fended_of_locked (hlocked : old.isLocked given.now = true)
    (hkey : operation.key? ≠ none) (hstranger : operation.presented? ≠ some old.cas) :
    Fended given old (given.perform operation (some old)) := by
  cases operation with
  | get =>
      simp only [perform, get, hlocked, ite_true]
      exact .shown
  | getAndTouch | touch | counter =>
      simp only [perform, getAndTouch, touch, counter, hlocked, ite_true]
      exact .refused _ (by decide)
  | getAndLock =>
      simp only [perform, getAndLock, hlocked, ite_true]
      exact .refused _ (by decide)
  | unlock key cas =>
      have hcas : old.cas ≠ cas := fun h => hstranger (h ▸ rfl)
      simp only [perform, unlock, hlocked, Bool.not_true, Bool.false_eq_true, ite_false, hcas,
        ne_eq, not_false_eq_true, ite_true]
      exact .refused _ (by decide)
  | store mode key value flags expiry cas =>
      have hblocks : old.blocks cas given.now = true := blocks_of_locked hlocked hstranger
      simp only [perform, store, Option.any_some, hblocks, ite_true]
      split
      · exact .refused _ (by decide)
      · exact .refused _ (by decide)
  | concat mode key value cas =>
      have hblocks : old.blocks cas given.now = true := blocks_of_locked hlocked hstranger
      simp only [perform, concat, hblocks, ite_true]
      exact .refused _ (by decide)
  | delete key cas =>
      have hblocks : old.blocks cas given.now = true := blocks_of_locked hlocked hstranger
      simp only [perform, delete, hblocks, ite_true]
      exact .refused _ (by decide)
  | flushAll => exact absurd rfl hkey

/-- A failure leaves the item as it was, and says nothing but why. -/
theorem refused_of_failed (hkey : operation.key? ≠ none)
    (hfailed : (given.perform operation item).response.status ≠ .success) :
    (given.perform operation item).item = item ∧
      (given.perform operation item).response.cas = 0 := by
  have hkind : Kind given item (given.perform operation item) := kind_perform hkey
  generalize given.perform operation item = verdict at hkind hfailed
  cases hkind with
  | refused => exact ⟨rfl, rfl⟩
  | shown _ _ _ success => exact absurd success hfailed
  | written _ _ success => exact absurd success hfailed
  | dropped => exact absurd rfl hfailed

/-- What a request for a lock leaves if it has success. -/
theorem getAndLock_success {seconds : UInt32}
    (h : (given.getAndLock seconds item).response.status = .success) :
    ∃ locked, (given.getAndLock seconds item).item = some locked ∧
      (given.getAndLock seconds item).response = locked.shown given.id locked.cas ∧
      locked.lockedUntil = some (lockEnd seconds given.now) := by
  cases item with
  | none => simp [getAndLock, refuse, Response.ofStatus] at h
  | some old =>
      simp only [getAndLock] at h ⊢
      split at h
      · simp [refuse, Response.ofStatus] at h
      · next hopen =>
        rw [if_neg hopen]
        exact ⟨_, rfl, rfl, rfl⟩

end Setting

/-! ## Locks whose time is over -/

/-- A lock does not end when it starts. -/
theorem lt_lockEnd (seconds : UInt32) (now : Instant) : now < lockEnd seconds now := by
  have hseconds : 0 < if seconds.toNat = 0 then defaultLock else min seconds.toNat maxLock := by
    split
    · decide
    · next hpos => exact Nat.lt_min.mpr ⟨Nat.pos_of_ne_zero hpos, by decide⟩
  exact Nat.lt_add_of_pos_right (Nat.mul_pos hseconds (by decide))

/-- The item without the lock that ends at a certain time. -/
def Item.lift (due : Instant) (item : Item) : Item :=
  { item with lockedUntil := item.lockedUntil.filter (· ≠ due) }

/-- The verdict with another item left behind. -/
def Verdict.mapItem (f : Item → Item) (verdict : Verdict) : Verdict :=
  { verdict with item := verdict.item.map f }

/-- A lock that has ended is no lock. -/
theorem Item.lift_isLocked {due now : Instant} (h : due ≤ now) (item : Item) :
    (item.lift due).isLocked now = item.isLocked now := by
  cases hlock : item.lockedUntil with
  | none => simp [lift, isLocked, hlock]
  | some at_ =>
      by_cases heq : at_ = due
      · simp [lift, isLocked, hlock, heq, h]
      · simp [lift, isLocked, hlock, heq]

theorem Item.lift_blocks {due now : Instant} (h : due ≤ now) (item : Item)
    (cas : Option UInt64) : (item.lift due).blocks cas now = item.blocks cas now := by
  simp only [blocks, lift_isLocked h]
  rfl

namespace Setting

variable {given : Setting} {due : Instant}

theorem lift_storeFault? (mode : StoreMode) (cas : Option UInt64) (item : Option Item) :
    storeFault? mode cas (item.map (·.lift due)) = storeFault? mode cas item := by
  cases item with
  | none => rfl
  | some old => cases mode <;> cases cas <;> rfl

/-- From its end on, no operation takes notice of a lock. -/
theorem perform_lift (hdue : due ≤ given.now) (operation : Operation) (item : Option Item) :
    given.perform operation (item.map (·.lift due)) =
      (given.perform operation item).mapItem (·.lift due) := by
  cases operation with
  | flushAll => rfl
  | store mode key value flags expiry cas =>
      have hblocks : (item.map (·.lift due)).any (·.blocks cas given.now) =
          item.any (·.blocks cas given.now) := by
        cases item <;> simp [Item.lift_blocks hdue]
      simp only [perform, store, hblocks, lift_storeFault?,
        apply_ite (Verdict.mapItem (·.lift due))]
      cases storeFault? mode cas item <;> rfl
  | get | getAndTouch | unlock | concat | delete | touch =>
      cases item with
      | none => rfl
      | some old =>
          simp only [perform, get, getAndTouch, unlock, concat, delete, touch, Option.map_some,
            Item.lift_isLocked hdue, Item.lift_blocks hdue,
            apply_ite (Verdict.mapItem (·.lift due))]
          rfl
  | getAndLock key seconds =>
      cases item with
      | none => rfl
      | some old =>
          -- a lock that starts now ends later than the one that is over
          have hkept : (some (lockEnd seconds given.now)).filter (· ≠ due) =
              some (lockEnd seconds given.now) := by
            have := Nat.lt_of_le_of_lt hdue (lt_lockEnd seconds given.now)
            simpa using Nat.ne_of_gt this
          simp only [perform, getAndLock, Option.map_some, Item.lift_isLocked hdue,
            apply_ite (Verdict.mapItem (·.lift due))]
          simp only [Verdict.mapItem, Item.lift, Option.map_some, hkept]
          rfl
  | counter direction key delta initial expiry =>
      cases item with
      | none => cases initial <;> rfl
      | some old =>
          have hvalue : (old.lift due).value = old.value := rfl
          simp only [perform, counter, Option.map_some, Item.lift_isLocked hdue, hvalue,
            apply_ite (Verdict.mapItem (·.lift due))]
          cases counterValue? old.value <;> rfl

end Setting

/-! ## Stores without a lock that has ended -/

namespace Store

variable {store : Store} {request : Request} {now due : Instant} {p : UInt16} {key : Bytes}

/-- A partition with other items under the same keys. -/
def mapData (g : Bytes → Item → Item) (items : PartitionData) : PartitionData :=
  items.map fun e => (e.1, g e.1 e.2)

/-- The store with other items in the same places. -/
def mapItems (f : UInt16 → Bytes → Item → Item) (store : Store) : Store :=
  { store with partitions := store.partitions.map fun e => (e.1, mapData (f e.1) e.2) }

variable {f : UInt16 → Bytes → Item → Item} {g : Bytes → Item → Item}

theorem get?_mapItems (q : UInt16) :
    (store.mapItems f).partitions.get? q = (store.partitions.get? q).map (mapData (f q)) :=
  Assoc.get?_map_values store.partitions (fun q => mapData (f q)) q

theorem live?_mapData (hexpired : ∀ key item, (g key item).isExpired now = item.isExpired now)
    (items : PartitionData) (key : Bytes) :
    live? (mapData g items) key now = (live? items key now).map (g key) := by
  unfold live? mapData
  rw [Assoc.get?_map_values items g, Option.filter_map]
  simp [Function.comp_def, hexpired]

theorem setItem_mapData (g : Bytes → Item → Item) (items : PartitionData) (key : Bytes)
    (item : Option Item) :
    setItem (mapData g items) key (item.map (g key)) = mapData g (setItem items key item) := by
  cases item with
  | none => exact Assoc.erase_map_values items g key
  | some item => exact Assoc.put_map_values items g key item

theorem settle_mapItems (q : UInt16) (items : PartitionData) (key : Bytes) (verdict : Verdict) :
    (store.mapItems f).settle q (mapData (f q) items) key (verdict.mapItem (f q key)) =
      (store.settle q items key verdict).mapItems f := by
  have hput := Assoc.put_map_values store.partitions (fun q => mapData (f q)) q
    (setItem items key verdict.item)
  simp only [settle, mapItems, Verdict.mapItem, setItem_mapData, hput]
  rfl

/-- A change of items that no verdict takes notice of is not noticed at all. -/
theorem execute_mapItems
    (hperform : ∀ key item, request.operation.key? = some key →
      (store.setting request now).perform request.operation (item.map (f request.partition key)) =
        ((store.setting request now).perform request.operation item).mapItem
          (f request.partition key))
    (hexpired : ∀ q key item, (f q key item).isExpired now = item.isExpired now) :
    (store.mapItems f).execute request now =
      ((store.execute request now).1.mapItems f, (store.execute request now).2) := by
  have hget : (store.mapItems f).partitions.get? request.partition = _ :=
    get?_mapItems request.partition
  cases hkey : request.operation.key? with
  | none =>
      rw [execute_flush hkey, execute_flush hkey]
      simp [mapItems, mapData, flush]
  | some key =>
      cases hitems : store.partitions.get? request.partition with
      | none =>
          rw [hitems] at hget
          rw [execute_of_unowned (by simp [hkey]) hitems,
            execute_of_unowned (by simp [hkey]) hget]
      | some items =>
          rw [hitems] at hget
          have hsetting : (store.mapItems f).setting request now = store.setting request now := rfl
          rw [execute_here hkey hitems, execute_here hkey hget]
          simp only [hsetting, live?_mapData (hexpired request.partition), hperform key _ hkey,
            settle_mapItems]
          rfl

/-- The store without the lock of an item that ends at a certain time. -/
def lift (store : Store) (p : UInt16) (key : Bytes) (due : Instant) : Store :=
  store.mapItems fun q k item => if q = p ∧ k = key then item.lift due else item

theorem execute_lift (hdue : due ≤ now) :
    (store.lift p key due).execute request now =
      ((store.execute request now).1.lift p key due, (store.execute request now).2) := by
  refine execute_mapItems (fun k item hkey => ?_) (fun q k item => ?_)
  · by_cases hhere : request.partition = p ∧ k = key
    · simp only [hhere, and_self, ite_true]
      exact Setting.perform_lift hdue _ _
    · simp only [hhere, ite_false, Option.map_id']
      simp [Verdict.mapItem]
  · split
    · rfl
    · rfl

/-- From its end on, no sequence of requests takes notice of a lock. -/
theorem run_lift {later : List Arrival} (hlater : ∀ arrival ∈ later, due ≤ arrival.now) :
    (store.lift p key due).answers later = store.answers later ∧
      (store.lift p key due).run later = (store.run later).lift p key due := by
  induction later generalizing store with
  | nil => exact ⟨rfl, rfl⟩
  | cons arrival later ih =>
      obtain ⟨hdue, hlater⟩ := List.forall_mem_cons.mp hlater
      have hexecute : (store.lift p key due).execute arrival.request arrival.now = _ :=
        execute_lift hdue
      have hafter : Execution.after ⟨arrival, store.lift p key due⟩ =
          (Execution.after ⟨arrival, store⟩).lift p key due := (congrArg Prod.fst hexecute :)
      have hresponse : Execution.response ⟨arrival, store.lift p key due⟩ =
          Execution.response ⟨arrival, store⟩ := (congrArg Prod.snd hexecute :)
      obtain ⟨hanswers, hrun⟩ := @ih (Execution.after ⟨arrival, store⟩) hlater
      rw [answers_cons, answers_cons, run_cons, run_cons, hafter, hresponse, hanswers]
      exact ⟨rfl, hrun⟩

end Store

/-! ## While the lock holds -/

/-- An execution within the time of a lock: the lock has not ended, the item has not expired, and
the request is neither a flush nor one that presents the cas of the lock and has success. -/
structure Execution.Within (e : Execution) (p : UInt16) (key : Bytes) (item : Item)
    (due : Instant) : Prop where
  early : e.now < due
  live : item.isExpired e.now = false
  unflushed : e.request.operation ≠ .flushAll
  unopened : e.Concerns p key → e.request.operation.presented? = some item.cas →
    e.response.status ≠ .success

instance (e : Execution) (p : UInt16) (key : Bytes) (item : Item) (due : Instant) :
    Decidable (e.Within p key item due) :=
  decidable_of_iff (e.now < due ∧ item.isExpired e.now = false ∧
      e.request.operation ≠ .flushAll ∧ (e.Concerns p key →
        e.request.operation.presented? = some item.cas → e.response.status ≠ .success))
    ⟨fun ⟨early, live, unflushed, unopened⟩ => ⟨early, live, unflushed, unopened⟩,
      fun h => ⟨h.early, h.live, h.unflushed, h.unopened⟩⟩

namespace Store

/-- The lock of an item keeps everybody away from it until it ends. -/
structure Excludes (store : Store) (p : UInt16) (key : Bytes) (item : Item) (due : Instant) :
    Prop where
  /-- Within the time of the lock the item stays as it is. -/
  kept : ∀ arrivals, (∀ e ∈ store.executions arrivals, e.Within p key item due) →
    (store.run arrivals).item? p key = some item
  /-- Meanwhile nobody learns the cas of the lock who does not present it: no success reports it,
  and a failure reports none. -/
  untold : ∀ arrivals, (∀ e ∈ store.executions arrivals, e.Within p key item due) →
    ∀ e ∈ store.executions arrivals, e.Concerns p key →
      e.request.operation.presented? ≠ some item.cas →
      (e.response.status = .success → e.response.cas ≠ item.cas) ∧
        (e.response.status ≠ .success → e.response.cas = 0)
  /-- Whatever has happened, from its end on the lock makes no difference to any answer, nor to
  anything that is stored. -/
  lifted : ∀ arrivals later, (∀ arrival ∈ later, due ≤ arrival.now) →
    ((store.run arrivals).lift p key due).answers later = (store.run arrivals).answers later ∧
      ((store.run arrivals).lift p key due).run later =
        ((store.run arrivals).run later).lift p key due

end Store

namespace Execution

variable {e : Execution} {p : UInt16} {key : Bytes} {item : Item} {due : Instant}

/-- Within the time of its lock an item is found as it is. -/
theorem Within.found (h : e.Within p key item due) (hitem : e.before.item? p key = some item) :
    e.before.found? p key e.now = some item :=
  Store.found?_eq_some.mpr ⟨hitem, h.live⟩

theorem Within.locked (h : e.Within p key item due) (hlock : item.lockedUntil = some due) :
    item.isLocked e.now = true := by
  simpa [Item.isLocked, hlock] using h.early

/-- Within the time of its lock an item stays as it is. -/
theorem Within.kept (h : e.Within p key item due) (hitem : e.before.item? p key = some item)
    (hlock : item.lockedUntil = some due) : e.after.item? p key = some item := by
  cases e.bears p key with
  | flushed flush => exact absurd flush h.unflushed
  | spared _ kept => exact kept.trans hitem
  | judged judged =>
      have hanswered := judged.answered
      rw [h.found hitem] at hanswered
      rw [judged.settled, h.found hitem]
      by_cases hcas : e.request.operation.presented? = some item.cas
      · have hfailed := hanswered ▸ h.unopened judged.concerned hcas
        exact (Setting.refused_of_failed judged.concerned.keyed hfailed).1
      · exact (Setting.fended_of_locked (h.locked hlock) judged.concerned.keyed hcas).item_eq

/-- Within the time of its lock nobody learns its cas. -/
theorem Within.untold (h : e.Within p key item due) (hitem : e.before.item? p key = some item)
    (hlock : item.lockedUntil = some due) (hshown : item.cas < hiddenCas)
    (hconcerned : e.Concerns p key) (hstranger : e.request.operation.presented? ≠ some item.cas) :
    (e.response.status = .success → e.response.cas ≠ item.cas) ∧
      (e.response.status ≠ .success → e.response.cas = 0) := by
  rw [(hconcerned.judged (Store.owns_of_item? hitem)).answered, h.found hitem]
  exact (Setting.fended_of_locked (h.locked hlock) hconcerned.keyed hstranger).untold hshown

end Execution

/-! ## Every sequence of requests -/

namespace Store

variable {store : Store} {p : UInt16} {key : Bytes} {item : Item} {due : Instant}

/-- Within the time of its lock an item stays as it is, whatever is asked. -/
theorem run_within (hitem : store.item? p key = some item) (hlock : item.lockedUntil = some due)
    {arrivals : List Arrival} (h : ∀ e ∈ store.executions arrivals, e.Within p key item due) :
    (store.run arrivals).item? p key = some item ∧
      ∀ e ∈ store.executions arrivals, e.before.item? p key = some item := by
  induction arrivals generalizing store with
  | nil => exact ⟨hitem, nofun⟩
  | cons arrival arrivals ih =>
      rw [executions_cons, List.forall_mem_cons] at h
      obtain ⟨hrun, hbefore⟩ := ih (h.1.kept hitem hlock) h.2
      rw [run_cons, executions_cons, List.forall_mem_cons]
      exact ⟨hrun, hitem, hbefore⟩

/-- A lock whose cas can be told from the one shown in its place excludes everybody else. -/
theorem excludes_of_locked (hitem : store.item? p key = some item)
    (hlock : item.lockedUntil = some due) (hshown : item.cas < hiddenCas) :
    store.Excludes p key item due where
  kept _ h := (run_within hitem hlock h).1
  untold _ h e he := (h e he).untold ((run_within hitem hlock h).2 e he) hlock hshown
  lifted _ _ hlater := run_lift hlater

end Store

/-- A request that locks an item has it to itself: until the cas of the lock is used, everything is
flushed, the item expires or the time is over, nobody else changes the item or learns the cas. -/
theorem Execution.locks_exclude {e : Execution} {key : Bytes} {seconds : UInt32}
    (hlock : e.request.operation = .getAndLock key seconds)
    (hsuccess : e.response.status = .success) (hshown : e.response.cas < hiddenCas) :
    ∃ item, e.after.item? e.request.partition key = some item ∧
      e.response = item.shown e.request.opaqueId item.cas ∧
      item.lockedUntil = some (lockEnd seconds e.now) ∧
      e.after.Excludes e.request.partition key item (lockEnd seconds e.now) := by
  have hconcerned : e.Concerns e.request.partition key := ⟨rfl, by rw [hlock]; rfl⟩
  obtain ⟨-, -, settled, answered, -⟩ := hconcerned.judged_of_success hsuccess
  simp only [verdict, hlock, Setting.perform] at settled answered
  rw [answered] at hsuccess hshown
  obtain ⟨item, hitem, hresponse, hlocked⟩ := Setting.getAndLock_success hsuccess
  rw [hresponse] at hshown
  refine ⟨item, settled.trans hitem, answered.trans hresponse, hlocked, ?_⟩
  exact Store.excludes_of_locked (settled.trans hitem) hlocked hshown

/-- A request that locks an item for five seconds. -/
def locking : Execution :=
  ⟨⟨⟨2, 0, .getAndLock [107] 5⟩, 0⟩,
    (Store.ofOwned [0]).run [⟨⟨1, 0, .store .set [107] [118] 0 60 none⟩, 0⟩]⟩

/-- What others ask for meanwhile, and what has no success though it presents the cas. -/
def meanwhile : List Arrival :=
  [⟨⟨3, 0, .get [107]⟩, Duration.perSecond⟩,
    ⟨⟨4, 0, .store .set [107] [119] 0 0 none⟩, 2 * Duration.perSecond⟩,
    ⟨⟨5, 0, .store .add [107] [119] 0 0 (some 2)⟩, 2 * Duration.perSecond⟩,
    ⟨⟨6, 0, .delete [107] (some 1)⟩, 3 * Duration.perSecond⟩,
    ⟨⟨7, 0, .touch [107] 1⟩, 3 * Duration.perSecond⟩,
    ⟨⟨8, 0, .getAndLock [107] 30⟩, 4 * Duration.perSecond⟩]

theorem locking_excludes :
    locking.request.operation = .getAndLock [107] 5 ∧ locking.response.status = .success ∧
      locking.response.cas < hiddenCas ∧
      ∃ item, locking.after.item? 0 [107] = some item ∧
        (locking.after.run meanwhile).item? 0 [107] = some item := by
  have hsuccess : locking.response.status = .success := by decide +kernel
  have hshown : locking.response.cas < hiddenCas := by decide +kernel
  obtain ⟨item, hitem, -, -, hexcludes⟩ := Execution.locks_exclude rfl hsuccess hshown
  obtain rfl :
      ⟨[118], 0, 2, some (60 * Duration.perSecond), some (5 * Duration.perSecond)⟩ = item :=
    Option.some.inj (.trans (by decide +kernel) hitem)
  exact ⟨rfl, hsuccess, hshown, _, hitem, hexcludes.kept meanwhile (by decide +kernel)⟩

end ClusterKv

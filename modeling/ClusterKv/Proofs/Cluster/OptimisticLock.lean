import ClusterKv.Proofs.Cluster.Controls
import ClusterKv.Proofs.Store.Verdicts

/-! # Optimistic locking

A cas stands for the item that had it as long as no other item of that key can get it again. Every
node stamps what it writes from a counter of its own, and a partition that moves takes the stamps
of its items along: the law holds where partitions only come to nodes whose counters are not
behind. -/

namespace ClusterKv.Cluster

/-! ## Histories -/

/-- A request that reaches a node. -/
structure Delivery where
  node : NodeId
  request : Request
  now : Instant

/-- Something that happens to a cluster. -/
inductive Happening where
  | request (delivery : Delivery)
  | control (op : Control)

/-- The answer to a request. -/
def answer (c : Cluster) (d : Delivery) : Response :=
  (executeOn d.node d.request d.now c.nodes).2

def happen (c : Cluster) : Happening → Cluster
  | .request d => { c with nodes := (executeOn d.node d.request d.now c.nodes).1 }
  | .control op => c.after op

/-- A cluster after all that has happened to it. -/
def history (c : Cluster) (happenings : List Happening) : Cluster := happenings.foldl happen c

/-- The item of a key, wherever its partition is. -/
def item? (c : Cluster) (p : UInt16) (key : Bytes) : Option Item :=
  (c.nodes.find? (·.store.owns p)).bind fun node =>
    (node.store.partitions.get? p).bind (·.get? key)

/-- The value and the flags of a key. -/
def content? (c : Cluster) (p : UInt16) (key : Bytes) : Option (Bytes × UInt32) :=
  (c.item? p key).map fun item => (item.value, item.flags)

/-- The counter of the node that keeps a partition. -/
def counter? (c : Cluster) (p : UInt16) : Option UInt64 :=
  (c.nodes.find? (·.store.owns p)).map (·.store.nextCas)

/-- A partition never comes to a node whose counter is behind that of the node it leaves. -/
def Ascending (p : UInt16) : Cluster → List Happening → Prop
  | _, [] => True
  | c, .request d :: rest => Ascending p (c.happen (.request d)) rest
  | c, .control op :: rest =>
    (∀ before ∈ c.counter? p, ∀ after ∈ (c.after op).counter? p, before ≤ after) ∧
      Ascending p (c.after op) rest

instance decidableAscending (p : UInt16) :
    (c : Cluster) → (happenings : List Happening) → Decidable (Ascending p c happenings)
  | _, [] => isTrue trivial
  | c, .request d :: rest => decidableAscending p (c.happen (.request d)) rest
  | c, .control op :: rest =>
    -- Numbers of 64 bits are finitely many, which is no way to decide this.
    haveI (before : UInt64) : Decidable (∀ after ∈ (c.after op).counter? p, before ≤ after) :=
      Option.decidableForallMem _
    haveI : Decidable (∀ before ∈ c.counter? p, ∀ after ∈ (c.after op).counter? p,
        before ≤ after) := Option.decidableForallMem _
    haveI := decidableAscending p (c.after op) rest
    instDecidableAnd

/-- A request is about the item of a key. -/
def Delivery.Concerns (d : Delivery) (p : UInt16) (key : Bytes) : Prop :=
  d.request.partition = p ∧ d.request.operation.key? = some key

/-! ## One request and one item -/

/-- What a request does to an item, and to the counter of the node that keeps it. -/
inductive Change (d : Delivery) (p : UInt16) (key : Bytes) (item : Option Item) (n : UInt64) :
    Option Item → UInt64 → Response → Prop
  | passed (counter : UInt64) (drawn : counter = n ∨ counter = n + 1) (response : Response)
      (missed : d.Concerns p key → response.status ≠ .success) :
      Change d p key item n item counter response
  | flushed (other : ¬ d.Concerns p key) (response : Response) :
      Change d p key item n none n response
  /-- The item is as good as gone if it has expired. -/
  | judged (concerned : d.Concerns p key) {seen : Option Item} (live : seen = item ∨ seen = none)
      {given : Setting} (fresh : given.fresh = n) (verdict : Verdict)
      (reached : verdict = given.perform d.request.operation seen) :
      Change d p key item n verdict.item (if verdict.drew then n + 1 else n) verdict.response

variable {c : Cluster} {p : UInt16} {key : Bytes}

theorem Touch.change {d : Delivery} {store : Store} {data data' : PartitionData}
    {counter : UInt64} {response : Response}
    (h : Touch p d.request d.now store data data' counter response) :
    Change d p key (data.get? key) store.nextCas (data'.get? key) counter response := by
  cases h with
  | away counter drawn response missed =>
      refine .passed counter drawn response fun ⟨hp, hkey⟩ => ?_
      rw [missed hp (by simp [hkey])]
      exact nofun
  | flushed unkeyed response =>
      exact .flushed (fun ⟨_, hkey⟩ => by simp [unkeyed] at hkey) response
  | @performed here k keyed verdict reached =>
      by_cases hk : k = key
      · subst hk
        have hseen : Store.live? data k d.now = data.get? k ∨ Store.live? data k d.now = none := by
          unfold Store.live?
          cases data.get? k with
          | none => exact Or.inl rfl
          | some item => cases h : item.isExpired d.now <;> simp [h]
        have hitem : Assoc.get? (Store.setItem data k verdict.item) k = verdict.item := by
          cases verdict.item <;> simp [Store.setItem]
        rw [hitem]
        exact .judged ⟨here, keyed⟩ hseen rfl verdict reached
      · have hsame : Assoc.get? (Store.setItem data k verdict.item) key = data.get? key := by
          cases verdict.item with
          | none => exact Assoc.get?_erase_of_ne _ (Ne.symm hk)
          | some item => exact Assoc.get?_put_of_ne _ _ (Ne.symm hk)
        rw [hsame]
        refine .passed _ ?_ _ fun ⟨_, hkey⟩ => absurd (Option.some.inj (keyed.symm.trans hkey)) hk
        split
        · exact Or.inr rfl
        · exact Or.inl rfl

theorem Held.item? {place : Nat} {data : PartitionData} (h : Held c.nodes p place data) :
    c.item? p key = data.get? key := by
  obtain ⟨node, hnode, hdata⟩ := h.node
  simp [Cluster.item?, h.find?, hnode, hdata]

theorem Held.counter? {place : Nat} {data : PartitionData} (h : Held c.nodes p place data)
    {node : Node} (hnode : c.nodes[place]? = some node) :
    c.counter? p = some node.store.nextCas := by
  simp [Cluster.counter?, h.find?, hnode]

theorem item?_of_unowned (h : ∀ i, dataAt c.nodes i p = none) (key : Bytes) :
    c.item? p key = none ∧ c.counter? p = none := by
  have hnone : c.nodes.find? (·.store.owns p) = none := by
    rw [List.find?_eq_none]
    intro node hnode
    obtain ⟨i, hi⟩ := List.mem_iff_getElem?.mp hnode
    have := h i
    rw [dataAt_of_getElem? hi] at this
    simp [Store.owns, Assoc.has, this]
  simp [Cluster.item?, Cluster.counter?, hnone]

theorem Partitioned.request (hc : Partitioned c) (d : Delivery) :
    Partitioned (c.happen (.request d)) :=
  hc.executeOn d.node d.request d.now

/-- What a request does to an item, and to the counter where it is kept. -/
theorem Partitioned.change (hc : Partitioned c) (hp : p.toNat < c.current.length) (d : Delivery)
    (key : Bytes) :
    ∃ n n', c.counter? p = some n ∧ (c.happen (.request d)).counter? p = some n' ∧
      Change d p key (c.item? p key) n ((c.happen (.request d)).item? p key) n' (c.answer d) := by
  obtain ⟨place, data, hdata, -⟩ := hc.held p hp
  obtain ⟨node, hnode, -⟩ := hdata.node
  obtain ⟨node', data', hnode', hdata', htouch⟩ := hdata.executeOn hnode d.node d.request d.now
  refine ⟨_, _, hdata.counter? hnode,
    Held.counter? (c := c.happen (.request d)) hdata' hnode', ?_⟩
  rw [hdata.item?, Held.item? (c := c.happen (.request d)) hdata']
  exact htouch.change

/-! ## Stamps -/

/-- What an item has as a stamp is behind the counter where it is kept, and no counter has gone
further than one stamp for each thing that happened. -/
structure Stamped (c : Cluster) (p : UInt16) (key : Bytes) (used : Nat) : Prop where
  partitioned : Partitioned c
  few : ∀ node ∈ c.nodes, node.store.nextCas.toNat ≤ used + 1
  behind : ∀ item ∈ c.item? p key, ∀ n ∈ c.counter? p, item.cas < n

theorem lt_add_one {n : UInt64} (h : n.toNat + 1 < UInt64.size) : n < n + 1 := by
  rw [UInt64.lt_iff_toNat_lt, UInt64.toNat_add]
  simp only [UInt64.size] at h
  simp
  omega

theorem ne_hiddenCas {n : UInt64} (h : n.toNat + 1 < UInt64.size) : n ≠ hiddenCas := by
  rintro rfl
  exact absurd h (by decide)

theorem Stamped.counter_le {used : Nat} (h : Stamped c p key used) {n : UInt64}
    (hn : c.counter? p = some n) : n.toNat ≤ used + 1 := by
  obtain ⟨node, hnode, rfl⟩ := Option.map_eq_some_iff.mp hn
  exact h.few node (List.mem_of_find?_eq_some hnode)

theorem Stamped.start {spec : ClusterSpec} (h : Cluster.start spec = .ok c)
    (hsmall : spec.partitions ≤ Topology.maxPartitions) (p : UInt16) (key : Bytes) :
    Stamped c p key 0 := by
  have hc := start_partitioned h hsmall
  have hdata := start_held h hsmall p
  obtain ⟨-, -, hnodes⟩ := start_eq h
  refine ⟨hc, ?_, ?_⟩
  · intro node hnode
    obtain ⟨i, hi⟩ := List.mem_iff_getElem?.mp hnode
    rw [hnodes] at hi
    simp only [List.getElem?_mapIdx, Option.map_eq_some_iff] at hi
    obtain ⟨id, -, rfl⟩ := hi
    simp [Store.ofOwned]
  · intro item hitem
    rcases Nat.lt_or_ge p.toNat c.current.length with hp | hp
    · obtain ⟨place, data, hheld, -⟩ := hc.held p hp
      have hempty : data = [] := by
        have := hheld place
        rw [hdata place, if_pos rfl] at this
        split at this
        · exact (Option.some.inj this).symm
        · cases this
      rw [hheld.item?, hempty] at hitem
      simp at hitem
    · rw [(item?_of_unowned (hc.beyond p hp) key).1] at hitem
      simp at hitem

theorem counters_executeOn {nodes : List Node} {bound : Nat} (id : NodeId) (request : Request)
    (now : Instant) (h : ∀ node ∈ nodes, node.store.nextCas.toNat ≤ bound) :
    ∀ node ∈ (executeOn id request now nodes).1, node.store.nextCas.toNat ≤ bound + 1 := by
  intro node hnode
  rcases executeOn_cases id request now nodes with ⟨-, heq⟩ | ⟨place, old, hold, -, heq⟩
  · rw [heq] at hnode
    exact Nat.le_succ_of_le (h node hnode)
  rw [heq] at hnode
  rcases List.mem_or_eq_of_mem_set hnode with hnode | rfl
  · exact Nat.le_succ_of_le (h node hnode)
  have hbound := h old (List.mem_of_getElem? hold)
  have hdrawn := execute_nextCas old.store request now
  simp only [Node.execute]
  rcases hdrawn with hsame | hnext
  · rw [hsame]; omega
  · rw [hnext, UInt64.toNat_add]
    have := Nat.mod_le (old.store.nextCas.toNat + (1 : UInt64).toNat) (2 ^ 64)
    simp at this ⊢
    omega

/-- An item that a request leaves behind is the one that was there, its expiry aside, or has the
stamp that the counter stood at. -/
theorem Change.origin {d : Delivery} {item item' : Option Item} {n n' : UInt64}
    {response : Response} (h : Change d p key item n item' n' response) :
    (n' = n ∨ n' = n + 1) ∧ ∀ i' ∈ item',
      (∃ i ∈ item, i'.cas = i.cas ∧ i'.value = i.value ∧ i'.flags = i.flags) ∨
        i'.cas = n ∧ n' = n + 1 := by
  cases h with
  | passed counter drawn => exact ⟨drawn, fun i hi => Or.inl ⟨i, hi, rfl, rfl, rfl⟩⟩
  | flushed => exact ⟨Or.inl rfl, by simp⟩
  | @judged concerned seen live given fresh verdict reached =>
      have hkind : Setting.Kind given seen verdict :=
        reached ▸ Setting.kind_perform (by simp [concerned.2])
      have hseen : ∀ i ∈ seen, i ∈ item := by
        rcases live with rfl | rfl
        · exact fun i hi => hi
        · simp
      cases hkind with
      | refused => exact ⟨Or.inl rfl, fun i hi => Or.inl ⟨i, hseen i hi, rfl, rfl, rfl⟩⟩
      | @shown old found =>
          refine ⟨Or.inl rfl, fun i hi => Or.inl ⟨old, hseen old found, ?_⟩⟩
          obtain rfl := Option.some.inj hi
          exact ⟨rfl, rfl, rfl⟩
      | written stamped =>
          refine ⟨Or.inr rfl, fun i hi => Or.inr ⟨?_, rfl⟩⟩
          obtain rfl := Option.some.inj hi
          exact stamped.trans fresh
      | dropped => exact ⟨Or.inr rfl, by simp⟩

theorem le_of_drawn {n n' : UInt64} (hn : n.toNat + 1 < UInt64.size) (h : n' = n ∨ n' = n + 1) :
    n ≤ n' := by
  rcases h with rfl | rfl
  · exact UInt64.le_refl _
  · exact UInt64.le_of_lt (lt_add_one hn)

/-- Stamps stay behind the counter. -/
theorem Change.behind {d : Delivery} {item item' : Option Item} {n n' : UInt64}
    {response : Response} (h : Change d p key item n item' n' response)
    (hn : n.toNat + 1 < UInt64.size) (hbehind : ∀ i ∈ item, i.cas < n) :
    ∀ i ∈ item', i.cas < n' := by
  intro i' hi'
  obtain ⟨hdrawn, horigin⟩ := h.origin
  rcases horigin i' hi' with ⟨i, hi, hcas, -⟩ | ⟨hcas, rfl⟩
  · rw [hcas]
    exact UInt64.lt_of_lt_of_le (hbehind i hi) (le_of_drawn hn hdrawn)
  · rw [hcas]
    exact lt_add_one hn

theorem Stamped.happen {used : Nat} (h : Stamped c p key used) (hused : used + 2 < UInt64.size)
    {happening : Happening} {rest : List Happening} (hup : Ascending p c (happening :: rest)) :
    Stamped (c.happen happening) p key (used + 1) := by
  cases happening with
  | request d =>
      refine ⟨h.partitioned.request d, counters_executeOn _ _ _ h.few, ?_⟩
      rcases Nat.lt_or_ge p.toNat c.current.length with hp | hp
      · obtain ⟨n, n', hn, hn', hchange⟩ := h.partitioned.change hp d key
        have hbound := h.counter_le hn
        intro item hitem m hm
        obtain rfl : n' = m := by simpa [hn'] using hm
        exact hchange.behind (by omega) (fun i hi => h.behind i hi n hn) item hitem
      · have hnone := executeOn_unowned (h.partitioned.beyond p hp) d.node d.request d.now
        intro item hitem
        rw [(item?_of_unowned (c := c.happen (.request d)) hnone key).1] at hitem
        simp at hitem
  | control op =>
      obtain ⟨hc, hmoved⟩ := h.partitioned.after op
      refine ⟨hc, ?_, ?_⟩
      · intro node hnode
        have hshell : node.shell ∈ c.nodes.map Node.shell :=
          hmoved.shells ▸ List.mem_map_of_mem hnode
        obtain ⟨old, hold, heq⟩ := List.mem_map.mp hshell
        have hcounter : old.store.nextCas = node.store.nextCas :=
          congrArg (·.store.nextCas) heq
        exact hcounter ▸ Nat.le_succ_of_le (h.few old hold)
      · intro item hitem n hn
        rcases Nat.lt_or_ge p.toNat c.current.length with hp | hp
        · obtain ⟨place, data, hheld, -⟩ := h.partitioned.held p hp
          obtain ⟨node, hnode, -⟩ := hheld.node
          obtain ⟨place', hheld'⟩ := hmoved.held hheld
          have hbefore := hheld.counter? hnode
          have hitem : item ∈ c.item? p key := by
            rw [hheld.item?, ← Held.item? (c := c.after op) hheld']
            exact hitem
          exact UInt64.lt_of_lt_of_le (h.behind item hitem _ hbefore) (hup.1 _ hbefore n hn)
        · rw [show (c.happen (.control op)).item? p key = none from
            (item?_of_unowned (hmoved.beyond (h.partitioned.beyond p hp)) key).1] at hitem
          simp at hitem

/-! ## The item of a reported cas -/

/-- No item has a reported cas any more, nor can one get it. -/
structure Lost (reported : UInt64) (item : Option Item) (n : UInt64) : Prop where
  other : ∀ i ∈ item, i.cas ≠ reported
  past : reported < n ∨ reported = hiddenCas

/-- What has become of an item since its cas was reported. -/
inductive Fate (reported : UInt64) (content : Bytes × UInt32) (item : Option Item) (n : UInt64) :
    Prop
  | kept (i : Item) (found : item = some i) (same : i.cas = reported)
      (unchanged : (i.value, i.flags) = content)
  | lost (gone : Lost reported item n)

variable {reported : UInt64} {content : Bytes × UInt32} {item item' : Option Item}
  {n n' : UInt64} {response : Response} {d : Delivery}

/-- Stamps that come later are not the reported one. -/
theorem fresh_ne (hn : n.toNat + 1 < UInt64.size) (hpast : reported < n ∨ reported = hiddenCas) :
    n ≠ reported := by
  rcases hpast with hlt | rfl
  · exact (UInt64.ne_of_lt hlt).symm
  · exact ne_hiddenCas hn

theorem Lost.change (hlost : Lost reported item n) (h : Change d p key item n item' n' response)
    (hn : n.toNat + 1 < UInt64.size) : Lost reported item' n' := by
  obtain ⟨hdrawn, horigin⟩ := h.origin
  refine ⟨fun i' hi' => ?_,
    hlost.past.imp_left fun hlt => UInt64.lt_of_lt_of_le hlt (le_of_drawn hn hdrawn)⟩
  rcases horigin i' hi' with ⟨i, hi, hcas, -⟩ | ⟨hcas, -⟩
  · exact hcas ▸ hlost.other i hi
  · exact hcas ▸ fresh_ne hn hlost.past

/-- An item that is still there stays as it is, or is lost. -/
theorem Fate.change (hfate : Fate reported content item n)
    (h : Change d p key item n item' n' response) (hn : n.toNat + 1 < UInt64.size)
    (hbehind : ∀ i ∈ item, i.cas < n) : Fate reported content item' n' := by
  cases hfate with
  | lost gone => exact .lost (gone.change h hn)
  | kept i found same unchanged =>
      obtain ⟨hdrawn, horigin⟩ := h.origin
      have hlt : reported < n := same ▸ hbehind i found
      have hpast : reported < n' := UInt64.lt_of_lt_of_le hlt (le_of_drawn hn hdrawn)
      cases item' with
      | none => exact .lost ⟨by simp, Or.inl hpast⟩
      | some i' =>
          rcases horigin i' rfl with ⟨old, hold, hcas, hvalue, hflags⟩ | ⟨hcas, -⟩
          · obtain rfl := Option.some.inj (found.symm.trans hold)
            exact .kept i' rfl (hcas.trans same) (by rw [hvalue, hflags, unchanged])
          · refine .lost ⟨fun j hj => ?_, Or.inl hpast⟩
            obtain rfl := Option.some.inj hj
            exact hcas ▸ fresh_ne hn (Or.inl hlt)

/-- Once a cas has been reported, the item has it, or no item can ever get it. -/
theorem Change.fate (h : Change d p key item n item' n' response)
    (hn : n.toNat + 1 < UInt64.size) (hbehind : ∀ i ∈ item, i.cas < n)
    (hconcerns : d.Concerns p key) (hsuccess : response.status = .success) :
    (∃ i, item' = some i ∧ i.cas = response.cas) ∨ Lost response.cas item' n' := by
  have hbehind' := h.behind hn hbehind
  cases h with
  | passed counter drawn response missed => exact absurd hsuccess (missed hconcerns)
  | flushed other => exact absurd hconcerns other
  | @judged concerned seen live given fresh verdict reached =>
      have hkind : Setting.Kind given seen verdict :=
        reached ▸ Setting.kind_perform (by simp [concerned.2])
      cases hkind with
      | refused status failed => exact absurd hsuccess failed.1
      | shown found expiresAt response _ _ shows =>
          rcases shows with hcas | hcas
          · exact Or.inl ⟨_, rfl, hcas.symm⟩
          · refine Or.inr ⟨fun i hi => ?_, Or.inr hcas⟩
            have hlt := UInt64.lt_of_lt_of_le (hbehind' i hi) (UInt64.le_refl n)
            rw [hcas]
            exact ne_hiddenCas (by have := UInt64.lt_iff_toNat_lt.mp hlt; omega)
      | @written new stamped response _ _ shows =>
          exact Or.inl ⟨new, rfl, stamped.trans shows.symm⟩
      | dropped =>
          refine Or.inr ⟨by simp, Or.inl ?_⟩
          simpa [Response.success, fresh] using lt_add_one hn

/-- A change that asks for a cas and goes through finds an item that has it. -/
theorem Change.condition_met (h : Change d p key item n item' n' response)
    (hconcerns : d.Concerns p key) (hcondition : d.request.operation.condition? = some reported)
    (hsuccess : response.status = .success) : ∃ i, item = some i ∧ i.cas = reported := by
  cases h with
  | passed counter drawn response missed => exact absurd hsuccess (missed hconcerns)
  | flushed other => exact absurd hconcerns other
  | judged concerned live fresh verdict reached =>
      subst reached
      obtain ⟨old, hold, hcas⟩ := Setting.condition_met hcondition hsuccess
      rcases live with rfl | rfl
      · exact ⟨old, hold, hcas⟩
      · cases hold

/-! ## Runs -/

theorem history_append (happenings more : List Happening) :
    c.history (happenings ++ more) = (c.history happenings).history more :=
  List.foldl_append

theorem Ascending.append {happenings more : List Happening} :
    Ascending p c (happenings ++ more) ↔
      Ascending p c happenings ∧ Ascending p (c.history happenings) more := by
  induction happenings generalizing c with
  | nil => simp [Ascending, history]
  | cons happening rest ih =>
      cases happening with
      | request d => exact ih
      | control op =>
          simp only [List.cons_append, Ascending, ih, and_assoc]
          rfl

theorem Stamped.history {used : Nat} (h : Stamped c p key used) {happenings : List Happening}
    (hup : Ascending p c happenings) (hused : used + happenings.length + 1 < UInt64.size) :
    Stamped (c.history happenings) p key (used + happenings.length) := by
  induction happenings generalizing c used with
  | nil => exact h
  | cons happening rest ih =>
      simp only [List.length_cons] at hused ⊢
      have hstep := h.happen (by omega) hup
      have hrest : Ascending p (c.happen happening) rest := by
        cases happening with
        | request => exact hup
        | control => exact hup.2
      have := ih hstep hrest (by omega)
      rwa [show used + (rest.length + 1) = used + 1 + rest.length by omega]

/-- The item of a key and the counter it is behind are in a relation. -/
def Has (c : Cluster) (p : UInt16) (key : Bytes) (P : Option Item → UInt64 → Prop) : Prop :=
  ∃ n, c.counter? p = some n ∧ P (c.item? p key) n

theorem Stamped.count_lt {used : Nat} (h : Stamped c p key used) (hn : c.counter? p = some n) :
    p.toNat < c.current.length := by
  by_contra hp
  have hnone := (item?_of_unowned (h.partitioned.beyond p (Nat.le_of_not_lt hp)) key).2
  rw [hn] at hnone
  cases hnone

/-- What requests keep, and growing counters, a whole run keeps. -/
theorem Stamped.persists {P : Option Item → UInt64 → Prop}
    (hchange : ∀ {d item n item' n' response}, Change d p key item n item' n' response →
      n.toNat + 1 < UInt64.size → (∀ i ∈ item, i.cas < n) → P item n → P item' n')
    (hraise : ∀ {item n n'}, n ≤ n' → P item n → P item n')
    {used : Nat} (h : Stamped c p key used) {happenings : List Happening}
    (hup : Ascending p c happenings) (hused : used + happenings.length + 1 < UInt64.size)
    (hP : c.Has p key P) : (c.history happenings).Has p key P := by
  induction happenings generalizing c used with
  | nil => exact hP
  | cons happening rest ih =>
      simp only [List.length_cons] at hused
      obtain ⟨n, hn, hPn⟩ := hP
      have hstep := h.happen (by omega) hup
      have hp := h.count_lt hn
      cases happening with
      | request d =>
          refine ih hstep hup (by omega) ?_
          obtain ⟨m, n', hm, hn', hstepped⟩ := h.partitioned.change hp d key
          obtain rfl : n = m := by simpa [hn] using hm
          have hbound := h.counter_le hn
          exact ⟨n', hn', hchange hstepped (by omega) (fun i hi => h.behind i hi n hn) hPn⟩
      | control op =>
          refine ih hstep hup.2 (by omega) ?_
          obtain ⟨place, data, hheld, -⟩ := h.partitioned.held p hp
          obtain ⟨place', hheld'⟩ := (h.partitioned.after op).2.held hheld
          obtain ⟨node, hnode, -⟩ := hheld'.node
          have hn' : (c.after op).counter? p = some node.store.nextCas := hheld'.counter? hnode
          have hitem : (c.after op).item? p key = c.item? p key := by
            rw [hheld'.item?, hheld.item?]
          exact ⟨_, hn', hitem.symm ▸ hraise (hup.1 n hn _ hn') hPn⟩

theorem Stamped.lost_persists {used : Nat} (h : Stamped c p key used)
    {happenings : List Happening} (hup : Ascending p c happenings)
    (hused : used + happenings.length + 1 < UInt64.size) (hlost : c.Has p key (Lost reported)) :
    (c.history happenings).Has p key (Lost reported) :=
  h.persists (fun hstep hn _ hlost => hlost.change hstep hn)
    (fun hle hlost => ⟨hlost.other, hlost.past.imp_left (UInt64.lt_of_lt_of_le · hle)⟩)
    hup hused hlost

theorem Stamped.fate_persists {used : Nat} (h : Stamped c p key used)
    {happenings : List Happening} (hup : Ascending p c happenings)
    (hused : used + happenings.length + 1 < UInt64.size)
    (hfate : c.Has p key (Fate reported content)) :
    (c.history happenings).Has p key (Fate reported content) := by
  refine h.persists (fun hstep hn hbehind hfate => hfate.change hstep hn hbehind) ?_ hup hused hfate
  intro item n n' hle hfate
  cases hfate with
  | kept i found same unchanged => exact .kept i found same unchanged
  | lost gone => exact .lost ⟨gone.other, gone.past.imp_left (UInt64.lt_of_lt_of_le · hle)⟩

/-- A lost cas opens nothing. -/
theorem Stamped.lost_condition {used : Nat} (h : Stamped c p key used)
    (hlost : c.Has p key (Lost reported)) (hconcerns : d.Concerns p key)
    (hcondition : d.request.operation.condition? = some reported) :
    (c.answer d).status ≠ .success := by
  intro hsuccess
  obtain ⟨n, hn, hlost⟩ := hlost
  obtain ⟨_, _, -, -, hstep⟩ := h.partitioned.change (h.count_lt hn) d key
  obtain ⟨i, hi, hcas⟩ := hstep.condition_met hconcerns hcondition hsuccess
  exact hlost.other i hi hcas

/-- A report is followed by the item that it is about, unless that is lost. -/
theorem Stamped.after_report {used : Nat} (h : Stamped c p key used) (hused : used + 2 < UInt64.size)
    (hconcerns : d.Concerns p key) (hsuccess : (c.answer d).status = .success) :
    (c.happen (.request d)).Has p key fun item n =>
      (∃ i, item = some i ∧ i.cas = (c.answer d).cas) ∨ Lost (c.answer d).cas item n := by
  have hp : p.toNat < c.current.length := by
    by_contra hp
    have hnone := h.partitioned.beyond p (Nat.le_of_not_lt hp)
    have haway : c.answer d = .ofStatus d.request.opaqueId .notMyPartition :=
      executeOn_turned_away (by rwa [hconcerns.1]) (by simp [hconcerns.2]) d.now
    rw [haway] at hsuccess
    cases hsuccess
  obtain ⟨n, n', hn, hn', hstep⟩ := h.partitioned.change hp d key
  have hbound := h.counter_le hn
  exact ⟨n', hn', hstep.fate (by omega) (fun i hi => h.behind i hi n hn) hconcerns hsuccess⟩

/-- An item that will open for a cas keeps its content until then. -/
theorem Stamped.content_kept {used : Nat} (h : Stamped c p key used) {middle rest : List Happening}
    (hup : Ascending p c (middle ++ rest))
    (hused : used + (middle ++ rest).length + 1 < UInt64.size)
    (hfate : c.Has p key (Fate reported content)) (hconcerns : d.Concerns p key)
    (hcondition : d.request.operation.condition? = some reported)
    (hsuccess : ((c.history (middle ++ rest)).answer d).status = .success) :
    (c.history middle).content? p key = some content := by
  obtain ⟨hmiddle, hrest⟩ := Ascending.append.mp hup
  rw [List.length_append] at hused
  obtain ⟨n, hn, hthere⟩ := h.fate_persists hmiddle (by omega) hfate
  cases hthere with
  | kept i found same unchanged => rw [content?, found, Option.map_some, unchanged]
  | lost gone =>
      have hstamped := h.history hmiddle (by omega)
      have hlost := hstamped.lost_persists hrest (by omega) ⟨n, hn, gone⟩
      rw [← history_append] at hlost
      have hend := h.history hup (by rw [List.length_append]; omega)
      exact absurd hsuccess (hend.lost_condition hlost hconcerns hcondition)

/-- Optimistic locking: where partitions only come to nodes whose counters are not behind, a
change that asks for a cas goes through only if the value and the flags of the key have stayed
what they were when that cas was reported. -/
theorem unchanged_since_report {spec : ClusterSpec} (hstart : Cluster.start spec = .ok c)
    (hsmall : spec.partitions ≤ Topology.maxPartitions) {earlier middle rest : List Happening}
    {reporting change : Delivery}
    (hascending : Ascending p c (earlier ++ .request reporting :: (middle ++ rest)))
    (hfew : (earlier ++ .request reporting :: (middle ++ rest)).length + 1 < UInt64.size)
    (hreporting : reporting.Concerns p key)
    (hreported : ((c.history earlier).answer reporting).status = .success ∧
      ((c.history earlier).answer reporting).cas = reported)
    (hchange : change.Concerns p key)
    (hcondition : change.request.operation.condition? = some reported)
    (hsuccess : ((c.history (earlier ++ .request reporting :: (middle ++ rest))).answer
      change).status = .success) :
    (c.history (earlier ++ .request reporting :: middle)).content? p key =
      (c.history (earlier ++ [.request reporting])).content? p key := by
  obtain ⟨hsofar, hafter⟩ := Ascending.append.mp hascending
  rw [List.length_append, List.length_cons] at hfew
  have hearlier := (Stamped.start hstart hsmall p key).history hsofar (by rw [Nat.zero_add]; omega)
  have hreport := hearlier.happen (by omega) hafter
  have hfate := hearlier.after_report (by omega) hreporting hreported.1
  rw [hreported.2] at hfate
  rw [history_append] at hsuccess ⊢
  rw [history_append]
  obtain ⟨n, hn, ⟨i, hitem, hcas⟩ | hlost⟩ := hfate
  · have hkept : (((c.history earlier).happen (.request reporting)).history middle).content? p key =
        some (i.value, i.flags) :=
      hreport.content_kept hafter (by omega) ⟨n, hn, .kept i hitem hcas rfl⟩ hchange hcondition
        hsuccess
    have hthen : ((c.history earlier).happen (.request reporting)).content? p key =
        some (i.value, i.flags) := by
      rw [content?, hitem, Option.map_some]
    exact hkept.trans hthen.symm
  · have hend := hreport.history hafter (by omega)
    exact absurd hsuccess
      (hend.lost_condition (hreport.lost_persists hafter (by omega) ⟨n, hn, hlost⟩) hchange
        hcondition)

/-- Stores a value under the key "k" of partition 0, or under another key of partition 1. -/
def storing (node : String) (p : UInt16) (key value : String) (cas : Option UInt64) : Delivery :=
  ⟨⟨node⟩, ⟨1, p, .store .set key.toUTF8.toList value.toUTF8.toList 0 0 cas⟩, 0⟩

/-- A partition comes to a node that has used up as many stamps. -/
theorem unchanged_across_move :
    ∃ c, Cluster.start pair = .ok c ∧
      (c.history [.request (storing "n1" 1 "x" "y" none), .request (storing "n0" 0 "k" "a" none),
        .control (.movePartition 0 1)]).content? 0 "k".toUTF8.toList =
      (c.history [.request (storing "n1" 1 "x" "y" none),
        .request (storing "n0" 0 "k" "a" none)]).content? 0 "k".toUTF8.toList :=
  ⟨_, rfl, @unchanged_since_report _ 0 "k".toUTF8.toList 1 pair rfl (by decide)
    [.request (storing "n1" 1 "x" "y" none)] [.control (.movePartition 0 1)] []
    (storing "n0" 0 "k" "a" none) (storing "n1" 0 "k" "b" (some 1)) (by decide +kernel) (by decide)
    ⟨rfl, rfl⟩ (by decide +kernel) ⟨rfl, rfl⟩ rfl (by decide +kernel)⟩

/-- A partition comes to a node whose counter is behind, which gives the same stamp once more: the
cas of a value that has been replaced opens the item. -/
theorem stale_cas_opens_after_move :
    ∃ c, Cluster.start pair = .ok c ∧
      (c.answer (storing "n0" 0 "k" "a" none)).cas = 1 ∧
      ((c.history [.request (storing "n0" 0 "k" "a" none), .control (.movePartition 0 1),
        .request (storing "n1" 0 "k" "b" none)]).answer
          (storing "n1" 0 "k" "c" (some 1))).status = .success ∧
      (c.history [.request (storing "n0" 0 "k" "a" none), .control (.movePartition 0 1),
        .request (storing "n1" 0 "k" "b" none)]).content? 0 "k".toUTF8.toList ≠
      (c.history [.request (storing "n0" 0 "k" "a" none)]).content? 0 "k".toUTF8.toList :=
  ⟨_, rfl, by decide +kernel, by decide +kernel, by decide +kernel⟩

end ClusterKv.Cluster

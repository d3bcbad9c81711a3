import ClusterKv.Proofs.Dispatcher.Settled

/-! # Room at nodes

The dispatcher counts the attempts under way at each node, and lists the commands that wait for room
there. The counts and lists are exact, and no node ever has more than its fill. -/

namespace ClusterKv

/-- Is an attempt to a node under way? -/
def Entry.isSentTo (node : NodeId) (entry : Entry) : Bool :=
  match entry.stage with
  | .sent other .. => other = node
  | .waiting .. | .awaitingTopology | .backoff _ => false

/-- Does a command wait for room at a node? -/
def Entry.waitsFor (node : NodeId) (entry : Entry) : Bool :=
  match entry.stage with
  | .waiting other _ => other = node
  | .sent .. | .awaitingTopology | .backoff _ => false

/-- Does a command wait for room at any node? -/
def Entry.isWaiting (entry : Entry) : Bool :=
  match entry.stage with
  | .waiting .. => true
  | .sent .. | .awaitingTopology | .backoff _ => false

theorem Entry.waitsFor_iff {node : NodeId} {entry : Entry} :
    entry.waitsFor node = true ↔ ∃ partition, entry.stage = .waiting node partition := by
  obtain ⟨command, stage⟩ := entry
  cases stage <;> simp [waitsFor]

namespace Dispatcher

variable {m : Moment} {cause : Cause} {config : Config} {d d' : Dispatcher}

/-! ## What entries do to the books -/

section

variable {id : Nat} {entry : Entry} (node : NodeId)

theorem insert_sentPerNode (d : Dispatcher) :
    (d.insert id entry).sentPerNode.get? node =
      if entry.isSentTo node then some (d.sentTo node + 1) else d.sentPerNode.get? node := by
  obtain ⟨command, stage⟩ := entry
  cases stage with
  | sent other partition carrier closed =>
      by_cases hnode : other = node
      · simp [insert, Entry.isSentTo, hnode]
      · have hne : node ≠ other := fun h => hnode h.symm
        simp [insert, Entry.isSentTo, hnode, Assoc.get?_put_of_ne _ _ hne]
  | waiting | awaitingTopology | backoff => rfl

theorem insert_waitingFor (d : Dispatcher) :
    (d.insert id entry).waitingFor node =
      if entry.waitsFor node then d.waitingFor node ++ [id] else d.waitingFor node := by
  obtain ⟨command, stage⟩ := entry
  cases stage with
  | waiting other partition =>
      by_cases hnode : other = node
      · simp [insert, Entry.waitsFor, waitingFor, hnode]
      · have hne : node ≠ other := fun h => hnode h.symm
        simp [insert, Entry.waitsFor, waitingFor, hnode, Assoc.get?_put_of_ne _ _ hne]
  | sent | awaitingTopology | backoff => rfl

theorem insert_waitingTotal (d : Dispatcher) :
    (d.insert id entry).waitingTotal = d.waitingTotal + if entry.isWaiting then 1 else 0 := by
  obtain ⟨command, stage⟩ := entry
  cases stage <;> rfl

theorem get?_lowerSent (sent : Assoc NodeId Nat) (other : NodeId) :
    (lowerSent sent other).get? node =
      if other = node then (sent.get? node).bind fun count =>
        if count ≤ 1 then none else some (count - 1)
      else sent.get? node := by
  unfold lowerSent
  by_cases hnode : other = node
  · subst hnode
    cases hsent : sent.get? other with
    | none => simp [hsent]
    | some count => by_cases hlast : count ≤ 1 <;> simp [hlast]
  · have hne : node ≠ other := fun h => hnode h.symm
    rw [if_neg hnode]
    split
    · rfl
    · split
      · exact Assoc.get?_erase_of_ne _ hne
      · exact Assoc.get?_put_of_ne _ _ hne

theorem remove_sentPerNode (found : d.inFlight.get? id = some entry) :
    (d.remove id).1.sentPerNode.get? node =
      if entry.isSentTo node then (d.sentPerNode.get? node).bind fun count =>
        if count ≤ 1 then none else some (count - 1)
      else d.sentPerNode.get? node := by
  obtain ⟨command, stage⟩ := entry
  cases stage with
  | sent other partition carrier closed =>
      simp [remove, found, Entry.isSentTo, get?_lowerSent]
  | waiting | awaitingTopology | backoff => simp [remove, found, Entry.isSentTo]

theorem remove_waitingFor (found : d.inFlight.get? id = some entry) :
    (d.remove id).1.waitingFor node =
      if entry.waitsFor node then (d.waitingFor node).filter (· ≠ id) else d.waitingFor node := by
  obtain ⟨command, stage⟩ := entry
  cases stage with
  | waiting other partition =>
      simp only [remove, found, leaveQueue, Entry.waitsFor, waitingFor, decide_eq_true_eq]
      by_cases hnode : other = node
      · subst hnode
        cases hqueue : d.waiting.get? other <;> simp [hqueue]
      · have hne : node ≠ other := fun h => hnode h.symm
        rw [if_neg hnode]
        split
        · rfl
        · rw [Assoc.get?_put_of_ne _ _ hne]
  | sent | awaitingTopology | backoff => simp [remove, found, Entry.waitsFor, waitingFor]

theorem remove_waitingTotal (found : d.inFlight.get? id = some entry) :
    (d.remove id).1.waitingTotal = d.waitingTotal - if entry.isWaiting then 1 else 0 := by
  obtain ⟨command, stage⟩ := entry
  cases stage <;> simp [remove, found, Entry.isWaiting]

end

theorem waitingFor_tidy {d : Dispatcher} (hqueues : d.waiting.keys.Nodup) (node : NodeId) :
    ({ d with waiting := d.waiting.filter fun e => !e.2.isEmpty } : Dispatcher).waitingFor node =
      d.waitingFor node := by
  unfold waitingFor
  rw [Assoc.get?_filter hqueues]
  cases d.waiting.get? node with
  | none => rfl
  | some queue => cases queue <;> rfl

/-! ## The invariant -/

/-- How many attempts to a node are under way. -/
def sentCount (d : Dispatcher) (node : NodeId) : Nat := d.inFlight.countP (·.2.isSentTo node)

/-- The books agree with the entries in flight, and no node has more than its fill. -/
structure Booked (config : Config) (d : Dispatcher) : Prop where
  /-- A node with no attempt under way is not in the books. -/
  counted : ∀ node, d.sentPerNode.get? node =
    if d.sentCount node = 0 then none else some (d.sentCount node)
  bounded : ∀ node, d.sentCount node ≤ config.maxInFlightPerNode
  once : ∀ node, (d.waitingFor node).Nodup
  listed : ∀ node id, id ∈ d.waitingFor node ↔
    ∃ entry, d.inFlight.get? id = some entry ∧ entry.waitsFor node = true
  total : d.waitingTotal = d.inFlight.countP (·.2.isWaiting)

namespace Booked

theorem start : Booked config {} where
  counted _ := rfl
  bounded _ := Nat.zero_le _
  once _ := List.nodup_nil
  listed _ _ := by simp [waitingFor]
  total := rfl

theorem congr (h : Booked config d) (hentries : d'.inFlight = d.inFlight)
    (hsent : d'.sentPerNode = d.sentPerNode)
    (hwaiting : ∀ node, d'.waitingFor node = d.waitingFor node)
    (htotal : d'.waitingTotal = d.waitingTotal) : Booked config d' := by
  have hcount : ∀ node, d'.sentCount node = d.sentCount node := by
    intro node
    rw [sentCount, hentries, sentCount]
  refine ⟨?_, ?_, ?_, ?_, ?_⟩
  · intro node
    rw [hsent, hcount]
    exact h.counted node
  · intro node
    rw [hcount]
    exact h.bounded node
  · intro node
    rw [hwaiting]
    exact h.once node
  · intro node id
    rw [hwaiting, hentries]
    exact h.listed node id
  · rw [htotal, hentries]
    exact h.total

theorem sentTo_eq (h : Booked config d) (node : NodeId) : d.sentTo node = d.sentCount node := by
  rw [sentTo, h.counted]
  split
  · next hnone => simp [hnone]
  · rfl

/-- If no command waits, every queue is empty. -/
theorem waitingFor_eq_nil (h : Booked config d) (hnone : d.waitingTotal = 0) (node : NodeId) :
    d.waitingFor node = [] := by
  refine List.eq_nil_iff_forall_not_mem.mpr fun id hid => ?_
  obtain ⟨⟨command, stage⟩, hentry, hwaits⟩ := (h.listed node id).mp hid
  obtain ⟨partition, rfl⟩ := Entry.waitsFor_iff.mp hwaits
  have hcount := h.total
  rw [hnone, eq_comm, List.countP_eq_zero] at hcount
  exact absurd rfl (hcount _ (Assoc.mem_of_get? hentry))

theorem insert {id : Nat} (h : Booked config d) (entry : Entry)
    (free : d.inFlight.get? id = none)
    (room : ∀ node, entry.isSentTo node = true → d.sentTo node < config.maxInFlightPerNode) :
    Booked config (d.insert id entry) := by
  have hcount : ∀ node, (d.insert id entry).sentCount node =
      d.sentCount node + if entry.isSentTo node then 1 else 0 := by
    intro node
    rw [sentCount, insert_inFlight, Assoc.countP_put free]
    rfl
  refine ⟨?_, ?_, ?_, ?_, ?_⟩
  · intro node
    rw [insert_sentPerNode, hcount, h.sentTo_eq, h.counted]
    split <;> simp
  · intro node
    rw [hcount]
    split
    · next hsent =>
        have hroom := room node hsent
        rw [h.sentTo_eq] at hroom
        exact hroom
    · exact h.bounded node
  · intro node
    rw [insert_waitingFor]
    split
    · refine List.Nodup.append (h.once node) (List.nodup_singleton id) ?_
      intro other hother hid
      obtain rfl := List.mem_singleton.mp hid
      obtain ⟨old, hold, -⟩ := (h.listed node other).mp hother
      rw [free] at hold
      cases hold
    · exact h.once node
  · intro node other
    rw [insert_waitingFor, insert_inFlight]
    by_cases hid : other = id
    · subst hid
      have hnot : other ∉ d.waitingFor node := by
        rw [h.listed, free]
        simp
      cases hwaits : entry.waitsFor node <;> simp [hwaits, hnot]
    · rw [Assoc.get?_put_of_ne _ _ hid, ← h.listed]
      split <;> simp [hid]
  · rw [insert_waitingTotal, insert_inFlight, Assoc.countP_put free, h.total]

theorem remove {id : Nat} {entry : Entry} (h : Booked config d)
    (distinct : d.inFlight.keys.Nodup) (found : d.inFlight.get? id = some entry) :
    Booked config (d.remove id).1 := by
  have hcount : ∀ node, d.sentCount node =
      (d.remove id).1.sentCount node + if entry.isSentTo node then 1 else 0 := by
    intro node
    rw [sentCount, sentCount, remove_inFlight, Assoc.countP_erase distinct found]
  refine ⟨?_, ?_, ?_, ?_, ?_⟩
  · intro node
    have hcount := hcount node
    rw [remove_sentPerNode node found, h.counted]
    split at hcount
    · next hsent =>
        rw [if_pos hsent, hcount]
        by_cases hlast : (d.remove id).1.sentCount node = 0 <;> simp [hlast]
    · next hsent => simp only [hsent, hcount, Bool.false_eq_true, ite_false, Nat.add_zero]
  · intro node
    have hcount := hcount node
    have hbounded := h.bounded node
    omega
  · intro node
    rw [remove_waitingFor node found]
    split
    · exact (h.once node).filter _
    · exact h.once node
  · intro node other
    rw [remove_waitingFor node found, remove_inFlight]
    by_cases hid : other = id
    · subst hid
      have hlisted := h.listed node other
      simp only [found, Option.some.injEq, exists_eq_left'] at hlisted
      rw [Assoc.get?_erase_self]
      split
      · simp
      · next hwaits => simp [hlisted, hwaits]
    · rw [Assoc.get?_erase_of_ne _ hid, ← h.listed]
      split <;> simp [hid]
  · rw [remove_waitingTotal found, remove_inFlight, h.total, Assoc.countP_erase distinct found]
    exact Nat.add_sub_cancel ..

/-- The first command in a queue may be taken off it before it is taken out. -/
theorem promote {node : NodeId} {id : Nat} {rest : List Nat} {entry : Entry}
    (h : Booked config d) (distinct : d.inFlight.keys.Nodup)
    (first : d.waitingFor node = id :: rest) (found : d.inFlight.get? id = some entry) :
    Booked config ({ d with waiting := d.waiting.put node rest }.remove id).1 := by
  let d₁ : Dispatcher := { d with waiting := d.waiting.put node rest }
  have hfound : d₁.inFlight.get? id = some entry := found
  have hwaits : entry.waitsFor node = true := by
    have hlisted : id ∈ d.waitingFor node := by simp [first]
    obtain ⟨other, hother, hwaits⟩ := (h.listed node id).mp hlisted
    obtain rfl := Option.some.inj (found.symm.trans hother)
    exact hwaits
  have hremoved := h.remove distinct found
  obtain ⟨partition, hstage⟩ := Entry.waitsFor_iff.mp hwaits
  refine hremoved.congr ?_ ?_ ?_ ?_
  · simp
  · simp only [Dispatcher.remove, found, hstage]
  · intro other
    rw [remove_waitingFor other hfound, remove_waitingFor other found, waitingFor_put]
    by_cases hother : other = node
    · subst hother
      simp [hwaits, first]
    · simp [hother]
  · rw [remove_waitingTotal hfound, remove_waitingTotal found]

end Booked

/-! ## Moves keep the books -/

theorem requestRefresh_booked (h : Booked config d) : Booked config d.requestRefresh := by
  unfold requestRefresh
  split
  · exact h
  · exact h.congr rfl rfl (fun _ => rfl) rfl

theorem Handling.booked {s t : Dispatcher × Hand} (h : Handling m cause s t)
    (hs : Numbered s.1 s.2) (hb : Booked m.config s.1) : Booked m.config t.1 := by
  cases h with
  | locate | miss | charge | advance | renumber | renumberUnused | disconnect | settle =>
      exact hb.congr rfl rfl (fun _ => rfl) rfl
  | @start _ d command node partition inTime room =>
      have hroom : ∀ other, Entry.isSentTo other ⟨command, .sent node partition none []⟩ = true →
          d.sentTo other < m.config.maxInFlightPerNode := by
        intro other hother
        obtain rfl : node = other := by simpa [Entry.isSentTo] using hother
        simpa [hasCapacity] using room
      have hinsert := hb.insert ⟨command, .sent node partition none []⟩
        (hs.in_hand command.id rfl).2.1 hroom
      exact hinsert.congr rfl rfl (fun _ => rfl) rfl
  | @wait _ d command node partition =>
      exact hb.insert ⟨command, .waiting node partition⟩ (hs.in_hand command.id rfl).2.1
        (by simp [Entry.isSentTo])
  | @park _ d command =>
      apply requestRefresh_booked
      have hparked : Booked m.config { d with parked := d.parked ++ [command.id] } :=
        hb.congr rfl rfl (fun _ => rfl) rfl
      exact hparked.insert ⟨command, .awaitingTopology⟩ (hs.in_hand command.id rfl).2.1
        (by simp [Entry.isSentTo])
  | @pause _ d command resume =>
      have harmed : Booked m.config (d.arm resume command.id) :=
        hb.congr rfl rfl (fun _ => rfl) rfl
      exact harmed.insert ⟨command, .backoff resume⟩ (hs.in_hand command.id rfl).2.1
        (by simp [Entry.isSentTo])

theorem Move.booked {s t : Dispatcher × Hand} (h : Move m cause s t)
    (hs : Numbered s.1 s.2) (hb : Booked m.config s.1) : Booked m.config t.1 := by
  cases h with
  | handle handling => exact handling.booked hs hb
  | draw | collect | tick => exact hb.congr rfl rfl (fun _ => rfl) rfl
  | retire found | resume found | unpark found => exact hb.remove hs.distinct found
  | expire found => exact (hb.remove hs.distinct found).congr rfl rfl (fun _ => rfl) rfl
  | promote first room found => exact hb.promote hs.distinct first found
  | @skip d node id rest first gone =>
      -- Whatever is listed waits, so nothing is ever skipped.
      have hlisted : id ∈ d.waitingFor node := by simp [first]
      obtain ⟨⟨command, stage⟩, hentry, hwaits⟩ := (hb.listed node id).mp hlisted
      obtain ⟨partition, rfl⟩ := Entry.waitsFor_iff.mp hwaits
      exact absurd hentry (gone _ _ _)
  | @tidy d =>
      refine hb.congr rfl rfl ?_ rfl
      intro node
      exact waitingFor_tidy hs.queues node

theorem Moves.booked {s t : Dispatcher × Hand} (h : Moves m cause s t)
    (hs : Numbered s.1 s.2) (hb : Booked m.config s.1) : Booked m.config t.1 := by
  have hkept := h.induct (P := fun s => Numbered s.1 s.2 ∧ Booked m.config s.1)
    (fun _ _ hmove hs => ⟨hmove.numbered hs.1, hmove.booked hs.1 hs.2⟩) ⟨hs, hb⟩
  exact hkept.2

/-! ## Turns keep the books -/

theorem markEntry_isSentTo (input : Input) (id : Nat) (entry : Entry) (node : NodeId) :
    (markEntry input id entry).isSentTo node = entry.isSentTo node := by
  obtain ⟨command, stage⟩ := entry
  cases stage <;> rfl

theorem markEntry_waitsFor (input : Input) (id : Nat) (entry : Entry) (node : NodeId) :
    (markEntry input id entry).waitsFor node = entry.waitsFor node := by
  obtain ⟨command, stage⟩ := entry
  cases stage <;> rfl

theorem markEntry_isWaiting (input : Input) (id : Nat) (entry : Entry) :
    (markEntry input id entry).isWaiting = entry.isWaiting := by
  obtain ⟨command, stage⟩ := entry
  cases stage <;> rfl

/-- Notes in entries do not matter. -/
theorem mark_booked (h : Booked config d) (input : Input) : Booked config (d.mark input) := by
  have hcount : ∀ node, (d.mark input).sentCount node = d.sentCount node := by
    intro node
    simp only [sentCount, mark, List.countP_map, Function.comp_def, markEntry_isSentTo]
  refine ⟨?_, ?_, h.once, ?_, ?_⟩
  · intro node
    rw [hcount]
    exact h.counted node
  · intro node
    rw [hcount]
    exact h.bounded node
  · intro node id
    have hlisted := h.listed node id
    simp only [mark_get?, Option.map_eq_some_iff]
    refine hlisted.trans ⟨?_, ?_⟩
    · rintro ⟨entry, hentry, hwaits⟩
      exact ⟨_, ⟨entry, hentry, rfl⟩, by rwa [markEntry_waitsFor]⟩
    · rintro ⟨_, ⟨entry, hentry, rfl⟩, hwaits⟩
      exact ⟨entry, hentry, by rwa [markEntry_waitsFor] at hwaits⟩
  · have htotal := h.total
    simp only [mark, List.countP_map, Function.comp_def, markEntry_isWaiting]
    exact htotal

theorem shutDown_booked (config : Config) (d : Dispatcher) : Booked config d.shutDown := by
  rw [shutDown_eq]
  exact Booked.start.congr rfl rfl (fun _ => rfl) rfl

theorem turn_booked (hd : Numbered d .empty) (h : Booked m.config d) (input : Input) :
    Booked m.config (d.turn m input) := by
  by_cases hinput : input = .shutdown
  · rw [hinput]
    exact shutDown_booked m.config d
  · have hturn := turn_induct (m := m)
      (P := fun s => Numbered s.1 s.2 ∧ Booked m.config s.1) hd hinput
      (fun _ _ _ _ hmove hs => ⟨hmove.numbered hs.1, hmove.booked hs.1 hs.2⟩)
      ⟨mark_numbered hd input, mark_booked h input⟩
    exact hturn.2

/-- Where nothing waits for nothing, a node that somebody waits for is full. -/
theorem Settled.full (h : Settled config d) (hb : Booked config d) {node : NodeId}
    (hwaiting : d.waitingFor node ≠ []) : d.sentTo node = config.maxInFlightPerNode := by
  have hbound := hb.bounded node
  rw [← hb.sentTo_eq] at hbound
  refine Nat.le_antisymm hbound ?_
  rcases h with hnone | hfull
  · exact absurd (hb.waitingFor_eq_nil hnone node) hwaiting
  · unfold waitingFor at hwaiting
    cases hqueue : d.waiting.get? node with
    | none => simp [hqueue] at hwaiting
    | some queue => exact (hfull _ (Assoc.mem_of_get? hqueue)).2

end Dispatcher

namespace Run

open Dispatcher

/-- The books of every run agree with its entries. -/
theorem booked (config : Config) (events : List Event) :
    Booked config (of config events).dispatcher := by
  refine dispatcher_induct (P := fun _ d => Booked config d) .start ?_ ?_ events
  · exact fun _ _ _ h => h.congr rfl rfl (fun _ => rfl) rfl
  · intro journal d m input hconfig hd _ h
    rw [← hconfig] at h ⊢
    exact (turn_booked hd h input).congr rfl rfl (fun _ => rfl) rfl

end Run

end ClusterKv

import ClusterKv.Proofs.Dispatcher.Capacity
import ClusterKv.Proofs.Dispatcher.Deadlines

/-! # Nodes do not get in each other's way

All nodes share one table of commands and one range of numbers. Still what comes from one node
leaves the commands at the others alone, provided that the node answers nothing that was not sent to
it. An answer is told by its number only, so one that bears the number of an attempt at another node
ends that attempt. -/

namespace ClusterKv

/-- Is a command at a node, under way there or waiting for room? -/
def Entry.isAt (node : NodeId) (entry : Entry) : Bool := entry.isSentTo node || entry.waitsFor node

namespace Dispatcher

variable {m : Moment} {input : Input} {cause : Cause} {node : NodeId} {d d' d'' : Dispatcher}

/-! ## What is left alone -/

/-- All that is at a node stays as it is: the commands there, how many of them are under way, and
the queue. -/
structure Untouched (node : NodeId) (d d' : Dispatcher) : Prop where
  entries : ∀ id entry, entry.isAt node = true →
    (d'.inFlight.get? id = some entry ↔ d.inFlight.get? id = some entry)
  sent : d'.sentPerNode.get? node = d.sentPerNode.get? node
  waiting : d'.waiting.get? node = d.waiting.get? node

namespace Untouched

theorem refl (node : NodeId) (d : Dispatcher) : Untouched node d d :=
  ⟨fun _ _ _ => .rfl, rfl, rfl⟩

theorem trans (h : Untouched node d d') (h' : Untouched node d' d'') : Untouched node d d'' :=
  ⟨fun id entry hat => (h'.entries id entry hat).trans (h.entries id entry hat),
    h'.sent.trans h.sent, h'.waiting.trans h.waiting⟩

theorem of_eq (hentries : d'.inFlight = d.inFlight) (hsent : d'.sentPerNode = d.sentPerNode)
    (hwaiting : d'.waiting.get? node = d.waiting.get? node) : Untouched node d d' :=
  ⟨fun _ _ _ => by rw [hentries], by rw [hsent], hwaiting⟩

/-- A command that is elsewhere may be taken out. -/
theorem remove {id : Nat} {entry : Entry} (found : d.inFlight.get? id = some entry)
    (away : entry.isAt node = false) : Untouched node d (d.remove id).1 := by
  obtain ⟨hsent, hwaits⟩ := Bool.or_eq_false_iff.mp away
  refine ⟨?_, ?_, ?_⟩
  · intro other kept hkept
    rw [remove_inFlight]
    by_cases hother : other = id
    · subst hother
      rw [Assoc.get?_erase_self, found]
      refine ⟨by simp, ?_⟩
      rintro ⟨⟩
      rw [away] at hkept
      cases hkept
    · rw [Assoc.get?_erase_of_ne _ hother]
  · rw [remove_sentPerNode node found, hsent]
    rfl
  · obtain ⟨command, stage⟩ := entry
    simp only [Dispatcher.remove, found]
    cases stage with
    | waiting other partition =>
        have hne : node ≠ other := by
          rintro rfl
          simp [Entry.waitsFor] at hwaits
        simp only [leaveQueue]
        split
        · rfl
        · exact Assoc.get?_put_of_ne _ _ hne
    | sent | awaitingTopology | backoff => rfl

/-- A command that is going elsewhere may be put away under a free number. -/
theorem insert {id : Nat} {entry : Entry} (free : d.inFlight.get? id = none)
    (away : entry.isAt node = false) : Untouched node d (d.insert id entry) := by
  obtain ⟨hsent, hwaits⟩ := Bool.or_eq_false_iff.mp away
  refine ⟨?_, ?_, ?_⟩
  · intro other kept hkept
    rw [insert_inFlight]
    by_cases hother : other = id
    · subst hother
      rw [Assoc.get?_put_self, free]
      refine ⟨?_, by simp⟩
      rintro ⟨⟩
      rw [away] at hkept
      cases hkept
    · rw [Assoc.get?_put_of_ne _ _ hother]
  · rw [insert_sentPerNode, hsent]
    rfl
  · obtain ⟨command, stage⟩ := entry
    cases stage with
    | waiting other partition =>
        have hne : node ≠ other := by
          rintro rfl
          simp [Entry.waitsFor] at hwaits
        exact Assoc.get?_put_of_ne _ _ hne
    | sent | awaitingTopology | backoff => rfl

end Untouched

theorem requestRefresh_untouched (node : NodeId) (d : Dispatcher) :
    Untouched node d d.requestRefresh := by
  unfold requestRefresh
  split
  · exact .refl node d
  · exact .of_eq rfl rfl rfl

/-! ## Where attempts end -/

/-- What becomes of a command whose attempt has ended concerns no node. -/
theorem Handling.untouched {s t : Dispatcher × Hand} (h : Handling m cause s t)
    (hs : Numbered s.1 s.2) (hheld : ∀ command, s.2 ≠ .held command) :
    Untouched node s.1 t.1 ∧ t.1.waitingTotal = s.1.waitingTotal ∧
      ∀ command, t.2 ≠ .held command := by
  cases h with
  | locate | miss | renumberUnused | start | wait => exact absurd rfl (hheld _)
  | charge | advance | renumber | disconnect | settle =>
      exact ⟨.of_eq rfl rfl rfl, rfl, by simp⟩
  | @park _ d command =>
      have hfree := (hs.in_hand command.id rfl).2.1
      have hinsert : Untouched node { d with parked := d.parked ++ [command.id] }
          ({ d with parked := d.parked ++ [command.id] }.insert command.id
            ⟨command, .awaitingTopology⟩) := .insert hfree rfl
      refine ⟨?_, ?_, by simp⟩
      · have hparked : Untouched node d { d with parked := d.parked ++ [command.id] } :=
          .of_eq rfl rfl rfl
        exact (hparked.trans hinsert).trans (requestRefresh_untouched node _)
      · unfold requestRefresh
        split <;> rfl
  | @pause _ d command resume =>
      have hfree : (d.arm resume command.id).inFlight.get? command.id = none :=
        (hs.in_hand command.id rfl).2.1
      have harmed : Untouched node d (d.arm resume command.id) := .of_eq rfl rfl rfl
      have hinsert : Untouched node (d.arm resume command.id)
          ((d.arm resume command.id).insert command.id ⟨command, .backoff resume⟩) :=
        .insert hfree rfl
      exact ⟨harmed.trans hinsert, rfl, by simp⟩

/-- An input that only ends attempts, and none at a node. -/
structure Avoids (node : NodeId) (d : Dispatcher) (input : Input) : Prop where
  ends : input ≠ .accept ∧ input ≠ .timers ∧ (∀ result, input ≠ .task (.refreshed result)) ∧
    input ≠ .shutdown
  noted : ∀ id entry, d.inFlight.get? id = some entry → entry.isSentTo node = true →
    markEntry input id entry = entry
  away : ∀ id entry, d.inFlight.get? id = some entry → entry.isSentTo node = true →
    ¬Ends (some input) id entry

theorem Avoids.mark (h : Avoids node d input) : Untouched node d (d.mark input) := by
  have hsame : ∀ id entry, d.inFlight.get? id = some entry → entry.isAt node = true →
      markEntry input id entry = entry := by
    rintro id ⟨command, stage⟩ hentry hat
    cases stage with
    | sent => exact h.noted id _ hentry (by simpa [Entry.isAt, Entry.waitsFor] using hat)
    | waiting | awaitingTopology | backoff => rfl
  refine ⟨?_, rfl, rfl⟩
  intro id entry hat
  rw [mark_get?, Option.map_eq_some_iff]
  constructor
  · rintro ⟨old, hold, rfl⟩
    have holdAt : old.isAt node = true := by
      rwa [Entry.isAt, markEntry_isSentTo, markEntry_waitsFor] at hat
    rw [hsame id old hold holdAt]
    exact hold
  · intro hentry
    exact ⟨entry, hentry, hsame id entry hentry hat⟩

/-- Ending attempts leaves every node alone at which none ends. -/
theorem Avoids.act (h : Avoids node d input) (hd : Numbered d .empty) :
    Untouched node d (d.act m input) ∧ (d.act m input).waitingTotal = d.waitingTotal := by
  obtain ⟨haccept, htimers, hrefreshed, hshutdown⟩ := h.ends
  have hkept := Moves.induct (m := m) (act_moves hd hshutdown)
    (P := fun s => Numbered s.1 s.2 ∧ Untouched node d s.1 ∧
      s.1.waitingTotal = d.waitingTotal ∧ ∀ command, s.2 ≠ .held command)
    ?_ ⟨mark_numbered hd input, h.mark, rfl, by simp⟩
  · exact ⟨hkept.2.1, hkept.2.2.1⟩
  · rintro s t hmove ⟨hs, huntouched, htotal, hheld⟩
    refine ⟨hmove.numbered hs, ?_⟩
    cases hmove with
    | handle handling =>
        obtain ⟨hhere, hsame, hheld⟩ : Untouched node _ _ ∧ _ := handling.untouched hs hheld
        exact ⟨huntouched.trans hhere, hsame.trans htotal, hheld⟩
    | @retire _ d₁ id command other partition carrier closed under ends =>
        refine ⟨huntouched.trans (.remove under ?_), ?_, by simp⟩
        · by_contra hat
          rw [Bool.not_eq_false] at hat
          have hsent :
              Entry.isSentTo node ⟨command, .sent other partition carrier closed⟩ = true := by
            simpa [Entry.isAt, Entry.waitsFor] using hat
          exact h.away id _ ((huntouched.entries id _ hat).mp under) hsent ends
        · rw [remove_waitingTotal under]
          exact htotal
    | draw => exact absurd rfl haccept
    | expire | resume | tick => exact absurd rfl htimers
    | unpark | collect => exact absurd rfl (hrefreshed _)

/-! ## Where there is room -/

/-- A node whose commands are sent off leaves the others alone. -/
theorem promoteNode_untouched {other : NodeId} (hother : node ≠ other) (fuel : Nat)
    (d : Dispatcher) (hd : Numbered d .empty) (hb : Booked m.config d) :
    Untouched node d (d.promoteNode m other fuel) := by
  induction fuel generalizing d with
  | zero => exact .refl node d
  | succ fuel ih =>
      rcases promoteNode_cases m other fuel d with ⟨-, h⟩ | ⟨-, h⟩ |
        ⟨hroom, id, rest, hqueue, ⟨command, named, partition, hentry, h⟩ | ⟨hgone, h⟩⟩
      · rw [h]
        exact .refl node d
      · rw [h]
        exact .refl node d
      · rw [h]
        have hmoves := promoted_moves (m := m) hqueue hroom hentry
        refine Untouched.trans ?_ (ih _ (hmoves.numbered hd) (hmoves.booked hd hb))
        have hput : Untouched node d { d with waiting := d.waiting.put other rest } :=
          .of_eq rfl rfl (Assoc.get?_put_of_ne _ _ hother)
        have hnamed : named = other := by
          obtain ⟨found, hfound, hwaits⟩ := (hb.listed other id).mp (by simp [hqueue])
          obtain rfl := Option.some.inj (hentry.symm.trans hfound)
          simpa [Entry.waitsFor] using hwaits
        have haway : Entry.isAt node ⟨command, .waiting named partition⟩ = false := by
          simp [Entry.isAt, Entry.isSentTo, Entry.waitsFor, hnamed, hother.symm]
        have hremoved : Untouched node d
            ({ d with waiting := d.waiting.put other rest }.remove id).1 :=
          hput.trans (.remove hentry haway)
        refine hremoved.trans ?_
        have hnumber : command.id = id := hd.keyed id _ hentry
        unfold dispatch
        split
        · exact .of_eq rfl rfl rfl
        · have hfree : ({ d with waiting := d.waiting.put other rest }.remove id).1.inFlight.get?
              command.id = none := by
            rw [remove_inFlight, hnumber]
            exact Assoc.get?_erase_self _ _
          have hsent : Entry.isAt node ⟨command, .sent other partition none []⟩ = false := by
            simp [Entry.isAt, Entry.isSentTo, Entry.waitsFor, hother.symm]
          exact (Untouched.insert hfree hsent).trans (.of_eq rfl rfl rfl)
      · rw [h]
        have hput : Untouched node d { d with waiting := d.waiting.put other rest } :=
          .of_eq rfl rfl (Assoc.get?_put_of_ne _ _ hother)
        have hskip : Moves m none (d, .empty)
            ({ d with waiting := d.waiting.put other rest }, .empty) :=
          .single (.skip hqueue hgone)
        exact hput.trans (ih _ (hskip.numbered hd) (hskip.booked hd hb))

theorem promoteNodes_untouched (nodes : List NodeId) (hnodes : node ∉ nodes) (d : Dispatcher)
    (hd : Numbered d .empty) (hb : Booked m.config d) :
    Untouched node d
      (nodes.foldl (fun d node => d.promoteNode m node (d.waitingFor node).length) d) := by
  induction nodes generalizing d with
  | nil => exact .refl node d
  | cons other nodes ih =>
      obtain ⟨hother, hnodes⟩ := not_or.mp (mt List.mem_cons.mpr hnodes)
      have hmoves := promoteNode_moves (m := m) other (d.waitingFor other).length d
      exact (promoteNode_untouched hother _ d hd hb).trans
        (ih hnodes _ (hmoves.numbered hd) (hmoves.booked hd hb))

/-- A queue with commands in it stays as it is if its node has no room. -/
theorem promoteWaiting_untouched (hd : Numbered d .empty) (hb : Booked m.config d)
    (hfull : d.waitingTotal ≠ 0 → ∀ queue, d.waiting.get? node = some queue →
      queue ≠ [] ∧ d.hasCapacity m node = false) :
    Untouched node d (d.promoteWaiting m) := by
  unfold promoteWaiting
  split
  · exact .refl node d
  · next hsome =>
      have hfull := hfull hsome
      simp only
      generalize hready :
        (d.waiting.filter fun e => !e.2.isEmpty && d.hasCapacity m e.1).map (·.1) = ready
      have hnode : node ∉ ready := by
        rw [← hready]
        rintro hmem
        obtain ⟨⟨_, queue⟩, he, rfl⟩ := List.mem_map.mp hmem
        obtain ⟨hqueued, hroom⟩ := List.mem_filter.mp he
        have hno := (hfull queue (Assoc.get?_of_mem hd.queues hqueued)).2
        simp [hno] at hroom
      have hnodes := promoteNodes_untouched ready hnode d hd hb
      have hmoves := promoteNodes_moves (m := m) ready d
      refine hnodes.trans (.of_eq rfl rfl ?_)
      simp only
      rw [Assoc.get?_filter (hmoves.numbered hd).queues, hnodes.waiting]
      cases hqueue : d.waiting.get? node with
      | none => rfl
      | some queue => simp [(hfull queue hqueue).1]

/-- A turn that ends attempts, but none at a node, leaves the node alone. -/
theorem turn_untouched (h : Avoids node d input) (hd : Numbered d .empty)
    (hb : Booked m.config d) (hsettled : Settled m.config d) :
    Untouched node d (d.turn m input) := by
  obtain ⟨-, -, -, hshutdown⟩ := h.ends
  obtain ⟨hact, htotal⟩ := h.act (m := m) hd
  have hmoves := act_moves (m := m) hd hshutdown
  have hmark := mark_numbered hd input
  rw [turn_eq d hshutdown]
  refine hact.trans (promoteWaiting_untouched (hmoves.numbered hmark)
    (hmoves.booked hmark (mark_booked hb input)) ?_)
  intro hsome queue hqueue
  rw [htotal] at hsome
  rw [hact.waiting] at hqueue
  obtain ⟨hqueued, hfull⟩ := hsettled.resolve_left hsome _ (Assoc.mem_of_get? hqueue)
  refine ⟨hqueued, ?_⟩
  simp only [hasCapacity, sentTo, hact.sent, decide_eq_false_iff_not, Nat.not_lt]
  exact hfull

end Dispatcher

namespace Run

open Dispatcher

/-! ## Whole runs -/

/-- An input comes from a node: one of its connections reports it, or the task that was to send it
the request of an attempt. An answer does not bear the number of an attempt under way elsewhere. -/
inductive From (r : Run) (node : NodeId) : Input → Prop where
  | answered {response}
      (own : ∀ entry, r.dispatcher.inFlight.get? response.opaqueId.toNat = some entry →
        entry.isSent = true → entry.isSentTo node = true) :
      From r node (.node (.response node response))
  | closed {generation reason} : From r node (.node (.closed node generation reason))
  | sent {id generation request deadline}
      (attempt : .attempt id node request deadline ∈ r.journal) :
      From r node (.task (.sent id generation))
  | unsent {id reported generation error request deadline}
      (attempt : .attempt id node request deadline ∈ r.journal) :
      From r node (.task (.sendFailed id reported generation error))
  | abandoned {id request deadline} (attempt : .attempt id node request deadline ∈ r.journal) :
      From r node (.task (.abandoned id))

variable {config : Config} {events : List Event} {node sender : NodeId} {input : Input}

/-- The entry under the number of an attempt to one node is not sent to another. -/
theorem not_sentTo_other {id : Nat} {request : Request} {deadline : Instant} {entry : Entry}
    (hother : node ≠ sender)
    (hattempt : .attempt id sender request deadline ∈ (of config events).journal)
    (hentry : (of config events).dispatcher.inFlight.get? id = some entry) :
    entry.isSentTo node = false := by
  obtain ⟨-, partition, carrier, closed, hstage⟩ := attempt_entry config events hattempt hentry
  simp [Entry.isSentTo, hstage, hother.symm]

theorem From.avoids (h : From (of config events) sender input) (hother : node ≠ sender) :
    Avoids node (of config events).dispatcher input := by
  have hnote : ∀ id entry, (∀ other partition carrier closed,
      entry.stage = .sent other partition carrier closed →
        heard input id other carrier closed = (carrier, closed)) →
      markEntry input id entry = entry := by
    rintro id ⟨command, stage⟩ hheard
    cases stage with
    | sent other partition carrier closed => simp only [markEntry, hheard _ _ _ _ rfl]
    | waiting | awaitingTopology | backoff => rfl
  cases h with
  | @answered response own =>
      refine ⟨⟨by simp, by simp, by simp, by simp⟩, fun id entry _ _ => hnote id entry
        fun _ _ _ _ _ => rfl, ?_⟩
      rintro id ⟨command, stage⟩ hentry hsent ⟨⟩
      cases stage with
      | sent other partition carrier closed =>
          have hsender := own _ hentry rfl
          simp only [Entry.isSentTo, decide_eq_true_eq] at hsent hsender
          exact hother (hsent.symm.trans hsender)
      | waiting | awaitingTopology | backoff => cases hsent
  | @closed generation reason =>
      refine ⟨⟨by simp, by simp, by simp, by simp⟩, ?_, ?_⟩
      · rintro id entry - hsent
        refine hnote id entry ?_
        intro other partition carrier closed hstage
        obtain rfl : other = node := by simpa [Entry.isSentTo, hstage] using hsent
        simp [heard, hother]
      · rintro id ⟨command, stage⟩ hentry hsent hends
        cases hends with
        | closed carried =>
            cases stage with
            | sent other partition carrier closed =>
                obtain rfl : other = node := by simpa [Entry.isSentTo] using hsent
                cases carrier <;> simp [carriedBy, hother] at carried
            | waiting | awaitingTopology | backoff => cases hsent
  | @sent id generation request deadline attempt =>
      refine ⟨⟨by simp, by simp, by simp, by simp⟩, ?_, ?_⟩
      · rintro other entry hentry hsent
        refine hnote other entry ?_
        intro named partition carrier closed hstage
        have hne : id ≠ other := by
          rintro rfl
          rw [not_sentTo_other hother attempt hentry] at hsent
          cases hsent
        simp [heard, hne]
      · rintro other entry hentry hsent hends
        cases hends
        rw [not_sentTo_other hother attempt hentry] at hsent
        cases hsent
  | unsent attempt | abandoned attempt =>
      refine ⟨⟨by simp, by simp, by simp, by simp⟩, fun id entry _ _ => hnote id entry
        fun _ _ _ _ _ => rfl, ?_⟩
      rintro other entry hentry hsent hends
      cases hends
      rw [not_sentTo_other hother attempt hentry] at hsent
      cases hsent

/-- What comes from one node leaves all that is at another alone. -/
theorem others_untouched (config : Config) (events : List Event) {sender node : NodeId}
    {input : Input} (hother : node ≠ sender) (hfrom : From (of config events) sender input)
    (now : Instant) (table : Topology) :
    Untouched node (of config events).dispatcher
      (of config (events ++ [.turn now table input])).dispatcher := by
  rw [of_concat]
  cases hstopped : (of config events).dispatcher.stopped with
  | true =>
      have hsame : (of config events).step config (.turn now table input) = of config events := by
        simp [step, hstopped]
      rw [hsame]
      exact .refl node _
  | false =>
      have h := sound config events
      have hturn := turn_untouched (m := ⟨config, now, table⟩) (hfrom.avoids hother) h.numbered
        (booked config events) (settled config events)
      rw [step_turn hstopped]
      exact hturn.trans (.of_eq rfl rfl rfl)

/-- Two nodes with room for one command each, and two commands for each of them. -/
def rivals : List Event :=
  [.submit (.get [1]) (.node ⟨"b:1"⟩) (.ofMillis 100) 0,
    .submit (.get [2]) (.node ⟨"b:1"⟩) (.ofMillis 100) 0,
    .submit (.get [3]) (.node ⟨"a:1"⟩) (.ofMillis 100) 0,
    .submit (.get [4]) (.node ⟨"a:1"⟩) (.ofMillis 100) 0, .turn 0 .empty .accept,
    .turn 0 .empty .accept, .turn 0 .empty .accept, .turn 0 .empty .accept]

def narrow : Config := { maxInFlightPerNode := 1 }

/-- The answer of one node makes room there, and the other goes on as before. -/
theorem rivals_untouched :
    From (of narrow rivals) ⟨"a:1"⟩ (.node (.response ⟨"a:1"⟩ (.success 3 5))) ∧
      (of narrow rivals).dispatcher.waitingFor ⟨"b:1"⟩ = [2] ∧
      Untouched ⟨"b:1"⟩ (of narrow rivals).dispatcher
        (of narrow (rivals ++
          [.turn 0 .empty (.node (.response ⟨"a:1"⟩ (.success 3 5)))])).dispatcher := by
  have hfrom : From (of narrow rivals) ⟨"a:1"⟩ (.node (.response ⟨"a:1"⟩ (.success 3 5))) := by
    refine .answered ?_
    intro entry hentry hsent
    obtain rfl := Option.some.inj hentry
    rfl
  exact ⟨hfrom, by decide +kernel,
    others_untouched narrow rivals (by decide) hfrom 0 .empty⟩

/-- An answer that bears the number of an attempt at another node ends that attempt. -/
theorem rivals_mistaken :
    (of narrow (rivals ++
      [.turn 0 .empty (.node (.response ⟨"a:1"⟩ (.success 1 7)))])).resolved 0 =
        [.ok ((Operation.get [1]).reply (.success 1 7))] ∧
    ¬Untouched ⟨"b:1"⟩ (of narrow rivals).dispatcher
      (of narrow (rivals ++
        [.turn 0 .empty (.node (.response ⟨"a:1"⟩ (.success 1 7)))])).dispatcher := by
  refine ⟨rfl, ?_⟩
  intro huntouched
  obtain ⟨entry, hentry, hat⟩ : ∃ entry,
      (of narrow rivals).dispatcher.inFlight.get? 1 = some entry ∧ entry.isAt ⟨"b:1"⟩ = true :=
    ⟨_, rfl, rfl⟩
  have hstays := (huntouched.entries 1 entry hat).mpr hentry
  have hgone : (of narrow (rivals ++
      [.turn 0 .empty (.node (.response ⟨"a:1"⟩ (.success 1 7)))])).dispatcher.inFlight.get? 1 =
        none := rfl
  rw [hgone] at hstays
  cases hstays

end Run

end ClusterKv

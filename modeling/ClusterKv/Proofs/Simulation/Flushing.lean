import ClusterKv.Proofs.Dispatcher.Directions
import ClusterKv.Proofs.Dispatcher.Responses
import ClusterKv.Proofs.Simulation.Chores
import ClusterKv.Proofs.Simulation.Serial
import ClusterKv.Proofs.Store.Atomicity

/-! # A flush on its way

A flush submits a command for each node of the table. Whatever becomes of such a command, it is only
ever sent to its node. The node has dropped its items by the time it answers, and as long as there
is nothing else to do for the client, they do not come back. -/

namespace ClusterKv

/-! ## Nodes without items -/

theorem Store.size_flush (store : Store) : store.flush.size = 0 := by
  have hall : ∀ (partitions : Assoc UInt16 PartitionData) (count : Nat),
      (partitions.map fun e => (e.1, ([] : PartitionData))).foldl
        (fun count e => count + e.2.length) count = count := by
    intro partitions
    induction partitions with
    | nil => exact fun _ => rfl
    | cons e rest ih => exact fun count => ih count
  exact hall store.partitions 0

namespace Cluster

variable {nodes : List Node} {id other : NodeId} {request : Request}

/-- No node of this name keeps an item. -/
def Emptied (nodes : List Node) (id : NodeId) : Prop :=
  ∀ node ∈ nodes, node.id = id → node.store.size = 0

theorem size_executed (hflush : request.operation = .flushAll) (node : Node) (now : Instant) :
    (node.execute request now).1.store.size = 0 := by
  rw [Node.execute, Store.execute_flush (Store.key?_eq_none_iff.mpr hflush)]
  exact node.store.size_flush

/-- No node gets items by being told to drop them. -/
theorem Emptied.executeOn (h : Emptied nodes other) (hflush : request.operation = .flushAll)
    (now : Instant) : Emptied (executeOn id request now nodes).1 other := by
  rcases executeOn_cases id request now nodes with ⟨-, hsame⟩ | ⟨place, node, -, -, hsame⟩
  · rw [hsame]
    exact h
  · intro found hfound hid
    rw [hsame] at hfound
    rcases List.mem_or_eq_of_mem_set hfound with hold | rfl
    · exact h found hold hid
    · exact size_executed hflush node now

/-- A node has dropped its items once it was told to. -/
theorem executeOn_emptied (distinct : (nodes.map (·.id)).Nodup)
    (hflush : request.operation = .flushAll) (now : Instant) :
    Emptied (executeOn id request now nodes).1 id := by
  induction nodes with
  | nil => exact fun _ hnode => absurd hnode (by simp [executeOn])
  | cons node rest ih =>
      obtain ⟨hothers, hrest⟩ := List.nodup_cons.mp distinct
      unfold executeOn
      split
      · next hid =>
        refine List.forall_mem_cons.mpr ⟨fun _ => size_executed hflush node now, ?_⟩
        rintro found hfound hsame
        have hname : node.id = found.id := hid.trans hsame.symm
        exact absurd (List.mem_map.mpr ⟨found, hfound, hname.symm⟩) hothers
      · next hid => exact List.forall_mem_cons.mpr ⟨fun hsame => absurd hsame hid, ih hrest⟩

end Cluster

/-! ## The commands of a flush -/

/-- A flush: the number of the call, its first ticket, the nodes of the table in their order, and
when and with which timeout it started. -/
structure Flush where
  number : Nat
  base : Nat
  nodes : List NodeId
  timeout : Duration
  start : Instant

namespace Flush

open Dispatcher (Bears Booked Directed)
open World

variable {f : Flush} {w w' : World Cluster} {id place : Nat} {node : NodeId} {request : Request}

/-- The flush that is called for in a world. -/
def of (w : World Cluster) (number : Nat) : Flush where
  number := number
  base := w.nextTicket
  nodes := w.refresher.current.nodes
  timeout := w.config.operationTimeout
  start := w.now

/-- The submission for a node. -/
def draft (f : Flush) (node : NodeId) : Draft where
  operation := .flushAll
  target := .node node
  timeout := f.timeout
  created := some f.start

/-- The command for the node at a place of the table. -/
def command (f : Flush) (place : Nat) (node : NodeId) : Command :=
  .create (f.base + place) .flushAll (.node node) f.timeout f.start

/-- A command is the one for the node at a place, after however many attempts. -/
structure Tells (f : Flush) (place : Nat) (node : NodeId) (c : Command) : Prop where
  listed : f.nodes[place]? = some node
  same : (f.command place node).Continues c

namespace Tells

variable {c : Command}

theorem target (h : f.Tells place node c) : c.target = .node node := h.same.target

theorem operation (h : f.Tells place node c) : c.operation = .flushAll := h.same.operation

theorem ticket (h : f.Tells place node c) : c.ticket = f.base + place := h.same.ticket

theorem continues {origin : Command}
    (h : ∃ place node, f.Tells place node origin) (hsame : origin.Continues c) :
    ∃ place node, f.Tells place node c := by
  obtain ⟨place, node, hlisted, horigin⟩ := h
  exact ⟨place, node, hlisted, horigin.trans hsame⟩

end Tells

/-! ## Submitting them -/

/-- So many commands of a flush have been submitted, those for the first nodes, and none but these
are without a result. -/
structure Begun (f : Flush) (submitted : Nat) (w : World Cluster) : Prop where
  counted : submitted ≤ f.nodes.length
  tickets : w.nextTicket = f.base + submitted
  blocked : ∀ e ∈ w.blocked, e.1 = f.number
  commands : w.front.Everyone fun c => ∃ place node, f.Tells place node c

/-- And the call has the tickets, and the other submissions to come. -/
structure Progress (f : Flush) (submitted : Nat) (w : World Cluster) : Prop
    extends Begun f submitted w where
  recorded : ∃ call, w.calls.get? f.number = some call ∧
    call.tickets = List.range' f.base submitted ∧
    call.drafts = (f.nodes.drop submitted).map f.draft

theorem Progress.turn {submitted : Nat} (h : f.Progress submitted w) (hu : Undisturbed w)
    (input : Dispatcher.Input) : f.Progress submitted (w.turn input) := by
  have hfront := front_turn w input
  have hcalls : (w.turn input).calls = w.calls := congrArg Front.calls hfront
  have htickets : (w.turn input).nextTicket = w.nextTicket := congrArg Front.nextTicket hfront
  have hblocked : (w.turn input).blocked = w.blocked := congrArg Front.blocked hfront
  refine ⟨⟨h.counted, htickets.trans h.tickets, hblocked ▸ h.blocked, ?_⟩, hcalls ▸ h.recorded⟩
  rw [hfront]
  exact h.commands.turn (fun _ _ hsame htells => Tells.continues htells hsame) hu.numbered _ _

/-- The next drafts are submitted, in the order of the nodes. -/
theorem Begun.submit {submitted : Nat} (h : f.Begun submitted w) {call : Call}
    (htickets : call.tickets = List.range' f.base submitted)
    (running : w.dispatcher.stopped = false) :
    ∃ more, f.Progress (submitted + more)
        (submitDrafts f.number ((f.nodes.drop submitted).map f.draft) call w) ∧
      (submitDrafts f.number ((f.nodes.drop submitted).map f.draft) call w).results =
        w.results := by
  have hgood : ∀ draft ∈ (f.nodes.drop submitted).map f.draft,
      hasBadKey draft.operation = false := by
    intro draft hdraft
    obtain ⟨node, -, rfl⟩ := List.mem_map.mp hdraft
    rfl
  obtain ⟨more, hmore⟩ := submitDrafts_submits f.number _ call w running hgood
  have hcounted := hmore.counted
  rw [List.length_map, List.length_drop] at hcounted
  have hfirst := h.counted
  obtain ⟨after, hcalls, hafter, hdrafts⟩ := hmore.recorded
  refine ⟨more, ⟨⟨by omega, ?_, ?_, ?_⟩, after, ?_, ?_, ?_⟩, hmore.results⟩
  · rw [hmore.tickets, h.tickets, Nat.add_assoc]
  · intro e he
    exact (hmore.blocked e he).elim (h.blocked e) id
  · refine .of_all fun c hc => ?_
    rcases hmore.commands c hc with hold | ⟨place, draft, hdraft, rfl⟩
    · exact h.commands.holds hold
    · rw [List.getElem?_map, List.getElem?_drop] at hdraft
      obtain ⟨node, hnode, rfl⟩ := Option.map_eq_some_iff.mp hdraft
      refine ⟨submitted + place, node, hnode, ?_⟩
      rw [h.tickets, Nat.add_assoc]
      exact ⟨rfl, rfl, rfl, rfl, rfl⟩
  · rw [hcalls, Assoc.get?_put_self]
  · rw [hafter, htickets, h.tickets, List.range'_append_1]
  · rw [hdrafts, ← List.map_drop, List.drop_drop]

/-- Whoever follows a command that was accepted was blocked before, and its call goes on. -/
theorem Progress.unblock {submitted : Nat} (h : f.Progress submitted w)
    (running : w.dispatcher.stopped = false) :
    (∃ submitted, f.Progress submitted w.unblock) ∧ w.unblock.results = w.results := by
  unfold World.unblock
  split
  · exact ⟨⟨submitted, h⟩, rfl⟩
  next number command blocked hblocked =>
  split
  · let admitted : World Cluster :=
      { w with
        blocked
        dispatcher := { w.dispatcher with inbound := w.dispatcher.inbound ++ [command] } }
    obtain ⟨rfl, hothers⟩ := List.forall_mem_cons.mp (hblocked ▸ h.blocked)
    obtain ⟨call, hcall, htickets, hdrafts⟩ := h.recorded
    have hadmitted : f.Begun submitted admitted := by
      refine ⟨h.counted, h.tickets, hothers, ?_⟩
      refine .of_all fun c hc => h.commands.holds ?_
      cases hc with
      | underWay found same => exact .underWay found same
      | queued waits =>
          rcases List.mem_append.mp waits with waits | hfirst
          · exact .queued waits
          · have hhead : (f.number, c) ∈ w.blocked := by
              rw [hblocked, List.mem_singleton.mp hfirst]
              exact List.mem_cons_self
            exact .blocked hhead
      | blocked waits => exact .blocked (hblocked ▸ List.mem_cons_of_mem _ waits)
    let resumed : Call := { call with acceptedAt := w.now }
    have hresumed : admitted.resumeCall f.number =
        submitDrafts f.number ((f.nodes.drop submitted).map f.draft) resumed admitted := by
      rw [← hdrafts]
      unfold resumeCall
      rw [show admitted.calls.get? f.number = some call from hcall]
    have htickets : resumed.tickets = List.range' f.base submitted := htickets
    obtain ⟨more, hmore, hresults⟩ := hadmitted.submit htickets running
    change (∃ submitted, f.Progress submitted (admitted.resumeCall f.number)) ∧
      (admitted.resumeCall f.number).results = w.results
    rw [hresumed]
    exact ⟨⟨_, hmore⟩, hresults⟩
  · exact ⟨⟨submitted, h⟩, rfl⟩

/-! ## Sending them -/

/-- A command of a flush was just sent on its way under a number, to the node that it is for. -/
def Sends (f : Flush) (d : Dispatcher) (id : Nat) (node : NodeId) (request : Request) : Prop :=
  ∃ command partition place,
    d.inFlight.get? id = some ⟨command, .sent node partition none []⟩ ∧
      f.Tells place node command ∧ request = ⟨id.toUInt64, partition, .flushAll⟩

/-- Nothing is under way under a number but the command for a node. -/
def Concerns (f : Flush) (d : Dispatcher) (id : Nat) (node : NodeId) : Prop :=
  ∃ place, f.nodes[place]? = some node ∧ Bears id (f.base + place) (d, .empty)

/-- A node was told by a command under way to drop its items, has dropped them, and answers. -/
def Answered (f : Flush) (w : World Cluster) (node : NodeId) (response : Response) : Prop :=
  ∃ id, response.opaqueId = id.toUInt64 ∧ f.Concerns w.dispatcher id node ∧
    Cluster.Emptied w.network.nodes node

section Turn

variable {input : Dispatcher.Input}

theorem Concerns.turn (h : f.Concerns w.dispatcher id node) (hu : Undisturbed w)
    (hinput : input ≠ .shutdown) : f.Concerns (w.turn input).dispatcher id node := by
  obtain ⟨place, hplace, hbears⟩ := h
  rw [turn_dispatcher]
  exact ⟨place, hplace, Dispatcher.turn_bears hu.numbered hinput hbears⟩

theorem Sends.flushes {d : Dispatcher} (h : f.Sends d id node request) :
    request.opaqueId = id.toUInt64 ∧ request.operation = .flushAll := by
  obtain ⟨-, -, -, -, -, rfl⟩ := h
  exact ⟨rfl, rfl⟩

theorem Sends.concerns {d : Dispatcher} (h : f.Sends d id node request) (hn : d.Numbered .empty) :
    f.Concerns d id node := by
  obtain ⟨command, partition, place, hentry, htells, -⟩ := h
  refine ⟨place, htells.listed, ⟨hn.issued id _ hentry, by simp [Dispatcher.Hand.number?]⟩, ?_⟩
  intro entry hfound
  obtain rfl := Option.some.inj (hentry.symm.trans hfound)
  exact ⟨rfl, htells.ticket⟩

/-- What a turn sends is a command of the flush, and goes to the node that it is for. -/
theorem Progress.sends {submitted : Nat} (hp : f.Progress submitted w) (hu : Undisturbed w)
    (hb : Booked w.config w.dispatcher) (hd : Directed w.dispatcher)
    (hinput : input ≠ .shutdown) {attempt : Attempt}
    (hnew : .attempt id attempt.node attempt.request attempt.deadline ∈
      (w.dispatcher.turn w.moment input).outbox) :
    f.Sends (w.turn input).dispatcher id attempt.node attempt.request := by
  obtain ⟨command, partition, hentry, hrequest, -, -⟩ :=
    Dispatcher.turn_begun hu.numbered hu.done input hnew
  have hdirected := Dispatcher.turn_directed (m := w.moment) hu.numbered hb hd hinput
  obtain ⟨place, node, htells⟩ : ∃ place node, f.Tells place node command := by
    refine (hp.turn hu input).commands.everywhere.underWay id
      ⟨command, .sent attempt.node partition none []⟩ ?_
    rw [front_turn]
    exact hentry
  obtain rfl : attempt.node = node := (hdirected id _ hentry).of_sent htells.target
  rw [htells.operation] at hrequest
  refine ⟨command, partition, place, ?_, htells, hrequest⟩
  rw [turn_dispatcher]
  exact hentry

/-- A success is told of when a node has answered, and by then the node has dropped its items. -/
theorem emptied_of_success (hu : Undisturbed w) (lasting : w.dispatcher.nextId ≤ UInt64.size)
    (hanswer : ∀ node response, input = .node (.response node response) →
      f.Answered w node response)
    (hplace : f.nodes[place]? = some node) {reply : Reply}
    (hnew : .resolve (f.base + place) (.ok reply) ∈
      (w.dispatcher.turn w.moment input).outbox) : Cluster.Emptied w.network.nodes node := by
  rcases Dispatcher.turn_success hu.numbered input hnew with hearlier |
    ⟨sender, response, command, other, partition, carrier, closed, hheard, hentry, -, hticket, -⟩
  · rw [hu.done] at hearlier
    cases hearlier
  · obtain ⟨id, hid, ⟨place', hplace', hbears⟩, hemptied⟩ := hanswer sender response hheard
    have hissued : id < w.dispatcher.nextId := hbears.1.1
    have hnumber : response.opaqueId.toNat = id := by
      rw [hid]
      exact Nat.mod_eq_of_lt (Nat.lt_of_lt_of_le hissued lasting)
    rw [hnumber] at hentry
    obtain ⟨-, hsame⟩ := hbears.2 _ hentry
    obtain rfl : place = place' := Nat.add_left_cancel (hticket.trans hsame)
    obtain rfl : node = sender := Option.some.inj (hplace.symm.trans hplace')
    exact hemptied

end Turn

/-- What goes to and fro between the client and the nodes. The attempts that were sent are kept
apart, and the log from before the flush. -/
structure Traffic (f : Flush) (sent : Nat → NodeId → Request → Prop) (log : List SentRecord)
    (w : World Cluster) : Prop where
  names : w.network.nodes.map (·.id) = f.nodes
  attempts : ∀ id attempt, w.attempts.get? id = some attempt →
    sent id attempt.node attempt.request ∧ attempt.request.opaqueId = id.toUInt64 ∧
      attempt.request.operation = .flushAll ∧ f.Concerns w.dispatcher id attempt.node
  answers : ∀ node response, .response node response ∈ w.nodeEvents → f.Answered w node response
  results : ∀ place node reply time, f.nodes[place]? = some node →
    w.results.get? (f.base + place) = some (.ok reply, time) →
      Cluster.Emptied w.network.nodes node
  sentLog : ∃ news, w.sentLog = news ++ log ∧
    ∀ record ∈ news, ∃ id, sent id record.node record.request

namespace Traffic

variable {sent sent' : Nat → NodeId → Request → Prop} {log : List SentRecord} {submitted : Nat}

theorem mono (h : f.Traffic sent log w)
    (hsent : ∀ id node request, sent id node request → sent' id node request) :
    f.Traffic sent' log w where
  names := h.names
  attempts id attempt hattempt := (h.attempts id attempt hattempt).imp_left (hsent _ _ _)
  answers := h.answers
  results := h.results
  sentLog := by
    obtain ⟨news, hlog, hnews⟩ := h.sentLog
    exact ⟨news, hlog, fun record hrecord => (hnews record hrecord).imp fun _ => hsent _ _ _⟩

/-- Where a turn leaves what goes to and fro, after the attempts it starts and the successes it
tells of. -/
theorem turn (h : f.Traffic sent log w) (hu : Undisturbed w) (hb : Booked w.config w.dispatcher)
    (hd : Directed w.dispatcher) (hp : f.Progress submitted w)
    (lasting : w.dispatcher.nextId ≤ UInt64.size) {input : Dispatcher.Input}
    (hinput : input ≠ .shutdown)
    (hanswer : ∀ node response, input = .node (.response node response) →
      f.Answered w node response)
    (hsent : ∀ id node request, f.Sends (w.turn input).dispatcher id node request →
      sent id node request) : f.Traffic sent log (w.turn input) := by
  have hcarried := turn_carried w hu.numbered hu.done hinput
  have hnetwork : (w.turn input).network = w.network := by
    obtain ⟨_, _, _, _, _, _, hsame⟩ := hcarried.besides
    rw [hsame]
    rfl
  have hlog : (w.turn input).sentLog = w.sentLog := by
    obtain ⟨_, _, _, _, _, _, hsame⟩ := hcarried.besides
    rw [hsame]
    rfl
  refine ⟨hnetwork ▸ h.names, ?_, ?_, ?_, hlog ▸ h.sentLog⟩
  · intro id attempt hattempt
    rcases hcarried.attempts id attempt hattempt with hold | ⟨hnew, -⟩
    · obtain ⟨hold, hid, hflush, hconcerns⟩ := h.attempts id attempt hold
      exact ⟨hold, hid, hflush, hconcerns.turn hu hinput⟩
    · have hsends := hp.sends hu hb hd hinput (List.mem_reverse.mp hnew)
      obtain ⟨hid, hflush⟩ := hsends.flushes
      exact ⟨hsent id _ _ hsends, hid, hflush, hsends.concerns (hu.turn hinput).numbered⟩
  · intro node response hresponse
    rcases hcarried.heard _ hresponse with hold | ⟨_, _, _, hclosed⟩
    · obtain ⟨id, hid, hold, hemptied⟩ := h.answers node response hold
      exact ⟨id, hid, hold.turn hu hinput, hnetwork ▸ hemptied⟩
    · cases hclosed
  · intro place node reply time hplace hresult
    rw [hnetwork]
    have hresults : (w.turn input).results = _ := congrArg Front.results (front_turn w input)
    rw [hresults] at hresult
    rcases get?_record hresult with hold | hnew
    · exact h.results place node reply time hplace hold
    · exact emptied_of_success hu lasting hanswer hplace (List.mem_reverse.mp hnew)

/-- A request is executed: the node drops its items and answers. -/
theorem delivered (h : f.Traffic sent log w) (distinct : f.nodes.Nodup) {attempt : Attempt}
    (hattempt : w.attempts.get? id = some attempt) (generation : Nat) :
    f.Traffic sent log (w.delivered id generation attempt) := by
  obtain ⟨hsent, hid, hflush, hconcerns⟩ := h.attempts id attempt hattempt
  have hnames := Cluster.map_id_of_badges
    (Cluster.executeOn_badges attempt.node attempt.request w.now w.network.nodes)
  refine ⟨hnames.trans h.names, ?_, ?_, ?_, ?_⟩
  · intro other given hgiven
    exact h.attempts other given (Assoc.get?_of_erase hgiven).2
  · intro node response hresponse
    rcases List.mem_append.mp hresponse with hold | hnew
    · obtain ⟨other, hother, hold, hemptied⟩ := h.answers node response hold
      exact ⟨other, hother, hold, hemptied.executeOn hflush w.now⟩
    · obtain ⟨rfl, rfl⟩ := NodeEvent.response.inj (List.mem_singleton.mp hnew)
      refine ⟨id, ?_, hconcerns, Cluster.executeOn_emptied (h.names ▸ distinct) hflush w.now⟩
      exact (Cluster.executeOn_opaqueId _ _ _ _).trans hid
  · intro place node reply time hplace hresult
    exact (h.results place node reply time hplace hresult).executeOn hflush w.now
  · obtain ⟨news, hlog, hnews⟩ := h.sentLog
    let record : SentRecord := ⟨w.now, attempt.node, generation, attempt.request⟩
    exact ⟨record :: news, congrArg (record :: ·) hlog,
      List.forall_mem_cons.mpr ⟨⟨id, hsent⟩, hnews⟩⟩

theorem undelivered (h : f.Traffic sent log w) (attempt : Attempt) (error : ConnectionError) :
    f.Traffic sent log (w.undelivered id attempt error) where
  names := h.names
  attempts other given hgiven := h.attempts other given (Assoc.get?_of_erase hgiven).2
  answers := h.answers
  results := h.results
  sentLog := h.sentLog

theorem unblock (h : f.Traffic sent log w) (hresults : w.unblock.results = w.results) :
    f.Traffic sent log w.unblock := by
  obtain ⟨nextTicket, calls, blocked, results, inbound, hsame⟩ := unblock_frame w
  rw [hsame] at hresults ⊢
  obtain rfl : results = w.results := hresults
  exact ⟨h.names, h.attempts, h.answers, h.results, h.sentLog⟩

end Traffic

/-! ## A client with nothing else to do -/

/-- A client does nothing but flush. -/
structure Underway (f : Flush) (sent : Nat → NodeId → Request → Prop) (log : List SentRecord)
    (w : World Cluster) : Prop where
  undisturbed : Undisturbed w
  booked : Booked w.config w.dispatcher
  directed : Directed w.dispatcher
  progress : ∃ submitted, f.Progress submitted w
  traffic : f.Traffic sent log w

namespace Underway

variable {sent sent' : Nat → NodeId → Request → Prop} {log : List SentRecord}

theorem mono (h : f.Underway sent log w)
    (hsent : ∀ id node request, sent id node request → sent' id node request) :
    f.Underway sent' log w :=
  ⟨h.undisturbed, h.booked, h.directed, h.progress, h.traffic.mono hsent⟩

/-- What the dispatcher takes a turn about is no longer to be heard. -/
theorem hear (h : f.Underway sent log w) (taskEvents : List TaskEvent)
    {nodeEvents : List NodeEvent} (hevents : ∀ event ∈ nodeEvents, event ∈ w.nodeEvents) :
    f.Underway sent log { w with taskEvents, nodeEvents } := by
  obtain ⟨submitted, hp⟩ := h.progress
  have ht := h.traffic
  exact ⟨h.undisturbed.hear taskEvents nodeEvents, h.booked, h.directed,
    ⟨submitted, ⟨hp.counted, hp.tickets, hp.blocked, hp.commands⟩, hp.recorded⟩,
    ht.names, ht.attempts, fun _ _ hresponse => ht.answers _ _ (hevents _ hresponse), ht.results,
    ht.sentLog⟩

theorem turn (h : f.Underway sent log w) (lasting : w.dispatcher.nextId ≤ UInt64.size)
    {input : Dispatcher.Input} (hinput : input ≠ .shutdown)
    (hanswer : ∀ node response, input = .node (.response node response) →
      f.Answered w node response)
    (hsent : ∀ id node request, f.Sends (w.turn input).dispatcher id node request →
      sent id node request) : f.Underway sent log (w.turn input) := by
  have hu := h.undisturbed
  obtain ⟨submitted, hp⟩ := h.progress
  have hconfig : (w.turn input).config = w.config := congrArg Front.config (front_turn w input)
  have hdispatcher := turn_dispatcher w input
  have hbooked := Dispatcher.turn_booked (m := w.moment) hu.numbered h.booked input
  have hdirected := Dispatcher.turn_directed (m := w.moment) hu.numbered h.booked h.directed hinput
  refine ⟨hu.turn hinput, ?_, ?_, ⟨submitted, hp.turn hu input⟩,
    h.traffic.turn hu h.booked h.directed hp lasting hinput hanswer hsent⟩
  · rw [hconfig, hdispatcher]
    exact hbooked.congr rfl rfl (fun _ => rfl) rfl
  · rw [hdispatcher]
    exact hdirected.congr rfl

theorem unblock (h : f.Underway sent log w) : f.Underway sent log w.unblock := by
  obtain ⟨submitted, hp⟩ := h.progress
  obtain ⟨hprogress, hresults⟩ := hp.unblock h.undisturbed.running
  have htraffic := h.traffic.unblock hresults
  have hundisturbed := h.undisturbed.unblock
  obtain ⟨nextTicket, calls, blocked, results, inbound, hsame⟩ := unblock_frame w
  rw [hsame] at hprogress htraffic hundisturbed ⊢
  exact ⟨hundisturbed, h.booked.congr rfl rfl (fun _ => rfl) rfl, h.directed.congr rfl, hprogress,
    htraffic⟩

/-- Whatever chore is next, the client goes on with the flush. -/
theorem chore (h : f.Underway sent log w) (distinct : f.nodes.Nodup)
    (lasting : w.dispatcher.nextId ≤ UInt64.size) (hchore : Chore w w')
    (hsent : ∀ id node request, f.Sends w'.dispatcher id node request → sent id node request) :
    f.Underway sent log w' := by
  have hundisturbed := hchore.undisturbed h.undisturbed
  obtain ⟨submitted, hp⟩ := h.progress
  have ht := h.traffic
  cases hchore with
  | @told event rest =>
      have hheard : f.Underway sent log { w with taskEvents := rest } :=
        h.hear rest fun _ hevent => hevent
      exact hheard.turn lasting (by simp) (by simp) hsent
  | @heard event rest first =>
      have hheard : f.Underway sent log { w with nodeEvents := rest } :=
        h.hear w.taskEvents fun event hevent => first ▸ List.mem_cons_of_mem _ hevent
      refine hheard.turn lasting (by simp) ?_ hsent
      rintro node response ⟨⟩
      exact ht.answers node response (first ▸ List.mem_cons_self)
  | accepted =>
      refine (h.turn lasting (by simp) (by simp) fun id node request hsends => ?_).unblock
      refine hsent id node request ?_
      obtain ⟨nextTicket, calls, blocked, results, inbound, hsame⟩ := unblock_frame (w.turn .accept)
      rw [hsame]
      exact hsends
  | timers => exact h.turn lasting (by simp) (by simp) hsent
  | @delivered id rest attempt pool connections dialLog generation picked found =>
      have hrewired : f.Traffic sent log
          ({ w with jobs := rest }.rewired pool connections dialLog) :=
        ⟨ht.names, ht.attempts, ht.answers, ht.results, ht.sentLog⟩
      exact ⟨hundisturbed, h.booked, h.directed,
        ⟨submitted, ⟨hp.counted, hp.tickets, hp.blocked, hp.commands⟩, hp.recorded⟩,
        hrewired.delivered distinct found generation⟩
  | @undelivered id rest attempt pool connections dialLog error picked found =>
      have hrewired : f.Traffic sent log
          ({ w with jobs := rest }.rewired pool connections dialLog) :=
        ⟨ht.names, ht.attempts, ht.answers, ht.results, ht.sentLog⟩
      exact ⟨hundisturbed, h.booked, h.directed,
        ⟨submitted, ⟨hp.counted, hp.tickets, hp.blocked, hp.commands⟩, hp.recorded⟩,
        hrewired.undelivered attempt error⟩
  | aside | noted | wait =>
      exact ⟨hundisturbed, h.booked, h.directed,
        ⟨submitted, ⟨hp.counted, hp.tickets, hp.blocked,
          ⟨hp.commands.everywhere, hp.commands.blocked⟩⟩, hp.recorded⟩,
        ht.names, ht.attempts, ht.answers, ht.results, ht.sentLog⟩

end Underway

/-! ## Runs -/

/-- A command of a flush was sent on its way at some point between two worlds. -/
def Sent (f : Flush) (w w' : World Cluster) (id : Nat) (node : NodeId) (request : Request) :
    Prop :=
  ∃ between, Drifts Cluster.network w between ∧ Drifts Cluster.network between w' ∧
    f.Sends between.dispatcher id node request

/-- However a client goes on that does nothing but flush, every ticket stands for one command or
one result. -/
theorem Underway.drifts (h : f.Underway (f.Sent w w) w.sentLog w) (distinct : f.nodes.Nodup)
    (ticketed : w.front.Ticketed f.base) (goes : Drifts Cluster.network w w')
    (lasting : w'.dispatcher.nextId ≤ UInt64.size) :
    f.Underway (f.Sent w w') w.sentLog w' ∧ w'.front.Ticketed f.base := by
  induction goes with
  | refl => exact ⟨h, ticketed⟩
  | @tail w₁ w₂ earlier stirs ih =>
      obtain ⟨hnumbered, -⟩ := Drifts.issues earlier h.undisturbed.numbered
      obtain ⟨-, hle⟩ := stirs.issues hnumbered
      have lasting : w₁.dispatcher.nextId ≤ UInt64.size := Nat.le_trans hle lasting
      obtain ⟨hunderway, hticketed⟩ := ih lasting
      have hu := hunderway.undisturbed
      have hextended : f.Underway (f.Sent w w₂) w.sentLog w₁ := by
        refine hunderway.mono ?_
        rintro id node request ⟨between, hbefore, hafter, hsends⟩
        exact ⟨between, hbefore, hafter.tail stirs, hsends⟩
      have hnext := hextended.chore distinct lasting (hu.chore stirs)
        fun id node request hsends => ⟨w₂, earlier.tail stirs, .refl, hsends⟩
      exact ⟨hnext, stirs.ticketed hnext.undisturbed.running hu.numbered hu.done hticketed⟩

end Flush

end ClusterKv

import ClusterKv.Proofs.Simulation.Flushing

/-! # What a flush comes to

If a flush succeeds the cluster is empty. If it fails it tells of the first node in the order of the
table that has failed, and those that have not are empty all the same. -/

namespace ClusterKv

/-! ## The first failure counts -/

section

variable {results : List (Except Error Reply)}

theorem flushResult_ok (h : flushResult results = .ok ()) :
    ∀ result ∈ results, ∃ reply, result = .ok reply := by
  induction results with
  | nil => simp
  | cons result rest ih =>
      cases result with
      | ok reply => exact List.forall_mem_cons.mpr ⟨⟨reply, rfl⟩, ih h⟩
      | error => cases h

theorem flushResult_error {error : Error} (h : flushResult results = .error error) :
    ∃ place : Nat, results[place]? = some (.error error) ∧
      ∀ earlier < place, ∃ reply, results[earlier]? = some (.ok reply) := by
  induction results with
  | nil => cases h
  | cons result rest ih =>
      cases result with
      | ok reply =>
          obtain ⟨place, hplace, hothers⟩ := ih h
          refine ⟨place + 1, hplace, fun earlier hearlier => ?_⟩
          cases earlier with
          | zero => exact ⟨reply, rfl⟩
          | succ earlier => exact hothers earlier (Nat.lt_of_succ_lt_succ hearlier)
      | error first =>
          obtain rfl : first = error := Except.error.inj h
          exact ⟨0, rfl, fun _ hnone => absurd hnone (Nat.not_lt_zero _)⟩

end

namespace World

section

variable {σ : Type} {w : World σ}

/-- What is recorded for a ticket. -/
def Results (w : World σ) : List Nat → List (Except Error Reply) → Prop :=
  List.Forall₂ fun ticket result => (w.results.get? ticket).map (·.1) = some result

/-- A call is done only when there is a result for each ticket. -/
theorem results_of_doneAt? {call : Call} {time : Instant} (h : w.doneAt? call = some time) :
    w.Results call.tickets
      (call.tickets.filterMap fun ticket => (w.results.get? ticket).map (·.1)) := by
  unfold doneAt? at h
  generalize call.tickets = tickets at h ⊢
  generalize call.acceptedAt = start at h
  induction tickets generalizing start with
  | nil => exact .nil
  | cons ticket rest ih =>
      obtain ⟨later, hlater, hrest⟩ := Option.bind_eq_some_iff.mp h
      obtain ⟨found, hfound, -⟩ := Option.map_eq_some_iff.mp hlater
      have hfirst : (w.results.get? ticket).map (·.1) = some found.1 := by
        rw [hfound]
        rfl
      simp only [List.filterMap_cons, hfirst]
      exact .cons hfirst (ih later hrest)

theorem callResults?_cases {number : Nat} {results : List (Except Error Reply)} {time : Instant}
    (h : w.callResults? number = some (results, time)) :
    ∃ call, w.calls.get? number = some call ∧ call.drafts = [] ∧ w.Results call.tickets results := by
  unfold callResults? at h
  split at h
  · cases h
  next call hcall =>
  split at h
  · next hdone =>
    obtain ⟨since, hsince, hsame⟩ := Option.map_eq_some_iff.mp h
    obtain ⟨rfl, rfl⟩ := Prod.mk.inj hsame
    simp only [isDone, hcall, Bool.and_eq_true] at hdone
    exact ⟨call, hcall, List.isEmpty_iff.mp hdone.1.1, results_of_doneAt? hsince⟩
  · cases h

end

/-! ## The start -/

variable {config : Config} {spec : ClusterSpec} {w w' : World Cluster} {number : Nat}

theorem Rests.undisturbed (rests : Rests config spec w) : Undisturbed w := by
  obtain ⟨hq, ha⟩ := rests.settles
  refine ⟨ha.stopped, ha.numbered, ?_, hq.kept, hq.stopRequests, hq.agenda, hq.pool, ?_, ?_⟩
  · rw [ha.dispatcher]
    rfl
  · simp [ha.jobs, Phase.jobs]
  · simp [ha.attempts, Phase.attempts]

theorem Rests.booked (rests : Rests config spec w) :
    Dispatcher.Booked w.config w.dispatcher := by
  rw [rests.settles.arrived.dispatcher]
  exact Dispatcher.Booked.start.congr rfl rfl (fun _ => rfl) rfl

theorem Rests.directed (rests : Rests config spec w) : Dispatcher.Directed w.dispatcher := by
  rw [rests.settles.arrived.dispatcher]
  rintro id entry ⟨⟩

/-- No ticket to come stands for anything. -/
theorem Rests.ticketed (rests : Rests config spec w) : w.front.Ticketed w.nextTicket := by
  intro ticket hticket
  obtain ⟨hq, ha⟩ := rests.settles
  have hblocked : w.front.blocked = [] := hq.blocked
  have hresult : w.front.results.has ticket = false := by
    rw [Assoc.has, rests.fresh ticket hticket]
    rfl
  have hdispatcher : w.front.dispatcher =
      Lone.nothing.dispatcher w.dispatcher.nextId w.dispatcher.timers [] := ha.dispatcher
  rw [if_neg (Nat.not_lt_of_le hticket), Front.shares, hblocked, hresult, hdispatcher]
  rfl

/-- Nothing is without a result. -/
theorem Rests.resolved (rests : Rests config spec w) (command : Command) :
    ¬w.front.Unresolved command := by
  obtain ⟨hq, ha⟩ := rests.settles
  have hdispatcher : w.front.dispatcher =
      Lone.nothing.dispatcher w.dispatcher.nextId w.dispatcher.timers [] := ha.dispatcher
  intro hunresolved
  cases hunresolved with
  | underWay found =>
      rw [hdispatcher] at found
      cases found
  | queued waits =>
      rw [hdispatcher] at waits
      cases waits
  | blocked waits =>
      have hblocked : w.front.blocked = [] := hq.blocked
      rw [hblocked] at waits
      cases waits

/-- The table at hand lists the nodes of the cluster. -/
theorem Rests.nodes (rests : Rests config spec w) :
    w.refresher.current.nodes = spec.nodes ∧ w.network.nodes.map (·.id) = spec.nodes := by
  have hnames : w.network.nodes.map (·.id) = spec.nodes := by
    have hbadges : w.network.nodes.map Node.badge = _ := rests.sound.badges
    simpa [Function.comp_def, Node.badge] using congrArg (List.map Badge.id) hbadges
  exact ⟨rests.sound.mapped.nodes.trans hnames, hnames⟩

/-- What other clients ask of nodes leaves a client at rest. -/
theorem Rests.request (rests : Rests config spec w) (id : NodeId) (request : Request) :
    Rests config spec
      { w with network := (Cluster.network.perform w.network id request w.now).1 } :=
  rests.beside ((rests.sound.executed id 0 request).congr rfl rfl rfl)

theorem Rests.later (rests : Rests config spec w) (now : Instant) :
    Rests config spec { w with now } :=
  ⟨rests.settles.later rfl now, rests.usable, rests.sound.congr rfl rfl rfl, rests.fresh⟩

end World

namespace Flush

open World

variable {config : Config} {spec : ClusterSpec} {w w' : World Cluster} {number : Nat} {f : Flush}

/-- A flush submits a command for each node that the table lists. -/
theorem startFlush_eq (known : w.refresher.current.nodes ≠ []) (number : Nat) :
    ∃ call : Call, call.tickets = [] ∧ w.startFlush number =
      submitDrafts (Flush.of w number).number
        ((Flush.of w number).nodes.map (Flush.of w number).draft) call w := by
  refine ⟨{ drafts := Draft.forFlush w.config w.refresher.current w.now, acceptedAt := w.now }, rfl,
    ?_⟩
  unfold startFlush
  split
  · next hnone => exact absurd (List.map_eq_nil_iff.mp hnone) known
  · rfl

/-- A flush that has just started. -/
theorem started (rests : Rests config spec w) (known : w.refresher.current.nodes ≠ []) :
    (Flush.of w number).Underway
        ((Flush.of w number).Sent (w.startFlush number) (w.startFlush number))
        (w.startFlush number).sentLog (w.startFlush number) ∧
      (w.startFlush number).front.Ticketed w.nextTicket := by
  obtain ⟨hq, ha⟩ := rests.settles
  have hu := rests.undisturbed
  obtain ⟨call, htickets, hstart⟩ := startFlush_eq known number
  have hbegun : (Flush.of w number).Begun 0 w :=
    ⟨Nat.zero_le _, rfl, by simp [hq.blocked], .of_all fun c hc => absurd hc (rests.resolved c)⟩
  have hnames : w.network.nodes.map (·.id) = (Flush.of w number).nodes :=
    rests.nodes.2.trans rests.nodes.1.symm
  have hbase : (Flush.of w number).base = w.nextTicket := rfl
  generalize Flush.of w number = f at hstart hbegun hnames hbase ⊢
  obtain ⟨submitted, hprogress, hresults⟩ := hbegun.submit htickets hu.running
  have hdeeds : Front.Deeds (fun _ => True) w.front (w.startFlush number).front :=
    startFlush_deeds w number (by simp)
  obtain ⟨nextTicket, calls, blocked, results, inbound, hsame⟩ :=
    submitDrafts_frame f.number (f.nodes.map f.draft) call w
  rw [List.drop_zero, hsame] at hprogress hresults
  rw [hstart, hsame] at hdeeds ⊢
  obtain rfl : results = w.results := hresults
  have hundisturbed := hu.resubmitted nextTicket calls blocked w.results inbound
  refine ⟨⟨hundisturbed, ?_, ?_, ⟨_, hprogress⟩, hnames, ?_, ?_, ?_, [], rfl, by simp⟩,
    hdeeds.ticketed hundisturbed.running hu.numbered hu.done rests.ticketed⟩
  · exact rests.booked.congr rfl rfl (fun _ => rfl) rfl
  · exact rests.directed.congr rfl
  · intro id attempt hattempt
    have hnone : w.attempts.get? id = none := by rw [ha.attempts]; rfl
    cases hnone.symm.trans hattempt
  · intro node response hresponse
    have hnone : w.nodeEvents = [] := ha.nodeEvents
    change _ ∈ w.nodeEvents at hresponse
    rw [hnone] at hresponse
    cases hresponse
  · intro place node reply time _ hresult
    have hnone : w.results.get? (f.base + place) = none :=
      rests.fresh _ (hbase ▸ Nat.le_add_right _ _)
    cases hnone.symm.trans hresult

/-! ## The course and the end -/

/-- The result for the node at a place, once there is one. -/
def result? (f : Flush) (w : World Cluster) (place : Nat) : Option (Except Error Reply) :=
  (w.results.get? (f.base + place)).map (·.1)

/-- How a flush goes on between two worlds. -/
structure Course (f : Flush) (w w' : World Cluster) : Prop where
  /-- Commands are submitted for the nodes of the table, in their order. -/
  progress : ∃ submitted, f.Progress submitted w'
  /-- For each there is one command without a result, or one result. -/
  once : w'.front.Ticketed f.base
  /-- Attempts that have not started go to the nodes that their commands are for. -/
  attempts : ∀ id attempt, w'.attempts.get? id = some attempt →
    f.Sent w w' id attempt.node attempt.request
  /-- So did those that have, and nothing else was sent. -/
  sent : ∃ news, w'.sentLog = news ++ w.sentLog ∧
    ∀ record ∈ news, ∃ id, f.Sent w w' id record.node record.request
  /-- Where a command has succeeded the node keeps no item. -/
  emptied : ∀ place node reply, f.nodes[place]? = some node →
    f.result? w' place = some (.ok reply) → Cluster.Emptied w'.network.nodes node

/-- What a flush has come to that is over. -/
structure Outcome (f : Flush) (w : World Cluster) (result : Except Error Unit) : Prop where
  all : f.Progress f.nodes.length w
  empty : result = .ok () → ∀ node ∈ w.network.nodes, node.store.size = 0
  failed : ∀ error, result = .error error →
    ∃ place node, f.nodes[place]? = some node ∧ f.result? w place = some (.error error) ∧
      ∀ earlier < place, ∃ reply, f.result? w earlier = some (.ok reply)

theorem Underway.course (h : f.Underway (f.Sent w w') w.sentLog w')
    (ticketed : w'.front.Ticketed f.base) : f.Course w w' where
  progress := h.progress
  once := ticketed
  attempts id attempt hattempt := (h.traffic.attempts id attempt hattempt).1
  sent := h.traffic.sentLog
  emptied place node reply hplace hresult := by
    obtain ⟨⟨_, time⟩, hfound, rfl⟩ := Option.map_eq_some_iff.mp hresult
    exact h.traffic.results place node reply time hplace hfound

/-- When a call is done there is a result for each node, in the order of the table. -/
theorem Progress.results {submitted : Nat} (h : f.Progress submitted w)
    {results : List (Except Error Reply)} {time : Instant}
    (hdone : w.callResults? f.number = some (results, time)) :
    f.Progress f.nodes.length w ∧ results.length = f.nodes.length ∧
      ∀ place < f.nodes.length, results[place]? = f.result? w place := by
  obtain ⟨call, hcall, htickets, hdrafts⟩ := h.recorded
  obtain ⟨found, hfound, hnone, hresults⟩ := callResults?_cases hdone
  obtain rfl : call = found := Option.some.inj (hcall.symm.trans hfound)
  have hall : submitted = f.nodes.length := by
    have hle := h.counted
    have hlength := congrArg List.length (hdrafts.symm.trans hnone)
    simp only [List.length_map, List.length_drop, List.length_nil] at hlength
    omega
  subst hall
  rw [htickets] at hresults
  have hlength : results.length = f.nodes.length := by simpa using hresults.length_eq.symm
  refine ⟨h, hlength, fun place hplace => ?_⟩
  have hthere := hresults.get (i := place) (by simpa using hplace) (hlength ▸ hplace)
  simpa [result?, List.getElem?_eq_getElem (hlength ▸ hplace)] using hthere.symm

/-- The first failure in the order of the table is told, and there is none only if every node of the
table has dropped its items. -/
theorem Course.outcome (h : f.Course w w') (names : w'.network.nodes.map (·.id) = f.nodes)
    {results : List (Except Error Reply)} {time : Instant}
    (hdone : w'.callResults? f.number = some (results, time)) :
    f.Outcome w' (flushResult results) := by
  obtain ⟨submitted, hprogress⟩ := h.progress
  obtain ⟨hall, hlength, hresults⟩ := hprogress.results hdone
  refine ⟨hall, fun hok node hnode => ?_, fun error herror => ?_⟩
  · have hlisted : node.id ∈ f.nodes := names ▸ List.mem_map_of_mem hnode
    obtain ⟨place, hplace, hid⟩ := List.mem_iff_getElem.mp hlisted
    obtain ⟨reply, hreply⟩ := flushResult_ok hok _ (List.getElem_mem (hlength ▸ hplace))
    have hresult : f.result? w' place = some (.ok reply) := by
      rw [← hresults place hplace, List.getElem?_eq_getElem (hlength ▸ hplace), hreply]
    have hthere : f.nodes[place]? = some node.id := by
      rw [List.getElem?_eq_getElem hplace, hid]
    exact h.emptied place node.id reply hthere hresult node hnode rfl
  · obtain ⟨place, hfailed, hothers⟩ := flushResult_error herror
    have hplace : place < f.nodes.length := hlength ▸ (List.getElem?_eq_some_iff.mp hfailed).1
    refine ⟨place, f.nodes[place], List.getElem?_eq_getElem hplace, ?_, fun earlier hearlier => ?_⟩
    · rw [← hresults place hplace, hfailed]
    · rw [← hresults earlier (Nat.lt_trans hearlier hplace)]
      exact hothers earlier hearlier

end Flush

namespace Client

open World

variable {config : Config} {spec : ClusterSpec} {w w' : World Cluster} {number : Nat}

/-- A client that holds any table of its cluster and has nothing else to do flushes it. Whatever the
nodes keep and whichever of them are up, and in whatever order the work is done, one command is
submitted for each node of the table, in their order, and on every attempt it goes to that node. If
the flush succeeds, no node keeps an item. If it fails, it tells of the first node that has failed,
and those that have not keep none. -/
theorem flush_empties_cluster (rests : Rests config spec w) (known : spec.nodes ≠ [])
    (distinct : spec.nodes.Nodup) (goes : Drifts Cluster.network (Client.flush w number).1 w')
    (lasting : w'.dispatcher.nextId ≤ UInt64.size) :
    (Flush.of w number).Course (Client.flush w number).1 w' ∧
      ∀ result time, (Client.flush w number).2 w' = some (result, time) →
        (Flush.of w number).Outcome w' result := by
  have hnodes : w.refresher.current.nodes = spec.nodes := rests.nodes.1
  have hdistinct : w.refresher.current.nodes.Nodup := hnodes.symm ▸ distinct
  obtain ⟨hstarted, hticketed⟩ := Flush.started rests (hnodes.symm ▸ known)
  obtain ⟨hunderway, hticketed⟩ := hstarted.drifts hdistinct hticketed goes lasting
  have hcourse := hunderway.course hticketed
  refine ⟨hcourse, fun result time hresult => ?_⟩
  obtain ⟨⟨results, since⟩, hdone, hsame⟩ := Option.map_eq_some_iff.mp hresult
  obtain ⟨rfl, -⟩ := Prod.mk.inj hsame
  exact hcourse.outcome hunderway.traffic.names hdone

/-- A cluster that is being rebalanced. One of its nodes keeps an item that expires after a second,
and one that is locked for fifteen. -/
def stockedPair : Cluster :=
  let put (c : Cluster) (operation : Operation) : Cluster :=
    (Cluster.network.perform c ⟨"n0"⟩ ⟨0, 0, operation⟩ 0).1
  let c := Cluster.startedPair.after (.beginRebalance [(0, 1)])
  let c := put c (.store .set "short".toUTF8.toList "v".toUTF8.toList 0 1 none)
  let c := put c (.store .set "kept".toUTF8.toList "v".toUTF8.toList 0 0 none)
  put c (.getAndLock "kept".toUTF8.toList 15)

/-- A client that still holds the first table, two seconds later. -/
def stocked : World Cluster :=
  { World.greeting {} Cluster.startedPair with
    network := stockedPair, now := 2 * Duration.perSecond }

theorem stocked_rests : Rests {} Cluster.pair stocked := by
  have hgreeting : Rests {} Cluster.pair (World.greeting {} Cluster.startedPair) :=
    (connected_rests Cluster.start_pair [] (connect_of_fetch rfl rfl)).1
  have hrebalancing := hgreeting.control (.beginRebalance [(0, 1)])
  have hshort := hrebalancing.request ⟨"n0"⟩
    ⟨0, 0, .store .set "short".toUTF8.toList "v".toUTF8.toList 0 1 none⟩
  have hkept := hshort.request ⟨"n0"⟩
    ⟨0, 0, .store .set "kept".toUTF8.toList "v".toUTF8.toList 0 0 none⟩
  have hlocked := hkept.request ⟨"n0"⟩ ⟨0, 0, .getAndLock "kept".toUTF8.toList 15⟩
  exact hlocked.later (2 * Duration.perSecond)

/-- The client flushes both nodes, of which one has kept two items. -/
theorem flush_empties_stocked :
    (Rests {} Cluster.pair stocked ∧ stocked.network.forward = some [1, 1] ∧
        stocked.network.nodes.map (·.store.size) = [2, 0]) ∧
      ∃ w', Proceeds Cluster.network (Client.flush stocked 1).1 w' ∧
        (Client.flush stocked 1).2 w' = some (.ok (), 2 * Duration.perSecond) ∧
        w'.sentLog.map (·.node) = [⟨"n1"⟩, ⟨"n0"⟩] ∧
        ∀ node ∈ w'.network.nodes, node.store.size = 0 := by
  let w' := (Client.flush stocked 1).1.runUntil Cluster.network (fun _ => true) none 40
  have hgoes : Proceeds Cluster.network (Client.flush stocked 1).1 w' := runUntil_proceeds ..
  have hok : (Client.flush stocked 1).2 w' = some (.ok (), 2 * Duration.perSecond) := by
    decide +kernel
  have hflush := flush_empties_cluster stocked_rests (by decide) (by decide) hgoes.drifts
    (by decide +kernel)
  exact ⟨⟨stocked_rests, by decide +kernel, by decide +kernel⟩, w', hgoes, hok, by decide +kernel,
    (hflush.2 _ _ hok).empty rfl⟩

end Client

end ClusterKv

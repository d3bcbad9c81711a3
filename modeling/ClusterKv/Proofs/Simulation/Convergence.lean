import ClusterKv.Proofs.Simulation.Serial

/-! # Finding the owner of a partition

A client that holds an old table asks the wrong node, is turned away, fetches the published table
and asks the node that the partition is headed to, or else its owner by that table. If that is where
the partition is, the second attempt is answered. No step in between can be missed: each phase has
its one step, and only so many ticks can be due before the command is accepted. -/

namespace ClusterKv

/-- The node of this name keeps a partition. -/
def Cluster.Keeps (c : Cluster) (p : UInt16) (owner : Node) : Prop :=
  c.nodes.find? (·.id = owner.id) = some owner ∧ owner.store.owns p = true

namespace Cluster

variable {c : Cluster} {p : UInt16} {owner other : Node}

theorem Keeps.mem (h : Keeps c p owner) : owner ∈ c.nodes := List.mem_of_find?_eq_some h.1

/-- A partition that a node keeps is one of the cluster. -/
theorem Keeps.within (h : Keeps c p owner) (hc : Partitioned c) :
    p.toNat < c.current.length := by
  by_contra hbeyond
  obtain ⟨place, hplace⟩ := List.mem_iff_getElem?.mp h.mem
  have hnone := hc.beyond p (Nat.le_of_not_lt hbeyond) place
  rw [dataAt_of_getElem? hplace] at hnone
  have howns : owner.store.partitions.has p = true := h.2
  simp [Assoc.has, hnone] at howns

/-- No other node keeps the partition. -/
theorem Keeps.only (h : Keeps c p owner) (hc : Partitioned c) (hother : other ∈ c.nodes)
    (hne : other.id ≠ owner.id) : other.store.partitions.get? p = none := by
  by_contra hsome
  obtain ⟨place, data, hheld, -⟩ := hc.held p (h.within hc)
  obtain ⟨i, hi⟩ := List.mem_iff_getElem?.mp h.mem
  obtain ⟨j, hj⟩ := List.mem_iff_getElem?.mp hother
  have howns : other.store.owns p = true := by
    obtain ⟨items, hitems⟩ := Option.ne_none_iff_exists'.mp hsome
    simp [Store.owns, Assoc.has, hitems]
  have hsame : j = i :=
    (hheld.place_unique hj howns).trans (hheld.place_unique hi h.2).symm
  rw [hsame, hi] at hj
  exact hne (congrArg Node.id (Option.some.inj hj)).symm

/-- All nodes are up, the table is to be had, and it names the node that keeps a partition as its
owner or as where it is headed. -/
structure Locates (c : Cluster) (published : Topology) (p : UInt16) (owner : Node) : Prop where
  up : ∀ node ∈ c.nodes, node.isUp = true
  fetched : c.fetch = .ok published
  keeps : c.Keeps p owner
  named : published.owner p = some owner.id ∨ published.forwardOwner p = some owner.id

/-- A request for another node leaves the owner as it is. -/
theorem Keeps.executeOn (h : Keeps c p owner) {id : NodeId} (hne : id ≠ owner.id)
    (request : Request) (now : Instant) :
    Keeps { c with nodes := (Cluster.executeOn id request now c.nodes).1 } p owner :=
  ⟨(find?_executeOn_of_ne hne request now c.nodes).trans h.1, h.2⟩

/-- A node that is up takes whoever shows its credentials. -/
theorem connect_of_find? {nodes : List Node} {id : NodeId} {node : Node}
    (h : nodes.find? (·.id = id) = some node) (up : node.isUp = true) :
    Node.connect nodes node.credentials id = .ok () := by
  simp [Node.connect, h, up, Node.authenticate]

end Cluster

namespace World

variable {config : Config} {spec : ClusterSpec} {w w' w'' : World Cluster} {c : Command}
  {route : Route} {published : Topology}

/-! ## Counting steps -/

/-- A world takes so many steps, one after another. -/
inductive Takes {σ : Type} (net : Network σ) : Nat → World σ → World σ → Prop
  | none (w : World σ) : Takes net 0 w w
  | step {n : Nat} {w w' w'' : World σ} (taken : w.step? net = some w')
      (rest : Takes net n w' w'') : Takes net (n + 1) w w''

theorem Takes.trans {σ : Type} {net : Network σ} {w w' w'' : World σ} {m n : Nat}
    (h : Takes net m w w') (h' : Takes net n w' w'') : Takes net (m + n) w w'' := by
  induction h with
  | none => rwa [Nat.zero_add]
  | step taken _ ih => rw [Nat.add_right_comm]; exact .step taken (ih h')

theorem LeadsTo.takes {phase : Phase} (h : LeadsTo w w' phase) : Takes Cluster.network 1 w w' :=
  .step h.step (.none w')

/-- A run goes through the steps that there are to take. -/
theorem Takes.runUntil {σ : Type} {net : Network σ} {w w' : World σ} {n : Nat}
    (h : Takes net n w w') (happened : World σ → Bool) (limit : Option Instant) (fuel : Nat) :
    w.runUntil net happened limit (n + fuel) = w'.runUntil net happened limit fuel := by
  induction h with
  | none => rw [Nat.zero_add]
  | step taken _ ih =>
      rw [Nat.add_right_comm]
      simp only [World.runUntil, taken, ih]

/-! ## Until the command is accepted -/

/-- No more ticks than that are due at this instant. -/
def ticksDue (w : World Cluster) : Nat :=
  match w.poller with
  | none => 0
  | some p => if p.stopping then 1 else min (w.now + 1 - p.next) (tickTolerance + 1)

theorem ticksDue_le (w : World Cluster) : w.ticksDue ≤ tickTolerance + 1 := by
  unfold ticksDue
  split
  · exact Nat.zero_le _
  · split
    · exact Nat.succ_le_succ (Nat.zero_le _)
    · exact Nat.min_le_right _ _

theorem overdue_tick {now next period : Nat} (tolerance : Nat) (hdue : next ≤ now)
    (hperiod : 0 < period) :
    min (now + 1 - ((if now > next + tolerance then now else next) + period)) (tolerance + 1) <
      min (now + 1 - next) (tolerance + 1) := by
  split <;> omega

/-- With each tick there is one less. -/
theorem poll_ticksDue (hq : Quiet w) (h : w.pollStep? Cluster.network = some w') :
    w'.ticksDue < w.ticksDue := by
  unfold pollStep? at h
  split at h
  · cases h
  next p hp =>
  have hperiod : 0 < p.period.nanos := hq.ticking p hp
  split at h
  · cases h
  split at h
  · next hstopping =>
    cases h
    simp [ticksDue, hp, hstopping]
  next hgoing =>
  split at h
  · next hdue =>
    cases h
    have hticked : (w.tick Cluster.network p).ticksDue =
        min (w.now + 1 - ((if w.now > p.next + tickTolerance then w.now else p.next) +
          p.period.nanos)) (tickTolerance + 1) := by
      simp [ticksDue, World.tick, startFetch, Cluster.network, Duration.zero, finishFetch, hgoing]
    have hbefore : w.ticksDue = min (w.now + 1 - p.next) (tickTolerance + 1) := by
      simp [ticksDue, hp, hgoing]
    rw [hticked, hbefore]
    exact overdue_tick tickTolerance hdue hperiod
  · cases h

/-- Nothing but the table may have changed, and then to the published one. -/
structure Refetched (published : Topology) (v v' : View) : Prop where
  rest : v' = { v with refresher := v'.refresher }
  table : v'.refresher.current = v.refresher.current ∨ v'.refresher.current = published

theorem Refetched.refl (published : Topology) (v : View) : Refetched published v v :=
  ⟨rfl, Or.inl rfl⟩

theorem Refetched.trans {v v' v'' : View} (h' : Refetched published v' v'')
    (h : Refetched published v v') : Refetched published v v'' := by
  refine ⟨?_, ?_⟩
  · rw [h'.rest, h.rest]
  · rcases h'.table with hkept | hfetched
    · exact hkept ▸ h.table
    · exact Or.inr hfetched

/-- What is fetched is the published table, which is not behind the one at hand. -/
theorem View.Sound.refreshed_table {v : View} (h : v.Sound config spec)
    (hfetch : v.network.fetch = .ok published) : v.refreshed.refresher.current = published := by
  have hnewer : v.refresher.current.revision ≤ published.revision := by
    obtain ⟨-, rfl⟩ := Cluster.fetch_eq hfetch
    exact h.mapped.older
  simp only [View.refreshed, hfetch]
  exact Refresher.publish_current (r := v.refresher.start) hnewer

/-- Whatever ticks and timers are due, a command that was submitted can be accepted after them. -/
theorem queued_opens {n : Nat} (hticks : w.ticksDue ≤ n) (hs : Settles w (.queued c))
    (hv : w.view.Sound config spec) (hfetch : w.network.fetch = .ok published) :
    ∃ k w', k ≤ n + 1 ∧ Takes Cluster.network k w w' ∧ Settles w' (.queued c) ∧
      w'.timerDue = false ∧ w'.dispatcher.nextId = w.dispatcher.nextId ∧
      w'.view.Sound config spec ∧ Refetched published w.view w'.view := by
  induction n using Nat.strongRecOn generalizing w with
  | ind n ih =>
      cases hdue : w.timerDue with
      | false => exact ⟨0, w, Nat.zero_le _, .none w, hs, hdue, rfl, hv, .refl published w.view⟩
      | true =>
          have hstep := step?_waiting hs rfl fun _ => hdue
          cases hpoll : w.pollStep? Cluster.network with
          | some w₁ =>
              have hfewer : w₁.ticksDue < n :=
                Nat.lt_of_lt_of_le (poll_ticksDue hs.quiet hpoll) hticks
              obtain ⟨hs₁, hdispatcher, hview⟩ := poll_settles hs hpoll
              have hv₁ : w₁.view.Sound config spec ∧ Refetched published w.view w₁.view := by
                rcases hview with hview | hview
                · rw [hview]
                  exact ⟨hv, .refl published w.view⟩
                · rw [hview]
                  exact ⟨hv.refreshed, rfl, Or.inr (hv.refreshed_table hfetch)⟩
              have hfetch₁ : w₁.network.fetch = .ok published := by
                have hrest : w₁.view.network = w.view.network := by rw [hv₁.2.rest]
                have hnetwork : w₁.network = w.network := hrest
                rw [hnetwork, hfetch]
              obtain ⟨k, w', hk, htakes, hs', hdue', hid, hv', hrefetched⟩ :=
                ih _ hfewer (Nat.le_refl _) hs₁ hv₁.1 hfetch₁
              refine ⟨k + 1, w', by omega, .step ?_ htakes, hs', hdue',
                hid.trans (congrArg _ hdispatcher), hv', hrefetched.trans hv₁.2⟩
              simp [hstep, idleStep?, hpoll]
          | none =>
              obtain ⟨hq, h⟩ := hs
              obtain ⟨hfree, -⟩ := h.unoccupied rfl
              obtain ⟨ts, heq, hpassed⟩ := timers_unclaimed h (Or.inr ⟨c, rfl⟩)
              obtain ⟨hs', hid, hview⟩ := turn_silent (.queued c) hq hfree rfl rfl rfl rfl rfl rfl
                rfl h.keyed h.known heq
              refine ⟨1, w.turn .timers, Nat.succ_le_succ (Nat.zero_le _), .step ?_ (.none _), hs',
                ?_, hid, hview ▸ hv, hview ▸ .refl published w.view⟩
              · simp [hstep, idleStep?, hpoll, hq.attended, h.stopped, hdue]
              · simpa [turn_eq heq, timerDue, setAlarm] using hpassed

/-! ## From one attempt to the next -/

/-- The command is accepted, and its first attempt starts. -/
theorem step_accepted (hs : Settles w (.queued c)) (usable : Usable w.config)
    (hdue : w.timerDue = false) (live : w.now < c.deadline)
    (hroute : resolvePartition (Dispatcher.partitionOf w.moment c) w.refresher.current
      c.fastForward = .ok route) :
    ∃ w', LeadsTo w w' (.starting { c with
        id := w.dispatcher.nextId, partition := some (Dispatcher.partitionOf w.moment c) } route) ∧
      w'.dispatcher.nextId = w.dispatcher.nextId + 1 ∧ w'.view = w.view := by
  have hstep := step?_accept hs usable.waiting hdue
  obtain ⟨hq, h⟩ := hs
  have hkey : c.target = .key := h.keyed c rfl
  obtain ⟨hfree, -⟩ := h.unoccupied rfl
  let c' : Command :=
    { c with id := w.dispatcher.nextId, partition := some (Dispatcher.partitionOf w.moment c) }
  have hturn := accept_turn h
  rw [Dispatcher.accept_eq, Dispatcher.route_eq (c := { c with id := w.dispatcher.nextId }) hkey
    usable.room live hroute, Lone.dispatcher_promoteWaiting] at hturn
  obtain ⟨hs', hid, hview⟩ := turn_attempt (c := c') hq hfree hkey (Nat.lt_succ_self _) live hturn
  rw [hs'.quiet.unblock] at hstep
  exact ⟨w.turn .accept, ⟨hs', hstep⟩, hid, hview⟩

/-- A command that is turned away for the first time awaits a refresh, and will look ahead. -/
theorem step_stale {generation : Nat} {response : Response}
    (hs : Settles w (.acked c route generation response)) (hid : c.id < UInt64.size)
    (hstale : response.status = .notMyPartition) (hleft : c.retries + 1 ≤ w.config.maxRetries) :
    ∃ w' failure, LeadsTo w w' (.parked { c with
        id := w.dispatcher.nextId, retries := c.retries + 1, lastFailure := some failure
        fastForward := true }) ∧
      w'.dispatcher.nextId = w.dispatcher.nextId + 1 ∧ w'.view = w.view := by
  obtain ⟨hq, h⟩ := hs
  have hkey : c.target = .key := h.keyed c rfl
  have live : w.moment.now < c.deadline := h.live c rfl
  let w₀ : World Cluster := { w with nodeEvents := [] }
  obtain ⟨failure, heq⟩ := Dispatcher.apply_stale_eq w.dispatcher.nextId w.dispatcher.timers
    route.partition hkey live hstale hleft
  have hturn := acked_turn h hid
  rw [heq, Lone.dispatcher_promoteWaiting] at hturn
  let c' : Command := { c with
    id := w.dispatcher.nextId, retries := c.retries + 1, lastFailure := some failure
    fastForward := true }
  obtain ⟨hs', hid', hview⟩ := turn_parked (w := w₀) (c := c')
    (hq.congr rfl rfl rfl rfl rfl rfl rfl) ⟨h.jobs, h.taskEvents, rfl, h.attempts⟩ hkey
    (Nat.lt_succ_self _) hturn
  exact ⟨_, failure, ⟨hs', step?_node hq h h.taskEvents h.nodeEvents⟩, hid', hview⟩

/-- After the refresh the command is routed by the table at hand. -/
theorem step_rerouted (hs : Settles w (.refreshed c (.ok ()))) (usable : Usable w.config)
    (hfew : c.retries ≤ 1) (live : w.now < c.deadline)
    (hroute : resolvePartition (Dispatcher.partitionOf w.moment c) w.refresher.current
      c.fastForward = .ok route) :
    ∃ w', LeadsTo w w'
        (.starting { c with partition := some (Dispatcher.partitionOf w.moment c) } route) ∧
      w'.view = w.view := by
  obtain ⟨hq, h⟩ := hs
  have hkey : c.target = .key := h.keyed c rfl
  let w₀ : World Cluster := { w with taskEvents := [] }
  let c' : Command := { c with partition := some (Dispatcher.partitionOf w.moment c) }
  have hturn : w₀.dispatcher.turn w₀.moment (.task (.refreshed (.ok ()))) =
      (Lone.sent c' route none).dispatcher w.dispatcher.nextId w.dispatcher.timers
        [.attempt c'.id route.node (Dispatcher.requestOf c' route) c'.deadline] := by
    change (w.dispatcher.onRefreshed w.moment (.ok ())).promoteWaiting w.moment = _
    rw [h.dispatcher, Phase.lone, Dispatcher.onRefreshed_eq_route hfew,
      Dispatcher.route_eq hkey usable.room live hroute, Lone.dispatcher_promoteWaiting]
    simp [c', Dispatcher.requestOf]
  obtain ⟨hs', -, hview⟩ := turn_attempt (w := w₀) (c := c')
    (hq.congr rfl rfl rfl rfl rfl rfl rfl) ⟨h.jobs, rfl, h.nodeEvents, h.attempts⟩ hkey
    (h.known c rfl) live hturn
  exact ⟨_, ⟨hs', step?_task hq h h.taskEvents⟩, hview⟩

/-- An attempt for which there is a connection has its answer two steps later. -/
theorem attempt_acked (hs : Settles w (.starting c route))
    (hconnect : Node.connect w.network.nodes w.network.credentials route.node = .ok ()) :
    ∃ w' generation, Takes Cluster.network 2 w w' ∧ Settles w' (.acked c route generation
        (Cluster.executeOn route.node (Dispatcher.requestOf c route) w.now w.network.nodes).2) ∧
      w'.dispatcher.nextId = w.dispatcher.nextId ∧
      w'.view = w.view.executed route.node generation (Dispatcher.requestOf c route) := by
  rcases step_starting hs with ⟨w₁, generation, hleads, hid, hview⟩ | ⟨_, error, hrefused, -⟩
  · obtain ⟨w', hleads', hid', hview'⟩ := step_answered hleads.toSettles
    exact ⟨w', generation, hleads.takes.trans hleads'.takes, hleads'.toSettles, hid'.trans hid,
      hview'.trans hview⟩
  · rw [hconnect] at hrefused
    cases hrefused

/-! ## Attempts -/

variable {p : UInt16} {owner : Node} {key : Bytes} {call : KeyCall}

/-- A node that is up takes the client. -/
theorem View.Sound.connect {v : View} (h : v.Sound config spec) {id : NodeId} {node : Node}
    (hfind : v.network.nodes.find? (·.id = id) = some node) (up : node.isUp = true) :
    Node.connect v.network.nodes v.network.credentials id = .ok () := by
  have hbadge : node.badge ∈ v.network.nodes.map Node.badge :=
    List.mem_map_of_mem (List.mem_of_find?_eq_some hfind)
  rw [h.badges] at hbadge
  obtain ⟨_, -, heq⟩ := List.mem_map.mp hbadge
  have hshown : node.credentials = v.network.credentials :=
    (congrArg Badge.credentials heq).symm.trans h.credentials.symm
  exact hshown ▸ Cluster.connect_of_find? hfind up

/-- An attempt with the node that keeps the partition ends with the answer of that node. -/
theorem attempt_answered (hs : Settles w (.starting c ⟨p, owner.id⟩))
    (hv : w.view.Sound config spec) (hkeeps : w.network.Keeps p owner) (up : owner.isUp = true)
    (hid : c.id < UInt64.size) (hoperation : c.operation = call.operation key)
    (prompt : (owner.store.execute ⟨0, p, call.operation key⟩ w.now).2.status ≠
      .temporaryFailure) :
    ∃ w' reply, Takes Cluster.network 3 w w' ∧ Settles w' .idle ∧
      reply.map (KeyCall.result · call) =
        call.told key (owner.store.execute ⟨0, p, call.operation key⟩ w.now).2 ∧
      w'.config = w.config ∧ w'.calls = w.calls ∧
      w'.results = w.results.put c.ticket (reply, w.now) := by
  let answer := (owner.store.execute ⟨0, p, call.operation key⟩ w.now).2
  let response : Response := { answer with opaqueId := c.id.toUInt64 }
  obtain ⟨w₁, generation, htakes, hs₁, -, hview₁⟩ :=
    attempt_acked hs (hv.connect hkeeps.1 up)
  -- The number of the request is all that sets the answer apart.
  have hresponse : (Cluster.executeOn owner.id (Dispatcher.requestOf c ⟨p, owner.id⟩) w.now
      w.network.nodes).2 = response := by
    rw [Cluster.executeOn_of_find? hkeeps.1, Dispatcher.requestOf, hoperation]
    exact Store.execute_renumbered owner.store ⟨0, p, call.operation key⟩ w.now _
  have hhere : response.status ≠ .notMyPartition := by
    intro hstale
    have hnone := Store.execute_turned_away (by simp [KeyCall.key?_operation]) hstale
    have howns : owner.store.partitions.has p = true := hkeeps.2
    simp [Assoc.has, hnone] at howns
  rw [hresponse] at hs₁
  obtain ⟨reply, hmeans⟩ := Dispatcher.decided?_of_status (c := c) hhere prompt
  obtain ⟨w', hleads, hview⟩ := step_decided hs₁ hid hmeans
  rw [hview₁] at hview
  refine ⟨w', reply, htakes.trans hleads.takes, hleads.toSettles, ?_, congrArg View.config hview,
    congrArg View.calls hview, congrArg View.results hview⟩
  exact (told_of_decided hoperation hmeans).1.trans (call.told_renumbered key answer _)

/-- An attempt with another node is made again, and with the node that keeps the partition. -/
theorem attempt_astray {id : NodeId} {other : Node} (hs : Settles w (.starting c ⟨p, id⟩))
    (hv : w.view.Sound config spec) (usable : Usable config) (hkeeps : w.network.Keeps p owner)
    (up : ∀ node ∈ w.network.nodes, node.isUp = true)
    (fetched : w.network.fetch = .ok published)
    (hother : w.network.nodes.find? (·.id = id) = some other) (hne : id ≠ owner.id)
    (hid : c.id < UInt64.size) (hkey : c.operation.key? = some key)
    (hp : p = partitionForKey key spec.partitions) (hfirst : c.retries = 0)
    (hleft : 1 ≤ config.maxRetries)
    (hroute : resolvePartition p published true = .ok ⟨p, owner.id⟩) :
    ∃ w' c', Takes Cluster.network 5 w w' ∧ Settles w' (.starting c' ⟨p, owner.id⟩) ∧
      w'.view.Sound config spec ∧ w'.network.Keeps p owner ∧ c'.Serves c ∧
      c'.id = w.dispatcher.nextId ∧ w'.now = w.now ∧ w'.calls = w.calls ∧
      w'.results = w.results := by
  have hconfig : w.config = config := hv.config
  have live : w.now < c.deadline := hs.arrived.live c rfl
  have hmem : other ∈ w.network.nodes := List.mem_of_find?_eq_some hother
  have hname : other.id = id := by simpa using List.find?_some hother
  obtain ⟨w₁, generation, htakes, hs₁, hid₁, hview₁⟩ :=
    attempt_acked hs (hv.connect hother (up other hmem))
  have hstale : (Cluster.executeOn id (Dispatcher.requestOf c ⟨p, id⟩) w.now
      w.network.nodes).2.status = .notMyPartition := by
    have hunowned := hkeeps.only hv.partitioned hmem (hname ▸ hne)
    rw [Cluster.executeOn_of_find? hother,
      Store.execute_of_unowned (by simp [Dispatcher.requestOf, hkey]) hunowned]
    rfl
  have hconfig₁ : w₁.config = w.config := congrArg View.config hview₁
  obtain ⟨w₂, failure, hleads₂, hid₂, hview₂⟩ := step_stale hs₁ hid hstale
    (by rw [hfirst, hconfig₁, hconfig]; exact hleft)
  have hview₂ := hview₂.trans hview₁
  have hv₂ : w₂.view.Sound config spec := hview₂ ▸ hv.executed _ _ _
  have hnetwork₂ : w₂.network = { w.network with nodes := (Cluster.executeOn id
      (Dispatcher.requestOf c ⟨p, id⟩) w.now w.network.nodes).1 } := congrArg View.network hview₂
  have hfetch₂ : w₂.network.fetch = .ok published := by
    rw [hnetwork₂, Cluster.fetch_executeOn, fetched]
  -- The refresh brings the published table.
  obtain ⟨w₃, hleads₃, -, hview₃⟩ := step_parked hleads₂.toSettles
  rw [hfetch₂] at hleads₃
  have hv₃ : w₃.view.Sound config spec := hview₃ ▸ hv₂.refreshed
  have htable₃ : w₃.refresher.current = published :=
    (congrArg (·.refresher.current) hview₃).trans (hv₂.refreshed_table hfetch₂)
  have hnow₃ : w₃.now = w.now := congrArg View.now (hview₃.trans (congrArg View.refreshed hview₂))
  have hconfig₃ : w₃.config = config := hv₃.config
  let c' : Command := { c with
    id := w₁.dispatcher.nextId, retries := c.retries + 1, lastFailure := some failure
    fastForward := true }
  have hroute₃ : resolvePartition (Dispatcher.partitionOf w₃.moment c') w₃.refresher.current true =
      .ok ⟨p, owner.id⟩ := by
    have hpartition : Dispatcher.partitionOf w₃.moment c' = p :=
      (hv₃.partitionOf (c := c') hkey).trans hp.symm
    rw [hpartition, htable₃, hroute]
  obtain ⟨w₄, hleads₄, hview₄⟩ := step_rerouted (c := c') hleads₃.toSettles (hconfig₃ ▸ usable)
    (by simp [c', hfirst]) (by exact hnow₃ ▸ live) hroute₃
  have hview₄ := (hview₄.trans hview₃).trans (congrArg View.refreshed hview₂)
  refine ⟨w₄, _, ((htakes.trans hleads₂.takes).trans hleads₃.takes).trans hleads₄.takes,
    hleads₄.toSettles, ?_, ?_, ⟨rfl, rfl, rfl, rfl, rfl⟩, hid₁, congrArg View.now hview₄,
    congrArg View.calls hview₄, congrArg View.results hview₄⟩
  · exact hview₄ ▸ (hv.executed _ _ _).refreshed
  · have hnetwork : w₄.network = _ := congrArg View.network hview₄
    exact hnetwork ▸ hkeeps.executeOn hne _ _

/-! ## A call -/

/-- A route that looks ahead leads to the node that is named, unless the partition is headed to
another. -/
theorem resolvePartition_ahead {id : NodeId}
    (named : published.owner p = some id ∨ published.forwardOwner p = some id)
    (free : ∀ other ∈ published.forwardOwner p, other = id) :
    resolvePartition p published true = .ok ⟨p, id⟩ := by
  cases hforward : published.forwardOwner p with
  | some other =>
      obtain rfl := free other hforward
      simp [resolvePartition, hforward]
  | none =>
      have howner : published.owner p = some id := by simpa [hforward] using named
      simp [resolvePartition, hforward, howner]

/-- Where a client that is turned away looks next, if the table it was routed by is the one it held
or the published one. -/
theorem resolve_astray (hlocated : w.network.Locates published p owner) {held table : Topology}
    {id : NodeId} (way : held.owner p = some owner.id ∨
      ∀ next ∈ published.forwardOwner p, next = owner.id)
    (hand : table = held ∨ table = published) (howner : table.owner p = some id)
    (hne : id ≠ owner.id) : resolvePartition p published true = .ok ⟨p, owner.id⟩ := by
  refine resolvePartition_ahead hlocated.named ?_
  rcases way with hheld | hfree
  · rcases hand with rfl | rfl
    · exact absurd (Option.some.inj (howner.symm.trans hheld)) hne
    · have hahead : table.forwardOwner p = some owner.id :=
        hlocated.named.resolve_left fun hnamed =>
          hne (Option.some.inj (howner.symm.trans hnamed))
      exact fun next hnext => Option.some.inj (hnext.symm.trans hahead)
  · exact hfree

/-- The first attempt of a call is with a node that the table at hand gives its partition to. -/
theorem Rests.first_attempt (h : Rests config spec w) (call : KeyCall)
    (hp : p = partitionForKey key spec.partitions) (within : p.toNat < w.network.current.length)
    (fetched : w.network.fetch = .ok published) (number : Nat) :
    ∃ n w' id other, n ≤ tickTolerance + 3 ∧
      Takes Cluster.network n (w.submitted number (w.commandOf key call)) w' ∧
      Settles w' (.starting { w.commandOf key call with
        id := w.dispatcher.nextId, partition := some p } ⟨p, id⟩) ∧
      w'.dispatcher.nextId = w.dispatcher.nextId + 1 ∧ w'.view.Sound config spec ∧
      Refetched published (w.submitted number (w.commandOf key call)).view w'.view ∧
      w'.refresher.current.owner p = some id ∧
      w.network.nodes.find? (·.id = id) = some other := by
  let c := w.commandOf key call
  have hconfig : w.config = config := h.sound.config
  have hkey : c.operation.key? = some key := call.key?_operation key
  obtain ⟨n, w₁, hn, htakes, hs, hdue, hid, hv, hrefetched⟩ :=
    queued_opens (ticksDue_le _) (submitted_settles h.settles number c rfl)
      (h.submitted_sound number c) fetched
  have hid : w₁.dispatcher.nextId = w.dispatcher.nextId := hid
  have hnetwork : w₁.network = w.network := congrArg View.network hrefetched.rest
  have hnow : w₁.now = w.now := congrArg View.now hrefetched.rest
  have hconfig₁ : w₁.config = config := hv.config
  have live : w₁.now < c.deadline := by
    rw [hnow]
    exact Nat.lt_add_of_pos_right (hconfig ▸ h.usable.timeout)
  rw [← hnetwork] at within
  obtain ⟨id, other, howner, hother⟩ := hv.mapped.owner within
  have hpartition : Dispatcher.partitionOf w₁.moment c = p := (hv.partitionOf hkey).trans hp.symm
  have hroute : resolvePartition (Dispatcher.partitionOf w₁.moment c) w₁.refresher.current
      c.fastForward = .ok ⟨p, id⟩ := by
    have howner : w₁.refresher.current.owner p = some id := howner
    have hfirst : c.fastForward = false := rfl
    simp [hpartition, hfirst, resolvePartition, howner]
  obtain ⟨w', hleads, hid', hview⟩ := step_accepted hs (hconfig₁ ▸ h.usable) hdue live hroute
  rw [hpartition, hid] at hleads
  have htable : w'.refresher.current = w₁.refresher.current :=
    congrArg (·.refresher.current) hview
  refine ⟨n + 1, w', id, other, by omega, htakes.trans hleads.takes, hleads.toSettles,
    by rw [hid', hid], hview ▸ hv, hview ▸ hrefetched, ?_, ?_⟩
  · rw [htable]
    exact howner
  · rw [← hnetwork]
    exact hother

/-- A call whose first or second attempt can only be with the node that keeps the partition is
answered by that node, and soon. -/
theorem Rests.answered (h : Rests config spec w)
    (lasting : w.dispatcher.nextId + 2 ≤ UInt64.size)
    (hp : p = partitionForKey key spec.partitions)
    (hlocated : w.network.Locates published p owner)
    (way : w.refresher.current.owner p = some owner.id ∨
      ∀ id ∈ published.forwardOwner p, id = owner.id) (hleft : 1 ≤ config.maxRetries)
    (prompt : (owner.store.execute ⟨0, p, call.operation key⟩ w.now).2.status ≠
      .temporaryFailure) (number : Nat) :
    ∃ n w' reply, n ≤ tickTolerance + 11 ∧
      Takes Cluster.network n (w.submitted number (w.commandOf key call)) w' ∧ Settles w' .idle ∧
      reply.map (KeyCall.result · call) =
        call.told key (owner.store.execute ⟨0, p, call.operation key⟩ w.now).2 ∧
      w'.config = config ∧ w'.calls = (w.submitted number (w.commandOf key call)).calls ∧
      w'.results = w.results.put w.nextTicket (reply, w.now) := by
  obtain ⟨n, w₁, id, other, hn, htakes₁, hs₁, hid₁, hv₁, hrefetched, howner, hother⟩ :=
    h.first_attempt call hp (hlocated.keeps.within h.sound.partitioned) hlocated.fetched number
  have hnetwork₁ : w₁.network = w.network := congrArg View.network hrefetched.rest
  have hnow₁ : w₁.now = w.now := congrArg View.now hrefetched.rest
  have hcalls₁ : w₁.calls = (w.submitted number (w.commandOf key call)).calls :=
    congrArg View.calls hrefetched.rest
  have hresults₁ : w₁.results = w.results := congrArg View.results hrefetched.rest
  have hkeeps₁ : w₁.network.Keeps p owner := hnetwork₁ ▸ hlocated.keeps
  have hup : owner.isUp = true := hlocated.up owner hlocated.keeps.mem
  have hoperation : (w.commandOf key call).operation = call.operation key := rfl
  have hfirst : w.dispatcher.nextId < UInt64.size := by omega
  by_cases hright : id = owner.id
  · subst hright
    obtain ⟨w', reply, htakes, hs', hreply, hconfig', hcalls', hresults'⟩ :=
      attempt_answered hs₁ hv₁ hkeeps₁ hup hfirst hoperation (hnow₁ ▸ prompt)
    refine ⟨n + 3, w', reply, by omega, htakes₁.trans htakes, hs', hnow₁ ▸ hreply,
      hconfig'.trans hv₁.config, hcalls'.trans hcalls₁, ?_⟩
    rw [hresults', hresults₁, hnow₁]
    rfl
  · obtain ⟨w₂, c₂, htakes₂, hs₂, hv₂, hkeeps₂, hserves, hid₂, hnow₂, hcalls₂, hresults₂⟩ :=
      attempt_astray hs₁ hv₁ h.usable hkeeps₁ (hnetwork₁ ▸ hlocated.up)
        (hnetwork₁ ▸ hlocated.fetched) (hnetwork₁ ▸ hother) hright hfirst
        (call.key?_operation key) hp rfl hleft
        (resolve_astray hlocated way hrefetched.table howner hright)
    have hnow₂ := hnow₂.trans hnow₁
    obtain ⟨w', reply, htakes, hs', hreply, hconfig', hcalls', hresults'⟩ :=
      attempt_answered hs₂ hv₂ hkeeps₂ hup (by omega) (hserves.operation.trans hoperation)
        (hnow₂ ▸ prompt)
    refine ⟨n + 5 + 3, w', reply, by omega, (htakes₁.trans htakes₂).trans htakes, hs',
      hnow₂ ▸ hreply, hconfig'.trans hv₂.config, hcalls'.trans (hcalls₂.trans hcalls₁), ?_⟩
    rw [hresults', hresults₂, hresults₁, hnow₂, hserves.ticket]
    rfl

end World

namespace Serial

open World (tickTolerance)

variable {permitted : KeyCall → Prop} {config : Config} {spec : ClusterSpec}
  {history : List Made} {w : World Cluster} {published : Topology} {p : UInt16} {owner : Node}
  {key : Bytes} {call : KeyCall}

/-- However old the table is that a client holds: if all nodes are up and the published table names
the node that keeps a partition, as its owner or as where it is headed, then a call for a key of
that partition ends at once with what that node answers. The one condition is that the partition is
not headed to yet another node, or that the client does not have to look ahead because its own table
names the right node. The caller is told the status, the value, the flags, the counter and the cas
that are in the answer. Whatever is due when the call is made, it takes no more steps than there can
be ticks, and eleven. -/
theorem finds_owner (h : Serial permitted config spec history w)
    (lasting : w.dispatcher.nextId + 2 ≤ UInt64.size)
    (located : w.network.Locates published p owner)
    (way : w.refresher.current.owner p = some owner.id ∨
      ∀ id ∈ published.forwardOwner p, id = owner.id)
    (retries : 2 ≤ config.maxRetries) (fits : KeyFits key)
    (here : partitionForKey key spec.partitions = p)
    (prompt : (owner.store.execute ⟨0, p, call.operation key⟩ w.now).2.status ≠
      .temporaryFailure)
    (number : Nat) (happened : World Cluster → Bool) (limit : Option Instant) {fuel : Nat}
    (enough : tickTolerance + 11 ≤ fuel) :
    (Client.one key call w number).2
        ((Client.one key call w number).1.runUntil Cluster.network happened limit fuel) =
      some (call.told key (owner.store.execute ⟨0, p, call.operation key⟩ w.now).2, w.now) ∧
    Gist.told? (call.told key (owner.store.execute ⟨0, p, call.operation key⟩ w.now).2) =
      some (owner.store.execute ⟨0, p, call.operation key⟩ w.now).2.gist ∧
    ∀ result, call.told key (owner.store.execute ⟨0, p, call.operation key⟩ w.now).2 = .ok result →
      result.cas = (owner.store.execute ⟨0, p, call.operation key⟩ w.now).2.cas := by
  have hsuits := owner.store.execute_suits ⟨0, p, call.operation key⟩ w.now
  refine ⟨?_, hsuits.told⟩
  have hrests := h.rests.2 (by omega)
  obtain ⟨n, w₁, reply, hn, htakes, hs₁, hreply, hconfig, hcalls, hresults⟩ :=
    hrests.answered lasting here.symm located way (UInt32.le_trans (by decide) retries) prompt
      number
  obtain ⟨rest, rfl⟩ := Nat.exists_eq_add_of_le (Nat.le_trans hn enough)
  rw [World.one_start hrests.settles fits, htakes.runUntil]
  -- Whatever the run goes on to do, it leaves the call and its result alone.
  obtain ⟨hs, hgoes⟩ := (World.runUntil_proceeds Cluster.network happened limit rest w₁).idle hs₁
    (hconfig ▸ hrests.usable)
  obtain ⟨-, -, hcalls', hresults', -⟩ := hgoes.idle rfl
  generalize w₁.runUntil Cluster.network happened limit rest = w₂ at hs hcalls' hresults' ⊢
  have hcalls' : w₂.calls = w₁.calls := hcalls'
  have hresults' : w₂.results = w₁.results := hresults'
  have hcall : w₂.calls.get? number =
      some { drafts := [], tickets := [w.nextTicket], acceptedAt := w.now } := by
    rw [hcalls', hcalls]
    exact Assoc.get?_put_self _ _ _
  rw [World.one_outcome w hs.quiet hcall, hresults', hresults, Assoc.get?_put_self]
  simp [hreply]

/-- The node that the partition has moved to. -/
def adopter : Node :=
  { id := ⟨"n1"⟩, credentials := Cluster.pair.credentials, store := (Store.ofOwned [1]).adopt 0 [] }

/-- A client whose partition has moved is turned away once, and finds it. -/
theorem finds_owner_across_move :
    ∃ published, Serial (fun _ => True) {} Cluster.pair [] outdated ∧
      outdated.network.Locates published 0 adopter ∧
      outdated.refresher.current.owner 0 ≠ some adopter.id ∧
      KeyFits "k".toUTF8.toList ∧ partitionForKey "k".toUTF8.toList Cluster.pair.partitions = 0 ∧
      (Client.one "k".toUTF8.toList .get outdated 1).2
          ((Client.one "k".toUTF8.toList .get outdated 1).1.runUntil Cluster.network (fun _ => true)
            none World.plenty) = some (.error (.application .keyNotFound), 0) := by
  let published : Topology := ⟨2, [⟨"n0"⟩, ⟨"n1"⟩], [some 1, some 1], none⟩
  have hserial : Serial (fun _ => True) {} Cluster.pair [] outdated := outdated_serial _
  have hlocated : outdated.network.Locates published 0 adopter :=
    ⟨by decide +kernel, rfl, ⟨by decide +kernel, by decide +kernel⟩, Or.inl rfl⟩
  have hfits : KeyFits "k".toUTF8.toList := by decide +kernel
  have hhere : partitionForKey "k".toUTF8.toList Cluster.pair.partitions = 0 := by decide +kernel
  have hprompt : (adopter.store.execute ⟨0, 0, KeyCall.get.operation "k".toUTF8.toList⟩
      outdated.now).2.status ≠ .temporaryFailure := by decide +kernel
  refine ⟨published, hserial, hlocated, by decide +kernel, hfits, hhere, ?_⟩
  exact (finds_owner hserial (by decide +kernel) hlocated (Or.inr nofun) (by decide +kernel) hfits
    hhere hprompt 1 _ none (by decide +kernel)).1

/-- A client that holds the first table of a cluster, one partition of which has moved since and is
headed back to where it was. -/
def misled : World Cluster :=
  { World.greeting { maxRetries := 2 } Cluster.startedPair with
    network := (Cluster.startedPair.after (.movePartition 0 1)).after (.beginRebalance [(0, 0)]) }

/-- The published table names the owner of the partition, yet the client does not find it: once
turned away it looks ahead, to the node that the partition is headed to and has not reached. -/
theorem misled_gives_up :
    ∃ published time, Serial (fun _ => True) { maxRetries := 2 } Cluster.pair [] misled ∧
      misled.network.Locates published 0 adopter ∧
      KeyFits "k".toUTF8.toList ∧ partitionForKey "k".toUTF8.toList Cluster.pair.partitions = 0 ∧
      (adopter.store.execute ⟨0, 0, .get "k".toUTF8.toList⟩ misled.now).2.status = .keyNotFound ∧
      (Client.one "k".toUTF8.toList .get misled 1).2
          ((Client.one "k".toUTF8.toList .get misled 1).1.runUntil Cluster.network (fun _ => false)
            none 40) =
        some (.error (.retriesExhausted 2 "stale route for partition 0"), time) := by
  let published : Topology := ⟨3, [⟨"n0"⟩, ⟨"n1"⟩], [some 1, some 1], some [some 0, some 1]⟩
  have hserial : Serial (fun _ => True) { maxRetries := 2 } Cluster.pair [] misled :=
    .control (.control (.connected Cluster.start_pair [] (World.connect_of_fetch rfl rfl))
      (.movePartition 0 1)) (.beginRebalance [(0, 0)])
  have hlocated : misled.network.Locates published 0 adopter :=
    ⟨by decide +kernel, rfl, ⟨by decide +kernel, by decide +kernel⟩, Or.inl rfl⟩
  exact ⟨published, 4000000, hserial, hlocated, by decide +kernel, by decide +kernel,
    by decide +kernel, by decide +kernel⟩

end Serial

end ClusterKv

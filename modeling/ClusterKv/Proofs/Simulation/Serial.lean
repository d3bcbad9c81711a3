import ClusterKv.Client.Session
import ClusterKv.Proofs.Cluster.Answers
import ClusterKv.Proofs.Cluster.Tables
import ClusterKv.Proofs.Simulation.Progress
import ClusterKv.Proofs.Store.Answers

/-! # One call after another

A client is connected to a cluster, and whoever uses it waits for each call before it makes the
next. Between calls time passes, and the cluster is told what to do. Then nothing is under way but
the one call, and the client always holds a table that the cluster has published. -/

namespace ClusterKv

/-- A call that has returned. -/
structure Made where
  key : Bytes
  call : KeyCall
  result : Except Error KeyResult
  /-- The requests that were written for it, last first. -/
  sent : List SentRecord
  /-- The items of all nodes before the call. -/
  before : List Store
  /-- The items of all nodes after it. -/
  after : List Store

/-- The record of a call between two states of a world. -/
def Made.between (w w' : World Cluster) (key : Bytes) (call : KeyCall)
    (result : Except Error KeyResult) : Made where
  key := key
  call := call
  result := result
  sent := w'.sentLog.take (w'.sentLog.length - w.sentLog.length)
  before := Cluster.stores w.network.nodes
  after := Cluster.stores w'.network.nodes

/-- The instant at which the last attempt of a call ran, if any did. -/
def Made.ran? (made : Made) : Option Instant := made.sent.head?.map (·.time)

/-- A node takes the key. -/
def KeyFits (key : Bytes) : Prop := 1 ≤ key.length ∧ key.length ≤ World.maxKeyLength

instance (key : Bytes) : Decidable (KeyFits key) :=
  inferInstanceAs (Decidable (1 ≤ key.length ∧ key.length ≤ World.maxKeyLength))

open World in
/-- What can become of a client that is connected to a cluster, with the calls it was used for.
Only certain calls are made. -/
inductive Serial (permitted : KeyCall → Prop) (config : Config) (spec : ClusterSpec) :
    List Made → World Cluster → Prop
  /-- The cluster may have been told this and that before the client came. -/
  | connected {c : Cluster} (started : Cluster.start spec = .ok c) (ops : List Cluster.Control)
      {w : World Cluster}
      (greeted : connect Cluster.network config (ops.foldl Cluster.after c) = .ok w) :
      Serial permitted config spec [] w
  | call {history : List Made} {w w' : World Cluster}
      (earlier : Serial permitted config spec history w) {key : Bytes} (fits : KeyFits key)
      {call : KeyCall} (allowed : permitted call) (number : Nat)
      (goes : Proceeds Cluster.network (Client.one key call w number).1 w')
      {result : Except Error KeyResult} {time : Instant}
      (returned : (Client.one key call w number).2 w' = some (result, time)) :
      Serial permitted config spec (history ++ [.between w w' key call result]) w'
  | control {history : List Made} {w : World Cluster}
      (earlier : Serial permitted config spec history w) (op : Cluster.Control) :
      Serial permitted config spec history { w with network := w.network.after op }
  | rest {history : List Made} {w w' : World Cluster}
      (earlier : Serial permitted config spec history w)
      (goes : Proceeds Cluster.network w w') : Serial permitted config spec history w'

namespace World

variable {config : Config} {spec : ClusterSpec} {w w' : World Cluster}

/-! ## The cluster, as far as the client depends on it -/

/-- The cluster is of the form it started in, and the client holds one of its tables. -/
structure View.Sound (config : Config) (spec : ClusterSpec) (v : View) : Prop where
  config : v.config = config
  partitioned : Cluster.Partitioned v.network
  badges : v.network.nodes.map Node.badge =
    spec.nodes.map (⟨·, spec.credentials, spec.maxValueLength⟩)
  credentials : v.network.credentials = spec.credentials
  count : v.network.current.length = spec.partitions
  mapped : Cluster.Mapped v.network v.refresher.current

/-- What leaves the cluster and the table alone is of no account. -/
theorem View.Sound.congr {v v' : View} (h : v.Sound config spec) (hconfig : v'.config = v.config)
    (hnetwork : v'.network = v.network) (hrefresher : v'.refresher = v.refresher) :
    v'.Sound config spec where
  config := hconfig.trans h.config
  partitioned := hnetwork ▸ h.partitioned
  badges := hnetwork ▸ h.badges
  credentials := hnetwork ▸ h.credentials
  count := hnetwork ▸ h.count
  mapped := hnetwork ▸ hrefresher ▸ h.mapped

theorem View.Sound.refreshed {v : View} (h : v.Sound config spec) :
    v.refreshed.Sound config spec :=
  ⟨h.config, h.partitioned, h.badges, h.credentials, h.count, h.mapped.finish h.partitioned⟩

theorem View.Sound.executed {v : View} (h : v.Sound config spec) (node : NodeId)
    (generation : Nat) (request : Request) :
    (v.executed node generation request).Sound config spec :=
  ⟨h.config, h.partitioned.executeOn node request v.now,
    (Cluster.executeOn_badges node request v.now v.network.nodes).trans h.badges, h.credentials,
    h.count, h.mapped.executeOn node request v.now⟩

/-- Every table that was published gives a key the same partition. -/
theorem View.Sound.partitionOf {v : View} (h : v.Sound config spec) {c : Command} {key : Bytes}
    (hkey : c.operation.key? = some key) :
    Dispatcher.partitionOf v.moment c = partitionForKey key spec.partitions := by
  have hcount : v.refresher.current.partitionCount = spec.partitions := h.mapped.count.trans h.count
  rw [Dispatcher.partitionOf, hkey]
  exact congrArg (partitionForKey key) hcount

/-- Cluster and table stay sound from phase to phase. -/
theorem Next.sound {v v' : View} {phase phase' : Phase} (h : Next v phase phase' v')
    (hv : v.Sound config spec) : v'.Sound config spec := by
  cases h with
  | polled | fetched => exact hv.refreshed
  | executed c route generation => exact hv.executed _ _ _
  | onward _ _ goes => cases goes <;> exact hv.congr rfl rfl rfl
  | waited | failed | acked | decided => exact hv.congr rfl rfl rfl

theorem Goes.sound {s t : Phase × View} (h : Goes s t) (hs : s.2.Sound config spec) :
    t.2.Sound config spec := by
  induction h with
  | refl => exact hs
  | tail _ next ih => exact next.sound ih

/-- Controls leave cluster and table sound. -/
theorem View.Sound.control {v : View} (h : v.Sound config spec) (op : Cluster.Control) :
    { v with network := v.network.after op }.Sound config spec := by
  obtain ⟨hpartitioned, hmoved⟩ := h.partitioned.after op
  exact ⟨h.config, hpartitioned, hmoved.badges.trans h.badges,
    hmoved.credentials.trans h.credentials, hmoved.count.trans h.count, hmoved.mapped h.mapped⟩

/-! ## Between calls -/

/-- Nothing is under way, and no result waits for a ticket to come. -/
structure Rests (config : Config) (spec : ClusterSpec) (w : World Cluster) : Prop where
  settles : Settles w .idle
  usable : Usable config
  sound : w.view.Sound config spec
  fresh : ∀ ticket, w.nextTicket ≤ ticket → w.results.get? ticket = none

/-- A world in which nothing is left to do stays as it is. -/
theorem runUntil_still {net : Network Cluster} {happened : World Cluster → Bool}
    (hstep : w.step? net = none) (hdone : happened w = true) (limit : Option Instant)
    (fuel : Nat) : w.runUntil net happened limit fuel = w := by
  cases fuel with
  | zero => rfl
  | succ fuel => simp [runUntil, hstep, hdone]

/-- A world in which nothing has happened yet but that tables were fetched. -/
theorem settles_untouched (c : Cluster) (refresher : Refresher) {poller : Option Poller}
    {fetches : Assoc Nat (Except TopologyError Topology × Instant)}
    (ticking : ∀ p ∈ poller, 0 < p.period.nanos) :
    Settles { config, network := c, refresher, fetches, poller } .idle where
  quiet := ⟨rfl, rfl, rfl, rfl, rfl, ⟨rfl, by simp⟩, ticking⟩
  arrived := ⟨rfl, rfl, rfl, rfl, rfl, by simp [Phase.command?],
    by simp [Phase.accepted?, Phase.command?], by simp [Phase.pressing?], by simp [Phase.answer?]⟩

/-- The first refresh is over at once. -/
theorem boot_eq (config : Config) (c : Cluster) {fetched : Refresher × Except TopologyError Topology}
    (h : ({} : Refresher).start.finish c.fetch = fetched) :
    boot Cluster.network { config, network := c } =
      ({ config, network := c, refresher := fetched.1, fetches := [(0, (fetched.2, 0))] },
        fetched.2.map fun _ => ()) := by
  subst h
  let fetched := ({} : Refresher).start.finish c.fetch
  let w₁ : World Cluster :=
    { config, network := c, refresher := fetched.1, fetches := [(0, (fetched.2, 0))] }
  have hplan : Cluster.network.fetch c = (c, .zero, c.fetch) := rfl
  have hzero : Duration.zero.nanos = 0 := rfl
  have hstart : ({ config, network := c } : World Cluster).startFetch Cluster.network (.call 0) =
      w₁ := by
    simp only [startFetch, hplan, hzero, ite_true, finishFetch]
    rfl
  have hs : Settles w₁ .idle := settles_untouched c fetched.1 (by simp)
  have hstill : w₁.step? Cluster.network = none := by
    rw [step?_waiting hs rfl (by simp)]
    rfl
  have hawait : w₁.await Cluster.network (fun w => w.fetches.has 0) = w₁ :=
    runUntil_still hstill rfl none plenty
  have hget : w₁.fetches.get? 0 = some (fetched.2, 0) := rfl
  simp only [boot, hstart, hawait, hget]
  cases hresult : fetched.2 with
  | ok => simp [w₁, fetched, hresult]; rfl
  | error => simp [w₁, fetched, hresult]; rfl

/-- A client that has just started, with what came of the first refresh. -/
def greeting (config : Config) (c : Cluster) : World Cluster :=
  let fetched := ({} : Refresher).start.finish c.fetch
  { config, network := c, refresher := fetched.1, fetches := [(0, (fetched.2, 0))]
    poller := config.pollInterval.map fun period => { period, next := 0 + period.nanos } }

/-- A client starts if its configuration is usable and there is a table to be had. -/
theorem connect_of_fetch {c : Cluster} {table : Topology} (husable : config.fault? = none)
    (hfetch : c.fetch = .ok table) :
    connect Cluster.network config c = .ok (greeting config c) := by
  have hvalid : config.validate = .ok config := by simp [Config.validate, husable]
  simp only [connect, hvalid, boot_eq config c rfl, hfetch, Refresher.finish, Except.map, greeting]
  cases config.pollInterval <;> rfl

/-- And that is all that a client starts with. -/
theorem connect_eq {c : Cluster} (h : connect Cluster.network config c = .ok w) :
    config.fault? = none ∧ (∃ table, c.fetch = .ok table) ∧ w = greeting config c := by
  cases hfault : config.fault? with
  | some fault =>
      have hinvalid : config.validate = .error fault := by simp [Config.validate, hfault]
      simp [connect, hinvalid] at h
  | none =>
      cases hfetch : c.fetch with
      | ok table =>
          have hgreeting := connect_of_fetch hfault hfetch
          exact ⟨rfl, ⟨table, rfl⟩, Except.ok.inj (h.symm.trans hgreeting)⟩
      | error error =>
          have hvalid : config.validate = .ok config := by simp [Config.validate, hfault]
          simp [connect, hvalid, boot_eq config c rfl, hfetch, Refresher.finish, Except.map] at h

theorem start_badges {c : Cluster} (h : Cluster.start spec = .ok c) :
    c.nodes.map Node.badge = spec.nodes.map (⟨·, spec.credentials, spec.maxValueLength⟩) := by
  obtain ⟨-, -, rfl⟩ := Cluster.start_eq h
  refine List.ext_getElem (by simp) fun i h₁ h₂ => ?_
  simp [Node.badge, Store.ofOwned]

/-- A client that has started is at rest. -/
theorem connected_rests {c : Cluster} (hstart : Cluster.start spec = .ok c)
    (ops : List Cluster.Control)
    (h : connect Cluster.network config (ops.foldl Cluster.after c) = .ok w) :
    Rests config spec w ∧ w.network = ops.foldl Cluster.after c := by
  obtain ⟨hfault, ⟨table, hfetch⟩, rfl⟩ := connect_eq h
  obtain ⟨-, -, hc⟩ := Cluster.start_eq hstart
  have hcount : c.current.length = spec.partitions := by simp [hc]
  have hsmall : spec.partitions ≤ Topology.maxPartitions := by
    have hsized : Cluster.Sized c := by simp [Cluster.Sized, hc]
    rw [← hcount, ← hsized.afterAll ops]
    exact (Cluster.fetch_eq hfetch).1
  obtain ⟨hpartitioned, hmoved⟩ := (Cluster.start_partitioned hstart hsmall).afterAll ops
  have husable := usable_of_fault? hfault
  have hcurrent : (({} : Refresher).start.finish (ops.foldl Cluster.after c).fetch).1.current =
      table := by
    rw [hfetch]
    exact Refresher.publish_current (Nat.zero_le _)
  refine ⟨⟨settles_untouched _ _ ?_, husable, ⟨rfl, hpartitioned,
    hmoved.badges.trans (start_badges hstart), hmoved.credentials.trans (by simp [hc]),
    hmoved.count.trans hcount, ?_⟩, fun _ _ => rfl⟩, rfl⟩
  · intro p hp
    obtain ⟨period, hperiod, rfl⟩ := Option.map_eq_some_iff.mp hp
    exact husable.polling period hperiod
  · exact hcurrent ▸ hpartitioned.mapped hfetch

/-! ## A call -/

variable {key : Bytes} {call : KeyCall} {number : Nat}

/-- The command that a call submits. -/
def commandOf (w : World Cluster) (key : Bytes) (call : KeyCall) : Command :=
  .create w.nextTicket (call.operation key) .key w.config.operationTimeout w.now

/-- A world in which a call was just submitted. -/
def submitted (w : World Cluster) (number : Nat) (c : Command) : World Cluster :=
  { w with
    nextTicket := w.nextTicket + 1
    dispatcher := { w.dispatcher with inbound := [c] }
    calls := w.calls.put number { drafts := [], tickets := [w.nextTicket], acceptedAt := w.now } }

theorem one_start (hs : Settles w .idle) (fits : KeyFits key) :
    (Client.one key call w number).1 = w.submitted number (w.commandOf key call) := by
  have hfits : 1 ≤ key.length ∧ key.length ≤ maxKeyLength := fits
  have hempty : key.isEmpty = false := by
    cases key with
    | nil => simp at hfits
    | cons => rfl
  have hgood : hasBadKey (call.operation key) = false := by
    simp [hasBadKey, KeyCall.key?_operation, hempty, Nat.not_lt_of_le hfits.2]
  have hinbound : w.dispatcher.inbound = [] := hs.arrived.inbound
  have hroom : 0 < max w.config.inboundDepth 1 :=
    Nat.lt_of_lt_of_le Nat.one_pos (Nat.le_max_right _ _)
  change w.startCall number (Draft.forKeys w.config [call.operation key]) = _
  simp [startCall, Draft.forKeys, submitDrafts, hgood, hs.arrived.stopped, hs.quiet.blocked,
    hinbound, hroom, submitted, commandOf]

theorem submitted_settles (hs : Settles w .idle) (number : Nat) (c : Command)
    (hkey : c.target = .key) :
    Settles (w.submitted number c) (.queued c) := by
  obtain ⟨hq, h⟩ := hs
  refine ⟨hq.congr rfl rfl rfl rfl rfl rfl rfl, ⟨?_, h.jobs, h.taskEvents, h.nodeEvents, h.attempts,
    ?_, ?_, ?_, ?_⟩⟩
  · simp only [submitted]
    rw [h.dispatcher]
    rfl
  · exact fun _ hc => Option.some.inj hc ▸ hkey
  · simp [Phase.accepted?]
  · simp [Phase.pressing?]
  · simp [Phase.answer?]

/-- A call is over once its one ticket has a result. -/
theorem one_outcome (w : World Cluster) {ticket : Nat} {time : Instant} (hq : Quiet w')
    (hcall : w'.calls.get? number =
      some { drafts := [], tickets := [ticket], acceptedAt := time }) :
    (Client.one key call w number).2 w' =
      (w'.results.get? ticket).map fun r => (r.1.map (KeyCall.result · call), max time r.2) := by
  cases hresult : w'.results.get? ticket with
  | none =>
      simp [Client.one, Client.many, Client.submit, SessionCall.map, callResults?, hcall, isDone,
        doneAt?, hresult, hq.blocked]
  | some r =>
      simp [Client.one, Client.many, Client.submit, SessionCall.map, callResults?, hcall, isDone,
        doneAt?, hresult, hq.blocked]

/-- What has become of a command since it was submitted: it is under way, or it has its result. -/
structure Pending (v₀ : View) (c₀ : Command) (phase : Phase) (v : View) : Prop where
  calls : v.calls = v₀.calls
  nextTicket : v.nextTicket = v₀.nextTicket
  underway : ∀ c ∈ phase.command?, c.Serves c₀ ∧ v.results = v₀.results
  settled : phase.command? = none →
    ∃ result, v.results = v₀.results.put c₀.ticket result

theorem Next.pending {v₀ v v' : View} {c₀ : Command} {phase phase' : Phase}
    (h : Next v phase phase' v') (hv : Pending v₀ c₀ phase v) : Pending v₀ c₀ phase' v' := by
  have hsame : ∀ {c c' : Command}, c ∈ phase.command? → c'.Serves c → v'.calls = v.calls →
      v'.nextTicket = v.nextTicket → v'.results = v.results → c' ∈ phase'.command? →
      Pending v₀ c₀ phase' v' := by
    intro c c' hc hserves hcalls hticket hresults hc'
    obtain ⟨hserved, hkept⟩ := hv.underway c hc
    refine ⟨hcalls.trans hv.calls, hticket.trans hv.nextTicket, fun d hd => ?_, fun hnone => ?_⟩
    · obtain rfl : c' = d := Option.some.inj (hc'.symm.trans hd)
      exact ⟨hserves.trans hserved, hresults.trans hkept⟩
    · rw [hnone] at hc'
      cases hc'
  cases h with
  | waited | polled => exact ⟨hv.calls, hv.nextTicket, hv.underway, hv.settled⟩
  | @onward _ _ _ c command _ goes =>
      cases goes with
      | ended error =>
          obtain ⟨hserves, hresults⟩ := hv.underway c command
          refine ⟨hv.calls, hv.nextTicket, by simp [Phase.command?],
            fun _ => ⟨(.error error, v.now), ?_⟩⟩
          simp only [View.resolve, hresults, hserves.ticket]
      | starting c' route serves => exact hsame command serves rfl rfl rfl rfl
      | parked c' serves => exact hsame command serves rfl rfl rfl rfl
      | resting c' resume serves => exact hsame command serves rfl rfl rfl rfl
  | failed c | executed c | acked c | fetched c => exact hsame (c := c) rfl (.refl c) rfl rfl rfl rfl
  | decided c route generation response result =>
      obtain ⟨hserves, hresults⟩ := hv.underway c rfl
      refine ⟨hv.calls, hv.nextTicket, by simp [Phase.command?], fun _ => ⟨(result, v.now), ?_⟩⟩
      simp only [View.resolve, hresults, hserves.ticket]

theorem Goes.pending {v₀ : View} {c₀ : Command} {s t : Phase × View} (h : Goes s t)
    (hs : Pending v₀ c₀ s.1 s.2) : Pending v₀ c₀ t.1 t.2 := by
  induction h with
  | refl => exact hs
  | tail _ next ih => exact next.pending ih

/-- What becomes of a call: it goes from phase to phase, and what is seen in between is sound. -/
theorem Rests.goes (h : Rests config spec w) (fits : KeyFits key)
    (hgoes : Proceeds Cluster.network (Client.one key call w number).1 w')
    (lasting : w'.dispatcher.nextId ≤ UInt64.size) :
    ∃ phase, Settles w' phase ∧
      Goes (.queued (w.commandOf key call), (w.submitted number (w.commandOf key call)).view)
        (phase, w'.view) := by
  rw [one_start h.settles fits] at hgoes
  have hconfig : w.config = config := h.sound.config
  exact hgoes.goes (submitted_settles h.settles number _ rfl) (hconfig ▸ h.usable) lasting

theorem Rests.submitted_sound (h : Rests config spec w) (number : Nat) (c : Command) :
    (w.submitted number c).view.Sound config spec :=
  h.sound.congr rfl rfl rfl

theorem submitted_pending (w : World Cluster) (number : Nat) (c : Command) :
    Pending (w.submitted number c).view c (.queued c) (w.submitted number c).view := by
  refine ⟨rfl, rfl, fun d hd => ?_, by simp [Phase.command?]⟩
  obtain rfl : c = d := Option.some.inj hd
  exact ⟨.refl c, rfl⟩

/-- A call that has returned leaves nothing under way. -/
theorem Rests.returned (h : Rests config spec w) {phase : Phase} (hs : Settles w' phase)
    (hgoes : Goes (.queued (w.commandOf key call), (w.submitted number (w.commandOf key call)).view)
      (phase, w'.view)) {result : Except Error KeyResult} {time : Instant}
    (hreturned : (Client.one key call w number).2 w' = some (result, time)) :
    phase = .idle ∧ ∃ reply at', w'.results.get? w.nextTicket = some (reply, at') ∧
      result = reply.map (KeyCall.result · call) := by
  have hpending := hgoes.pending (submitted_pending w number _)
  have hcalls : w'.calls = (w.submitted number (w.commandOf key call)).calls := hpending.calls
  have hcall : w'.calls.get? number =
      some { drafts := [], tickets := [w.nextTicket], acceptedAt := w.now } := by
    rw [hcalls]
    exact Assoc.get?_put_self _ _ _
  rw [one_outcome w hs.quiet hcall] at hreturned
  obtain ⟨⟨reply, at'⟩, hresult, heq⟩ := Option.map_eq_some_iff.mp hreturned
  refine ⟨?_, reply, at', hresult, (Prod.mk.inj heq).1.symm⟩
  cases hcommand : phase.command? with
  | none => cases phase <;> first | rfl | cases hcommand
  | some c =>
      have hsame : w'.results = w.results := (hpending.underway c hcommand).2
      rw [hsame, h.fresh _ (Nat.le_refl _)] at hresult
      cases hresult

/-- A client is at rest again once a call has returned. -/
theorem Rests.afterCall (h : Rests config spec w) (fits : KeyFits key)
    (hgoes : Proceeds Cluster.network (Client.one key call w number).1 w')
    (lasting : w'.dispatcher.nextId ≤ UInt64.size) {result : Except Error KeyResult}
    {time : Instant} (hreturned : (Client.one key call w number).2 w' = some (result, time)) :
    Rests config spec w' := by
  obtain ⟨phase, hs, hgoes⟩ := h.goes fits hgoes lasting
  obtain ⟨rfl, -⟩ := h.returned hs hgoes hreturned
  have hpending := hgoes.pending (submitted_pending w number _)
  obtain ⟨r, hresults⟩ := hpending.settled rfl
  have hresults : w'.results = w.results.put w.nextTicket r := hresults
  have hticket : w'.nextTicket = w.nextTicket + 1 := hpending.nextTicket
  refine ⟨hs, h.usable, hgoes.sound (h.submitted_sound number _), fun ticket hle => ?_⟩
  rw [hresults, Assoc.get?_put_of_ne _ _ (by omega)]
  exact h.fresh ticket (by omega)

/-- Time that passes finds nothing to do but to fetch tables. -/
theorem Rests.rest (h : Rests config spec w) (hgoes : Proceeds Cluster.network w w') :
    Rests config spec w' ∧ w'.network = w.network := by
  have hconfig : w.config = config := h.sound.config
  obtain ⟨hs, hgoes⟩ := hgoes.idle h.settles (hconfig ▸ h.usable)
  obtain ⟨-, hnetwork, -, hresults, hticket⟩ := hgoes.idle rfl
  have hresults : w'.results = w.results := hresults
  have hticket : w'.nextTicket = w.nextTicket := hticket
  exact ⟨⟨hs, h.usable, hgoes.sound h.sound, by rw [hresults, hticket]; exact h.fresh⟩, hnetwork⟩

/-- A client at rest does not notice what becomes of the cluster. -/
theorem Rests.beside (h : Rests config spec w) {network : Cluster}
    (hsound : { w.view with network }.Sound config spec) :
    Rests config spec { w with network } := by
  obtain ⟨hq, ha⟩ := h.settles
  exact ⟨⟨hq.congr rfl rfl rfl rfl rfl rfl rfl,
    ⟨ha.1, ha.2, ha.3, ha.4, ha.5, ha.6, ha.7, ha.8, ha.9⟩⟩, h.usable, hsound, h.fresh⟩

theorem Rests.control (h : Rests config spec w) (op : Cluster.Control) :
    Rests config spec { w with network := w.network.after op } :=
  h.beside (h.sound.control op)

/-- What callers are told is what the node answered. -/
theorem told_of_decided {c : Command} {key : Bytes} {call : KeyCall} {response : Response}
    {reply : Except Error Reply} (hoperation : c.operation = call.operation key)
    (h : Dispatcher.decided? c response = some reply) :
    reply.map (KeyCall.result · call) = call.told key response ∧
      response.status ≠ .notMyPartition := by
  unfold Dispatcher.decided? at h
  unfold KeyCall.told
  split at h
  · next hstatus =>
    cases h
    simp [hstatus, Except.map, hoperation]
  · cases h
  · cases h
  · next hsuccess hstale hbusy =>
    cases h
    refine ⟨?_, hstale⟩
    split
    · contradiction
    · rfl

end World

/-! ## Histories -/

namespace Serial

open World (Rests)

variable {permitted : KeyCall → Prop} {config : Config} {spec : ClusterSpec}
  {history : List Made} {w : World Cluster}

/-- Submitting a call and waiting for it takes no number back. -/
theorem call_numbered {w' : World Cluster} {key : Bytes} {call : KeyCall} {number : Nat}
    (h : Dispatcher.Numbered w.dispatcher .empty)
    (goes : World.Proceeds Cluster.network (Client.one key call w number).1 w') :
    Dispatcher.Numbered w'.dispatcher .empty ∧ w.dispatcher.nextId ≤ w'.dispatcher.nextId := by
  have hsubmitted : World.Issues w (Client.one key call w number).1 :=
    World.submitDrafts_issues _ _ _ _
  exact (hsubmitted.trans goes.issues) h

/-- As long as numbers last, a client is at rest between calls. -/
theorem rests (h : Serial permitted config spec history w) :
    Dispatcher.Numbered w.dispatcher .empty ∧
      (w.dispatcher.nextId ≤ UInt64.size → Rests config spec w) := by
  induction h with
  | connected started ops greeted =>
      obtain ⟨hrests, -⟩ := World.connected_rests started ops greeted
      exact ⟨hrests.settles.arrived.numbered, fun _ => hrests⟩
  | call _ fits _ _ goes returned ih =>
      obtain ⟨hnumbered, hle⟩ := call_numbered ih.1 goes
      exact ⟨hnumbered, fun lasting =>
        (ih.2 (Nat.le_trans hle lasting)).afterCall fits goes lasting returned⟩
  | control _ op ih => exact ⟨ih.1, fun lasting => (ih.2 lasting).control op⟩
  | rest _ goes ih =>
      obtain ⟨hnumbered, hle⟩ := goes.issues ih.1
      exact ⟨hnumbered, fun lasting => ((ih.2 (Nat.le_trans hle lasting)).rest goes).1⟩

/-- A client that holds the first table of a cluster, one partition of which has moved since. -/
def outdated : World Cluster :=
  { World.greeting {} Cluster.startedPair with
    network := Cluster.startedPair.after (.movePartition 0 1) }

theorem outdated_serial (permitted : KeyCall → Prop) :
    Serial permitted {} Cluster.pair [] outdated :=
  .control (.connected Cluster.start_pair [] (World.connect_of_fetch rfl rfl)) (.movePartition 0 1)

end Serial

end ClusterKv

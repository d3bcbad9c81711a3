import ClusterKv.Proofs.Cluster.Mirror
import ClusterKv.Proofs.Routing
import ClusterKv.Proofs.Simulation.Serial

/-! # A client and its cluster are one store

As long as calls neither ask for a cas nor have to do with locks, a caller cannot tell a cluster from
one store that owns every partition, wherever partitions go and however often a command goes to the
wrong node first. A call that has no answer has not changed anything. -/

namespace ClusterKv

/-- A node gave the call a definitive answer. -/
def Made.isAnswered (made : Made) : Bool :=
  match made.result with
  | .ok _ | .error (.application _) => true
  | .error _ => false

/-- The partition of the key of a call. -/
def Made.partition (made : Made) (spec : ClusterSpec) : UInt16 :=
  partitionForKey made.key spec.partitions

/-- What a call asks of the one store. -/
def Made.request (made : Made) (spec : ClusterSpec) : Request :=
  ⟨0, made.partition spec, made.call.operation made.key⟩

/-- The one store after some calls: those that had an answer have been executed, each at the instant
of its last attempt. -/
def ClusterSpec.replay (spec : ClusterSpec) (history : List Made) : Store :=
  history.foldl (fun store made =>
    if made.isAnswered then (store.execute (made.request spec) (made.ran?.getD 0)).1 else store)
    spec.wholeStore

namespace World

open Cluster (stores executeOn)

variable {config : Config} {spec : ClusterSpec}

/-! ## The story of a call -/

/-- A request of a command was executed where all items were as they had been, and this is the
answer. -/
inductive Deed (v₀ : View) (operation : Operation) (p : UInt16) (t : Instant)
    (response : Response) (v : View) : Prop
  | done (network : Cluster) (node : NodeId) (generation : Nat) (id : UInt64)
      (rest : List SentRecord) (kept : stores network.nodes = stores v₀.network.nodes)
      (reached : v.network =
        { network with nodes := (executeOn node ⟨id, p, operation⟩ t network.nodes).1 })
      (answer : response = (executeOn node ⟨id, p, operation⟩ t network.nodes).2)
      (sent : v.sentLog = ⟨t, node, generation, ⟨id, p, operation⟩⟩ :: rest)
      (longer : v₀.sentLog.length ≤ rest.length)

/-- What has become of a command for a partition since a call submitted it. -/
inductive Story (v₀ : View) (c₀ : Command) (p : UInt16) : Phase → View → Prop
  /-- No node has carried it out. -/
  | trying {phase : Phase} {v : View} {c : Command} (command : c ∈ phase.command?)
      (serves : c.Serves c₀) (unanswered : phase.answer? = none)
      (placed : ∀ c route, phase = .starting c route → route.partition = p)
      (kept : stores v.network.nodes = stores v₀.network.nodes)
      (logged : v₀.sentLog.length ≤ v.sentLog.length) : Story v₀ c₀ p phase v
  | answered {phase : Phase} {v : View} {c : Command} {response : Response}
      (answer : phase.answer? = some (c, response)) (serves : c.Serves c₀)
      (deed : Deed v₀ c₀.operation p v.now response v) : Story v₀ c₀ p phase v
  | failed {v : View} (error : Error) (unanswered : error.status? = none) (time : Instant)
      (result : v.results.get? c₀.ticket = some (.error error, time))
      (kept : stores v.network.nodes = stores v₀.network.nodes) : Story v₀ c₀ p .idle v
  | decided {v : View} (t : Instant) (c : Command) (serves : c.Serves c₀) (response : Response)
      (deed : Deed v₀ c₀.operation p t response v) (reply : Except Error Reply) (time : Instant)
      (means : Dispatcher.decided? c response = some reply)
      (result : v.results.get? c₀.ticket = some (reply, time)) : Story v₀ c₀ p .idle v

variable {v₀ v v' : View} {c₀ : Command} {p : UInt16} {phase phase' : Phase}

theorem Deed.congr {operation : Operation} {t : Instant} {response : Response}
    (h : Deed v₀ operation p t response v) (hnetwork : v'.network = v.network)
    (hlog : v'.sentLog = v.sentLog) : Deed v₀ operation p t response v' := by
  obtain ⟨network, node, generation, id, rest, kept, reached, answer, sent, longer⟩ := h
  exact ⟨network, node, generation, id, rest, kept, hnetwork.trans reached, answer,
    hlog.trans sent, longer⟩

/-- An answer that does not decide a plain command was given by a node that has not touched an
item. -/
theorem Deed.undecided {c : Command} {t : Instant} {response : Response}
    (h : Deed v₀ c₀.operation p t response v) (plain : c₀.operation.isPlain = true)
    (hopen : Dispatcher.decided? c response = none) :
    stores v.network.nodes = stores v₀.network.nodes ∧ v₀.sentLog.length ≤ v.sentLog.length := by
  obtain ⟨network, node, generation, id, rest, kept, reached, answer, sent, longer⟩ := h
  obtain ⟨key, hkey⟩ := Operation.key?_of_isPlain plain
  have hprompt : (executeOn node ⟨id, p, c₀.operation⟩ t network.nodes).2.status ≠
      .temporaryFailure := Cluster.executeOn_prompt plain node t network.nodes
  have hstale : (executeOn node ⟨id, p, c₀.operation⟩ t network.nodes).2.status =
      .notMyPartition := by
    rw [← answer] at hprompt ⊢
    unfold Dispatcher.decided? at hopen
    split at hopen
    · cases hopen
    · assumption
    · contradiction
    · cases hopen
  refine ⟨?_, ?_⟩
  · rw [reached]
    exact (Cluster.stores_of_turned_away (by simp [hkey]) hstale).trans kept
  · rw [sent]
    exact Nat.le_succ_of_le longer

theorem command?_of_answer? {c : Command} {response : Response}
    (h : phase.answer? = some (c, response)) : phase.command? = some c := by
  cases phase with
  | answered | acked => exact congrArg (Option.map Prod.fst) h
  | idle | queued | starting | failing | parked | refreshed | resting => cases h

theorem unanswered_of_waits (h : phase.waits = true) : phase.answer? = none := by
  cases phase with
  | idle | queued | resting => rfl
  | starting | failing | answered | acked | parked | refreshed => cases h

/-- As long as no answer decides a command, all items are as they had been. -/
theorem Story.undecided {c : Command} (h : Story v₀ c₀ p phase v)
    (plain : c₀.operation.isPlain = true) (command : c ∈ phase.command?)
    (undecided : ∀ e ∈ phase.answer?, Dispatcher.decided? e.1 e.2 = none) :
    c.Serves c₀ ∧ stores v.network.nodes = stores v₀.network.nodes ∧
      v₀.sentLog.length ≤ v.sentLog.length := by
  cases h with
  | @trying _ _ c' command' serves _ _ kept logged =>
      obtain rfl : c' = c := Option.some.inj (command'.symm.trans command)
      exact ⟨serves, kept, logged⟩
  | @answered _ _ c' response answer serves deed =>
      obtain rfl : c' = c :=
        Option.some.inj ((command?_of_answer? answer).symm.trans command)
      exact ⟨serves, deed.undecided plain (undecided _ answer)⟩
  | failed | decided => cases command

/-- The story goes on as a command goes from phase to phase. -/
theorem Next.story {key : Bytes} (h : Next v phase phase' v') (hv : v.Sound config spec)
    (plain : c₀.operation.isPlain = true) (hkey : c₀.operation.key? = some key)
    (hs : Story v₀ c₀ (partitionForKey key spec.partitions) phase v) :
    Story v₀ c₀ (partitionForKey key spec.partitions) phase' v' := by
  have hsame (hwaits : phase.waits = true) (hnetwork : v'.network = v.network)
      (hlog : v'.sentLog = v.sentLog) (hresults : v'.results = v.results) :
      Story v₀ c₀ (partitionForKey key spec.partitions) phase v' := by
    cases hs with
    | trying command serves unanswered placed kept logged =>
        exact .trying command serves unanswered placed (hnetwork ▸ kept) (hlog ▸ logged)
    | answered answer =>
        rw [unanswered_of_waits hwaits] at answer
        cases answer
    | failed error unanswered time result kept =>
        exact .failed error unanswered time (hresults ▸ result) (hnetwork ▸ kept)
    | decided t c serves response deed reply time means result =>
        exact .decided t c serves response (deed.congr hnetwork hlog) reply time means
          (hresults ▸ result)
  cases h with
  | waited hwaits | polled hwaits => exact hsame hwaits rfl rfl rfl
  | @onward _ _ _ c command undecided goes =>
      obtain ⟨hserves, kept, logged⟩ := hs.undecided plain command undecided
      cases goes with
      | ended error unanswered =>
          exact .failed error unanswered v.now (by simp [View.resolve, hserves.ticket]) kept
      | starting c' route serves routed =>
          refine .trying (c := c') rfl (serves.trans hserves) rfl (fun d r hd => ?_) kept logged
          cases hd
          exact (partition_of_resolve routed).trans (hv.partitionOf (hserves.operation ▸ hkey))
      | parked c' serves =>
          exact .trying (c := c') rfl (serves.trans hserves) rfl (by simp) kept logged
      | resting c' resume serves =>
          exact .trying (c := c') rfl (serves.trans hserves) rfl (by simp) kept logged
  | failed c route error refused =>
      obtain ⟨hserves, kept, logged⟩ := hs.undecided plain rfl (by simp [Phase.answer?])
      exact .trying (c := c) rfl hserves rfl (by simp) kept logged
  | executed c route generation =>
      obtain ⟨hserves, kept, logged⟩ := hs.undecided plain rfl (by simp [Phase.answer?])
      have hplaced : route.partition = partitionForKey key spec.partitions := by
        cases hs with
        | trying _ _ _ placed => exact placed c route rfl
        | answered answer => cases answer
      have hrequest : Dispatcher.requestOf c route =
          ⟨c.id.toUInt64, partitionForKey key spec.partitions, c₀.operation⟩ := by
        rw [Dispatcher.requestOf, hplaced, hserves.operation]
      rw [hrequest]
      exact .answered rfl hserves ⟨v.network, route.node, generation, c.id.toUInt64, v.sentLog, kept,
        rfl, rfl, rfl, logged⟩
  | acked c route generation response =>
      cases hs with
      | trying _ _ unanswered => cases unanswered
      | answered answer serves deed =>
          cases answer
          exact .answered rfl serves deed
  | decided c route generation response result means =>
      cases hs with
      | trying _ _ unanswered => cases unanswered
      | answered answer serves deed =>
          cases answer
          have hresult : (v.resolve c result).results.get? c₀.ticket = some (result, v.now) := by
            simp [View.resolve, serves.ticket]
          exact .decided v.now c serves response (deed.congr rfl rfl) result v.now means hresult
  | fetched c result =>
      obtain ⟨hserves, kept, logged⟩ := hs.undecided plain rfl (by simp [Phase.answer?])
      exact .trying (c := c) rfl hserves rfl (by simp) kept logged

theorem Goes.story {key : Bytes} {s t : Phase × View} (h : Goes s t)
    (hv : s.2.Sound config spec) (plain : c₀.operation.isPlain = true)
    (hkey : c₀.operation.key? = some key)
    (hs : Story v₀ c₀ (partitionForKey key spec.partitions) s.1 s.2) :
    Story v₀ c₀ (partitionForKey key spec.partitions) t.1 t.2 := by
  induction h with
  | refl => exact hs
  | tail earlier next ih => exact next.story (Goes.sound earlier hv) plain hkey ih

/-! ## What a call comes to -/

/-- How a plain call ends. -/
inductive Ending (spec : ClusterSpec) (w w' : World Cluster) (made : Made) : Prop
  | unanswered (without : made.isAnswered = false)
      (kept : stores w'.network.nodes = stores w.network.nodes) : Ending spec w w' made
  | answered (answered : made.isAnswered = true) (t : Instant) (ran : made.ran? = some t)
      (network : Cluster) (node : NodeId) (id : UInt64) (response : Response)
      (kept : stores network.nodes = stores w.network.nodes)
      (here : response.status ≠ .notMyPartition)
      (reached : executeOn node { made.request spec with opaqueId := id } t network.nodes =
        (w'.network.nodes, response))
      (same : network.current = w'.network.current)
      (told : made.result = made.call.told made.key response) : Ending spec w w' made

theorem Rests.ending {w w' : World Cluster} {key : Bytes} {call : KeyCall} {number : Nat}
    (h : Rests config spec w) (fits : KeyFits key) (plain : call.isPlain = true)
    (hgoes : Proceeds Cluster.network (Client.one key call w number).1 w')
    (lasting : w'.dispatcher.nextId ≤ UInt64.size) {result : Except Error KeyResult}
    {time : Instant} (hreturned : (Client.one key call w number).2 w' = some (result, time)) :
    Ending spec w w' (.between w w' key call result) := by
  obtain ⟨phase, hs, hgoes⟩ := h.goes fits hgoes lasting
  obtain ⟨rfl, reply, at', hreply, rfl⟩ := h.returned hs hgoes hreturned
  have hplain : (w.commandOf key call).operation.isPlain = true := call.isPlain_operation plain key
  have hkey : (w.commandOf key call).operation.key? = some key := call.key?_operation key
  have hstart : Story (w.submitted number (w.commandOf key call)).view (w.commandOf key call)
      (partitionForKey key spec.partitions) (.queued (w.commandOf key call))
      (w.submitted number (w.commandOf key call)).view :=
    .trying (c := w.commandOf key call) rfl (.refl _) rfl (by simp) rfl (Nat.le_refl _)
  cases hgoes.story (h.submitted_sound number _) hplain hkey hstart with
  | trying command => cases command
  | answered answer => cases answer
  | failed error unanswered _ hresult kept =>
      have heq : reply = .error error :=
        congrArg Prod.fst (Option.some.inj (hreply.symm.trans hresult))
      refine .unanswered ?_ kept
      subst heq
      cases error <;> first | rfl | cases unanswered
  | decided t c serves response deed reply' _ means hresult =>
      obtain rfl : reply = reply' :=
        congrArg Prod.fst (Option.some.inj (hreply.symm.trans hresult))
      have hoperation : c.operation = call.operation key := serves.operation
      obtain ⟨htold, hhere⟩ := told_of_decided hoperation means
      obtain ⟨network, node, generation, id, rest, kept, reached, answer, sent, longer⟩ := deed
      have hnetwork : w'.network = { network with nodes := (executeOn node
          ⟨id, partitionForKey key spec.partitions, call.operation key⟩ t network.nodes).1 } :=
        reached
      have hsent : w'.sentLog = ⟨t, node, generation,
          ⟨id, partitionForKey key spec.partitions, call.operation key⟩⟩ :: rest := sent
      have hlonger : w.sentLog.length ≤ rest.length := longer
      refine .answered ?_ t ?_ network node id response kept hhere ?_ ?_ htold
      · simp only [Made.isAnswered, Made.between]
        unfold Dispatcher.decided? at means
        split at means <;> cases means <;> rfl
      · have hmore : rest.length + 1 - w.sentLog.length ≠ 0 := by omega
        simp [Made.ran?, Made.between, hsent, List.head?_take, hmore]
      · rw [hnetwork]
        exact Prod.ext rfl answer.symm
      · rw [hnetwork]

end World

/-! ## Histories -/

namespace Serial

open Cluster (Mirrors)
open World (Rests Ending)

variable {config : Config} {spec : ClusterSpec} {history : List Made} {w : World Cluster}

/-- A call was answered as the one store would have answered after those before it, or changed
nothing. -/
def Refines (spec : ClusterSpec) (earlier : List Made) (made : Made) : Prop :=
  (made.isAnswered = true → ∃ t, made.ran? = some t ∧
    Gist.told? made.result =
      some ((spec.replay earlier).execute (made.request spec) t).2.gist) ∧
  (made.isAnswered = false → made.after = made.before)

theorem replay_append (spec : ClusterSpec) (history : List Made) (made : Made) :
    spec.replay (history ++ [made]) =
      if made.isAnswered then
        ((spec.replay history).execute (made.request spec) (made.ran?.getD 0)).1
      else spec.replay history := by
  simp [ClusterSpec.replay]

/-- A call that ends leaves cluster and store alike, and was answered as the store answers. -/
theorem refines_of_ending {w' : World Cluster} {key : Bytes} {call : KeyCall}
    {result : Except Error KeyResult}
    (h : Ending spec w w' (.between w w' key call result)) (hw : Rests config spec w)
    (hw' : Rests config spec w') (plain : call.isPlain = true)
    (hmirrors : Mirrors spec.maxValueLength w.network (spec.replay history)) :
    Refines spec history (.between w w' key call result) ∧
      Mirrors spec.maxValueLength w'.network
        (spec.replay (history ++ [.between w w' key call result])) := by
  have hcount : w'.network.current.length = w.network.current.length :=
    hw'.sound.count.trans hw.sound.count.symm
  rw [replay_append]
  cases h with
  | unanswered without kept =>
      refine ⟨⟨fun answered => absurd answered (by simp [without]), fun _ => kept⟩, ?_⟩
      rw [without]
      exact hmirrors.congr kept hcount
  | answered answered t ran network node id response kept here reached same told =>
      let asked := (Made.between w w' key call result).request spec
      let sent : Request := { asked with opaqueId := id }
      have hlength : network.current.length = w.network.current.length := same ▸ hcount
      have hnetwork : Mirrors spec.maxValueLength network (spec.replay history) :=
        hmirrors.congr kept hlength
      have hcarried : (Cluster.executeOn node sent t network.nodes).2.status ≠ .notMyPartition :=
        congrArg Prod.snd reached ▸ here
      -- For a partition that does not exist no node would have answered.
      have hhere : sent.partition.toNat < network.current.length := by
        by_contra hbeyond
        have hnone : ∀ i, Cluster.dataAt network.nodes i sent.partition = none := fun i =>
          (Cluster.stores_dataAt kept i _).trans
            (hw.sound.partitioned.beyond _ (hlength ▸ Nat.le_of_not_lt hbeyond) i)
        have hkey : sent.operation.key? ≠ none := by
          simp [sent, asked, Made.request, Made.between, KeyCall.key?_operation]
        rw [Cluster.executeOn_turned_away hnone hkey] at hcarried
        exact hcarried rfl
      obtain ⟨hafter, hbare⟩ : Mirrors spec.maxValueLength
          { network with nodes := (Cluster.executeOn node sent t network.nodes).1 }
          ((spec.replay history).execute asked t).1 ∧
          (Cluster.executeOn node sent t network.nodes).2.bare =
            ((spec.replay history).execute asked t).2.bare :=
        hnetwork.executeOn (call.isPlain_operation plain key) hhere rfl rfl hcarried
      have hnodes : (Cluster.executeOn node sent t network.nodes).1 = w'.network.nodes :=
        congrArg Prod.fst reached
      have hanswer : (Cluster.executeOn node sent t network.nodes).2 = response :=
        congrArg Prod.snd reached
      rw [hanswer] at hbare
      refine ⟨⟨fun _ => ⟨t, ran, ?_⟩, fun without => absurd answered (by simp [without])⟩, ?_⟩
      · have hsuits : Suits (call.operation key) response :=
          hanswer ▸ Cluster.executeOn_suits node sent t network.nodes
        calc Gist.told? (Made.between w w' key call result).result
            = Gist.told? (call.told key response) := congrArg Gist.told? told
          _ = some response.gist := hsuits.told.1
          _ = some ((spec.replay history).execute asked t).2.gist :=
              congrArg some (Response.gist_of_bare hbare)
      · rw [answered, ran]
        exact hafter.congr (congrArg Cluster.stores hnodes.symm) (congrArg List.length same.symm)

/-- Whatever has happened so far, the cluster is the one store after the calls that were answered,
and every call was answered as that store would have answered. -/
theorem refines_all (h : Serial (fun call => call.isPlain = true) config spec history w)
    (lasting : w.dispatcher.nextId ≤ UInt64.size) :
    Mirrors spec.maxValueLength w.network (spec.replay history) ∧
      ∀ before made after, history = before ++ made :: after → Refines spec before made := by
  induction h with
  | @connected c started ops w greeted =>
      obtain ⟨hrests, hnetwork⟩ := World.connected_rests started ops greeted
      have hsmall : spec.partitions ≤ Topology.maxPartitions :=
        hrests.sound.count ▸ hrests.sound.partitioned.small
      rw [hnetwork]
      exact ⟨(Cluster.start_mirrors started hsmall).rearranged
        ((Cluster.start_partitioned started hsmall).afterAll ops).2, by simp⟩
  | @call history w w' earlier key fits call plain number goes result time returned ih =>
      have hbefore := Nat.le_trans (call_numbered earlier.rests.1 goes).2 lasting
      obtain ⟨hmirrors, hrefines⟩ := ih hbefore
      have hw := earlier.rests.2 hbefore
      have hw' := hw.afterCall fits goes lasting returned
      obtain ⟨hmade, hmirrors'⟩ := refines_of_ending (hw.ending fits plain goes lasting returned)
        hw hw' plain hmirrors
      refine ⟨hmirrors', fun before made after hsplit => ?_⟩
      rcases List.eq_nil_or_concat after with rfl | ⟨more, last, rfl⟩
      · obtain ⟨rfl, hlast⟩ := List.append_inj' hsplit rfl
        exact List.head_eq_of_cons_eq hlast ▸ hmade
      · have hinit : history = before ++ made :: more := by
          rw [List.concat_eq_append, ← List.cons_append, ← List.append_assoc] at hsplit
          exact (List.append_inj' hsplit rfl).1
        exact hrefines before made more hinit
  | @control history w earlier op ih =>
      obtain ⟨hmirrors, hrefines⟩ := ih lasting
      exact ⟨hmirrors.rearranged ((earlier.rests.2 lasting).sound.partitioned.after op).2, hrefines⟩
  | @rest history w w' earlier goes ih =>
      have hbefore := Nat.le_trans (goes.issues earlier.rests.1).2 lasting
      obtain ⟨hmirrors, hrefines⟩ := ih hbefore
      rw [((earlier.rests.2 hbefore).rest goes).2]
      exact ⟨hmirrors, hrefines⟩

/-- A world in which a call for the key "k" of that partition has been made, and has returned. -/
def afterCall (call : KeyCall) (w : World Cluster) : World Cluster :=
  (Client.one "k".toUTF8.toList call w 1).1.runUntil Cluster.network (fun _ => true) none 20

/-- The client stores the digits of five with some flags, -/
def stored : World Cluster := afterCall (.store .set "5".toUTF8.toList { flags := 7 }) outdated

/-- reads them, -/
def readBack : World Cluster := afterCall .get stored

/-- and counts one more. -/
def counted : World Cluster := afterCall (.counter .increment 1 none) readBack

/-- The calls by which it does so. -/
def storing : Made :=
  .between outdated stored "k".toUTF8.toList (.store .set "5".toUTF8.toList { flags := 7 })
    (.ok (.changed ⟨1⟩))

@[inherit_doc storing]
def reading : Made :=
  .between stored readBack "k".toUTF8.toList .get (.ok (.found ⟨"5".toUTF8.toList, 7, 1⟩))

@[inherit_doc storing]
def counting : Made :=
  .between readBack counted "k".toUTF8.toList (.counter .increment 1 none) (.ok (.counted ⟨6, 2⟩))

end Serial

end ClusterKv

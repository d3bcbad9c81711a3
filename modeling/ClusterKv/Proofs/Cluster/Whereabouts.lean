import ClusterKv.Proofs.Cluster.Rebalancing

/-! # Where to look for a partition

The published map names the node that has a partition, as its owner or as the node that it is headed
to, unless a partition that has gone ahead is headed elsewhere by another rebalance. -/

namespace ClusterKv.Cluster

variable {c c' : Cluster} {p : UInt16}

/-! ## Where partitions are headed -/

/-- Where a partition is headed after these moves; the last one counts. -/
def headed? (partition : Nat) : List (Nat × Nat) → Option Nat
  | [] => none
  | (other, place) :: rest =>
    (headed? partition rest).or (if other = partition then some place else none)

theorem headFor_getElem? {moves : List (Nat × Nat)} {places result : List Nat} {partition : Nat}
    (h : c.headFor moves places = .ok result) (hpartition : partition < places.length) :
    result[partition]? = (headed? partition moves).or places[partition]? := by
  induction moves generalizing places with
  | nil =>
      obtain rfl : places = result := by simpa [headFor] using h
      rfl
  | cons move rest ih =>
      obtain ⟨other, place⟩ := move
      simp only [headFor] at h
      split at h
      · cases h
      · rw [ih h (by simpa using hpartition), headed?, List.getElem?_set, Option.or_assoc]
        by_cases hother : other = partition
        · simp [hother, hpartition]
        · simp [hother]

/-! ## Where partitions go -/

/-- A partition that moves comes to its goal, and no other partition moves. -/
theorem Partitioned.moveData_to (hc : Partitioned c) {partition place : Nat}
    (hpartition : partition < c.current.length) (hplace : place < c.nodes.length)
    (h : c.moveData partition place = .ok c') :
    (Partitioned c' ∧ ∃ nodes, nodes.length = c.nodes.length ∧ c' = { c with nodes }) ∧
      c'.OwnedAt partition.toUInt16 place ∧
        ∀ q : UInt16, q.toNat ≠ partition → ∀ i, c'.OwnedAt q i ↔ c.OwnedAt q i := by
  have hnat := toUInt16_toNat (Nat.lt_of_lt_of_le hpartition hc.small)
  obtain ⟨origin, data, hdata, hkeys⟩ := hc.held partition.toUInt16 (by omega)
  obtain ⟨nodes, heq, -, hmoved, hothers⟩ := moveData_held hplace hdata hkeys rfl
  obtain ⟨_, heq', hrearranged⟩ := hc.moveData partition hpartition hplace
  obtain rfl := Except.ok.inj (heq.symm.trans h)
  obtain rfl := congrArg Cluster.nodes (Except.ok.inj (heq.symm.trans heq'))
  have hmoved : Held { c with nodes }.nodes partition.toUInt16 place data := hmoved
  refine ⟨⟨hrearranged.partitioned hc hc.current hc.forward, nodes, hrearranged.length, rfl⟩,
    hmoved.ownedAt_iff.mpr rfl, fun q hq i => ?_⟩
  have hother : q ≠ partition.toUInt16 := fun hsame => hq (hsame ▸ hnat)
  rw [ownedAt_iff, ownedAt_iff, hothers q hother i]

/-- Partitions that move one after another come to their goals, and those before them stay. -/
theorem Partitioned.moveAll_to (hc : Partitioned c) {places : List Nat} {first : Nat}
    (hcount : first + places.length ≤ c.current.length)
    (hplaces : ∀ place ∈ places, place < c.nodes.length)
    (h : c.moveAll first places = .ok c') :
    (∀ (q : UInt16) (i place : Nat), places[i]? = some place → q.toNat = first + i →
      c'.OwnedAt q place) ∧
    ∀ q : UInt16, q.toNat < first → ∀ i, c'.OwnedAt q i ↔ c.OwnedAt q i := by
  induction places generalizing c first with
  | nil =>
      obtain rfl := Except.ok.inj h
      exact ⟨by simp, fun _ _ _ => .rfl⟩
  | cons goal rest ih =>
      simp only [List.length_cons] at hcount
      simp only [Cluster.moveAll] at h
      split at h
      · cases h
      next moved hmoved =>
      obtain ⟨⟨hpartitioned, nodes, hlength, rfl⟩, hgoal, hothers⟩ :=
        hc.moveData_to (by omega) (hplaces goal List.mem_cons_self) hmoved
      obtain ⟨hrest, hbefore⟩ := ih hpartitioned (by simp; omega)
        (fun place hplace => hlength ▸ hplaces place (List.mem_cons_of_mem _ hplace)) h
      refine ⟨fun q i place hi hq => ?_, fun q hq i => ?_⟩
      · cases i with
        | zero =>
            obtain rfl : goal = place := by simpa using hi
            have hfirst : q = first.toUInt16 := by
              rw [show first = q.toNat from hq.symm]
              simp [Nat.toUInt16]
            rw [hbefore q (by omega), hfirst]
            exact hgoal
        | succ i => exact hrest q i place (by simpa using hi) (by omega)
      · rw [hbefore q (by omega), hothers q (by omega)]

/-! ## What the map says -/

/-- The map names the place where a partition is, as its owner or as where it is headed. -/
def Named (c : Cluster) (p : UInt16) : Prop :=
  ∃ place, c.OwnedAt p place ∧
    (c.current[p.toNat]? = some place ∨ ∃ places ∈ c.forward, places[p.toNat]? = some place)

/-- Everything may change but where a partition is, and what the map says about it. -/
theorem Named.congr (h : Named c p) (howned : ∀ place, c.OwnedAt p place → c'.OwnedAt p place)
    (hcurrent : c'.current[p.toNat]? = c.current[p.toNat]?)
    (hforward : (c'.forward.bind fun places => places[p.toNat]?) =
      c.forward.bind fun places => places[p.toNat]?) : Named c' p := by
  obtain ⟨place, hplace, hnames⟩ := h
  refine ⟨place, howned place hplace, hnames.imp (fun h => hcurrent.trans h) ?_⟩
  intro hheaded
  exact Option.bind_eq_some_iff.mp (hforward.trans (Option.bind_eq_some_iff.mpr hheaded))

/-- Nothing leads away from a partition that has gone ahead: a rebalance may head a partition
anywhere while it is with its owner, and once it has gone ahead, only to where it is. -/
def Minds (c : Cluster) (p : UInt16) : Happening → Prop
  | .control (.beginRebalance moves) => ∀ place ∈ headed? p.toNat moves,
    c.OwnedAt p place ∨ ∃ owner ∈ c.current[p.toNat]?, c.OwnedAt p owner
  | .control _ | .request _ => True

/-- So it is with everything that happens. -/
def Steady (p : UInt16) : Cluster → List Happening → Prop
  | _, [] => True
  | c, happening :: rest => c.Minds p happening ∧ Steady p (c.happen happening) rest

/-! ## One thing that happens -/

/-- All partitions go to where they are headed, and that is where the map says that they are. -/
theorem Partitioned.finishRebalance (hc : Partitioned c) (hp : p.toNat < c.current.length)
    {forward : List Nat} {nodes : List Node} (rebalancing : c.forward = some forward)
    (moved : c.moveAll 0 forward = .ok { c with nodes }) :
    Named { c with nodes, current := forward, forward := none, revision := c.revision + 1 } p := by
  obtain ⟨hlength, hwithin⟩ := hc.forward forward rebalancing
  obtain ⟨hgoals, -⟩ := hc.moveAll_to (by omega) hwithin moved
  have hplace : forward[p.toNat]? = some forward[p.toNat] := List.getElem?_eq_getElem (by omega)
  exact ⟨_, hgoals p p.toNat _ hplace (Nat.zero_add _).symm, .inl hplace⟩

section

variable (hc : Partitioned c) (h : Named c p)
include hc h

/-- Nothing moves yet, and the map goes on naming the place if the rebalance follows it. -/
theorem Named.beginRebalance (hp : p.toNat < c.current.length) {moves : List (Nat × Nat)}
    (hminds : c.Minds p (.control (.beginRebalance moves))) {forward : List Nat}
    (headed : c.headFor moves (c.forward.getD c.current) = .ok forward) :
    Named { c with forward := some forward, revision := c.revision + 1 } p := by
  have hlength : (c.forward.getD c.current).length = c.current.length := by
    cases hold : c.forward with
    | none => rfl
    | some places => exact (hc.forward places hold).1
  have hheaded := headFor_getElem? headed (hlength ▸ hp)
  cases hmoves : headed? p.toNat moves with
  | some goal =>
      rw [hmoves, Option.some_or] at hheaded
      rcases hminds goal hmoves with hgoal | ⟨owner, howner, howns⟩
      · exact ⟨goal, hgoal, .inr ⟨forward, rfl, hheaded⟩⟩
      · exact ⟨owner, howns, .inl howner⟩
  | none =>
      rw [hmoves, Option.none_or] at hheaded
      obtain ⟨place, hplace, hnames⟩ := h
      refine ⟨place, hplace, hnames.imp_right ?_⟩
      rintro ⟨places, hplaces, hold⟩
      rw [Option.mem_def.mp hplaces, Option.getD_some, hold] at hheaded
      exact ⟨forward, rfl, hheaded⟩

/-- A partition goes to where it is headed. -/
theorem Named.transferPartition {partition place : Nat} {forward : List Nat} {nodes : List Node}
    (rebalancing : c.forward = some forward) (headed : forward[partition]? = some place)
    (moved : c.moveData partition place = .ok { c with nodes }) : Named { c with nodes } p := by
  obtain ⟨hlength, hwithin⟩ := hc.forward forward rebalancing
  obtain ⟨hpartition, -⟩ := List.getElem?_eq_some_iff.mp headed
  obtain ⟨-, hgoal, hothers⟩ :=
    hc.moveData_to (hlength ▸ hpartition) (hwithin place (List.mem_of_getElem? headed)) moved
  by_cases hsame : p.toNat = partition
  · subst hsame
    refine ⟨place, ?_, .inr ⟨forward, rebalancing, headed⟩⟩
    simpa [Nat.toUInt16] using hgoal
  · exact h.congr (fun i hi => (hothers p hsame i).mpr hi) rfl rfl

theorem Named.movePartition {partition goal : Nat} {nodes : List Node}
    (counted : partition < c.current.length) (there : goal < c.nodes.length)
    (moved : c.moveData partition goal = .ok { c with nodes }) :
    Named { c with nodes, current := c.current.set partition goal
                   forward := c.forward.map (·.set partition goal)
                   revision := c.revision + 1 } p := by
  obtain ⟨-, hgoal, hothers⟩ := hc.moveData_to counted there moved
  by_cases hsame : p.toNat = partition
  · subst hsame
    rw [show p.toNat.toUInt16 = p by simp [Nat.toUInt16]] at hgoal
    exact ⟨goal, hgoal, .inl (List.getElem?_set_self counted)⟩
  · refine h.congr (fun i hi => (hothers p hsame i).mpr hi) ?_ ?_
    · exact List.getElem?_set_ne (Ne.symm hsame)
    · cases c.forward with
      | none => rfl
      | some places => exact List.getElem?_set_ne (Ne.symm hsame)

/-- Whatever happens, the map goes on naming the place. -/
theorem Named.happen (hp : p.toNat < c.current.length) (happening : Happening)
    (hminds : c.Minds p happening) :
    Named (c.happen happening) p := by
  cases happening with
  | request d =>
      obtain ⟨place, data, hdata, -⟩ := hc.held p hp
      obtain ⟨node, hnode, -⟩ := hdata.node
      obtain ⟨_, data', -, hdata', -⟩ := hdata.executeOn hnode d.node d.request d.now
      refine h.congr (fun i hi => ?_) rfl rfl
      have hdata' : Held (c.happen (.request d)).nodes p place data' := hdata'
      exact hdata'.ownedAt_iff.mpr (hdata.ownedAt_iff.mp hi)
  | control op =>
      simp only [Cluster.happen, Cluster.after]
      split
      · next c' hdone =>
        cases control_does hdone with
        | beginRebalance headed => exact h.beginRebalance hc hp hminds headed
        | transferPartition rebalancing headed moved =>
            exact h.transferPartition hc rebalancing headed moved
        | finishRebalance rebalancing moved => exact hc.finishRebalance hp rebalancing moved
        | movePartition counted there moved => exact h.movePartition hc counted there moved
        | setUp there =>
            refine h.congr (fun i hi => ?_) rfl rfl
            rw [ownedAt_iff] at hi ⊢
            rwa [dataAt_setUp]
        | setAvailable => exact h.congr (fun _ hi => hi) rfl rfl
      · exact h

end

theorem Named.history (hc : Partitioned c) (h : Named c p) (hp : p.toNat < c.current.length)
    {happenings : List Happening} (hsteady : Steady p c happenings) :
    Named (c.history happenings) p := by
  induction happenings generalizing c with
  | nil => exact h
  | cons happening rest ih =>
      obtain ⟨hfirst, hrest⟩ := hsteady
      obtain ⟨hhappened, hcount⟩ := hc.happen happening
      exact ih hhappened (h.happen hc hp happening hfirst) (hcount ▸ hp) hrest

theorem Named.start {spec : ClusterSpec} (h : Cluster.start spec = .ok c)
    (hsmall : spec.partitions ≤ Topology.maxPartitions) (hp : p.toNat < spec.partitions) :
    Named c p := by
  have hdata := start_held h hsmall p
  obtain ⟨-, -, rfl⟩ := start_eq h
  refine ⟨p.toNat % spec.nodes.length, ?_, .inl (by simp [hp])⟩
  rw [ownedAt_iff, hdata, if_pos ⟨hp, rfl⟩]
  rfl

/-! ## The published table -/

/-- What a map names is the name of a node. -/
theorem lookup_eq {nodes : List Node} {places : List Nat} {place : Nat} {node : Node}
    (hplace : places[p.toNat]? = some place) (hnode : nodes[place]? = some node) :
    Topology.lookup (nodes.map (·.id)) (places.map some) p = some node.id := by
  simp [Topology.lookup, hplace, hnode]

/-- The published table names the node at a place, which owns a partition, as the owner of that or as
the node that it is headed to. -/
structure Published (c : Cluster) (p : UInt16) (table : Topology) (place : Nat) (node : Node) :
    Prop where
  built : c.table = .ok table
  there : c.nodes[place]? = some node
  owns : ∀ other, c.OwnedAt p other ↔ other = place
  named : table.owner p = some node.id ∨ table.forwardOwner p = some node.id

theorem Named.published (h : Named c p) (hc : Partitioned c) (hp : p.toNat < c.current.length) :
    ∃ table place node, Published c p table place node := by
  obtain ⟨place, howned, hnames⟩ := h
  obtain ⟨origin, data, hdata, -⟩ := hc.held p hp
  obtain rfl := hdata.ownedAt_iff.mp howned
  obtain ⟨node, hnode, -⟩ := howned
  refine ⟨_, place, node, hc.table_eq, hnode, fun other => hdata.ownedAt_iff, ?_⟩
  refine hnames.imp (lookup_eq · hnode) ?_
  rintro ⟨places, hplaces, hplace⟩
  simp only [Topology.forwardOwner, Option.mem_def.mp hplaces]
  exact lookup_eq hplace hnode

/-- Whatever a cluster is asked and told, the published table names the node that owns a partition,
if no rebalance leads away from a partition that has gone ahead. -/
theorem table_names_owner {spec : ClusterSpec} (hnodes : 0 < spec.nodes.length)
    (hpartitions : 0 < spec.partitions) (hsmall : spec.partitions ≤ Topology.maxPartitions) :
    ∃ c, Cluster.start spec = .ok c ∧
      ∀ (p : UInt16) (happenings : List Happening), p.toNat < spec.partitions →
        Steady p c happenings →
          ∃ table place node, Published (c.history happenings) p table place node := by
  obtain ⟨c, hstart⟩ := start_ok hnodes hpartitions
  refine ⟨c, hstart, fun p happenings hp hsteady => ?_⟩
  have hc := start_partitioned hstart hsmall
  have hcount : p.toNat < c.current.length := by
    rw [(start_eq hstart).2.2]
    simpa using hp
  obtain ⟨hpartitioned, hsame⟩ := hc.history happenings
  exact ((Named.start hstart hsmall hp).history hc hcount hsteady).published hpartitioned
    (hsame ▸ hcount)

instance (c : Cluster) (p : UInt16) (place : Nat) : Decidable (c.OwnedAt p place) :=
  decidable_of_iff _ ownedAt_iff.symm

instance (c : Cluster) (p : UInt16) : (happening : Happening) → Decidable (c.Minds p happening)
  | .control (.beginRebalance moves) =>
    inferInstanceAs (Decidable (∀ place ∈ headed? p.toNat moves,
      c.OwnedAt p place ∨ ∃ owner ∈ c.current[p.toNat]?, c.OwnedAt p owner))
  | .control (.transferPartition _) | .control .finishRebalance | .control (.movePartition ..)
  | .control (.setUp ..) | .control (.setAvailable _) | .request _ => isTrue trivial

instance decidableSteady (p : UInt16) :
    (c : Cluster) → (happenings : List Happening) → Decidable (Steady p c happenings)
  | _, [] => isTrue trivial
  | c, happening :: rest =>
    haveI := decidableSteady p (c.happen happening) rest
    instDecidableAnd

/-- In the middle of a rebalance a partition that has gone ahead may be headed on to where it is,
and another one may be called back. -/
def midway : List Happening :=
  [.control (.beginRebalance [(0, 1), (1, 0)]), .control (.transferPartition 0),
    .control (.beginRebalance [(0, 1), (1, 1)])]

theorem midway_named :
    ((startedPair.history midway).OwnedAt 0 1 ∧ (startedPair.history midway).ownerOf 0 = some 0 ∧
      Steady 0 startedPair midway ∧ Steady 1 startedPair midway) ∧
    (∃ table place node, Published (startedPair.history midway) 0 table place node) ∧
      ∃ table place node, Published (startedPair.history midway) 1 table place node := by
  have hfirst : Steady 0 startedPair midway := by decide +kernel
  have hsecond : Steady 1 startedPair midway := by decide +kernel
  obtain ⟨c, hstart, hall⟩ := @table_names_owner pair (by decide) (by decide) (by decide)
  obtain rfl := Except.ok.inj (hstart.symm.trans start_pair)
  refine ⟨⟨by decide +kernel, by decide +kernel, hfirst, hsecond⟩, ?_, ?_⟩
  · exact hall 0 midway (by decide) hfirst
  · exact hall 1 midway (by decide) hsecond

/-- A rebalance that calls back a partition which has gone ahead leads away from it. -/
def calledBack : List Control :=
  [.beginRebalance [(0, 1)], .transferPartition 0, .beginRebalance [(0, 0)]]

/-- Then the published table does not name the node that owns the partition, though nothing was
refused. -/
theorem called_back_misnamed :
    (∃ c, calledBack.foldlM Cluster.control startedPair = .ok c ∧
      c = startedPair.history (calledBack.map .control)) ∧
    (startedPair.history (calledBack.map .control)).OwnedAt 0 1 ∧
    ∃ table, (startedPair.history (calledBack.map .control)).table = .ok table ∧
      table.nodes[1]? = some ⟨"n1"⟩ ∧
      table.owner 0 = some ⟨"n0"⟩ ∧ table.forwardOwner 0 = some ⟨"n0"⟩ :=
  ⟨⟨_, rfl, by decide +kernel⟩, by decide +kernel, _, rfl, by decide +kernel⟩

end ClusterKv.Cluster

import ClusterKv.Proofs.Cluster.Holdings

/-! # Telling a cluster what to do

Whatever a cluster is told, each partition stays with one node, with the items it had. -/

namespace ClusterKv.Cluster

/-- What a cluster can be told. -/
inductive Control where
  | beginRebalance (moves : List (Nat × Nat))
  | transferPartition (partition : Nat)
  | finishRebalance
  | movePartition (partition place : Nat)
  | setUp (index : Nat) (isUp : Bool)
  /-- The map is to be had from now on, or not. -/
  | setAvailable (available : Bool)
deriving DecidableEq, Repr

/-- What comes of telling a cluster something. -/
def control (c : Cluster) : Control → Except ClusterFault Cluster
  | .beginRebalance moves => c.beginRebalance moves
  | .transferPartition partition => c.transferPartition partition
  | .finishRebalance => c.finishRebalance
  | .movePartition partition place => c.movePartition partition place
  | .setUp index isUp => c.setUp index isUp
  | .setAvailable available => .ok { c with available }

/-- A cluster after it was told something. What it does not do leaves it as it is. -/
def after (c : Cluster) (op : Control) : Cluster :=
  match c.control op with
  | .ok c => c
  | .error _ => c

/-! ## Partitioned clusters -/

/-- Each partition is with one node, and the maps point to nodes that there are. -/
structure Partitioned (c : Cluster) : Prop where
  small : c.current.length ≤ Topology.maxPartitions
  held : ∀ p : UInt16, p.toNat < c.current.length →
    ∃ place data, Held c.nodes p place data ∧ (Assoc.keys data).Nodup
  beyond : ∀ p : UInt16, c.current.length ≤ p.toNat → ∀ i, dataAt c.nodes i p = none
  current : ∀ place ∈ c.current, place < c.nodes.length
  forward : ∀ places ∈ c.forward,
    places.length = c.current.length ∧ ∀ place ∈ places, place < c.nodes.length

/-- Partitions have gone from place to place, and that is all that has happened to the nodes. What
was published before is not ahead of what is published now. -/
structure Rearranged (c c' : Cluster) : Prop where
  older : c.revision ≤ c'.revision
  shells : c'.nodes.map Node.shell = c.nodes.map Node.shell
  credentials : c'.credentials = c.credentials
  count : c'.current.length = c.current.length
  held : ∀ {p : UInt16} {place data}, Held c.nodes p place data →
    ∃ place', Held c'.nodes p place' data
  beyond : ∀ {p : UInt16}, (∀ i, dataAt c.nodes i p = none) → ∀ i, dataAt c'.nodes i p = none

theorem Rearranged.refl (c : Cluster) : Rearranged c c :=
  ⟨Nat.le_refl _, rfl, rfl, rfl, fun h => ⟨_, h⟩, fun h => h⟩

theorem Rearranged.trans {c c' c'' : Cluster} (h : Rearranged c c') (h' : Rearranged c' c'') :
    Rearranged c c'' where
  older := Nat.le_trans h.older h'.older
  shells := h'.shells.trans h.shells
  credentials := h'.credentials.trans h.credentials
  count := h'.count.trans h.count
  held := fun hp => by
    obtain ⟨place, hplace⟩ := h.held hp
    exact h'.held hplace
  beyond := fun hp => h'.beyond (h.beyond hp)

theorem Rearranged.length {c c' : Cluster} (h : Rearranged c c') :
    c'.nodes.length = c.nodes.length := by
  simpa using congrArg List.length h.shells

/-- Partitions that go from place to place leave a cluster partitioned if the maps stay sound. -/
theorem Rearranged.partitioned {c c' : Cluster} (h : Rearranged c c') (hc : Partitioned c)
    (hcurrent : ∀ place ∈ c'.current, place < c.nodes.length)
    (hforward : ∀ places ∈ c'.forward,
      places.length = c.current.length ∧ ∀ place ∈ places, place < c.nodes.length) :
    Partitioned c' where
  small := h.count ▸ hc.small
  held := fun p hp => by
    obtain ⟨place, data, hdata, hkeys⟩ := hc.held p (h.count ▸ hp)
    obtain ⟨place', hplace'⟩ := h.held hdata
    exact ⟨place', data, hplace', hkeys⟩
  beyond := fun p hp => h.beyond (hc.beyond p (h.count ▸ hp))
  current := by rwa [h.length]
  forward := by rwa [h.length, h.count]

variable {c c' : Cluster}

theorem toUInt16_toNat {partition : Nat} (h : partition < Topology.maxPartitions) :
    partition.toUInt16.toNat = partition := by
  simpa [Nat.toUInt16] using h

/-! ## Moves -/

/-- Moving the items of a partition rearranges the nodes and nothing else. -/
theorem Partitioned.moveData (hc : Partitioned c) (partition : Nat) {place : Nat}
    (hpartition : partition < c.current.length) (hplace : place < c.nodes.length) :
    ∃ nodes, c.moveData partition place = .ok { c with nodes } ∧
      Rearranged c { c with nodes } := by
  have hnat := toUInt16_toNat (Nat.lt_of_lt_of_le hpartition hc.small)
  obtain ⟨origin, data, hdata, hkeys⟩ := hc.held partition.toUInt16 (by omega)
  obtain ⟨nodes, heq, hshells, hmoved, hothers⟩ := moveData_held hplace hdata hkeys rfl
  refine ⟨nodes, heq, Nat.le_refl _, hshells, rfl, rfl, ?_, ?_⟩
  · intro p i data' hp
    by_cases hpp : p = partition.toUInt16
    · subst hpp
      obtain ⟨-, rfl⟩ := hdata.unique hp
      exact ⟨place, hmoved⟩
    · exact ⟨i, fun j => (hothers p hpp j).trans (hp j)⟩
  · intro p hp i
    have hpp : p ≠ partition.toUInt16 := by
      rintro rfl
      have := hdata origin
      rw [hp origin] at this
      simp at this
    exact (hothers p hpp i).trans (hp i)

theorem Partitioned.moveAll (hc : Partitioned c) (places : List Nat) (partition : Nat)
    (hcount : partition + places.length ≤ c.current.length)
    (hplaces : ∀ place ∈ places, place < c.nodes.length) :
    ∃ nodes, c.moveAll partition places = .ok { c with nodes } ∧
      Rearranged c { c with nodes } := by
  induction places generalizing c partition with
  | nil => exact ⟨c.nodes, rfl, .refl c⟩
  | cons place rest ih =>
      obtain ⟨nodes, heq, hmoved⟩ :=
        hc.moveData partition (by simp at hcount; omega) (hplaces place (by simp))
      have hc' : Partitioned { c with nodes } := hmoved.partitioned hc hc.current hc.forward
      obtain ⟨nodes', heq', hmoved'⟩ := ih hc' (partition + 1) (by simp at hcount ⊢; omega)
        (fun place' h => hmoved.length ▸ hplaces place' (by simp [h]))
      exact ⟨nodes', by simp [Cluster.moveAll, heq, heq'], hmoved.trans hmoved'⟩

/-! ## Controls -/

/-- Moving a partition changes nothing but nodes. -/
theorem moveData_frame {partition place : Nat} (h : c.moveData partition place = .ok c') :
    ∃ nodes, c' = { c with nodes } := by
  simp only [moveData] at h
  split at h
  · cases h
  split at h
  · exact ⟨c.nodes, (Except.ok.inj h).symm⟩
  · exact ⟨_, (Except.ok.inj h).symm⟩

theorem moveAll_frame {places : List Nat} {partition : Nat}
    (h : c.moveAll partition places = .ok c') : ∃ nodes, c' = { c with nodes } := by
  induction places generalizing c partition with
  | nil => exact ⟨c.nodes, (Except.ok.inj h).symm⟩
  | cons place rest ih =>
      simp only [Cluster.moveAll] at h
      split at h
      · cases h
      next moved hmoved =>
      obtain ⟨_, rfl⟩ := moveData_frame hmoved
      obtain ⟨nodes, rfl⟩ := ih h
      exact ⟨nodes, rfl⟩

theorem checkMove_within {partition place : Nat} (h : c.checkMove partition place = .ok ()) :
    partition < c.current.length ∧ place < c.nodes.length := by
  unfold checkMove at h
  split at h
  · cases h
  split at h
  · cases h
  · omega

/-- What a cluster becomes that does what it is told. -/
inductive Does (c : Cluster) : Control → Cluster → Prop where
  | beginRebalance {moves : List (Nat × Nat)} {forward : List Nat}
      (headed : c.headFor moves (c.forward.getD c.current) = .ok forward) :
      Does c (.beginRebalance moves) { c with forward := some forward, revision := c.revision + 1 }
  | transferPartition {partition place : Nat} {forward : List Nat} {nodes : List Node}
      (rebalancing : c.forward = some forward) (headed : forward[partition]? = some place)
      (moved : c.moveData partition place = .ok { c with nodes }) :
      Does c (.transferPartition partition) { c with nodes }
  | finishRebalance {forward : List Nat} {nodes : List Node}
      (rebalancing : c.forward = some forward)
      (moved : c.moveAll 0 forward = .ok { c with nodes }) :
      Does c .finishRebalance
        { c with nodes, current := forward, forward := none, revision := c.revision + 1 }
  | movePartition {partition place : Nat} {nodes : List Node}
      (counted : partition < c.current.length) (there : place < c.nodes.length)
      (moved : c.moveData partition place = .ok { c with nodes }) :
      Does c (.movePartition partition place)
        { c with nodes, current := c.current.set partition place
                 forward := c.forward.map (·.set partition place)
                 revision := c.revision + 1 }
  | setUp {index : Nat} {isUp : Bool} (there : index < c.nodes.length) :
      Does c (.setUp index isUp)
        { c with nodes := c.nodes.modify index fun node => { node with isUp } }
  | setAvailable {available : Bool} : Does c (.setAvailable available) { c with available }

theorem control_does {op : Control} (h : c.control op = .ok c') : Does c op c' := by
  cases op with
  | beginRebalance moves =>
      simp only [Cluster.control, Cluster.beginRebalance] at h
      split at h
      · cases h
      next forward headed =>
      cases h
      exact .beginRebalance headed
  | transferPartition partition =>
      simp only [Cluster.control, Cluster.transferPartition] at h
      split at h
      · cases h
      next forward rebalancing =>
      split at h
      · cases h
      next place headed =>
      obtain ⟨nodes, rfl⟩ := moveData_frame h
      exact .transferPartition rebalancing headed h
  | finishRebalance =>
      simp only [Cluster.control, Cluster.finishRebalance] at h
      split at h
      · cases h
      next forward rebalancing =>
      split at h
      · cases h
      next moved hmoved =>
      cases h
      obtain ⟨nodes, rfl⟩ := moveAll_frame hmoved
      exact .finishRebalance rebalancing hmoved
  | movePartition partition place =>
      simp only [Cluster.control, Cluster.movePartition] at h
      split at h
      · cases h
      next hcheck =>
      split at h
      · cases h
      next moved hmoved =>
      cases h
      obtain ⟨counted, there⟩ := checkMove_within hcheck
      obtain ⟨nodes, rfl⟩ := moveData_frame hmoved
      exact .movePartition counted there hmoved
  | setUp index isUp =>
      simp only [Cluster.control, Cluster.setUp] at h
      split at h
      · next there =>
        cases h
        exact .setUp there
      · cases h
  | setAvailable available =>
      cases h
      exact .setAvailable

theorem headFor_within {moves : List (Nat × Nat)} {places result : List Nat}
    (h : c.headFor moves places = .ok result)
    (hplaces : places.length = c.current.length ∧ ∀ place ∈ places, place < c.nodes.length) :
    result.length = c.current.length ∧ ∀ place ∈ result, place < c.nodes.length := by
  induction moves generalizing places with
  | nil =>
      obtain rfl : places = result := by simpa [headFor] using h
      exact hplaces
  | cons move rest ih =>
      obtain ⟨partition, place⟩ := move
      simp only [headFor] at h
      split at h
      · cases h
      next hcheck =>
      refine ih h ⟨by simpa using hplaces.1, fun place' hmem => ?_⟩
      rcases List.mem_or_eq_of_mem_set hmem with hmem | rfl
      · exact hplaces.2 _ hmem
      · exact (checkMove_within hcheck).2

/-- A node that stops or comes back keeps its data. -/
theorem dataAt_setUp (nodes : List Node) (index : Nat) (isUp : Bool) (i : Nat) (p : UInt16) :
    dataAt (nodes.modify index fun node => { node with isUp }) i p = dataAt nodes i p := by
  unfold dataAt
  rw [List.getElem?_modify]
  cases nodes[i]? with
  | none => rfl
  | some node => by_cases hi : index = i <;> simp [hi]

theorem mem_set_lt {places : List Nat} {i place bound : Nat} (h : ∀ q ∈ places, q < bound)
    (hplace : place < bound) : ∀ q ∈ places.set i place, q < bound := by
  intro q hq
  rcases List.mem_or_eq_of_mem_set hq with hq | rfl
  · exact h q hq
  · exact hplace

/-- Whatever a cluster is told, it stays partitioned, and partitions only go from place to
place. -/
theorem Partitioned.control (hc : Partitioned c) {op : Control} (h : c.control op = .ok c') :
    Partitioned c' ∧ Rearranged c c' := by
  cases control_does h with
  | @beginRebalance _ forward headed =>
      have hplaces := headFor_within headed (by
        cases hf : c.forward with
        | none => exact ⟨rfl, hc.current⟩
        | some places => exact hc.forward places (by simp [hf]))
      have hmoved : Rearranged c
          { c with forward := some forward, revision := c.revision + 1 } :=
        ⟨Nat.le_succ _, rfl, rfl, rfl, fun h => ⟨_, h⟩, fun h => h⟩
      exact ⟨hmoved.partitioned hc hc.current (by simpa using hplaces), hmoved⟩
  | @transferPartition partition place forward nodes rebalancing headed moved =>
      have hwithin := hc.forward forward rebalancing
      obtain ⟨hlt, -⟩ := List.getElem?_eq_some_iff.mp headed
      obtain ⟨_, heq, hmoved⟩ := hc.moveData partition (hwithin.1 ▸ hlt)
        (hwithin.2 place (List.mem_of_getElem? headed))
      obtain rfl := congrArg Cluster.nodes (Except.ok.inj (moved.symm.trans heq))
      exact ⟨hmoved.partitioned hc hc.current hc.forward, hmoved⟩
  | @finishRebalance forward nodes rebalancing moved =>
      have hwithin := hc.forward forward rebalancing
      obtain ⟨_, heq, hmoved⟩ := hc.moveAll forward 0 (by omega) hwithin.2
      obtain rfl := congrArg Cluster.nodes (Except.ok.inj (moved.symm.trans heq))
      have hmoved' : Rearranged c
          { c with nodes, current := forward, forward := none, revision := c.revision + 1 } :=
        ⟨Nat.le_succ _, hmoved.shells, rfl, hwithin.1, hmoved.held, hmoved.beyond⟩
      exact ⟨hmoved'.partitioned hc hwithin.2 (by simp), hmoved'⟩
  | @movePartition partition place nodes counted there moved =>
      obtain ⟨_, heq, hmoved⟩ := hc.moveData partition counted there
      obtain rfl := congrArg Cluster.nodes (Except.ok.inj (moved.symm.trans heq))
      have hmoved' : Rearranged c
          { c with nodes, current := c.current.set partition place
                   forward := c.forward.map (·.set partition place)
                   revision := c.revision + 1 } :=
        ⟨Nat.le_succ _, hmoved.shells, rfl, by simp, hmoved.held, hmoved.beyond⟩
      refine ⟨hmoved'.partitioned hc (mem_set_lt hc.current there) ?_, hmoved'⟩
      intro places hplaces
      obtain ⟨old, hold, rfl⟩ := Option.map_eq_some_iff.mp hplaces
      have hwithin := hc.forward old hold
      exact ⟨by simpa using hwithin.1, mem_set_lt hwithin.2 there⟩
  | @setUp index isUp there =>
      have hmoved : Rearranged c
          { c with nodes := c.nodes.modify index fun node => { node with isUp } } := by
        refine ⟨Nat.le_refl _, ?_, rfl, rfl, fun h => ⟨_, fun i => (dataAt_setUp ..).trans (h i)⟩,
          fun h i => (dataAt_setUp ..).trans (h i)⟩
        refine List.ext_getElem (by simp) fun i h₁ h₂ => ?_
        simp only [List.getElem_map, List.getElem_modify]
        split <;> rfl
      exact ⟨hmoved.partitioned hc hc.current hc.forward, hmoved⟩
  | @setAvailable available =>
      have hmoved : Rearranged c { c with available } :=
        ⟨Nat.le_refl _, rfl, rfl, rfl, fun h => ⟨_, h⟩, fun h => h⟩
      exact ⟨hmoved.partitioned hc hc.current hc.forward, hmoved⟩

theorem Partitioned.after (hc : Partitioned c) (op : Control) :
    Partitioned (c.after op) ∧ Rearranged c (c.after op) := by
  unfold Cluster.after
  split
  · next h => exact hc.control h
  · exact ⟨hc, .refl c⟩

/-- However much a cluster is told, it stays partitioned. -/
theorem Partitioned.afterAll (hc : Partitioned c) (ops : List Control) :
    Partitioned (ops.foldl Cluster.after c) ∧ Rearranged c (ops.foldl Cluster.after c) := by
  induction ops generalizing c with
  | nil => exact ⟨hc, .refl c⟩
  | cons op rest ih =>
      obtain ⟨hpartitioned, hmoved⟩ := hc.after op
      obtain ⟨hpartitioned', hmoved'⟩ := ih hpartitioned
      exact ⟨hpartitioned', hmoved.trans hmoved'⟩

/-! ## Sizes

Maps keep their sizes even where there are more partitions than a table can tell apart. -/

theorem length_headFor {moves : List (Nat × Nat)} {places result : List Nat}
    (h : c.headFor moves places = .ok result) : result.length = places.length := by
  induction moves generalizing places with
  | nil => rw [← Except.ok.inj h]
  | cons move rest ih =>
      simp only [headFor] at h
      split at h
      · cases h
      · simpa using ih h

/-- The forward map is as long as the current one. -/
def Sized (c : Cluster) : Prop := ∀ places ∈ c.forward, places.length = c.current.length

theorem Sized.after (h : Sized c) (op : Control) :
    Sized (c.after op) ∧ (c.after op).current.length = c.current.length := by
  unfold Cluster.after
  split
  · next c' hdone =>
    cases control_does hdone with
    | beginRebalance headed =>
        refine ⟨fun places hplaces => ?_, rfl⟩
        obtain rfl := Option.some.inj hplaces
        rw [length_headFor headed]
        cases hold : c.forward with
        | none => rfl
        | some places => exact h places hold
    | finishRebalance rebalancing => exact ⟨by simp [Sized], h _ rebalancing⟩
    | movePartition =>
        refine ⟨fun places hplaces => ?_, by simp⟩
        obtain ⟨old, hold, rfl⟩ := Option.map_eq_some_iff.mp hplaces
        simpa using h old hold
    | transferPartition | setUp | setAvailable => exact ⟨h, rfl⟩
  · exact ⟨h, rfl⟩

theorem Sized.afterAll (h : Sized c) (ops : List Control) :
    (ops.foldl Cluster.after c).current.length = c.current.length := by
  induction ops generalizing c with
  | nil => rfl
  | cons op rest ih =>
      obtain ⟨hsized, hcount⟩ := h.after op
      exact (ih hsized).trans hcount

/-! ## Requests -/

/-- A request leaves every partition where it is. -/
theorem Partitioned.executeOn (hc : Partitioned c) (id : NodeId) (request : Request)
    (now : Instant) :
    Partitioned { c with nodes := (executeOn id request now c.nodes).1 } where
  small := hc.small
  held := fun p hp => by
    obtain ⟨place, data, hdata, hkeys⟩ := hc.held p hp
    obtain ⟨node, hnode, -⟩ := hdata.node
    obtain ⟨_, data', -, hdata', htouch⟩ := hdata.executeOn hnode id request now
    exact ⟨place, data', hdata', htouch.nodup_keys hkeys⟩
  beyond := fun p hp i => executeOn_unowned (hc.beyond p hp) _ _ _ i
  current := fun place hplace => by
    simpa [length_executeOn] using hc.current place hplace
  forward := fun places hplaces => by
    simpa [length_executeOn] using hc.forward places hplaces

/-! ## The beginning -/

theorem get?_ofOwned (owned : List UInt16) (limit : Nat) (p : UInt16) :
    (Store.ofOwned owned limit).partitions.get? p = if p ∈ owned then some [] else none := by
  suffices h : ∀ m : Assoc UInt16 PartitionData,
      (owned.foldl (fun partitions p => partitions.put p []) m).get? p =
        if p ∈ owned then some [] else m.get? p by
    simpa [Store.ofOwned] using h []
  induction owned with
  | nil => simp
  | cons q rest ih =>
      intro m
      rw [List.foldl_cons, ih]
      by_cases hrest : p ∈ rest
      · simp [hrest]
      · by_cases hq : p = q
        · simp [hq]
        · simp [hrest, hq]

/-- The partitions that go to one node when a cluster starts. -/
theorem mem_dealt {count total place : Nat} {p : UInt16} (htotal : total ≤ Topology.maxPartitions) :
    p ∈ ((List.range total).filter (· % count = place)).map Nat.toUInt16 ↔
      p.toNat < total ∧ p.toNat % count = place := by
  simp only [List.mem_map, List.mem_filter, List.mem_range, decide_eq_true_eq]
  constructor
  · rintro ⟨partition, ⟨hlt, hplace⟩, rfl⟩
    rw [toUInt16_toNat (Nat.lt_of_lt_of_le hlt htotal)]
    exact ⟨hlt, hplace⟩
  · rintro ⟨hlt, hplace⟩
    exact ⟨p.toNat, ⟨hlt, hplace⟩, by simp [Nat.toUInt16]⟩

theorem start_eq {spec : ClusterSpec} (h : Cluster.start spec = .ok c) :
    0 < spec.nodes.length ∧ 0 < spec.partitions ∧
      c = { nodes := spec.nodes.mapIdx fun index id =>
              { id, credentials := spec.credentials
                store := .ofOwned
                  (((List.range spec.partitions).filter (· % spec.nodes.length = index)).map
                    Nat.toUInt16) spec.maxValueLength }
            credentials := spec.credentials, revision := 1
            current := (List.range spec.partitions).map (· % spec.nodes.length)
            forward := none } := by
  simp only [Cluster.start] at h
  split at h
  · cases h
  next hcount =>
  split at h
  · cases h
  next htotal => exact ⟨Nat.pos_of_ne_zero hcount, Nat.pos_of_ne_zero htotal, (Except.ok.inj h).symm⟩

/-- A cluster starts with its partitions dealt out, all of them empty. -/
theorem start_held {spec : ClusterSpec} (h : Cluster.start spec = .ok c)
    (hsmall : spec.partitions ≤ Topology.maxPartitions) (p : UInt16) (i : Nat) :
    dataAt c.nodes i p =
      if p.toNat < spec.partitions ∧ i = p.toNat % spec.nodes.length then some [] else none := by
  obtain ⟨hcount, -, rfl⟩ := start_eq h
  simp only [dataAt, List.getElem?_mapIdx, Option.bind_map]
  by_cases hi : i < spec.nodes.length
  · simp only [List.getElem?_eq_getElem hi, Option.bind_some, Function.comp_apply, get?_ofOwned,
      mem_dealt hsmall]
    by_cases hp : p.toNat < spec.partitions <;> simp [hp, eq_comm]
  · have hne : i ≠ p.toNat % spec.nodes.length := by
      have := Nat.mod_lt p.toNat hcount
      omega
    simp [List.getElem?_eq_none (Nat.le_of_not_lt hi), hne]

theorem start_partitioned {spec : ClusterSpec} (h : Cluster.start spec = .ok c)
    (hsmall : spec.partitions ≤ Topology.maxPartitions) : Partitioned c := by
  have hdata := start_held h hsmall
  obtain ⟨hpos, -, rfl⟩ := start_eq h
  refine ⟨by simpa using hsmall, ?_, ?_, ?_, by simp⟩
  · intro p hp
    refine ⟨p.toNat % spec.nodes.length, [], fun i => ?_, List.nodup_nil⟩
    rw [hdata p i]
    simp [show p.toNat < spec.partitions by simpa using hp]
  · intro p hp i
    have hp : spec.partitions ≤ p.toNat := by simpa using hp
    rw [hdata p i, if_neg (by omega)]
  · intro place hplace
    obtain ⟨partition, -, rfl⟩ := List.mem_map.mp hplace
    simpa using Nat.mod_lt _ hpos

/-- Two nodes with one partition each. -/
def pair : ClusterSpec := { nodes := [⟨"n0"⟩, ⟨"n1"⟩], partitions := 2 }

/-- What the two start as. -/
def startedPair : Cluster where
  nodes := [{ id := ⟨"n0"⟩, credentials := pair.credentials, store := .ofOwned [0] },
    { id := ⟨"n1"⟩, credentials := pair.credentials, store := .ofOwned [1] }]
  credentials := pair.credentials
  revision := 1
  current := [0, 1]
  forward := none

theorem start_pair : Cluster.start pair = .ok startedPair := rfl

end ClusterKv.Cluster

import ClusterKv.Cluster.Admin
import ClusterKv.Proofs.Cluster.Rebalancing
import ClusterKv.Proofs.Cluster.Tables
import ClusterKv.Proofs.Topology.Documents
import Mathlib.Data.List.Induction

/-! # A client that watches a cluster

A client fetches the published table again and again. Refreshes overlap: each gets the table of some
instant between its beginning and its end, they end in any order, and some of them fail. Still the
client never goes back to an older table. -/

namespace ClusterKv

namespace Cluster

variable {c c' : Cluster}

/-! ## What is published -/

/-- What the published table says. -/
def view (c : Cluster) : Topology :=
  ⟨c.revision, c.nodes.map (·.id), c.current.map some, c.forward.map (·.map some)⟩

/-- What is published has not changed, or its revision has grown. -/
def Follows (c c' : Cluster) : Prop := c'.view = c.view ∨ c.revision < c'.revision

theorem Follows.refl (c : Cluster) : Follows c c := .inl rfl

theorem Follows.revision_le (h : Follows c c') : c.revision ≤ c'.revision := by
  rcases h with hsame | hgrown
  · exact Nat.le_of_eq (congrArg Topology.revision hsame).symm
  · exact Nat.le_of_lt hgrown

/-- What is published under one revision is the same. -/
theorem Follows.view_eq (h : Follows c c') (hle : c'.revision ≤ c.revision) : c'.view = c.view :=
  h.resolve_right (Nat.not_lt_of_le hle)

theorem Follows.trans {c'' : Cluster} (h : Follows c c') (h' : Follows c' c'') : Follows c c'' := by
  rcases h' with hsame | hgrown
  · have hrevision : c''.revision = c'.revision := congrArg Topology.revision hsame
    exact h.imp hsame.trans fun hgrown => hrevision ▸ hgrown
  · exact .inr (Nat.lt_of_le_of_lt h.revision_le hgrown)

/-- Whatever happens, no table is published under the revision of another one. -/
theorem Partitioned.follows (hc : Partitioned c) (happening : Happening) :
    Follows c (c.happen happening) := by
  cases happening with
  | request d =>
      have hids := map_id_of_badges (executeOn_badges d.node d.request d.now c.nodes)
      exact .inl (by simp only [Cluster.happen, view, hids])
  | control op =>
      simp only [Cluster.happen, Cluster.after]
      split
      · next c' hdone =>
        have hids := map_id_of_badges (hc.control hdone).2.badges
        -- the maps change only together with the revision
        cases control_does hdone with
        | beginRebalance | finishRebalance | movePartition => exact .inr (Nat.lt_succ_self _)
        | transferPartition | setUp | setAvailable => exact .inl (by simp only [view, hids])
      · exact .refl c

/-! ## What is served -/

/-- A cluster whose table can be written down. -/
structure Serving (c : Cluster) : Prop where
  partitioned : Partitioned c
  populated : 0 < c.current.length
  /-- No table of it is as old as the one without partitions. -/
  numbered : 0 < c.revision
  /-- A document has room for the places of the nodes. -/
  room : c.nodes.length ≤ Topology.maxNodes

theorem Serving.happen (hc : Serving c) (happening : Happening) :
    Serving (c.happen happening) := by
  obtain ⟨hhappened, hcount⟩ := hc.partitioned.happen happening
  refine ⟨hhappened, hcount ▸ hc.populated,
    Nat.lt_of_lt_of_le hc.numbered (hc.partitioned.follows happening).revision_le, ?_⟩
  cases happening with
  | request d => simpa [Cluster.happen, length_executeOn] using hc.room
  | control op => exact (hc.partitioned.after op).2.length ▸ hc.room

theorem Serving.start {spec : ClusterSpec} (h : Cluster.start spec = .ok c)
    (hsmall : spec.partitions ≤ Topology.maxPartitions)
    (hroom : spec.nodes.length ≤ Topology.maxNodes) : Serving c := by
  have hpartitioned := start_partitioned h hsmall
  obtain ⟨-, hpartitions, rfl⟩ := start_eq h
  exact ⟨hpartitioned, by simpa using hpartitions, Nat.one_pos, by simpa using hroom⟩

/-- The endpoint serves what is published, and the client reads just that. -/
theorem Serving.fetchTable_eq (hc : Serving c) (bucket : String) :
    c.fetchTable bucket =
      if bucket = c.credentials.bucket ∧ c.available = true then some c.view else none := by
  have hread : Topology.ofDocument (c.view.toDocument bucket) = .ok c.view := by
    refine (Topology.ofDocument_toDocument bucket ?_ fun owners howners => ?_).trans
      hc.partitioned.table_eq
    · exact (withinNodes hc.partitioned.current).mono hc.room
    · obtain ⟨places, hplaces, rfl⟩ := Option.map_eq_some_iff.mp howners
      obtain ⟨hlength, hwithin⟩ := hc.partitioned.forward places hplaces
      have hsome : places ≠ [] := List.ne_nil_of_length_pos (hlength ▸ hc.populated)
      exact ⟨by simpa using hsome, (withinNodes hwithin).mono hc.room⟩
  have htable : c.table = .ok c.view := hc.partitioned.table_eq
  unfold fetchTable bucketConfig
  by_cases hbucket : bucket = c.credentials.bucket
  · cases c.available <;> simp [hbucket.symm, htable, hread, Except.toOption]
  · simp [hbucket]

end Cluster

/-! ## Refreshes -/

/-- A cluster, a client that watches it, and the refreshes in progress. -/
structure Watch where
  cluster : Cluster
  /-- The bucket that the client asks for. -/
  bucket : String
  client : Refresher := {}
  /-- The refreshes in progress, with the tables that they have got. -/
  fetches : Assoc Nat (Option Topology) := []

namespace Watch

/-- Something that happens to a cluster or to a client that watches it. -/
inductive Event where
  /-- A node is asked for something. -/
  | asked (d : Cluster.Delivery)
  /-- The cluster is told something. -/
  | told (op : Cluster.Control)
  | begins (refresh : Nat)
  /-- The endpoint answers a refresh in progress. If it does not serve the table the refresh goes on
  trying. -/
  | answered (refresh : Nat)
  /-- A refresh ends with the table that it has got. -/
  | ends (refresh : Nat)
  | fails (refresh : Nat) (error : TopologyError)

/-- A refresh is over. -/
def close (w : Watch) (refresh : Nat) (fetched : Except TopologyError Topology) : Watch :=
  { w with client := (w.client.finish fetched).1, fetches := w.fetches.erase refresh }

/-- One event. Only what is in progress goes on. -/
def step (w : Watch) : Event → Watch
  | .asked d => { w with cluster := w.cluster.happen (.request d) }
  | .told op => { w with cluster := ((Cluster.deed op).on w.cluster).2 }
  | .begins refresh =>
    match w.fetches.get? refresh with
    | none => { w with client := w.client.start, fetches := w.fetches.put refresh none }
    | some _ => w
  | .answered refresh =>
    match w.fetches.get? refresh, w.cluster.fetchTable w.bucket with
    | some none, some table => { w with fetches := w.fetches.put refresh (some table) }
    | _, _ => w
  | .ends refresh =>
    match w.fetches.get? refresh with
    | some (some table) => w.close refresh (.ok table)
    | _ => w
  | .fails refresh error =>
    match w.fetches.get? refresh with
    | some _ => w.close refresh (.error error)
    | none => w

/-- What has come of some events, one after another. -/
def run (w : Watch) (events : List Event) : Watch := events.foldl step w

variable {w : Watch}

@[simp] theorem run_nil (w : Watch) : w.run [] = w := rfl

@[simp] theorem run_concat (w : Watch) (events : List Event) (event : Event) :
    w.run (events ++ [event]) = (w.run events).step event :=
  List.foldl_append ..

theorem run_append (w : Watch) (events events' : List Event) :
    w.run (events ++ events') = (w.run events).run events' :=
  List.foldl_append ..

/-! ## One event -/

/-- Only what a cluster is asked and told changes it. -/
theorem step_cluster (hw : w.cluster.Partitioned) (event : Event) :
    (w.step event).cluster = w.cluster ∨
      ∃ happening, (w.step event).cluster = w.cluster.happen happening := by
  cases event with
  | asked d => exact .inr ⟨.request d, rfl⟩
  | told op => exact .inr ⟨.control op, by simp only [step, hw.deed_on, Cluster.happen]⟩
  | begins | answered | ends | fails => left; simp only [step]; split <;> rfl

theorem step_serving (hw : w.cluster.Serving) (event : Event) :
    (w.step event).cluster.Serving ∧ w.cluster.Follows (w.step event).cluster := by
  rcases step_cluster hw.partitioned event with hsame | ⟨happening, hhappened⟩
  · rw [hsame]
    exact ⟨hw, .refl _⟩
  · rw [hhappened]
    exact ⟨hw.happen happening, hw.partitioned.follows happening⟩

/-- What a refresh has got it has had before, or it is what is published. -/
theorem step_fetches (hw : w.cluster.Serving) {event : Event} {refresh : Nat} {table : Topology}
    (h : (w.step event).fetches.get? refresh = some (some table)) :
    w.fetches.get? refresh = some (some table) ∨
      w.fetches.get? refresh = some none ∧ table = w.cluster.view := by
  cases event with
  | asked | told => exact .inl h
  | begins other =>
      simp only [step] at h
      split at h
      · by_cases hother : refresh = other
        · simp [hother] at h
        · exact .inl (by simpa [hother] using h)
      · exact .inl h
  | answered other =>
      simp only [step] at h
      split at h
      · next served hasked hserved =>
        by_cases hother : refresh = other
        · obtain rfl : served = table := by simpa [hother] using h
          rw [hw.fetchTable_eq] at hserved
          split at hserved
          · exact .inr ⟨hother ▸ hasked, (Option.some.inj hserved).symm⟩
          · cases hserved
        · exact .inl (by simpa [hother] using h)
      · exact .inl h
  | ends other | fails other =>
      simp only [step] at h
      split at h
      · by_cases hother : refresh = other
        · simp [close, hother] at h
        · exact .inl (by simpa [close, hother] using h)
      · exact .inl h

/-- A client changes its table only for one that a refresh has got, and that is not older. -/
theorem step_client (w : Watch) (event : Event) :
    (w.step event).client.current = w.client.current ∨
      ∃ refresh, w.fetches.get? refresh = some (some (w.step event).client.current) ∧
        w.client.current.revision ≤ (w.step event).client.current.revision := by
  cases event with
  | asked | told => exact .inl rfl
  | begins | answered | fails => left; simp only [step]; split <;> rfl
  | ends refresh =>
      simp only [step]
      split
      · next table hgot =>
        by_cases hle : w.client.current.revision ≤ table.revision
        · have htable : (w.close refresh (.ok table)).client.current = table :=
            Refresher.publish_current hle
          exact .inr ⟨refresh, by rw [htable]; exact ⟨hgot, hle⟩⟩
        · have hkept := w.client.publish_current_eq table
          rw [if_neg hle] at hkept
          exact .inl hkept
      · exact .inl rfl

/-- When a refresh ends a client has a table that is not older than what the refresh has got. -/
theorem ends_client {refresh : Nat} {table : Topology}
    (h : w.fetches.get? refresh = some (some table)) :
    table.revision ≤ (w.step (.ends refresh)).client.current.revision := by
  simp only [step, h]
  exact Refresher.le_publish w.client table

/-! ## Any number of events -/

theorem run_serving (hw : w.cluster.Serving) (events : List Event) :
    (w.run events).cluster.Serving ∧ w.cluster.Follows (w.run events).cluster := by
  induction events using List.reverseRecOn with
  | nil => exact ⟨hw, .refl _⟩
  | append_singleton events event ih =>
      obtain ⟨hserving, hfollows⟩ := ih
      obtain ⟨hserving', hfollows'⟩ := step_serving hserving event
      rw [run_concat]
      exact ⟨hserving', hfollows.trans hfollows'⟩

theorem run_client (w : Watch) (events : List Event) :
    w.client.current.revision ≤ (w.run events).client.current.revision := by
  induction events using List.reverseRecOn with
  | nil => exact Nat.le_refl _
  | append_singleton events event ih =>
      rw [run_concat]
      rcases step_client (w.run events) event with hsame | ⟨-, -, hgrown⟩
      · rwa [hsame]
      · exact Nat.le_trans ih hgrown

/-- What is published at some point of a run is followed by what is published at the end. -/
theorem follows_later (hw : w.cluster.Serving) {earlier events : List Event}
    (h : earlier <+: events) : (w.run earlier).cluster.Follows (w.run events).cluster := by
  obtain ⟨later, rfl⟩ := h
  rw [run_append]
  exact (run_serving (run_serving hw earlier).1 later).2

/-- What a refresh has got was published after it began. -/
theorem got_since (hw : w.cluster.Serving) {refresh : Nat} (hfree : w.fetches.get? refresh = none)
    {events : List Event} {table : Topology}
    (h : (w.run events).fetches.get? refresh = some (some table)) :
    ∃ since, since <+: events ∧ table = (w.run since).cluster.view := by
  induction events using List.reverseRecOn with
  | nil =>
      rw [run_nil, hfree] at h
      cases h
  | append_singleton events event ih =>
      rw [run_concat] at h
      rcases step_fetches (run_serving hw events).1 h with hgot | ⟨-, htable⟩
      · obtain ⟨since, hsince, htable⟩ := ih hgot
        exact ⟨since, hsince.trans (List.prefix_append ..), htable⟩
      · exact ⟨events, List.prefix_append .., htable⟩

/-- A client that starts without a table has one that was published, or none. -/
theorem known (hw : w.cluster.Serving) (hclient : w.client = {}) (hfetches : w.fetches = [])
    (events : List Event) : (w.run events).client.current = .empty ∨
      ∃ earlier, earlier <+: events ∧
        (w.run events).client.current = (w.run earlier).cluster.view := by
  induction events using List.reverseRecOn with
  | nil => exact .inl (congrArg Refresher.current hclient)
  | append_singleton events event ih =>
      rw [run_concat]
      rcases step_client (w.run events) event with hsame | ⟨refresh, hgot, -⟩
      · rw [hsame]
        refine ih.imp_right ?_
        rintro ⟨earlier, hearlier, hcurrent⟩
        exact ⟨earlier, hearlier.trans (List.prefix_append ..), hcurrent⟩
      · obtain ⟨since, hsince, htable⟩ := got_since hw (by simp [hfetches]) hgot
        exact .inr ⟨since, hsince.trans (List.prefix_append ..), htable⟩

/-- From one point of a run to another, a client keeps abreast of a cluster. -/
structure Abreast (w : Watch) (before after : List Event) : Prop where
  /-- What is published changes only together with its revision, which grows. -/
  published : ∃ old new, (w.run before).cluster.table = .ok old ∧
    (w.run (before ++ after)).cluster.table = .ok new ∧
      (old ≠ new → old.revision < new.revision) ∧ (old.revision = new.revision → old = new)
  /-- The client has the table it started with, or one that was published. -/
  known : (w.run (before ++ after)).client.current = .empty ∨ ∃ earlier,
    earlier <+: before ++ after ∧
      (w.run earlier).cluster.table = .ok (w.run (before ++ after)).client.current
  grows : (w.run before).client.current.revision ≤ (w.run (before ++ after)).client.current.revision
  /-- A refresh gets what is published, wherever that is to be had. -/
  served : ∀ refresh, (w.run before).fetches.get? refresh = some none →
    (w.run before).bucket = (w.run before).cluster.credentials.bucket →
      (w.run before).cluster.available = true → ∃ table, (w.run before).cluster.table = .ok table ∧
        ((w.run before).step (.answered refresh)).fetches.get? refresh = some (some table)
  /-- After a refresh which began when the table was published that still is, the client has that
  table, and keeps it as long as nothing else is published. -/
  fresh : ∀ refresh table later, (w.run before).fetches.get? refresh = none →
    (w.run (before ++ after)).fetches.get? refresh = some (some table) →
      (w.run (before ++ after ++ .ends refresh :: later)).cluster.table =
        (w.run before).cluster.table →
          (w.run before).cluster.table =
            .ok (w.run (before ++ after ++ .ends refresh :: later)).client.current

theorem table_eq (hw : w.cluster.Serving) (events : List Event) :
    (w.run events).cluster.table = .ok (w.run events).cluster.view :=
  (run_serving hw events).1.partitioned.table_eq

/-- If what is published at the end was published when a refresh began, that is what the client
has. -/
theorem fresh (hw : w.cluster.Serving) (hclient : w.client = {}) (hfetches : w.fetches = [])
    {before after later : List Event} {refresh : Nat} {table : Topology}
    (hfree : (w.run before).fetches.get? refresh = none)
    (hgot : (w.run (before ++ after)).fetches.get? refresh = some (some table))
    (hsame : (w.run (before ++ after ++ .ends refresh :: later)).cluster.view =
      (w.run before).cluster.view) :
    (w.run (before ++ after ++ .ends refresh :: later)).client.current =
      (w.run before).cluster.view := by
  have hbefore := (run_serving hw before).1
  -- the table the refresh has got is at least as new as the one published when it began
  have hnew : (w.run before).cluster.revision ≤ table.revision := by
    rw [run_append] at hgot
    obtain ⟨since, -, rfl⟩ := got_since hbefore hfree hgot
    exact (run_serving hbefore since).2.revision_le
  have hcurrent : table.revision ≤
      (w.run (before ++ after ++ .ends refresh :: later)).client.current.revision := by
    rw [run_append]
    exact Nat.le_trans (ends_client hgot) (run_client _ later)
  rcases known hw hclient hfetches (before ++ after ++ .ends refresh :: later) with
    hempty | ⟨earlier, hearlier, hknown⟩
  · have hnone : table.revision ≤ 0 := by rwa [hempty] at hcurrent
    have hsome := hbefore.numbered
    omega
  · have hrevision := congrArg Topology.revision hsame
    rw [hknown] at hcurrent ⊢
    rw [← hsame]
    exact ((follows_later hw hearlier).view_eq
      (Nat.le_trans (Nat.le_of_eq hrevision) (Nat.le_trans hnew hcurrent))).symm

theorem abreast (hw : w.cluster.Serving) (hclient : w.client = {}) (hfetches : w.fetches = [])
    (before after : List Event) : Abreast w before after where
  published := by
    have hfollows := follows_later hw (List.prefix_append before after)
    refine ⟨_, _, table_eq hw before, table_eq hw (before ++ after), fun hne => ?_, fun heq => ?_⟩
    · exact hfollows.resolve_left (Ne.symm hne)
    · exact (hfollows.view_eq (Nat.le_of_eq heq.symm)).symm
  known := by
    refine (known hw hclient hfetches (before ++ after)).imp_right ?_
    rintro ⟨earlier, hearlier, hcurrent⟩
    exact ⟨earlier, hearlier, hcurrent ▸ table_eq hw earlier⟩
  grows := by
    rw [run_append]
    exact run_client _ after
  served := by
    intro refresh hasked hbucket havailable
    refine ⟨_, table_eq hw before, ?_⟩
    have hserved := (run_serving hw before).1.fetchTable_eq (w.run before).bucket
    rw [if_pos ⟨hbucket, havailable⟩] at hserved
    simp [step, hasked, hserved]
  fresh := by
    intro refresh table later hfree hgot hsame
    rw [table_eq hw, table_eq hw] at hsame
    rw [table_eq hw, fresh hw hclient hfetches hfree hgot (Except.ok.inj hsame)]

end Watch

/-- A client never goes back to an older table, however its refreshes overlap with each other and
with what a cluster is told. Every node takes a port, so there are fewer of them than a document has
room for. -/
theorem client_never_regresses {spec : ClusterSpec} (hnodes : 0 < spec.nodes.length)
    (hpartitions : 0 < spec.partitions) (hsmall : spec.partitions ≤ Topology.maxPartitions)
    (hroom : spec.nodes.length ≤ Topology.maxNodes) :
    ∃ c, Cluster.start spec = .ok c ∧
      ∀ bucket before after, Watch.Abreast { cluster := c, bucket } before after := by
  obtain ⟨c, hc⟩ := Cluster.start_ok hnodes hpartitions
  exact ⟨c, hc, fun bucket => Watch.abreast (Cluster.Serving.start hc hsmall hroom) rfl rfl⟩

/-- Two refreshes overlap, a partition moves in between, and the one that began last has ended. -/
def overtaken : Watch :=
  Watch.run { cluster := Cluster.startedPair, bucket := "default" }
    [.begins 0, .answered 0, .told (.movePartition 0 1), .begins 1, .answered 1, .ends 1]

/-- What the other one has got is too old by now. -/
theorem overtaken_abreast :
    (((overtaken.fetches.get? 0).join.map (·.revision) = some 1 ∧
        overtaken.client.current.revision = 2) ∧
      (overtaken.step (.ends 0)).client.current = overtaken.client.current) ∧
    ∃ c, Cluster.start Cluster.pair = .ok c ∧
      ∀ bucket before after, Watch.Abreast { cluster := c, bucket } before after :=
  ⟨by decide +kernel,
    client_never_regresses (by decide) (by decide) (by decide) (by decide)⟩

end ClusterKv

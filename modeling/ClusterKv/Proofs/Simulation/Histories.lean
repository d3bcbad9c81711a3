import ClusterKv.Client.Session
import ClusterKv.Proofs.Simulation.Deeds

/-! # Histories

Whatever can happen to a world: it takes steps, its clock moves on while there is nothing to do, the
client is called, and things are done that callers do not notice, such as a refresh or a change of
the network. A property of the front that deeds keep, and that waiting keeps, holds throughout. -/

namespace ClusterKv

namespace World

variable {σ : Type} {net : Network σ} {permitted : Draft → Prop} {w w' : World σ}

/-! ## Steps and the clock -/

/-- A world takes a step, or its clock moves on while there is nothing to do. -/
inductive Advance {σ : Type} (net : Network σ) (w : World σ) : World σ → Prop
  | step {w' : World σ} (taken : w.step? net = some w') : Advance net w w'
  | wait (now : Instant) (nothing : w.step? net = none) (later : w.now ≤ now)
      (due : ∀ next ∈ w.nextInstant?, now ≤ max next w.now) : Advance net w { w with now }

/-- A world goes on for some time. -/
abbrev Proceeds {σ : Type} (net : Network σ) : World σ → World σ → Prop :=
  Relation.ReflTransGen (Advance net)

/-- Running a world is one way for it to go on. -/
theorem runUntil_proceeds {σ : Type} (net : Network σ) (happened : World σ → Bool)
    (limit : Option Instant) (fuel : Nat) (w : World σ) :
    Proceeds net w (w.runUntil net happened limit fuel) := by
  induction fuel generalizing w with
  | zero => exact .refl
  | succ fuel ih =>
      unfold runUntil
      split
      · next w' hstep => exact .head (.step hstep) (ih w')
      next hnothing =>
      split
      · exact .refl
      split
      · exact .refl
      · next last hnext =>
        split
        · exact .refl
        next hlast =>
        refine .head (.wait last hnothing (Nat.le_of_not_le hlast) ?_) (ih _)
        simp [hnext]
      · next next hnext =>
        refine .head (.wait _ hnothing (Nat.le_max_right _ _) ?_) (ih _)
        intro n hn
        obtain rfl : next = n := by simpa [hnext] using hn
        exact Nat.le_refl _
      · next next last hnext =>
        split
        · exact .refl
        refine .head (.wait _ hnothing (Nat.le_max_right _ _) ?_) (ih _)
        intro n hn
        obtain rfl : next = n := by simpa [hnext] using hn
        exact Nat.max_le.mpr ⟨Nat.le_trans (Nat.min_le_left _ _) (Nat.le_max_left _ _),
          Nat.le_max_right _ _⟩

/-! ## What happens to a world -/

/-- Something happens to a world. Only certain submissions are made. -/
inductive Happens (net : Network σ) (permitted : Draft → Prop) (w : World σ) : World σ → Prop where
  | advance {w' : World σ} (goes : Advance net w w') : Happens net permitted w w'
  | call (number : Nat) (drafts : List Draft) (allowed : ∀ draft ∈ drafts, permitted draft) :
      Happens net permitted w (w.startCall number drafts)
  | flush (number : Nat)
      (allowed : ∀ draft ∈ Draft.forFlush w.config w.refresher.current w.now, permitted draft) :
      Happens net permitted w (w.startFlush number)
  /-- Something that callers do not notice. -/
  | beside {w' : World σ} (same : w'.front = w.front) : Happens net permitted w w'

/-- One thing happens after another. -/
abbrev History (net : Network σ) (permitted : Draft → Prop) : World σ → World σ → Prop :=
  Relation.ReflTransGen (Happens net permitted)

theorem Proceeds.history (h : Proceeds net w w') : History net permitted w w' :=
  Relation.ReflTransGen.mono (fun _ _ goes => .advance goes) _ _ h

theorem startFlush_deeds (w : World σ) (number : Nat)
    (allowed : ∀ draft ∈ Draft.forFlush w.config w.refresher.current w.now, permitted draft) :
    Front.Deeds permitted w.front (w.startFlush number).front := by
  unfold startFlush
  split
  · have hrefused : Front.Deed permitted w.front
        { w.front with
          nextTicket := w.nextTicket + 1
          results := w.results.put w.nextTicket
            (.error (.topologyUnavailable "no nodes known to flush"), w.now) } := .refuse
    refine .head hrefused (.single ?_)
    exact .note rfl
  · exact startCall_deeds w number allowed

/-- What deeds keep, and what waiting keeps, holds throughout a history. -/
theorem History.induct {P : Front → Prop} (h : History net permitted w w')
    (hdeed : ∀ f f', Front.Deed permitted f f' → P f → P f')
    (hwait : ∀ (w : World σ) (now : Instant), w.step? net = none → w.now ≤ now →
      (∀ next ∈ w.nextInstant?, now ≤ max next w.now) → P w.front → P { w.front with now })
    (hdrafted : Front.Drafted permitted w.front) (hw : P w.front) :
    P w'.front ∧ Front.Drafted permitted w'.front := by
  have hdeeds : ∀ {f f' : Front}, Front.Deeds permitted f f' →
      P f ∧ Front.Drafted permitted f → P f' ∧ Front.Drafted permitted f' := by
    intro f f' hdeeds hf
    exact hdeeds.induct (P := fun f => P f ∧ Front.Drafted permitted f)
      (fun f f' hdone hf => ⟨hdeed f f' hdone hf.1, hdone.drafted hf.2⟩) hf
  induction h with
  | refl => exact ⟨hw, hdrafted⟩
  | tail _ happens ih =>
      cases happens with
      | advance goes =>
          cases goes with
          | step taken => exact hdeeds ((step?_stride taken).deeds ih.2) ih
          | wait now nothing later due => exact ⟨hwait _ now nothing later due ih.1, ih.2⟩
      | call number drafts allowed => exact hdeeds (startCall_deeds _ number allowed) ih
      | flush number allowed => exact hdeeds (startFlush_deeds _ number allowed) ih
      | beside same => rwa [same]

/-! ## A client -/

/-- What a configuration grants that breaks no rule. -/
structure Usable (config : Config) : Prop where
  timeout : 0 < config.operationTimeout.nanos
  room : 0 < config.maxInFlightPerNode
  waiting : 0 < config.maxWaiting
  polling : ∀ period ∈ config.pollInterval, 0 < period.nanos

theorem usable_of_fault? {config : Config} (h : config.fault? = none) : Usable config := by
  unfold Config.fault? at h
  split at h
  · cases h
  split at h
  · cases h
  next htimeout =>
  split at h
  · cases h
  split at h
  · cases h
  next hlimits =>
  split at h
  · cases h
  split at h
  · cases h
  next hpoll =>
  refine ⟨Nat.pos_of_ne_zero htimeout, Nat.pos_of_ne_zero fun hroom => hlimits (Or.inl hroom),
    Nat.pos_of_ne_zero fun hwaiting => hlimits (Or.inr hwaiting), fun period hperiod => ?_⟩
  obtain hperiod : config.pollInterval = some period := hperiod
  exact Nat.pos_of_ne_zero fun hzero => hpoll (by simp [hperiod, hzero])

/-- A client starts with a usable configuration. Up to then its world fetches the table and goes on
for some time, and at last polling may start. -/
theorem connect_proceeds {config : Config} {network : σ} (h : connect net config network = .ok w) :
    config.fault? = none ∧ ∃ booted poller,
      Proceeds net (({ config, network } : World σ).startFetch net (.call 0)) booted ∧
        w = { booted with poller } := by
  unfold connect at h
  cases hfault : config.fault? with
  | some fault => simp [Config.validate, hfault] at h
  | none =>
      simp only [Config.validate, hfault] at h
      refine ⟨rfl, ?_⟩
      split at h
      · cases h
      · next booted hboot =>
        have hbooted : Proceeds net (({ config, network } : World σ).startFetch net (.call 0))
            booted := by
          have hgoes := runUntil_proceeds net (fun w => w.fetches.has 0) none plenty
            (({ config, network } : World σ).startFetch net (.call 0))
          unfold boot at hboot
          dsimp only at hboot
          split at hboot
          · cases hboot
            exact hgoes
          · cases hboot
          · cases hboot
        cases h
        cases config.pollInterval with
        | none => exact ⟨booted, booted.poller, hbooted, rfl⟩
        | some period => exact ⟨booted, _, hbooted, rfl⟩

/-- Up to then its world has its history too. -/
theorem connect_history {config : Config} {network : σ} (h : connect net config network = .ok w) :
    config.fault? = none ∧ History net permitted { config, network } w := by
  obtain ⟨hfault, booted, poller, hgoes, rfl⟩ := connect_proceeds h
  refine ⟨hfault, ?_⟩
  have hbooted : History net permitted { config, network } booted :=
    .head (.beside (front_startFetch net _ (.call 0))) hgoes.history
  exact hbooted.tail (.beside rfl)

end World

/-! ## Calls -/

/-- A submission of a client for a key. -/
def KeyDraft (config : Config) (draft : Draft) : Prop :=
  ∃ key call,
    draft = { operation := KeyCall.operation key call, timeout := config.operationTimeout }

namespace Client

open World

theorem many_happens {σ : Type} (net : Network σ) (w : World σ) (number : Nat)
    (calls : List (Bytes × KeyCall)) :
    Happens net (KeyDraft w.config) w (many calls w number).1 := by
  refine .call number (Draft.forKeys w.config _) ?_
  intro draft hdraft
  obtain ⟨operation, hoperation, rfl⟩ := List.mem_map.mp hdraft
  obtain ⟨⟨key, call⟩, -, rfl⟩ := List.mem_map.mp hoperation
  exact ⟨key, call, rfl⟩

end Client

end ClusterKv

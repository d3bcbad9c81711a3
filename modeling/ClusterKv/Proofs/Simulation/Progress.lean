import ClusterKv.Proofs.Simulation.Orders
import ClusterKv.Proofs.Simulation.Steps

/-! # How a world with one command goes on

Whatever step such a world takes, and however its clock moves on, it goes from phase to phase. -/

namespace ClusterKv.World

/-! ## From phase to phase -/

/-- How a world goes from a phase to the next. -/
inductive Next (v : View) : Phase → Phase → View → Prop
  | waited {phase : Phase} (waits : phase.waits = true) (now : Instant) (later : v.now ≤ now) :
      Next v phase phase { v with now }
  | polled {phase : Phase} (waits : phase.waits = true) : Next v phase phase v.refreshed
  | onward {phase phase' : Phase} {v' : View} {c : Command} (command : c ∈ phase.command?)
      (undecided : ∀ e ∈ phase.answer?, Dispatcher.decided? e.1 e.2 = none)
      (goes : Onward v c phase' v') : Next v phase phase' v'
  | failed (c : Command) (route : Route) (error : ConnectionError)
      (refused : Node.connect v.network.nodes v.network.credentials route.node = .error error) :
      Next v (.starting c route) (.failing c route error) v
  | executed (c : Command) (route : Route) (generation : Nat) :
      Next v (.starting c route) (.answered c route generation
        (Cluster.network.perform v.network route.node (Dispatcher.requestOf c route) v.now).2)
        (v.executed route.node generation (Dispatcher.requestOf c route))
  | acked (c : Command) (route : Route) (generation : Nat) (response : Response) :
      Next v (.answered c route generation response) (.acked c route generation response) v
  | decided (c : Command) (route : Route) (generation : Nat) (response : Response)
      (result : Except Error Reply) (means : Dispatcher.decided? c response = some result) :
      Next v (.acked c route generation response) .idle (v.resolve c result)
  | fetched (c : Command) (result : Except TopologyError Unit) :
      Next v (.parked c) (.refreshed c result) v.refreshed

variable {w w' : World Cluster} {phase : Phase}

/-- A phase in which nothing is at hand is the same phase later. -/
theorem Settles.later (hs : Settles w phase) (hwaits : phase.waits = true) (now : Instant) :
    Settles { w with now } phase := by
  obtain ⟨hq, h⟩ := hs
  obtain ⟨-, -, -, -, -, -, hpressing⟩ := h.unoccupied hwaits
  exact ⟨hq.congr rfl rfl rfl rfl rfl rfl rfl,
    ⟨h.1, h.2, h.3, h.4, h.5, h.6, h.7, by simp [hpressing], h.9⟩⟩

/-- What is left to do while nothing is at hand. -/
theorem idle_next (hs : Settles w phase) (hwaits : phase.waits = true)
    (hroom : 0 < w.config.maxInFlightPerNode) (h : w.idleStep? Cluster.network = some w') :
    ∃ phase', Settles w' phase' ∧ Next w.view phase phase' w'.view := by
  have hsame : Next w.view phase phase w.view :=
    Next.waited (v := w.view) hwaits w.view.now (Nat.le_refl _)
  unfold idleStep? at h
  split at h
  · next w₁ hpoll =>
    cases h
    obtain ⟨hsettles, -, hview⟩ := poll_settles hs hpoll
    refine ⟨phase, hsettles, ?_⟩
    rcases hview with hview | hview
    · rwa [hview]
    · rw [hview]
      exact .polled hwaits
  · split at h
    · cases h
      obtain ⟨phase', hsettles, ⟨rfl, hview⟩ | ⟨c, hc, honward⟩⟩ :=
        timers_settle hs hwaits hroom
      · exact ⟨phase', hsettles, by rwa [hview]⟩
      · refine ⟨phase', hsettles, .onward hc ?_ honward⟩
        obtain ⟨-, -, -, -, -, hanswer, -⟩ := hs.arrived.unoccupied hwaits
        simp [hanswer]
    · cases h

/-- A step leads a world to the next phase. -/
def StepsOn (w : World Cluster) (phase : Phase) : Prop :=
  ∃ w' phase', LeadsTo w w' phase' ∧ Next w.view phase phase' w'.view

theorem Advance.of_stepsOn (h : Advance Cluster.network w w') (hsteps : StepsOn w phase) :
    ∃ phase', Settles w' phase' ∧ Next w.view phase phase' w'.view := by
  obtain ⟨w₁, phase', hleads, hnext⟩ := hsteps
  cases h with
  | step taken =>
      obtain rfl := Option.some.inj (taken.symm.trans hleads.step)
      exact ⟨phase', hleads.toSettles, hnext⟩
  | wait now nothing => simp [hleads.step] at nothing

theorem StepsOn.onward {c : Command} (command : c ∈ phase.command?)
    (undecided : ∀ e ∈ phase.answer?, Dispatcher.decided? e.1 e.2 = none)
    (h : ∃ w' phase', LeadsTo w w' phase' ∧ Onward w.view c phase' w'.view) : StepsOn w phase := by
  obtain ⟨w', phase', hleads, honward⟩ := h
  exact ⟨w', phase', hleads, .onward command undecided honward⟩

/-- While nothing is at hand, the only step is one that is left to do then. -/
theorem Advance.waiting (h : Advance Cluster.network w w') (hs : Settles w phase)
    (hroom : 0 < w.config.maxInFlightPerNode) (hwaits : phase.waits = true)
    (hopen : (∃ c, phase = .queued c) → w.timerDue = true) :
    ∃ phase', Settles w' phase' ∧ Next w.view phase phase' w'.view := by
  cases h with
  | step taken => exact idle_next hs hwaits hroom (step?_waiting hs hwaits hopen ▸ taken)
  | wait now nothing later => exact ⟨phase, hs.later hwaits now, .waited hwaits now later⟩

theorem stepsOn_starting {c : Command} {route : Route} (hs : Settles w (.starting c route)) :
    StepsOn w (.starting c route) := by
  rcases step_starting hs with ⟨w₁, generation, hleads, -, hview⟩ |
    ⟨w₁, error, hrefused, hleads, hview⟩
  · refine ⟨w₁, _, hleads, ?_⟩
    rw [hview]
    exact .executed c route generation
  · refine ⟨w₁, _, hleads, ?_⟩
    rw [hview]
    exact .failed c route error hrefused

theorem stepsOn_acked {c : Command} {route : Route} {generation : Nat} {response : Response}
    (hs : Settles w (.acked c route generation response)) (hid : c.id < UInt64.size) :
    StepsOn w (.acked c route generation response) := by
  cases hresult : Dispatcher.decided? c response with
  | some result =>
      obtain ⟨w₁, hleads, hview⟩ := step_decided hs hid hresult
      refine ⟨w₁, _, hleads, ?_⟩
      rw [hview]
      exact .decided c route generation response result hresult
  | none =>
      refine .onward rfl (fun _ he => ?_) (step_undecided hs hid hresult)
      exact Option.some.inj he ▸ hresult

/-- A world with one command goes from phase to phase. -/
theorem Advance.next (hs : Settles w phase) (hroom : 0 < w.config.maxInFlightPerNode)
    (hwaiting : 0 < w.config.maxWaiting)
    (hid : ∀ c ∈ phase.accepted?, c.id < UInt64.size) (h : Advance Cluster.network w w') :
    ∃ phase', Settles w' phase' ∧ Next w.view phase phase' w'.view := by
  cases phase with
  | idle => exact h.waiting hs hroom rfl (by simp)
  | resting c resume => exact h.waiting hs hroom rfl (by simp)
  | queued c =>
      cases hdue : w.timerDue with
      | true => exact h.waiting hs hroom rfl fun _ => hdue
      | false =>
          have hsteps := step_queued hs hroom hwaiting hdue
          exact h.of_stepsOn (.onward rfl (by simp [Phase.answer?]) hsteps)
  | starting c route => exact h.of_stepsOn (stepsOn_starting hs)
  | failing c route error =>
      exact h.of_stepsOn (.onward rfl (by simp [Phase.answer?]) (step_failing hs))
  | answered c route generation response =>
      obtain ⟨w₁, hleads, -, hview⟩ := step_answered hs
      refine h.of_stepsOn ⟨w₁, _, hleads, ?_⟩
      rw [hview]
      exact .acked c route generation response
  | acked c route generation response => exact h.of_stepsOn (stepsOn_acked hs (hid c rfl))
  | parked c =>
      obtain ⟨w₁, hleads, -, hview⟩ := step_parked hs
      refine h.of_stepsOn ⟨w₁, _, hleads, ?_⟩
      rw [hview]
      exact .fetched c _
  | refreshed c result =>
      have hsteps := step_refreshed hs hroom
      exact h.of_stepsOn (.onward rfl (by simp [Phase.answer?]) hsteps)

/-! ## Runs -/

theorem Advance.issues {σ : Type} {net : Network σ} {w w' : World σ} (h : Advance net w w') :
    Issues w w' := h.drifts.issues

theorem Proceeds.issues {σ : Type} {net : Network σ} {w w' : World σ} (h : Proceeds net w w') :
    Issues w w' := h.drifts.issues

/-- The numbers of a dispatcher with one command are in order. -/
theorem At.numbered (h : At w phase) : Dispatcher.Numbered w.dispatcher .empty := by
  have hknown : ∀ c ∈ phase.accepted?, c.id < w.dispatcher.nextId := h.known
  rw [h.dispatcher]
  cases phase with
  | idle | queued =>
      constructor <;> simp [Phase.lone, Lone.dispatcher, Assoc.keys, Dispatcher.Hand.number?]
  | starting c | failing c | answered c | acked c | parked c | refreshed c | resting c =>
      have hid := hknown c rfl
      constructor <;>
        simp [Phase.lone, Lone.dispatcher, Assoc.keys, Assoc.get?, Dispatcher.Hand.number?, hid]

theorem Next.config {v v' : View} {phase phase' : Phase} (h : Next v phase phase' v') :
    v'.config = v.config := by
  cases h with
  | onward _ _ goes => cases goes <;> rfl
  | waited | polled | failed | executed | acked | decided | fetched => rfl

/-- What is seen of a world that goes from phase to phase. -/
abbrev Goes : Phase × View → Phase × View → Prop :=
  Relation.ReflTransGen fun s t => Next s.2 s.1 t.1 t.2

theorem Goes.config {s t : Phase × View} (h : Goes s t) : t.2.config = s.2.config := by
  induction h with
  | refl => rfl
  | tail _ next ih => exact next.config.trans ih

/-- However a world with one command goes on, it goes from phase to phase. -/
theorem Proceeds.goes (h : Proceeds Cluster.network w w') (hs : Settles w phase)
    (usable : Usable w.config) (lasting : w'.dispatcher.nextId ≤ UInt64.size) :
    ∃ phase', Settles w' phase' ∧ Goes (phase, w.view) (phase', w'.view) := by
  induction h using Relation.ReflTransGen.head_induction_on generalizing phase with
  | refl => exact ⟨phase, hs, .refl⟩
  | @head w w₁ advance rest ih =>
      obtain ⟨hnumbered, hle⟩ := advance.issues hs.arrived.numbered
      have hle := Nat.le_trans hle (Proceeds.issues rest hnumbered).2
      obtain ⟨phase₁, hs₁, hnext⟩ := advance.next hs usable.room usable.waiting
        fun c hc => Nat.lt_of_lt_of_le (hs.arrived.known c hc) (Nat.le_trans hle lasting)
      have hconfig : w₁.config = w.config := hnext.config
      obtain ⟨phase', hs', hgoes⟩ := ih hs₁ (hconfig ▸ usable)
      exact ⟨phase', hs', .head hnext hgoes⟩

/-- Without a command nothing happens but that time passes and tables are fetched. -/
theorem Goes.idle {s t : Phase × View} (h : Goes s t) (hs : s.1 = .idle) :
    t.1 = .idle ∧ t.2.network = s.2.network ∧ t.2.calls = s.2.calls ∧
      t.2.results = s.2.results ∧ t.2.nextTicket = s.2.nextTicket := by
  induction h with
  | refl => exact ⟨hs, rfl, rfl, rfl, rfl⟩
  | @tail t u _ next ih =>
      obtain ⟨phase, v⟩ := t
      obtain ⟨phase', v'⟩ := u
      obtain ⟨rfl, hsame⟩ := ih
      cases next with
      | waited | polled => exact ⟨rfl, hsame⟩
      | onward command => cases command

theorem Proceeds.idle (h : Proceeds Cluster.network w w') (hs : Settles w .idle)
    (usable : Usable w.config) : Settles w' .idle ∧ Goes (.idle, w.view) (.idle, w'.view) := by
  induction h with
  | refl => exact ⟨hs, .refl⟩
  | @tail w₁ w₂ _ advance ih =>
      obtain ⟨hs₁, hgoes⟩ := ih
      have hconfig : w₁.config = w.config := hgoes.config
      obtain ⟨phase, hs₂, hnext⟩ := advance.next hs₁ (hconfig ▸ usable.room)
        (hconfig ▸ usable.waiting) nofun
      obtain ⟨rfl, -⟩ :=
        Goes.idle (s := (.idle, w₁.view)) (t := (phase, w₂.view)) (.single hnext) rfl
      exact ⟨hs₂, hgoes.tail hnext⟩

end ClusterKv.World

import ClusterKv.Proofs.Dispatcher.Capacity
import ClusterKv.Proofs.Dispatcher.Timers
import ClusterKv.Proofs.Simulation.Histories

/-! # Admission

Between turns the dispatcher of a world is in order, whatever happens: its books agree with its
entries, every command in flight has its timers, and nobody waits for a node that has room. While
too many commands wait, no submission is accepted. -/

namespace ClusterKv.World

open Dispatcher (Booked Numbered Settled Timed)

variable {σ : Type} {net : Network σ} {permitted : Draft → Prop} {config : Config} {w : World σ}

namespace Front

/-- The dispatcher is in order. -/
structure Sound (f : Front) : Prop where
  numbered : Numbered f.dispatcher .empty
  done : f.dispatcher.outbox = []
  booked : Booked f.config f.dispatcher
  settled : Settled f.config f.dispatcher
  timed : Timed (f.dispatcher, .empty)

variable {f f' : Front}

theorem Sound.start (h : f.dispatcher = {}) : f.Sound where
  numbered := h ▸ .start
  done := h ▸ rfl
  booked := h ▸ .start
  settled := h ▸ .inl rfl
  timed := h ▸ .start

/-- Submissions that join the queue do not matter. -/
theorem Sound.queue (h : f.Sound) {inbound : List Command} (hconfig : f'.config = f.config)
    (hdispatcher : f'.dispatcher = { f.dispatcher with inbound }) : f'.Sound := by
  refine ⟨?_, ?_, ?_, ?_, ?_⟩ <;> rw [hdispatcher]
  · exact h.numbered.congr rfl rfl h.numbered.queues rfl
  · exact h.done
  · rw [hconfig]
    exact h.booked.congr rfl rfl (fun _ => rfl) rfl
  · rw [hconfig]
    exact h.settled
  · exact h.timed.congr rfl h.timed.sorted (List.Subset.refl _) (by simp [Dispatcher.Hand.command?])

/-- A turn leaves the dispatcher in order. -/
theorem turned_sound (hf : f.Sound) (m : Moment) (hm : m.config = f.config)
    (input : Dispatcher.Input) (hconfig : f'.config = f.config)
    (hdispatcher : f'.dispatcher = { f.dispatcher.turn m input with outbox := [] }) :
    f'.Sound := by
  have hnumbered := Dispatcher.turn_numbered (m := m) hf.numbered input
  have htimed := Dispatcher.turn_timed (m := m) hf.numbered hf.timed input
  have hbooked : Booked f.config (f.dispatcher.turn m input) := by
    rw [← hm]
    exact Dispatcher.turn_booked hf.numbered (hm ▸ hf.booked) input
  have hsettled : Settled f.config (f.dispatcher.turn m input) := by
    rw [← hm]
    exact Dispatcher.turn_settled hf.numbered input
  refine ⟨?_, ?_, ?_, ?_, ?_⟩ <;> rw [hdispatcher]
  · exact hnumbered.congr rfl rfl hnumbered.queues rfl
  · rw [hconfig]
    exact hbooked.congr rfl rfl (fun _ => rfl) rfl
  · rw [hconfig]
    exact hsettled
  · exact htimed.congr rfl htimed.sorted (List.Subset.refl _) (by simp [Dispatcher.Hand.command?])

theorem turn_sound (hf : f.Sound) (table : Topology) (input : Dispatcher.Input) :
    (f.turn table input).Sound :=
  turned_sound hf _ rfl input rfl rfl

/-- So does every deed. -/
theorem Deed.sound (h : Deed permitted f f') (hf : f.Sound) : f'.Sound := by
  cases h with
  | turn | accept => exact turn_sound hf _ _
  | follow => exact (turn_sound hf _ _).queue rfl rfl
  | stop running halts =>
      exact turned_sound hf (f.moment .empty) rfl .shutdown halts.config halts.dispatcher
  | refuse | block | note => exact hf.queue rfl rfl
  | enter => exact hf.queue rfl rfl

end Front

/-- Whatever happens, the dispatcher is in order. -/
theorem History.sound {network : σ} (h : History net permitted { config, network } w) :
    w.config = config ∧ w.front.Sound := by
  refine (h.induct (P := fun f => f.config = config ∧ f.Sound) ?_ ?_ (by simp [Front.Drafted])
    ⟨rfl, .start rfl⟩).1
  · intro f f' hdeed hf
    exact ⟨hdeed.frame.1.trans hf.1, hdeed.sound hf.2⟩
  · intro w now _ _ _ hw
    exact ⟨hw.1, hw.2.queue rfl rfl⟩

/-- A step that takes a submission off the queue, and does not stop the dispatcher, is taken while
there is room for one that waits. -/
theorem accepting_of_step {w' : World σ} (h : w.step? net = some w')
    (hrunning : w'.dispatcher.stopped = false)
    (htaken : ¬w.dispatcher.inbound <+: w'.dispatcher.inbound) (hw : w.front.Sound) :
    w.dispatcher.waitingTotal < w.config.maxWaiting := by
  cases step?_stride h with
  | accept _ accepting => exact accepting
  | beside same =>
      have hsame : w'.dispatcher = w.dispatcher := congrArg Front.dispatcher same
      exact absurd (hsame ▸ List.prefix_refl _) htaken
  | @turn _ table input _ other lasting turned =>
      have hturned : w'.dispatcher = (w.front.turn table input).dispatcher :=
        congrArg Front.dispatcher turned
      have hsame : (w.front.turn table input).dispatcher.inbound = w.dispatcher.inbound :=
        Dispatcher.turn_inbound_eq (m := w.front.moment table) hw.numbered other lasting
      refine absurd ?_ htaken
      rw [hturned]
      exact ⟨[], (List.append_nil _).trans hsame.symm⟩
  | stop =>
      have hstopped := (stopDispatcher_halts w).dispatcher
      simp only at hstopped
      rw [hstopped, Dispatcher.shutDown_eq] at hrunning
      cases hrunning

/-- Between turns the books are exact, no node has more than its fill, and whoever waits for a node
waits because it has no room. Submissions are only accepted while there is room for one that
waits. -/
theorem capacity_kept {network : σ} (h : History net permitted { config, network } w) :
    Booked config w.dispatcher ∧
      (∀ node, w.dispatcher.waitingFor node ≠ [] →
        w.dispatcher.sentTo node = config.maxInFlightPerNode) ∧
      ∀ w', w.step? net = some w' → w'.dispatcher.stopped = false →
        ¬w.dispatcher.inbound <+: w'.dispatcher.inbound →
        w.dispatcher.waitingTotal < config.maxWaiting := by
  obtain ⟨hconfig, hsound⟩ := h.sound
  have hbooked : Booked config w.dispatcher := hconfig ▸ hsound.booked
  have hsettled : Settled config w.dispatcher := hconfig ▸ hsound.settled
  refine ⟨hbooked, fun node hwaiting => hsettled.full hbooked hwaiting, ?_⟩
  intro w' hstep hrunning htaken
  rw [← hconfig]
  exact accepting_of_step hstep hrunning htaken hsound

/-- A network in which every key has the same owner, which never answers the door. -/
def silent : Network Unit where
  dial s _ := (s, none)
  isUp _ _ := true
  write s _ _ := (s, { result := .ok [] })
  perform s _ request _ := (s, .success request.opaqueId 0)
  fetch s := (s, .zero, .ok ⟨1, [⟨"a:1"⟩], [some 0], none⟩)

/-- There is room for one command everywhere. -/
def narrow : Config :=
  { operationTimeout := .ofMillis 100, pollInterval := none, inboundDepth := 1
    maxInFlightPerNode := 1, maxWaiting := 1 }

/-- A client that has just started in the silent network. -/
def started : World Unit :=
  match connect silent narrow () with
  | .ok w => w
  | .error _ => { config := narrow, network := () }

theorem started_connected : connect silent narrow () = .ok started := rfl

/-- A client with a command in each place: under way, waiting, in the queue and blocked. -/
def crowded : World Unit :=
  (Client.many [([1], .get), ([2], .get), ([3], .get), ([4], .get)] started 1).1.settle silent

theorem crowded_history : History silent (KeyDraft narrow) started crowded := by
  have hcall := Client.many_happens silent started 1
    [([1], .get), ([2], .get), ([3], .get), ([4], .get)]
  exact .head hcall (runUntil_proceeds silent _ _ _ _).history

/-- One node is full, a command waits for it, and the next one is not accepted. -/
theorem crowded_full :
    (crowded.dispatcher.waitingFor ⟨"a:1"⟩ = [2] ∧ crowded.dispatcher.waitingTotal = 1 ∧
      crowded.dispatcher.inbound ≠ []) ∧
    Booked narrow crowded.dispatcher ∧
      (∀ node, crowded.dispatcher.waitingFor node ≠ [] →
        crowded.dispatcher.sentTo node = narrow.maxInFlightPerNode) ∧
      ∀ w', crowded.step? silent = some w' → w'.dispatcher.stopped = false →
        ¬crowded.dispatcher.inbound <+: w'.dispatcher.inbound →
        crowded.dispatcher.waitingTotal < narrow.maxWaiting := by
  refine ⟨by decide +kernel, ?_⟩
  exact capacity_kept ((connect_history started_connected).2.trans crowded_history)

end ClusterKv.World

import ClusterKv.Proofs.Simulation.Admission
import ClusterKv.Proofs.Simulation.Line
import ClusterKv.Proofs.Simulation.Orders
import ClusterKv.Proofs.Simulation.Work

/-! # Courses of events

Work at hand may be done in any order, or be put off while the clock moves on, and the dispatcher
may be told anything. Only what is on the agenda is done in time. How a world runs is one such
course of events. -/

namespace ClusterKv.World

variable {σ : Type} {net : Network σ} {w w' : World σ}

/-- Something happens to a world. -/
inductive Occurs {σ : Type} (net : Network σ) (w : World σ) : World σ → Prop
  /-- The dispatcher takes a turn, whatever it is told. -/
  | turn {input : Dispatcher.Input} (running : w.dispatcher.stopped = false)
      (other : input ≠ .accept) (lasting : input ≠ .shutdown) : Occurs net w (w.turn input)
  | accept (running : w.dispatcher.stopped = false)
      (accepting : w.dispatcher.waitingTotal < w.config.maxWaiting)
      (filled : w.dispatcher.inbound ≠ []) : Occurs net w (w.turn .accept).unblock
  | stop (running : w.dispatcher.stopped = false) : Occurs net w w.stopDispatcher
  | job {before after : List Job} {job : Job} (waits : w.jobs = before ++ job :: after) :
      Occurs net w ({ w with jobs := before ++ after }.run net job)
  | enter {node : NodeId} {slot : Slot} {caller : Nat} (member : (node, slot) ∈ w.pool.slots)
      (granted : slot.creation = .granted caller) : Occurs net w (w.enter net caller node)
  | due {before after : List (Instant × Job)} {time : Instant} {job : Job}
      (waits : w.agenda = before ++ (time, job) :: after) (due : time ≤ w.now) :
      Occurs net w ({ w with agenda := before ++ after }.run net job)
  /-- The clock moves on, but not beyond what comes first on the agenda. -/
  | wait (now : Instant) (later : w.now ≤ now) (due : ∀ e ∈ w.agenda.head?, now ≤ e.1) :
      Occurs net w { w with now }
  /-- Reports of attempts and refreshes reach the dispatcher. -/
  | hear {rest : List TaskEvent} (later : rest <:+ w.taskEvents) :
      Occurs net w { w with taskEvents := rest }
  | fetch (purpose : Purpose) : Occurs net w (w.startFetch net purpose)
  | call (number : Nat) (drafts : List Draft) : Occurs net w (w.startCall number drafts)
  | flush (number : Nat) : Occurs net w (w.startFlush number)
  /-- Something that neither callers nor attempts to send notice, such as a change of the
  network. -/
  | beside {w' : World σ} (front : w'.front = w.front) (desk : w'.desk = w.desk) : Occurs net w w'

/-- One thing happens after another. -/
abbrev Course {σ : Type} (net : Network σ) : World σ → World σ → Prop :=
  Relation.ReflTransGen (Occurs net)

/-! ## How a world runs -/

/-- Work that is done in any order is a course of events. -/
theorem Stirs.course (h : Stirs net w w') : Course net w w' := by
  cases h with
  | @told event rest running first =>
      have hpopped : Occurs net w { w with taskEvents := rest } :=
        .hear (first ▸ List.suffix_cons event rest)
      exact .tail (.single hpopped) (.turn running (by simp) (by simp))
  | @heard event rest running first =>
      have hpopped : Occurs net w { w with nodeEvents := rest } := .beside rfl rfl
      exact .tail (.single hpopped) (.turn running (by simp) (by simp))
  | accept running accepting filled => exact .single (.accept running accepting filled)
  | timers running => exact .single (.turn running (by simp) (by simp))
  | stop running => exact .single (.stop running)
  | job picked =>
      obtain ⟨before, after, hjobs, rfl⟩ := picked
      exact .single (.job hjobs)
  | enter member granted => exact .single (.enter member granted)
  | due waits due => exact .single (.due waits due)
  | halt | note => exact .single (.beside rfl rfl)
  | tick p =>
      have hpolled : ∀ poller, Occurs net w { w with poller } := fun _ => .beside rfl rfl
      exact .tail (.single (hpolled _)) (.fetch .poller)
  | wait now idle later due => exact .single (.wait now later due)

theorem Drifts.course (h : Drifts net w w') : Course net w w' := by
  induction h with
  | refl => exact .refl
  | tail _ stirs ih => exact ih.trans stirs.course

theorem Proceeds.course (h : Proceeds net w w') : Course net w w' := h.drifts.course

/-- Running a world is a course of events. -/
theorem runUntil_course (happened : World σ → Bool) (limit : Option Instant) (fuel : Nat) :
    Course net w (w.runUntil net happened limit fuel) :=
  (runUntil_proceeds net happened limit fuel w).course

/-- So is starting a client. -/
theorem connect_course {config : Config} {network : σ} (h : connect net config network = .ok w) :
    Course net { config, network } w := by
  obtain ⟨-, booted, poller, hgoes, rfl⟩ := connect_proceeds h
  exact .head (.fetch (.call 0)) (hgoes.course.tail (.beside rfl rfl))

/-! ## What callers notice -/

/-- What happens is a row of deeds, or takes time. -/
theorem Occurs.front_cases (h : Occurs net w w') :
    Front.Deeds (fun _ => True) w.front w'.front ∨ ∃ now, w.now ≤ now ∧ w' = { w with now } := by
  have hdrafted : Front.Drafted (fun _ => True) w.front := by simp [Front.Drafted]
  cases h with
  | turn running other lasting =>
      exact .inl ((Stride.turn running other lasting (front_turn _ _)).deeds hdrafted)
  | accept running accepting filled =>
      exact .inl ((Stride.accept running accepting filled).deeds hdrafted)
  | stop running => exact .inl ((Stride.stop running).deeds hdrafted)
  | @job before after job =>
      have hsame : ({ w with jobs := before ++ after }.run net job).front = w.front := front_run ..
      exact .inl (hsame ▸ .refl)
  | enter => exact .inl ((front_enter net w _ _).symm ▸ .refl)
  | @due before after time job =>
      have hsame : ({ w with agenda := before ++ after }.run net job).front = w.front :=
        front_run ..
      exact .inl (hsame ▸ .refl)
  | wait now later => exact .inr ⟨now, later, rfl⟩
  | hear => exact .inl .refl
  | fetch purpose => exact .inl ((front_startFetch net w purpose).symm ▸ .refl)
  | call number drafts => exact .inl (startCall_deeds w number (by simp))
  | flush number => exact .inl (startFlush_deeds w number (by simp))
  | beside front => exact .inl (front ▸ .refl)

end ClusterKv.World

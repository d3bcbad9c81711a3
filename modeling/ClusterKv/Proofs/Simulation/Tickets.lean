import ClusterKv.Proofs.Simulation.Line
import ClusterKv.Proofs.Simulation.Orders

/-! # Tickets

Each submission gets a ticket of its own. As long as the dispatcher runs, a ticket stands for one
command that has no result yet, or for one result, and no command is submitted twice. The
submissions of a call get their tickets one after another, in the order of the drafts. -/

namespace ClusterKv.World

open Dispatcher (Numbered Everywhere)

namespace Front

variable {permitted : Draft → Prop} {f f' : Front} {ticket : Nat}

/-! ## What a ticket stands for -/

/-- How many commands and results there are for a ticket. -/
def shares (f : Front) (ticket : Nat) : Nat :=
  f.dispatcher.queued ticket + f.dispatcher.underWay ticket +
    f.blocked.countP (·.2.ticket = ticket) + if f.results.has ticket then 1 else 0

/-- From a ticket on, each that was given out stands for one command or one result, and the others
stand for nothing. -/
def Ticketed (base : Nat) (f : Front) : Prop :=
  ∀ ticket, base ≤ ticket → f.shares ticket = if ticket < f.nextTicket then 1 else 0

theorem Ticketed.le_one {base : Nat} (h : Ticketed base f) (hbase : base ≤ ticket) :
    f.shares ticket ≤ 1 := by
  rw [h ticket hbase]
  split <;> simp

/-- Another ticket is given out, for one command or one result. -/
theorem Ticketed.next {base : Nat} (h : Ticketed base f) (hnext : f'.nextTicket = f.nextTicket + 1)
    (hshares : ∀ ticket, (f.nextTicket = ticket → f.shares ticket = 0) →
      f'.shares ticket = f.shares ticket + if f.nextTicket = ticket then 1 else 0) :
    Ticketed base f' := by
  intro ticket hbase
  have hold := h ticket hbase
  have hfree : f.nextTicket = ticket → f.shares ticket = 0 := by
    rintro rfl
    simpa using hold
  rw [hshares ticket hfree, hold, hnext]
  split_ifs <;> omega

/-- A turn gives a result only for a command that is gone then. -/
theorem turn_shares (hn : Numbered f.dispatcher .empty) (hdone : f.dispatcher.outbox = [])
    (table : Topology) (input : Dispatcher.Input) (hle : f.shares ticket ≤ 1) :
    (f.turn table input).shares ticket = f.shares ticket := by
  let turned := f.dispatcher.turn (f.moment table) input
  let given := ClusterKv.results ticket turned.outbox
  have hplaces : turned.queued ticket + turned.underWay ticket + given.length =
      f.dispatcher.queued ticket + f.dispatcher.underWay ticket := by
    have hsame := Dispatcher.turn_places (m := f.moment table) hn input ticket
    have hnone : ClusterKv.results ticket f.dispatcher.outbox = [] := by
      rw [hdone]
      rfl
    simpa [Dispatcher.places, Dispatcher.Hand.holding_empty, hnone] using hsame
  have htold : (f.turn table input).results.has ticket = true ↔
      f.results.has ticket = true ∨ given ≠ [] := by
    have hrecord := has_record f.now turned.outbox.reverse f.results ticket
    simp only [List.mem_reverse, ← mem_results] at hrecord
    have hgiven : (∃ result, result ∈ given) ↔ given ≠ [] :=
      ⟨fun hresult => List.ne_nil_of_mem hresult.choose_spec, List.exists_mem_of_ne_nil _⟩
    exact hrecord.trans (or_congr_right hgiven)
  change turned.queued ticket + turned.underWay ticket + f.blocked.countP (·.2.ticket = ticket) +
    (if (f.turn table input).results.has ticket then 1 else 0) = _
  simp only [shares] at hle ⊢
  by_cases hold : f.results.has ticket = true
  · rw [if_pos (htold.mpr (.inl hold)), if_pos hold]
    rw [if_pos hold] at hle
    omega
  · rw [if_neg hold] at hle ⊢
    by_cases hnone : given = []
    · rw [if_neg (by simp [htold, hold, hnone])]
      rw [hnone, List.length_nil] at hplaces
      omega
    · rw [if_pos (htold.mpr (.inr hnone))]
      have hsome : 0 < given.length := List.length_pos_iff.mpr hnone
      omega

theorem Ticketed.turn {base : Nat} (h : Ticketed base f) (hn : Numbered f.dispatcher .empty)
    (hdone : f.dispatcher.outbox = []) (table : Topology) (input : Dispatcher.Input) :
    Ticketed base (f.turn table input) := fun ticket hbase =>
  (turn_shares hn hdone table input (h.le_one hbase)).trans (h ticket hbase)

/-! ## Deeds -/

/-- The dispatcher does not start again. -/
theorem Deed.running (h : Deed permitted f f') (hrunning : f'.dispatcher.stopped = false) :
    f.dispatcher.stopped = false := by
  cases h with
  | turn running | accept running | follow running | stop running => exact running
  | enter _ running | block _ _ running => exact running
  | refuse | note => exact hrunning

/-- Between deeds nothing is left to be done. -/
theorem Deed.done (h : Deed permitted f f') (hf : f.dispatcher.outbox = []) :
    f'.dispatcher.outbox = [] := by
  cases h with
  | turn | accept | follow => rfl
  | stop running halts => simp [halts.dispatcher]
  | refuse | enter | block | note => exact hf

/-- Each submission gets the next ticket, and keeps it. -/
theorem Deed.ticketed {base : Nat} (h : Deed permitted f f')
    (hrunning : f'.dispatcher.stopped = false) (hn : Numbered f.dispatcher .empty)
    (hdone : f.dispatcher.outbox = []) (hf : Ticketed base f) : Ticketed base f' := by
  have hturn : ∀ table input, Ticketed base (f.turn table input) := hf.turn hn hdone
  cases h with
  | turn | accept => exact hturn _ _
  | @follow table number command blocked _ _ _ first =>
      -- Whoever follows goes from the head of the blocked to the end of the queue.
      intro ticket hbase
      have hsame := hturn table .accept ticket hbase
      have hblocked : (f.turn table .accept).blocked = (number, command) :: blocked := first
      simp only [shares, hblocked, List.countP_cons, decide_eq_true_eq] at hsame
      simp only [shares, queued_concat]
      refine Eq.trans ?_ hsame
      dsimp only [Dispatcher.underWay]
      omega
  | stop running halts => simp [halts.dispatcher, Dispatcher.shutDown_eq] at hrunning
  | refuse =>
      refine hf.next rfl fun ticket hfree => ?_
      simp only [shares, Assoc.has_put]
      by_cases hnew : f.nextTicket = ticket
      · have hnone := hfree hnew
        simp only [shares] at hnone
        simp only [hnew, true_or, if_true]
        omega
      · simp [hnew]
  | @enter draft =>
      refine hf.next rfl fun ticket _ => ?_
      simp only [shares, queued_concat, show (f.drafted draft).ticket = f.nextTicket from rfl]
      dsimp only [Dispatcher.underWay]
      omega
  | @block draft number call =>
      refine hf.next rfl fun ticket _ => ?_
      simp only [shares, List.countP_append, List.countP_singleton, decide_eq_true_eq,
        show (f.drafted draft).ticket = f.nextTicket from rfl]
      omega
  | note => exact hf

/-- Nothing that callers notice gives a ticket to anybody else. -/
theorem Deeds.ticketed {base : Nat} (h : Deeds permitted f f')
    (hrunning : f'.dispatcher.stopped = false) (hn : Numbered f.dispatcher .empty)
    (hdone : f.dispatcher.outbox = []) (hf : Ticketed base f) : Ticketed base f' := by
  have hall := h.induct
    (P := fun f => Numbered f.dispatcher .empty ∧ f.dispatcher.outbox = [] ∧
      (f.dispatcher.stopped = false → Ticketed base f)) ?_ ⟨hn, hdone, fun _ => hf⟩
  · exact hall.2.2 hrunning
  · rintro f f' hdeed ⟨hnumbered, hdone, hticketed⟩
    exact ⟨(hdeed.issues hnumbered).1, hdeed.done hdone, fun hrunning =>
      hdeed.ticketed hrunning hnumbered hdone (hticketed (hdeed.running hrunning))⟩

end Front

variable {σ : Type}

/-- In whatever order a world does its work, its tickets stand for what they stood for. -/
theorem Stirs.ticketed {net : Network σ} {w w' : World σ} {base : Nat} (h : Stirs net w w')
    (hrunning : w'.dispatcher.stopped = false) (hn : Numbered w.dispatcher .empty)
    (hdone : w.dispatcher.outbox = []) (hw : w.front.Ticketed base) : w'.front.Ticketed base := by
  rcases h.stride_or_wait with hstride | ⟨now, rfl⟩
  · have hdeeds : Front.Deeds (fun _ => True) w.front w'.front :=
      hstride.deeds (by simp [Front.Drafted])
    exact hdeeds.ticketed hrunning hn hdone hw
  · exact hw

/-! ## The submissions of a call -/

/-- The first of some drafts have been submitted for a call, each under the next ticket, and the
others are left. -/
structure Submits (w w' : World σ) (number : Nat) (call : Call) (drafts : List Draft)
    (submitted : Nat) : Prop where
  counted : submitted ≤ drafts.length
  recorded : ∃ after : Call, w'.calls = w.calls.put number after ∧
    after.tickets = call.tickets ++ List.range' w.nextTicket submitted ∧
    after.drafts = drafts.drop submitted
  tickets : w'.nextTicket = w.nextTicket + submitted
  results : w'.results = w.results
  blocked : ∀ e ∈ w'.blocked, e ∈ w.blocked ∨ e.1 = number
  commands : ∀ command, w'.front.Unresolved command → w.front.Unresolved command ∨
    ∃ place draft, drafts[place]? = some draft ∧
      command = .create (w.nextTicket + place) draft.operation draft.target draft.timeout
        (draft.created.getD w.now)

/-- Drafts that no node would turn away are submitted one after another. -/
theorem submitDrafts_submits (number : Nat) (drafts : List Draft) (call : Call) (w : World σ)
    (running : w.dispatcher.stopped = false)
    (good : ∀ draft ∈ drafts, hasBadKey draft.operation = false) :
    ∃ submitted, Submits w (submitDrafts number drafts call w) number call drafts submitted := by
  induction drafts generalizing call w with
  | nil =>
      refine ⟨0, Nat.le_refl _, ⟨_, rfl, by simp, rfl⟩, rfl, rfl, fun _ he => .inl he, ?_⟩
      rintro command (⟨found, same⟩ | waits | waits)
      · exact .inl (.underWay found same)
      · exact .inl (.queued waits)
      · exact .inl (.blocked waits)
  | cons draft rest ih =>
      obtain ⟨hdraft, hrest⟩ := List.forall_mem_cons.mp good
      let command : Command := .create w.nextTicket draft.operation draft.target draft.timeout
        (draft.created.getD w.now)
      rw [submitDrafts]
      dsimp only
      rw [if_neg (by simp [hdraft]), if_neg (by simp [running])]
      split
      · let entered : World σ :=
          { w with nextTicket := w.nextTicket + 1
                   dispatcher := { w.dispatcher with
                     inbound := w.dispatcher.inbound ++ [command] } }
        obtain ⟨submitted, hsubmits⟩ := ih
          { call with tickets := call.tickets ++ [w.nextTicket], acceptedAt := w.now } entered
          running hrest
        obtain ⟨after, hcalls, htickets, hdrafts⟩ := hsubmits.recorded
        refine ⟨submitted + 1, Nat.succ_le_succ hsubmits.counted, ⟨after, hcalls, ?_, hdrafts⟩, ?_,
          hsubmits.results, hsubmits.blocked, fun other hother => ?_⟩
        · rw [htickets, List.range'_succ]
          simp [entered]
        · rw [hsubmits.tickets]
          exact Nat.add_right_comm ..
        · rcases hsubmits.commands other hother with hold | ⟨place, later, hlater, rfl⟩
          · cases hold with
            | underWay found same => exact .inl (.underWay found same)
            | queued waits =>
                rcases List.mem_append.mp waits with waits | hnew
                · exact .inl (.queued waits)
                · exact .inr ⟨0, draft, rfl, List.mem_singleton.mp hnew⟩
            | blocked waits => exact .inl (.blocked waits)
          · exact .inr ⟨place + 1, later, hlater, by rw [← Nat.add_assoc, Nat.add_right_comm]⟩
      · refine ⟨1, Nat.le_add_left _ _, ⟨_, rfl, rfl, rfl⟩, rfl, rfl, ?_, fun other hother => ?_⟩
        · intro e he
          rcases List.mem_append.mp he with hold | hnew
          · exact .inl hold
          · exact .inr (congrArg Prod.fst (List.mem_singleton.mp hnew))
        · cases hother with
          | underWay found same => exact .inl (.underWay found same)
          | queued waits => exact .inl (.queued waits)
          | blocked waits =>
              rcases List.mem_append.mp waits with waits | hnew
              · exact .inl (.blocked waits)
              · exact .inr ⟨0, draft, rfl, congrArg Prod.snd (List.mem_singleton.mp hnew)⟩

end ClusterKv.World

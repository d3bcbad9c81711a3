import ClusterKv.Proofs.Dispatcher.Places
import ClusterKv.Proofs.Simulation.Admission

/-! # Commands in line

A submission waits in the queue, or is blocked until there is room in the queue, and is accepted
when its turn comes. If submissions come in the order of their deadlines, then no command in flight
has a deadline after that of one in line. And no command is lost before it has its result. -/

namespace ClusterKv.World.Front

open Dispatcher (Accepted Everywhere Numbered)

variable {permitted : Draft → Prop} {f f' : Front} {P : Command → Prop}

/-- The submissions that have not been accepted, first those in the queue. -/
def line (f : Front) : List Command := f.dispatcher.inbound ++ f.blocked.map (·.2)

/-- A command has no result yet: it is in flight, in the queue or blocked. -/
inductive Unresolved (f : Front) (command : Command) : Prop where
  | underWay {id : Nat} {entry : Entry} (found : f.dispatcher.inFlight.get? id = some entry)
      (same : entry.command = command)
  | queued (waits : command ∈ f.dispatcher.inbound)
  | blocked {number : Nat} (waits : (number, command) ∈ f.blocked)

theorem Unresolved.cases_line {command : Command} (h : f.Unresolved command) :
    (∃ id entry, f.dispatcher.inFlight.get? id = some entry ∧ entry.command = command) ∨
      command ∈ f.line := by
  cases h with
  | underWay found same => exact .inl ⟨_, _, found, same⟩
  | queued waits => exact .inr (List.mem_append_left _ waits)
  | blocked waits => exact .inr (List.mem_append_right _ (List.mem_map_of_mem waits))

/-! ## Turns -/

section

variable (hf : Numbered f.dispatcher .empty) (table : Topology)
include hf

theorem turn_line {input : Dispatcher.Input} (other : input ≠ .accept)
    (lasting : input ≠ .shutdown) : (f.turn table input).line = f.line := by
  have hsame := Dispatcher.turn_inbound_eq (m := f.moment table) hf other lasting
  exact congrArg (· ++ f.blocked.map (·.2)) hsame

theorem turn_still_running {input : Dispatcher.Input} (lasting : input ≠ .shutdown)
    (running : f.dispatcher.stopped = false) : (f.turn table input).dispatcher.stopped = false :=
  (Dispatcher.turn_stopped (m := f.moment table) hf lasting).trans running

end

theorem accept_line (f : Front) (table : Topology) (filled : f.dispatcher.inbound ≠ []) :
    ∃ first, f.dispatcher.inbound.head? = some first ∧
      f.line = first :: (f.turn table .accept).line := by
  have htail : (f.turn table .accept).dispatcher.inbound = f.dispatcher.inbound.tail :=
    Dispatcher.accept_inbound (m := f.moment table) f.dispatcher
  obtain ⟨first, rest, hfirst⟩ := List.exists_cons_of_ne_nil filled
  refine ⟨first, by rw [hfirst]; rfl, ?_⟩
  rw [line, line, htail, hfirst]
  rfl

/-- Nothing is left when everything has been ended. -/
theorem Halts.empty (h : Halts f f') : f'.dispatcher.inFlight = [] ∧ f'.line = [] := by
  simp [line, h.dispatcher, h.blocked, Dispatcher.shutDown_eq]

/-! ## A property of all commands -/

/-- Every command without a result has a property. -/
structure Everyone (P : Command → Prop) (f : Front) : Prop where
  everywhere : Everywhere P (f.dispatcher, .empty)
  blocked : ∀ e ∈ f.blocked, P e.2

namespace Everyone

theorem holds (h : Everyone P f) {command : Command} (hc : f.Unresolved command) : P command := by
  cases hc with
  | underWay found same => exact same ▸ h.everywhere.underWay _ _ found
  | queued waits => exact h.everywhere.queued _ waits
  | blocked waits => exact h.blocked _ waits

theorem of_all (h : ∀ command, f.Unresolved command → P command) : Everyone P f where
  everywhere := ⟨fun _ waits => h _ (.queued waits), fun _ _ found => h _ (.underWay found rfl),
    by simp [Dispatcher.Hand.command?]⟩
  blocked _ waits := h _ (.blocked waits)

theorem line (h : Everyone P f) : ∀ command ∈ f.line, P command := by
  intro command hcommand
  rcases List.mem_append.mp hcommand with hqueued | hblocked
  · exact h.everywhere.queued _ hqueued
  · obtain ⟨e, he, rfl⟩ := List.mem_map.mp hblocked
    exact h.blocked e he

/-- Turns keep what all commands have. -/
theorem turn (hP : ∀ origin command : Command, origin.Continues command → P origin → P command)
    (h : Everyone P f) (hn : Numbered f.dispatcher .empty) (table : Topology)
    (input : Dispatcher.Input) : Everyone P (f.turn table input) := by
  obtain ⟨hqueued, hunderWay, hinHand⟩ :=
    Dispatcher.turn_everywhere (m := f.moment table) hP hn input h.everywhere
  exact ⟨⟨hqueued, hunderWay, hinHand⟩, h.blocked⟩

end Everyone

/-- Deeds keep what all commands have, and what all drafts bring. -/
theorem Deed.everyone
    (hP : ∀ origin command : Command, origin.Continues command → P origin → P command)
    (h : Deed permitted f f') (hnew : ∀ draft, permitted draft → P (f.drafted draft))
    (hn : Numbered f.dispatcher .empty) (hf : Everyone P f) : Everyone P f' := by
  have hturn : ∀ table input, Everyone P (f.turn table input) := hf.turn hP hn
  cases h with
  | turn | accept => exact hturn _ _
  | @follow table number command blocked _ _ _ first =>
      have hlater := hf.blocked
      rw [first] at hlater
      obtain ⟨hcommand, hblocked⟩ := List.forall_mem_cons.mp hlater
      obtain ⟨hqueued, hunderWay, hinHand⟩ := (hturn table .accept).everywhere
      refine ⟨⟨?_, hunderWay, hinHand⟩, hblocked⟩
      intro other hother
      rcases List.mem_append.mp hother with hold | hnew
      · exact hqueued other hold
      · exact List.mem_singleton.mp hnew ▸ hcommand
  | stop running halts =>
      obtain ⟨hentries, hline⟩ := halts.empty
      refine .of_all fun command hcommand => ?_
      rcases hcommand.cases_line with ⟨id, entry, hentry, -⟩ | hwaits
      · simp [hentries] at hentry
      · simp [hline] at hwaits
  | refuse | note => exact ⟨hf.everywhere, hf.blocked⟩
  | enter allowed =>
      refine ⟨⟨?_, hf.everywhere.underWay, hf.everywhere.inHand⟩, hf.blocked⟩
      exact List.forall_mem_append.mpr
        ⟨hf.everywhere.queued, by simpa using hnew _ allowed⟩
  | block allowed =>
      refine ⟨hf.everywhere, ?_⟩
      exact List.forall_mem_append.mpr ⟨hf.blocked, by simpa using hnew _ allowed⟩

/-! ## The order of the line -/

/-- Commands are in the order of their deadlines: those in line among each other, and those in
flight before them. -/
structure Ordered (f : Front) : Prop where
  line : f.line.Pairwise (·.deadline ≤ ·.deadline)
  ahead : Accepted (fun command => ∀ later ∈ f.line, command.deadline ≤ later.deadline)
    (f.dispatcher, .empty)

namespace Ordered

theorem congr (h : Ordered f) (hline : f'.line = f.line)
    (hentries : f'.dispatcher.inFlight = f.dispatcher.inFlight) : Ordered f' := by
  refine ⟨hline ▸ h.line, ?_, by simp [Dispatcher.Hand.command?]⟩
  simp only [hentries, hline]
  exact h.ahead.underWay

/-- A submission joins the line whose deadline is the last. -/
theorem join (h : Ordered f) {command : Command} (hline : f'.line = f.line ++ [command])
    (hentries : f'.dispatcher.inFlight = f.dispatcher.inFlight)
    (hlast : Everyone (·.deadline ≤ command.deadline) f) : Ordered f' := by
  refine ⟨?_, ?_, by simp [Dispatcher.Hand.command?]⟩
  · rw [hline, List.pairwise_append]
    exact ⟨h.line, List.pairwise_singleton _ _, by simpa using hlast.line⟩
  · simp only [hentries, hline]
    intro id entry hentry
    exact List.forall_mem_append.mpr
      ⟨h.ahead.underWay id entry hentry, by simpa using hlast.everywhere.underWay id entry hentry⟩

variable (table : Topology)

theorem turn (h : Ordered f) (hn : Numbered f.dispatcher .empty) {input : Dispatcher.Input}
    (other : input ≠ .accept) (lasting : input ≠ .shutdown) : Ordered (f.turn table input) := by
  have hline := turn_line hn table other lasting
  refine ⟨hline ▸ h.line, ?_⟩
  rw [hline]
  have hturn := Dispatcher.turn_accepted (m := f.moment table) ?_ hn other h.ahead
  · exact ⟨hturn.underWay, hturn.inHand⟩
  · intro origin command hsame horigin
    rwa [hsame.deadline]

/-- Whoever is first in line comes after those in flight, and before the others. -/
theorem accept (h : Ordered f) (filled : f.dispatcher.inbound ≠ []) :
    Ordered (f.turn table .accept) := by
  obtain ⟨first, hfirst, hline⟩ := accept_line f table filled
  have hpairs := h.line
  rw [hline] at hpairs
  obtain ⟨hleast, hrest⟩ := List.pairwise_cons.mp hpairs
  refine ⟨hrest, ?_⟩
  have haccepted := Dispatcher.accept_accepted (m := f.moment table) (d := f.dispatcher)
    (P := fun command => ∀ later ∈ (f.turn table .accept).line, command.deadline ≤ later.deadline)
    ?_ ⟨?_, by simp [Dispatcher.Hand.command?]⟩ ?_
  · exact ⟨haccepted.underWay, haccepted.inHand⟩
  · intro origin command hsame horigin
    rwa [hsame.deadline]
  · intro id entry hentry later hlater
    exact h.ahead.underWay id entry hentry later (hline ▸ List.mem_cons_of_mem _ hlater)
  · intro command hcommand
    obtain rfl := Option.some.inj (hfirst.symm.trans hcommand)
    exact hleast

end Ordered

/-- If new commands have the last deadlines, deeds keep the order. -/
theorem Deed.ordered (h : Deed permitted f f')
    (hlast : ∀ draft, permitted draft → Everyone (·.deadline ≤ (f.drafted draft).deadline) f)
    (hn : Numbered f.dispatcher .empty) (hf : Ordered f) : Ordered f' := by
  cases h with
  | turn running other lasting => exact hf.turn _ hn other lasting
  | accept running accepting filled => exact hf.accept _ filled
  | @follow table number command blocked running accepting filled first =>
      -- Whoever follows goes from the head of the blocked to the end of the queue: the line stays.
      have haccept := hf.accept table filled
      refine haccept.congr ?_ rfl
      have hblocked : (f.turn table .accept).blocked = (number, command) :: blocked := first
      rw [line, line, hblocked, List.append_assoc]
      rfl
  | stop running halts =>
      obtain ⟨hentries, hline⟩ := halts.empty
      exact ⟨by simp [hline], by simp [hentries], by simp [Dispatcher.Hand.command?]⟩
  | refuse | note => exact hf.congr rfl rfl
  | enter allowed running vacant =>
      refine hf.join ?_ rfl (hlast _ allowed)
      simp [line, vacant]
  | block allowed =>
      refine hf.join ?_ rfl (hlast _ allowed)
      simp [line]

/-! ## Room in the queue -/

/-- Submissions are blocked only while the queue is full, and there are none once the dispatcher has
stopped. -/
structure Flowing (f : Front) : Prop where
  full : f.blocked ≠ [] → f.depth ≤ f.dispatcher.inbound.length
  ended : f.dispatcher.stopped = true → f.line = []

theorem Flowing.of_running (running : f.dispatcher.stopped = false)
    (full : f.blocked ≠ [] → f.depth ≤ f.dispatcher.inbound.length) : Flowing f :=
  ⟨full, fun stopped => by simp [running] at stopped⟩

theorem Deed.flowing (h : Deed permitted f f') (hn : Numbered f.dispatcher .empty)
    (hf : Flowing f) : Flowing f' := by
  cases h with
  | @turn table input running other lasting =>
      have hsame := Dispatcher.turn_inbound_eq (m := f.moment table) hn other lasting
      refine .of_running (turn_still_running hn table lasting running) fun hblocked => ?_
      exact Nat.le_trans (hf.full hblocked) (Nat.le_of_eq (congrArg List.length hsame).symm)
  | @accept table running accepting filled stays =>
      refine .of_running (turn_still_running hn table (by simp) running) fun hblocked => ?_
      exact stays.resolve_left hblocked
  | @follow table number command blocked running accepting filled first room =>
      refine .of_running (turn_still_running hn table (by simp) running) fun _ => ?_
      have hfull := hf.full (by simp [first])
      have htail : (f.turn table .accept).dispatcher.inbound = f.dispatcher.inbound.tail :=
        Dispatcher.accept_inbound (m := f.moment table) f.dispatcher
      simp only [htail, List.length_append, List.length_tail, List.length_singleton]
      refine Nat.le_trans hfull ?_
      omega
  | stop running halts => exact ⟨by simp [halts.blocked], fun _ => halts.empty.2⟩
  | refuse | note => exact ⟨hf.full, hf.ended⟩
  | enter allowed running vacant => exact .of_running running fun hblocked => absurd vacant hblocked
  | block allowed others running full =>
      refine .of_running running fun _ => ?_
      exact full.elim hf.full id

/-! ## No command is lost -/

/-- Whoever has submitted a command that has no result yet. -/
def Awaits (f : Front) (ticket : Nat) : Prop :=
  0 < f.dispatcher.queued ticket + f.dispatcher.underWay ticket ∨
    ∃ e ∈ f.blocked, e.2.ticket = ticket

/-- Every submission has its result or awaits it. -/
def Accounted (f : Front) : Prop :=
  ∀ ticket < f.nextTicket, f.results.has ticket = true ∨ f.Awaits ticket

theorem Awaits.unresolved {ticket : Nat} (h : f.Awaits ticket) (hn : Numbered f.dispatcher .empty) :
    ∃ command, f.Unresolved command ∧ command.ticket = ticket := by
  rcases h with hcount | ⟨⟨number, command⟩, hblocked, hticket⟩
  · rcases Nat.add_pos_iff_pos_or_pos.mp hcount with hqueued | hunderWay
    · obtain ⟨command, hwaits, hticket⟩ := List.countP_pos_iff.mp hqueued
      exact ⟨command, .queued hwaits, by simpa using hticket⟩
    · obtain ⟨⟨id, entry⟩, hentry, hticket⟩ := List.countP_pos_iff.mp hunderWay
      exact ⟨entry.command, .underWay (Assoc.get?_of_mem hn.distinct hentry) rfl,
        by simpa using hticket⟩
  · exact ⟨command, .blocked hblocked, hticket⟩

theorem turn_accounted (hn : Numbered f.dispatcher .empty) (hdone : f.dispatcher.outbox = [])
    (hf : Accounted f) (table : Topology) (input : Dispatcher.Input) :
    Accounted (f.turn table input) := by
  intro ticket hticket
  have hresults := has_record f.now
    (f.dispatcher.turn (f.moment table) input).outbox.reverse f.results ticket
  simp only [List.mem_reverse] at hresults
  rcases hf ticket hticket with hold | hcount | hblocked
  · exact .inl (hresults.mpr (.inl hold))
  · have hfound := Dispatcher.turn_found (m := f.moment table) hn hdone input hcount
    rcases hfound with hstill | hended
    · exact .inr (.inl hstill)
    · exact .inl (hresults.mpr (.inr hended))
  · exact .inr (.inr hblocked)

theorem queued_concat (d : Dispatcher) (command : Command) (ticket : Nat) :
    ({ d with inbound := d.inbound ++ [command] } : Dispatcher).queued ticket =
      d.queued ticket + if command.ticket = ticket then 1 else 0 := by
  simp [Dispatcher.queued, List.countP_append, List.countP_singleton]

/-- No deed loses a command. -/
theorem Deed.accounted (h : Deed permitted f f') (hf : f.Sound) (ha : Accounted f) :
    Accounted f' := by
  -- Whoever awaits a result still does when another command joins the queue.
  have hjoin : ∀ {d : Dispatcher} {ticket : Nat} (command : Command),
      0 < d.queued ticket + d.underWay ticket →
      0 < ({ d with inbound := d.inbound ++ [command] } : Dispatcher).queued ticket +
        d.underWay ticket := by
    intro d ticket command hcount
    rw [queued_concat]
    omega
  have hjoined : ∀ (d : Dispatcher) (command : Command),
      0 < ({ d with inbound := d.inbound ++ [command] } : Dispatcher).queued command.ticket +
        d.underWay command.ticket := by
    intro d command
    rw [queued_concat, if_pos rfl]
    omega
  cases h with
  | turn | accept => exact turn_accounted hf.numbered hf.done ha _ _
  | @follow table number command blocked running accepting filled first =>
      intro ticket hticket
      refine (turn_accounted hf.numbered hf.done ha table .accept ticket hticket).imp_right ?_
      rintro (hcount | ⟨e, he, rfl⟩)
      · exact .inl (hjoin command hcount)
      · have he : e ∈ (number, command) :: blocked := first ▸ he
        rcases List.mem_cons.mp he with rfl | he
        · exact .inl (hjoined _ command)
        · exact .inr ⟨e, he, rfl⟩
  | stop running halts =>
      intro ticket hticket
      left
      by_cases hold : ticket < f.nextTicket
      · rcases ha ticket hold with hresult | hcount | ⟨e, he, rfl⟩
        · exact halts.kept ticket hresult
        · have hfound := Dispatcher.turn_found (m := f.moment .empty) hf.numbered hf.done .shutdown
            hcount
          rcases hfound with hstill | ⟨result, hended⟩
          · simp [Dispatcher.turn, Dispatcher.shutDown_eq, Dispatcher.queued,
              Dispatcher.underWay] at hstill
          · exact halts.ended ticket result hended
        · exact halts.released e he
      · exact halts.refused ticket (Nat.le_of_not_lt hold) hticket
  | refuse =>
      intro ticket hticket
      rcases Nat.lt_succ_iff_lt_or_eq.mp hticket with hold | rfl
      · refine (ha ticket hold).imp_left fun hresult => ?_
        exact (Assoc.has_put _ _ _ _).mpr (.inr hresult)
      · exact .inl ((Assoc.has_put _ _ _ _).mpr (.inl rfl))
  | @enter draft =>
      intro ticket hticket
      rcases Nat.lt_succ_iff_lt_or_eq.mp hticket with hold | rfl
      · exact (ha ticket hold).imp_right (Or.imp_left (hjoin _))
      · exact .inr (.inl (hjoined f.dispatcher (f.drafted draft)))
  | @block draft number =>
      intro ticket hticket
      rcases Nat.lt_succ_iff_lt_or_eq.mp hticket with hold | rfl
      · refine (ha ticket hold).imp_right (Or.imp_right ?_)
        rintro ⟨e, he, hsame⟩
        exact ⟨e, List.mem_append_left _ he, hsame⟩
      · exact .inr (.inr ⟨_, List.mem_append_right _ (List.mem_singleton.mpr rfl), rfl⟩)
  | note => exact ha

end ClusterKv.World.Front

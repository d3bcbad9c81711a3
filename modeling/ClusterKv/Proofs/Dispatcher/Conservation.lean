import ClusterKv.Proofs.Dispatcher.Places
import ClusterKv.Proofs.Dispatcher.Run

/-! # No command is lost or resolved twice

At any time in any run a submitted command is in the queue, or in flight under its number, or
resolved: in one of these places, and once. A shutdown resolves whatever is not resolved yet. -/

namespace ClusterKv.Run

open Dispatcher

variable {config : Config}

/-! ## Where a command is -/

/-- The commands of a caller in the queue. -/
def queue (r : Run) (ticket : Nat) : List Command :=
  r.dispatcher.inbound.filter (·.ticket = ticket)

/-- The entries of a caller in flight. -/
def entries (r : Run) (ticket : Nat) : List (Nat × Entry) :=
  r.dispatcher.inFlight.filter (·.2.command.ticket = ticket)

/-- The results that a caller has got. -/
def resolved (r : Run) (ticket : Nat) : List (Except Error Reply) := results ticket r.journal

/-- A submitted command is in the queue as it was submitted, or in flight under its number, or
resolved, and nowhere else. -/
inductive Placed (r : Run) (origin : Command) : Prop where
  | queued (queue : r.queue origin.ticket = [origin]) (entries : r.entries origin.ticket = [])
      (resolved : r.resolved origin.ticket = [])
  | underWay (entry : Entry) (same : origin.Continues entry.command)
      (queue : r.queue origin.ticket = [])
      (entries : r.entries origin.ticket = [(entry.command.id, entry)])
      (resolved : r.resolved origin.ticket = [])
  | resolved (result : Except Error Reply) (queue : r.queue origin.ticket = [])
      (entries : r.entries origin.ticket = []) (resolved : r.resolved origin.ticket = [result])

/-! ## The invariant -/

/-- The books of a run are in order. -/
structure Sound (r : Run) : Prop where
  numbered : Numbered r.dispatcher .empty
  done : r.dispatcher.outbox = []
  tickets : r.submitted.map (·.ticket) = List.range r.submitted.length
  fromQueue : ∀ command ∈ r.dispatcher.inbound, command ∈ r.submitted
  origins : Everywhere (fun command => ∃ origin ∈ r.submitted, origin.Continues command)
    (r.dispatcher, .empty)
  once : ∀ ticket, r.dispatcher.queued ticket + r.dispatcher.underWay ticket +
    (r.resolved ticket).length = if ticket < r.submitted.length then 1 else 0
  ended : r.dispatcher.stopped = true → r.dispatcher.inbound = [] ∧ r.dispatcher.inFlight = []

theorem start_sound : Sound {} where
  numbered := .start
  done := rfl
  tickets := by simp
  fromQueue := by simp
  origins := ⟨by simp, by simp, by simp [Hand.command?]⟩
  once := fun _ => rfl
  ended := by simp

/-- Whatever goes on from a command goes on from its submission. -/
theorem continues_origin {submitted : List Command} (first second : Command)
    (hsame : first.Continues second) (h : ∃ origin ∈ submitted, origin.Continues first) :
    ∃ origin ∈ submitted, origin.Continues second := by
  obtain ⟨origin, horigin, hfirst⟩ := h
  exact ⟨origin, horigin, hfirst.trans hsame⟩

theorem Sound.submit {r : Run} (h : r.Sound) (operation : Operation) (target : Target)
    (timeout : Duration) (created : Instant) :
    (r.step config (.submit operation target timeout created)).Sound := by
  cases hstopped : r.dispatcher.stopped with
  | true =>
      have hsame : r.step config (.submit operation target timeout created) = r := by
        simp [step, hstopped]
      rwa [hsame]
  | false =>
      rw [step_submit hstopped]
      generalize hcommand : Command.create r.submitted.length operation target timeout created =
        command
      have hticket : command.ticket = r.submitted.length := by rw [← hcommand]; rfl
      have hself : command.Continues command := ⟨rfl, rfl, rfl, rfl, rfl⟩
      refine ⟨h.numbered.congr rfl rfl h.numbered.queues rfl, h.done, ?_, ?_, ?_, ?_, ?_⟩
      · simp [h.tickets, hticket, List.range_succ]
      · intro other hother
        rcases List.mem_append.mp hother with hother | hother
        · exact List.mem_append_left _ (h.fromQueue other hother)
        · exact List.mem_append_right _ hother
      · have horigin : ∀ other, (∃ origin ∈ r.submitted, origin.Continues other) →
            ∃ origin ∈ r.submitted ++ [command], origin.Continues other := by
          rintro other ⟨origin, horigin, hsame⟩
          exact ⟨origin, List.mem_append_left _ horigin, hsame⟩
        refine ⟨?_, fun id entry hentry => horigin _ (h.origins.underWay id entry hentry),
          by simp [Hand.command?]⟩
        intro other hother
        rcases List.mem_append.mp hother with hother | hother
        · exact horigin other (h.origins.queued other hother)
        · obtain rfl := List.mem_singleton.mp hother
          exact ⟨other, by simp, hself⟩
      · intro ticket
        have honce := h.once ticket
        simp only [queued, List.countP_append, List.countP_singleton, hticket, resolved,
          List.length_append, List.length_singleton, decide_eq_true_eq] at honce ⊢
        split_ifs at honce ⊢ <;> simp only [underWay] at honce ⊢ <;> omega
      · simp [hstopped]

theorem Sound.turn {r : Run} (h : r.Sound) (now : Instant) (table : Topology)
    (input : Dispatcher.Input) : (r.step config (.turn now table input)).Sound := by
  cases hstopped : r.dispatcher.stopped with
  | true =>
      have hsame : r.step config (.turn now table input) = r := by
        simp [step, hstopped]
      rwa [hsame]
  | false =>
      rw [step_turn hstopped]
      have hnumbered := turn_numbered (m := ⟨config, now, table⟩) h.numbered input
      refine ⟨hnumbered.congr rfl rfl hnumbered.queues rfl, rfl, h.tickets, ?_, ?_, ?_, ?_⟩
      · intro command hcommand
        by_cases hinput : input = .shutdown
        · simp [hinput, Dispatcher.turn, shutDown_eq] at hcommand
        · exact h.fromQueue command ((turn_inbound h.numbered hinput).subset hcommand)
      · have horigins := turn_everywhere (m := ⟨config, now, table⟩) continues_origin h.numbered input
          h.origins
        exact ⟨horigins.queued, horigins.underWay, by simp [Hand.command?]⟩
      · intro ticket
        have hplaces := turn_places (m := ⟨config, now, table⟩) h.numbered input ticket
        have honce := h.once ticket
        have hnone : results ticket [] = [] := rfl
        simp only [places, Hand.holding_empty, h.done, hnone, List.length_nil] at hplaces
        simp only [resolved, results_append, List.length_append, results_reverse_length] at honce ⊢
        simp only [queued, underWay] at hplaces honce ⊢
        omega
      · intro hstop
        by_cases hinput : input = .shutdown
        · simp [hinput, Dispatcher.turn, shutDown_eq]
        · have hsame := turn_stopped (m := ⟨config, now, table⟩) h.numbered hinput
          rw [hstopped] at hsame
          simp [hsame] at hstop

theorem Sound.step {r : Run} (h : r.Sound) (event : Event) : (r.step config event).Sound := by
  cases event with
  | submit operation target timeout created => exact h.submit operation target timeout created
  | turn now table input => exact h.turn now table input
  | write place =>
      obtain ⟨written, hwrite⟩ := step_write config r place
      rw [hwrite]
      exact ⟨h.numbered, h.done, h.tickets, h.fromQueue, h.origins, h.once, h.ended⟩

theorem sound (config : Config) (events : List Event) : (of config events).Sound :=
  induct start_sound (fun _ event h => h.step event) events

/-- What a dispatcher has from its start, together with the journal, and what submissions and turns
keep, it has in every run. -/
theorem dispatcher_induct {P : List Effect → Dispatcher → Prop} (hstart : P [] {})
    (hsubmit : ∀ journal d command, P journal d →
      P journal { d with inbound := d.inbound ++ [command] })
    (hturn : ∀ journal d (m : Moment) input, m.config = config → Numbered d .empty →
      d.outbox = [] → P journal d →
      P (journal ++ (d.turn m input).outbox.reverse) { d.turn m input with outbox := [] })
    (events : List Event) : P (of config events).journal (of config events).dispatcher := by
  induction events using List.reverseRecOn with
  | nil => exact hstart
  | append_singleton events event ih =>
      rw [of_concat]
      have h := sound config events
      rcases step_cases config (of config events) event with
        ⟨written, hstep⟩ | ⟨command, hstep⟩ | ⟨now, table, input, -, -, hstep⟩
      · rw [hstep]
        exact ih
      · rw [hstep]
        exact hsubmit _ _ _ ih
      · rw [hstep]
        exact hturn _ _ ⟨config, now, table⟩ input rfl h.numbered h.done ih

/-! ## One place at a time -/

theorem entries_length (r : Run) (ticket : Nat) :
    (r.entries ticket).length = r.dispatcher.underWay ticket :=
  List.countP_eq_length_filter.symm

theorem queue_length (r : Run) (ticket : Nat) :
    (r.queue ticket).length = r.dispatcher.queued ticket :=
  List.countP_eq_length_filter.symm

namespace Sound

variable {r : Run}

/-- Tickets tell submissions apart. -/
theorem eq_of_ticket (h : r.Sound) {first second : Command} (hfirst : first ∈ r.submitted)
    (hsecond : second ∈ r.submitted) (hticket : first.ticket = second.ticket) : first = second := by
  have hdistinct : (r.submitted.map (·.ticket)).Nodup := by
    rw [h.tickets]
    exact List.nodup_range
  exact List.inj_on_of_nodup_map hdistinct hfirst hsecond hticket

theorem ticket_lt (h : r.Sound) {origin : Command} (horigin : origin ∈ r.submitted) :
    origin.ticket < r.submitted.length := by
  have hmem := List.mem_map_of_mem (f := (·.ticket)) horigin
  rwa [h.tickets, List.mem_range] at hmem

theorem placed (h : r.Sound) {origin : Command} (horigin : origin ∈ r.submitted) :
    r.Placed origin := by
  have honce := h.once origin.ticket
  rw [if_pos (h.ticket_lt horigin), ← queue_length, ← entries_length] at honce
  cases hqueue : r.queue origin.ticket with
  | cons command rest =>
      simp only [hqueue, List.length_cons] at honce
      have hrest : rest = [] := List.eq_nil_of_length_eq_zero (by omega)
      have hmem : command ∈ r.queue origin.ticket := by simp [hqueue]
      obtain ⟨hqueued, hticket⟩ := List.mem_filter.mp hmem
      obtain rfl := h.eq_of_ticket (h.fromQueue command hqueued) horigin (by simpa using hticket)
      refine .queued (by rw [hqueue, hrest]) ?_ ?_
      · exact List.eq_nil_of_length_eq_zero (by omega)
      · exact List.eq_nil_of_length_eq_zero (by omega)
  | nil =>
      cases hentries : r.entries origin.ticket with
      | cons e rest =>
          simp only [hqueue, hentries, List.length_cons, List.length_nil] at honce
          have hrest : rest = [] := List.eq_nil_of_length_eq_zero (by omega)
          obtain ⟨id, entry⟩ := e
          have hmem : (id, entry) ∈ r.entries origin.ticket := by simp [hentries]
          obtain ⟨hflying, hticket⟩ := List.mem_filter.mp hmem
          have hget := Assoc.get?_of_mem h.numbered.distinct hflying
          obtain ⟨other, hother, hsame⟩ := h.origins.underWay id entry hget
          obtain rfl := h.eq_of_ticket hother horigin
            (hsame.ticket.symm.trans (by simpa using hticket))
          refine .underWay entry hsame hqueue ?_ (List.eq_nil_of_length_eq_zero (by omega))
          rw [h.numbered.keyed id entry hget, hentries, hrest]
      | nil =>
          simp only [hqueue, hentries, List.length_nil, Nat.zero_add] at honce
          obtain ⟨result, hresult⟩ := List.length_eq_one_iff.mp honce
          exact .resolved result hqueue hentries hresult

/-- A command in flight is nowhere else. -/
theorem of_entry (h : r.Sound) {id : Nat} {entry : Entry}
    (hentry : r.dispatcher.inFlight.get? id = some entry) :
    r.entries entry.command.ticket = [(id, entry)] ∧ r.resolved entry.command.ticket = [] := by
  obtain ⟨origin, horigin, hsame⟩ := h.origins.underWay id entry hentry
  have hmem : (id, entry) ∈ r.entries origin.ticket :=
    List.mem_filter.mpr ⟨Assoc.mem_of_get? hentry, by simpa using hsame.ticket⟩
  rw [hsame.ticket]
  cases h.placed horigin with
  | queued _ entries | resolved _ _ entries =>
      rw [entries] at hmem
      cases hmem
  | underWay _ _ _ entries resolved =>
      rw [entries] at hmem
      exact ⟨by rw [entries, List.mem_singleton.mp hmem], resolved⟩

/-- A resolved command is nowhere else. -/
theorem of_result (h : r.Sound) {ticket : Nat} {result : Except Error Reply}
    (hresult : result ∈ r.resolved ticket) :
    r.entries ticket = [] ∧ r.resolved ticket = [result] := by
  have honce := h.once ticket
  have hpos := List.length_pos_of_mem hresult
  rw [← queue_length, ← entries_length] at honce
  have hentries : (r.entries ticket).length = 0 := by split_ifs at honce <;> omega
  have hlength : (r.resolved ticket).length = 1 := by split_ifs at honce <;> omega
  obtain ⟨only, honly⟩ := List.length_eq_one_iff.mp hlength
  rw [honly, List.mem_singleton] at hresult
  exact ⟨List.eq_nil_of_length_eq_zero hentries, by rw [honly, hresult]⟩

/-- A command in flight has one number. -/
theorem single (h : r.Sound) {id other : Nat} {entry otherEntry : Entry}
    (hentry : r.dispatcher.inFlight.get? id = some entry)
    (hother : r.dispatcher.inFlight.get? other = some otherEntry)
    (hticket : entry.command.ticket = otherEntry.command.ticket) : id = other := by
  have hfirst := (h.of_entry hentry).1
  rw [hticket, (h.of_entry hother).1] at hfirst
  simp only [List.cons.injEq, Prod.mk.injEq, and_true] at hfirst
  exact hfirst.1.symm

/-- A shutdown resolves what is not resolved yet, and nothing else. -/
theorem resolved_shutdown (h : r.Sound) (hstopped : r.dispatcher.stopped = false) (now : Instant)
    (table : Topology) {origin : Command} (horigin : origin ∈ r.submitted) :
    (r.resolved origin.ticket = [] →
      (r.step config (.turn now table .shutdown)).resolved origin.ticket = [.error .shutdown]) ∧
    (r.resolved origin.ticket ≠ [] →
      (r.step config (.turn now table .shutdown)).resolved origin.ticket =
        r.resolved origin.ticket) := by
  have honce := h.once origin.ticket
  rw [if_pos (h.ticket_lt horigin)] at honce
  have hafter : (r.step config (.turn now table .shutdown)).resolved origin.ticket =
      r.resolved origin.ticket ++
        List.replicate (r.dispatcher.queued origin.ticket + r.dispatcher.underWay origin.ticket)
          (.error .shutdown) := by
    rw [step_turn hstopped]
    simp only [resolved, results_append, Dispatcher.turn]
    rw [shutDown_results, h.done]
    rfl
  rw [hafter]
  refine ⟨?_, ?_⟩
  · intro hnone
    rw [hnone, List.length_nil] at honce
    rw [hnone, show r.dispatcher.queued origin.ticket + r.dispatcher.underWay origin.ticket = 1 by
      omega]
    rfl
  · intro hsome
    have hpos : 0 < (r.resolved origin.ticket).length := List.length_pos_iff.mpr hsome
    rw [show r.dispatcher.queued origin.ticket + r.dispatcher.underWay origin.ticket = 0 by omega]
    simp

/-- After a shutdown everything is resolved. -/
theorem resolved_of_stopped (h : r.Sound) (hstopped : r.dispatcher.stopped = true)
    {origin : Command} (horigin : origin ∈ r.submitted) :
    ∃ result, r.resolved origin.ticket = [result] := by
  have honce := h.once origin.ticket
  obtain ⟨hqueue, hentries⟩ := h.ended hstopped
  simp only [if_pos (h.ticket_lt horigin), queued, underWay, hqueue, hentries,
    List.countP_nil, Nat.zero_add] at honce
  exact List.length_eq_one_iff.mp honce

theorem resolved_of_not_submitted (h : r.Sound) {ticket : Nat}
    (hticket : ∀ origin ∈ r.submitted, origin.ticket ≠ ticket) : r.resolved ticket = [] := by
  have honce := h.once ticket
  have hlt : ¬ticket < r.submitted.length := by
    intro hlt
    have hmem : ticket ∈ r.submitted.map (·.ticket) := by
      rw [h.tickets]
      exact List.mem_range.mpr hlt
    obtain ⟨origin, horigin, hsame⟩ := List.mem_map.mp hmem
    exact hticket origin horigin hsame
  rw [if_neg hlt] at honce
  exact List.eq_nil_of_length_eq_zero (by omega)

end Sound

/-! ## Resolved for good -/

theorem journal_step (config : Config) (r : Run) (event : Event) :
    r.journal <+: (r.step config event).journal := by
  rcases step_cases config r event with ⟨_, h⟩ | ⟨_, h⟩ | ⟨_, _, _, -, -, h⟩
  · simp [h]
  · simp [h]
  · rw [h]
    exact List.prefix_append _ _

theorem journal_foldl (config : Config) (events : List Event) (r : Run) :
    r.journal <+: (events.foldl (step config) r).journal := by
  induction events generalizing r with
  | nil => exact List.prefix_refl _
  | cons event events ih => exact (journal_step config r event).trans (ih _)

theorem submitted_step (config : Config) (r : Run) (event : Event) :
    r.submitted <+: (r.step config event).submitted := by
  rcases step_cases config r event with ⟨_, h⟩ | ⟨_, h⟩ | ⟨_, _, _, -, -, h⟩
  · simp [h]
  · rw [h]
    exact List.prefix_append _ _
  · simp [h]

theorem submitted_foldl (config : Config) (events : List Event) (r : Run) :
    r.submitted <+: (events.foldl (step config) r).submitted := by
  induction events generalizing r with
  | nil => exact List.prefix_refl _
  | cons event events ih => exact (submitted_step config r event).trans (ih _)

theorem mem_resolved {r : Run} {ticket : Nat} {result : Except Error Reply} :
    result ∈ r.resolved ticket ↔ .resolve ticket result ∈ r.journal :=
  mem_results

/-! ## The result -/

/-- All commands are accounted for. -/
structure Accounted (config : Config) (r : Run) : Prop where
  /-- A submitted command is in exactly one place. -/
  placed : ∀ origin ∈ r.submitted, r.Placed origin
  /-- Every entry stands once, under the number of its command, and belongs to a submission. -/
  distinct : r.dispatcher.inFlight.keys.Nodup
  keyed : ∀ e ∈ r.dispatcher.inFlight, e.2.command.id = e.1 ∧
    ∃ origin ∈ r.submitted, origin.Continues e.2.command
  /-- Nobody else gets a result. -/
  others : ∀ ticket, (∀ origin ∈ r.submitted, origin.ticket ≠ ticket) → r.resolved ticket = []
  /-- Results are given for good. -/
  lasting : ∀ (events : List Event) (ticket : Nat),
    r.resolved ticket <+: (events.foldl (step config) r).resolved ticket
  /-- A shutdown resolves what is not resolved yet, and nothing else. -/
  shutdown : r.dispatcher.stopped = false → ∀ now table, ∀ origin ∈ r.submitted,
    (r.resolved origin.ticket = [] →
      (r.step config (.turn now table .shutdown)).resolved origin.ticket = [.error .shutdown]) ∧
    (r.resolved origin.ticket ≠ [] →
      (r.step config (.turn now table .shutdown)).resolved origin.ticket =
        r.resolved origin.ticket)
  /-- After it everything is resolved. -/
  stopped : r.dispatcher.stopped = true → ∀ origin ∈ r.submitted,
    ∃ result, r.resolved origin.ticket = [result]

/-- After every step of every run, each submitted command is in one place, and it is resolved
once. -/
theorem submissions_accounted (config : Config) (events : List Event) :
    (of config events).Accounted config := by
  have h := sound config events
  refine ⟨fun origin => h.placed, h.numbered.distinct, ?_,
    fun ticket => h.resolved_of_not_submitted, ?_, ?_, fun hstopped origin =>
    h.resolved_of_stopped hstopped⟩
  · rintro ⟨id, entry⟩ he
    have hget := Assoc.get?_of_mem h.numbered.distinct he
    exact ⟨h.numbered.keyed id entry hget, h.origins.underWay id entry hget⟩
  · intro more ticket
    exact (journal_foldl config more _).filterMap _
  · intro hstopped now table origin horigin
    exact h.resolved_shutdown hstopped now table horigin

end ClusterKv.Run

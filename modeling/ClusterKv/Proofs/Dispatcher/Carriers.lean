import ClusterKv.Proofs.Dispatcher.Notes
import ClusterKv.Proofs.Dispatcher.Retirement

/-! # Carriers of requests

What is said of the connection that carries a request, and of connections that have died, may be
said in any order. As soon as both are known of one connection the attempt is over, and it is over
in the same way whichever came first. -/

namespace ClusterKv

/-- An error without the wording of the last failure. -/
def Error.plain : Error → Error
  | .retriesExhausted retries _ => .retriesExhausted retries ""
  | .connection _ => .connection ""
  | error => error

/-- A command without its number and the wording of its last failure. -/
def Command.plain (command : Command) : Command := { command with id := 0, lastFailure := none }

/-- An entry without the number of its command and the wording of the last failure. -/
def Entry.plain (entry : Entry) : Entry := { entry with command := entry.command.plain }

namespace Dispatcher

variable {m : Moment} {input : Input}

/-! ## Attempts whose carrier is dead -/

theorem endLost_splits {node : NodeId} {generation : Nat} (reason : String) {id : Nat}
    {entry : Entry} {ids : List Nat} (hid : id ∈ ids) {d : Dispatcher} (hd : Numbered d .empty)
    (hlost : Lost d node generation ids) (hentry : d.inFlight.get? id = some entry)
    (hsent : entry.isSent = true) :
    ∃ d₁ : Dispatcher, Numbered d₁ .empty ∧ d₁.inFlight.get? id = some entry ∧
      Moves m (some (.node (.closed node generation reason)))
        ((d₁.remove id).1.apply m entry.command (.connectionFault reason), .empty)
        (ids.foldl (endLost m reason) d, .empty) := by
  induction ids generalizing d with
  | nil => cases hid
  | cons first rest ih =>
      have hrest : Lost d node generation rest :=
        fun other hother => hlost other (List.mem_cons_of_mem _ hother)
      rw [List.foldl_cons]
      by_cases hfirst : id = first
      · subst hfirst
        refine ⟨d, hd, hentry, ?_⟩
        obtain ⟨command, stage⟩ := entry
        cases stage with
        | sent =>
            rw [← endLost_of_sent hentry]
            exact endLost_moves node generation reason rest _ (hrest.endLost id reason)
        | waiting | awaitingTopology | backoff => cases hsent
      · have hmove := endLost_move (m := m) reason (hlost first (List.mem_cons_self ..)).2
        obtain ⟨-, hsame | ⟨hother, -⟩⟩ :=
          endLost_get? (m := m) first reason (hd.issued id entry hentry)
        · exact ih ((List.mem_cons.mp hid).resolve_left hfirst) (Moves.numbered hmove hd)
            (hrest.endLost first reason) (hsame.trans hentry)
        · exact absurd hother hfirst

/-- At some point of the turn the connection fault is applied to the command. -/
theorem act_loses {d : Dispatcher} (hd : Numbered d .empty) {id : Nat} {entry : Entry}
    (hentry : d.inFlight.get? id = some entry) (hloses : Loses input id entry) :
    ∃ (d₁ : Dispatcher) (noted : Entry) (reason : String), Numbered d₁ .empty ∧
      d₁.inFlight.get? id = some noted ∧
      Moves m (some input)
        ((d₁.remove id).1.apply m entry.command (.connectionFault reason), .empty)
        (d.act m input, .empty) := by
  cases hloses with
  | @acked _ generation command node partition carrier closed dead =>
      have hmark := mark_sent_of_sent hd hentry generation
      have hnumbered := mark_numbered hd (.task (.sent id generation))
      rw [hmark] at hnumbered
      refine ⟨_, _, s!"connection to {node.address} closed", hnumbered,
        Assoc.get?_put_self _ _ _, ?_⟩
      have hact : d.act m (.task (.sent id generation)) = d.onSent m id generation := rfl
      rw [hact]
      simp only [onSent, hentry, List.contains_iff_mem, dead, ite_true]
      exact .refl
  | @closed _ node generation reason command partition closed =>
      have hact : d.act m (.node (.closed node generation reason)) =
          d.onClosed m node generation reason := rfl
      rw [hact, onClosed_eq]
      have hmarked : (d.mark (.node (.closed node generation reason))).inFlight.get? id =
          some ⟨command, .sent node partition (some generation) closed⟩ := by
        simp [mark_get?, hentry, markEntry, heard]
      have hlost : id ∈ (d.inFlight.filter fun e => carriedBy node generation e.2).map (·.1) :=
        List.mem_map.mpr ⟨_, List.mem_filter.mpr ⟨Assoc.mem_of_get? hentry, by simp [carriedBy]⟩,
          rfl⟩
      obtain ⟨d₁, hd₁, hfound, hmoves⟩ := endLost_splits (m := m) reason hlost
        (mark_numbered hd (.node (.closed node generation reason)))
        (lost_onClosed hd node generation reason) hmarked rfl
      exact ⟨d₁, _, reason, hd₁, hfound, hmoves⟩

theorem Loses.ends {id : Nat} {entry : Entry} (h : Loses input id entry) :
    Ends (some input) id entry := by
  cases h with
  | acked dead => exact .lost dead
  | closed => exact .closed (by simp [carriedBy])

/-- What a command comes to whose connection has failed: it is late, or it pauses under another
number and with one retry more, or it has had its retries. -/
inductive Failed (m : Moment) (command : Command) (d : Dispatcher) : Prop where
  | late (late : command.deadline ≤ m.now)
      (told : .resolve command.ticket (.error (.timeout command.timeout)) ∈ d.outbox)
  | again (inTime : m.now < command.deadline) (left : command.retries + 1 ≤ m.config.maxRetries)
      (other : Nat) (reason : String)
      (found : d.inFlight.get? other = some
        ⟨{ command with
            id := other, retries := command.retries + 1, lastFailure := some reason },
          .backoff (m.resume { command with retries := command.retries + 1 })⟩)
  | exhausted (inTime : m.now < command.deadline)
      (exceeded : m.config.maxRetries < command.retries + 1) (reason : String)
      (told : .resolve command.ticket (.error (exhausted m command reason true)) ∈ d.outbox)

theorem apply_fault_failed (d : Dispatcher) (command : Command) (reason : String) :
    Failed m command (d.apply m command (.connectionFault reason)) := by
  unfold apply
  split
  · next late => exact .late late (List.mem_cons_self ..)
  · next inTime =>
      have inTime : m.now < command.deadline := Nat.lt_of_not_le inTime
      rcases chargeRetry_cases (m := m) d command reason true with ⟨left, h⟩ | ⟨exceeded, h⟩
      · simp only [h]
        refine .again inTime left d.nextId reason ?_
        simp [backOff, assignId_eq]
        rfl
      · simp only [h]
        exact .exhausted inTime exceeded reason (List.mem_cons_self ..)

/-- What a failed command has come to stays so for the rest of the turn. -/
theorem Move.failed {cause : Cause} {s t : Dispatcher × Hand} (h : Move m cause s t)
    (hcause : cause = some input ∨ cause = none) (hs : Numbered s.1 s.2) {id : Nat} {noted : Entry}
    (hends : Ends (some input) id noted) {command : Command} (hfailed : Failed m command s.1) :
    Failed m command t.1 := by
  cases hfailed with
  | late late told => exact .late late (h.outbox_mono told)
  | again inTime left other reason found =>
      exact .again inTime left other reason (h.rest_stays hcause hs hends found rfl)
  | exhausted inTime exceeded reason told =>
      exact .exhausted inTime exceeded reason (h.outbox_mono told)

/-- An attempt whose carrier is dead is gone after the turn, and its command has failed. -/
theorem turn_loses {d : Dispatcher} (hd : Numbered d .empty) {id : Nat} {entry : Entry}
    (hentry : d.inFlight.get? id = some entry) (hloses : Loses input id entry) :
    (d.turn m input).inFlight.get? id = none ∧ Failed m entry.command (d.turn m input) := by
  have hinput : input ≠ .shutdown := by
    rintro rfl
    cases hloses
  have hends := hloses.ends
  obtain ⟨d₁, noted, reason, hd₁, hnoted, hmoves⟩ := act_loses (m := m) hd hentry hloses
  have hout : Numbered (d₁.remove id).1 (.spent id entry.command) :=
    hd₁.release (by simp; rfl) (by simp) (remove_waiting_keys_nodup _ hd₁.queues _) (by simp)
      (by simp [Hand.number?])
  have happly := apply_fault_handlings (m := m) (d₁.remove id).1 entry.command
    (.closed : Setback (some (.node (.closed ⟨""⟩ 0 reason))) id) reason
  have hapart : Apart id ((d₁.remove id).1, .spent id entry.command) :=
    ⟨by simpa using hd₁.issued id noted hnoted, by simp [Hand.number?]⟩
  obtain ⟨hfree, hgone, -⟩ := Handlings.frame happly hapart
  rw [remove_inFlight, Assoc.get?_erase_self] at hgone
  have hkept : ∀ cause s t, cause = some input ∨ cause = none → Move m cause s t →
      (Numbered s.1 s.2 ∧ Apart id s ∧ s.1.inFlight.get? id = none ∧
        Failed m entry.command s.1) →
      Numbered t.1 t.2 ∧ Apart id t ∧ t.1.inFlight.get? id = none ∧
        Failed m entry.command t.1 := by
    rintro cause s t hcause hmove ⟨hs, hid, hnone, hfailed⟩
    obtain ⟨hid, hnone⟩ := hmove.gone hs hid hnone
    exact ⟨hmove.numbered hs, hid, hnone, hmove.failed hcause hs hends hfailed⟩
  have hact := Moves.induct hmoves (hkept _ · · (.inl rfl))
    ⟨Moves.numbered (Handlings.moves happly) hout, hfree, hgone, apply_fault_failed _ _ _⟩
  have hturn := Moves.induct (promoteWaiting_moves (m := m) (d.act m input))
    (hkept _ · · (.inr rfl)) hact
  rw [turn_eq d hinput]
  exact hturn.2.2

end Dispatcher

namespace Run

open Dispatcher

variable {config : Config}

/-! ## The fate of a command -/

/-- What has become of the command of a caller, whatever its number and the wording of failures. -/
def fate (r : Run) (ticket : Nat) : List Entry × List (Except Error Reply) :=
  ((r.entries ticket).map (·.2.plain), (r.resolved ticket).map (·.mapError Error.plain))

/-- The fate of a command whose connection has failed. -/
def failedFate (m : Moment) (command : Command) : List Entry × List (Except Error Reply) :=
  if command.deadline ≤ m.now then ([], [.error (.timeout command.timeout)])
  else if command.retries + 1 ≤ m.config.maxRetries then
    ([⟨{ command with retries := command.retries + 1 }.plain,
      .backoff (m.resume { command with retries := command.retries + 1 })⟩], [])
  else ([], [.error (exhausted m command "" true)])

theorem exhausted_plain (m : Moment) (command : Command) (reason : String) :
    (exhausted m command reason true).plain = exhausted m command "" true := by
  unfold exhausted
  cases command.target <;> rfl

theorem fate_of_failed {r : Run} (h : r.Sound) {m : Moment} {command : Command} {d : Dispatcher}
    (hentries : r.dispatcher.inFlight = d.inFlight)
    (hjournal : ∀ effect ∈ d.outbox, effect ∈ r.journal)
    (hfailed : Failed m command d) : r.fate command.ticket = failedFate m command := by
  cases hfailed with
  | late late told =>
      obtain ⟨hnone, hone⟩ := h.of_result (mem_resolved.mpr (hjournal _ told))
      simp only [fate, failedFate, hnone, hone, late, ite_true]
      rfl
  | again inTime left other reason found =>
      rw [← hentries] at found
      obtain ⟨hone, hnone⟩ := h.of_entry found
      simp only at hone hnone
      simp only [fate, failedFate, hnone, hone, Nat.not_le.mpr inTime, left, ite_true, ite_false]
      rfl
  | exhausted inTime exceeded reason told =>
      obtain ⟨hnone, hone⟩ := h.of_result (mem_resolved.mpr (hjournal _ told))
      simp only [fate, failedFate, hnone, hone, Nat.not_le.mpr inTime, UInt32.not_le.mpr exceeded,
        ite_false, List.map_cons, List.map_nil, Except.mapError, exhausted_plain]

theorem Sound.running {r : Run} (h : r.Sound) {id : Nat} {entry : Entry}
    (hentry : r.dispatcher.inFlight.get? id = some entry) : r.dispatcher.stopped = false := by
  cases hstopped : r.dispatcher.stopped with
  | false => rfl
  | true => simp [(h.ended hstopped).2] at hentry

/-- When the carrier of an attempt is found dead the attempt is gone, and the fate of its command
depends on nothing but the command and the time. -/
theorem fate_of_loses {events : List Event} {id : Nat} {entry : Entry} {now : Instant}
    {table : Topology} {input : Dispatcher.Input}
    (hentry : (of config events).dispatcher.inFlight.get? id = some entry)
    (hloses : Loses input id entry) :
    (of config (events ++ [.turn now table input])).dispatcher.inFlight.get? id = none ∧
      (of config (events ++ [.turn now table input])).fate entry.command.ticket =
        failedFate ⟨config, now, table⟩ entry.command := by
  have h := sound config events
  have hafter := sound config (events ++ [.turn now table input])
  obtain ⟨hgone, hfailed⟩ := turn_loses (m := ⟨config, now, table⟩) h.numbered hentry hloses
  have hstep : (of config events).step config (.turn now table input) = _ :=
    step_turn (h.running hentry) now table input
  rw [of_concat] at hafter ⊢
  rw [hstep] at hafter ⊢
  refine ⟨hgone, fate_of_failed (d := (of config events).dispatcher.turn ⟨config, now, table⟩ input)
    hafter rfl ?_ hfailed⟩
  intro effect heffect
  exact List.mem_append_right _ (List.mem_reverse.mpr heffect)

/-- A turn takes the entry of an attempt out, or it notes its input in it. -/
theorem entry_turn {events : List Event} {id : Nat} {entry : Entry}
    (hentry : (of config events).dispatcher.inFlight.get? id = some entry)
    (hsent : entry.isSent = true) (now : Instant) (table : Topology) (input : Dispatcher.Input) :
    (of config (events ++ [.turn now table input])).dispatcher.inFlight.get? id = none ∨
      (of config (events ++ [.turn now table input])).dispatcher.inFlight.get? id =
        some (markEntry input id entry) := by
  have h := sound config events
  rw [of_concat, step_turn (h.running hentry)]
  by_cases hinput : input = .shutdown
  · left
    simp [hinput, Dispatcher.turn, shutDown_eq]
  · cases turn_fate (m := ⟨config, now, table⟩) h.numbered hinput hentry hsent with
    | stays noted => exact .inr noted
    | spent gone | charged gone | rests gone | resolved gone => exact .inl gone

/-- What does not end an attempt leaves it under way. -/
theorem entry_stays {events : List Event} {id : Nat} {entry : Entry}
    (hentry : (of config events).dispatcher.inFlight.get? id = some entry)
    (hsent : entry.isSent = true) {now : Instant} {table : Topology} {input : Dispatcher.Input}
    (hends : ¬Ends (some input) id (markEntry input id entry)) (htimers : input ≠ .timers)
    (hshutdown : input ≠ .shutdown) :
    (of config (events ++ [.turn now table input])).dispatcher.inFlight.get? id =
      some (markEntry input id entry) := by
  have h := sound config events
  rw [of_concat, step_turn (h.running hentry)]
  cases turn_fate (m := ⟨config, now, table⟩) h.numbered hshutdown hentry hsent with
  | stays noted => exact noted
  | spent _ ends | charged _ ends | rests _ ends => exact absurd ends hends
  | resolved _ cause => exact absurd cause (not_or.mpr ⟨hends, htimers⟩)

/-! ## What is known of a carrier -/

/-- An attempt has been started, and since then nothing has been said of its carrier but that it is
the connection of this generation. -/
structure Carried (config : Config) (before since : List Event) (id : Nat) (command : Command)
    (node : NodeId) (partition : UInt16) (generation : Nat) : Prop where
  begun : (of config before).dispatcher.inFlight.get? id =
    some ⟨command, .sent node partition none []⟩
  carrier : ∀ other, Acked id other since → other = generation

/-- An attempt is under way. -/
def UnderWay (r : Run) (id : Nat) (command : Command) (node : NodeId) (partition : UInt16) : Prop :=
  ∃ carrier closed,
    r.dispatcher.inFlight.get? id = some ⟨command, .sent node partition carrier closed⟩

/-- What an entry knows of its carrier: either nothing has been said of it, and every death since
is noted, or it is known and alive. -/
inductive Knows (since : List Event) (id : Nat) (node : NodeId) (generation : Nat) :
    Option Nat → List Nat → Prop where
  | nothing {closed} (unacked : ¬Acked id generation since)
      (noted : ∀ other, other ∈ closed ↔ Died node other since) :
      Knows since id node generation none closed
  | alive {closed} (acked : Acked id generation since) (alive : ¬Died node generation since)
      (noted : ∀ other ∈ closed, Died node other since) :
      Knows since id node generation (some generation) closed

variable {before since : List Event} {id : Nat} {command : Command} {node : NodeId}
  {partition : UInt16} {generation : Nat}

theorem Carried.init {event : Event}
    (h : Carried config before (since ++ [event]) id command node partition generation) :
    Carried config before since id command node partition generation :=
  ⟨h.begun, fun other hacked => h.carrier other (hacked.append _)⟩

/-- What is known does not change as long as nothing is said. -/
theorem Knows.congr {more : List Event} {carrier : Option Nat} {closed : List Nat}
    (h : Knows since id node generation carrier closed)
    (hacked : Acked id generation more ↔ Acked id generation since)
    (hdied : ∀ other, Died node other more ↔ Died node other since) :
    Knows more id node generation carrier closed := by
  cases h with
  | nothing unacked noted =>
      exact .nothing (by rwa [hacked]) fun other => (noted other).trans (hdied other).symm
  | alive acked alive noted =>
      exact .alive (hacked.mpr acked) (by rwa [hdied])
        fun other hother => (hdied other).mpr (noted other hother)

theorem Knows.acked {carrier : Option Nat} {closed : List Nat}
    (h : Knows since id node generation carrier closed) (now : Instant) (table : Topology)
    (hloses : ¬Loses (.task (.sent id generation)) id
      ⟨command, .sent node partition carrier closed⟩) :
    Knows (since ++ [.turn now table (.task (.sent id generation))]) id node generation
      (some generation) closed := by
  have hdied : ∀ other, Died node other (since ++
      [.turn now table (.task (.sent id generation))]) ↔ Died node other since :=
    fun other => died_concat_of_ne (by simp)
  refine .alive (acked_concat.mpr (.inr ⟨now, table, rfl⟩)) ?_ ?_
  · rw [hdied]
    intro dead
    cases h with
    | nothing unacked noted => exact hloses (.acked ((noted generation).mpr dead))
    | alive acked alive noted => exact alive dead
  · intro other hother
    rw [hdied]
    cases h with
    | nothing unacked noted => exact (noted other).mp hother
    | alive acked alive noted => exact noted other hother

theorem Knows.closed {carrier : Option Nat} {closed : List Nat}
    (h : Knows since id node generation carrier closed) (now : Instant) (table : Topology)
    {other : Nat} {reason : String}
    (hloses : ¬Loses (.node (.closed node other reason)) id
      ⟨command, .sent node partition carrier closed⟩) :
    Knows (since ++ [.turn now table (.node (.closed node other reason))]) id node generation
      carrier (if carrier = none then closed ++ [other] else closed) := by
  have hacked : Acked id generation (since ++
      [.turn now table (.node (.closed node other reason))]) ↔ Acked id generation since :=
    acked_concat_of_ne (by simp)
  cases h with
  | nothing unacked noted =>
      rw [if_pos rfl]
      refine .nothing (by rwa [hacked]) ?_
      intro third
      rw [List.mem_append, List.mem_singleton, noted third, died_concat]
      refine or_congr_right ⟨?_, ?_⟩
      · rintro rfl
        exact ⟨now, table, reason, rfl⟩
      · rintro ⟨_, _, _, hevent⟩
        cases hevent
        rfl
  | alive acked alive noted =>
      rw [if_neg (by simp)]
      refine .alive (hacked.mpr acked) ?_ fun third hthird => (noted third hthird).append _
      rw [died_concat]
      rintro (dead | ⟨_, _, _, hevent⟩)
      · exact alive dead
      · cases hevent
        exact hloses .closed

/-- What an entry knows is brought up to date by every input that does not end the attempt. -/
theorem Knows.hear {carrier : Option Nat} {closed : List Nat} {now : Instant} {table : Topology}
    {input : Dispatcher.Input} (h : Knows since id node generation carrier closed)
    (hcarrier : ∀ other, input = .task (.sent id other) → other = generation)
    (hloses : ¬Loses input id ⟨command, .sent node partition carrier closed⟩) :
    Knows (since ++ [.turn now table input]) id node generation
      (heard input id node carrier closed).1 (heard input id node carrier closed).2 := by
  by_cases hsent : input = .task (.sent id generation)
  · subst hsent
    simp only [heard, ite_true]
    exact h.acked now table hloses
  by_cases hclosed : ∃ other reason, input = .node (.closed node other reason)
  · obtain ⟨other, reason, rfl⟩ := hclosed
    simp only [heard, and_true]
    exact h.closed now table hloses
  · have hsame : heard input id node carrier closed = (carrier, closed) := by
      unfold heard
      split
      · next other heardOf =>
          have hother : other ≠ id := by
            rintro rfl
            exact hsent (by rw [hcarrier heardOf rfl])
          rw [if_neg hother]
      · next other heardOf reason =>
          have hother : node ≠ other := by
            rintro rfl
            exact hclosed ⟨heardOf, reason, rfl⟩
          simp [hother]
      · rfl
    rw [hsame]
    refine h.congr (acked_concat_of_ne ?_) fun other => died_concat_of_ne ?_
    · rintro _ _ hevent
      cases hevent
      exact hsent rfl
    · rintro _ _ reason hevent
      cases hevent
      exact hclosed ⟨other, reason, rfl⟩

/-- An event that is no turn says nothing. -/
theorem Knows.skip {carrier : Option Nat} {closed : List Nat} {event : Event}
    (h : Knows since id node generation carrier closed)
    (hevent : ∀ now table input, event ≠ .turn now table input) :
    Knows (since ++ [event]) id node generation carrier closed :=
  h.congr (acked_concat_of_ne fun _ _ => hevent _ _ _)
    fun _ => died_concat_of_ne fun _ _ _ => hevent _ _ _

/-- After any events the attempt is gone, or its entry knows of its carrier. -/
theorem Carried.knows (h : Carried config before since id command node partition generation) :
    (of config (before ++ since)).dispatcher.inFlight.get? id = none ∨
      ∃ carrier closed, Knows since id node generation carrier closed ∧
        (of config (before ++ since)).dispatcher.inFlight.get? id =
          some ⟨command, .sent node partition carrier closed⟩ := by
  induction since using List.reverseRecOn with
  | nil =>
      refine .inr ⟨none, [], .nothing ?_ ?_, by simpa using h.begun⟩
      · rintro ⟨_, _, hmem⟩
        cases hmem
      · intro other
        refine ⟨fun hmem => (by cases hmem), ?_⟩
        rintro ⟨_, _, _, hmem⟩
        cases hmem
  | append_singleton since event ih =>
      have hissued := issued_append h.begun since
      rw [← List.append_assoc]
      rcases ih h.init with hgone | ⟨carrier, closed, hknows, hentry⟩
      · exact .inl (gone_step hissued hgone event)
      · have hsound := sound config (before ++ since)
        have hrunning := hsound.running hentry
        cases event with
        | submit operation target timeout created =>
            refine .inr ⟨carrier, closed, hknows.skip (by simp), ?_⟩
            rw [of_concat, step_submit hrunning]
            exact hentry
        | write place =>
            obtain ⟨written, hwrite⟩ := step_write config (of config (before ++ since)) place
            refine .inr ⟨carrier, closed, hknows.skip (by simp), ?_⟩
            rw [of_concat, hwrite]
            exact hentry
        | turn now table input =>
            by_cases hloses : Loses input id ⟨command, .sent node partition carrier closed⟩
            · exact .inl (fate_of_loses hentry hloses).1
            · rcases entry_turn hentry rfl now table input with hgone | hstays
              · exact .inl hgone
              · refine .inr ⟨_, _, hknows.hear ?_ hloses, hstays⟩
                intro other hinput
                subst hinput
                exact h.carrier other (acked_concat.mpr (.inr ⟨now, table, rfl⟩))

/-! ## Any order -/

namespace Carried

variable (h : Carried config before since id command node partition generation)
include h

theorem knows_of_underWay
    (hunder : UnderWay (of config (before ++ since)) id command node partition) :
    ∃ carrier closed, Knows since id node generation carrier closed ∧
      (of config (before ++ since)).dispatcher.inFlight.get? id =
        some ⟨command, .sent node partition carrier closed⟩ := by
  rcases h.knows with hgone | hknows
  · obtain ⟨_, _, hentry⟩ := hunder
    rw [hgone] at hentry
    cases hentry
  · exact hknows

/-- When the carrier is known and known to be dead, the attempt is over. -/
theorem ended (hacked : Acked id generation since) (hdied : Died node generation since) :
    (of config (before ++ since)).dispatcher.inFlight.get? id = none := by
  rcases h.knows with hgone | ⟨carrier, closed, hknows, -⟩
  · exact hgone
  · cases hknows with
    | nothing unacked => exact absurd hacked unacked
    | alive _ alive => exact absurd hdied alive

/-- The death of a connection leaves the attempt under way unless it is known to be its carrier. -/
theorem closed_keeps
    (hunder : UnderWay (of config (before ++ since)) id command node partition)
    (now : Instant) (table : Topology) {dead : NodeId} {other : Nat} (reason : String)
    (hother : ¬(dead = node ∧ other = generation ∧ Acked id generation since)) :
    UnderWay (of config (before ++ since ++
      [.turn now table (.node (.closed dead other reason))])) id command node partition := by
  obtain ⟨carrier, closed, hknows, hentry⟩ := h.knows_of_underWay hunder
  refine ⟨_, _, entry_stays hentry rfl ?_ (by simp) (by simp)⟩
  intro hends
  cases hends with
  | closed carried =>
      rw [carriedBy_markEntry] at carried
      cases hknows with
      | nothing => simp [carriedBy] at carried
      | alive acked =>
          simp only [carriedBy, Bool.and_eq_true, decide_eq_true_eq] at carried
          exact hother ⟨carried.1.symm, carried.2.symm, acked⟩

/-- The acknowledgement leaves the attempt under way as long as its carrier is alive. -/
theorem acked_keeps
    (hunder : UnderWay (of config (before ++ since)) id command node partition)
    (now : Instant) (table : Topology) (halive : ¬Died node generation since) :
    UnderWay (of config (before ++ since ++ [.turn now table (.task (.sent id generation))])) id
      command node partition := by
  obtain ⟨carrier, closed, hknows, hentry⟩ := h.knows_of_underWay hunder
  refine ⟨_, _, entry_stays hentry rfl ?_ (by simp) (by simp)⟩
  intro hends
  simp only [markEntry, heard] at hends
  cases hends with
  | lost dead =>
      cases hknows with
      | nothing unacked noted => exact halive ((noted generation).mp dead)
      | alive acked alive noted => exact halive (noted generation dead)

/-- The death of its known carrier ends the attempt, and its command fails. -/
theorem fate_of_closed
    (hunder : UnderWay (of config (before ++ since)) id command node partition)
    (hacked : Acked id generation since) (now : Instant) (table : Topology) (reason : String) :
    (of config (before ++ since ++ [.turn now table (.node (.closed node generation reason))])).fate
      command.ticket = failedFate ⟨config, now, table⟩ command := by
  obtain ⟨carrier, closed, hknows, hentry⟩ := h.knows_of_underWay hunder
  cases hknows with
  | nothing unacked => exact absurd hacked unacked
  | alive => exact (fate_of_loses hentry .closed).2

/-- So does the acknowledgement once its carrier is dead. -/
theorem fate_of_acked
    (hunder : UnderWay (of config (before ++ since)) id command node partition)
    (hdied : Died node generation since) (now : Instant) (table : Topology) :
    (of config (before ++ since ++ [.turn now table (.task (.sent id generation))])).fate
      command.ticket = failedFate ⟨config, now, table⟩ command := by
  obtain ⟨carrier, closed, hknows, hentry⟩ := h.knows_of_underWay hunder
  cases hknows with
  | nothing unacked noted => exact (fate_of_loses hentry (.acked ((noted generation).mpr hdied))).2
  | alive acked alive => exact absurd hdied alive

end Carried

end Run

end ClusterKv

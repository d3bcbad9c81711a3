import ClusterKv.Proofs.Dispatcher.Queueing

/-! # First come, first served

In every run the commands that are sent to a node are attempted there in this order, but for those
that time out before. There is one exception: timers that find the deadline of an attempt at the
node passed may send a command there before the first in its queue is let go. -/

namespace ClusterKv

/-! ## Pairs in lists without repetition -/

section

variable {α : Type} {first second : α} {line part : List α}

/-- A part of a line keeps the order of those in it. -/
theorem pair_sublist_of_mem [DecidableEq α] (honce : line.Nodup) (hpart : part.Sublist line)
    (hpair : [first, second].Sublist line) (hfirst : first ∈ part) (hsecond : second ∈ part) :
    [first, second].Sublist part := by
  have hperm : part.Perm (line.filter (· ∈ part)) := by
    refine (List.perm_ext_iff_of_nodup (honce.sublist hpart) (honce.filter _)).mpr ?_
    intro other
    simpa using hpart.subset (a := other)
  have hsame := (honce.perm_iff_eq_of_sublist hpart List.filter_sublist).mp hperm
  have hboth := hpair.filter (· ∈ part)
  rw [← hsame, List.filter_eq_self.mpr (by simp [hfirst, hsecond])] at hboth
  exact hboth

/-- No two are before each other. -/
theorem not_pair_sublist_swap (honce : line.Nodup) (hpair : [first, second].Sublist line) :
    ¬[second, first].Sublist line := by
  intro hswap
  have hsame := (honce.perm_iff_eq_of_sublist hpair hswap).mp (List.Perm.swap ..)
  obtain ⟨rfl, -⟩ := List.cons.inj hsame
  exact List.nodup_iff_sublist.mp honce _ hpair

theorem pair_sublist_append {before after : List α} (hfirst : first ∈ before)
    (hsecond : second ∈ after) : [first, second].Sublist (before ++ after) :=
  (List.singleton_sublist.mpr hfirst).append (List.singleton_sublist.mpr hsecond)

/-- Whoever comes after another is not in front of it. -/
theorem second_mem_of_pair {before after : List α} (honce : (before ++ after).Nodup)
    (hpair : [first, second].Sublist (before ++ after)) (hfirst : first ∈ after) :
    second ∈ after := by
  rcases List.mem_append.mp (hpair.subset (List.mem_cons_of_mem _ (List.mem_singleton_self _))) with
    hbefore | hafter
  · exact absurd (pair_sublist_append hbefore hfirst) (not_pair_sublist_swap honce hpair)
  · exact hafter

end

namespace Dispatcher

variable {m : Moment} {input : Input} {cause : Cause} {node : NodeId} {d d' : Dispatcher}
  {command : Command} {commands : List Command}

/-! ## Numbers are sent on their way once -/

/-- Whatever is in flight or in hand under the number of a command goes on from it, and has been
sent on its way: it is at a node, or about to be. -/
structure Bound (command : Command) (s : Dispatcher × Hand) : Prop where
  issued : command.id < s.1.nextId
  entry : ∀ entry, s.1.inFlight.get? command.id = some entry →
    (entry.isSent || entry.isWaiting) = true ∧ command.Continues entry.command
  held : ∀ other, s.2 = .held other → other.id = command.id → command.Continues other
  shelved : ∀ other, s.2 = .shelved other → other.id ≠ command.id

namespace Bound

theorem congr {hand : Hand} (h : Bound command (d, hand)) (hentries : d'.inFlight = d.inFlight)
    (hnext : d'.nextId = d.nextId) : Bound command (d', .empty) :=
  ⟨by simpa [hnext] using h.issued, by simpa [hentries] using h.entry, by simp, by simp⟩

theorem put {hand : Hand} {other : Command} {stage : Stage} (h : Bound command (d, hand))
    (hentries : d'.inFlight = d.inFlight.put other.id ⟨other, stage⟩)
    (hnext : d'.nextId = d.nextId)
    (hsame : other.id = command.id → (Entry.isSent ⟨other, stage⟩ ||
      Entry.isWaiting ⟨other, stage⟩) = true ∧ command.Continues other) :
    Bound command (d', .empty) := by
  refine ⟨by simpa [hnext] using h.issued, ?_, by simp, by simp⟩
  intro entry hentry
  simp only [hentries] at hentry
  by_cases hid : command.id = other.id
  · rw [hid, Assoc.get?_put_self] at hentry
    obtain rfl := Option.some.inj hentry
    exact hsame hid.symm
  · rw [Assoc.get?_put_of_ne _ _ hid] at hentry
    exact h.entry entry hentry

theorem take {id : Nat} {hand : Hand} (h : Bound command (d, .empty))
    (hentries : d'.inFlight = d.inFlight.erase id) (hnext : d'.nextId = d.nextId)
    (hheld : ∀ other, hand = .held other → other.id = command.id → command.Continues other)
    (hshelved : ∀ other, hand ≠ .shelved other) : Bound command (d', hand) := by
  refine ⟨by simpa [hnext] using h.issued, ?_, hheld,
    fun other hother => absurd hother (hshelved other)⟩
  intro entry hentry
  simp only [hentries] at hentry
  exact h.entry entry (Assoc.get?_of_erase hentry).2

end Bound

theorem Handling.bound {s t : Dispatcher × Hand} (h : Handling m cause s t)
    (hs : Bound command s) : Bound command t := by
  cases h with
  | locate | miss =>
      refine ⟨hs.issued, hs.entry, ?_, by simp⟩
      rintro other ⟨⟩ hid
      exact (hs.held _ rfl hid).trans ⟨rfl, rfl, rfl, rfl, rfl⟩
  | charge | advance | disconnect | settle => exact ⟨hs.issued, hs.entry, by simp, by simp⟩
  | renumber | renumberUnused =>
      refine ⟨Nat.lt_succ_of_lt hs.issued, hs.entry, by simp, ?_⟩
      rintro other ⟨⟩
      exact Nat.ne_of_gt hs.issued
  | start => exact hs.put (by simp; rfl) (by simp) fun hid => ⟨rfl, hs.held _ rfl hid⟩
  | wait => exact hs.put (by simp; rfl) (by simp) fun hid => ⟨rfl, hs.held _ rfl hid⟩
  | park => exact hs.put (by simp; rfl) (by simp) fun hid => absurd hid (hs.shelved _ rfl)
  | pause => exact hs.put (by simp; rfl) (by simp) fun hid => absurd hid (hs.shelved _ rfl)

theorem Move.bound {s t : Dispatcher × Hand} (h : Move m cause s t) (hs : Numbered s.1 s.2)
    (hb : Bound command s) : Bound command t := by
  cases h with
  | handle handling => exact handling.bound hb
  | draw =>
      refine ⟨Nat.lt_succ_of_lt hb.issued, hb.entry, ?_, by simp⟩
      rintro other ⟨⟩ hid
      exact absurd hid (Nat.ne_of_gt hb.issued)
  | retire | expire => exact hb.take (by simp; rfl) (by simp) (by simp) (by simp)
  | resume found | unpark found =>
      refine hb.take (by simp; rfl) (by simp) ?_ (by simp)
      rintro other ⟨⟩ hid
      rw [← hs.keyed _ _ found, hid] at found
      cases (hb.entry _ found).1
  | promote first room found =>
      refine hb.take (by simp; rfl) (by simp) ?_ (by simp)
      rintro other ⟨⟩ hid
      rw [← hs.keyed _ _ found, hid] at found
      exact (hb.entry _ found).2
  | skip | tidy | collect | tick => exact hb.congr rfl rfl

theorem Moves.bound {s t : Dispatcher × Hand} (h : Moves m cause s t) (hs : Numbered s.1 s.2)
    (hb : Bound command s) : Bound command t := by
  have hkept := h.induct (P := fun s => Numbered s.1 s.2 ∧ Bound command s)
    (fun _ _ hmove hs => ⟨hmove.numbered hs.1, hmove.bound hs.1 hs.2⟩) ⟨hs, hb⟩
  exact hkept.2

/-- A command that is sent on its way is at a node afterwards, or its number is not used. -/
theorem route_bound (hd : Numbered d (.held command)) :
    Bound command (d.route m command, .empty) := by
  obtain ⟨hissued, hfree, -⟩ := hd.in_hand command.id rfl
  have hheld : Bound command (d, .held command) := by
    refine ⟨hissued, by simp [hfree], ?_, by simp⟩
    rintro other ⟨⟩ -
    exact ⟨rfl, rfl, rfl, rfl, rfl⟩
  have hroute : Handlings m none (d, .held command) (d.route m command, .empty) :=
    route_handlings d command
  exact hroute.moves.bound hd hheld

theorem markEntry_isSent (input : Input) (id : Nat) (entry : Entry) :
    (markEntry input id entry).isSent = entry.isSent := by
  obtain ⟨command, stage⟩ := entry
  cases stage <;> rfl

/-- These commands have been sent on their way, each under a number of its own. -/
structure Known (commands : List Command) (d : Dispatcher) : Prop where
  once : (commands.map (·.id)).Nodup
  bound : ∀ command ∈ commands, Bound command (d, .empty)

namespace Known

theorem congr (h : Known commands d) (hentries : d'.inFlight = d.inFlight)
    (hnext : d'.nextId = d.nextId) : Known commands d' :=
  ⟨h.once, fun command hcommand => (h.bound command hcommand).congr hentries hnext⟩

/-- A number tells which command it is. -/
theorem eq_of_id (h : Known commands d) {first second : Command} (hfirst : first ∈ commands)
    (hsecond : second ∈ commands) (hid : first.id = second.id) : first = second :=
  List.inj_on_of_nodup_map h.once hfirst hsecond hid

theorem mark (h : Known commands d) (input : Input) : Known commands (d.mark input) := by
  refine ⟨h.once, fun command hcommand => ?_⟩
  have hbound := h.bound command hcommand
  refine ⟨hbound.issued, ?_, by simp, by simp⟩
  intro entry hentry
  obtain ⟨old, hold, rfl⟩ :=
    Option.map_eq_some_iff.mp ((mark_get? d input command.id).symm.trans hentry)
  rw [markEntry_command, markEntry_isWaiting, markEntry_isSent]
  exact hbound.entry old hold

end Known

section

variable {d₀ : Dispatcher} {routes : List Command} {starts : List (Nat × Nat)}

theorem Deal.known (h : Deal m input d₀ d routes starts d') (hd : Numbered d .empty)
    (hk : Known commands d) : Known (commands ++ routes) d' := by
  obtain ⟨cause, -, hmoves⟩ := h.moves
  have hold : ∀ known ∈ commands, Bound known (d', .empty) :=
    fun known hknown => hmoves.bound hd (hk.bound known hknown)
  have hnone : Known (commands ++ []) d' := by
    rw [List.append_nil]
    exact ⟨hk.once, hold⟩
  have hone : ∀ fresh : Command, Bound fresh (d', .empty) →
      (∀ known ∈ commands, known.id ≠ fresh.id) → Known (commands ++ [fresh]) d' := by
    intro fresh hfresh hother
    refine ⟨?_, ?_⟩
    · rw [List.map_append]
      refine List.Nodup.append hk.once (List.nodup_singleton _) ?_
      intro id hid hnew
      obtain ⟨known, hknown, rfl⟩ := List.mem_map.mp hid
      exact hother known hknown (List.mem_singleton.mp hnew)
    · intro command hcommand
      rcases List.mem_append.mp hcommand with hknown | hnew
      · exact hold command hknown
      · obtain rfl := List.mem_singleton.mp hnew
        exact hfresh
  -- A command that rests is not at a node, so its number has not been sent on its way.
  have hrests : ∀ {id : Nat} {command : Command} {stage : Stage},
      d.inFlight.get? id = some ⟨command, stage⟩ → Entry.isSent ⟨command, stage⟩ = false →
      Entry.isWaiting ⟨command, stage⟩ = false → ∀ known ∈ commands, known.id ≠ command.id := by
    intro id command stage found hsent hwaiting known hknown hid
    rw [← hd.keyed id _ found, ← hid] at found
    have hat := ((hk.bound known hknown).entry _ found).1
    rw [hsent, hwaiting] at hat
    cases hat
  cases h with
  | aside | rested | refused | expired | promoted | ended | dismissed => exact hnone
  | @accepted _ command rest cause queued =>
      have hdraw := (Move.draw (m := m) queued).numbered hd
      refine hone _ (route_bound hdraw) ?_
      intro known hknown
      exact Nat.ne_of_lt (hk.bound known hknown).issued
  | resumed cause found reached =>
      have hresume := (Move.resume (m := m) found reached).numbered hd
      exact hone _ (route_bound hresume) (hrests found rfl rfl)
  | unparked cause found taken =>
      have hunpark : Move m (some (.task (.refreshed (.ok ())))) (d, .empty) _ :=
        .unpark found taken
      exact hone _ (route_bound (hunpark.numbered hd)) (hrests found rfl rfl)

/-- The deadline of a command has passed, and its caller knows. -/
def TimedOut (m : Moment) (d : Dispatcher) (command : Command) : Prop :=
  command.deadline ≤ m.now ∧
    .resolve command.ticket (.error (.timeout command.timeout)) ∈ d.outbox

/-- Whoever waits for a node or is sent there in the meantime is attempted, or waits, or times
out. -/
theorem Deals.kept (h : Deals m input d₀ d routes starts d') (hd : Numbered d .empty)
    (hb : Booked m.config d) (hk : Known commands d)
    (hcovered : ∀ id ∈ d.waitingFor node, ∃ command ∈ commands, command.id = id) :
    Known (commands ++ routes) d' ∧ ∀ id ∈ d.waitingFor node ++ headingFor m node routes,
      id ∈ d'.setOff node ∨ id ∈ d'.waitingFor node ∨
        ∃ command ∈ commands ++ routes, command.id = id ∧ TimedOut m d' command := by
  have hall := h.induct
    (P := fun d₁ routes _ => Numbered d₁ .empty ∧ Booked m.config d₁ ∧
      Known (commands ++ routes) d₁ ∧ ∀ id ∈ d.waitingFor node ++ headingFor m node routes,
        id ∈ d₁.setOff node ∨ id ∈ d₁.waitingFor node ∨
          ∃ command ∈ commands ++ routes, command.id = id ∧ TimedOut m d₁ command)
    ⟨hd, hb, by rwa [List.append_nil], by
      intro id hid
      exact .inr (.inl (by simpa [headingFor] using hid))⟩ ?_
  · exact hall.2.2
  · rintro d₁ d₂ routes starts routes' starts' hdeal ⟨hd, hb, hk, hkept⟩
    obtain ⟨hd', hb'⟩ := hdeal.books hd hb
    obtain ⟨cause, -, hmoves⟩ := hdeal.moves
    obtain ⟨went, hsetOff, hshift⟩ := hdeal.shift hd hb node
    refine ⟨hd', hb', by rw [← List.append_assoc]; exact hdeal.known hd hk, ?_⟩
    intro id hid
    rw [hsetOff, headingFor_append, ← List.append_assoc] at *
    rcases List.mem_append.mp hid with hold | hnew
    · rcases hkept id hold with hwent | hwaits | ⟨command, hcommand, hsame, hlate, htold⟩
      · exact .inl (List.mem_append_left _ hwent)
      · rcases hshift.kept hwaits with hwent | hwaits | ⟨entry, hentry, hlate, htold⟩
        · exact .inl (List.mem_append_right _ hwent)
        · exact .inr (.inl hwaits)
        · have hcommand : ∃ command ∈ commands ++ routes, command.id = id := by
            rcases List.mem_append.mp hold with hqueued | hrouted
            · obtain ⟨command, hcommand, hsame⟩ := hcovered id hqueued
              exact ⟨command, List.mem_append_left _ hcommand, hsame⟩
            · obtain ⟨command, hcommand, hsame⟩ := List.mem_map.mp hrouted
              exact ⟨command, List.mem_append_right _ (List.mem_filter.mp hcommand).1, hsame⟩
          obtain ⟨command, hcommand, rfl⟩ := hcommand
          obtain ⟨-, hcontinues⟩ := (hk.bound command hcommand).entry entry hentry
          refine .inr (.inr ⟨command, List.mem_append_left _ hcommand, rfl, ?_, ?_⟩)
          · rwa [← hcontinues.deadline]
          · rwa [← hcontinues.ticket, ← hcontinues.timeout]
      · exact .inr (.inr ⟨command, List.mem_append_left _ hcommand, hsame, hlate,
          hmoves.outbox_mono htold⟩)
    · rcases hshift.placed hnew with hwent | hwaits
      · exact .inl (List.mem_append_right _ hwent)
      · exact .inr (.inl hwaits)

end

/-! ## Whole turns -/

/-- A turn sends no number on its way that was sent on its way before. -/
theorem turn_known (hd : Numbered d .empty) (hk : Known commands d) (hinput : input ≠ .shutdown) :
    Known (commands ++ d.routed m input) (d.turn m input) := by
  obtain ⟨starts, hdeals⟩ := turn_deals (m := m) hd hinput
  have hall := hdeals.induct
    (P := fun d₁ routes _ => Numbered d₁ .empty ∧ Known (commands ++ routes) d₁)
    ⟨mark_numbered hd input, by rw [List.append_nil]; exact hk.mark input⟩ ?_
  · exact hall.2
  · rintro d₁ d₂ routes starts routes' starts' hdeal ⟨hd, hk⟩
    obtain ⟨cause, -, hmoves⟩ := hdeal.moves
    refine ⟨hmoves.numbered hd, ?_⟩
    rw [← List.append_assoc]
    exact hdeal.known hd hk

end Dispatcher

namespace Run

open Dispatcher

variable {config : Config} {events : List Event} {node : NodeId}

/-! ## Whole runs -/

/-- The commands that were sent on their way to a node in time, first ones first. A command that is
tried again counts as another one, under another number. -/
def directed (config : Config) (events : List Event) (node : NodeId) : List Command :=
  ((collect config (routesIn config) events).filter fun r => directs r.1 node r.2).map (·.2)

/-- The attempts at a node that an event starts past its queue. -/
def overtakingIn (config : Config) (node : NodeId) (r : Run) : Event → List Nat
  | .turn now table input =>
    if r.dispatcher.stopped then [] else r.dispatcher.overtaking ⟨config, now, table⟩ node input
  | .submit .. | .write _ => []

/-- The attempts at a node that timers have started past its queue, while the deadline of an attempt
there had passed. -/
def overtakers (config : Config) (events : List Event) (node : NodeId) : List Nat :=
  collect config (overtakingIn config node) events

/-- The caller of a command was told that its deadline has passed, and it had. -/
def Expired (config : Config) (events : List Event) (command : Command) : Prop :=
  .error (.timeout command.timeout) ∈ (of config events).resolved command.ticket ∧
    ∃ now table input, .turn now table input ∈ events ∧ command.deadline ≤ now

/-- Every number that was ever sent on its way is known. -/
theorem known (config : Config) (events : List Event) :
    Known ((collect config (routesIn config) events).map (·.2)) (of config events).dispatcher := by
  induction events using List.reverseRecOn with
  | nil => exact ⟨List.nodup_nil, by simp [collect]⟩
  | append_singleton events event ih =>
      rw [collect_concat, List.map_append, of_concat]
      cases event with
      | write place =>
          obtain ⟨written, hwrite⟩ := step_write config (of config events) place
          rw [hwrite, routesIn, List.map_nil, List.append_nil]
          exact ih
      | submit operation target timeout created =>
          rw [routesIn, List.map_nil, List.append_nil]
          cases hstopped : (of config events).dispatcher.stopped with
          | true => simpa [step, hstopped] using ih
          | false =>
              rw [step_submit hstopped]
              exact ih.congr rfl rfl
      | turn now table input =>
          cases hstopped : (of config events).dispatcher.stopped with
          | true => simpa [step, routesIn, hstopped] using ih
          | false =>
              rw [step_turn hstopped]
              by_cases hinput : input = .shutdown
              · subst hinput
                rw [Dispatcher.turn, shutDown_eq]
                simp only [routesIn, hstopped, Dispatcher.routed]
                refine ⟨by simpa using ih.once, ?_⟩
                intro command hcommand
                have hbound := ih.bound command (by simpa using hcommand)
                exact ⟨hbound.issued, by simp, by simp, by simp⟩
              · have hturn := turn_known (m := ⟨config, now, table⟩)
                  (sound config events).numbered ih hinput
                have hroutes : (routesIn config (of config events) (.turn now table input)).map
                    (·.2) = (of config events).dispatcher.routed ⟨config, now, table⟩ input := by
                  simp [routesIn, hstopped, Function.comp_def]
                rw [hroutes]
                exact hturn.congr rfl rfl

theorem known_directed (config : Config) (events : List Event) (node : NodeId) :
    Known (directed config events node) (of config events).dispatcher := by
  have hall := known config events
  have hsub : (directed config events node).Sublist
      ((collect config (routesIn config) events).map (·.2)) := List.filter_sublist.map _
  exact ⟨hall.once.sublist (hsub.map _), fun command hcommand =>
    hall.bound command (hsub.subset hcommand)⟩

theorem directed_once (config : Config) (events : List Event) (node : NodeId) :
    ((directed config events node).map (·.id)).Nodup := (known_directed config events node).once

/-- What one event does to the line at a node: the commands that come, the attempts that are started
and those among them that go past the queue. -/
structure Round (config : Config) (events : List Event) (event : Event) (node : NodeId)
    (came : List Command) (went ahead : List Nat) : Prop where
  directed : directed config (events ++ [event]) node = directed config events node ++ came
  attempted : attemptsAt node (of config (events ++ [event])).journal =
    attemptsAt node (of config events).journal ++ went
  overtakers : overtakers config (events ++ [event]) node = overtakers config events node ++ ahead
  /-- Only those go past the queue that have just come, and if any does, all do that go. -/
  past : ahead = [] ∨ ahead = went.filter (· ∈ came.map (·.id))
  line : (went.filter (· ∉ ahead) ++
      (of config (events ++ [event])).dispatcher.waitingFor node).Sublist
    ((of config events).dispatcher.waitingFor node ++ came.map (·.id))
  kept : ∀ id ∈ (of config events).dispatcher.waitingFor node ++ came.map (·.id),
    id ∈ went ∨ id ∈ (of config (events ++ [event])).dispatcher.waitingFor node ∨
      (∃ command ∈ Run.directed config (events ++ [event]) node, command.id = id ∧
        Expired config (events ++ [event]) command) ∨
      (of config (events ++ [event])).dispatcher.stopped = true
  running : went ≠ [] → (of config (events ++ [event])).dispatcher.stopped = false

/-- Whoever goes past the queue has just come. -/
theorem Round.came_of_ahead {event : Event} {came : List Command} {went ahead : List Nat}
    (h : Round config events event node came went ahead) {id : Nat} (hid : id ∈ ahead) :
    id ∈ came.map (·.id) := by
  rcases h.past with hnone | hall
  · simp [hnone] at hid
  · rw [hall] at hid
    simpa using (List.mem_filter.mp hid).2

theorem directed_concat (events : List Event) (event : Event) :
    directed config (events ++ [event]) node = directed config events node ++
      ((routesIn config (of config events) event).filter fun r =>
        directs r.1 node r.2).map (·.2) := by
  simp [directed]

/-- Nothing comes, and whoever waits goes on waiting unless the dispatcher stops. -/
theorem Round.still {event : Event} (hroutes : routesIn config (of config events) event = [])
    (hahead : overtakingIn config node (of config events) event = [])
    (hattempts : attemptsAt node (of config (events ++ [event])).journal =
      attemptsAt node (of config events).journal)
    (hwaiting : (of config (events ++ [event])).dispatcher.waitingFor node =
        (of config events).dispatcher.waitingFor node ∨
      (of config (events ++ [event])).dispatcher.waitingFor node = [] ∧
        (of config (events ++ [event])).dispatcher.stopped = true) :
    Round config events event node [] [] [] := by
  refine ⟨by simp [directed_concat, hroutes], by simpa using hattempts,
    by simp [Run.overtakers, hahead], .inl rfl, ?_, ?_, by simp⟩
  · rcases hwaiting with hsame | ⟨hnone, -⟩
    · rw [hsame]
      simp
    · rw [hnone]
      simp
  · intro id hid
    rcases hwaiting with hsame | ⟨-, hstopped⟩
    · exact .inr (.inl (by rw [hsame]; simpa using hid))
    · exact .inr (.inr (.inr hstopped))

theorem round_shutdown (hstopped : (of config events).dispatcher.stopped = false) (now : Instant)
    (table : Topology) : Round config events (.turn now table .shutdown) node [] [] [] := by
  have hdone := (sound config events).done
  refine .still (by simp [routesIn, routed]) (by simp [overtakingIn, overtaking]) ?_ (.inr ?_)
  · rw [of_concat, step_turn hstopped, attemptsAt_append]
    have hnone : attemptsAt node ((of config events).dispatcher.turn ⟨config, now, table⟩
        .shutdown).outbox.reverse = [] := by
      simp [Dispatcher.turn, shutDown_eq, hdone, attemptsAt, Effect.attemptAt?]
    simp only [hnone, List.append_nil]
  · rw [of_concat, step_turn hstopped, Dispatcher.turn, shutDown_eq]
    exact ⟨rfl, rfl⟩

/-- Whoever waits for a node or is sent there in a turn is attempted, or waits, or times out. -/
theorem turn_kept (now : Instant) (table : Topology) {input : Input} (hinput : input ≠ .shutdown)
    (hcovered : ∀ id ∈ (of config events).dispatcher.waitingFor node,
      ∃ command ∈ directed config events node, command.id = id) {id : Nat}
    (hid : id ∈ (of config events).dispatcher.waitingFor node ++
      headingFor ⟨config, now, table⟩ node
        ((of config events).dispatcher.routed ⟨config, now, table⟩ input)) :
    id ∈ ((of config events).dispatcher.turn ⟨config, now, table⟩ input).setOff node ∨
      id ∈ ((of config events).dispatcher.turn ⟨config, now, table⟩ input).waitingFor node ∨
      ∃ command ∈ directed config events node ++
          ((of config events).dispatcher.routed ⟨config, now, table⟩ input).filter
            (directs ⟨config, now, table⟩ node),
        command.id = id ∧ TimedOut ⟨config, now, table⟩
          ((of config events).dispatcher.turn ⟨config, now, table⟩ input) command := by
  have hd := (sound config events).numbered
  obtain ⟨starts, hdeals⟩ := turn_deals (m := ⟨config, now, table⟩) hd hinput
  obtain ⟨hafter, hkept⟩ := hdeals.kept (mark_numbered hd input)
    (mark_booked (booked config events) input) ((known_directed config events node).mark input)
    hcovered
  rcases hkept id hid with hwent | hwaits | ⟨command, hcommand, rfl, hlate⟩
  · exact .inl hwent
  · exact .inr (.inl hwaits)
  · have hnamed : ∃ named ∈ directed config events node ++
        ((of config events).dispatcher.routed ⟨config, now, table⟩ input).filter
          (directs ⟨config, now, table⟩ node), named.id = command.id := by
      rcases List.mem_append.mp hid with hold | hnew
      · obtain ⟨named, hmem, hsame⟩ := hcovered _ hold
        exact ⟨named, List.mem_append_left _ hmem, hsame⟩
      · obtain ⟨named, hmem, hsame⟩ := List.mem_map.mp hnew
        exact ⟨named, List.mem_append_right _ hmem, hsame⟩
    obtain ⟨named, hmem, hsame⟩ := hnamed
    obtain rfl := hafter.eq_of_id
      ((List.filter_sublist.append_left _).subset hmem) hcommand hsame
    exact .inr (.inr ⟨named, hmem, rfl, hlate⟩)

theorem round_turn (hstopped : (of config events).dispatcher.stopped = false) (now : Instant)
    (table : Topology) {input : Input} (hinput : input ≠ .shutdown)
    (hcovered : ∀ id ∈ (of config events).dispatcher.waitingFor node,
      ∃ command ∈ directed config events node, command.id = id) :
    Round config events (.turn now table input) node
      (((of config events).dispatcher.routed ⟨config, now, table⟩ input).filter
        (directs ⟨config, now, table⟩ node))
      (((of config events).dispatcher.turn ⟨config, now, table⟩ input).setOff node)
      ((of config events).dispatcher.overtaking ⟨config, now, table⟩ node input) := by
  have h := sound config events
  have hroutes : routesIn config (of config events) (.turn now table input) =
      ((of config events).dispatcher.routed ⟨config, now, table⟩ input).map
        (⟨config, now, table⟩, ·) := by
    simp [routesIn, hstopped]
  have hdirected : directed config (events ++ [.turn now table input]) node =
      directed config events node ++
        ((of config events).dispatcher.routed ⟨config, now, table⟩ input).filter
          (directs ⟨config, now, table⟩ node) := by
    rw [directed_concat, hroutes]
    simp [List.filter_map, Function.comp_def]
  have hstep : of config (events ++ [.turn now table input]) = _ :=
    (of_concat events _).trans (step_turn hstopped now table input)
  refine ⟨hdirected, ?_, ?_, ?_, ?_, ?_, ?_⟩
  · rw [hstep, attemptsAt_append]
    rfl
  · simp [Run.overtakers, overtakingIn, hstopped]
  · cases input with
    | timers =>
        simp only [overtaking]
        split
        · exact .inr rfl
        · exact .inl rfl
    | accept | task | node | shutdown => exact .inl rfl
  · rw [hstep]
    exact turn_in_line h.numbered (booked config events) (settled config events) h.done hinput node
  · intro id hid
    rw [hstep]
    rcases turn_kept now table hinput hcovered hid with
      hwent | hwaits | ⟨command, hcommand, hsame, hlate, htold⟩
    · exact .inl hwent
    · exact .inr (.inl hwaits)
    · refine .inr (.inr (.inl ⟨command, by rwa [hdirected], hsame, ?_, now, table, input, by simp,
        hlate⟩))
      rw [mem_resolved, hstep]
      exact List.mem_append_right _ (List.mem_reverse.mpr htold)
  · intro _
    rw [hstep]
    exact (turn_stopped h.numbered hinput).trans hstopped

/-- Every event is a round. -/
theorem round (config : Config) (events : List Event) (event : Event) (node : NodeId)
    (hcovered : ∀ id ∈ (of config events).dispatcher.waitingFor node,
      ∃ command ∈ directed config events node, command.id = id) :
    ∃ came went ahead, Round config events event node came went ahead := by
  cases event with
  | write place =>
      obtain ⟨written, hwrite⟩ := step_write config (of config events) place
      refine ⟨_, _, _, .still rfl rfl ?_ (.inl ?_)⟩ <;> rw [of_concat, hwrite]
  | submit operation target timeout created =>
      cases hstopped : (of config events).dispatcher.stopped with
      | true =>
          refine ⟨_, _, _, .still rfl rfl ?_ (.inl ?_)⟩ <;> simp [step, hstopped]
      | false =>
          refine ⟨_, _, _, .still rfl rfl ?_ (.inl ?_)⟩
          · rw [of_concat, step_submit hstopped]
          · rw [of_concat, step_submit hstopped]
            rfl
  | turn now table input =>
      cases hstopped : (of config events).dispatcher.stopped with
      | true =>
          have hsame :
              (of config events).step config (.turn now table input) = of config events := by
            simp [step, hstopped]
          refine ⟨_, _, _, .still (by simp [routesIn, hstopped]) (by simp [overtakingIn, hstopped])
            ?_ (.inl ?_)⟩ <;> rw [of_concat, hsame]
      | false =>
          by_cases hinput : input = .shutdown
          · exact ⟨_, _, _, hinput ▸ round_shutdown hstopped now table⟩
          · exact ⟨_, _, _, round_turn hstopped now table hinput hcovered⟩

/-- Whatever is attempted at a node was sent there, and but for those that go past the queue the
attempts, and then those that wait, are in the order in which they were sent there. -/
theorem in_line (config : Config) (events : List Event) (node : NodeId) :
    (∀ id ∈ attemptsAt node (of config events).journal,
      id ∈ (directed config events node).map (·.id)) ∧
    ((attemptsAt node (of config events).journal).filter (· ∉ overtakers config events node) ++
        (of config events).dispatcher.waitingFor node).Sublist
      ((directed config events node).map (·.id)) := by
  induction events using List.reverseRecOn with
  | nil => simp [attemptsAt, waitingFor]
  | append_singleton events event ih =>
      obtain ⟨hattempted, hline⟩ := ih
      have hcovered : ∀ id ∈ (of config events).dispatcher.waitingFor node,
          ∃ command ∈ directed config events node, command.id = id := by
        intro id hid
        simpa using hline.subset (List.mem_append_right _ hid)
      obtain ⟨came, went, ahead, h⟩ := round config events event node hcovered
      rw [h.directed, h.attempted, h.overtakers, List.map_append]
      refine ⟨?_, ?_⟩
      · intro id hid
        rcases List.mem_append.mp hid with hold | hnew
        · exact List.mem_append_left _ (hattempted id hold)
        · by_cases hahead : id ∈ ahead
          · exact List.mem_append_right _ (h.came_of_ahead hahead)
          · have hmem := h.line.subset
              (List.mem_append_left _ (List.mem_filter.mpr ⟨hnew, by simpa using hahead⟩))
            rcases List.mem_append.mp hmem with hwaited | hcame
            · exact List.mem_append_left _ (hline.subset (List.mem_append_right _ hwaited))
            · exact List.mem_append_right _ hcame
      · exact line_append hline h.line

theorem round_of_run (config : Config) (events : List Event) (event : Event) (node : NodeId) :
    ∃ came went ahead, Round config events event node came went ahead := by
  refine round config events event node ?_
  intro id hid
  simpa using (in_line config events node).2.subset (List.mem_append_right _ hid)

theorem Expired.append {command : Command} (h : Expired config events command) (event : Event) :
    Expired config (events ++ [event]) command := by
  obtain ⟨hresult, now, table, input, hevent, hlate⟩ := h
  refine ⟨?_, now, table, input, List.mem_append_left _ hevent, hlate⟩
  rw [mem_resolved] at hresult ⊢
  rw [of_concat]
  exact (journal_step config _ event).subset hresult

theorem stopped_append (event : Event) (h : (of config events).dispatcher.stopped = true) :
    (of config (events ++ [event])).dispatcher.stopped = true := by
  rw [of_concat]
  cases event with
  | write place =>
      obtain ⟨written, hwrite⟩ := step_write config (of config events) place
      rwa [hwrite]
  | submit | turn => simp [step, h]

/-- Whoever is sent to a node is attempted, or waits, or times out, until a shutdown. -/
theorem kept (config : Config) (events : List Event) (node : NodeId) {command : Command}
    (hcommand : command ∈ directed config events node) :
    command.id ∈ attemptsAt node (of config events).journal ∨
      command.id ∈ (of config events).dispatcher.waitingFor node ∨
      Expired config events command ∨ (of config events).dispatcher.stopped = true := by
  induction events using List.reverseRecOn with
  | nil => simp [directed, collect] at hcommand
  | append_singleton events event ih =>
      obtain ⟨came, went, ahead, h⟩ := round_of_run config events event node
      have hsame : ∀ other ∈ directed config (events ++ [event]) node, other.id = command.id →
          other = command := fun other hother =>
        List.inj_on_of_nodup_map (directed_once config _ node) hother hcommand
      have hnow : command.id ∈ (of config events).dispatcher.waitingFor node ++ came.map (·.id) →
          command.id ∈ attemptsAt node (of config (events ++ [event])).journal ∨
            command.id ∈ (of config (events ++ [event])).dispatcher.waitingFor node ∨
            Expired config (events ++ [event]) command ∨
            (of config (events ++ [event])).dispatcher.stopped = true := by
        intro hid
        rw [h.attempted]
        rcases h.kept _ hid with hwent | hwaits | ⟨other, hother, hid, hexpired⟩ | hstopped
        · exact .inl (List.mem_append_right _ hwent)
        · exact .inr (.inl hwaits)
        · exact .inr (.inr (.inl (hsame other hother hid ▸ hexpired)))
        · exact .inr (.inr (.inr hstopped))
      have hbefore := hcommand
      rw [h.directed] at hbefore
      rcases List.mem_append.mp hbefore with hold | hcame
      · rcases ih hold with hattempted | hwaits | hexpired | hstopped
        · exact .inl (by rw [h.attempted]; exact List.mem_append_left _ hattempted)
        · exact hnow (List.mem_append_left _ hwaits)
        · exact .inr (.inr (.inl (hexpired.append event)))
        · exact .inr (.inr (.inr (stopped_append event hstopped)))
      · exact hnow (List.mem_append_right _ (List.mem_map_of_mem hcame))

/-- While a command waits for a node no other is attempted there that was sent there later, unless
it goes past the queue. -/
theorem waits (config : Config) (events : List Event) (node : NodeId) {first later : Command}
    (hpair : [first, later].Sublist (directed config events node))
    (hfirst : first.id ∈ (of config events).dispatcher.waitingFor node)
    (hlater : later.id ∈ attemptsAt node (of config events).journal) :
    later.id ∈ overtakers config events node := by
  by_contra hahead
  have hkept : later.id ∈ (attemptsAt node (of config events).journal).filter
      (· ∉ overtakers config events node) :=
    List.mem_filter.mpr ⟨hlater, by simpa using hahead⟩
  have hswap := (pair_sublist_append hkept hfirst).trans (in_line config events node).2
  exact not_pair_sublist_swap (directed_once config events node) (hpair.map _) hswap

/-- Of two attempts in one round the one comes first that was sent to the node first, unless the
other goes past the queue. -/
theorem Round.in_order {event : Event} {came : List Command} {went ahead : List Nat}
    (h : Round config events event node came went ahead) {first later : Command}
    (hpair : [first, later].Sublist (Run.directed config (events ++ [event]) node))
    (hlater : later.id ∈ went) (hahead : later.id ∉ ahead) (hfirst : first.id ∈ went) :
    [first.id, later.id].Sublist went := by
  have honce := directed_once config (events ++ [event]) node
  have hids := hpair.map (·.id)
  rw [h.directed, List.map_append] at honce hids
  have hline : (went.filter (· ∉ ahead)).Sublist
      ((Run.directed config events node).map (·.id) ++ came.map (·.id)) := by
    have hqueue := (List.sublist_append_right _ _).trans (in_line config events node).2
    exact ((List.sublist_append_left _ _).trans h.line).trans (hqueue.append_right _)
  have hlater' : later.id ∈ went.filter (· ∉ ahead) :=
    List.mem_filter.mpr ⟨hlater, by simpa using hahead⟩
  by_cases hpast : first.id ∈ ahead
  · -- Then the other has come in this round as well, and goes past the queue too.
    have hlast := second_mem_of_pair honce hids (h.came_of_ahead hpast)
    rcases h.past with hnone | hall
    · simp [hnone] at hpast
    · rw [hall] at hahead
      exact absurd (List.mem_filter.mpr ⟨hlater, by simpa using hlast⟩) hahead
  · have hfirst' : first.id ∈ went.filter (· ∉ ahead) :=
      List.mem_filter.mpr ⟨hfirst, by simpa using hpast⟩
    exact (pair_sublist_of_mem honce hline hids hfirst' hlater').trans List.filter_sublist

/-- Whoever was sent to a node before, and is attempted now, has waited. -/
theorem Round.waited {event : Event} {came : List Command} {went ahead : List Nat}
    (h : Round config events event node came went ahead) {command : Command}
    (hcommand : command ∈ Run.directed config events node) (hwent : command.id ∈ went) :
    command.id ∈ (of config events).dispatcher.waitingFor node := by
  have honce := directed_once config (events ++ [event]) node
  rw [h.directed, List.map_append] at honce
  have hold : command.id ∉ came.map (·.id) :=
    fun hcame => List.disjoint_of_nodup_append honce (List.mem_map_of_mem hcommand) hcame
  have hahead : command.id ∉ ahead := fun hahead => hold (h.came_of_ahead hahead)
  have hmem := h.line.subset
    (List.mem_append_left _ (List.mem_filter.mpr ⟨hwent, by simpa using hahead⟩))
  exact (List.mem_append.mp hmem).resolve_right hold

/-- Of two commands both were sent to a node before, if the one that was sent there later has been
attempted. -/
theorem Round.both_before {event : Event} {came : List Command} {went ahead : List Nat}
    (h : Round config events event node came went ahead) {first later : Command}
    (hpair : [first, later].Sublist (Run.directed config (events ++ [event]) node))
    (hlater : later.id ∈ attemptsAt node (of config events).journal) :
    [first, later].Sublist (Run.directed config events node) := by
  have hids := directed_once config (events ++ [event]) node
  rw [h.directed] at hpair hids
  have honce : (Run.directed config events node ++ came).Nodup := .of_map _ hids
  obtain ⟨known, hknown, hsame⟩ := List.mem_map.mp ((in_line config events node).1 _ hlater)
  obtain rfl := List.inj_on_of_nodup_map hids (List.mem_append_left _ hknown)
    (hpair.subset (by simp)) hsame
  have hfirst : first ∈ Run.directed config events node := by
    refine (List.mem_append.mp (hpair.subset (by simp))).resolve_right ?_
    intro hcame
    exact List.disjoint_of_nodup_append honce hknown (second_mem_of_pair honce hpair hcame)
  exact pair_sublist_of_mem honce (List.sublist_append_left _ _) hpair hfirst hknown

/-- A command that was sent to a node before another is attempted before it, or times out and is not
attempted, unless the other goes past the queue. -/
theorem attempts_in_order (config : Config) (events : List Event) (node : NodeId)
    {first later : Command} (hpair : [first, later].Sublist (directed config events node))
    (hlater : later.id ∈ attemptsAt node (of config events).journal)
    (hahead : later.id ∉ overtakers config events node) :
    [first.id, later.id].Sublist (attemptsAt node (of config events).journal) ∨
      first.id ∉ attemptsAt node (of config events).journal ∧ Expired config events first := by
  induction events using List.reverseRecOn with
  | nil => simp [attemptsAt] at hlater
  | append_singleton events event ih =>
      obtain ⟨came, went, ahead, h⟩ := round_of_run config events event node
      have hnow := hlater
      have hovers := hahead
      rw [h.overtakers, List.mem_append, not_or] at hovers
      rw [h.attempted] at hnow ⊢
      by_cases hold : later.id ∈ attemptsAt node (of config events).journal
      · have hbefore := h.both_before hpair hold
        rcases ih hbefore hold hovers.1 with horder | ⟨hnever, hexpired⟩
        · exact .inl (horder.trans (List.sublist_append_left _ _))
        · refine .inr ⟨?_, hexpired.append event⟩
          intro hattempted
          have hwent := (List.mem_append.mp hattempted).resolve_left hnever
          have hwaited := h.waited (hbefore.subset (by simp)) hwent
          exact hovers.1 (waits config events node hbefore hwaited hold)
      · have hwent := (List.mem_append.mp hnow).resolve_left hold
        by_cases hfirst : first.id ∈ attemptsAt node (of config events).journal
        · exact .inl (pair_sublist_append hfirst hwent)
        by_cases hfirst' : first.id ∈ went
        · exact .inl ((h.in_order hpair hwent hovers.2 hfirst').trans
            (List.sublist_append_right _ _))
        -- The first is not attempted, nor does it wait while the other is attempted.
        have hnever : first.id ∉ attemptsAt node (of config events).journal ++ went :=
          fun hattempted => (List.mem_append.mp hattempted).elim hfirst hfirst'
        refine .inr ⟨hnever, ?_⟩
        rcases kept config (events ++ [event]) node (hpair.subset (by simp) : first ∈ _) with
          hattempted | hwaits | hexpired | hstopped
        · exact absurd (h.attempted ▸ hattempted) hnever
        · exact absurd (waits config _ node hpair hwaits hlater) hahead
        · exact hexpired
        · rw [h.running (List.ne_nil_of_mem hwent)] at hstopped
          cases hstopped

/-! ## The result -/

/-- Commands for a node are served in the order in which they were sent there. -/
structure FirstServed (config : Config) (events : List Event) (node : NodeId) : Prop where
  /-- No number is sent to the node twice. -/
  once : ((directed config events node).map (·.id)).Nodup
  /-- The attempts, but for those that went past the queue, and then the queue, are in the order in
  which their commands were sent to the node. -/
  line : ((attemptsAt node (of config events).journal).filter
      (· ∉ overtakers config events node) ++ (of config events).dispatcher.waitingFor node).Sublist
    ((directed config events node).map (·.id))
  /-- Whoever is sent to the node is attempted, or waits, or times out, until a shutdown. -/
  kept : ∀ command ∈ directed config events node,
    command.id ∈ attemptsAt node (of config events).journal ∨
      command.id ∈ (of config events).dispatcher.waitingFor node ∨
      Expired config events command ∨ (of config events).dispatcher.stopped = true
  /-- While a command waits no other is attempted that was sent to the node later. -/
  waits : ∀ first later, [first, later].Sublist (directed config events node) →
    first.id ∈ (of config events).dispatcher.waitingFor node →
    later.id ∈ attemptsAt node (of config events).journal →
    later.id ∈ overtakers config events node
  /-- A command is attempted before all that were sent to the node later, unless it times out. -/
  order : ∀ first later, [first, later].Sublist (directed config events node) →
    later.id ∈ attemptsAt node (of config events).journal →
    later.id ∉ overtakers config events node →
    [first.id, later.id].Sublist (attemptsAt node (of config events).journal) ∨
      first.id ∉ attemptsAt node (of config events).journal ∧ Expired config events first

/-- In every run every node is served in order, but for what timers send past a queue. -/
theorem first_served (config : Config) (events : List Event) (node : NodeId) :
    FirstServed config events node where
  once := directed_once config events node
  line := (in_line config events node).2
  kept := fun _ hcommand => kept config events node hcommand
  waits := fun _ _ hpair => waits config events node hpair
  order := fun _ _ hpair => attempts_in_order config events node hpair

/-- A node with room for two, two commands for it, of which the second has to pause, two more while
it does, and then the end of the pause, just when the deadline of the first passes. -/
def jostled : List Event :=
  [.submit (.get [1]) (.node ⟨"n:1"⟩) (.ofMillis 100) 0,
    .submit (.get [2]) (.node ⟨"n:1"⟩) (.ofMillis 1000) 0, .turn 0 .empty .accept,
    .turn 0 .empty .accept,
    .turn 0 .empty
      (.node (.response ⟨"n:1"⟩ { Response.success 2 0 with status := .temporaryFailure })),
    .submit (.get [3]) (.node ⟨"n:1"⟩) (.ofMillis 1000) 0,
    .submit (.get [4]) (.node ⟨"n:1"⟩) (.ofMillis 1000) 0, .turn 0 .empty .accept,
    .turn 0 .empty .accept, .turn 100000000 .empty .timers]

def twoAtATime : Config :=
  { maxInFlightPerNode := 2, backoffBase := .ofMillis 100, backoffMax := .ofMillis 100 }

/-- The command that has paused is attempted while another waits that was sent to the node before
it. -/
theorem jostled_out_of_order :
    (directed twoAtATime jostled ⟨"n:1"⟩).map (·.id) = [1, 2, 4, 5, 3] ∧
    (of twoAtATime jostled).dispatcher.waitingFor ⟨"n:1"⟩ = [5] ∧
    attemptsAt ⟨"n:1"⟩ (of twoAtATime jostled).journal = [1, 2, 4, 3] ∧
    overtakers twoAtATime jostled ⟨"n:1"⟩ = [3] ∧
    ¬∀ first ∈ directed twoAtATime jostled ⟨"n:1"⟩, ∀ later ∈ directed twoAtATime jostled ⟨"n:1"⟩,
      [first, later].Sublist (directed twoAtATime jostled ⟨"n:1"⟩) →
      first.id ∈ (of twoAtATime jostled).dispatcher.waitingFor ⟨"n:1"⟩ →
      later.id ∉ attemptsAt ⟨"n:1"⟩ (of twoAtATime jostled).journal := by
  decide +kernel

end Run

end ClusterKv

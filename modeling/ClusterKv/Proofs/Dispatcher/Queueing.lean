import ClusterKv.Proofs.Dispatcher.Isolation
import ClusterKv.Proofs.Dispatcher.Retries

/-! # The queue of a node

A deal lets the queue of a node alone, or adds the command to it that is sent there, or starts its
attempt at once, or starts the first attempt in the queue, or drops a command whose deadline has
passed. As long as commands are sent on their way no attempt at a full node ends, but for one whose
deadline a timer has seen to. -/

namespace ClusterKv

/-- The number of an attempt at a node. -/
def Effect.attemptAt? (node : NodeId) : Effect → Option Nat
  | .attempt id other _ _ => if other = node then some id else none
  | .refresh | .disconnect .. | .closePool | .resolve .. => none

/-- The numbers of the attempts at a node among some effects, one after another. -/
def attemptsAt (node : NodeId) (effects : List Effect) : List Nat :=
  effects.filterMap (Effect.attemptAt? node)

@[simp] theorem attemptsAt_append (node : NodeId) (effects more : List Effect) :
    attemptsAt node (effects ++ more) = attemptsAt node effects ++ attemptsAt node more :=
  List.filterMap_append ..

namespace Dispatcher

variable {m : Moment} {input : Input} {cause : Cause} {node : NodeId} {d d' : Dispatcher}

/-! ## Attempts at a node -/

/-- The attempts at a node in the outbox, first ones first. -/
def setOff (d : Dispatcher) (node : NodeId) : List Nat := attemptsAt node d.outbox.reverse

theorem setOff_congr (h : d'.outbox = d.outbox) : d'.setOff node = d.setOff node := by
  rw [setOff, h, setOff]

theorem setOff_emit (d : Dispatcher) (effect : Effect) :
    (d.emit effect).setOff node = d.setOff node ++ (effect.attemptAt? node).toList := by
  have hlast : attemptsAt node [effect] = (effect.attemptAt? node).toList := by
    cases h : effect.attemptAt? node <;> simp [attemptsAt, h]
  simp only [setOff, emit_outbox, List.reverse_cons, attemptsAt_append, hlast]

theorem setOff_finish (d : Dispatcher) (command : Command) (result : Except Error Reply) :
    (d.finish command result).setOff node = d.setOff node := by
  simp [setOff_emit, Effect.attemptAt?]

theorem setOff_timeOut (d : Dispatcher) (command : Command) :
    (d.timeOut command).setOff node = d.setOff node := setOff_finish ..

theorem setOff_park (d : Dispatcher) (command : Command) :
    (d.park command).setOff node = d.setOff node := by
  rcases park_outbox d command with h | h
  · exact setOff_congr h
  · exact (setOff_congr (d := d.emit .refresh) h).trans (by simp [setOff_emit, Effect.attemptAt?])

theorem setOff_dropped (d : Dispatcher) (input : Input) :
    (d.dropped input).setOff node = d.setOff node := by
  rcases dropped_eq d input with h | ⟨node, generation, h⟩
  · rw [h]
  · simp [h, setOff_emit, Effect.attemptAt?]

theorem setOff_start (d : Dispatcher) (id : Nat) (entry : Entry) (other : NodeId)
    (request : Request) (deadline : Instant) :
    ((d.insert id entry).emit (.attempt id other request deadline)).setOff node =
      d.setOff node ++ if other = node then [id] else [] := by
  rw [setOff_emit, setOff_congr (insert_outbox d _ _)]
  congr 1
  simp only [Effect.attemptAt?]
  split <;> rfl

/-! ## Who waits -/

theorem waitingFor_park (d : Dispatcher) (command : Command) :
    (d.park command).waitingFor node = d.waitingFor node := by
  simp only [park, waitingFor, requestRefresh_waiting]
  rfl

theorem waitingFor_start (d : Dispatcher) (id : Nat) (command : Command) (other : NodeId)
    (partition : UInt16) (effect : Effect) :
    ((d.insert id ⟨command, .sent other partition none []⟩).emit effect).waitingFor node =
      d.waitingFor node := rfl

theorem waitingFor_dropped (d : Dispatcher) (input : Input) :
    (d.dropped input).waitingFor node = d.waitingFor node := by
  rcases dropped_eq d input with h | ⟨_, generation, h⟩
  · rw [h]
  · rw [h]
    rfl

theorem Applied.setOff {command : Command} {outcome : Outcome}
    (h : Applied m d command outcome d') (node : NodeId) :
    d'.setOff node = d.setOff node ∧ d'.waitingFor node = d.waitingFor node := by
  cases h with
  | late | success | definitive | misdirected | exhausted => exact ⟨setOff_finish _ _ _, rfl⟩
  | parked => exact ⟨setOff_park _ _, waitingFor_park _ _⟩
  | paused => exact ⟨setOff_congr (backOff_outbox _ _), rfl⟩

/-- Taking out a command that does not wait leaves the queues alone. -/
theorem waitingFor_remove {id : Nat} {entry : Entry} (found : d.inFlight.get? id = some entry)
    (elsewhere : entry.waitsFor node = false) :
    (d.remove id).1.waitingFor node = d.waitingFor node := by
  simp [remove_waitingFor node found, elsewhere]

/-- A move that touches neither commands nor the outbox leaves the queues alone. -/
theorem Move.waitingFor_eq (h : Move m cause (d, .empty) (d', .empty))
    (hd : Numbered d .empty) (hb : Booked m.config d) (entries : d'.inFlight = d.inFlight)
    (outbox : d'.outbox = d.outbox) : d'.waitingFor node = d.waitingFor node := by
  generalize hs : (d, Hand.empty) = s at h
  generalize ht : (d', Hand.empty) = t at h
  cases h with
  | handle handling =>
      subst hs ht
      cases handling with
      | settle verdict => cases verdict
  | draw | retire | resume | unpark | promote => cases ht
  | expire found late =>
      cases hs
      cases ht
      simp at outbox
  | @skip d₁ other id rest first gone =>
      cases hs
      have hlisted : id ∈ d.waitingFor other := by simp [first]
      obtain ⟨⟨command, stage⟩, hentry, hwaits⟩ := (hb.listed other id).mp hlisted
      obtain ⟨partition, rfl⟩ := Entry.waitsFor_iff.mp hwaits
      exact absurd hentry (gone _ _ _)
  | tidy =>
      cases hs
      cases ht
      exact waitingFor_tidy hd.queues node
  | collect | tick =>
      cases hs
      cases ht
      rfl

/-! ## One deal -/

/-- Is a command sent on its way to a node, in time? -/
def directs (m : Moment) (node : NodeId) (command : Command) : Bool :=
  m.now < command.deadline &&
    match (routeOf m command).2 with
    | .ok route => route.node = node
    | .error _ => false

/-- The numbers of the commands that are sent on their way to a node, in time. -/
def headingFor (m : Moment) (node : NodeId) (commands : List Command) : List Nat :=
  (commands.filter (directs m node)).map (·.id)

@[simp] theorem headingFor_append (commands more : List Command) :
    headingFor m node (commands ++ more) =
      headingFor m node commands ++ headingFor m node more := by
  simp [headingFor]

theorem headingFor_singleton (command : Command) :
    headingFor m node [command] = if directs m node command then [command.id] else [] := by
  rw [headingFor, List.filter_singleton]
  split <;> simp_all

/-- What a deal does to the queue of a node that has room or has not: the queue before, the numbers
that are sent there, the numbers whose attempts are started, and the queue after. -/
inductive Shift (lapsed : Nat → Prop) (room : Bool) :
    List Nat → List Nat → List Nat → List Nat → Prop where
  | still {queue} : Shift lapsed room queue [] [] queue
  | joins {queue id} (full : room = false) : Shift lapsed room queue [id] [] (queue ++ [id])
  | starts {queue id} (free : room = true) : Shift lapsed room queue [id] [id] queue
  | next {id rest} (free : room = true) : Shift lapsed room (id :: rest) [] [id] rest
  | leaves {queue id} (late : lapsed id) :
      Shift lapsed room queue [] [] (queue.filter (· ≠ id))

namespace Shift

variable {lapsed : Nat → Prop} {room : Bool} {queue came went queue' : List Nat}

/-- But for those that have just come all keep their order. -/
theorem but_for_came (h : Shift lapsed room queue came went queue') :
    (went.filter (· ∉ came) ++ queue').Sublist (queue ++ came) := by
  cases h with
  | still | joins | next => simp
  | starts => simp
  | leaves => simp

/-- If nobody waits for nothing, those that have just come keep their order too. -/
theorem in_line (h : Shift lapsed room queue came went queue')
    (hidle : room = true → queue = []) : (went ++ queue').Sublist (queue ++ came) := by
  cases h with
  | still | joins | next => simp
  | starts free => simp [hidle free]
  | leaves => simp

/-- Whoever has just come is attempted or waits. -/
theorem placed (h : Shift lapsed room queue came went queue') {id : Nat} (hid : id ∈ came) :
    id ∈ went ∨ id ∈ queue' := by
  cases h with
  | still | next | leaves => cases hid
  | joins => exact .inr (List.mem_append_right _ hid)
  | starts => exact .inl hid

/-- Whoever waits goes on waiting, or is attempted, or lapses. -/
theorem kept (h : Shift lapsed room queue came went queue') {id : Nat} (hid : id ∈ queue) :
    id ∈ went ∨ id ∈ queue' ∨ lapsed id := by
  cases h with
  | still | starts => exact .inr (.inl hid)
  | joins => exact .inr (.inl (List.mem_append_left _ hid))
  | next =>
      rcases List.mem_cons.mp hid with rfl | hrest
      · exact .inl (List.mem_singleton_self _)
      · exact .inr (.inl hrest)
  | @leaves _ other late =>
      by_cases hother : id = other
      · exact .inr (.inr (hother ▸ late))
      · exact .inr (.inl (by simpa [hother] using hid))

end Shift

/-- The deadline of a number has passed, and its caller knows. -/
def Lapsed (m : Moment) (d d' : Dispatcher) (id : Nat) : Prop :=
  ∃ entry, d.inFlight.get? id = some entry ∧ entry.command.deadline ≤ m.now ∧
    .resolve entry.command.ticket (.error (.timeout entry.command.timeout)) ∈ d'.outbox

theorem route_shift (lapsed : Nat → Prop) (node : NodeId) (d : Dispatcher) (command : Command) :
    ∃ went, (d.route m command).setOff node = d.setOff node ++ went ∧
      Shift lapsed (d.hasCapacity m node) (d.waitingFor node)
        (headingFor m node [command]) went
        ((d.route m command).waitingFor node) := by
  have hrouted := route_routed m d command
  generalize hstarts : startedBy m d command = starts at hrouted
  generalize d.route m command = d' at hrouted ⊢
  have hstill : directs m node command = false → d'.setOff node = d.setOff node →
      d'.waitingFor node = d.waitingFor node →
      ∃ went, d'.setOff node = d.setOff node ++ went ∧
        Shift lapsed (d.hasCapacity m node) (d.waitingFor node)
          (headingFor m node [command]) went (d'.waitingFor node) := by
    intro haway hsetOff hwaiting
    rw [headingFor_singleton, haway, hsetOff, hwaiting]
    exact ⟨[], by simp, .still⟩
  cases hrouted with
  | late late => exact hstill (by simp [directs, Nat.not_lt.mpr late]) (setOff_timeOut _ _) rfl
  | unowned inTime missed => exact hstill (by simp [directs, missed]) (setOff_finish _ _ _) rfl
  | parked inTime missed =>
      exact hstill (by simp [directs, missed]) (setOff_park _ _) (waitingFor_park _ _)
  | @started route inTime found =>
      have hfree : d.hasCapacity m route.node = true := by
        simpa [startedBy, Nat.not_le.mpr inTime, found] using hstarts
      by_cases hnode : route.node = node
      · subst hnode
        have hhere : directs m route.node command = true := by simp [directs, inTime, found]
        rw [headingFor_singleton, hhere, setOff_start, if_pos rfl]
        exact ⟨_, rfl, .starts hfree⟩
      · exact hstill (by simp [directs, found, hnode]) (by simp [setOff_start, hnode]) rfl
  | @waiting route inTime found =>
      have hfull : d.hasCapacity m route.node = false := by
        simpa [startedBy, Nat.not_le.mpr inTime, found] using hstarts
      by_cases hnode : route.node = node
      · subst hnode
        have hhere : directs m route.node command = true := by simp [directs, inTime, found]
        have hwaits : Entry.waitsFor route.node
            ⟨(routeOf m command).1, .waiting route.node route.partition⟩ = true := by
          simp [Entry.waitsFor]
        rw [headingFor_singleton, hhere, setOff_congr (insert_outbox d _ _), insert_waitingFor,
          if_pos hwaits]
        exact ⟨[], by simp, .joins hfull⟩
      · refine hstill (by simp [directs, found, hnode]) (setOff_congr (insert_outbox d _ _)) ?_
        rw [insert_waitingFor, if_neg (by simp [Entry.waitsFor, hnode])]

/-- The first in a queue does not stand behind itself. -/
theorem filter_rest {other : NodeId} {id : Nat} {rest : List Nat} (hb : Booked m.config d)
    (first : d.waitingFor other = id :: rest) : rest.filter (· ≠ id) = rest := by
  have honce := List.nodup_cons.mp (first ▸ hb.once other)
  refine List.filter_eq_self.mpr ?_
  intro other hother
  simpa using ne_of_mem_of_not_mem hother honce.1

/-- Taking the first command in a queue out takes it off the queue. -/
theorem waitingFor_removed_first {named : NodeId} {rest : List Nat} {command : Command}
    {partition : UInt16} (hb : Booked m.config d) (first : d.waitingFor named = command.id :: rest)
    (found : d.inFlight.get? command.id = some ⟨command, .waiting named partition⟩)
    (node : NodeId) :
    ({ d with waiting := d.waiting.put named rest }.remove command.id).1.waitingFor node =
      if named = node then rest else d.waitingFor node := by
  have hentry : ({ d with waiting := d.waiting.put named rest } : Dispatcher).inFlight.get?
      command.id = some ⟨command, .waiting named partition⟩ := found
  rw [remove_waitingFor node hentry, waitingFor_put]
  by_cases hnode : named = node
  · subst hnode
    rw [if_pos (by simp [Entry.waitsFor]), if_pos rfl, filter_rest hb first]
  · simp [Entry.waitsFor, hnode, Ne.symm hnode]

/-- The first command in a queue is taken off it, to be attempted if it is not too late. -/
theorem promoted_shift {other named : NodeId} {id : Nat} {rest : List Nat} {command : Command}
    {partition : UInt16} (hd : Numbered d .empty) (hb : Booked m.config d)
    (first : d.waitingFor other = id :: rest) (room : d.hasCapacity m other = true)
    (found : d.inFlight.get? id = some ⟨command, .waiting named partition⟩) (node : NodeId)
    (hafter : d' = ({ d with waiting := d.waiting.put other rest }.remove id).1.dispatch m command
      ⟨partition, other⟩) :
    ∃ went, d'.setOff node = d.setOff node ++ went ∧
      Shift (Lapsed m d d') (d.hasCapacity m node) (d.waitingFor node) [] went
        (d'.waitingFor node) := by
  obtain rfl : command.id = id := hd.keyed id _ found
  obtain ⟨entry, hentry, hwaits⟩ := (hb.listed other command.id).mp (by simp [first])
  obtain rfl := Option.some.inj (found.symm.trans hentry)
  obtain rfl : named = other := by simpa [Entry.waitsFor] using hwaits
  have hqueue := waitingFor_removed_first hb first found node
  have hsetOff : ({ d with waiting := d.waiting.put named rest }.remove command.id).1.setOff
      node = d.setOff node := setOff_congr (remove_outbox _ command.id)
  generalize ({ d with waiting := d.waiting.put named rest }.remove command.id).1 = d₁
    at hqueue hsetOff hafter
  by_cases late : command.deadline ≤ m.now
  · obtain rfl : d' = d₁.timeOut command := by simpa [dispatch, late] using hafter
    rw [setOff_timeOut, hsetOff, show (d₁.timeOut command).waitingFor node = _ from hqueue]
    refine ⟨[], by simp, ?_⟩
    split
    · next hnode =>
        subst hnode
        have hleaves : Shift (Lapsed m d (d₁.timeOut command)) (d.hasCapacity m named)
            (d.waitingFor named) [] [] ((d.waitingFor named).filter (· ≠ command.id)) :=
          .leaves ⟨_, found, late, by simp⟩
        rwa [first, List.filter_cons_of_neg (by simp), filter_rest hb first, ← first] at hleaves
    · exact .still
  · obtain rfl : d' = (d₁.insert command.id ⟨command, .sent named partition none []⟩).emit
        (.attempt command.id named ⟨command.id.toUInt64, partition, command.operation⟩
          command.deadline) := by simpa [dispatch, late] using hafter
    rw [setOff_start, hsetOff, waitingFor_start, hqueue]
    split
    · next hnode =>
        subst hnode
        rw [first]
        exact ⟨_, rfl, .next room⟩
    · exact ⟨[], rfl, .still⟩

theorem Deal.shift {d₀ : Dispatcher} {routes : List Command} {starts : List (Nat × Nat)}
    (h : Deal m input d₀ d routes starts d') (hd : Numbered d .empty) (hb : Booked m.config d)
    (node : NodeId) :
    ∃ went, d'.setOff node = d.setOff node ++ went ∧
      Shift (Lapsed m d d') (d.hasCapacity m node) (d.waitingFor node)
        (headingFor m node routes) went (d'.waitingFor node) := by
  have hstill : ∀ {d'' : Dispatcher}, d''.setOff node = d.setOff node →
      d''.waitingFor node = d.waitingFor node → ∃ went, d''.setOff node = d.setOff node ++ went ∧
        Shift (Lapsed m d d'') (d.hasCapacity m node) (d.waitingFor node) [] went
          (d''.waitingFor node) := by
    intro d'' hsetOff hwaiting
    rw [hsetOff, hwaiting]
    exact ⟨[], by simp, .still⟩
  have hremoved : ∀ id, (d.remove id).1.setOff node = d.setOff node :=
    fun id => setOff_congr (remove_outbox d id)
  have hrouted : ∀ {id : Nat} {command : Command} {stage : Stage},
      d.inFlight.get? id = some ⟨command, stage⟩ →
      Entry.isAt node ⟨command, stage⟩ = false →
      ∃ went, ((d.remove id).1.route m command).setOff node = d.setOff node ++ went ∧
        Shift (Lapsed m d ((d.remove id).1.route m command)) (d.hasCapacity m node)
          (d.waitingFor node) (headingFor m node [command]) went
          (((d.remove id).1.route m command).waitingFor node) := by
    intro id command stage found haway
    have hsame := Untouched.remove found haway
    have hroom : (d.remove id).1.hasCapacity m node = d.hasCapacity m node := by
      unfold hasCapacity sentTo
      rw [hsame.sent]
    have hqueue := waitingFor_remove found (Bool.or_eq_false_iff.mp haway).2
    rw [← hremoved id, ← hroom, ← hqueue]
    exact route_shift _ node _ command
  cases h with
  | aside causes move entries queue outbox =>
      exact hstill (setOff_congr outbox) (move.waitingFor_eq hd hb entries outbox)
  | accepted => exact route_shift _ node _ _
  | resumed cause found | unparked cause found => exact hrouted found rfl
  | @rested _ id command cause found =>
      refine hstill ((setOff_congr (backOff_outbox _ _)).trans (hremoved id)) ?_
      exact waitingFor_remove found rfl
  | refused cause found =>
      exact hstill ((setOff_finish _ _ _).trans (hremoved _)) (waitingFor_remove found rfl)
  | @expired _ id entry cause found late =>
      by_cases hwaits : entry.waitsFor node = true
      · have hqueue : ((d.remove id).1.timeOut entry.command).waitingFor node =
            (d.waitingFor node).filter (· ≠ id) := by
          refine (show _ = (d.remove id).1.waitingFor node from rfl).trans ?_
          rw [remove_waitingFor node found, if_pos hwaits]
        rw [setOff_timeOut, hremoved, hqueue]
        exact ⟨[], by simp, .leaves ⟨entry, found, late, by simp⟩⟩
      · refine hstill ((setOff_timeOut _ _).trans (hremoved _)) ?_
        exact waitingFor_remove found (by simpa using hwaits)
  | promoted first room found => exact promoted_shift hd hb first room found node rfl
  | @ended _ id entry outcome other partition carrier closed since brings under ends =>
      obtain ⟨hsetOff, hwaiting⟩ := (apply_applied m ((d.remove id).1.dropped input) entry.command
        outcome).setOff node
      refine hstill (hsetOff.trans ((setOff_dropped _ _).trans (hremoved id))) ?_
      exact hwaiting.trans ((waitingFor_dropped _ _).trans (waitingFor_remove under rfl))
  | @dismissed _ id entry error other partition carrier closed since dismisses under ends =>
      refine hstill ((setOff_finish _ _ _).trans ((setOff_dropped _ _).trans (hremoved id))) ?_
      exact (waitingFor_dropped _ _).trans (waitingFor_remove under rfl)

/-! ## One deal after another -/

/-- What is taken off the front of a queue and what is left of it go on in line, but for those that
go past the queue. -/
theorem line_append {α : Type} [DecidableEq α] {before went queue queue' line came : List α}
    {past ahead : List α} (hline : (before.filter (· ∉ past) ++ queue).Sublist line)
    (hnew : (went.filter (· ∉ ahead) ++ queue').Sublist (queue ++ came)) :
    ((before ++ went).filter (· ∉ past ++ ahead) ++ queue').Sublist (line ++ came) := by
  have hbefore : (before.filter (· ∉ past ++ ahead)).Sublist (before.filter (· ∉ past)) :=
    List.monotone_filter_right _ (by simp_all)
  have hwent : (went.filter (· ∉ past ++ ahead)).Sublist (went.filter (· ∉ ahead)) :=
    List.monotone_filter_right _ (by simp_all)
  rw [List.filter_append, List.append_assoc]
  refine (hbefore.append ((hwent.append_right _).trans hnew)).trans ?_
  rw [← List.append_assoc]
  exact hline.append_right _

section

variable {d₀ : Dispatcher} {routes : List Command} {starts : List (Nat × Nat)}

theorem Deal.books (h : Deal m input d₀ d routes starts d') (hd : Numbered d .empty)
    (hb : Booked m.config d) : Numbered d' .empty ∧ Booked m.config d' := by
  obtain ⟨cause, -, hmoves⟩ := h.moves
  exact ⟨Moves.numbered hmoves hd, Moves.booked hmoves hd hb⟩

/-- But for those that are sent to a node in the meantime all keep their order. -/
theorem Deals.but_for_came (h : Deals m input d₀ d routes starts d') (hd : Numbered d .empty)
    (hb : Booked m.config d) (hnone : d.setOff node = []) :
    ((d'.setOff node).filter (· ∉ headingFor m node routes) ++ d'.waitingFor node).Sublist
      (d.waitingFor node ++ headingFor m node routes) := by
  have hall := h.induct
    (P := fun d₁ routes _ => Numbered d₁ .empty ∧ Booked m.config d₁ ∧
      ((d₁.setOff node).filter (· ∉ headingFor m node routes) ++ d₁.waitingFor node).Sublist
        (d.waitingFor node ++ headingFor m node routes))
    ⟨hd, hb, by simp [hnone, headingFor]⟩ ?_
  · exact hall.2.2
  · rintro d₁ d₂ routes starts routes' starts' hdeal ⟨hd, hb, hline⟩
    obtain ⟨hd', hb'⟩ := hdeal.books hd hb
    refine ⟨hd', hb', ?_⟩
    obtain ⟨went, hsetOff, hshift⟩ := hdeal.shift hd hb node
    rw [hsetOff, headingFor_append, ← List.append_assoc (d.waitingFor node)]
    exact line_append hline hshift.but_for_came

/-- As long as nobody is sent to a node all keep their order. -/
theorem Deals.in_line_of_none (h : Deals m input d₀ d routes starts d') (hd : Numbered d .empty)
    (hb : Booked m.config d) (hnone : headingFor m node routes = []) {line : List Nat}
    (hline : (d.setOff node ++ d.waitingFor node).Sublist line) :
    (d'.setOff node ++ d'.waitingFor node).Sublist line := by
  have hall := h.induct
    (P := fun d₁ routes _ => Numbered d₁ .empty ∧ Booked m.config d₁ ∧
      (headingFor m node routes = [] → (d₁.setOff node ++ d₁.waitingFor node).Sublist line))
    ⟨hd, hb, fun _ => hline⟩ ?_
  · exact hall.2.2 hnone
  · rintro d₁ d₂ routes starts routes' starts' hdeal ⟨hd, hb, hline⟩
    obtain ⟨hd', hb'⟩ := hdeal.books hd hb
    refine ⟨hd', hb', ?_⟩
    intro hnone
    rw [headingFor_append, List.append_eq_nil_iff] at hnone
    obtain ⟨went, hsetOff, hshift⟩ := hdeal.shift hd hb node
    rw [hnone.2] at hshift
    have hnew := hshift.but_for_came
    simp only [List.not_mem_nil, not_false_eq_true, decide_true, List.filter_true,
      List.append_nil] at hnew
    rw [hsetOff, List.append_assoc]
    exact (hnew.append_left _).trans (hline hnone.1)

end

/-! ## Nodes that fill up -/

/-- No attempt at a node ends, and whatever is started there is in time. -/
structure Filling (m : Moment) (node : NodeId) (d d' : Dispatcher) : Prop where
  started : ∀ id entry, d'.inFlight.get? id = some entry → entry.isSentTo node = true →
    d.inFlight.get? id = some entry ∨ m.now < entry.command.deadline
  grows : d.sentTo node ≤ d'.sentTo node

namespace Filling

theorem of_eq (hentries : d'.inFlight = d.inFlight) (hsent : d'.sentPerNode = d.sentPerNode) :
    Filling m node d d' := by
  refine ⟨?_, ?_⟩
  · intro id entry hentry _
    exact .inl (by rwa [hentries] at hentry)
  · exact Nat.le_of_eq (by rw [sentTo, sentTo, hsent])

theorem trans {d'' : Dispatcher} (h : Filling m node d d') (h' : Filling m node d' d'') :
    Filling m node d d'' := by
  refine ⟨?_, Nat.le_trans h.grows h'.grows⟩
  intro id entry hentry hsent
  rcases h'.started id entry hentry hsent with hold | inTime
  · exact h.started id entry hold hsent
  · exact .inr inTime

theorem emit (h : Filling m node d d') (effect : Effect) : Filling m node d (d'.emit effect) :=
  h.trans (.of_eq rfl rfl)

theorem remove {id : Nat} {entry : Entry} (found : d.inFlight.get? id = some entry)
    (away : entry.isSentTo node = false) : Filling m node d (d.remove id).1 := by
  refine ⟨?_, ?_⟩
  · intro other kept hkept _
    rw [remove_inFlight] at hkept
    exact .inl (Assoc.get?_of_erase hkept).2
  · rw [sentTo, sentTo, remove_sentPerNode node found, away]
    exact Nat.le_refl _

theorem insert (d : Dispatcher) (id : Nat) {entry : Entry}
    (inTime : entry.isSentTo node = true → m.now < entry.command.deadline) :
    Filling m node d (d.insert id entry) := by
  refine ⟨?_, ?_⟩
  · intro other kept hkept hsent
    rw [insert_inFlight] at hkept
    by_cases hother : other = id
    · rw [hother, Assoc.get?_put_self] at hkept
      obtain rfl := Option.some.inj hkept
      exact .inr (inTime hsent)
    · rw [Assoc.get?_put_of_ne _ _ hother] at hkept
      exact .inl hkept
  · rw [sentTo, sentTo, insert_sentPerNode node]
    split
    · exact Nat.le_succ _
    · exact Nat.le_refl _

theorem requestRefresh (d : Dispatcher) : Filling m node d d.requestRefresh := by
  unfold Dispatcher.requestRefresh
  split <;> exact .of_eq rfl rfl

theorem park (d : Dispatcher) (command : Command) : Filling m node d (d.park command) := by
  have hlisted : Filling m node d
      { (d.assignId command).1 with parked := d.parked ++ [d.nextId] } := .of_eq rfl rfl
  have hawaits : Entry.isSentTo node ⟨{ command with id := d.nextId }, .awaitingTopology⟩ = true →
      m.now < command.deadline := by
    simp [Entry.isSentTo]
  exact (hlisted.trans (.insert _ d.nextId hawaits)).trans (.requestRefresh _)

theorem backOff (d : Dispatcher) (command : Command) : Filling m node d (d.backOff m command) := by
  have harmed : Filling m node d ((d.assignId command).1.arm (m.resume command) d.nextId) :=
    .of_eq rfl rfl
  have hrests : ∀ due, Entry.isSentTo node ⟨{ command with id := d.nextId }, .backoff due⟩ = true →
      m.now < command.deadline := by
    simp [Entry.isSentTo]
  exact harmed.trans (.insert _ _ (hrests _))

end Filling

theorem Routed.filling {command : Command} {starts : List (Nat × Nat)}
    (h : Routed m d command starts d') : Filling m node d d' := by
  obtain ⟨partition, hsame⟩ := routeOf_fst m command
  cases h with
  | late | unowned => exact .of_eq rfl rfl
  | started inTime =>
      refine (Filling.insert d _ ?_).emit _
      intro _
      rwa [hsame]
  | waiting => exact .insert d _ (by simp [Entry.isSentTo])
  | parked => exact .park d _

/-- While an input sends commands on their way, no attempt at a node ends, and nobody waits there
for nothing. -/
structure Calm (m : Moment) (input : Input) (node : NodeId) (d : Dispatcher) : Prop where
  sends : input = .accept ∨ input = .timers ∨ ∃ result, input = .task (.refreshed result)
  prompt : input = .timers → ∀ id entry, d.inFlight.get? id = some entry →
    entry.isSentTo node = true → m.now < entry.command.deadline
  idle : d.hasCapacity m node = true → d.waitingFor node = []

section

variable {d₀ : Dispatcher} {routes : List Command} {starts : List (Nat × Nat)}

theorem Deal.filling (h : Deal m input d₀ d routes starts d') (hd : Numbered d .empty)
    (hb : Booked m.config d) (hcalm : Calm m input node d) : Filling m node d d' := by
  have hquiet : ∀ {id entry}, ¬Ends (some input) id entry := by
    intro id entry hends
    rcases hcalm.sends with rfl | rfl | ⟨result, rfl⟩ <;> cases hends
  have hbooks := h.books hd hb
  cases h with
  | aside causes move entries queue outbox =>
      refine ⟨fun id entry hentry _ => .inl (by rwa [entries] at hentry), ?_⟩
      exact Nat.le_of_eq (by rw [hb.sentTo_eq, hbooks.2.sentTo_eq, sentCount, sentCount, entries])
  | @accepted _ command rest cause queued =>
      have hassign : Filling m node d ({ d with inbound := rest }.assignId command).1 :=
        .of_eq rfl rfl
      exact hassign.trans (route_routed _ _ _).filling
  | resumed cause found | unparked cause found =>
      exact (Filling.remove found rfl).trans (route_routed _ _ _).filling
  | rested cause found => exact (Filling.remove found rfl).trans (.backOff _ _)
  | refused cause found => exact (Filling.remove found rfl).emit _
  | @expired _ id entry cause found late =>
      refine (Filling.remove found ?_).emit _
      by_contra hsent
      have inTime := hcalm.prompt cause id entry found (by simpa using hsent)
      exact Nat.not_le.mpr inTime late
  | @promoted _ other id rest command named partition first room found =>
      have hput : Filling m node d { d with waiting := d.waiting.put other rest } :=
        .of_eq rfl rfl
      have hremove : Filling m node { d with waiting := d.waiting.put other rest }
          ({ d with waiting := d.waiting.put other rest }.remove id).1 := .remove found rfl
      refine (hput.trans hremove).trans ?_
      unfold dispatch
      split
      · exact .of_eq rfl rfl
      · next inTime =>
          exact (Filling.insert _ _ fun _ => Nat.lt_of_not_le inTime).emit _
  | ended since brings under ends | dismissed since dismisses under ends => exact absurd ends hquiet

theorem Deal.calm (h : Deal m input d₀ d routes starts d') (hd : Numbered d .empty)
    (hb : Booked m.config d) (hcalm : Calm m input node d) : Calm m input node d' := by
  have hfilling := h.filling hd hb hcalm
  refine ⟨hcalm.sends, ?_, ?_⟩
  · intro htimers id entry hentry hsent
    rcases hfilling.started id entry hentry hsent with hold | inTime
    · exact hcalm.prompt htimers id entry hold hsent
    · exact inTime
  · intro hroom
    have hbefore : d.hasCapacity m node = true := by
      have hgrows := hfilling.grows
      simp only [hasCapacity, decide_eq_true_eq] at hroom ⊢
      omega
    obtain ⟨went, -, hshift⟩ := h.shift hd hb node
    have hnone := hcalm.idle hbefore
    generalize d.waitingFor node = queue at hshift hnone
    generalize d'.waitingFor node = queue' at hshift ⊢
    generalize headingFor m node routes = came at hshift
    cases hshift with
    | still | starts => exact hnone
    | joins full => rw [hbefore] at full; cases full
    | next => cases hnone
    | leaves => simp [hnone]

/-- In the calm all keep their order. -/
theorem Deals.in_line_of_calm (h : Deals m input d₀ d routes starts d') (hd : Numbered d .empty)
    (hb : Booked m.config d) (hcalm : Calm m input node d) (hnone : d.setOff node = []) :
    Numbered d' .empty ∧ Booked m.config d' ∧ (d'.setOff node ++ d'.waitingFor node).Sublist
      (d.waitingFor node ++ headingFor m node routes) := by
  have hall := h.induct
    (P := fun d₁ routes _ => Numbered d₁ .empty ∧ Booked m.config d₁ ∧ Calm m input node d₁ ∧
      (d₁.setOff node ++ d₁.waitingFor node).Sublist
        (d.waitingFor node ++ headingFor m node routes))
    ⟨hd, hb, hcalm, by simp [hnone, headingFor]⟩ ?_
  · obtain ⟨hd', hb', -, hline⟩ := hall
    exact ⟨hd', hb', hline⟩
  · rintro d₁ d₂ routes starts routes' starts' hdeal ⟨hd, hb, hcalm, hline⟩
    obtain ⟨hd', hb'⟩ := hdeal.books hd hb
    refine ⟨hd', hb', hdeal.calm hd hb hcalm, ?_⟩
    obtain ⟨went, hsetOff, hshift⟩ := hdeal.shift hd hb node
    have hnew := hshift.in_line hcalm.idle
    rw [hsetOff, headingFor_append, List.append_assoc]
    refine (hnew.append_left _).trans ?_
    rw [← List.append_assoc, ← List.append_assoc]
    exact hline.append_right _

end

/-! ## Whole turns -/

/-- Has an attempt at a node outlived its deadline? -/
def overrun (m : Moment) (d : Dispatcher) (node : NodeId) : Bool :=
  d.inFlight.any fun e => e.2.isSentTo node && decide (e.2.command.deadline ≤ m.now)

/-- The attempts at a node that timers start for commands which they have sent there themselves,
if an attempt there has outlived its deadline. -/
def overtaking (m : Moment) (d : Dispatcher) (node : NodeId) : Input → List Nat
  | .timers =>
    if d.overrun m node then
      ((d.turn m .timers).setOff node).filter (· ∈ headingFor m node (d.routed m .timers))
    else []
  | .accept | .task _ | .node _ | .shutdown => []

theorem sends_of_routed (h : d.routed m input ≠ []) :
    input = .accept ∨ input = .timers ∨ ∃ result, input = .task (.refreshed result) := by
  unfold routed at h
  split at h
  · exact .inl rfl
  · exact .inr (.inl rfl)
  · exact .inr (.inr ⟨_, rfl⟩)
  · exact absurd rfl h

/-- A turn starts in the calm, unless an attempt has outlived its deadline that timers see to. -/
theorem mark_calm (hb : Booked m.config d) (hsettled : Settled m.config d)
    (hsends : input = .accept ∨ input = .timers ∨ ∃ result, input = .task (.refreshed result))
    (hprompt : input = .timers → d.overrun m node = false) :
    Calm m input node (d.mark input) := by
  refine ⟨hsends, ?_, ?_⟩
  · intro htimers id entry hentry hsent
    obtain ⟨old, hold, rfl⟩ := Option.map_eq_some_iff.mp ((mark_get? d input id).symm.trans hentry)
    rw [markEntry_isSentTo] at hsent
    have hnone := List.any_eq_false.mp (hprompt htimers) (id, old) (Assoc.mem_of_get? hold)
    rw [markEntry_command]
    simpa [hsent] using hnone
  · intro hroom
    by_contra hwaiting
    have hfull := hsettled.full hb (show d.waitingFor node ≠ [] from hwaiting)
    have hroom : d.hasCapacity m node = true := hroom
    simp [hasCapacity, hfull] at hroom

/-- But for commands that timers send past it, all that wait or come keep their order. -/
theorem turn_in_line (hd : Numbered d .empty) (hb : Booked m.config d)
    (hsettled : Settled m.config d) (hdone : d.outbox = []) (hinput : input ≠ .shutdown)
    (node : NodeId) :
    (((d.turn m input).setOff node).filter (· ∉ d.overtaking m node input) ++
        (d.turn m input).waitingFor node).Sublist
      (d.waitingFor node ++ headingFor m node (d.routed m input)) := by
  have hd' := mark_numbered hd input
  have hb' := mark_booked hb input
  have hnone : (d.mark input).setOff node = [] := by
    simp [setOff, mark, hdone, attemptsAt]
  obtain ⟨starts, hdeals⟩ := turn_deals (m := m) hd hinput
  by_cases hidle : headingFor m node (d.routed m input) = []
  · have hbefore : ((d.mark input).setOff node ++ (d.mark input).waitingFor node).Sublist
        (d.waitingFor node) := by
      rw [hnone]
      exact List.Sublist.refl _
    have hline := hdeals.in_line_of_none hd' hb' hidle hbefore
    rw [hidle, List.append_nil]
    exact (List.filter_sublist.append_right _).trans hline
  by_cases hlate : input = .timers ∧ d.overrun m node = true
  · obtain ⟨rfl, hlate⟩ := hlate
    have hline := hdeals.but_for_came hd' hb' hnone
    have hsame : ((d.turn m .timers).setOff node).filter (· ∉ d.overtaking m node .timers) =
        ((d.turn m .timers).setOff node).filter
          (· ∉ headingFor m node (d.routed m .timers)) := by
      apply List.filter_congr
      intro id hid
      simp [overtaking, hlate, hid]
    rw [hsame]
    exact hline
  · have hprompt : input = .timers → d.overrun m node = false := by
      intro htimers
      exact (Bool.not_eq_true _).mp fun hover => hlate ⟨htimers, hover⟩
    have hsome : d.routed m input ≠ [] := by
      intro hrouted
      exact hidle (by rw [hrouted]; rfl)
    have hsends := sends_of_routed hsome
    obtain ⟨begun, hact⟩ := act_deals (m := m) hd hinput
    obtain ⟨hdact, hbact, hline⟩ :=
      hact.in_line_of_calm hd' hb' (mark_calm hb hsettled hsends hprompt) hnone
    obtain ⟨more, hpromote⟩ := promoteWaiting_deals (m := m) d input (d.act m input)
    rw [turn_eq d hinput]
    exact (List.filter_sublist.append_right _).trans
      (hpromote.in_line_of_none hdact hbact rfl hline)

end Dispatcher

end ClusterKv

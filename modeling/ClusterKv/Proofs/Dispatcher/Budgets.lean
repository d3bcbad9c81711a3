import ClusterKv.Proofs.Dispatcher.Deals

/-! # Budgets of commands

A command has two budgets: so many retries, and so many refreshes because nobody owns its
partition. What it has used of them says exactly how often it has been attempted, how often it has
been sent on its way, and how often nobody owned its partition. Retries are counted in a word, which
starts anew after the largest number; that number as a limit is none. -/

namespace ClusterKv

/-! ## Retries in words -/

/-- Is there an end to the retries of a command? Not if they may be as many as a word can count. -/
def Config.LimitsRetries (config : Config) : Prop := config.maxRetries.toNat + 1 < UInt32.size

/-- A word stands for so many retries: for the very number, if there is an end to them. -/
structure Config.Counts (config : Config) (word : UInt32) (used : Nat) : Prop where
  word_eq : UInt32.ofNat used = word
  exact : config.LimitsRetries → used = word.toNat

theorem Config.Counts.zero (config : Config) : config.Counts 0 0 := ⟨rfl, fun _ => rfl⟩

/-- Where there is an end to the retries, the word that counts them does not start anew. -/
theorem Config.LimitsRetries.toNat_succ {config : Config} (h : config.LimitsRetries) {word : UInt32}
    (hle : word ≤ config.maxRetries) : (word + 1).toNat = word.toNat + 1 := by
  have hle : word.toNat ≤ config.maxRetries.toNat := hle
  have hsmall : config.maxRetries.toNat + 1 < UInt32.size := h
  rw [UInt32.toNat_add, UInt32.toNat_one, Nat.mod_eq_of_lt (by simp only [UInt32.size] at *; omega)]

theorem Config.Counts.succ {config : Config} {word : UInt32} {used : Nat}
    (h : config.Counts word used) (hle : word ≤ config.maxRetries) :
    config.Counts (word + 1) (used + 1) where
  word_eq := by rw [UInt32.ofNat_add, h.word_eq]; rfl
  exact limited := by rw [limited.toNat_succ hle, h.exact limited]

/-- How often the command of each caller has been attempted, sent on its way, and found without an
owner. -/
structure Tally where
  attempts : Nat → Nat
  routes : Nat → Nat
  misses : Nat → Nat

/-- The tally after some more commands were sent on their way and some more attempts started. -/
def Tally.add (n : Tally) (m : Moment) (routes : List Command) (starts : List (Nat × Nat)) :
    Tally where
  attempts ticket := n.attempts ticket + starts.countP (·.1 = ticket)
  routes ticket := n.routes ticket + routes.countP (·.ticket = ticket)
  misses ticket :=
    n.misses ticket + routes.countP fun c => c.ticket = ticket && Dispatcher.missing m c

@[simp] theorem Tally.add_nil (n : Tally) (m : Moment) : n.add m [] [] = n := rfl

theorem Tally.add_add (n : Tally) (m : Moment) (routes routes' : List Command)
    (starts starts' : List (Nat × Nat)) :
    (n.add m routes starts).add m routes' starts' =
      n.add m (routes ++ routes') (starts ++ starts') := by
  simp [add, Nat.add_assoc]

namespace Dispatcher

variable {m : Moment} {input : Input} {config : Config} {n n' : Tally} {k : Nat}

/-! ## The invariant -/

/-- What a command has used of its budgets pays for what has been done with it, but for one attempt
or one way to a node that it is on now. -/
structure Paid (config : Config) (n : Tally) (command : Command) (used started routed : Nat) :
    Prop where
  counts : config.Counts command.retries used
  attempts : n.attempts command.ticket = used + started
  routes : n.routes command.ticket = used + command.routeRefreshes + routed
  misses : n.misses command.ticket = command.routeRefreshes
  retries_le : command.retries ≤ config.maxRetries
  refreshes_le : command.routeRefreshes ≤ config.maxRouteRefreshes

/-- An entry is paid for: a command that is not at rest is on its way to a node, and an attempt
under way has been started. -/
def Covered (config : Config) (n : Tally) (entry : Entry) : Prop :=
  ∃ used, Paid config n entry.command used (if entry.isSent then 1 else 0)
    (if entry.stage.isRest then 0 else 1)

/-- No command has overdrawn its budgets. -/
structure Bounded (config : Config) (n : Tally) (ticket : Nat) : Prop where
  attempts : config.LimitsRetries → n.attempts ticket ≤ config.maxRetries.toNat + 1
  routes : config.LimitsRetries →
    n.routes ticket ≤ 1 + config.maxRetries.toNat + config.maxRouteRefreshes
  /-- It is sent on its way as often as it is attempted, and as it may ask for refreshes. -/
  spread : n.routes ticket ≤ 1 + n.attempts ticket + config.maxRouteRefreshes
  misses : n.misses ticket ≤ config.maxRouteRefreshes + 1

/-- The books of all commands, of which there are `k`. -/
structure Budgeted (config : Config) (k : Nat) (n : Tally) (d : Dispatcher) : Prop where
  queued : ∀ command ∈ d.inbound,
    Paid config n command 0 0 0 ∧ command.retries = 0 ∧ command.routeRefreshes = 0
  covered : ∀ id entry, d.inFlight.get? id = some entry → Covered config n entry
  bounded : ∀ ticket, Bounded config n ticket
  fresh : ∀ ticket, k ≤ ticket →
    n.attempts ticket = 0 ∧ n.routes ticket = 0 ∧ n.misses ticket = 0

section

variable {command : Command} {used started routed : Nat}

/-- Where there is an end to the retries, no more are used than there are. -/
theorem Paid.used_le (h : Paid config n command used started routed)
    (limited : config.LimitsRetries) : used ≤ config.maxRetries.toNat := by
  rw [h.counts.exact limited]
  exact h.retries_le

/-- One more retry is too many just when all of them are used, if there is an end to them. -/
theorem Paid.exceeds_iff (h : Paid config n command used started routed) :
    config.maxRetries < command.retries + 1 ↔
      config.LimitsRetries ∧ used = config.maxRetries.toNat := by
  constructor
  · intro exceeded
    have exceeded : config.maxRetries.toNat < (command.retries + 1).toNat := exceeded
    have limited : config.LimitsRetries := Nat.lt_of_le_of_lt exceeded (UInt32.toNat_lt_size _)
    have hused := h.used_le limited
    rw [limited.toNat_succ h.retries_le, ← h.counts.exact limited] at exceeded
    exact ⟨limited, by omega⟩
  · rintro ⟨limited, hused⟩
    change config.maxRetries.toNat < (command.retries + 1).toNat
    rw [limited.toNat_succ h.retries_le, ← h.counts.exact limited, hused]
    exact Nat.lt_succ_self _

/-- Whatever is done last with a command that is paid for, it keeps within the bounds. -/
theorem Paid.bounded_of (h : Paid config n' command used started routed)
    (hmore : n.attempts command.ticket = used ∨ n.attempts command.ticket = used + 1)
    (hroutes : n.routes command.ticket ≤ used + command.routeRefreshes + 1)
    (hmisses : n.misses command.ticket ≤ command.routeRefreshes + 1) :
    Bounded config n command.ticket := by
  have hrefreshes := h.refreshes_le
  refine ⟨fun limited => ?_, fun limited => ?_, by omega, by omega⟩
  · have hused := h.used_le limited
    omega
  · have hused := h.used_le limited
    omega

theorem Paid.bounded (h : Paid config n command used started routed) (hstarted : started ≤ 1)
    (hrouted : routed ≤ 1) : Bounded config n command.ticket := by
  have hattempts := h.attempts
  have hroutes := h.routes
  have hmisses := h.misses
  exact h.bounded_of (by omega) (by omega) (by omega)

/-- One more retry pays for the attempt that was under way. -/
theorem Paid.charged {charged : Command} {stage : Stage} (h : Paid config n command used 1 1)
    (left : command.retries + 1 ≤ config.maxRetries) (hticket : charged.ticket = command.ticket)
    (hretries : charged.retries = command.retries + 1)
    (hrefreshes : charged.routeRefreshes = command.routeRefreshes) (hrest : stage.isRest = true) :
    Covered config n ⟨charged, stage⟩ := by
  have hunsent : Entry.isSent ⟨charged, stage⟩ = false := by
    cases stage <;> first | rfl | cases hrest
  refine ⟨used + 1, ?_, ?_, ?_, ?_, ?_, ?_⟩
  · exact hretries ▸ h.counts.succ h.retries_le
  · simp [hunsent, hticket, h.attempts]
  · simp [hrest, hticket, hrefreshes, h.routes, Nat.add_right_comm]
  · rw [hticket, hrefreshes, h.misses]
  · exact hretries ▸ left
  · exact hrefreshes ▸ h.refreshes_le

end

/-! ## Other commands -/

/-- Each command is in one place, and all of them were submitted. -/
structure Orderly (k : Nat) (d : Dispatcher) : Prop where
  numbered : Numbered d .empty
  single : ∀ ticket, places (d, .empty) ticket ≤ 1
  known : Everywhere (·.ticket < k) (d, .empty)

theorem Orderly.moves {d d' : Dispatcher} {cause : Cause} (h : Orderly k d)
    (hmoves : Moves m cause (d, .empty) (d', .empty)) : Orderly k d' := by
  have hkept := Moves.induct hmoves
    (P := fun s => Numbered s.1 s.2 ∧ (∀ ticket, places s ticket ≤ 1) ∧
      Everywhere (·.ticket < k) s) ?_ ⟨h.numbered, h.single, h.known⟩
  · exact ⟨hkept.1, hkept.2.1, hkept.2.2⟩
  · rintro s t hmove ⟨hs, hsingle, hknown⟩
    refine ⟨hmove.numbered hs, ?_, hmove.everywhere ?_ hknown⟩
    · intro ticket
      rw [hmove.places_eq hs ticket]
      exact hsingle ticket
    · intro origin command hsame hlt
      rw [hsame.ticket]
      exact hlt

theorem Deal.orderly {d₀ d d' : Dispatcher} {routes : List Command} {starts : List (Nat × Nat)}
    (h : Deal m input d₀ d routes starts d') (hd : Orderly k d) : Orderly k d' := by
  obtain ⟨cause, -, hmoves⟩ := h.moves
  exact hd.moves hmoves

theorem Orderly.mark {d : Dispatcher} (h : Orderly k d) (input : Input) :
    Orderly k (d.mark input) := by
  refine ⟨mark_numbered h.numbered input, ?_, mark_everywhere h.known input⟩
  intro ticket
  rw [mark_places]
  exact h.single ticket

/-- All that is left once the command of a caller is taken out belongs to others. -/
structure Left (d d₁ : Dispatcher) (ticket : Nat) : Prop where
  queued : ∀ command ∈ d₁.inbound, command ∈ d.inbound ∧ command.ticket ≠ ticket
  underWay : ∀ id entry, d₁.inFlight.get? id = some entry →
    d.inFlight.get? id = some entry ∧ entry.command.ticket ≠ ticket

theorem Orderly.left_of_entry {d d₁ : Dispatcher} {id : Nat} {command : Command} {stage : Stage}
    (h : Orderly k d) (hentry : d.inFlight.get? id = some ⟨command, stage⟩)
    (hentries : d₁.inFlight = d.inFlight.erase id) (hqueue : d₁.inbound = d.inbound) :
    Left d d₁ command.ticket := by
  have hsingle := h.single command.ticket
  simp only [places, queued, underWay, Hand.holding_empty] at hsingle
  rw [(Assoc.perm_cons_erase h.numbered.distinct hentry).countP_eq, List.countP_cons] at hsingle
  simp only [decide_true, ite_true] at hsingle
  refine ⟨?_, ?_⟩
  · intro other hother
    rw [hqueue] at hother
    refine ⟨hother, ?_⟩
    have hnone : d.inbound.countP (·.ticket = command.ticket) = 0 := by omega
    simpa using List.countP_eq_zero.mp hnone other hother
  · intro other entry hother
    rw [hentries] at hother
    have hnone : (d.inFlight.erase id).countP
        (fun e => e.2.command.ticket = command.ticket) = 0 := by omega
    have hmem := Assoc.mem_of_get? hother
    exact ⟨(Assoc.get?_of_erase hother).2, by simpa using List.countP_eq_zero.mp hnone _ hmem⟩

theorem Orderly.left_of_queue {d d₁ : Dispatcher} {command : Command} {rest : List Command}
    (h : Orderly k d) (hqueued : d.inbound = command :: rest) (hentries : d₁.inFlight = d.inFlight)
    (hqueue : d₁.inbound = rest) : Left d d₁ command.ticket := by
  have hsingle := h.single command.ticket
  simp only [places, queued, underWay, Hand.holding_empty, hqueued, List.countP_cons,
    decide_true, ite_true] at hsingle
  refine ⟨?_, ?_⟩
  · intro other hother
    rw [hqueue] at hother
    have hnone : rest.countP (·.ticket = command.ticket) = 0 := by omega
    exact ⟨by simp [hqueued, hother], by simpa using List.countP_eq_zero.mp hnone other hother⟩
  · intro id entry hentry
    rw [hentries] at hentry
    have hnone : d.inFlight.countP (fun e => e.2.command.ticket = command.ticket) = 0 := by omega
    exact ⟨hentry, by simpa using List.countP_eq_zero.mp hnone _ (Assoc.mem_of_get? hentry)⟩

/-! ## Dealing with one command -/

/-- Two tallies agree on everyone but one caller. -/
def Elsewhere (n n' : Tally) (ticket : Nat) : Prop :=
  ∀ other, other ≠ ticket → n'.attempts other = n.attempts other ∧
    n'.routes other = n.routes other ∧ n'.misses other = n.misses other

theorem Elsewhere.refl (n : Tally) (ticket : Nat) : Elsewhere n n ticket :=
  fun _ _ => ⟨rfl, rfl, rfl⟩

theorem elsewhere_add (n : Tally) (m : Moment) {routes : List Command} {starts : List (Nat × Nat)}
    {ticket : Nat} (hroutes : ∀ c ∈ routes, c.ticket = ticket)
    (hstarts : ∀ a ∈ starts, a.1 = ticket) : Elsewhere n (n.add m routes starts) ticket := by
  intro other hother
  have hfirst : starts.countP (·.1 = other) = 0 := by
    refine List.countP_eq_zero.mpr fun a ha => ?_
    simpa [hstarts a ha] using hother.symm
  have hsecond : routes.countP (·.ticket = other) = 0 := by
    refine List.countP_eq_zero.mpr fun c hc => ?_
    simpa [hroutes c hc] using hother.symm
  have hthird : (routes.countP fun c => c.ticket = other && missing m c) = 0 := by
    refine List.countP_eq_zero.mpr fun c hc => ?_
    simp [hroutes c hc, hother.symm]
  simp only [Tally.add, hfirst, hsecond, hthird, Nat.add_zero, and_self]

theorem Paid.congr {command : Command} {used started routed : Nat}
    (h : Paid config n command used started routed) {ticket : Nat} (helse : Elsewhere n n' ticket)
    (hne : command.ticket ≠ ticket) : Paid config n' command used started routed := by
  obtain ⟨hattempts, hroutes, hmisses⟩ := helse _ hne
  exact ⟨h.counts, hattempts.trans h.attempts, hroutes.trans h.routes, hmisses.trans h.misses,
    h.retries_le, h.refreshes_le⟩

theorem Covered.congr {entry : Entry} (h : Covered config n entry) {ticket : Nat}
    (helse : Elsewhere n n' ticket) (hne : entry.command.ticket ≠ ticket) :
    Covered config n' entry :=
  h.imp fun _ hpaid => hpaid.congr helse hne

theorem Covered.bounded {entry : Entry} (h : Covered config n entry) :
    Bounded config n entry.command.ticket := by
  obtain ⟨used, hpaid⟩ := h
  apply hpaid.bounded
  · split <;> omega
  · split <;> omega

namespace Budgeted

variable {d d₁ d' : Dispatcher} {ticket : Nat}

/-- The command of one caller has been dealt with. -/
theorem replace (h : Budgeted config k n d) (hleft : Left d d₁ ticket)
    (helse : Elsewhere n n' ticket) (hknown : ticket < k) (hbounded : Bounded config n' ticket)
    (hqueue : d'.inbound = d₁.inbound)
    (hentries : ∀ id entry, d'.inFlight.get? id = some entry →
      d₁.inFlight.get? id = some entry ∨ Covered config n' entry) : Budgeted config k n' d' := by
  refine ⟨?_, ?_, ?_, ?_⟩
  · intro command hcommand
    rw [hqueue] at hcommand
    obtain ⟨hold, hne⟩ := hleft.queued command hcommand
    obtain ⟨hpaid, hzero⟩ := h.queued command hold
    exact ⟨hpaid.congr helse hne, hzero⟩
  · intro id entry hentry
    rcases hentries id entry hentry with hrest | hnew
    · obtain ⟨hold, hne⟩ := hleft.underWay id entry hrest
      exact (h.covered id entry hold).congr helse hne
    · exact hnew
  · intro other
    by_cases hother : other = ticket
    · rwa [hother]
    · obtain ⟨hattempts, hroutes, hmisses⟩ := helse other hother
      obtain ⟨hfirst, hsecond, hspread, hthird⟩ := h.bounded other
      exact ⟨by rwa [hattempts], by rwa [hroutes], by rwa [hroutes, hattempts], by rwa [hmisses]⟩
  · intro other hother
    obtain ⟨hattempts, hroutes, hmisses⟩ := helse other (by omega)
    rw [hattempts, hroutes, hmisses]
    exact h.fresh other hother

/-- It has been resolved. -/
theorem settle (h : Budgeted config k n d) (hleft : Left d d₁ ticket)
    (helse : Elsewhere n n' ticket) (hknown : ticket < k) (hbounded : Bounded config n' ticket)
    (hentries : d'.inFlight = d₁.inFlight) (hqueue : d'.inbound = d₁.inbound) :
    Budgeted config k n' d' := by
  refine h.replace hleft helse hknown hbounded hqueue ?_
  intro id entry hentry
  exact .inl (by rwa [hentries] at hentry)

/-- It has been put away again. -/
theorem put (h : Budgeted config k n d) (hleft : Left d d₁ ticket)
    (helse : Elsewhere n n' ticket) (hknown : ticket < k) (id : Nat) (entry : Entry)
    (hticket : entry.command.ticket = ticket) (hcovered : Covered config n' entry)
    (hentries : d'.inFlight = d₁.inFlight.put id entry) (hqueue : d'.inbound = d₁.inbound) :
    Budgeted config k n' d' := by
  have hbounded : Bounded config n' ticket := hticket ▸ hcovered.bounded
  refine h.replace hleft helse hknown hbounded hqueue ?_
  intro other otherEntry hother
  rw [hentries] at hother
  by_cases hid : other = id
  · rw [hid, Assoc.get?_put_self] at hother
    rw [← Option.some.inj hother]
    exact .inr hcovered
  · rw [Assoc.get?_put_of_ne _ _ hid] at hother
    exact .inl hother

end Budgeted

/-! ## Putting commands to rest -/

@[simp] theorem park_inFlight (d : Dispatcher) (command : Command) :
    (d.park command).inFlight =
      d.inFlight.put d.nextId ⟨{ command with id := d.nextId }, .awaitingTopology⟩ := by
  simp [park, assignId_eq]

@[simp] theorem park_inbound (d : Dispatcher) (command : Command) :
    (d.park command).inbound = d.inbound := by
  simp [park, assignId_eq]

theorem requestRefresh_outbox (d : Dispatcher) :
    d.requestRefresh.outbox = d.outbox ∨ d.requestRefresh.outbox = .refresh :: d.outbox := by
  unfold requestRefresh
  split
  · exact .inl rfl
  · exact .inr rfl

/-- Parking a command may start a refresh. -/
theorem park_outbox (d : Dispatcher) (command : Command) :
    (d.park command).outbox = d.outbox ∨ (d.park command).outbox = .refresh :: d.outbox := by
  simp only [park, assignId_eq]
  rcases requestRefresh_outbox _ with h | h
  · exact .inl (h.trans (by simp))
  · exact .inr (h.trans (by simp))

@[simp] theorem backOff_outbox (d : Dispatcher) (command : Command) :
    (d.backOff m command).outbox = d.outbox := by
  simp [backOff, assignId_eq]

@[simp] theorem backOff_inFlight (d : Dispatcher) (command : Command) :
    (d.backOff m command).inFlight =
      d.inFlight.put d.nextId
        ⟨{ command with id := d.nextId },
          .backoff (m.resume command)⟩ := by
  simp [backOff, assignId_eq]

@[simp] theorem backOff_inbound (d : Dispatcher) (command : Command) :
    (d.backOff m command).inbound = d.inbound := by
  simp [backOff, assignId_eq]

@[simp] theorem dropped_inFlight (d : Dispatcher) (input : Input) :
    (d.dropped input).inFlight = d.inFlight := by
  rcases dropped_eq d input with h | ⟨node, generation, h⟩ <;> simp [h]

@[simp] theorem dropped_inbound (d : Dispatcher) (input : Input) :
    (d.dropped input).inbound = d.inbound := by
  rcases dropped_eq d input with h | ⟨node, generation, h⟩ <;> simp [h]

/-! ## Deals stay within the budgets -/

section

variable {d d₁ d' : Dispatcher} {command : Command}

theorem missing_of_late (hlate : command.deadline ≤ m.now) : missing m command = false := by
  simp [missing, Nat.not_lt.mpr hlate]

theorem missing_of_ok {route : Route} (hfound : (routeOf m command).2 = .ok route) :
    missing m command = false := by
  simp [missing, hfound, Except.isOk, Except.toBool]

theorem missing_of_error {miss : RoutingError} (inTime : m.now < command.deadline)
    (hmissed : (routeOf m command).2 = .error miss) : missing m command = true := by
  simp [missing, inTime, hmissed, Except.isOk, Except.toBool]

/-- Sending a command on its way costs as it is counted. -/
theorem Routed.budgeted {used : Nat} {starts : List (Nat × Nat)}
    (h : Routed m d₁ command starts d') (hb : Budgeted m.config k n d)
    (hleft : Left d d₁ command.ticket) (hknown : command.ticket < k)
    (hpaid : Paid m.config n command used 0 0) :
    Budgeted m.config k (n.add m [command] starts) d' := by
  obtain ⟨partition, hsame⟩ := routeOf_fst m command
  have ⟨hcounts, hattempts, hroutes, hmisses, hretries, hrefreshes⟩ := hpaid
  have helse : Elsewhere n (n.add m [command] starts) command.ticket := by
    apply elsewhere_add n m (by simp)
    cases h <;> simp
  cases h with
  | late late =>
      refine hb.settle hleft helse hknown (hpaid.bounded_of ?_ ?_ ?_) rfl rfl
      · simp [Tally.add, hattempts]
      · simp [Tally.add, hroutes]
      · simp [Tally.add, hmisses, missing_of_late late]
  | started inTime found =>
      refine hb.put hleft helse hknown _ ⟨(routeOf m command).1, _⟩
        (by rw [hsame]) ⟨used, ?_⟩ (by simp; rfl) (by simp)
      rw [hsame]
      constructor <;>
        simp [Tally.add, missing_of_ok found, Entry.isSent, Stage.isRest, *]
  | waiting inTime found =>
      refine hb.put hleft helse hknown _ ⟨(routeOf m command).1, _⟩
        (by rw [hsame]) ⟨used, ?_⟩ (by simp; rfl) (by simp)
      rw [hsame]
      constructor <;>
        simp [Tally.add, missing_of_ok found, Entry.isSent, Stage.isRest, *]
  | parked inTime missed left =>
      refine hb.put hleft helse hknown _ _ ?_ ⟨used, ?_⟩ (park_inFlight _ _) (by simp)
      · rw [hsame]
      · rw [hsame]
        have hmissed := missing_of_error inTime missed
        refine ⟨hcounts, ?_, ?_, ?_, hretries, left⟩
        · simp [Tally.add, hattempts, Entry.isSent]
        · simp [Tally.add, hroutes, Stage.isRest, Nat.add_assoc]
        · simp [Tally.add, hmisses, hmissed]
  | unowned inTime missed reached =>
      refine hb.settle hleft helse hknown (hpaid.bounded_of ?_ ?_ ?_) rfl rfl
      · simp [Tally.add, hattempts]
      · simp [Tally.add, hroutes]
      · simp [Tally.add, hmisses, missing_of_error inTime missed]

/-- What an attempt has come to costs nothing more than was counted when it was started. -/
theorem Applied.budgeted {outcome : Outcome} {used : Nat} (h : Applied m d₁ command outcome d')
    (hb : Budgeted m.config k n d) (hleft : Left d d₁ command.ticket)
    (hknown : command.ticket < k) (hpaid : Paid m.config n command used 1 1) :
    Budgeted m.config k n d' := by
  have helse := Elsewhere.refl n command.ticket
  cases h with
  | late | success | definitive | misdirected | exhausted =>
      exact hb.settle hleft helse hknown (hb.bounded _) rfl rfl
  | parked inTime setback left =>
      refine hb.put hleft helse hknown _ _ ?_ ?_ (park_inFlight _ _) (by simp)
      · rfl
      · exact hpaid.charged left rfl rfl rfl rfl
  | paused inTime setback left =>
      refine hb.put hleft helse hknown _ _ ?_ ?_ (backOff_inFlight _ _) (by simp)
      · rfl
      · exact hpaid.charged left rfl rfl rfl rfl

theorem Deal.budgeted {d₀ : Dispatcher} {routes : List Command} {starts : List (Nat × Nat)}
    (h : Deal m input d₀ d routes starts d') (hd : Orderly k d) (hb : Budgeted m.config k n d) :
    Budgeted m.config k (n.add m routes starts) d' := by
  cases h with
  | aside causes move entries queue outbox =>
      refine ⟨?_, ?_, hb.bounded, hb.fresh⟩
      · rw [queue]
        exact hb.queued
      · rw [entries]
        exact hb.covered
  | @accepted _ command rest cause queued =>
      have hmem : command ∈ d.inbound := by simp [queued]
      have hleft : Left d ({ d with inbound := rest }.assignId command).1 command.ticket :=
        hd.left_of_queue queued rfl rfl
      obtain ⟨hpaid, -⟩ := hb.queued command hmem
      exact (route_routed _ _ _).budgeted hb hleft (hd.known.queued command hmem)
        ⟨hpaid.counts, hpaid.attempts, hpaid.routes, hpaid.misses, hpaid.retries_le,
          hpaid.refreshes_le⟩
  | resumed cause found reached =>
      obtain ⟨used, hpaid⟩ := hb.covered _ _ found
      exact (route_routed _ _ _).budgeted hb (hd.left_of_entry found (by simp) (by simp))
        (hd.known.underWay _ _ found) hpaid
  | unparked cause found taken =>
      obtain ⟨used, hpaid⟩ := hb.covered _ _ found
      exact (route_routed _ _ _).budgeted hb (hd.left_of_entry found (by simp) (by simp))
        (hd.known.underWay _ _ found) hpaid
  | rested cause found taken =>
      obtain ⟨used, hpaid⟩ := hb.covered _ _ found
      refine hb.put (hd.left_of_entry found (by simp) (by simp)) (.refl _ _)
        (hd.known.underWay _ _ found) _ _ ?_ ?_ (backOff_inFlight _ _) (by simp)
      · rfl
      · exact ⟨used, hpaid.counts, hpaid.attempts, hpaid.routes, hpaid.misses, hpaid.retries_le,
          hpaid.refreshes_le⟩
  | @refused _ id command _ cause found taken =>
      have hleft : Left d (d.remove id).1 command.ticket :=
        hd.left_of_entry found (by simp) (by simp)
      exact hb.settle hleft (.refl _ _) (hd.known.underWay _ _ found) (hb.bounded _) rfl rfl
  | @expired _ id entry cause found late =>
      have hleft : Left d (d.remove id).1 entry.command.ticket :=
        hd.left_of_entry found (by simp) (by simp)
      exact hb.settle hleft (.refl _ _) (hd.known.underWay _ _ found) (hb.bounded _) rfl rfl
  | @promoted _ node id rest command other partition first room found =>
      have hleft : Left d ({ d with waiting := d.waiting.put node rest }.remove id).1
          command.ticket := hd.left_of_entry found (by simp) (by simp)
      have hknown : command.ticket < k := hd.known.underWay _ _ found
      have hcovered : Covered m.config n ⟨command, .waiting other partition⟩ := hb.covered _ _ found
      obtain ⟨used, hcounts, hattempts, hroutes, hmisses, hretries, hrefreshes⟩ := hcovered
      unfold dispatch
      split
      · exact hb.settle hleft (.refl _ _) hknown (hb.bounded _) rfl rfl
      · refine hb.put hleft (elsewhere_add n m (by simp) (by simp)) hknown _
          ⟨command, .sent node partition none []⟩ rfl ⟨used, ?_⟩ (by simp; rfl) (by simp)
        constructor <;> simp [Tally.add, Entry.isSent, Stage.isRest, *]
  | @ended _ id entry outcome _ _ _ _ since brings under ends =>
      have hleft : Left d ((d.remove id).1.dropped input) entry.command.ticket :=
        hd.left_of_entry under (by simp) (by simp)
      have hknown := hd.known.underWay _ _ under
      obtain ⟨used, hpaid⟩ := hb.covered _ _ under
      exact (apply_applied _ _ _ _).budgeted hb hleft hknown hpaid
  | @dismissed _ id entry error _ _ _ _ since dismisses under ends =>
      have hleft : Left d ((d.remove id).1.dropped input) entry.command.ticket :=
        hd.left_of_entry under (by simp) (by simp)
      have hknown := hd.known.underWay _ _ under
      exact hb.settle hleft (.refl _ _) hknown (hb.bounded _) rfl rfl

/-- Notes cost nothing. -/
theorem Budgeted.mark (h : Budgeted config k n d) (input : Input) :
    Budgeted config k n (d.mark input) := by
  refine ⟨h.queued, ?_, h.bounded, h.fresh⟩
  intro id entry hentry
  rw [mark_get?] at hentry
  obtain ⟨old, hold, rfl⟩ := Option.map_eq_some_iff.mp hentry
  have hcovered := h.covered id old hold
  obtain ⟨command, stage⟩ := old
  cases stage <;> exact hcovered

/-- What every deal keeps within the budgets, all deals of a turn keep. -/
theorem Deals.budgeted {Q : Dispatcher → List Command → List (Nat × Nat) → Prop}
    {d₀ : Dispatcher} {routes : List Command} {starts : List (Nat × Nat)}
    (h : Deals m input d₀ d routes starts d') (hd : Orderly k d) (hb : Budgeted m.config k n d)
    (hstart : Q d [] [])
    (hstep : ∀ d d' routes starts routes' starts', Deal m input d₀ d routes' starts' d' →
      Budgeted m.config k (n.add m routes starts) d → Q d routes starts →
        Q d' (routes ++ routes') (starts ++ starts')) :
    Budgeted m.config k (n.add m routes starts) d' ∧ Q d' routes starts := by
  have hall := h.induct
    (P := fun d routes starts => Orderly k d ∧ Budgeted m.config k (n.add m routes starts) d ∧
      Q d routes starts) ⟨hd, hb, hstart⟩ ?_
  · exact hall.2
  · rintro d d' routes starts routes' starts' hdeal ⟨hd, hb, hq⟩
    refine ⟨hdeal.orderly hd, ?_, hstep _ _ _ _ _ _ hdeal hb hq⟩
    rw [← Tally.add_add]
    exact hdeal.budgeted hd hb

end

end Dispatcher

end ClusterKv

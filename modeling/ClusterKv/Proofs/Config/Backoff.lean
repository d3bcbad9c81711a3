import ClusterKv.Config.Words
import ClusterKv.Proofs.Config.Files
import ClusterKv.Proofs.Dispatcher.Timers
import Mathlib.Algebra.Order.Group.Nat

/-! # Pauses before retries

The pause before a retry is a power of two times the shortest pause, or the longest pause. Machine
words give that very length for every attempt and every configuration, though shifts are bounded and
products may not fit. -/

namespace ClusterKv

namespace Span

/-! ## Words stand for lengths of time -/

theorem toDuration_ofDuration (d : Duration) : (ofDuration d).toDuration = d := by
  obtain ⟨nanos, hnanos⟩ := d
  have hseconds : nanos / Duration.perSecond < UInt64.size :=
    Nat.div_lt_of_lt_mul (by rwa [Nat.mul_comm])
  have hrest : nanos % Duration.perSecond < UInt32.size :=
    Nat.lt_trans (Nat.mod_lt _ (by decide)) (by decide)
  simp only [toDuration, ofDuration, UInt64.toNat_ofNat_of_lt' hseconds,
    UInt32.toNat_ofNat_of_lt' hrest, Duration.mk.injEq]
  exact Nat.div_add_mod' _ _

theorem nanos_toDuration (s : Span) :
    s.toDuration.nanos = s.seconds.toNat * Duration.perSecond + s.nanos.toNat := rfl

/-- Nothing is lost when seconds are carried. -/
theorem carry_total (nanos factor : UInt32) :
    (carry nanos factor).1.toNat * Duration.perSecond + (carry nanos factor).2.toNat =
      nanos.toNat * factor.toNat := by
  -- The product of two words of 32 bits fits into 64.
  have hfits : nanos.toNat * factor.toNat < 2 ^ 64 :=
    Nat.lt_of_lt_of_le (Nat.mul_lt_mul'' nanos.toNat_lt factor.toNat_lt) (by decide)
  have htotal : (nanos.toUInt64 * factor.toUInt64).toNat = nanos.toNat * factor.toNat := by
    rw [UInt64.toNat_mul, UInt32.toNat_toUInt64, UInt32.toNat_toUInt64, Nat.mod_eq_of_lt hfits]
  have hrest : nanos.toNat * factor.toNat % 1000000000 < 2 ^ 32 :=
    Nat.lt_trans (Nat.mod_lt _ (by decide)) (by decide)
  have hbillion : (1000000000 : UInt64).toNat = Duration.perSecond := rfl
  simp only [carry, UInt64.toNat_div, UInt64.toNat_toUInt32, UInt64.toNat_mod, htotal, hbillion,
    Nat.mod_eq_of_lt hrest]
  exact Nat.div_add_mod' _ _

/-- A multiple fits if its seconds do, with those that are carried. -/
theorem times?_eq (s : Span) (factor : UInt32) :
    s.times? factor =
      if s.seconds.toNat * factor.toNat + (carry s.nanos factor).1.toNat < UInt64.size then
        some ⟨s.seconds * factor.toUInt64 + (carry s.nanos factor).1, (carry s.nanos factor).2,
          carry_lt s.nanos factor⟩
      else none := by
  unfold times? checkedMul checkedAdd
  rw [UInt32.toNat_toUInt64]
  by_cases hproduct : s.seconds.toNat * factor.toNat < UInt64.size
  · have hexact : (s.seconds * factor.toUInt64).toNat = s.seconds.toNat * factor.toNat := by
      rw [UInt64.toNat_mul, UInt32.toNat_toUInt64, Nat.mod_eq_of_lt hproduct]
    simp only [if_pos hproduct, Option.bind_eq_bind, Option.bind_some, hexact]
    split <;> rfl
  · have hsum : ¬s.seconds.toNat * factor.toNat + (carry s.nanos factor).1.toNat < UInt64.size := by
      omega
    rw [if_neg hproduct, if_neg hsum]
    rfl

theorem toDuration_times (s : Span) (factor : UInt32) :
    (s.times factor).toDuration = s.toDuration.times factor.toNat := by
  have hcarry := carry_total s.nanos factor
  have hrest := carry_lt s.nanos factor
  -- What the multiple comes to if nothing bounds it.
  have hproduct : s.toDuration.nanos * factor.toNat =
      (s.seconds.toNat * factor.toNat + (carry s.nanos factor).1.toNat) * Duration.perSecond +
        (carry s.nanos factor).2.toNat := by
    rw [nanos_toDuration, Nat.add_mul, Nat.add_mul, ← hcarry, Nat.mul_right_comm, Nat.add_assoc]
  have hnanos : ∀ a b : Duration, a.nanos = b.nanos → a = b := by
    rintro ⟨a, _⟩ ⟨b, _⟩ rfl
    rfl
  apply hnanos
  rw [Duration.nanos_times, hproduct, times, times?_eq]
  split
  · next hfits =>
      have hseconds : (s.seconds * factor.toUInt64 + (carry s.nanos factor).1).toNat =
          s.seconds.toNat * factor.toNat + (carry s.nanos factor).1.toNat := by
        rw [UInt64.toNat_add, UInt64.toNat_mul, UInt32.toNat_toUInt64, Nat.mod_add_mod,
          Nat.mod_eq_of_lt hfits]
      rw [Option.getD_some, nanos_toDuration, hseconds, Nat.min_eq_left]
      simp only [Duration.perSecond, UInt64.size] at *
      omega
  · next hover =>
      have hlongest : longest.toDuration.nanos = UInt64.size * Duration.perSecond - 1 := by
        decide
      rw [Option.getD_none, hlongest, Nat.min_eq_right]
      simp only [Duration.perSecond, UInt64.size] at *
      omega

theorem toDuration_shorter (a b : Span) :
    (a.shorter b).toDuration = a.toDuration.shorter b.toDuration := by
  have ha := a.nanos_lt
  have hb := b.nanos_lt
  have hle : (a.seconds < b.seconds ∨ (a.seconds = b.seconds ∧ a.nanos ≤ b.nanos)) ↔
      a.toDuration.nanos ≤ b.toDuration.nanos := by
    rw [UInt64.lt_iff_toNat_lt, ← UInt64.toNat_inj, UInt32.le_iff_toNat_le, nanos_toDuration,
      nanos_toDuration]
    simp only [Duration.perSecond] at *
    omega
  simp only [shorter, Duration.shorter, hle]
  split <;> rfl

end Span

namespace Config

/-! ## The pause in words -/

/-- By no more than 16 bits a word is never shifted too far. -/
theorem toNat_backoffFactor (attempt : UInt32) :
    (backoffFactor attempt).toNat = 2 ^ min attempt.toNat 16 := by
  have hplaces : (min attempt 16).toNat = min attempt.toNat 16 := by
    have hmin : min attempt 16 = if attempt ≤ 16 then attempt else 16 := rfl
    rw [hmin]
    split
    · next hsmall => exact (Nat.min_eq_left hsmall).symm
    · next hlarge =>
        have hlarge : ¬attempt.toNat ≤ 16 := hlarge
        rw [Nat.min_eq_right (by omega)]
        rfl
  have hinside : min attempt.toNat 16 < 32 := by omega
  have hpower : 2 ^ min attempt.toNat 16 < 2 ^ 32 := Nat.pow_lt_pow_right (by decide) hinside
  rw [backoffFactor, checkedShift, hplaces, if_pos hinside, Option.getD_some,
    UInt32.toNat_shiftLeft, hplaces, Nat.mod_eq_of_lt hinside, UInt32.toNat_one, Nat.one_shiftLeft,
    Nat.mod_eq_of_lt hpower]

theorem toDuration_backoffInWords (config : Config) (attempt : UInt32) :
    (config.backoffInWords attempt).toDuration = config.backoff attempt.toNat := by
  rw [backoffInWords, Span.toDuration_shorter, Span.toDuration_times, Span.toDuration_ofDuration,
    Span.toDuration_ofDuration, toNat_backoffFactor, backoff, Nat.one_shiftLeft]

theorem nanos_backoff (config : Config) (attempt : Nat) :
    (config.backoff attempt).nanos =
      min (config.backoffBase.nanos * 2 ^ min attempt 16) config.backoffMax.nanos := by
  have hmax := config.backoffMax.nanos_lt
  rw [backoff, Duration.nanos_shorter, Duration.nanos_times, Nat.one_shiftLeft]
  simp only [Duration.perSecond] at *
  omega

/-! ## Configurations that break no rule -/

theorem backoff_ordered {config : Config} (h : config.fault? = none) :
    config.backoffBase.nanos ≤ config.backoffMax.nanos := by
  by_contra hover
  have hover : config.backoffBase.nanos > config.backoffMax.nanos := Nat.lt_of_not_le hover
  simp only [fault?, if_pos hover] at h
  split at h
  · cases h
  split at h
  · cases h
  split at h
  · cases h
  split at h
  · cases h
  · cases h

/-- What is known of the pauses before retries. -/
structure Pauses (config : Config) : Prop where
  /-- Words come to the exact length, whatever would not fit on the way. -/
  exact : ∀ attempt : UInt32, (config.backoffInWords attempt).toDuration.nanos =
    min (config.backoffBase.nanos * 2 ^ min attempt.toNat 16) config.backoffMax.nanos
  /-- The client pauses for as long as the words say. -/
  agree : ∀ attempt : UInt32,
    (config.backoffInWords attempt).toDuration = config.backoff attempt.toNat
  least : ∀ attempt, config.backoffBase.nanos ≤ (config.backoff attempt).nanos
  most : ∀ attempt, (config.backoff attempt).nanos ≤ config.backoffMax.nanos
  rise : ∀ attempt later, attempt ≤ later →
    (config.backoff attempt).nanos ≤ (config.backoff later).nanos

theorem pauses_of_fault? {config : Config} (h : config.fault? = none) : Pauses config where
  exact attempt := by rw [toDuration_backoffInWords, nanos_backoff]
  agree := toDuration_backoffInWords config
  least attempt := by
    rw [nanos_backoff]
    exact Nat.le_min.mpr ⟨Nat.le_mul_of_pos_right _ (Nat.two_pow_pos _), backoff_ordered h⟩
  most attempt := by
    rw [nanos_backoff]
    exact Nat.min_le_right _ _
  rise attempt later hlater := by
    have hpower : 2 ^ min attempt 16 ≤ 2 ^ min later 16 :=
      Nat.pow_le_pow_right (by decide) (by omega)
    have hproduct := Nat.mul_le_mul_left config.backoffBase.nanos hpower
    rw [nanos_backoff, nanos_backoff]
    omega

end Config

namespace Dispatcher

/-- A command pauses under its next number until some time, which is neither past nor after its
deadline, and a timer is armed for that time. -/
structure Paused (m : Moment) (d : Dispatcher) (command : Command) (resume : Instant) : Prop where
  entry : (d.backOff m command).inFlight.get? d.nextId =
    some ⟨{ command with id := d.nextId }, .backoff resume⟩
  timer : (resume, d.nextId) ∈ (d.backOff m command).timers
  begun : m.now ≤ resume
  inTime : resume ≤ command.deadline

theorem backOff_paused {m : Moment} (d : Dispatcher) {command : Command} {resume : Instant}
    (h : m.now < command.deadline) (hresume : m.resume? command = some resume) :
    Paused m d command resume := by
  have hends : m.resume command = resume := by rw [Moment.resume, hresume, Option.getD_some]
  obtain ⟨later, hlater, rfl⟩ := Option.map_eq_some_iff.mp hresume
  obtain ⟨-, rfl⟩ := Instant.plus?_eq_some_iff.mp hlater
  refine ⟨?_, ?_, Nat.le_min.mpr ⟨Nat.le_add_right _ _, Nat.le_of_lt h⟩, Nat.min_le_right _ _⟩
  · rw [← hends]
    simp [backOff, assignId]
  · rw [← hends, backOff, insert_timers]
    exact (insertTimer_perm _ _).symm.subset List.mem_cons_self

/-- What becomes of a command that is to pause before its deadline. The clock has to show the end of
the time set for the pause, though the deadline comes first; if it does not, the program stops. -/
structure Pausing (m : Moment) (d : Dispatcher) (command : Command) (delay : Nat) : Prop where
  stops : m.resume? command = none ↔ Instant.limit ≤ m.now + delay
  goesOn : ∀ resume, m.resume? command = some resume →
    resume = min (m.now + delay) command.deadline ∧ Paused m d command resume

theorem backOff_pausing {m : Moment} (d : Dispatcher) {command : Command}
    (h : m.now < command.deadline) :
    Pausing m d command (m.config.backoff (command.retries.toNat - 1)).nanos where
  stops := by rw [Moment.resume?, Option.map_eq_none_iff, Instant.plus?_eq_none_iff]
  goesOn resume hresume := by
    refine ⟨?_, backOff_paused d h hresume⟩
    obtain ⟨later, hlater, rfl⟩ := Option.map_eq_some_iff.mp hresume
    rw [(Instant.plus?_eq_some_iff.mp hlater).2]

/-- The clock goes as far as the shortest pause, but not as far as twice that. -/
def quarterEternity : Config := { backoffBase := .ofSeconds (2 ^ 62), backoffMax := .longest }

/-- A command with two seconds to go, and so many retries. -/
def pausingCommand (retries : UInt32) : Command :=
  { Command.create 0 .flushAll .key (.ofSeconds 2) 3 with retries }

end Dispatcher

end ClusterKv

import ClusterKv.Config.Basic

/-! The pause before a retry as it is worked out in machine words. A length of time is one word of
whole seconds and one of the nanoseconds on top of them; shifts, products and sums that do not fit
are noticed, and the longest length of time stands in for them. -/

namespace ClusterKv

/-- A product, if it fits. -/
def checkedMul (a b : UInt64) : Option UInt64 :=
  if a.toNat * b.toNat < UInt64.size then some (a * b) else none

/-- A sum, if it fits. -/
def checkedAdd (a b : UInt64) : Option UInt64 :=
  if a.toNat + b.toNat < UInt64.size then some (a + b) else none

/-- A word shifted to the left, unless by as many bits as it has. -/
def checkedShift (a places : UInt32) : Option UInt32 :=
  if places.toNat < 32 then some (a <<< places) else none

/-- A length of time in words. -/
structure Span where
  seconds : UInt64
  nanos : UInt32
  nanos_lt : nanos.toNat < Duration.perSecond := by decide
deriving DecidableEq

namespace Span

def longest : Span := { seconds := UInt64.ofNat (UInt64.size - 1), nanos := 999999999 }

def ofDuration (d : Duration) : Span where
  seconds := UInt64.ofNat (d.nanos / Duration.perSecond)
  nanos := UInt32.ofNat (d.nanos % Duration.perSecond)
  nanos_lt := by
    have hlt : d.nanos % Duration.perSecond < Duration.perSecond := Nat.mod_lt _ (by decide)
    rwa [UInt32.toNat_ofNat_of_lt' (Nat.lt_trans hlt (by decide))]

def toDuration (s : Span) : Duration where
  nanos := s.seconds.toNat * Duration.perSecond + s.nanos.toNat
  nanos_lt := by
    have hseconds := s.seconds.toNat_lt
    have hnanos := s.nanos_lt
    simp only [Duration.perSecond, UInt64.size] at *
    omega

/-- The nanoseconds of a multiple, as seconds to carry and the rest. -/
def carry (nanos factor : UInt32) : UInt64 × UInt32 :=
  let total := nanos.toUInt64 * factor.toUInt64
  (total / 1000000000, (total % 1000000000).toUInt32)

theorem carry_lt (nanos factor : UInt32) : (carry nanos factor).2.toNat < Duration.perSecond := by
  simp only [carry, UInt64.toNat_toUInt32, UInt64.toNat_mod]
  exact Nat.lt_of_le_of_lt (Nat.mod_le _ _) (Nat.mod_lt _ (by decide))

/-- A multiple, if it fits. -/
def times? (s : Span) (factor : UInt32) : Option Span := do
  let product ← checkedMul s.seconds factor.toUInt64
  let seconds ← checkedAdd product (carry s.nanos factor).1
  return ⟨seconds, (carry s.nanos factor).2, carry_lt s.nanos factor⟩

/-- A multiple, held at the longest length of time. -/
def times (s : Span) (factor : UInt32) : Span := (s.times? factor).getD longest

/-- The shorter of two lengths: seconds count first. -/
def shorter (a b : Span) : Span :=
  if a.seconds < b.seconds ∨ (a.seconds = b.seconds ∧ a.nanos ≤ b.nanos) then a else b

end Span

namespace Config

/-- How often the shortest pause fits into the one before a retry, but for the longest pause. -/
def backoffFactor (attempt : UInt32) : UInt32 :=
  (checkedShift 1 (min attempt 16)).getD (UInt32.ofNat (UInt32.size - 1))

/-- The pause before a retry, in words. -/
def backoffInWords (config : Config) (attempt : UInt32) : Span :=
  ((Span.ofDuration config.backoffBase).times (backoffFactor attempt)).shorter
    (Span.ofDuration config.backoffMax)

end Config

end ClusterKv

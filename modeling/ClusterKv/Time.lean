/-! Points and lengths of time. Clocks count nanoseconds from their start; a length of time is
bounded by what 64 bits of seconds can hold. -/

namespace ClusterKv

/-- A point on the clock, in nanoseconds since it started. Sums are taken as if the clock had no
end; `Instant.plus?` says which of them it can show. -/
abbrev Instant := Nat

/-- A length of time of at most `2 ^ 64 - 1` seconds and a fraction. -/
structure Duration where
  nanos : Nat
  nanos_lt : nanos < UInt64.size * 1000000000 := by decide
deriving DecidableEq, Repr

namespace Duration

/-- The nanoseconds in one second. -/
abbrev perSecond : Nat := 1000000000

/-- The nanoseconds in one millisecond. -/
abbrev perMilli : Nat := 1000000

/-- The longest length of time. -/
def longest : Duration := { nanos := UInt64.size * perSecond - 1 }

/-- As many nanoseconds as fit. -/
def ofNanos (n : Nat) : Duration where
  nanos := min n (UInt64.size * perSecond - 1)
  nanos_lt := Nat.lt_of_le_of_lt (Nat.min_le_right _ _) (by decide)

/-- As many milliseconds as fit. -/
def ofMillis (n : Nat) : Duration := ofNanos (n * perMilli)

/-- As many seconds as fit. -/
def ofSeconds (n : Nat) : Duration := ofNanos (n * perSecond)

def zero : Duration := ofNanos 0

instance : Inhabited Duration := ⟨zero⟩

/-- Whole milliseconds, the rest dropped. -/
def toMillis (d : Duration) : Nat := d.nanos / perMilli

/-- Whole seconds, the rest dropped. -/
def toSeconds (d : Duration) : Nat := d.nanos / perSecond

/-- A multiple, held at the longest length of time. -/
def times (d : Duration) (k : Nat) : Duration := ofNanos (d.nanos * k)

/-- The shorter of two lengths. -/
def shorter (a b : Duration) : Duration := if a.nanos ≤ b.nanos then a else b

@[simp] theorem nanos_ofNanos (n : Nat) :
    (ofNanos n).nanos = min n (UInt64.size * perSecond - 1) := rfl

@[simp] theorem nanos_times (d : Duration) (k : Nat) :
    (d.times k).nanos = min (d.nanos * k) (UInt64.size * perSecond - 1) := rfl

@[simp] theorem nanos_shorter (a b : Duration) : (a.shorter b).nanos = min a.nanos b.nanos := by
  unfold shorter
  split <;> omega

/-- The digits of `part / whole` after the point, for a power of ten `whole`; trailing zeros are
left out, and so is the point when nothing follows it. -/
private def fraction (whole part : Nat) : String :=
  if part = 0 then "" else
    let padded := Nat.toDigits 10 (whole + part)
    "." ++ String.ofList ((padded.drop 1).reverse.dropWhile (· == '0')).reverse

/-- A length of time in its largest unit that is not zero: `2.5s`, `80ms`, `1µs`, `0ns`. -/
def text (d : Duration) : String :=
  let s := d.nanos / perSecond
  let n := d.nanos % perSecond
  if s > 0 then toString s ++ fraction perSecond n ++ "s"
  else if n ≥ perMilli then toString (n / perMilli) ++ fraction perMilli (n % perMilli) ++ "ms"
  else if n ≥ 1000 then toString (n / 1000) ++ fraction 1000 (n % 1000) ++ "µs"
  else toString n ++ "ns"

end Duration

namespace Instant

/-- The first point that the clock cannot show: it counts its seconds in 63 bits. -/
def limit : Instant := UInt64.size / 2 * Duration.perSecond

/-- The point after some time, if the clock can show it. A program that asks for any other stops. -/
def plus? (t : Instant) (d : Duration) : Option Instant :=
  if t + d.nanos < limit then some (t + d.nanos) else none

theorem plus?_eq_some_iff {t u : Instant} {d : Duration} :
    t.plus? d = some u ↔ t + d.nanos < limit ∧ u = t + d.nanos := by
  unfold plus?
  split
  · next hfits => simp [hfits, eq_comm]
  · next hover => simp [hover]

theorem plus?_eq_none_iff {t : Instant} {d : Duration} :
    t.plus? d = none ↔ limit ≤ t + d.nanos := by
  simp [plus?]

end Instant

end ClusterKv

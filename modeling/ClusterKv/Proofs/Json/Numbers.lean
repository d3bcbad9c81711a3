import ClusterKv.Json.Number
import Mathlib.Algebra.Order.Group.Nat

/-! # Whole numbers in JSON

Every whole number within 64 bits is read back from its decimal digits. -/

namespace ClusterKv.Json

/-- A value is over here: the text ends, or it goes on with what may come after a value. -/
def Closed (rest : List Char) : Prop := ∀ c ∈ rest.head?, c = ',' ∨ c = ']' ∨ c = '\x7d'

theorem closed_nil : Closed [] := nofun

theorem closed_cons {c : Char} (h : c = ',' ∨ c = ']' ∨ c = '\x7d') (rest : List Char) :
    Closed (c :: rest) := by
  intro c' hc'
  cases hc'
  exact h

theorem digit?_digitChar {d : Nat} (h : d < 10) : digit? (Nat.digitChar d) = some d := by
  have all : ∀ d < 10, digit? (Nat.digitChar d) = some d := by decide
  exact all d h

namespace Number

variable {n : Nat} {rest : List Char}

theorem afterWhole_closed (positive : Bool) (n : Nat) (h : Closed rest) :
    afterWhole positive n rest = .ok (signed positive n, rest) := by
  cases rest with
  | nil => rfl
  | cons c rest => rcases h c rfl with rfl | rfl | rfl <;> rfl

theorem wholeDigits_closed (positive : Bool) (n : Nat) (h : Closed rest) :
    wholeDigits positive n rest = .ok (signed positive n, rest) := by
  cases rest with
  | nil => rfl
  | cons c rest =>
      have hdigit : digit? c = none := by rcases h c rfl with rfl | rfl | rfl <;> rfl
      rw [wholeDigits, hdigit]
      exact afterWhole_closed positive n h

theorem unsigned_zero (positive : Bool) (h : Closed rest) :
    unsigned positive ('0' :: rest) = .ok (signed positive 0, rest) := by
  cases rest with
  | nil => rfl
  | cons c rest =>
      have hdigit : digit? c = none := by rcases h c rfl with rfl | rfl | rfl <;> rfl
      simp only [unsigned, hdigit, Option.isSome_none, Bool.false_eq_true, if_false]
      exact afterWhole_closed positive 0 h

/-- The digits of a number other than zero are gathered, whatever follows them. -/
theorem unsigned_digits (positive : Bool) (hpos : 0 < n) (hmost : n ≤ maxSignificand)
    (rest : List Char) :
    unsigned positive (Nat.toDigits 10 n ++ rest) = wholeDigits positive n rest := by
  induction n using Nat.strongRecOn generalizing rest with
  | ind n ih =>
      by_cases hone : n < 10
      · have hzero : Nat.digitChar n ≠ '0' := by
          rw [ne_eq, Nat.digitChar_eq_zero]
          omega
        rw [Nat.toDigits_of_lt_base hone, List.singleton_append]
        unfold unsigned
        split
        · next h => cases h
        · next h => exact absurd (List.cons.inj h).1 hzero
        · next h =>
            cases h
            simp only [digit?_digitChar hone]
      · have hlast : digit? (Nat.digitChar (n % 10)) = some (n % 10) :=
          digit?_digitChar (Nat.mod_lt n (by decide))
        have hwhole : n / 10 * 10 + n % 10 = n := by omega
        rw [Nat.toDigits_of_base_le (by decide) (by omega), List.append_assoc,
          ih (n / 10) (by omega) (by omega) (by omega), List.singleton_append, wholeDigits, hlast]
        simp only [hwhole, if_neg (Nat.not_lt.mpr hmost)]

/-- A number is read back from its digits. -/
theorem unsigned_toDigits (positive : Bool) (hmost : n ≤ maxSignificand) (h : Closed rest) :
    unsigned positive (Nat.toDigits 10 n ++ rest) = .ok (signed positive n, rest) := by
  rcases Nat.eq_zero_or_pos n with rfl | hpos
  · rw [Nat.toDigits_zero]
    exact unsigned_zero positive h
  · rw [unsigned_digits positive hpos hmost, wholeDigits_closed positive n h]

/-- Digits begin with a digit. -/
theorem toDigits_eq_cons (n : Nat) :
    ∃ c more, Nat.toDigits 10 n = c :: more ∧ (digit? c).isSome = true := by
  cases hdigits : Nat.toDigits 10 n with
  | nil => exact absurd hdigits Nat.toDigits_ne_nil
  | cons c more =>
      have hc : c.isDigit = true :=
        Nat.isDigit_of_mem_toDigits (by decide) (by decide) (hdigits ▸ List.mem_cons_self)
      have hrange : '0' ≤ c ∧ c ≤ '9' := by simpa [Char.isDigit, Char.le_def] using hc
      exact ⟨c, more, rfl, by simp [digit?, hrange]⟩

end Number

end ClusterKv.Json

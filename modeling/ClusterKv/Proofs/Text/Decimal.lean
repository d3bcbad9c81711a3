import ClusterKv.Proofs.Wire.Elements
import ClusterKv.Text.Decimal

/-! # Numbers in decimal digits

A number is read back from its digits. Written as octets they have no sign, and no zero in front of
other digits. -/

namespace ClusterKv

namespace Text

variable {chars : List Char}

/-! ## Reading digits -/

theorem isDigit_toDigits (n : Nat) : ∀ c ∈ Nat.toDigits 10 n, c.isDigit = true :=
  fun _ hc => Nat.isDigit_of_mem_toDigits (by decide) (by decide) hc

theorem exists_digitChar {c : Char} (h : c.isDigit = true) : ∃ d < 10, c = Nat.digitChar d := by
  have all : ∀ d < 10, Nat.digitChar d = Char.ofNat (48 + d) := by decide
  have hrange : 48 ≤ c.toNat ∧ c.toNat ≤ 57 := by
    simpa [Char.isDigit, UInt32.le_iff_toNat_le] using h
  refine ⟨c.toNat - 48, by omega, ?_⟩
  rw [all _ (by omega), Nat.add_sub_cancel' hrange.1, Char.ofNat_toNat]

theorem isBlank_of_isDigit {c : Char} (h : c.isDigit = true) : isBlank c = false := by
  have all : ∀ d < 10, isBlank (Nat.digitChar d) = false := by decide
  obtain ⟨d, hd, rfl⟩ := exists_digitChar h
  exact all d hd

theorem dropWhile_isBlank (h : ∀ c ∈ chars, c.isDigit = true) :
    chars.dropWhile isBlank = chars := by
  cases chars with
  | nil => rfl
  | cons c chars => simp [isBlank_of_isDigit (h c List.mem_cons_self)]

/-- There is no white space to drop around digits. -/
theorem trim_of_digits (h : ∀ c ∈ chars, c.isDigit = true) : trim chars = chars := by
  rw [trim, dropWhile_isBlank h, dropWhile_isBlank (by simpa using h), List.reverse_reverse]

theorem foldlM_digits (h : ∀ c ∈ chars, c.isDigit = true) (n : Nat) :
    chars.foldlM (fun n c =>
      if c.isDigit then some (n * 10 + (c.toNat - '0'.toNat)) else none) n =
      some (Nat.ofDigitChars 10 chars n) := by
  induction chars generalizing n with
  | nil => rfl
  | cons c chars ih =>
      obtain ⟨hc, hchars⟩ := List.forall_mem_cons.mp h
      rw [List.foldlM_cons, if_pos hc, Nat.ofDigitChars_cons, Nat.mul_comm 10 n]
      exact ih hchars _

/-- A number is read back from its digits. -/
theorem natural?_toDigits (n : Nat) : natural? (Nat.toDigits 10 n) = some n := by
  have hread : digits? (Nat.toDigits 10 n) = some n := by
    rw [digits?, if_neg (by simp [Nat.toDigits_ne_nil]), foldlM_digits (isDigit_toDigits n),
      Nat.ofDigitChars_toDigits (by decide) (by decide)]
  unfold natural?
  split
  · next h => exact absurd (isDigit_toDigits n '+' (h ▸ List.mem_cons_self)) (by decide)
  · exact hread

/-- The digits of a number other than zero do not begin with a zero. -/
theorem head?_toDigits {n : Nat} (h : 0 < n) : (Nat.toDigits 10 n).head? ≠ some '0' := by
  induction n using Nat.strongRecOn with
  | ind n ih =>
      rcases Nat.lt_or_ge n 10 with hone | hmore
      · simpa [Nat.toDigits_of_lt_base hone, Nat.digitChar_eq_zero] using Nat.ne_of_gt h
      · have hhead : (Nat.toDigits 10 (n / 10)).head?.isSome = true :=
          List.isSome_head?.mpr Nat.toDigits_ne_nil
        rw [Nat.toDigits_of_base_le (by decide) hmore, List.head?_append, Option.or_of_isSome hhead]
        exact ih (n / 10) (by omega) (by omega)

end Text

namespace Bytes

/-! ## Digits as octets -/

/-- Octets that are the digits of a number, as few as there can be. -/
structure IsDecimal (bytes : Bytes) (n : Nat) : Prop where
  digits : ∀ octet ∈ bytes, '0'.toUInt8 ≤ octet ∧ octet ≤ '9'.toUInt8
  value : bytes.foldl (fun n octet => 10 * n + (octet.toNat - '0'.toNat)) 0 = n
  nonempty : bytes ≠ []
  /-- There is a zero in front only if it is all there is. -/
  fewest : bytes.head? = some '0'.toUInt8 → bytes = ['0'.toUInt8]

/-- A digit is one octet. -/
theorem ofString_digits {chars : List Char} (h : ∀ c ∈ chars, c.isDigit = true) :
    ofString (String.ofList chars) = chars.map Char.toUInt8 := by
  rw [ofString_eq, String.toByteArray_ofList]
  induction chars with
  | nil => rfl
  | cons c chars ih =>
      obtain ⟨hc, hchars⟩ := List.forall_mem_cons.mp h
      have hsize : c.utf8Size = 1 := by
        rw [Char.utf8Size_eq_one_iff]
        simp only [Char.isDigit, Bool.and_eq_true, decide_eq_true_eq] at hc
        exact UInt32.le_trans hc.2 (by decide)
      have hoctet : String.utf8EncodeChar c = [c.toUInt8] := String.utf8EncodeChar_eq_singleton hsize
      simpa [List.utf8Encode, hoctet] using ih hchars

theorem ofDecimal_eq (n : Nat) : ofDecimal n = (Nat.toDigits 10 n).map Char.toUInt8 :=
  ofString_digits (Text.isDigit_toDigits n)

theorem toUInt8_of_isDigit {c : Char} (h : c.isDigit = true) :
    ('0'.toUInt8 ≤ c.toUInt8 ∧ c.toUInt8 ≤ '9'.toUInt8) ∧ c.toUInt8.toNat = c.toNat ∧
      (c.toUInt8 = '0'.toUInt8 → c = '0') := by
  have all : ∀ d < 10,
      ('0'.toUInt8 ≤ (Nat.digitChar d).toUInt8 ∧ (Nat.digitChar d).toUInt8 ≤ '9'.toUInt8) ∧
        (Nat.digitChar d).toUInt8.toNat = (Nat.digitChar d).toNat ∧
        ((Nat.digitChar d).toUInt8 = '0'.toUInt8 → Nat.digitChar d = '0') := by decide
  obtain ⟨d, hd, rfl⟩ := Text.exists_digitChar h
  exact all d hd

/-- Octets have the value of the digits that they stand for. -/
theorem foldl_digits {chars : List Char} (h : ∀ c ∈ chars, c.isDigit = true) (n : Nat) :
    (chars.map Char.toUInt8).foldl (fun n octet => 10 * n + (octet.toNat - '0'.toNat)) n =
      Nat.ofDigitChars 10 chars n := by
  induction chars generalizing n with
  | nil => rfl
  | cons c chars ih =>
      obtain ⟨hc, hchars⟩ := List.forall_mem_cons.mp h
      rw [List.map_cons, List.foldl_cons, (toUInt8_of_isDigit hc).2.1, Nat.ofDigitChars_cons]
      exact ih hchars _

/-- A number is written in its digits. -/
theorem isDecimal_ofDecimal (n : Nat) : (ofDecimal n).IsDecimal n := by
  have hdigits := Text.isDigit_toDigits n
  rw [ofDecimal_eq]
  refine ⟨fun octet hoctet => ?_, ?_, by simp [Nat.toDigits_ne_nil], fun hzero => ?_⟩
  · obtain ⟨c, hc, rfl⟩ := List.mem_map.mp hoctet
    exact (toUInt8_of_isDigit (hdigits c hc)).1
  · rw [foldl_digits hdigits, Nat.ofDigitChars_toDigits (by decide) (by decide)]
  · rcases Nat.eq_zero_or_pos n with rfl | hpos
    · rfl
    · obtain ⟨c, hc, hoctet⟩ := Option.map_eq_some_iff.mp (List.head?_map ▸ hzero)
      have hzero : c = '0' := (toUInt8_of_isDigit (hdigits c (List.mem_of_head? hc))).2.2 hoctet
      exact absurd (hzero ▸ hc) (Text.head?_toDigits hpos)

end Bytes

end ClusterKv

import ClusterKv.Crc32
import ClusterKv.Proofs.Wire.Elements
import Mathlib.Data.LawfulXor.Basic
import Mathlib.Data.Nat.Bitwise
import Mathlib.Logic.Function.Iterate

/-! # Steering a checksum

A shift of the register is linear and can be undone. So the difference between a register that is
fed and one that is merely shifted can be moved out octet by octet, and four octets make up for any
difference: whatever came before them, they bring the checksum to any value. -/

namespace ClusterKv

namespace Crc32

/-! ## Shifts -/

theorem and_one_iff (register : UInt32) : register &&& 1 = 1 ↔ register.toNat % 2 = 1 := by
  rw [← UInt32.toNat_inj, UInt32.toNat_and, UInt32.toNat_one, Nat.and_one_is_mod]

theorem toNat_half (register : UInt32) : (register >>> 1).toNat = register.toNat / 2 := by
  rw [UInt32.toNat_shiftRight]
  exact Nat.shiftRight_eq_div_pow _ 1

theorem shift_of_even {register : UInt32} (h : register.toNat % 2 = 0) :
    shift register = register >>> 1 := by
  refine if_neg fun hodd => ?_
  rw [and_one_iff] at hodd
  omega

theorem shift_of_odd {register : UInt32} (h : register.toNat % 2 = 1) :
    shift register = (register >>> 1) ^^^ 0xEDB88320 :=
  if_pos ((and_one_iff register).mpr h)

/-- A shift is linear. -/
theorem shift_xor (x y : UInt32) : shift (x ^^^ y) = shift x ^^^ shift y := by
  have hparity : (x ^^^ y).toNat % 2 = (x.toNat + y.toNat) % 2 := by
    rw [UInt32.toNat_xor, Nat.xor_mod_two_eq]
  have hdown : (x ^^^ y) >>> 1 = (x >>> 1) ^^^ (y >>> 1) := UInt32.shiftRight_xor
  rcases Nat.mod_two_eq_zero_or_one x.toNat with hx | hx
  · rcases Nat.mod_two_eq_zero_or_one y.toNat with hy | hy
    · rw [shift_of_even hx, shift_of_even hy, shift_of_even (by omega), hdown]
    · rw [shift_of_even hx, shift_of_odd hy, shift_of_odd (by omega), hdown, UInt32.xor_assoc]
  · rcases Nat.mod_two_eq_zero_or_one y.toNat with hy | hy
    · rw [shift_of_odd hx, shift_of_even hy, shift_of_odd (by omega), hdown, UInt32.xor_assoc,
        UInt32.xor_assoc, UInt32.xor_comm (y >>> 1)]
    · -- the polynomial is folded in twice, which is not at all
      rw [shift_of_odd hx, shift_of_odd hy, shift_of_even (by omega), hdown,
        UInt32.xor_comm (y >>> 1), UInt32.xor_assoc, xor_cancel_left]

/-- The register before a shift. A one has fallen out if the topmost bit is set. -/
def shiftBack (register : UInt32) : UInt32 :=
  if register.toNat < 2 ^ 31 then 2 * register else 2 * (register ^^^ 0xEDB88320) + 1

theorem shift_double {half : UInt32} (h : half.toNat < 2 ^ 31) : shift (2 * half) = half := by
  have hdouble : (2 * half).toNat = 2 * half.toNat := by
    rw [UInt32.toNat_mul]
    exact Nat.mod_eq_of_lt (by simp; omega)
  rw [shift_of_even (by omega), ← UInt32.toNat_inj, toNat_half, hdouble]
  omega

theorem shift_double_add_one {half : UInt32} (h : half.toNat < 2 ^ 31) :
    shift (2 * half + 1) = half ^^^ 0xEDB88320 := by
  have hdouble : (2 * half + 1).toNat = 2 * half.toNat + 1 := by
    simp
    omega
  have hhalf : (2 * half + 1) >>> 1 = half := by
    rw [← UInt32.toNat_inj, toNat_half, hdouble]
    omega
  rw [shift_of_odd (by omega), hhalf]

theorem shift_shiftBack (register : UInt32) : shift (shiftBack register) = register := by
  unfold shiftBack
  split
  next h => exact shift_double h
  next h =>
    have htop : register.toNat / 2 ^ 31 = 1 := by
      have hlt := register.toNat_lt
      omega
    -- the polynomial has the topmost bit set as well
    have hclear : (register ^^^ 0xEDB88320).toNat / 2 ^ 31 = 0 := by
      rw [UInt32.toNat_xor, Nat.xor_div_two_pow, htop]
      rfl
    rw [shift_double_add_one (Nat.lt_of_div_eq_zero (by decide) hclear), xor_cancel_right]

theorem shifts_xor (n : Nat) (x y : UInt32) :
    shift^[n] (x ^^^ y) = shift^[n] x ^^^ shift^[n] y := by
  induction n generalizing x y with
  | zero => rfl
  | succ n ih =>
      rw [Function.iterate_succ_apply, shift_xor, ih]
      rfl

theorem shifts_shiftBack (n : Nat) (register : UInt32) :
    shift^[n] (shiftBack^[n] register) = register :=
  Function.LeftInverse.iterate shift_shiftBack n register

/-- Zeros that fall out leave the rest as it is. -/
theorem toNat_shifts {n : Nat} {register : UInt32} (h : 2 ^ n ∣ register.toNat) :
    (shift^[n] register).toNat = register.toNat / 2 ^ n := by
  induction n generalizing register with
  | zero => simp
  | succ n ih =>
      obtain ⟨rest, hrest⟩ := h
      rw [Nat.pow_succ', Nat.mul_assoc] at hrest
      have hhalf : (shift register).toNat = 2 ^ n * rest := by
        rw [shift_of_even (by omega), toNat_half, hrest, Nat.mul_div_cancel_left _ Nat.two_pos]
      rw [Function.iterate_succ_apply, ih ⟨rest, hhalf⟩, hhalf, hrest, Nat.pow_succ',
        Nat.mul_div_mul_left _ _ Nat.two_pos]

/-! ## Octets -/

theorem update_eq (register : UInt32) (octet : UInt8) :
    update register octet = shift^[8] (register ^^^ octet.toUInt32) := rfl

theorem feed_cons (register : UInt32) (octet : UInt8) (bytes : Bytes) :
    feed register (octet :: bytes) = feed (update register octet) bytes := rfl

/-- An octet that makes up for the lowest octet of a difference moves it out. -/
theorem toNat_update_xor (register goal : UInt32) :
    (update register (register ^^^ goal).toUInt8 ^^^ shift^[8] goal).toNat =
      (register ^^^ goal).toNat / 256 := by
  let difference := register ^^^ goal
  let octet := difference.toUInt8.toUInt32
  have hswap : register ^^^ octet ^^^ goal = difference ^^^ octet := by
    rw [UInt32.xor_assoc, UInt32.xor_comm octet, ← UInt32.xor_assoc]
  have hoctet : octet.toNat = difference.toNat % 2 ^ 8 := by simp [octet]
  have hlow : (difference ^^^ octet).toNat % 2 ^ 8 = 0 := by
    rw [UInt32.toNat_xor, Nat.xor_mod_two_pow, hoctet, Nat.mod_mod, Nat.xor_self]
  have hhigh : (difference ^^^ octet).toNat / 2 ^ 8 = difference.toNat / 2 ^ 8 := by
    rw [UInt32.toNat_xor, Nat.xor_div_two_pow, hoctet, Nat.mod_div_self, Nat.xor_zero]
  rw [update_eq, ← shifts_xor, hswap, toNat_shifts (Nat.dvd_of_mod_eq_zero hlow), hhigh]
  rfl

/-- Fed with the octets of its difference from a goal, a register meets the goal as that is shifted,
octet by octet. -/
theorem toNat_feed_xor (width : Nat) (register goal : UInt32) :
    (feed register (Wire.littleEndian width (register ^^^ goal).toNat) ^^^
      (shift^[8])^[width] goal).toNat = (register ^^^ goal).toNat / 256 ^ width := by
  induction width generalizing register goal with
  | zero => simp [Wire.littleEndian, feed]
  | succ width ih =>
      have hoctet := toNat_update_xor register goal
      have ih := ih (update register (register ^^^ goal).toUInt8) (shift^[8] goal)
      rw [hoctet] at ih
      rw [Wire.littleEndian, feed_cons, Function.iterate_succ_apply, Nat.pow_succ',
        ← Nat.div_div_eq_div_mul]
      exact ih

/-- The four octets that bring a register to a target. -/
def steer (register target : UInt32) : Bytes :=
  Wire.littleEndian 4 (register ^^^ (shiftBack^[8])^[4] target).toNat

theorem feed_steer (register target : UInt32) : feed register (steer register target) = target := by
  have hgoal : (shift^[8])^[4] ((shiftBack^[8])^[4] target) = target :=
    Function.LeftInverse.iterate (shifts_shiftBack 8) 4 target
  have hmoved := toNat_feed_xor 4 register ((shiftBack^[8])^[4] target)
  have hsmall : (register ^^^ (shiftBack^[8])^[4] target).toNat < 256 ^ 4 := UInt32.toNat_lt _
  rw [hgoal, Nat.div_eq_of_lt hsmall, ← UInt32.toNat_zero, UInt32.toNat_inj,
    UInt32.xor_eq_zero_iff] at hmoved
  exact hmoved

end Crc32

/-- Whatever a byte string begins with, four octets bring its checksum to any value. -/
theorem exists_crc32_append (bytes : Bytes) (checksum : UInt32) :
    ∃ suffix : Bytes, suffix.length = 4 ∧ crc32 (bytes ++ suffix) = checksum := by
  let suffix := Crc32.steer (Crc32.feed 0xFFFFFFFF bytes) (checksum ^^^ 0xFFFFFFFF)
  refine ⟨suffix, Wire.length_littleEndian 4 _, ?_⟩
  rw [crc32, Crc32.feed_append, Crc32.feed_steer, xor_cancel_right]

/-- The value by which implementations are told to be of the same checksum. -/
example : crc32 (Bytes.ofString "123456789") = 0xCBF43926 := by decide +kernel

end ClusterKv

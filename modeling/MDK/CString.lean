import Mathlib.Data.List.TakeWhile
import Mathlib.Data.BitVec

/-!
# C strings and C integer conversions

A C string is the part of a memory block before its first NUL byte.  The
integer conversions are the ones a C program applies to sizes: a `size_t`
narrowed to a 32-bit `int`, and an `int` converted to an unsigned type of a
given width.
-/

namespace CString

def cString (memory : List UInt8) : List UInt8 :=
  memory.takeWhile fun byte => byte != 0

theorem cString_append_zero
    {text : List UInt8} (htext : 0 ∉ text) (garbage : List UInt8) :
    cString (text ++ 0 :: garbage) = text := by
  unfold cString
  rw [List.takeWhile_append_of_pos]
  · simp
  · intro byte hbyte
    have hne : byte ≠ 0 := fun hzero => htext (hzero ▸ hbyte)
    simpa using hne

/-! ## Integer conversions -/

def toInt (size : ℕ) : ℤ :=
  (BitVec.ofNat 32 size).toInt

def toUnsigned (width : ℕ) (value : ℤ) : ℕ :=
  (value % 2 ^ width).toNat

theorem toInt_eq (size : ℕ) :
    toInt size =
      if size % 2 ^ 32 < 2 ^ 31 then (size % 2 ^ 32 : ℤ)
      else (size % 2 ^ 32 : ℤ) - 2 ^ 32 := by
  unfold toInt
  rw [BitVec.toInt_eq_toNat_bmod, BitVec.toNat_ofNat, Int.bmod_def]
  split_ifs
  · omega
  · omega
  · omega
  · omega

theorem toInt_of_lt {size : ℕ} (hsize : size < 2 ^ 31) : toInt size = size := by
  rw [toInt_eq]
  split_ifs
  · omega
  · omega

/-- A size that an `int` cannot hold comes back reduced, or from the top of the
unsigned type. -/
theorem toUnsigned_toInt {width : ℕ} (hwidth : 32 ≤ width) (size : ℕ) :
    toUnsigned width (toInt size) =
      if size % 2 ^ 32 < 2 ^ 31 then size % 2 ^ 32
      else 2 ^ width - 2 ^ 32 + size % 2 ^ 32 := by
  have hpow : (2 : ℕ) ^ 32 ≤ 2 ^ width := Nat.pow_le_pow_right (by omega) hwidth
  have hcast : ((2 ^ width : ℕ) : ℤ) = 2 ^ width := by simp
  unfold toUnsigned
  rw [toInt_eq, ← hcast]
  split_ifs with hsmall
  · rw [Int.emod_eq_of_lt (by omega) (by omega)]
    omega
  · rw [← Int.add_emod_right, Int.emod_eq_of_lt (by omega) (by omega)]
    omega

end CString

import Mathlib.Data.UInt

/-!
# Words under masks

Machine words are sets of bits: `&&&` distributes over `|||`, and what a mask selects depends on the
bits in it only.
-/

namespace DSEmu

namespace UInt8

/-- A mask on two words of 8 bits. -/
theorem and_or_distrib_right (x y z : UInt8) : (x ||| y) &&& z = (x &&& z) ||| (y &&& z) := by
  rw [← UInt8.toBitVec_inj]
  exact BitVec.and_or_distrib_right

/-- Bits outside of a mask do not matter under it. -/
theorem or_and_of_and_eq_zero {x y z : UInt8} (h : y &&& z = 0) : (x ||| y) &&& z = x &&& z := by
  rw [and_or_distrib_right, h, UInt8.or_zero]

/-- A bit that is or-ed in is there. -/
theorem or_and_self_ne_zero {x bit : UInt8} (h : bit &&& bit ≠ 0) : (x ||| bit) &&& bit ≠ 0 := by
  rw [and_or_distrib_right, Ne, UInt8.or_eq_zero_iff]
  exact fun hzero => h hzero.2

/-- Clearing other bits. -/
theorem and_not_and {x val bit : UInt8} (h : val &&& bit = 0) :
    x &&& ~~~val &&& bit = x &&& bit := by
  have hnot : ~~~val &&& bit = bit := by
    calc ~~~val &&& bit = (val &&& bit) ||| (~~~val &&& bit) := by rw [h, UInt8.zero_or]
      _ = (val ||| ~~~val) &&& bit := (and_or_distrib_right _ _ _).symm
      _ = bit := by rw [UInt8.or_not_self, UInt8.neg_one_and]
  rw [UInt8.and_assoc, hnot]

/-- A bit that is cleared is not there. -/
theorem and_not_and_self (x bit : UInt8) : x &&& ~~~bit &&& bit = 0 := by
  rw [UInt8.and_assoc, UInt8.not_and_self, UInt8.and_zero]

end UInt8

namespace UInt16

/-- A mask on two words of 16 bits. -/
theorem and_or_distrib_right (x y z : UInt16) : (x ||| y) &&& z = (x &&& z) ||| (y &&& z) := by
  rw [← UInt16.toBitVec_inj]
  exact BitVec.and_or_distrib_right

/-- Bits outside of a mask do not matter under it. -/
theorem or_and_of_and_eq_zero {x y z : UInt16} (h : y &&& z = 0) : (x ||| y) &&& z = x &&& z := by
  rw [and_or_distrib_right, h, UInt16.or_zero]

end UInt16

namespace UInt32

/-- A mask on two words of 32 bits. -/
theorem and_or_distrib_right (x y z : UInt32) : (x ||| y) &&& z = (x &&& z) ||| (y &&& z) := by
  rw [← UInt32.toBitVec_inj]
  exact BitVec.and_or_distrib_right

/-- Two masks on a word of 32 bits. -/
theorem and_or_distrib_left (x y z : UInt32) : x &&& (y ||| z) = (x &&& y) ||| (x &&& z) := by
  rw [← UInt32.toBitVec_inj]
  exact BitVec.and_or_distrib_left

/-- A bit that is or-ed in is there, and the others stay. -/
theorem or_and_ne_zero {x bit mask : UInt32} (h : x &&& mask ≠ 0 ∨ bit &&& mask ≠ 0) :
    (x ||| bit) &&& mask ≠ 0 := by
  rw [and_or_distrib_right, Ne, UInt32.or_eq_zero_iff]
  rintro ⟨hx, hbit⟩
  exact h.elim (fun hne => hne hx) fun hne => hne hbit

/-- The complement of other bits has a bit. -/
theorem not_and_of_and_eq_zero {val bit : UInt32} (h : val &&& bit = 0) : ~~~val &&& bit = bit := by
  calc ~~~val &&& bit = (val &&& bit) ||| (~~~val &&& bit) := by rw [h, UInt32.zero_or]
    _ = (val ||| ~~~val) &&& bit := (and_or_distrib_right _ _ _).symm
    _ = bit := by rw [UInt32.or_not_self, UInt32.neg_one_and]

/-- Clearing other bits. -/
theorem and_not_and {x val bit : UInt32} (h : val &&& bit = 0) :
    x &&& ~~~val &&& bit = x &&& bit := by
  rw [UInt32.and_assoc, not_and_of_and_eq_zero h]

/-- A bit of `x` under a mask that is in `y` too, where `y` has all that `x` has under the mask. -/
theorem and_ne_zero_of_covers {x y mask bit : UInt32} (hcovers : x &&& mask &&& ~~~y = 0)
    (hbit : bit &&& mask = bit) (hx : x &&& bit ≠ 0) : y &&& bit ≠ 0 := by
  intro hy
  apply hx
  calc x &&& bit = x &&& (mask &&& (~~~y &&& bit)) := by
        rw [not_and_of_and_eq_zero hy, UInt32.and_comm mask, hbit]
    _ = (x &&& mask &&& ~~~y) &&& bit := by simp only [UInt32.and_assoc]
    _ = 0 := by rw [hcovers, UInt32.zero_and]

end UInt32

end DSEmu

import Mathlib.Data.Nat.Sqrt

/-!
# Square roots digit by digit

The root of a number and what the square of the root leaves of it, as two more binary digits of the
number come in: the root doubles, and is one more where the rest is large enough (`IsRoot.step`).
-/

namespace DSEmu

/-- The root of `w`, and the rest. -/
structure IsRoot (w root rest : ℕ) : Prop where
  split : root * root + rest = w
  small : rest ≤ 2 * root

namespace IsRoot

variable {w root rest : ℕ}

theorem zero : IsRoot 0 0 0 := ⟨rfl, Nat.le_refl 0⟩

theorem eq_sqrt (h : IsRoot w root rest) : root = Nat.sqrt w := by
  have hsplit := h.split
  have hsmall := h.small
  refine Nat.eq_sqrt.mpr ⟨by omega, ?_⟩
  have hsquare : (root + 1) * (root + 1) = root * root + 2 * root + 1 := by
    rw [Nat.add_mul, Nat.mul_add, Nat.one_mul]
    omega
  omega

/-- The rest once the next two digits are there, and the root is doubled. -/
theorem double (h : IsRoot w root rest) (digits : ℕ) :
    2 * root * (2 * root) + (4 * rest + digits) = 4 * w + digits := by
  have hsplit := h.split
  have hsquare : 2 * root * (2 * root) = 4 * (root * root) := by
    rw [Nat.mul_mul_mul_comm]
  omega

/-- The next digit of the root. -/
theorem step (h : IsRoot w root rest) {digits : ℕ} (hdigits : digits < 4) :
    IsRoot (4 * w + digits)
      (2 * root + if 4 * root + 1 ≤ 4 * rest + digits then 1 else 0)
      (4 * rest + digits - if 4 * root + 1 ≤ 4 * rest + digits then 4 * root + 1 else 0) := by
  have hsmall := h.small
  have hdouble := h.double digits
  have hsquare : (2 * root + 1) * (2 * root + 1) = 2 * root * (2 * root) + 4 * root + 1 := by
    rw [Nat.add_mul, Nat.mul_add, Nat.one_mul]
    omega
  constructor
  case split => split <;> omega
  case small => split <;> omega

end IsRoot

end DSEmu

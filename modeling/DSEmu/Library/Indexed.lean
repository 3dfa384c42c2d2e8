import Mathlib.Data.Fin.Basic

/-!
# Vectors by their indices

`Vector.get` and `Vector.put` take an index that is in the vector, so that no access needs a proof
of its own; and the indices into the small vectors of a machine have literals.
-/

/-- The vector with another element at an index. -/
def Vector.put {α : Type} {n : ℕ} (xs : Vector α n) (i : Fin n) (x : α) : Vector α n :=
  xs.set i x i.isLt

namespace Vector

variable {α : Type} {n : ℕ} {xs : Vector α n} {i j : Fin n}

/-- What has been put at an index is there. -/
@[simp] theorem get_put_self (xs : Vector α n) (i : Fin n) (x : α) : (xs.put i x).get i = x :=
  Vector.getElem_set_self i.isLt

/-- The other entries stay. -/
theorem get_put_of_ne (h : i ≠ j) (x : α) : (xs.put i x).get j = xs.get j :=
  Vector.getElem_set_ne i.isLt j.isLt fun heq => h (Fin.ext heq)

/-- Of two entries put at an index the second one stays. -/
@[simp] theorem put_put (xs : Vector α n) (i : Fin n) (x y : α) :
    (xs.put i x).put i y = xs.put i y :=
  Vector.set_set x i.isLt

/-- Entries at two indices may be put in either order. -/
theorem put_comm (h : i ≠ j) (x y : α) : (xs.put i x).put j y = (xs.put j y).put i x :=
  Vector.set_comm x y fun heq => h (Fin.ext heq)

/-- An entry put where it is. -/
@[simp] theorem put_get_self (xs : Vector α n) (i : Fin n) : xs.put i (xs.get i) = xs :=
  Vector.set_getElem_self i.isLt

end Vector

namespace DSEmu.Indexed

scoped instance neZero_two : @NeZero ℕ Zero.ofOfNat0 2 :=
  @NeZero.mk ℕ Zero.ofOfNat0 2 (Nat.succ_ne_zero 1)

scoped instance neZero_eight : @NeZero ℕ Zero.ofOfNat0 8 :=
  @NeZero.mk ℕ Zero.ofOfNat0 8 (Nat.succ_ne_zero 7)

end DSEmu.Indexed

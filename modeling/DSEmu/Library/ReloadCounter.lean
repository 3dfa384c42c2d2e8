import Mathlib.Tactic.SplitIfs
import Mathlib.Algebra.Ring.Nat

/-!
# Counters with a reload

A counter goes up to a limit, where it begins again at its reload value, with what it has gone too
far. How often it does so, and where it is then, is a division (`settle`); a counter that is brought
down on the way gets as far as one that is brought down at the end (`settle_settle`).
-/

namespace DSEmu

/-- A counter that has gone on to `c`, is taken down by `limit` as often as it is at least that
much, and begins at `reload` again each time: how often that is, and where it is then. -/
def settle (limit reload c : ℕ) : ℕ × ℕ :=
  if c < limit then (0, c)
  else ((c - limit) / (limit - reload) + 1, reload + (c - limit) % (limit - reload))

variable {limit reload c x : ℕ}

/-- A counter below the limit is settled. -/
theorem settle_of_lt (h : c < limit) : settle limit reload c = (0, c) := if_pos h

/-- One round of the loop. -/
theorem settle_of_le (hreload : reload < limit) (h : limit ≤ c) : settle limit reload c =
    ((settle limit reload (c - limit + reload)).1 + 1,
      (settle limit reload (c - limit + reload)).2) := by
  have hpos : 0 < limit - reload := by omega
  rw [settle, if_neg (by omega)]
  by_cases hlt : c - limit + reload < limit
  · rw [settle_of_lt hlt, Nat.div_eq_of_lt (by omega), Nat.mod_eq_of_lt (by omega)]
    exact Prod.ext rfl (Nat.add_comm _ _)
  · have hrest : c - limit = c - limit + reload - limit + (limit - reload) := by omega
    rw [settle, if_neg hlt]
    dsimp only
    rw [hrest, Nat.add_div_right _ hpos, Nat.add_mod_right]
    have hsame : c - limit + reload - limit + (limit - reload) + reload - limit =
        c - limit + reload - limit := by omega
    rw [hsame]

/-- A counter that has settled is below the limit. -/
theorem settle_snd_lt (hreload : reload < limit) (c : ℕ) : (settle limit reload c).2 < limit := by
  rw [settle]
  split_ifs with h
  · exact h
  · have hmod : (c - limit) % (limit - reload) < limit - reload := Nat.mod_lt _ (by omega)
    dsimp only
    omega

/-- Settling takes away, if anything. -/
theorem settle_snd_le (hreload : reload < limit) (c : ℕ) : (settle limit reload c).2 ≤ c := by
  rw [settle]
  split_ifs with h
  · exact Nat.le_refl c
  · have hmod : (c - limit) % (limit - reload) ≤ c - limit := Nat.mod_le _ _
    dsimp only
    omega

/-- A counter that settles on the way gets as far as one that does not. -/
theorem settle_settle (hreload : reload < limit) (c x : ℕ) : settle limit reload (c + x) =
    ((settle limit reload c).1 + (settle limit reload ((settle limit reload c).2 + x)).1,
      (settle limit reload ((settle limit reload c).2 + x)).2) := by
  induction c using Nat.strong_induction_on with
  | _ c ih =>
    by_cases h : c < limit
    · rw [settle_of_lt h, Nat.zero_add]
    · -- both take one round, after which the counter is lower
      have hle : limit ≤ c := Nat.not_lt.mp h
      have hround : c + x - limit + reload = c - limit + reload + x := by omega
      rw [settle_of_le hreload (by omega), hround, ih (c - limit + reload) (by omega),
        settle_of_le hreload hle]
      dsimp only
      rw [Nat.add_right_comm]

end DSEmu

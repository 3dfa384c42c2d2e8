import Mathlib.Data.Fintype.Pigeonhole
import Mathlib.Logic.Function.Iterate

/-!
# Searches that follow a function

A search starts at `start`, and from each place at which `goesOn` holds it goes on to the place that
`next` gives. It gets to its `k`-th place (`Visits`) if it goes on at all places before, and it
stops there (`StopsAt`) if it does not go on from it.

Over finitely many places a search stops exactly if it never comes back to a place where it has been
(`exists_stopsAt_iff`).
-/

namespace DSEmu.Iteration

variable {α : Type*} {next : α → α} {goesOn : α → Prop} {start : α} {i j k : ℕ}

/-- The search gets to its `k`-th place. -/
def Visits (next : α → α) (goesOn : α → Prop) (start : α) (k : ℕ) : Prop :=
  ∀ i < k, goesOn (next^[i] start)

/-- The search stops at its `k`-th place. -/
def StopsAt (next : α → α) (goesOn : α → Prop) (start : α) (k : ℕ) : Prop :=
  Visits next goesOn start k ∧ ¬ goesOn (next^[k] start)

/-- The search never comes back to a place. -/
def NeverReturns (next : α → α) (goesOn : α → Prop) (start : α) : Prop :=
  ∀ i j, i < j → Visits next goesOn start j → next^[i] start ≠ next^[j] start

theorem visits_zero : Visits next goesOn start 0 := fun _ h => absurd h (Nat.not_lt_zero _)

/-- The places after the first one are those of the search that starts at the second one. -/
theorem visits_succ :
    Visits next goesOn start (k + 1) ↔ goesOn start ∧ Visits next goesOn (next start) k := by
  constructor
  · intro h
    refine ⟨h 0 (Nat.succ_pos k), fun i hi => ?_⟩
    rw [← Function.iterate_succ_apply]
    exact h (i + 1) (Nat.succ_lt_succ hi)
  · rintro ⟨hstart, hnext⟩ i hi
    cases i with
    | zero => exact hstart
    | succ i =>
      rw [Function.iterate_succ_apply]
      exact hnext i (Nat.lt_of_succ_lt_succ hi)

theorem stopsAt_succ :
    StopsAt next goesOn start (k + 1) ↔ goesOn start ∧ StopsAt next goesOn (next start) k := by
  rw [StopsAt, StopsAt, visits_succ, Function.iterate_succ_apply, and_assoc]

/-- The places before the one where a search stops are all that it gets to. -/
theorem StopsAt.le (h : StopsAt next goesOn start k) (hj : Visits next goesOn start j) : j ≤ k := by
  by_contra hlt
  exact h.2 (hj k (Nat.not_le.mp hlt))

/-- A search stops once. -/
theorem StopsAt.unique (hj : StopsAt next goesOn start j) (hk : StopsAt next goesOn start k) :
    j = k :=
  Nat.le_antisymm (hk.le hj.1) (hj.le hk.1)

/-- A search that stops has never come back: it would go round for ever. -/
theorem StopsAt.neverReturns (h : StopsAt next goesOn start k) :
    NeverReturns next goesOn start := by
  intro i j hij hj hsame
  have hle : j ≤ k := h.le hj
  -- From place `i` it gets to where it stops in the steps that it takes from place `j`.
  have hearlier : next^[i + (k - j)] start = next^[k] start := by
    calc next^[i + (k - j)] start = next^[k - j] (next^[i] start) := by
          rw [Nat.add_comm, Function.iterate_add_apply]
      _ = next^[k - j] (next^[j] start) := by rw [hsame]
      _ = next^[k] start := by rw [← Function.iterate_add_apply, Nat.sub_add_cancel hle]
  have hgoesOn : goesOn (next^[i + (k - j)] start) := h.1 _ (by omega)
  rw [hearlier] at hgoesOn
  exact h.2 hgoesOn

/-- A search over finitely many places stops exactly if it never comes back to one of them. -/
theorem exists_stopsAt_iff [Finite α] :
    (∃ k, StopsAt next goesOn start k) ↔ NeverReturns next goesOn start := by
  constructor
  · rintro ⟨k, h⟩
    exact h.neverReturns
  · intro hnever
    by_contra hnone
    -- A search that does not stop gets to all its places, which are then all different.
    have hvisits : ∀ k, Visits next goesOn start k := by
      intro k
      induction k with
      | zero => exact visits_zero
      | succ k ih =>
        intro i hi
        rcases Nat.lt_succ_iff_lt_or_eq.mp hi with hlt | rfl
        · exact ih i hlt
        · by_contra hstop
          exact hnone ⟨i, ih, hstop⟩
    obtain ⟨i, j, hne, hsame⟩ := Finite.exists_ne_map_eq_of_infinite fun k => next^[k] start
    rcases Nat.lt_or_gt_of_ne hne with hlt | hgt
    · exact hnever i j hlt (hvisits j) hsame
    · exact hnever j i hgt (hvisits i) hsame.symm

end DSEmu.Iteration

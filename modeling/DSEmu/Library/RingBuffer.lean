import Mathlib.Data.List.Rotate

/-!
# Ring buffers

A ring of cells holds a queue: `count` elements, the oldest in the cell at `pos` and each other one
in the next cell, where the first cell comes after the last. `queued` is the queue as a list.
Storing into the cell behind the last element appends to it (`queued_push`), and moving on from the
oldest element takes it off (`queued_pop`).

Positions that are kept in range by a comparison, as `advance` does, are positions modulo the number
of cells.
-/

namespace DSEmu.RingBuffer

variable {α : Type*} {cells : List α} {pos count i : ℕ}

/-- The elements of a ring, the oldest first. -/
def queued (cells : List α) (pos count : ℕ) : List α := (cells.rotate pos).take count

/-- An empty queue. -/
@[simp] theorem queued_zero (cells : List α) (pos : ℕ) : queued cells pos 0 = [] := List.take_zero

/-- A queue is as long as its count says. -/
theorem length_queued (h : count ≤ cells.length) : (queued cells pos count).length = count := by
  rw [queued, List.length_take, List.length_rotate, Nat.min_eq_left h]

/-- The element `i` places after the oldest one. -/
theorem getElem?_queued (hcells : 0 < cells.length) (h : count ≤ cells.length) (hi : i < count) :
    (queued cells pos count)[i]? = cells[(pos + i) % cells.length]? := by
  have hlt : i < cells.length := Nat.lt_of_lt_of_le hi h
  have hplace : (i + pos) % cells.length < cells.length := Nat.mod_lt _ hcells
  rw [queued, List.getElem?_take_of_lt hi, List.getElem?_eq_getElem (by rwa [List.length_rotate]),
    List.getElem_rotate, ← List.getElem?_eq_getElem hplace, Nat.add_comm]

/-- Storing behind the last element appends. -/
theorem queued_push (h : count < cells.length) (x : α) :
    queued (cells.set ((pos + count) % cells.length) x) pos (count + 1) =
      queued cells pos count ++ [x] := by
  have hcells : 0 < cells.length := Nat.lt_of_le_of_lt (Nat.zero_le _) h
  -- the cells after the store, as many as before
  obtain ⟨stored, hstored⟩ : ∃ stored, stored = cells.set ((pos + count) % cells.length) x :=
    ⟨_, rfl⟩
  have hset : stored.length = cells.length := by rw [hstored, List.length_set]
  rw [← hstored]
  apply List.ext_getElem?
  intro i
  rcases Nat.lt_trichotomy i count with hi | rfl | hi
  · -- an element that was there is in another cell
    have hne : (pos + count) % cells.length ≠ (pos + i) % cells.length := by
      intro heq
      have hzero := Nat.sub_mod_eq_zero_of_mod_eq heq
      rw [Nat.add_sub_add_left, Nat.mod_eq_of_lt (by omega)] at hzero
      omega
    have hlength : (queued cells pos count).length = count := length_queued (Nat.le_of_lt h)
    rw [getElem?_queued (by omega) (by omega) (Nat.lt_succ_of_lt hi), hset, hstored,
      List.getElem?_set_ne hne, List.getElem?_append_left (by omega),
      getElem?_queued hcells (Nat.le_of_lt h) hi]
  · have hlength : (queued cells pos i).length = i := length_queued (Nat.le_of_lt h)
    rw [getElem?_queued (by omega) (by omega) (Nat.lt_succ_self i), hset, hstored,
      List.getElem?_set_self (Nat.mod_lt _ hcells), List.getElem?_append_right (by omega), hlength,
      Nat.sub_self]
    rfl
  · have hlong : (queued cells pos count ++ [x]).length = count + 1 := by
      rw [List.length_append, length_queued (Nat.le_of_lt h)]
      rfl
    have hlong' : (queued stored pos (count + 1)).length = count + 1 := length_queued (by omega)
    rw [List.getElem?_eq_none (by omega), List.getElem?_eq_none (by omega)]

/-- Moving on from the oldest element takes it off. -/
theorem queued_pop (hpos : pos < cells.length) (h : count < cells.length) :
    queued cells pos (count + 1) =
      cells[pos] :: queued cells ((pos + 1) % cells.length) count := by
  have hcells : 0 < cells.length := Nat.lt_of_le_of_lt (Nat.zero_le _) h
  have hlength : (queued cells pos (count + 1)).length = count + 1 := length_queued h
  have hrest : (queued cells ((pos + 1) % cells.length) count).length = count :=
    length_queued (Nat.le_of_lt h)
  apply List.ext_getElem?
  intro i
  cases i with
  | zero =>
    rw [getElem?_queued hcells h (Nat.succ_pos count), Nat.add_zero, Nat.mod_eq_of_lt hpos,
      List.getElem?_cons_zero, List.getElem?_eq_getElem hpos]
  | succ i =>
    rw [List.getElem?_cons_succ]
    by_cases hi : i < count
    · have hplace : (pos + (i + 1)) % cells.length =
          ((pos + 1) % cells.length + i) % cells.length := by
        rw [Nat.mod_add_mod]
        congr 1
        omega
      rw [getElem?_queued hcells h (Nat.succ_lt_succ hi),
        getElem?_queued hcells (Nat.le_of_lt h) hi, hplace]
    · rw [List.getElem?_eq_none (by omega), List.getElem?_eq_none (by omega)]

/-- The position after `pos`, with the comparison that brings it back to the first cell. -/
def advance (size pos : ℕ) : ℕ := if size ≤ pos + 1 then 0 else pos + 1

/-- Advancing is counting round. -/
theorem advance_eq {size : ℕ} (h : pos < size) : advance size pos = (pos + 1) % size := by
  unfold advance
  split
  · have hlast : pos + 1 = size := by omega
    rw [hlast, Nat.mod_self]
  · exact (Nat.mod_eq_of_lt (by omega)).symm

/-- A position stays inside. -/
theorem advance_lt {size : ℕ} (h : pos < size) : advance size pos < size := by
  rw [advance_eq h]
  exact Nat.mod_lt _ (Nat.lt_of_le_of_lt (Nat.zero_le _) h)

/-- Moving the end on by one element. -/
theorem advance_end {size : ℕ} (hsize : 0 < size) :
    advance size ((pos + count) % size) = (pos + (count + 1)) % size := by
  rw [advance_eq (Nat.mod_lt _ hsize), Nat.mod_add_mod, Nat.add_assoc]

/-- Moving the beginning on by one element leaves the end where it is. -/
theorem advance_start {size : ℕ} (h : pos < size) :
    (advance size pos + count) % size = (pos + (count + 1)) % size := by
  rw [advance_eq h, Nat.mod_add_mod]
  congr 1
  omega

end DSEmu.RingBuffer

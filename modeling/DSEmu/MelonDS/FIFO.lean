import Mathlib.Data.UInt
import DSEmu.Library.RingBuffer

/-!
# The queues of the console

`FIFO` of `src/FIFO.h` of melonDS. An index that is outside of the array, which C++ leaves
undefined, is `none`. A queue that has been cleared once and used through its functions since is
`Valid`, and then no index is (`write_eq`, `read_eq`): a `FIFO` is the queue of its `contents`,
which drops what is written while it is full.
-/

namespace DSEmu

open RingBuffer (advance queued)

/-- `FIFO<T, NumEntries>`. -/
structure FIFO (α : Type) (numEntries : ℕ) where
  entries : Vector α numEntries
  numOccupied : UInt32 := 0
  readPos : UInt32 := 0
  writePos : UInt32 := 0
  deriving DecidableEq, Repr

namespace FIFO

variable {α : Type} {numEntries : ℕ}

/-- `IsEmpty`. -/
def isEmpty (f : FIFO α numEntries) : Bool := f.numOccupied == 0

/-- `IsFull`. -/
def isFull (f : FIFO α numEntries) : Bool := numEntries ≤ f.numOccupied.toNat

/-- A position that is incremented, and compared with `NumEntries`. -/
def next (numEntries : ℕ) (pos : UInt32) : UInt32 :=
  if numEntries ≤ (pos + 1).toNat then 0 else pos + 1

/-- `Clear`. The `memset` is of the first entry only. -/
def clear [Zero α] (f : FIFO α numEntries) : FIFO α numEntries where
  entries := if h : 0 < numEntries then f.entries.set 0 0 h else f.entries
  numOccupied := 0
  readPos := 0
  writePos := 0

/-- `Write`. -/
def write (val : α) (f : FIFO α numEntries) : Option (FIFO α numEntries) :=
  if f.isFull then some f
  else if h : f.writePos.toNat < numEntries then
    some { f with
      entries := f.entries.set f.writePos.toNat val h
      writePos := next numEntries f.writePos
      numOccupied := f.numOccupied + 1 }
  else none

/-- `Peek`. -/
def peek (f : FIFO α numEntries) : Option α := f.entries[f.readPos.toNat]?

/-- `Read`. -/
def read (f : FIFO α numEntries) : Option (α × FIFO α numEntries) := do
  let ret ← f.peek
  if f.isEmpty then return (ret, f)
  else return (ret, { f with
    readPos := next numEntries f.readPos
    numOccupied := f.numOccupied - 1 })

/-- What is queued, the oldest first. -/
def contents (f : FIFO α numEntries) : List α :=
  queued f.entries.toList f.readPos.toNat f.numOccupied.toNat

/-- The positions of a queue that has been used through its functions. -/
structure Valid (f : FIFO α numEntries) : Prop where
  readPos_lt : f.readPos.toNat < numEntries
  numOccupied_le : f.numOccupied.toNat ≤ numEntries
  writePos_eq : f.writePos.toNat = (f.readPos.toNat + f.numOccupied.toNat) % numEntries

section Spec

variable {f : FIFO α numEntries}

/-- The array of a queue. -/
theorem length_entries (f : FIFO α numEntries) : f.entries.toList.length = numEntries := by
  rw [Vector.length_toList]

/-- A valid queue has entries. -/
theorem Valid.pos (h : f.Valid) : 0 < numEntries := Nat.lt_of_le_of_lt (Nat.zero_le _) h.readPos_lt

/-- A valid queue holds as many words as it says. -/
theorem Valid.length_contents (h : f.Valid) : f.contents.length = f.numOccupied.toNat :=
  RingBuffer.length_queued ((length_entries f).symm ▸ h.numOccupied_le)

/-- A queue is empty where it says so. -/
theorem isEmpty_iff (f : FIFO α numEntries) : f.isEmpty = true ↔ f.numOccupied.toNat = 0 := by
  rw [isEmpty, beq_iff_eq, ← UInt32.toNat_inj]
  rfl

/-- An empty queue has no contents. -/
theorem Valid.isEmpty_iff (h : f.Valid) : f.isEmpty = true ↔ f.contents = [] := by
  rw [FIFO.isEmpty_iff, ← h.length_contents, List.length_eq_zero_iff]

/-- A full queue has as many words as entries. -/
theorem Valid.isFull_iff (h : f.Valid) : f.isFull = true ↔ f.contents.length = numEntries := by
  have hle := h.numOccupied_le
  rw [isFull, decide_eq_true_eq, h.length_contents]
  omega

/-- The next position is that of the ring. -/
theorem toNat_next (hsize : numEntries < 2 ^ 32) {pos : UInt32} (h : pos.toNat < numEntries) :
    (next numEntries pos).toNat = advance numEntries pos.toNat := by
  have hsum : (pos + 1).toNat = pos.toNat + 1 := by
    rw [UInt32.toNat_add]
    apply Nat.mod_eq_of_lt
    change pos.toNat + 1 < 2 ^ 32
    omega
  rw [next, advance, hsum]
  split
  · rfl
  · exact hsum

/-- A queue that is cleared is valid. -/
theorem valid_clear [Zero α] (hsize : 0 < numEntries) (f : FIFO α numEntries) : f.clear.Valid where
  readPos_lt := hsize
  numOccupied_le := Nat.zero_le _
  writePos_eq := (Nat.zero_mod _).symm

/-- A queue that is cleared is empty. -/
@[simp] theorem contents_clear [Zero α] (f : FIFO α numEntries) : f.clear.contents = [] :=
  RingBuffer.queued_zero _ _

/-- A write appends, unless the queue is full. -/
theorem write_eq (hsize : numEntries < 2 ^ 32) (h : f.Valid) (val : α) :
    ∃ f', f.write val = some f' ∧ f'.Valid ∧
      f'.contents = if f.contents.length = numEntries then f.contents else f.contents ++ [val] := by
  by_cases hfull : f.isFull = true
  · exact ⟨f, if_pos hfull, h, (if_pos (h.isFull_iff.mp hfull)).symm⟩
  · have hlt : f.numOccupied.toNat < numEntries := by
      rw [isFull, decide_eq_true_eq] at hfull
      omega
    have hplace : f.writePos.toNat < numEntries := by
      rw [h.writePos_eq]
      exact Nat.mod_lt _ h.pos
    have hcount : (f.numOccupied + 1).toNat = f.numOccupied.toNat + 1 := by
      rw [UInt32.toNat_add]
      apply Nat.mod_eq_of_lt
      change f.numOccupied.toNat + 1 < 2 ^ 32
      omega
    have hwrite : f.write val = some { f with
        entries := f.entries.set f.writePos.toNat val hplace
        writePos := next numEntries f.writePos
        numOccupied := f.numOccupied + 1 } := by
      rw [write, if_neg hfull, dif_pos hplace]
    refine ⟨_, hwrite, ⟨h.readPos_lt, ?_, ?_⟩, ?_⟩
    · rw [hcount]
      exact hlt
    · have hend : advance numEntries f.writePos.toNat =
          (f.readPos.toNat + (f.numOccupied.toNat + 1)) % numEntries := by
        rw [h.writePos_eq]
        exact RingBuffer.advance_end h.pos
      rw [toNat_next hsize hplace, hcount]
      exact hend
    · have hnotfull : f.contents.length ≠ numEntries := fun heq => hfull (h.isFull_iff.mpr heq)
      have hroom : f.numOccupied.toNat < f.entries.toList.length := by rwa [length_entries]
      have hpush : queued (f.entries.toList.set f.writePos.toNat val) f.readPos.toNat
          (f.numOccupied.toNat + 1) = f.contents ++ [val] := by
        have hstore := @RingBuffer.queued_push _ _ f.readPos.toNat _ hroom val
        rwa [length_entries, ← h.writePos_eq] at hstore
      rw [if_neg hnotfull, ← hpush, contents, hcount, Vector.toList_set]

/-- A peek at a queue that is not empty is at the oldest element. -/
theorem peek_eq (h : f.Valid) {a : α} {rest : List α} (hcontents : f.contents = a :: rest) :
    f.peek = some a := by
  have hlength := h.length_contents
  rw [hcontents, List.length_cons] at hlength
  have hplace : f.readPos.toNat < f.entries.toList.length := (length_entries f).symm ▸ h.readPos_lt
  have hcount : rest.length < f.entries.toList.length := by
    have := h.numOccupied_le
    rw [length_entries]
    omega
  rw [contents, ← hlength, RingBuffer.queued_pop hplace hcount] at hcontents
  obtain ⟨rfl, -⟩ := List.cons.inj hcontents
  rw [peek, Vector.getElem?_eq_getElem h.readPos_lt, Vector.getElem_toList]

/-- A peek at any queue is at one of its entries. -/
theorem Valid.exists_peek (h : f.Valid) : ∃ a, f.peek = some a :=
  ⟨_, Vector.getElem?_eq_getElem h.readPos_lt⟩

/-- A read of an empty queue changes nothing. -/
theorem read_empty (h : f.Valid) (hcontents : f.contents = []) :
    ∃ a, f.peek = some a ∧ f.read = some (a, f) := by
  obtain ⟨a, ha⟩ := h.exists_peek
  refine ⟨a, ha, ?_⟩
  rw [read, ha]
  show (if f.isEmpty = true then _ else _) = _
  rw [if_pos (h.isEmpty_iff.mpr hcontents)]
  rfl

/-- A read takes the oldest element off. -/
theorem read_eq (hsize : numEntries < 2 ^ 32) (h : f.Valid) {a : α} {rest : List α}
    (hcontents : f.contents = a :: rest) :
    ∃ f', f.read = some (a, f') ∧ f'.Valid ∧ f'.contents = rest := by
  have hlength := h.length_contents
  rw [hcontents, List.length_cons] at hlength
  have hle := h.numOccupied_le
  have hplace : f.readPos.toNat < f.entries.toList.length := (length_entries f).symm ▸ h.readPos_lt
  have hcount : rest.length < f.entries.toList.length := by
    rw [length_entries]
    omega
  have hless : (f.numOccupied - 1).toNat = rest.length := by
    have hone : (1 : UInt32) ≤ f.numOccupied := by
      rw [UInt32.le_iff_toNat_le]
      change 1 ≤ f.numOccupied.toNat
      omega
    rw [UInt32.toNat_sub_of_le _ _ hone]
    change f.numOccupied.toNat - 1 = rest.length
    omega
  have hnext := toNat_next hsize h.readPos_lt
  have hread : f.read = some (a, { f with
      readPos := next numEntries f.readPos
      numOccupied := f.numOccupied - 1 }) := by
    have hempty : ¬ f.isEmpty = true := by
      rw [h.isEmpty_iff, hcontents]
      exact List.cons_ne_nil _ _
    rw [read, peek_eq h hcontents]
    show (if f.isEmpty = true then _ else _) = _
    rw [if_neg hempty]
    rfl
  refine ⟨_, hread, ⟨?_, ?_, ?_⟩, ?_⟩
  · rw [hnext]
    exact RingBuffer.advance_lt h.readPos_lt
  · rw [hless]
    omega
  · rw [hnext, hless, RingBuffer.advance_start h.readPos_lt, hlength]
    exact h.writePos_eq
  · rw [contents, ← hlength, RingBuffer.queued_pop hplace hcount] at hcontents
    rw [contents, hnext, hless, RingBuffer.advance_eq h.readPos_lt]
    rw [length_entries] at hcontents
    exact (List.cons.inj hcontents).2

end Spec

end FIFO

end DSEmu

import Mathlib.Tactic.IntervalCases
import DSEmu.MelonDS.VRAM

/-!
# Which banks are mapped where

`placement` is the table of the hardware: the region and the slots at which a bank is for a value of
its register. Each of the six functions that `VRAMCNT` writes go to takes a bank away from where the
old value has it, and puts it where the new one has it (`writeVRAMCNT_eq`). So the arrays
`VRAMMap_x` and `VRAMPtr_x`, which the code keeps up to date bit by bit, always say what the nine
registers say (`Mapped`).
-/

namespace DSEmu.GPU

open BitSet (hasBit bit)
open Function (update)

/-- The places of the banks A and B. -/
def placementAB (cnt : UInt8) : Option (VRAMRegion × List ℕ) :=
  let ofs := ((cnt >>> 3) &&& 0x3).toNat
  match (cnt &&& 0x3).toNat with
  | 0 => some (.lcdc, [0])
  | 1 => some (.abg, List.range' (ofs <<< 3) 8)
  | 2 => some (.aobj, List.range' ((ofs &&& 0x1) <<< 3) 8)
  | 3 => some (.texture, [ofs])
  | _ => none

/-- The places of the banks C and D, which differ in the region of the second screen. -/
def placementCD (screen : VRAMRegion) (cnt : UInt8) : Option (VRAMRegion × List ℕ) :=
  let ofs := ((cnt >>> 3) &&& 0x7).toNat
  match (cnt &&& 0x7).toNat with
  | 0 => some (.lcdc, [0])
  | 1 => some (.abg, List.range' (ofs <<< 3) 8)
  | 2 => some (.arm7, [ofs &&& 0x1])
  | 3 => some (.texture, [ofs])
  | 4 => some (screen, List.range' 0 8)
  | _ => none

/-- The places of the bank E. -/
def placementE (cnt : UInt8) : Option (VRAMRegion × List ℕ) :=
  match (cnt &&& 0x7).toNat with
  | 0 => some (.lcdc, [0])
  | 1 => some (.abg, List.range' 0 4)
  | 2 => some (.aobj, List.range' 0 4)
  | 3 => some (.texPal, List.range' 0 4)
  | 4 => some (.abgExtPal, List.range' 0 4)
  | _ => none

/-- The places of the banks F and G. -/
def placementFG (cnt : UInt8) : Option (VRAMRegion × List ℕ) :=
  let ofs := ((cnt >>> 3) &&& 0x7).toNat
  let base := (ofs &&& 0x1) + ((ofs &&& 0x2) <<< 1)
  match (cnt &&& 0x7).toNat with
  | 0 => some (.lcdc, [0])
  | 1 => some (.abg, [base, base + 2])
  | 2 => some (.aobj, [base, base + 2])
  | 3 => some (.texPal, [base])
  | 4 => some (.abgExtPal, [(ofs &&& 0x1) <<< 1, ((ofs &&& 0x1) <<< 1) + 1])
  | 5 => some (.aobjExtPal, [0])
  | _ => none

/-- The places of the bank H. -/
def placementH (cnt : UInt8) : Option (VRAMRegion × List ℕ) :=
  match (cnt &&& 0x3).toNat with
  | 0 => some (.lcdc, [0])
  | 1 => some (.bbg, [0, 1, 4, 5])
  | 2 => some (.bbgExtPal, List.range' 0 4)
  | _ => none

/-- The places of the bank I. -/
def placementI (cnt : UInt8) : Option (VRAMRegion × List ℕ) :=
  match (cnt &&& 0x3).toNat with
  | 0 => some (.lcdc, [0])
  | 1 => some (.bbg, [2, 3, 6, 7])
  | 2 => some (.bobj, List.range' 0 8)
  | 3 => some (.bobjExtPal, [0])
  | _ => none

/-- The places of a bank, where it is enabled. -/
def places : ℕ → UInt8 → Option (VRAMRegion × List ℕ)
  | 0 => placementAB
  | 1 => placementAB
  | 2 => placementCD .bbg
  | 3 => placementCD .bobj
  | 4 => placementE
  | 5 => placementFG
  | 6 => placementFG
  | 7 => placementH
  | 8 => placementI
  | _ => fun _ => none

/-- Where a bank is for a value of its register. -/
def placement (bank : ℕ) (cnt : UInt8) : Option (VRAMRegion × List ℕ) :=
  if cnt &&& 0x80 = 0 then none else places bank cnt

/-- The bits of its register that a bank has. -/
def cntMask : ℕ → UInt8
  | 0 => 0x9B
  | 1 => 0x9B
  | 2 => 0x9F
  | 3 => 0x9F
  | 4 => 0x87
  | 5 => 0x9F
  | 6 => 0x9F
  | 7 => 0x83
  | 8 => 0x83
  | _ => 0

/-- Whether a slot of a region is among the places. -/
def Covers (place : Option (VRAMRegion × List ℕ)) (r : VRAMRegion) (i : ℕ) : Prop :=
  ∃ is, place = some (r, is) ∧ i ∈ is

instance (place : Option (VRAMRegion × List ℕ)) (r : VRAMRegion) (i : ℕ) :
    Decidable (Covers place r i) :=
  match place with
  | none => .isFalse (by simp [Covers])
  | some (r', is) =>
    decidable_of_iff (r' = r ∧ i ∈ is) (by simp [Covers, and_comm])

/-- A bank that is nowhere covers nothing. -/
@[simp] theorem not_covers_none (r : VRAMRegion) (i : ℕ) : ¬ Covers none r i := by simp [Covers]

/-- A bank covers the slots that its placement lists, of one region. -/
@[simp] theorem covers_some {r' : VRAMRegion} {is : List ℕ} {r : VRAMRegion} {i : ℕ} :
    Covers (some (r', is)) r i ↔ r' = r ∧ i ∈ is := by
  simp [Covers, and_comm]

/-- The words at some places are changed, and with them the pointers. -/
def change (place : Option (VRAMRegion × List ℕ)) (f : UInt32 → UInt32) (g : GPU) : GPU :=
  { g with
    vramMap := fun r i => if Covers place r i then f (g.vramMap r i) else g.vramMap r i
    vramPtr := fun r i =>
      if Covers place r i ∧ r.hasPtr = true then
        getUniqueBankPtr (f (g.vramMap r i)) (UInt32.ofNat i <<< (14 : UInt32))
      else g.vramPtr r i }

section Loops

variable {r : VRAMRegion} {f : UInt32 → UInt32} {is : List ℕ}

/-- A bank that is nowhere changes nothing. -/
@[simp] theorem change_none (f : UInt32 → UInt32) (g : GPU) : g.change none f = g := by
  simp [change]

/-- A bank without slots changes nothing. -/
theorem change_nil (f : UInt32 → UInt32) (g : GPU) : g.change (some (r, [])) f = g := by
  simp [change]

/-- Places are changed one after the other. -/
theorem change_cons {i : ℕ} (hi : i ∉ is) (g : GPU) :
    (g.change (some (r, [i])) f).change (some (r, is)) f = g.change (some (r, i :: is)) f := by
  have hmap : ∀ r' i', (if Covers (some (r, is)) r' i' then
        f (if Covers (some (r, [i])) r' i' then f (g.vramMap r' i') else g.vramMap r' i')
      else if Covers (some (r, [i])) r' i' then f (g.vramMap r' i') else g.vramMap r' i') =
      if Covers (some (r, i :: is)) r' i' then f (g.vramMap r' i') else g.vramMap r' i' := by
    intro r' i'
    simp only [covers_some, List.mem_cons]
    by_cases hi' : i' = i
    · subst hi'
      simp [hi]
    · simp [hi']
  have hptr : ∀ r' i', (if Covers (some (r, is)) r' i' ∧ r'.hasPtr = true then
        getUniqueBankPtr
          (f (if Covers (some (r, [i])) r' i' then f (g.vramMap r' i') else g.vramMap r' i'))
          (UInt32.ofNat i' <<< (14 : UInt32))
      else if Covers (some (r, [i])) r' i' ∧ r'.hasPtr = true then
        getUniqueBankPtr (f (g.vramMap r' i')) (UInt32.ofNat i' <<< (14 : UInt32))
      else g.vramPtr r' i') =
      if Covers (some (r, i :: is)) r' i' ∧ r'.hasPtr = true then
        getUniqueBankPtr (f (g.vramMap r' i')) (UInt32.ofNat i' <<< (14 : UInt32))
      else g.vramPtr r' i' := by
    intro r' i'
    simp only [covers_some, List.mem_cons]
    by_cases hi' : i' = i
    · subst hi'
      simp [hi]
    · simp [hi']
  unfold change
  congr 1
  · funext r' i'
    exact hmap r' i'
  · funext r' i'
    exact hptr r' i'

/-- One slot of a region without pointers. -/
theorem setMap_eq_change (hr : r.hasPtr = false) (i : ℕ) (g : GPU) :
    g.setMap r i (f (g.vramMap r i)) = g.change (some (r, [i])) f := by
  unfold setMap change
  congr 1
  · funext r' i'
    simp only [covers_some, List.mem_singleton]
    by_cases hr' : r' = r
    · subst hr'
      by_cases hi' : i' = i
      · subst hi'
        simp
      · simp [hi']
    · simp [hr', Ne.symm hr']
  · funext r' i'
    rw [if_neg]
    rintro ⟨h, hptr⟩
    obtain ⟨rfl, -⟩ := covers_some.mp h
    rw [hr] at hptr
    contradiction

/-- One slot of a region with pointers, and its pointer. -/
theorem setPtr_eq_change (hr : r.hasPtr = true) (i : ℕ) (g : GPU) :
    (g.setMap r i (f (g.vramMap r i))).setPtr r i = g.change (some (r, [i])) f := by
  unfold setMap setPtr change
  congr 1
  · funext r' i'
    simp only [covers_some, List.mem_singleton]
    by_cases hr' : r' = r
    · subst hr'
      by_cases hi' : i' = i
      · subst hi'
        simp
      · simp [hi']
    · simp [hr', Ne.symm hr']
  · funext r' i'
    simp only [covers_some, List.mem_singleton]
    by_cases hr' : r' = r
    · subst hr'
      by_cases hi' : i' = i
      · subst hi'
        simp [hr]
      · simp [hi']
    · simp [hr', Ne.symm hr']

/-- Several slots, one after another. -/
theorem foldl_setMap (hr : r.hasPtr = false) (hnodup : is.Nodup) (g : GPU) :
    is.foldl (fun g i => g.setMap r i (f (g.vramMap r i))) g = g.change (some (r, is)) f := by
  induction is generalizing g with
  | nil => exact (change_nil f g).symm
  | cons i is ih =>
    obtain ⟨hi, hnodup⟩ := List.nodup_cons.mp hnodup
    rw [List.foldl_cons, ih hnodup, setMap_eq_change hr, change_cons hi]

/-- Several slots, with their pointers. -/
theorem foldl_setMap_setPtr (hr : r.hasPtr = true) (hnodup : is.Nodup) (g : GPU) :
    is.foldl (fun g i => (g.setMap r i (f (g.vramMap r i))).setPtr r i) g =
      g.change (some (r, is)) f := by
  induction is generalizing g with
  | nil => exact (change_nil f g).symm
  | cons i is ih =>
    obtain ⟨hi, hnodup⟩ := List.nodup_cons.mp hnodup
    rw [List.foldl_cons, ih hnodup, setPtr_eq_change hr, change_cons hi]

/-- A pointer does not depend on the words at other slots. -/
theorem setPtr_foldl_setMap {i : ℕ} (hi : i ∉ is) (g : GPU) :
    (is.foldl (fun g i => g.setMap r i (f (g.vramMap r i))) g).setPtr r i =
      is.foldl (fun g i => g.setMap r i (f (g.vramMap r i))) (g.setPtr r i) := by
  induction is generalizing g with
  | nil => rfl
  | cons j is ih =>
    have hij : i ≠ j := List.ne_of_not_mem_cons hi
    have hi : i ∉ is := List.not_mem_of_not_mem_cons hi
    rw [List.foldl_cons, List.foldl_cons, ih hi]
    congr 1
    unfold setMap setPtr
    congr 1
    funext r' i'
    simp [hij]

/-- All words first and then all pointers, or one after the other. -/
theorem foldl_setMap_foldl_setPtr (hr : r.hasPtr = true) (hnodup : is.Nodup) (g : GPU) :
    is.foldl (fun g i => g.setPtr r i) (is.foldl (fun g i => g.setMap r i (f (g.vramMap r i))) g) =
      g.change (some (r, is)) f := by
  rw [← foldl_setMap_setPtr hr hnodup]
  induction is generalizing g with
  | nil => rfl
  | cons i is ih =>
    obtain ⟨hi, hnodup⟩ := List.nodup_cons.mp hnodup
    rw [List.foldl_cons, List.foldl_cons, List.foldl_cons, setPtr_foldl_setMap hi, ih hnodup]

variable {bank base n : ℕ}

/-- A loop that counts from zero, over the slots from a base. -/
theorem foldl_range {α : Type} (step : α → ℕ → α) (a : α) :
    (List.range n).foldl (fun a i => step a (base + i)) a = (List.range' base n).foldl step a := by
  rw [List.range'_eq_map_range, List.foldl_map]

/-- `MAP_RANGE` and `UNMAP_RANGE`. -/
theorem changeRange_eq (hr : r.hasPtr = false) (g : GPU) :
    (List.range n).foldl (fun g i => g.setMap r (base + i) (f (g.vramMap r (base + i)))) g =
      g.change (some (r, List.range' base n)) f :=
  (foldl_range (fun g i => g.setMap r i (f (g.vramMap r i))) g).trans
    (foldl_setMap hr List.nodup_range' g)

/-- `MAP_RANGE_PTR` and `UNMAP_RANGE_PTR`. -/
theorem changeRangePtr_eq (hr : r.hasPtr = true) (g : GPU) :
    (List.range n).foldl
        (fun g i => (g.setMap r (base + i) (f (g.vramMap r (base + i)))).setPtr r (base + i)) g =
      g.change (some (r, List.range' base n)) f :=
  (foldl_range (fun g i => (g.setMap r i (f (g.vramMap r i))).setPtr r i) g).trans
    (foldl_setMap_setPtr hr List.nodup_range' g)

end Loops

section Switches

/-! The two switches of a function do the same, but that one sets a bit and the other one clears it.
-/

variable (f : UInt32 → UInt32)

/-- A word is changed. -/
def changeMap (r : VRAMRegion) (i : ℕ) (g : GPU) : GPU := g.setMap r i (f (g.vramMap r i))

/-- The words of a range are changed. -/
def changeRange (r : VRAMRegion) (base n : ℕ) (g : GPU) : GPU :=
  (List.range n).foldl (fun g i => g.changeMap f r (base + i)) g

/-- The words of a range are changed, and each pointer behind its word. -/
def changeRangePtr (r : VRAMRegion) (base n : ℕ) (g : GPU) : GPU :=
  (List.range n).foldl (fun g i => (g.changeMap f r (base + i)).setPtr r (base + i)) g

/-- Some words are changed, and then their pointers. -/
def changeAll (r : VRAMRegion) (is : List ℕ) (g : GPU) : GPU :=
  is.foldl (fun g i => g.setPtr r i) (is.foldl (fun g i => g.changeMap f r i) g)

/-- The switch of `MapVRAM_AB`, for unmapping and for mapping. -/
def switchAB (cnt : UInt8) (g : GPU) : GPU :=
  let ofs := ((cnt >>> 3) &&& 0x3).toNat
  match (cnt &&& 0x3).toNat with
  | 0 => g.changeMap f .lcdc 0
  | 1 => g.changeRangePtr f .abg (ofs <<< 3) 8
  | 2 => g.changeRangePtr f .aobj ((ofs &&& 0x1) <<< 3) 8
  | 3 => g.changeMap f .texture ofs
  | _ => g

/-- The switch of `MapVRAM_CD`, without the case of the ARM7. -/
def switchCD (screen : VRAMRegion) (cnt : UInt8) (g : GPU) : GPU :=
  let ofs := ((cnt >>> 3) &&& 0x7).toNat
  match (cnt &&& 0x7).toNat with
  | 0 => g.changeMap f .lcdc 0
  | 1 => g.changeRangePtr f .abg (ofs <<< 3) 8
  | 2 => g.changeMap f .arm7 (ofs &&& 0x1)
  | 3 => g.changeMap f .texture ofs
  | 4 => g.changeRangePtr f screen 0 8
  | _ => g

/-- The switch of `MapVRAM_E`. -/
def switchE (cnt : UInt8) (g : GPU) : GPU :=
  match (cnt &&& 0x7).toNat with
  | 0 => g.changeMap f .lcdc 0
  | 1 => g.changeRangePtr f .abg 0 4
  | 2 => g.changeRangePtr f .aobj 0 4
  | 3 => g.changeRange f .texPal 0 4
  | 4 => g.changeRange f .abgExtPal 0 4
  | _ => g

/-- The switch of `MapVRAM_FG`. -/
def switchFG (cnt : UInt8) (g : GPU) : GPU :=
  let ofs := ((cnt >>> 3) &&& 0x7).toNat
  let base := (ofs &&& 0x1) + ((ofs &&& 0x2) <<< 1)
  match (cnt &&& 0x7).toNat with
  | 0 => g.changeMap f .lcdc 0
  | 1 => g.changeAll f .abg [base, base + 2]
  | 2 => g.changeAll f .aobj [base, base + 2]
  | 3 => g.changeMap f .texPal base
  | 4 => (g.changeMap f .abgExtPal ((ofs &&& 0x1) <<< 1)).changeMap f .abgExtPal
      (((ofs &&& 0x1) <<< 1) + 1)
  | 5 => g.changeMap f .aobjExtPal 0
  | _ => g

/-- The switch of `MapVRAM_H`. -/
def switchH (cnt : UInt8) (g : GPU) : GPU :=
  match (cnt &&& 0x3).toNat with
  | 0 => g.changeMap f .lcdc 0
  | 1 => g.changeAll f .bbg [0, 1, 4, 5]
  | 2 => g.changeRange f .bbgExtPal 0 4
  | _ => g

/-- The switch of `MapVRAM_I`. -/
def switchI (cnt : UInt8) (g : GPU) : GPU :=
  match (cnt &&& 0x3).toNat with
  | 0 => g.changeMap f .lcdc 0
  | 1 => g.changeAll f .bbg [2, 3, 6, 7]
  | 2 => g.changeRangePtr f .bobj 0 8
  | 3 => g.changeMap f .bobjExtPal 0
  | _ => g

/-- The switch changes the slots of the placement. -/
theorem switchAB_eq (cnt : UInt8) (g : GPU) : g.switchAB f cnt = g.change (placementAB cnt) f := by
  unfold switchAB placementAB
  rcases (cnt &&& 0x3).toNat with _ | _ | _ | _ | _
  · exact setMap_eq_change rfl 0 g
  · exact changeRangePtr_eq rfl g
  · exact changeRangePtr_eq rfl g
  · exact setMap_eq_change rfl _ g
  · exact (change_none f g).symm

/-- The switch changes the slots of the placement. -/
theorem switchCD_eq {screen : VRAMRegion} (hscreen : screen.hasPtr = true) (cnt : UInt8) (g : GPU) :
    g.switchCD f screen cnt = g.change (placementCD screen cnt) f := by
  unfold switchCD placementCD
  rcases (cnt &&& 0x7).toNat with _ | _ | _ | _ | _ | _
  · exact setMap_eq_change rfl 0 g
  · exact changeRangePtr_eq rfl g
  · exact setMap_eq_change rfl _ g
  · exact setMap_eq_change rfl _ g
  · exact changeRangePtr_eq hscreen g
  · exact (change_none f g).symm

/-- The switch changes the slots of the placement. -/
theorem switchE_eq (cnt : UInt8) (g : GPU) : g.switchE f cnt = g.change (placementE cnt) f := by
  unfold switchE placementE
  rcases (cnt &&& 0x7).toNat with _ | _ | _ | _ | _ | _
  · exact setMap_eq_change rfl 0 g
  · exact changeRangePtr_eq rfl g
  · exact changeRangePtr_eq rfl g
  · exact changeRange_eq rfl g
  · exact changeRange_eq rfl g
  · exact (change_none f g).symm

/-- The switch changes the slots of the placement. -/
theorem switchFG_eq (cnt : UInt8) (g : GPU) : g.switchFG f cnt = g.change (placementFG cnt) f := by
  have hpair : ∀ base : ℕ, [base, base + 2].Nodup := by simp
  have hpal : ∀ i : ℕ, [i, i + 1].Nodup := by simp
  unfold switchFG placementFG
  rcases (cnt &&& 0x7).toNat with _ | _ | _ | _ | _ | _ | _
  · exact setMap_eq_change rfl 0 g
  · exact foldl_setMap_foldl_setPtr rfl (hpair _) g
  · exact foldl_setMap_foldl_setPtr rfl (hpair _) g
  · exact setMap_eq_change rfl _ g
  · exact foldl_setMap rfl (hpal _) g
  · exact setMap_eq_change rfl 0 g
  · exact (change_none f g).symm

/-- The switch changes the slots of the placement. -/
theorem switchH_eq (cnt : UInt8) (g : GPU) : g.switchH f cnt = g.change (placementH cnt) f := by
  unfold switchH placementH
  rcases (cnt &&& 0x3).toNat with _ | _ | _ | _
  · exact setMap_eq_change rfl 0 g
  · exact foldl_setMap_foldl_setPtr rfl (by decide) g
  · exact changeRange_eq rfl g
  · exact (change_none f g).symm

/-- The switch changes the slots of the placement. -/
theorem switchI_eq (cnt : UInt8) (g : GPU) : g.switchI f cnt = g.change (placementI cnt) f := by
  unfold switchI placementI
  rcases (cnt &&& 0x3).toNat with _ | _ | _ | _ | _
  · exact setMap_eq_change rfl 0 g
  · exact foldl_setMap_foldl_setPtr rfl (by decide) g
  · exact changeRangePtr_eq rfl g
  · exact setMap_eq_change rfl 0 g
  · exact (change_none f g).symm

end Switches

section Functions

variable (bank : ℕ) (cnt : UInt8) (g : GPU)

/-- A bank is taken from where it was and put where it is now. -/
def move (old new : Option (VRAMRegion × List ℕ)) : GPU :=
  (g.change old (· &&& ~~~bit bank)).change new (· ||| bit bank)

/-- What the six functions have in common. -/
def reassign (switch : (UInt32 → UInt32) → UInt8 → GPU → GPU) (old : UInt8) : GPU :=
  let g := if old &&& 0x80 ≠ 0 then switch (· &&& ~~~bit bank) old g else g
  if cnt &&& 0x80 ≠ 0 then switch (· ||| bit bank) cnt g else g

/-- A bank is taken out of its old place and put into the new one. -/
theorem reassign_eq {switch : (UInt32 → UInt32) → UInt8 → GPU → GPU}
    {place : UInt8 → Option (VRAMRegion × List ℕ)}
    (h : ∀ f cnt g, switch f cnt g = g.change (place cnt) f) (old : UInt8) :
    g.reassign bank cnt switch old =
      g.move bank (if old &&& 0x80 = 0 then none else place old)
        (if cnt &&& 0x80 = 0 then none else place cnt) := by
  unfold reassign move
  by_cases hold : old &&& 0x80 = 0 <;> by_cases hnew : cnt &&& 0x80 = 0 <;> simp [hold, hnew, h]

/-- Whether a bank is in the memory of the ARM7. -/
def inARM7 (bank : ℕ) (cnt : UInt8) : Bool :=
  match placement bank cnt with
  | some (.arm7, _) => true
  | _ => false

/-- The bit of a bank in `VRAMSTAT`, which has one for the banks C and D. -/
def statBit : ℕ → UInt8
  | 2 => 0x01
  | 3 => 0x02
  | _ => 0

/-- What a write to a register does: the bit in `VRAMSTAT` is cleared in any case, and set where the
bank has just come to the ARM7. -/
def assign : GPU :=
  let old := g.vramCNT bank
  let written := { g with
    vramCNT := update g.vramCNT bank cnt
    vramSTAT := g.vramSTAT &&& ~~~statBit bank }
  if old = cnt then written
  else
    let moved := written.move bank (placement bank old) (placement bank cnt)
    if inARM7 bank cnt then
      { moved with
        vramDirty := update moved.vramDirty bank fun _ => true
        vramSTAT := moved.vramSTAT ||| statBit bank }
    else moved

variable {bank}

/-- The functions that know nothing of the ARM7. -/
theorem assign_eq_reassign {switch : (UInt32 → UInt32) → UInt8 → GPU → GPU}
    (hswitch : ∀ f cnt g, switch f cnt g = g.change (places bank cnt) f)
    (hstat : statBit bank = 0) (harm7 : inARM7 bank cnt = false) :
    g.assign bank cnt =
      let written := { g with vramCNT := update g.vramCNT bank cnt }
      if g.vramCNT bank = cnt then written
      else written.reassign bank cnt switch (g.vramCNT bank) := by
  have hnot : ∀ x : UInt8, x &&& ~~~(0 : UInt8) = x := by
    intro x
    rw [UInt8.not_zero, UInt8.and_neg_one]
  unfold assign
  simp only [hstat, harm7, hnot, Bool.false_eq_true, if_false]
  rw [reassign_eq bank cnt _ hswitch]
  rfl

/-- `MapVRAM_AB` in one case: the register, and unless it is the same, the move. -/
theorem mapVRAM_AB_eq : g.mapVRAM_AB bank cnt =
    let written := { g with vramCNT := update g.vramCNT bank (cnt &&& 0x9B) }
    if g.vramCNT bank = cnt &&& 0x9B then written
    else written.reassign bank (cnt &&& 0x9B) switchAB (g.vramCNT bank) := rfl

/-- `MapVRAM_E` likewise. -/
theorem mapVRAM_E_eq : g.mapVRAM_E bank cnt =
    let written := { g with vramCNT := update g.vramCNT bank (cnt &&& 0x87) }
    if g.vramCNT bank = cnt &&& 0x87 then written
    else written.reassign bank (cnt &&& 0x87) switchE (g.vramCNT bank) := rfl

/-- `MapVRAM_FG` likewise. -/
theorem mapVRAM_FG_eq : g.mapVRAM_FG bank cnt =
    let written := { g with vramCNT := update g.vramCNT bank (cnt &&& 0x9F) }
    if g.vramCNT bank = cnt &&& 0x9F then written
    else written.reassign bank (cnt &&& 0x9F) switchFG (g.vramCNT bank) := rfl

/-- `MapVRAM_H` likewise. -/
theorem mapVRAM_H_eq : g.mapVRAM_H bank cnt =
    let written := { g with vramCNT := update g.vramCNT bank (cnt &&& 0x83) }
    if g.vramCNT bank = cnt &&& 0x83 then written
    else written.reassign bank (cnt &&& 0x83) switchH (g.vramCNT bank) := rfl

/-- `MapVRAM_I` likewise. -/
theorem mapVRAM_I_eq : g.mapVRAM_I bank cnt =
    let written := { g with vramCNT := update g.vramCNT bank (cnt &&& 0x83) }
    if g.vramCNT bank = cnt &&& 0x83 then written
    else written.reassign bank (cnt &&& 0x83) switchI (g.vramCNT bank) := rfl

/-- A bank that comes to the ARM7 is marked as written to, as the ARM7's writes are not tracked. -/
theorem mapVRAM_CD_eq : g.mapVRAM_CD bank cnt =
    let statbit := (1 : UInt8) <<< UInt8.ofNat (bank - 2)
    let written := { g with
      vramCNT := update g.vramCNT bank (cnt &&& 0x9F)
      vramSTAT := g.vramSTAT &&& ~~~statbit }
    if g.vramCNT bank = cnt &&& 0x9F then written
    else
      let moved :=
        written.reassign bank (cnt &&& 0x9F) (switchCD · (if bank = 2 then .bbg else .bobj))
        (g.vramCNT bank)
      if cnt &&& 0x9F &&& 0x80 ≠ 0 ∧ (cnt &&& 0x9F &&& 0x7).toNat = 2 then
        { moved with
          vramDirty := update moved.vramDirty bank fun _ => true
          vramSTAT := moved.vramSTAT ||| statbit }
      else moved := by
  have hswitch : ∀ (cnt statbit : UInt8) (screen : VRAMRegion) (g : GPU),
      (match (cnt &&& 0x7).toNat with
      | 0 => g.orMap .lcdc bank 0
      | 1 => g.mapRangePtr .abg bank (((cnt >>> 3) &&& 0x7).toNat <<< 3) 8
      | 2 =>
        let g := g.orMap .arm7 bank (((cnt >>> 3) &&& 0x7).toNat &&& 0x1)
        { g with
          vramDirty := update g.vramDirty bank fun _ => true
          vramSTAT := g.vramSTAT ||| statbit }
      | 3 => g.orMap .texture bank ((cnt >>> 3) &&& 0x7).toNat
      | 4 => g.mapRangePtr screen bank 0 8
      | _ => g) =
      let moved := g.switchCD (· ||| bit bank) screen cnt
      if (cnt &&& 0x7).toNat = 2 then
        { moved with
          vramDirty := update moved.vramDirty bank fun _ => true
          vramSTAT := moved.vramSTAT ||| statbit }
      else moved := by
    intro cnt statbit screen g
    unfold switchCD
    rcases (cnt &&& 0x7).toNat with _ | _ | _ | _ | _ | mode
    case succ.succ.zero => rfl
    all_goals
      dsimp only
      rw [if_neg (by omega)]
      rfl
  unfold mapVRAM_CD reassign
  dsimp only
  by_cases hsame : g.vramCNT bank = cnt &&& 0x9F
  · rw [if_pos hsame, if_pos hsame]
  · rw [if_neg hsame, if_neg hsame]
    by_cases hnew : cnt &&& 0x9F &&& 0x80 = 0
    · simp only [hnew, ne_eq, not_true_eq_false, if_false, false_and]
      rfl
    · simp only [hnew, ne_eq, not_false_eq_true, if_true, true_and]
      exact hswitch _ _ _ _

/-- Only the banks C and D come to the ARM7. -/
theorem inARM7_eq_false (hC : bank ≠ 2) (hD : bank ≠ 3) : inARM7 bank cnt = false := by
  have harm7 : ∀ is, places bank cnt ≠ some (.arm7, is) := by
    intro is
    unfold places
    split <;> try contradiction
    case h_10 => exact nofun
    all_goals
      simp only [placementAB, placementE, placementFG, placementH, placementI]
      split <;> exact nofun
  unfold inARM7 placement
  by_cases henabled : cnt &&& 0x80 = 0
  · rw [if_pos henabled]
  · rw [if_neg henabled]
    split
    case h_1 is hplace => exact absurd hplace (harm7 _)
    case h_2 => rfl

/-- The bank is with the ARM7 in one mode only. -/
theorem inARM7_placementCD {screen : VRAMRegion} (hscreen : screen ≠ .arm7)
    (hplaces : places bank = placementCD screen) :
    inARM7 bank cnt = true ↔ cnt &&& 0x80 ≠ 0 ∧ (cnt &&& 0x7).toNat = 2 := by
  unfold inARM7 placement
  rw [hplaces]
  by_cases henabled : cnt &&& 0x80 = 0
  · simp [henabled]
  · rw [if_neg henabled]
    unfold placementCD
    rcases (cnt &&& 0x7).toNat with _ | _ | _ | _ | _ | mode
    all_goals simp [henabled]
    cases screen <;> simp_all

/-- `MapVRAM_CD` is the assignment of the register, for each of the two banks. -/
theorem mapVRAM_CD_eq_assign {screen : VRAMRegion} (hptr : screen.hasPtr = true)
    (hscreen : (if bank = 2 then VRAMRegion.bbg else .bobj) = screen)
    (hplaces : places bank = placementCD screen)
    (hstat : (1 : UInt8) <<< UInt8.ofNat (bank - 2) = statBit bank) :
    g.mapVRAM_CD bank cnt = g.assign bank (cnt &&& 0x9F) := by
  have hne : screen ≠ .arm7 := by
    rintro rfl
    contradiction
  have hswitch : ∀ f cnt (g : GPU), g.switchCD f screen cnt = g.change (places bank cnt) f := by
    intro f cnt g
    rw [hplaces]
    exact switchCD_eq f hptr cnt g
  rw [mapVRAM_CD_eq, hscreen, hstat, assign]
  dsimp only
  rw [reassign_eq bank _ _ hswitch]
  by_cases harm7 : inARM7 bank (cnt &&& 0x9F) = true
  · rw [if_pos harm7, if_pos ((inARM7_placementCD _ hne hplaces).mp harm7)]
    rfl
  · rw [if_neg harm7, if_neg fun h => harm7 ((inARM7_placementCD _ hne hplaces).mpr h)]
    rfl

/-- What a write to a register does. -/
theorem writeVRAMCNT_eq (hbank : bank < 9) :
    g.writeVRAMCNT bank cnt = g.assign bank (cnt &&& cntMask bank) := by
  interval_cases bank
  · exact (mapVRAM_AB_eq cnt g).trans
      (assign_eq_reassign _ g switchAB_eq rfl (inARM7_eq_false _ (by decide) (by decide))).symm
  · exact (mapVRAM_AB_eq cnt g).trans
      (assign_eq_reassign _ g switchAB_eq rfl (inARM7_eq_false _ (by decide) (by decide))).symm
  · exact mapVRAM_CD_eq_assign cnt g rfl rfl rfl (by decide)
  · exact mapVRAM_CD_eq_assign cnt g rfl rfl rfl (by decide)
  · exact (mapVRAM_E_eq cnt g).trans
      (assign_eq_reassign _ g switchE_eq rfl (inARM7_eq_false _ (by decide) (by decide))).symm
  · exact (mapVRAM_FG_eq cnt g).trans
      (assign_eq_reassign _ g switchFG_eq rfl (inARM7_eq_false _ (by decide) (by decide))).symm
  · exact (mapVRAM_FG_eq cnt g).trans
      (assign_eq_reassign _ g switchFG_eq rfl (inARM7_eq_false _ (by decide) (by decide))).symm
  · exact (mapVRAM_H_eq cnt g).trans
      (assign_eq_reassign _ g switchH_eq rfl (inARM7_eq_false _ (by decide) (by decide))).symm
  · exact (mapVRAM_I_eq cnt g).trans
      (assign_eq_reassign _ g switchI_eq rfl (inARM7_eq_false _ (by decide) (by decide))).symm

end Functions

section Slots

/-- The offset of a register has two bits, though the functions look at three. -/
theorem offset_le (cnt : UInt8) : ((cnt &&& 0x9F) >>> 3 &&& 0x7).toNat ≤ 3 := by
  have hall : ∀ n : Fin 256, ((UInt8.ofNat n &&& 0x9F) >>> 3 &&& 0x7).toNat ≤ 3 := by decide +kernel
  have h := hall ⟨cnt.toNat, cnt.toNat_lt⟩
  rwa [UInt8.ofNat_toNat] at h

/-- The offset has two bits. -/
theorem offsetAB_le (cnt : UInt8) : (cnt >>> 3 &&& 0x3).toNat ≤ 3 := by
  rw [UInt8.toNat_and]
  exact Nat.and_le_right

variable {cnt : UInt8} {r : VRAMRegion} {is : List ℕ} {i : ℕ}

/-- The slots of banks A and B exist. -/
theorem lt_slots_placementAB (h : placementAB cnt = some (r, is)) (hi : i ∈ is) : i < r.slots := by
  have hofs := offsetAB_le cnt
  have hone : (cnt >>> 3 &&& 0x3).toNat &&& 0x1 ≤ 1 := Nat.and_le_right
  unfold placementAB at h
  split at h <;> cases h <;>
    simp only [List.mem_singleton, List.mem_range'_1, Nat.shiftLeft_eq] at hi <;>
    simp only [VRAMRegion.slots] <;> omega

/-- The slots of banks C and D exist, as the mask of the register leaves two bits of the offset. -/
theorem lt_slots_placementCD {screen : VRAMRegion} (hscreen : screen.slots = 8)
    (hofs : (cnt >>> 3 &&& 0x7).toNat ≤ 3) (h : placementCD screen cnt = some (r, is))
    (hi : i ∈ is) :
    i < r.slots := by
  have hone : (cnt >>> 3 &&& 0x7).toNat &&& 0x1 ≤ 1 := Nat.and_le_right
  unfold placementCD at h
  split at h <;> cases h <;>
    simp only [List.mem_singleton, List.mem_range'_1, Nat.shiftLeft_eq] at hi <;>
    first | (rw [hscreen]; omega) | (simp only [VRAMRegion.slots]; omega)

/-- The slots of bank E exist. -/
theorem lt_slots_placementE (h : placementE cnt = some (r, is)) (hi : i ∈ is) : i < r.slots := by
  unfold placementE at h
  split at h <;> cases h <;>
    simp only [List.mem_singleton, List.mem_range'_1] at hi <;>
    simp only [VRAMRegion.slots] <;> omega

/-- The slots of banks F and G exist. -/
theorem lt_slots_placementFG (h : placementFG cnt = some (r, is)) (hi : i ∈ is) : i < r.slots := by
  have hone : (cnt >>> 3 &&& 0x7).toNat &&& 0x1 ≤ 1 := Nat.and_le_right
  have htwo : (cnt >>> 3 &&& 0x7).toNat &&& 0x2 ≤ 2 := Nat.and_le_right
  unfold placementFG at h
  split at h <;> cases h <;>
    simp only [List.mem_cons, List.not_mem_nil, or_false, Nat.shiftLeft_eq] at hi <;>
    simp only [VRAMRegion.slots] <;> omega

/-- The slots of bank H exist. -/
theorem lt_slots_placementH (h : placementH cnt = some (r, is)) (hi : i ∈ is) : i < r.slots := by
  unfold placementH at h
  split at h <;> cases h <;>
    simp only [List.mem_cons, List.not_mem_nil, or_false, List.mem_range'_1] at hi <;>
    simp only [VRAMRegion.slots] <;> omega

/-- The slots of bank I exist. -/
theorem lt_slots_placementI (h : placementI cnt = some (r, is)) (hi : i ∈ is) : i < r.slots := by
  unfold placementI at h
  split at h <;> cases h <;>
    simp only [List.mem_cons, List.not_mem_nil, or_false, List.mem_range'_1] at hi <;>
    simp only [VRAMRegion.slots] <;> omega

/-- A register places its bank at slots that there are. -/
theorem lt_slots {bank : ℕ} (h : Covers (placement bank (cnt &&& cntMask bank)) r i) :
    i < r.slots := by
  obtain ⟨is, hplace, hi⟩ := h
  unfold placement at hplace
  split at hplace
  · contradiction
  · unfold places at hplace
    split at hplace
    · exact lt_slots_placementAB hplace hi
    · exact lt_slots_placementAB hplace hi
    · exact lt_slots_placementCD rfl (offset_le cnt) hplace hi
    · exact lt_slots_placementCD rfl (offset_le cnt) hplace hi
    · exact lt_slots_placementE hplace hi
    · exact lt_slots_placementFG hplace hi
    · exact lt_slots_placementFG hplace hi
    · exact lt_slots_placementH hplace hi
    · exact lt_slots_placementI hplace hi
    · contradiction

/-- The banks that can be in a region. -/
def banks : VRAMRegion → List ℕ
  | .lcdc => [0, 1, 2, 3, 4, 5, 6, 7, 8]
  | .abg => [0, 1, 2, 3, 4, 5, 6]
  | .aobj => [0, 1, 4, 5, 6]
  | .bbg => [2, 7, 8]
  | .bobj => [3, 8]
  | .abgExtPal => [4, 5, 6]
  | .aobjExtPal => [5, 6]
  | .bbgExtPal => [7]
  | .bobjExtPal => [8]
  | .texture => [0, 1, 2, 3]
  | .texPal => [4, 5, 6]
  | .arm7 => [2, 3]

/-- A bank that covers a slot of a region is one of the region's. -/
theorem mem_banks {bank : ℕ} (h : Covers (placement bank cnt) r i) : bank ∈ banks r := by
  obtain ⟨is, hplace, -⟩ := h
  unfold placement at hplace
  split at hplace
  · contradiction
  · unfold places at hplace
    split at hplace
    all_goals
      simp only [placementAB, placementCD, placementE, placementFG, placementH,
        placementI] at hplace
      try split at hplace
      all_goals first | contradiction | (cases hplace; decide)

end Slots

section Mapped

/-- The mapping is what the registers say, and each pointer is what its word says. -/
structure Mapped (g : GPU) : Prop where
  word : ∀ r i b, hasBit (g.vramMap r i) b = true ↔ b < 9 ∧ Covers (placement b (g.vramCNT b)) r i
  pointer : ∀ r i, r.hasPtr = true →
    g.vramPtr r i = getUniqueBankPtr (g.vramMap r i) (UInt32.ofNat i <<< (14 : UInt32))

/-- At power on nothing is mapped. -/
theorem mapped_initial : Mapped {} where
  word r i b := by
    have hnone : placement b 0 = none := if_pos rfl
    simp [hnone]
  pointer r i _ := rfl

variable {g : GPU} {bank : ℕ}

/-- A word after a bank has moved. -/
theorem hasBit_move (hbank : bank < 9) (old new : Option (VRAMRegion × List ℕ)) (r : VRAMRegion)
    (i b : ℕ) : hasBit ((g.move bank old new).vramMap r i) b = true ↔
      (hasBit (g.vramMap r i) b = true ∧ ¬(b = bank ∧ Covers old r i)) ∨
        (b = bank ∧ Covers new r i) := by
  have hlt : bank < 32 := by omega
  unfold move change
  dsimp only
  by_cases hnew : Covers new r i <;> by_cases hold : Covers old r i <;>
    simp [hnew, hold, BitSet.hasBit_or_bit _ hlt, BitSet.hasBit_and_not_bit _ hlt]

/-- Pointers stay those of their words. -/
theorem pointer_change {place : Option (VRAMRegion × List ℕ)} {f : UInt32 → UInt32} {r : VRAMRegion}
    {i : ℕ} (hr : r.hasPtr = true)
    (h : g.vramPtr r i = getUniqueBankPtr (g.vramMap r i) (UInt32.ofNat i <<< (14 : UInt32))) :
    (g.change place f).vramPtr r i =
      getUniqueBankPtr ((g.change place f).vramMap r i) (UInt32.ofNat i <<< (14 : UInt32)) := by
  unfold change
  dsimp only
  by_cases hcovers : Covers place r i
  · rw [if_pos ⟨hcovers, hr⟩, if_pos hcovers]
  · rw [if_neg fun h => hcovers h.1, if_neg hcovers, h]

/-- The mapping after a write to a register. -/
theorem assign_vramMap (cnt : UInt8) : (g.assign bank cnt).vramMap =
    if g.vramCNT bank = cnt then g.vramMap
    else (g.move bank (placement bank (g.vramCNT bank)) (placement bank cnt)).vramMap := by
  unfold assign
  dsimp only
  split
  · rfl
  · split <;> rfl

/-- A register that is written with what it has leaves the pointers alone. -/
theorem assign_vramPtr (cnt : UInt8) : (g.assign bank cnt).vramPtr =
    if g.vramCNT bank = cnt then g.vramPtr
    else (g.move bank (placement bank (g.vramCNT bank)) (placement bank cnt)).vramPtr := by
  unfold assign
  dsimp only
  split
  · rfl
  · split <;> rfl

/-- The register that is written. -/
theorem assign_vramCNT (cnt : UInt8) : (g.assign bank cnt).vramCNT = update g.vramCNT bank cnt := by
  unfold assign
  dsimp only
  split
  · rfl
  · split <;> rfl

/-- A write to a register moves its bank, and no other. -/
theorem Mapped.assign (h : g.Mapped) (hbank : bank < 9) (cnt : UInt8) :
    (g.assign bank cnt).Mapped where
  word r i b := by
    rw [assign_vramMap, assign_vramCNT]
    by_cases hb : b = bank
    · subst hb
      rw [Function.update_self]
      split
      case isTrue hsame => rw [h.word, hsame]
      case isFalse hne =>
        rw [hasBit_move hbank, h.word]
        constructor
        · rintro (⟨⟨-, hold⟩, hnot⟩ | ⟨-, hnew⟩)
          · exact absurd ⟨rfl, hold⟩ hnot
          · exact ⟨hbank, hnew⟩
        · exact fun hnew => Or.inr ⟨rfl, hnew.2⟩
    · rw [Function.update_of_ne hb]
      split
      case isTrue hsame => exact h.word r i b
      case isFalse hne =>
        rw [hasBit_move hbank, h.word]
        simp [hb]
  pointer r i hr := by
    rw [assign_vramMap, assign_vramPtr]
    split
    case isTrue hsame => exact h.pointer r i hr
    case isFalse hne => exact pointer_change hr (pointer_change hr (h.pointer r i hr))

end Mapped

end DSEmu.GPU

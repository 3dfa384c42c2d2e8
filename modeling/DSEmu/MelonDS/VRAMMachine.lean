import DSEmu.Library.MarkedCopies
import DSEmu.Library.Words
import DSEmu.MelonDS.VRAMTracking
import DSEmu.MelonDS.VideoMemory

/-!
# Runs of the video memory

`VRAMMachine` joins the mapping, the accesses of both processors, the capture of lines of the
picture, savestates and the copies of the renderers, in any order. `Invariant` holds in every state
of it (`invariant_run`).

The copies share the marks of the banks: an update of one region clears the marks of a bank that
another region may still have to copy from, if it gets the bank back at the same place before it has
been updated itself. `disturbed` keeps book of the bytes for which that has happened.
-/

namespace DSEmu

open BitSet (hasBit bit)
open Function (update)

namespace GPU

/-- `DoCapture`, but for the composition of the pixels. -/
def doCapture (captureCnt : UInt32) (line width : ℕ) (pixel : ℕ → UInt16) (g : GPU) : GPU :=
  let dstvram := ((captureCnt >>> 16) &&& 0x3).toNat
  if hasBit (g.vramMap .lcdc 0) dstvram = true then
    let dstaddr :=
      ((((captureCnt >>> 18) &&& 0x3) <<< (14 : UInt32)) + UInt32.ofNat (line * width)) &&& 0xFFFF
    let g := g.setDirty dstvram (dstaddr.toNat * 2 / vramDirtyGranularity)
    (List.range width).foldl (fun g i =>
      g.store dstvram (((dstaddr + UInt32.ofNat i) &&& 0xFFFF).toNat * 2)
        (littleEndian16 (pixel i))) g
  else g

/-- The end of `DrawScanline` of the first screen, with `CaptureLatch`. -/
def capture (captureCnt : UInt32) (line : ℕ) (pixel : ℕ → UInt16) (g : GPU) : GPU :=
  let (capwidth, capheight) := captureSize captureCnt
  if line < capheight then g.doCapture captureCnt line capwidth pixel else g

/-- What `DoSavestate` writes of the video memory. -/
structure Saved where
  vram : ℕ → ℕ → UInt8
  vramCNT : ℕ → UInt8
  vramSTAT : UInt8
  vramMap : VRAMRegion → ℕ → UInt32

/-- `DoSavestate` that saves. -/
def doSave (g : GPU) : Saved where
  vram := g.vram
  vramCNT := g.vramCNT
  vramSTAT := g.vramSTAT
  vramMap := g.vramMap

/-- `ResetVRAMCache`. -/
def resetVRAMCache (g : GPU) : GPU :=
  { g with
    vramDirty := fun _ _ => false
    mapping := fun _ _ => 0x8000
    vramFlat := fun _ _ => 0 }

/-- `DoSavestate` that loads: the pointers are made again from the mapping. -/
def doLoad (saved : Saved) (g : GPU) : GPU :=
  resetVRAMCache { g with
    vram := saved.vram
    vramCNT := saved.vramCNT
    vramSTAT := saved.vramSTAT
    vramMap := saved.vramMap
    vramPtr := fun r i =>
      if r.hasPtr = true ∧ i < r.slots then
        getUniqueBankPtr (saved.vramMap r i) (UInt32.ofNat i <<< (14 : UInt32))
      else g.vramPtr r i }

/-! ### Captures -/

section Capture

variable {g : GPU} {bank : ℕ}

/-- Two pieces that are stored one behind the other are one. -/
theorem store_store (offset : ℕ) (before val : List UInt8) :
    (g.store bank offset before).store bank (offset + before.length) val =
      g.store bank offset (before ++ val) := by
  unfold store
  congr 1
  rw [Function.update_idem]
  congr 1
  funext o
  dsimp only
  rw [Function.update_self, List.length_append]
  by_cases hval : offset + before.length ≤ o ∧ o < offset + before.length + val.length
  · rw [if_pos hval, if_pos (by omega), List.getD_append_right _ _ _ _ (by omega)]
    congr 1
    omega
  · rw [if_neg hval]
    by_cases hbefore : offset ≤ o ∧ o < offset + before.length
    · rw [if_pos hbefore, if_pos (by omega), List.getD_append _ _ _ _ (by omega)]
    · rw [if_neg hbefore, if_neg (by omega)]

/-- Storing nothing. -/
theorem store_nil (offset : ℕ) : g.store bank offset [] = g := by
  have hsame : (fun o => if offset ≤ o ∧ o < offset + ([] : List UInt8).length then
      ([] : List UInt8).getD (o - offset) 0 else g.vram bank o) = g.vram bank := by
    funext o
    rw [if_neg (by rw [List.length_nil]; omega)]
  unfold store
  rw [hsame, Function.update_eq_self]

/-- A pixel has two bytes. -/
theorem length_pixels (pixel : ℕ → UInt16) (n : ℕ) :
    ((List.range n).flatMap fun i => littleEndian16 (pixel i)).length = 2 * n := by
  induction n with
  | zero => rfl
  | succ n ih =>
    rw [List.range_succ, List.flatMap_append, List.length_append, ih]
    simp [littleEndian16]
    omega

/-- The pixels are stored one after the other. -/
theorem foldl_store (offset : ℕ) (pixel : ℕ → UInt16) (n : ℕ) :
    (List.range n).foldl (fun g i => g.store bank (offset + 2 * i) (littleEndian16 (pixel i))) g =
      g.store bank offset ((List.range n).flatMap fun i => littleEndian16 (pixel i)) := by
  induction n with
  | zero => exact (store_nil offset).symm
  | succ n ih =>
    rw [List.range_succ, List.foldl_append, ih, List.flatMap_append, ← store_store, length_pixels]
    simp

variable (captureCnt : UInt32) (line : ℕ)

/-- The four sizes of a capture. -/
theorem captureSize_cases :
    (captureSize captureCnt = (128, 128) ∨ captureSize captureCnt = (256, 64) ∨
    captureSize captureCnt = (256, 128) ∨ captureSize captureCnt = (256, 192)) := by
  unfold captureSize
  split <;> simp

/-- A line ends where a block ends, or in its middle, so it does not wrap around. -/
theorem captureStart_spec :
    (VideoMemory.captureStart captureCnt line + (captureSize captureCnt).1 ≤ 2 ^ 16) ∧
    ∀ o, VideoMemory.captureStart captureCnt line * 2 ≤ o →
      o < VideoMemory.captureStart captureCnt line * 2 + 2 * (captureSize captureCnt).1 →
        o / 512 = VideoMemory.captureStart captureCnt line * 2 / 512 := by
  unfold VideoMemory.captureStart
  rcases captureSize_cases captureCnt with h | h | h | h <;> rw [h] <;>
    exact ⟨by omega, fun o hle hlt => by omega⟩

/-- The lowest two bits. -/
theorem toNat_and_three (x : UInt32) : (x &&& 0x3).toNat = x.toNat % 4 := by
  rw [UInt32.toNat_and]
  exact Nat.and_two_pow_sub_one_eq_mod x.toNat 2

/-- The lowest 16 bits. -/
theorem toNat_and_0xFFFF (x : UInt32) : (x &&& 0xFFFF).toNat = x.toNat % 2 ^ 16 := by
  rw [UInt32.toNat_and]
  exact Nat.and_two_pow_sub_one_eq_mod x.toNat 16

/-- The address of a captured line, as a number. -/
theorem toNat_captureStart {width : ℕ} (hwidth : (captureSize captureCnt).1 = width) :
    (((((captureCnt >>> 18) &&& 0x3) <<< (14 : UInt32)) + UInt32.ofNat (line * width)) &&&
      0xFFFF).toNat =
      VideoMemory.captureStart captureCnt line := by
  have hshift : (((captureCnt >>> 18) &&& 0x3) <<< (14 : UInt32)).toNat =
      ((captureCnt >>> 18) &&& 0x3).toNat * 2 ^ 14 := by
    have hlt : ((captureCnt >>> 18) &&& 0x3).toNat < 4 := by
      rw [toNat_and_three]
      exact Nat.mod_lt _ (by decide)
    rw [UInt32.toNat_shiftLeft]
    show ((captureCnt >>> 18) &&& 0x3).toNat <<< 14 % 4294967296 = _
    rw [Nat.shiftLeft_eq]
    omega
  rw [toNat_and_0xFFFF, UInt32.toNat_add, hshift, UInt32.toNat_ofNat', VideoMemory.captureStart,
    hwidth]
  omega

/-- What a capture does: one write of the line, and the mark of its block. -/
theorem doCapture_eq (pixel : ℕ → UInt16) :
    g.doCapture captureCnt line (captureSize captureCnt).1 pixel =
      if hasBit (g.vramMap .lcdc 0) ((captureCnt >>> 16) &&& 0x3).toNat = true then
        (g.setDirty ((captureCnt >>> 16) &&& 0x3).toNat
          (VideoMemory.captureStart captureCnt line * 2 / vramDirtyGranularity)).store
          ((captureCnt >>> 16) &&& 0x3).toNat (VideoMemory.captureStart captureCnt line * 2)
          ((List.range (captureSize captureCnt).1).flatMap fun i => littleEndian16 (pixel i))
      else g := by
  unfold doCapture
  dsimp only
  have hstart := toNat_captureStart captureCnt line rfl
  obtain ⟨hend, -⟩ := captureStart_spec captureCnt line
  rw [hstart, ← foldl_store]
  refine if_congr Iff.rfl ?_ rfl
  refine List.foldl_ext _ _ _ fun g i hi => ?_
  have hi := List.mem_range.mp hi
  congr 1
  rw [toNat_and_0xFFFF, UInt32.toNat_add, hstart, UInt32.toNat_ofNat']
  omega

end Capture

/-! ### Events -/

/-- What the nine registers say, and nothing else, is in the mapping and in `VRAMSTAT`. -/
structure Registers (g : GPU) : Prop where
  mapped : g.Mapped
  masked : ∀ b, g.vramCNT b &&& cntMask b = g.vramCNT b
  stat : ∀ b, g.vramSTAT &&& statBit b ≠ 0 → inARM7 b (g.vramCNT b) = true

/-- The registers at power on. -/
theorem registers_initial : Registers {} where
  mapped := mapped_initial
  masked _ := UInt8.zero_and
  stat _ h := absurd UInt8.zero_and h

section Assign

variable {g : GPU} {bank : ℕ} (cnt : UInt8)

/-- Mapping leaves the bytes of the banks alone. -/
theorem assign_vram : (g.assign bank cnt).vram = g.vram := by
  unfold assign
  dsimp only
  split
  · rfl
  · split <;> rfl

/-- Mapping leaves what the copies were last made from alone. -/
theorem assign_mapping : (g.assign bank cnt).mapping = g.mapping := by
  unfold assign
  dsimp only
  split
  · rfl
  · split <;> rfl

/-- Mapping leaves the copies alone. -/
theorem assign_vramFlat : (g.assign bank cnt).vramFlat = g.vramFlat := by
  unfold assign
  dsimp only
  split
  · rfl
  · split <;> rfl

/-- A bank that goes to the ARM7 is marked as a whole. -/
theorem assign_vramDirty : (g.assign bank cnt).vramDirty =
    if g.vramCNT bank ≠ cnt ∧ inARM7 bank cnt = true then update g.vramDirty bank fun _ => true
    else g.vramDirty := by
  unfold assign
  dsimp only
  by_cases hsame : g.vramCNT bank = cnt
  · rw [if_pos hsame, if_neg fun h => h.1 hsame]
  · rw [if_neg hsame]
    by_cases harm7 : inARM7 bank cnt = true
    · rw [if_pos harm7, if_pos ⟨hsame, harm7⟩]
      rfl
    · rw [if_neg harm7, if_neg fun h => harm7 h.2]
      rfl

/-- The bit of `VRAMSTAT` says whether the bank is with the ARM7. -/
theorem assign_vramSTAT : (g.assign bank cnt).vramSTAT =
    if g.vramCNT bank ≠ cnt ∧ inARM7 bank cnt = true then
      g.vramSTAT &&& ~~~statBit bank ||| statBit bank
    else g.vramSTAT &&& ~~~statBit bank := by
  unfold assign
  dsimp only
  by_cases hsame : g.vramCNT bank = cnt
  · rw [if_pos hsame, if_neg fun h => h.1 hsame]
  · rw [if_neg hsame]
    by_cases harm7 : inARM7 bank cnt = true
    · rw [if_pos harm7, if_pos ⟨hsame, harm7⟩]
      rfl
    · rw [if_neg harm7, if_neg fun h => harm7 h.2]
      rfl

/-- Only banks C and D have a bit in `VRAMSTAT`. -/
theorem statBit_cases (b : ℕ) : b = 2 ∨ b = 3 ∨ statBit b = 0 := by
  unfold statBit
  split <;> simp

/-- Each of the two banks has its own bit. -/
theorem and_statBit_of_ne {b : ℕ} (hb : b ≠ bank) (x : UInt8) :
    (x &&& ~~~statBit bank ||| statBit bank) &&& statBit b = x &&& statBit b ∧
      (x &&& ~~~statBit bank) &&& statBit b = x &&& statBit b := by
  have hbits : ∀ b c : ℕ, b ≠ c → (~~~statBit c) &&& statBit b = statBit b ∧
      statBit c &&& statBit b = 0 := by
    intro b c hne
    rcases statBit_cases b with rfl | rfl | hb <;> rcases statBit_cases c with rfl | rfl | hc
    all_goals first | contradiction | decide | skip
    all_goals
      first
      | (rw [hb]; exact ⟨UInt8.and_zero, UInt8.and_zero⟩)
      | (rw [hc]; exact ⟨by decide, by decide⟩)
  obtain ⟨hnot, hand⟩ := hbits b bank hb
  constructor
  · rw [UInt8.and_or_distrib_right, UInt8.and_assoc, hnot, hand, UInt8.or_zero]
  · rw [UInt8.and_assoc, hnot]

/-- A write to a control register keeps the registers as they should be. -/
theorem Registers.assign (h : g.Registers) (hbank : bank < 9) :
    (g.assign bank (cnt &&& cntMask bank)).Registers where
  mapped := h.mapped.assign hbank _
  masked b := by
    rw [assign_vramCNT, Function.update_apply]
    split
    case isTrue hb => rw [hb, UInt8.and_assoc, UInt8.and_self]
    case isFalse hb => exact h.masked b
  stat b hbit := by
    rw [assign_vramSTAT] at hbit
    rw [assign_vramCNT, Function.update_apply]
    by_cases hb : b = bank
    · subst hb
      rw [if_pos rfl]
      by_contra harm7
      rw [if_neg fun h => harm7 h.2, UInt8.and_assoc, UInt8.not_and_self, UInt8.and_zero] at hbit
      exact hbit rfl
    · rw [if_neg hb]
      obtain ⟨hset, hclear⟩ := and_statBit_of_ne hb g.vramSTAT
      refine h.stat b fun hzero => hbit ?_
      split
      · rw [hset, hzero]
      · rw [hclear, hzero]

end Assign

/-- A write to the memory does not touch the registers. -/
theorem Registers.of_onlyWrites {g t : GPU} (h : g.Registers) (ht : OnlyWrites g t) :
    t.Registers where
  mapped := h.mapped.of_onlyWrites ht
  masked b := by
    rw [ht.vramCNT]
    exact h.masked b
  stat b hbit := by
    rw [ht.vramSTAT] at hbit
    rw [ht.vramCNT]
    exact h.stat b hbit

/-- A register that is there places its bank at slots that there are. -/
theorem Registers.lt_slots {g : GPU} (h : g.Registers) {b i : ℕ} {r : VRAMRegion}
    (hcovers : Covers (placement b (g.vramCNT b)) r i) : i < r.slots := by
  rw [← h.masked b] at hcovers
  exact GPU.lt_slots hcovers

/-- There is nothing in the slots behind the last one. -/
theorem Registers.vramMap_eq_zero {g : GPU} (h : g.Registers) {r : VRAMRegion} {i : ℕ}
    (hi : r.slots ≤ i) : g.vramMap r i = 0 := by
  refine BitSet.eq_of_hasBit fun b => ?_
  rw [BitSet.hasBit_zero]
  refine Bool.eq_false_iff.mpr fun hbit => ?_
  have hlt : i < r.slots := h.lt_slots ((h.mapped.word r i b).mp hbit).2
  omega

/-- A savestate that was made of such registers brings them back. -/
theorem Registers.doLoad {g saved : GPU} (h : g.Registers) (hsaved : saved.Registers) :
    (g.doLoad saved.doSave).Registers where
  mapped := by
    constructor
    case word => exact hsaved.mapped.word
    case pointer =>
      intro r i hptr
      show (if r.hasPtr = true ∧ i < r.slots then
        getUniqueBankPtr (saved.vramMap r i) (UInt32.ofNat i <<< (14 : UInt32))
          else g.vramPtr r i) = _
      by_cases hi : i < r.slots
      · rw [if_pos ⟨hptr, hi⟩]
        rfl
      · -- the arrays end here, and nothing is mapped behind them
        have hi : r.slots ≤ i := Nat.le_of_not_lt hi
        rw [if_neg (by omega), h.mapped.pointer r i hptr, h.vramMap_eq_zero hi]
        show _ = getUniqueBankPtr (saved.vramMap r i) _
        rw [hsaved.vramMap_eq_zero hi]
  masked := hsaved.masked
  stat := hsaved.stat

/-- A byte of a copy. -/
structure FlatByte where
  region : VRAMRegion
  offset : ℕ
  isTracked : tracked region = true
  lt_size : offset < region.slots * 2 ^ pieceBits region

namespace FlatByte

/-- The piece that it is in. -/
def piece (c : FlatByte) : ℕ := c.offset / 2 ^ pieceBits c.region

/-- Its place in a bank. -/
def within (c : FlatByte) (b : ℕ) : ℕ := c.offset % 2 ^ offsetBits b

/-- A byte of a copy is in a slot of its region. -/
theorem piece_lt (c : FlatByte) : c.piece < c.region.slots :=
  Nat.div_lt_of_lt_mul (Nat.mul_comm _ _ ▸ c.lt_size)

/-- The block that it is in, and the piece of that. -/
theorem block_div (c : FlatByte) : c.offset / 512 / bitsPerMapping c.region = c.piece := by
  have hpiece : 2 ^ pieceBits c.region = 512 * bitsPerMapping c.region := by
    cases c.region <;> rfl
  rw [piece, hpiece, Nat.div_div_eq_div_mul]

/-- A byte of a copy is in a block of it. -/
theorem block_lt (c : FlatByte) : c.offset / 512 < blocks c.region := by
  have hpos : 0 < bitsPerMapping c.region := by
    cases c.region <;> decide
  rw [blocks, ← Nat.div_lt_iff_lt_mul hpos, c.block_div]
  exact c.piece_lt

end FlatByte

/-- What a byte of a copy is copied from, where the word of its piece is `w`. -/
def copySource : MarkedCopies.Source FlatByte (ℕ × ℕ) UInt32 (ℕ → ℕ → UInt8) UInt8 where
  view w c vram := orBytes (banks c.region) (visible c.region w) fun b => vram b (c.within b)
  reads w c := {p | p.1 ∈ banks c.region ∧ hasBit w p.1 = true ∧ p.2 = c.within p.1 / 512}
  same vram vram' p := ∀ o, o / 512 = p.2 → vram p.1 o = vram' p.1 o
  view_congr := by
    intro w c vram vram' hsame
    refine orBytes_congr (fun _ _ => rfl) fun b hb hvisible => ?_
    rw [visible, Bool.and_eq_true] at hvisible
    exact hsame (b, c.within b / 512) ⟨hb, hvisible.1, rfl⟩ _ rfl

/-- The word that a byte was last copied with. -/
def word (g : GPU) (c : FlatByte) : UInt32 := (g.mapping c.region c.piece).toUInt32

end GPU

open GPU (FlatByte Registers OnlyWrites Covers placement inARM7 banks tracked copySource)

/-- The video memory with the savestates that were made. Which bytes of the copies are in doubt is
not known to the code. -/
structure VRAMMachine where
  gpu : GPU := {}
  saved : List GPU.Saved := []
  disturbed : FlatByte → Prop := fun _ => False

namespace VRAMMachine

/-- The copies and the marks. -/
def copies (s : VRAMMachine) : MarkedCopies.State FlatByte (ℕ × ℕ) UInt32
    (ℕ → ℕ → UInt8) UInt8 where
  memory := s.gpu.vram
  marks := {p | s.gpu.vramDirty p.1 p.2 = true}
  word := s.gpu.word
  copy c := s.gpu.vramFlat c.region c.offset
  doubt := {c | s.disturbed c}

/-- The bytes that are in doubt behind the update of a region. Those of the region are no longer if
they have been copied because of their word; others come to be where a mark is cleared that they
need. -/
def disturb (r : VRAMRegion) (s : VRAMMachine) (c : FlatByte) : Prop :=
  if c.region = r then s.disturbed c ∧ s.gpu.vramMap r c.piece = s.gpu.word c
  else s.disturbed c ∨ ∃ b ∈ banks c.region, hasBit (s.gpu.word c) b = true ∧
    s.gpu.vramDirty b (c.within b / 512) = true ∧ s.gpu.InRegion r b

/-- What an event does. -/
def step (s : VRAMMachine) : VRAMEvent → VRAMMachine
  | .control bank cnt => { s with gpu := s.gpu.writeVRAMCNT bank cnt }
  | .arm9Write16 addr val =>
    { s with gpu := s.gpu.arm9Write (addr &&& ~~~0x1) (littleEndian16 val) }
  | .arm9Write32 addr val =>
    { s with gpu := s.gpu.arm9Write (addr &&& ~~~0x3) (littleEndian32 val) }
  | .arm7Write8 addr val => { s with gpu := s.gpu.writeVRAM_ARM7 addr [val] }
  | .arm7Write16 addr val =>
    { s with gpu := s.gpu.writeVRAM_ARM7 (addr &&& ~~~0x1) (littleEndian16 val) }
  | .arm7Write32 addr val =>
    { s with gpu := s.gpu.writeVRAM_ARM7 (addr &&& ~~~0x3) (littleEndian32 val) }
  | .capture captureCnt line pixel => { s with gpu := s.gpu.capture captureCnt line pixel }
  | .update r =>
    if tracked r = true then
      { s with
        gpu := s.gpu.makeVRAMFlatCoherent r
        disturbed := s.disturb r }
    else s
  | .save => { s with saved := s.saved ++ [s.gpu.doSave] }
  | .load k =>
    match s.saved[k]? with
    | some saved => { s with
        gpu := s.gpu.doLoad saved
        disturbed := fun _ => False }
    | none => s

/-- Any run from power on. -/
def run : List VRAMEvent → VRAMMachine := List.foldl step {}

/-- What holds in every state. -/
structure Invariant (s : VRAMMachine) : Prop where
  registers : s.gpu.Registers
  saved : ∀ saved ∈ s.saved, ∃ g : GPU, g.Registers ∧ saved = g.doSave
  /-- the ARM7 may write to its banks without marks, as there are no others -/
  arm7 : ∀ b, inARM7 b (s.gpu.vramCNT b) = true → (∃ c, hasBit (s.gpu.word c) b = true) →
    ∀ block, s.gpu.vramDirty b block = true
  valid : MarkedCopies.Valid copySource s.copies

/-- The bit of a word that is reset is not that of a bank. -/
theorem hasBit_reset {b : ℕ} (hb : b < 9) : hasBit (0x8000 : UInt16).toUInt32 b = false := by
  have hall : ∀ b : Fin 9, hasBit (0x8000 : UInt16).toUInt32 b = false := by decide
  exact hall ⟨b, hb⟩

/-- Copies that have been reset have the bytes of no bank. -/
theorem copySource_view_reset (c : FlatByte) (vram : ℕ → ℕ → UInt8) :
    copySource.view (0x8000 : UInt16).toUInt32 c vram = 0 := by
  have hnone : ∀ b ∈ banks c.region, GPU.visible c.region (0x8000 : UInt16).toUInt32 b = false := by
    intro b hb
    rw [GPU.visible, hasBit_reset (GPU.banks_lt hb), Bool.false_and]
  show GPU.orBytes _ _ _ = 0
  have hfalse : GPU.orBytes (banks c.region) (GPU.visible c.region (0x8000 : UInt16).toUInt32)
      (fun b => vram b (c.within b)) = GPU.orBytes (banks c.region) (fun _ => false) fun _ => 0 :=
    GPU.orBytes_congr hnone fun b hb h => absurd ((hnone b hb).symm.trans h) (by decide)
  rw [hfalse, GPU.orBytes_const, ite_self]

/-- After a reset the copies are of nothing. -/
theorem valid_of_reset {s : VRAMMachine} (hmapping : s.gpu.mapping = fun _ _ => 0x8000)
    (hflat : s.gpu.vramFlat = fun _ _ => 0) : MarkedCopies.Valid copySource s.copies := by
  intro c _
  left
  show s.gpu.vramFlat c.region c.offset = copySource.view
    (s.gpu.mapping c.region c.piece).toUInt32 c _
  rw [hflat, hmapping, copySource_view_reset]

/-- After a reset no copy was made from a bank of the ARM7. -/
theorem arm7_of_reset {g : GPU} (hmapping : g.mapping = fun _ _ => 0x8000) {b : ℕ}
    (harm7 : inARM7 b (g.vramCNT b) = true) {c : FlatByte} (hbit : hasBit (g.word c) b = true) :
    False := by
  have hb : b < 9 := by
    by_contra hlt
    rw [GPU.inARM7_eq_false _ (by omega) (by omega)] at harm7
    contradiction
  rw [GPU.word, hmapping, hasBit_reset hb] at hbit
  contradiction

/-- The invariant at power on. -/
theorem invariant_initial : Invariant {} where
  registers := GPU.registers_initial
  saved _ h := absurd h List.not_mem_nil
  arm7 _ harm7 hword := (hword.elim fun _ hbit => arm7_of_reset rfl harm7 hbit).elim
  valid := valid_of_reset rfl rfl

section Steps

variable {s : VRAMMachine}

/-- A write, where what changes in a bank that has been copied is marked. -/
theorem Invariant.of_edit (h : s.Invariant) {g : GPU} (hregisters : g.Registers)
    (hmapping : g.mapping = s.gpu.mapping) (hflat : g.vramFlat = s.gpu.vramFlat)
    (hdirty : ∀ b block, s.gpu.vramDirty b block = true → g.vramDirty b block = true)
    (hvram : ∀ b o, (∃ c, hasBit (s.gpu.word c) b = true) →
      g.vram b o = s.gpu.vram b o ∨ g.vramDirty b (o / 512) = true)
    (harm7 : ∀ b, inARM7 b (g.vramCNT b) = true →
      inARM7 b (s.gpu.vramCNT b) = true ∨ ∀ block, g.vramDirty b block = true) :
    Invariant { s with gpu := g } where
  registers := hregisters
  saved := h.saved
  arm7 b hin hword block := by
    rcases harm7 b hin with hbefore | hall
    · have hwords : g.word = s.gpu.word := by
        unfold GPU.word
        rw [hmapping]
      rw [hwords] at hword
      exact hdirty b block (h.arm7 b hbefore hword block)
    · exact hall block
  valid := by
    refine h.valid.edit ?_
    constructor
    case word =>
      show g.word = s.gpu.word
      unfold GPU.word
      rw [hmapping]
    case copy =>
      show (fun c : FlatByte => g.vramFlat c.region c.offset) = _
      rw [hflat]
      rfl
    case doubt => rfl
    case marks => exact fun c p _ hp => hdirty p.1 p.2 hp
    case memory =>
      intro c p hp
      by_cases hmark : g.vramDirty p.1 p.2 = true
      · exact Or.inr hmark
      · left
        intro o ho
        rcases hvram p.1 o ⟨c, hp.2.1⟩ with hsame | hnow
        · exact hsame.symm
        · rw [ho] at hnow
          exact absurd hnow hmark

/-- A write to a control register keeps the invariant. -/
theorem Invariant.control (h : s.Invariant) (bank : ℕ) (cnt : UInt8) :
    Invariant { s with gpu := s.gpu.writeVRAMCNT bank cnt } := by
  rcases Nat.lt_or_ge bank 9 with hbank | hbank
  · rw [GPU.writeVRAMCNT_eq cnt s.gpu hbank]
    refine h.of_edit (h.registers.assign cnt hbank) (GPU.assign_mapping _)
      (GPU.assign_vramFlat _) ?_ ?_ ?_
    · intro b block hmark
      rw [GPU.assign_vramDirty]
      split
      case isFalse => exact hmark
      case isTrue =>
        by_cases hb : b = bank
        · rw [hb, Function.update_self]
        · rw [Function.update_of_ne hb, hmark]
    · intro b o _
      rw [GPU.assign_vram]
      exact Or.inl rfl
    · intro b hin
      rw [GPU.assign_vramCNT, Function.update_apply] at hin
      by_cases hb : b = bank
      · subst hb
        rw [if_pos rfl] at hin
        by_cases hsame : s.gpu.vramCNT b = cnt &&& GPU.cntMask b
        · rw [hsame]
          exact Or.inl hin
        · right
          intro block
          rw [GPU.assign_vramDirty, if_pos ⟨hsame, hin⟩, Function.update_self]
      · rw [if_neg hb] at hin
        exact Or.inl hin
  · have hsame : s.gpu.writeVRAMCNT bank cnt = s.gpu := by
      unfold GPU.writeVRAMCNT
      split <;> first | rfl | omega
    rw [hsame]
    exact h

/-- A write that is within one block marks what it changes. -/
theorem written_or_marked {g : GPU} {here : ℕ → Prop} [DecidablePred here] {addr : UInt32}
    {val : List UInt8} {b o : ℕ}
    (hfit : ∀ o, (addr &&& GPU.vramMask b).toNat ≤ o →
      o < (addr &&& GPU.vramMask b).toNat + val.length →
        o / 512 = (addr &&& GPU.vramMask b).toNat / 512) :
    g.written here addr val b o = g.vram b o ∨ g.marked here addr b (o / 512) = true := by
  unfold GPU.written GPU.marked GPU.vramDirtyGranularity
  dsimp only
  by_cases hin : here b ∧ (addr &&& GPU.vramMask b).toNat ≤ o ∧
      o < (addr &&& GPU.vramMask b).toNat + val.length
  · right
    obtain ⟨hhere, hle, hlt⟩ := hin
    rw [Bool.or_eq_true, decide_eq_true_iff]
    exact Or.inr ⟨hhere, hfit o hle hlt⟩
  · rw [if_neg hin]
    exact Or.inl rfl

/-- A write of the ARM9 keeps the invariant. It stays in one block of each bank. -/
theorem Invariant.arm9Write (h : s.Invariant) {addr : UInt32} {val : List UInt8}
    (hfit : ∀ b < 9, ∀ o, (addr &&& GPU.vramMask b).toNat ≤ o →
      o < (addr &&& GPU.vramMask b).toNat + val.length →
        o / 512 = (addr &&& GPU.vramMask b).toNat / 512) :
    Invariant { s with gpu := s.gpu.arm9Write addr val } := by
  have hspec := h.registers.mapped.arm9Write_spec addr val
  refine h.of_edit (h.registers.of_onlyWrites hspec.only) hspec.only.mapping hspec.only.vramFlat ?_
    ?_ ?_
  · intro b block hmark
    rw [hspec.vramDirty, GPU.marked, hmark, Bool.true_or]
  · intro b o _
    rw [hspec.vram, hspec.vramDirty]
    rcases Nat.lt_or_ge b 9 with hb | hb
    · exact written_or_marked (hfit b hb)
    · left
      have hnot : ¬ s.gpu.Sees addr b := by
        have hnone : GPU.placement b (s.gpu.vramCNT b) = none := by
          unfold GPU.placement GPU.places
          split
          · rfl
          · split <;> first | rfl | omega
        unfold GPU.Sees
        split <;> simp [hnone]
      unfold GPU.written
      dsimp only
      rw [if_neg fun hin => hnot hin.1]
  · intro b hin
    rw [hspec.only.vramCNT] at hin
    exact Or.inl hin

/-- A bank of the ARM7's region is with the ARM7. -/
theorem inARM7_of_covers {b : ℕ} {cnt : UInt8} {i : ℕ} (h : Covers (placement b cnt) .arm7 i) :
    inARM7 b cnt = true := by
  obtain ⟨is, hplace, -⟩ := h
  unfold GPU.inARM7
  rw [hplace]

/-- The writes of the ARM7 go only to banks that are marked as a whole. -/
theorem Invariant.arm7Write (h : s.Invariant) (addr : UInt32) (val : List UInt8) :
    Invariant { s with gpu := s.gpu.writeVRAM_ARM7 addr val } := by
  obtain ⟨honly, hdirty, hvram⟩ := h.registers.mapped.writeVRAM_ARM7_spec addr val
  refine h.of_edit (h.registers.of_onlyWrites honly) honly.mapping honly.vramFlat ?_ ?_ ?_
  · intro b block hmark
    rw [hdirty, hmark]
  · intro b o hword
    rw [hdirty, hvram]
    unfold GPU.written
    dsimp only
    split
    case isTrue hin => exact Or.inr (h.arm7 b (inARM7_of_covers hin.1) hword _)
    case isFalse => exact Or.inl rfl
  · intro b hin
    rw [honly.vramCNT] at hin
    exact Or.inl hin

/-- A captured line keeps the invariant. -/
theorem Invariant.capture (h : s.Invariant) (captureCnt : UInt32) (line : ℕ) (pixel : ℕ → UInt16) :
    Invariant { s with gpu := s.gpu.capture captureCnt line pixel } := by
  unfold GPU.capture
  dsimp only
  split
  case isFalse => exact h
  case isTrue =>
    rw [GPU.doCapture_eq]
    split
    case isFalse => exact h
    case isTrue =>
      obtain ⟨-, hblock⟩ := GPU.captureStart_spec captureCnt line
      refine h.of_edit (h.registers.of_onlyWrites ⟨rfl, rfl, rfl, rfl, rfl, rfl⟩) rfl rfl ?_ ?_ ?_
      · intro b block hmark
        unfold GPU.store GPU.setDirty
        dsimp only
        by_cases hb : b = ((captureCnt >>> 16) &&& 0x3).toNat
        · subst hb
          rw [Function.update_self, Function.update_apply]
          split
          · rfl
          · exact hmark
        · rw [Function.update_of_ne hb]
          exact hmark
      · intro b o _
        unfold GPU.store GPU.setDirty
        dsimp only
        by_cases hb : b = ((captureCnt >>> 16) &&& 0x3).toNat
        · subst hb
          rw [Function.update_self, Function.update_self]
          by_cases hin : VideoMemory.captureStart captureCnt line * 2 ≤ o ∧
              o < VideoMemory.captureStart captureCnt line * 2 +
                ((List.range (captureSize captureCnt).1).flatMap fun i =>
                  littleEndian16 (pixel i)).length
          · right
            have hlt := hin.2
            rw [GPU.length_pixels] at hlt
            rw [hblock o hin.1 hlt, GPU.vramDirtyGranularity, Function.update_self]
          · rw [if_neg hin]
            exact Or.inl rfl
        · rw [Function.update_of_ne hb]
          exact Or.inl rfl
      · exact fun b hin => Or.inl hin

/-- `DeriveState` finds the bytes that have another word, or read a marked block. -/
theorem needsCopy_iff {g : GPU} (h : g.Mapped) (c : FlatByte) :
    g.NeedsCopy c.region (c.offset / 512) ↔ g.vramMap c.region c.piece ≠ g.word c ∨
      ∃ p ∈ copySource.reads (g.vramMap c.region c.piece) c, g.vramDirty p.1 p.2 = true := by
  unfold GPU.NeedsCopy
  dsimp only
  rw [c.block_div]
  constructor
  · rintro ⟨-, hword | ⟨b, hb, hmark⟩⟩
    · exact Or.inl hword
    · have hbank : b ∈ banks c.region := GPU.mem_banks ((h.word _ _ _).mp hb).2
      rw [GPU.bankBlock_eq c.isTracked hbank] at hmark
      exact Or.inr ⟨(b, c.within b / 512), ⟨hbank, hb, rfl⟩, hmark⟩
  · rintro (hword | ⟨p, ⟨hbank, hb, hblock⟩, hmark⟩)
    · exact ⟨c.block_lt, Or.inl hword⟩
    · refine ⟨c.block_lt, Or.inr ⟨p.1, hb, ?_⟩⟩
      rw [hblock] at hmark
      rw [GPU.bankBlock_eq c.isTracked hbank]
      exact hmark

/-- An update of a region is one of its bytes. -/
theorem update_spec (h : s.gpu.Mapped) {r : VRAMRegion} (hr : tracked r = true) :
    MarkedCopies.Update copySource {c | c.region = r} (fun c => s.gpu.vramMap c.region c.piece)
      {p | s.gpu.InRegion r p.1} s.copies (s.step (.update r)).copies := by
  obtain ⟨hfound, -⟩ := h.deriveState_spec hr
  have hstep : s.step (.update r) = { s with
      gpu := s.gpu.makeVRAMFlatCoherent r
      disturbed := s.disturb r } := if_pos hr
  rw [hstep, h.makeVRAMFlatCoherent_spec hr]
  constructor
  case memory => rfl
  case marks =>
    rintro ⟨b, block⟩
    show (if s.gpu.InRegion r b then false else s.gpu.vramDirty b block) = true ↔
      s.gpu.vramDirty b block = true ∧ ¬ s.gpu.InRegion r b
    split
    case isTrue hin => simp [hin]
    case isFalse hin => simp [hin]
  case word =>
    rintro c rfl
    show (update s.gpu.mapping c.region _ c.region c.piece).toUInt32 = _
    rw [Function.update_self, if_pos c.piece_lt, h.toUInt16]
  case copied =>
    rintro c rfl hneeds
    show update s.gpu.vramFlat c.region _ c.region c.offset = _
    have hcopy := (hfound _).mpr ((needsCopy_iff h c).mpr hneeds)
    rw [Function.update_self, if_pos hcopy, c.block_div]
    exact GPU.copiedByte_eq _ (fun b hb => GPU.mem_banks ((h.word _ _ _).mp hb).2) c.isTracked
      c.lt_size
  case kept =>
    rintro c rfl hneeds
    show update s.gpu.vramFlat c.region _ c.region c.offset = _
    have hcopy := fun hfind => hneeds ((needsCopy_iff h c).mp ((hfound _).mp hfind))
    rw [Function.update_self, if_neg hcopy]
    rfl
  case doubt =>
    rintro c rfl hdoubt hword
    show s.disturb c.region c
    rw [disturb, if_pos rfl]
    exact ⟨hdoubt, hword⟩
  case others =>
    intro c hne
    constructor
    · show (update s.gpu.mapping r _ c.region c.piece).toUInt32 = _
      rw [Function.update_of_ne hne]
      rfl
    · show update s.gpu.vramFlat r _ c.region c.offset = _
      rw [Function.update_of_ne hne]
      rfl
  case lost =>
    intro c hne hlost
    have hne : c.region ≠ r := hne
    rcases hlost with hdoubt | ⟨p, ⟨hbank, hb, hblock⟩, hmark, hin⟩
    · show s.disturb r c
      rw [disturb, if_neg hne]
      exact Or.inl hdoubt
    · show s.disturb r c
      have hmark : s.gpu.vramDirty p.1 p.2 = true := hmark
      rw [hblock] at hmark
      rw [disturb, if_neg hne]
      exact Or.inr ⟨p.1, hbank, hb, hmark, hin⟩

/-- A bank of the ARM7 is in no region that has a copy. -/
theorem not_inRegion_of_inARM7 {g : GPU} (h : g.Mapped) {r : VRAMRegion} (hr : tracked r = true)
    {b : ℕ}
    (hin : inARM7 b (g.vramCNT b) = true) : ∀ i, ¬ hasBit (g.vramMap r i) b = true := by
  intro i hbit
  obtain ⟨is, hplace, -⟩ := ((h.word r i b).mp hbit).2
  unfold GPU.inARM7 at hin
  rw [hplace] at hin
  cases r <;> contradiction

/-- An update of a copy keeps the invariant. -/
theorem Invariant.update (h : s.Invariant) {r : VRAMRegion} (hr : tracked r = true) :
    (s.step (.update r)).Invariant := by
  have hmapped := h.registers.mapped
  have hvalid := h.valid.update (update_spec hmapped hr)
  have hstep : s.step (.update r) = { s with
      gpu := s.gpu.makeVRAMFlatCoherent r
      disturbed := s.disturb r } := if_pos hr
  rw [hstep] at hvalid ⊢
  rw [hmapped.makeVRAMFlatCoherent_spec hr] at hvalid ⊢
  constructor
  case registers => exact ⟨⟨hmapped.word, hmapped.pointer⟩, h.registers.masked, h.registers.stat⟩
  case saved => exact h.saved
  case valid => exact hvalid
  case arm7 =>
    rintro b hin ⟨c, hword⟩ block
    have hnot := not_inRegion_of_inARM7 hmapped hr hin
    have hkept : ¬ s.gpu.InRegion r b := fun ⟨i, _, hbit⟩ => hnot i hbit
    have hbefore : hasBit (s.gpu.word c) b = true := by
      by_cases hc : c.region = r
      · -- its word is new, and has no bank of the ARM7
        subst hc
        have hnew : hasBit (Function.update s.gpu.mapping c.region (fun i =>
            if i < c.region.slots then (s.gpu.vramMap c.region i).toUInt16
            else s.gpu.mapping c.region i) c.region c.piece).toUInt32 b = true := hword
        rw [Function.update_self, if_pos c.piece_lt, hmapped.toUInt16] at hnew
        exact absurd hnew (hnot c.piece)
      · have hold : hasBit (Function.update s.gpu.mapping r (fun i =>
            if i < r.slots then (s.gpu.vramMap r i).toUInt16
            else s.gpu.mapping r i) c.region c.piece).toUInt32 b = true := hword
        rw [Function.update_of_ne hc] at hold
        exact hold
    show (if s.gpu.InRegion r b then false else s.gpu.vramDirty b block) = true
    rw [if_neg hkept]
    exact h.arm7 b hin ⟨c, hbefore⟩ block

/-- A savestate that was made has the mapping of a state that keeps the invariant. -/
theorem Invariant.load (h : s.Invariant) (k : ℕ) : (s.step (.load k)).Invariant := by
  unfold step
  dsimp only
  cases hsaved : s.saved[k]? with
  | none => exact h
  | some saved =>
    obtain ⟨g, hg, rfl⟩ := h.saved saved (List.mem_of_getElem? hsaved)
    constructor
    case registers => exact h.registers.doLoad hg
    case saved => exact h.saved
    case arm7 => exact fun b harm7 ⟨c, hbit⟩ => (arm7_of_reset rfl harm7 hbit).elim
    case valid => exact valid_of_reset rfl rfl

/-- An address without its lowest bits. -/
theorem toNat_and_not (x m : UInt32) {k : ℕ} (hm : m.toNat = 2 ^ k - 1) :
    (x &&& ~~~m).toNat % 2 ^ k = 0 := by
  have hnot : ~~~m &&& m = 0 := UInt32.not_and_self
  have hzero : (x &&& ~~~m &&& m).toNat = 0 := by
    rw [UInt32.and_assoc, hnot, UInt32.and_zero]
    rfl
  rwa [UInt32.toNat_and, hm, Nat.and_two_pow_sub_one_eq_mod] at hzero

/-- An aligned value is within one block of a bank. -/
theorem aligned_fit {x m : UInt32} {k b n o : ℕ} (hm : m.toNat = 2 ^ k - 1) (hk : k = 1 ∨ k = 2)
    (hn : n = 2 ^ k) (hb : b < 9) (hle : ((x &&& ~~~m) &&& GPU.vramMask b).toNat ≤ o)
    (hlt : o < ((x &&& ~~~m) &&& GPU.vramMask b).toNat + n) :
    o / 512 = ((x &&& ~~~m) &&& GPU.vramMask b).toNat / 512 := by
  have hzero := toNat_and_not x m hm
  rw [GPU.toNat_and_vramMask hb] at hle hlt ⊢
  subst hn
  rcases hk with rfl | rfl <;> rcases GPU.offsetBits_cases hb with h | h | h | h <;>
    rw [h] at hle hlt ⊢ <;> omega

/-- Every event keeps the invariant. -/
theorem Invariant.step (h : s.Invariant) (e : VRAMEvent) : (s.step e).Invariant := by
  cases e with
  | control bank cnt => exact h.control bank cnt
  | arm9Write16 addr val =>
    exact h.arm9Write fun b hb o hle hlt => aligned_fit (k := 1) rfl (Or.inl rfl) rfl hb hle hlt
  | arm9Write32 addr val =>
    exact h.arm9Write fun b hb o hle hlt => aligned_fit (k := 2) rfl (Or.inr rfl) rfl hb hle hlt
  | arm7Write8 addr val => exact h.arm7Write addr [val]
  | arm7Write16 addr val => exact h.arm7Write (addr &&& ~~~0x1) (littleEndian16 val)
  | arm7Write32 addr val => exact h.arm7Write (addr &&& ~~~0x3) (littleEndian32 val)
  | capture captureCnt line pixel => exact h.capture captureCnt line pixel
  | update r =>
    by_cases hr : tracked r = true
    · exact h.update hr
    · have hstep : s.step (.update r) = s := if_neg hr
      rw [hstep]
      exact h
  | save =>
    constructor
    case registers => exact h.registers
    case saved =>
      intro saved hsaved
      obtain hsaved | hsaved := List.mem_append.mp hsaved
      · exact h.saved saved hsaved
      · exact ⟨s.gpu, h.registers, List.mem_singleton.mp hsaved⟩
    case arm7 => exact h.arm7
    case valid => exact h.valid
  | load k => exact h.load k

/-- The run lemma. -/
theorem Invariant.foldl (h : s.Invariant) (events : List VRAMEvent) :
    (events.foldl VRAMMachine.step s).Invariant := by
  induction events generalizing s with
  | nil => exact h
  | cons e events ih => exact ih (h.step e)

/-- The invariant holds after every run. -/
theorem invariant_run (events : List VRAMEvent) : (run events).Invariant :=
  invariant_initial.foldl events

end Steps

end VRAMMachine

end DSEmu

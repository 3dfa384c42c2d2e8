import DSEmu.MelonDS.VRAMAccess

/-!
# The copies that the renderers read

The renderers do not go through the mapping: for each region there is a copy of what is mapped
there, `VRAMFlat_x`, which is brought up to date before a line is drawn. `DeriveState` finds the
blocks of 512 bytes to copy. A piece of the region whose banks are not those of the last time is
copied as a whole, of another one the blocks that are marked in one of its banks; then the marks of
all banks of the region are cleared. `CopyLinearVRAM` copies the blocks.

`copiedByte` is what a copy puts at an address. `makeVRAMFlatCoherent_spec` says what one update
does: which blocks are copied, and which marks are gone.
-/

namespace DSEmu.GPU

open BitSet (hasBit bits ctz)
open Function (update)

/-- The regions that are copied. -/
def tracked : VRAMRegion → Bool
  | .lcdc => false
  | .arm7 => false
  | _ => true

/-- The logarithm of `MappingGranularity` of the `VRAMTrackingSet` of a region. -/
def pieceBits : VRAMRegion → ℕ
  | .texture => 17
  | .abgExtPal => 13
  | .aobjExtPal => 13
  | .bbgExtPal => 13
  | .bobjExtPal => 13
  | _ => 14

/-- `VRAMBitsPerMapping`. -/
def bitsPerMapping (r : VRAMRegion) : ℕ := 2 ^ pieceBits r / vramDirtyGranularity

/-- The locals of `DeriveState`, and `Mapping`. -/
structure Derivation where
  result : ℕ → Bool
  banksToBeZeroed : UInt16
  mapping : ℕ → UInt16

/-- The body of the loop of `DeriveState`, for the piece `i`. The bits of `result` and of the marks
are addressed one by one here, by words of 16, 32 or 64 bits in the code. -/
def deriveStep (r : VRAMRegion) (g : GPU) (d : Derivation) (i : ℕ) : Derivation :=
  let current := g.vramMap r i
  let first := i * bitsPerMapping r
  if current ≠ (d.mapping i).toUInt32 then
    { result := fun j =>
        d.result j || (decide (first ≤ j) && decide (j < first + bitsPerMapping r))
      banksToBeZeroed := d.banksToBeZeroed ||| current.toUInt16
      mapping := update d.mapping i current.toUInt16 }
  else
    { d with
      banksToBeZeroed := d.banksToBeZeroed ||| d.mapping i
      result := (bits (d.mapping i).toUInt32).foldl (fun result num j =>
        result j || (decide (first ≤ j) && decide (j < first + bitsPerMapping r) &&
          g.vramDirty num
            ((i &&& (vramMask num).toNat >>> pieceBits r) * bitsPerMapping r + (j - first))))
        d.result }

/-- `DeriveState`: the blocks to copy. -/
def deriveState (r : VRAMRegion) (g : GPU) : (ℕ → Bool) × GPU :=
  let d := (List.range r.slots).foldl (deriveStep r g) ⟨fun _ => false, 0, g.mapping r⟩
  (d.result, { g with
    mapping := update g.mapping r d.mapping
    vramDirty := (bits d.banksToBeZeroed.toUInt32).foldl
      (fun dirty num => update dirty num fun _ => false) g.vramDirty })

/-- `slowAccess` of a region. -/
def slowAccess (r : VRAMRegion) (addr : UInt32) (g : GPU) : List UInt8 :=
  match r with
  | .abg => g.readVRAM_ABG 8 addr
  | .aobj => g.readVRAM_AOBJ 8 addr
  | .bbg => g.readVRAM_BBG 8 addr
  | .bobj => g.readVRAM_BOBJ 8 addr
  | .abgExtPal => g.readVRAM_ABGExtPal 8 addr
  | .aobjExtPal => g.readVRAM_AOBJExtPal 8 addr
  | .bbgExtPal => g.readVRAM_BBGExtPal 8 addr
  | .bobjExtPal => g.readVRAM_BOBJExtPal 8 addr
  | .texture => g.readVRAM_Texture 8 addr
  | .texPal => g.readVRAM_TexPal 8 addr
  | .lcdc => []
  | .arm7 => []

/-- Some bytes of a copy are written. -/
def storeFlat (r : VRAMRegion) (offset : ℕ) (val : List UInt8) (g : GPU) : GPU :=
  { g with
    vramFlat := update g.vramFlat r fun o =>
      if offset ≤ o ∧ o < offset + val.length then val.getD (o - offset) 0 else g.vramFlat r o }

/-- The body of the loop of `CopyLinearVRAM`, for one block. -/
def copyBlock (r : VRAMRegion) (g : GPU) (block : ℕ) : GPU :=
  let offset := block * vramDirtyGranularity
  match getUniqueBankPtr (g.vramMap r (block / bitsPerMapping r)) (UInt32.ofNat offset) with
  | some (bank, o) => g.storeFlat r offset (load vramDirtyGranularity (g.vram bank) o)
  | none =>
    (List.range (vramDirtyGranularity / 8)).foldl (fun g i =>
      g.storeFlat r (offset + 8 * i) (g.slowAccess r (UInt32.ofNat (offset + 8 * i)))) g

/-- The number of blocks of a region. -/
def blocks (r : VRAMRegion) : ℕ := r.slots * bitsPerMapping r

/-- `CopyLinearVRAM`. -/
def copyLinearVRAM (r : VRAMRegion) (dirty : ℕ → Bool) (g : GPU) : GPU :=
  ((List.range (blocks r)).filter dirty).foldl (copyBlock r) g

/-- `DeriveState`, and `MakeVRAMFlat_xCoherent` with its result. -/
def makeVRAMFlatCoherent (r : VRAMRegion) (g : GPU) : GPU :=
  let (dirty, g) := g.deriveState r
  g.copyLinearVRAM r dirty

/-! ### Copies -/

/-- The lines of the accesses that are not through a pointer. -/
def linesOf : VRAMRegion → List Line
  | .abg => linesABG
  | .aobj => linesAOBJ
  | .bbg => linesBBG
  | .bobj => linesBOBJ
  | .abgExtPal => linesABGExtPal
  | .aobjExtPal => linesAOBJExtPal
  | .bbgExtPal => linesBBGExtPal
  | .bobjExtPal => linesBOBJExtPal
  | .texture => linesTexture
  | .texPal => linesTexPal
  | .lcdc => []
  | .arm7 => []

/-- The byte that a copy puts at an address, where the piece has the word `mask`. -/
def copiedByte (vram : ℕ → ℕ → UInt8) (r : VRAMRegion) (mask : UInt32) (offset : ℕ) : UInt8 :=
  match getUniqueBankPtr mask (UInt32.ofNat (offset / 512 * 512)) with
  | some (bank, o) => vram bank (o + offset % 512)
  | none => (linesOf r).foldl (fun acc l =>
      if hasBit mask l.bit = true then
        acc ||| vram l.bank ((UInt32.ofNat (offset / 8 * 8) &&& l.within).toNat + offset % 8)
      else acc) 0

section Copies

variable {g : GPU} {r : VRAMRegion}

/-- The slot of an address is the piece that it is in. -/
theorem toNat_slot (shift mask : UInt32) {a k n : ℕ} (hk : shift.toNat = k) (hk32 : k < 32)
    (hn : mask.toNat = 2 ^ n - 1) (ha : a < 2 ^ n * 2 ^ k) (ha32 : a < 2 ^ 32) :
    ((UInt32.ofNat a >>> shift) &&& mask).toNat = a / 2 ^ k := by
  have hdiv : a / 2 ^ k < 2 ^ n := Nat.div_lt_of_lt_mul (Nat.mul_comm _ _ ▸ ha)
  rw [UInt32.toNat_and, hn, Nat.and_two_pow_sub_one_eq_mod, UInt32.toNat_shiftRight, hk,
    Nat.mod_eq_of_lt hk32, UInt32.toNat_ofNat', Nat.mod_eq_of_lt ha32, Nat.shiftRight_eq_div_pow,
    Nat.mod_eq_of_lt hdiv]

/-- There is no pointer where there is not one bank. -/
theorem getUniqueBankPtr_eq_none {mask offset : UInt32} :
    getUniqueBankPtr mask offset = none ↔ mask = 0 ∨ mask &&& (mask - 1) ≠ 0 := by
  unfold getUniqueBankPtr
  split
  case isTrue h => exact ⟨fun _ => h, fun _ => rfl⟩
  case isFalse h => exact ⟨nofun, fun h' => absurd h' h⟩

/-- The offsets of a region are words. -/
theorem size_lt (r : VRAMRegion) : r.slots * 2 ^ pieceBits r < 2 ^ 32 := by
  cases r <;> decide

/-- An access that is not through a pointer, byte by byte. -/
theorem slowAccess_eq {a : ℕ} (h : g.Mapped) (hr : tracked r = true)
    (ha : a < r.slots * 2 ^ pieceBits r)
    (hmany : getUniqueBankPtr (g.vramMap r (a / 2 ^ pieceBits r)) (UInt32.ofNat a) = none) :
    g.slowAccess r (UInt32.ofNat a) = (List.range 8).map fun k =>
      (linesOf r).foldl (fun acc l =>
        if hasBit (g.vramMap r (a / 2 ^ pieceBits r)) l.bit = true then
          acc ||| g.vram l.bank ((UInt32.ofNat a &&& l.within).toNat + k)
        else acc) 0 := by
  have hpointed : r.hasPtr = true → g.readPointed 8 r (a / 2 ^ pieceBits r) (UInt32.ofNat a)
    (linesOf r) =
      g.gather 8 (g.vramMap r (a / 2 ^ pieceBits r)) (UInt32.ofNat a) (linesOf r) := by
    intro hptr
    unfold readPointed
    rw [h.pointer r _ hptr, getUniqueBankPtr_eq_none.mpr (getUniqueBankPtr_eq_none.mp hmany)]
  have ha32 : a < 2 ^ 32 := Nat.lt_trans ha (size_lt r)
  rw [← gather_eq]
  cases r with
  | lcdc => contradiction
  | arm7 => contradiction
  | abg =>
    have hslot := toNat_slot 14 0x1F (k := 14) (n := 5) rfl (by decide) rfl ha ha32
    rw [← hpointed rfl, slowAccess, readVRAM_ABG, hslot]
    rfl
  | aobj =>
    have hslot := toNat_slot 14 0xF (k := 14) (n := 4) rfl (by decide) rfl ha ha32
    rw [← hpointed rfl, slowAccess, readVRAM_AOBJ, hslot]
    rfl
  | bbg =>
    have hslot := toNat_slot 14 0x7 (k := 14) (n := 3) rfl (by decide) rfl ha ha32
    rw [← hpointed rfl, slowAccess, readVRAM_BBG, hslot]
    rfl
  | bobj =>
    have hslot := toNat_slot 14 0x7 (k := 14) (n := 3) rfl (by decide) rfl ha ha32
    rw [← hpointed rfl, slowAccess, readVRAM_BOBJ, hslot]
    rfl
  | abgExtPal =>
    have hslot := toNat_slot 13 0x3 (k := 13) (n := 2) rfl (by decide) rfl ha ha32
    rw [slowAccess, readVRAM_ABGExtPal, hslot]
    rfl
  | bbgExtPal =>
    have hslot := toNat_slot 13 0x3 (k := 13) (n := 2) rfl (by decide) rfl ha ha32
    rw [slowAccess, readVRAM_BBGExtPal, hslot]
    rfl
  | texture =>
    have hslot := toNat_slot 17 0x3 (k := 17) (n := 2) rfl (by decide) rfl ha ha32
    rw [slowAccess, readVRAM_Texture, hslot]
    rfl
  | texPal =>
    have hslot := toNat_slot 14 0x7 (k := 14) (n := 3) rfl (by decide) rfl ha ha32
    rw [slowAccess, readVRAM_TexPal, hslot]
    rfl
  | aobjExtPal =>
    have hslot : a / 2 ^ pieceBits .aobjExtPal = 0 :=
      Nat.div_eq_of_lt (by simpa [VRAMRegion.slots] using ha)
    rw [slowAccess, readVRAM_AOBJExtPal, hslot]
    rfl
  | bobjExtPal =>
    have hslot : a / 2 ^ pieceBits .bobjExtPal = 0 :=
      Nat.div_eq_of_lt (by simpa [VRAMRegion.slots] using ha)
    rw [slowAccess, readVRAM_BOBJExtPal, hslot]
    rfl

/-- The copy of a region has other bytes. -/
def withFlat (r : VRAMRegion) (flat : ℕ → UInt8) (g : GPU) : GPU :=
  { g with vramFlat := update g.vramFlat r flat }

/-- Of two copies that are put in the second one counts. -/
@[simp] theorem withFlat_withFlat (flat flat' : ℕ → UInt8) :
    (g.withFlat r flat).withFlat r flat' = g.withFlat r flat' := by
  simp [withFlat]

/-- The copy that is put in. -/
@[simp] theorem withFlat_vramFlat (flat : ℕ → UInt8) : (g.withFlat r flat).vramFlat r = flat := by
  simp [withFlat]

/-- The copy that is there already. -/
theorem withFlat_self : g.withFlat r (g.vramFlat r) = g := by
  simp [withFlat]

/-- Accesses do not go to the copies. -/
theorem slowAccess_withFlat (flat : ℕ → UInt8) (addr : UInt32) :
    (g.withFlat r flat).slowAccess r addr = g.slowAccess r addr := by
  cases r <;> rfl

/-- Storing into a copy changes the bytes that are stored. -/
theorem storeFlat_withFlat (flat : ℕ → UInt8) (offset : ℕ) (val : List UInt8) :
    (g.withFlat r flat).storeFlat r offset val = g.withFlat r fun o =>
      if offset ≤ o ∧ o < offset + val.length then val.getD (o - offset) 0 else flat o := by
  simp [withFlat, storeFlat]

/-- The loop over a block, eight bytes at a time. -/
theorem foldl_storeFlat {offset : ℕ} {byte : ℕ → UInt8} {n : ℕ}
    (h : ∀ i < n, g.slowAccess r (UInt32.ofNat (offset + 8 * i)) =
      (List.range 8).map fun k => byte (offset + 8 * i + k)) :
    (List.range n).foldl (fun g i =>
        g.storeFlat r (offset + 8 * i) (g.slowAccess r (UInt32.ofNat (offset + 8 * i)))) g =
      g.withFlat r fun o => if offset ≤ o ∧ o < offset + 8 * n then byte o else g.vramFlat r o := by
  induction n with
  | zero =>
    have hsame : (fun o => if offset ≤ o ∧ o < offset + 8 * 0 then byte o else g.vramFlat r o) =
        g.vramFlat r := by
      funext o
      rw [if_neg (by omega)]
    rw [hsame, withFlat_self]
    rfl
  | succ n ih =>
    rw [List.range_succ, List.foldl_append, ih fun i hi => h i (Nat.lt_succ_of_lt hi)]
    simp only [List.foldl_cons, List.foldl_nil]
    rw [slowAccess_withFlat, h n (Nat.lt_succ_self n), storeFlat_withFlat]
    congr 1
    funext o
    rw [List.length_map, List.length_range]
    by_cases hlast : offset + 8 * n ≤ o ∧ o < offset + 8 * n + 8
    · have hk : o - (offset + 8 * n) < 8 := by omega
      have ho : offset + 8 * n + (o - (offset + 8 * n)) = o := by omega
      rw [if_pos hlast, if_pos (by omega), List.getD_eq_getElem?_getD, List.getElem?_map,
        List.getElem?_range hk, Option.map_some, Option.getD_some, ho]
    · rw [if_neg hlast]
      exact if_congr (by omega) rfl rfl

/-- What a copy of one block does. -/
theorem Mapped.copyBlock_eq (h : g.Mapped) (hr : tracked r = true) {block : ℕ}
    (hblock : block < blocks r) :
    copyBlock r g block = g.withFlat r fun o =>
      if o / 512 = block then copiedByte g.vram r (g.vramMap r (block / bitsPerMapping r)) o
      else g.vramFlat r o := by
  have hpiece : 2 ^ pieceBits r = 512 * bitsPerMapping r := by
    cases r <;> rfl
  have hbits : 0 < bitsPerMapping r := by
    cases r <;> decide
  have hslot : ∀ k < 512, (block * 512 + k) / 2 ^ pieceBits r = block / bitsPerMapping r := by
    intro k hk
    rw [hpiece, ← Nat.div_div_eq_div_mul]
    congr 1
    omega
  have hsize : ∀ k < 512, block * 512 + k < r.slots * 2 ^ pieceBits r := by
    intro k hk
    have hle : (block + 1) * 512 ≤ blocks r * 512 := Nat.mul_le_mul_right _ hblock
    have heq : r.slots * 2 ^ pieceBits r = blocks r * 512 := by
      rw [hpiece, blocks, Nat.mul_comm 512, Nat.mul_assoc]
    omega
  unfold copyBlock
  dsimp only
  split
  case h_1 bank o hptr =>
    unfold storeFlat withFlat
    congr 2
    funext o'
    rw [load, List.length_map, List.length_range, vramDirtyGranularity]
    by_cases ho : o' / 512 = block
    · have hk : o' - block * 512 = o' % 512 := by omega
      have hbase : o' / 512 * 512 = block * vramDirtyGranularity := by rw [ho]; rfl
      rw [if_pos (by omega), if_pos ho, copiedByte, hbase, hptr, hk, List.getD_eq_getElem?_getD,
        List.getElem?_map, List.getElem?_range (Nat.mod_lt _ (by decide))]
      rfl
    · rw [if_neg (by omega), if_neg ho]
  case h_2 hptr =>
    have hmany : ∀ offset, getUniqueBankPtr (g.vramMap r (block / bitsPerMapping r)) offset =
      none :=
      fun offset => getUniqueBankPtr_eq_none.mpr (getUniqueBankPtr_eq_none.mp hptr)
    have hslow : ∀ i < vramDirtyGranularity / 8,
        g.slowAccess r (UInt32.ofNat (block * vramDirtyGranularity + 8 * i)) =
          (List.range 8).map fun k =>
            copiedByte g.vram r (g.vramMap r (block / bitsPerMapping r))
              (block * vramDirtyGranularity + 8 * i + k) := by
      intro i hi
      have hi : i < 64 := hi
      have hin : (block * 512 + 8 * i) / 2 ^ pieceBits r = block / bitsPerMapping r :=
        hslot _ (by omega)
      show g.slowAccess r (UInt32.ofNat (block * 512 + 8 * i)) = _
      rw [slowAccess_eq h hr (hsize _ (by omega)) (hin ▸ hmany _), hin]
      refine List.map_congr_left fun k hk => ?_
      have hk : k < 8 := List.mem_range.mp hk
      have hword : (block * vramDirtyGranularity + 8 * i + k) / 8 * 8 = block * 512 + 8 * i := by
        rw [vramDirtyGranularity]
        omega
      have hbyte : (block * vramDirtyGranularity + 8 * i + k) % 8 = k := by
        rw [vramDirtyGranularity]
        omega
      rw [copiedByte, hmany, hword, hbyte]
    rw [foldl_storeFlat hslow]
    unfold withFlat
    congr 2
    funext o
    refine if_congr ?_ rfl rfl
    rw [vramDirtyGranularity]
    omega

/-- What copies of blocks do, in any order. -/
theorem Mapped.foldl_copyBlock (h : g.Mapped) (hr : tracked r = true) {blocks' : List ℕ}
    (hblocks : ∀ block ∈ blocks', block < blocks r) :
    blocks'.foldl (copyBlock r) g = g.withFlat r fun o =>
      if o / 512 ∈ blocks' then
        copiedByte g.vram r (g.vramMap r (o / 512 / bitsPerMapping r)) o
      else g.vramFlat r o := by
  induction blocks' using List.reverseRecOn with
  | nil =>
    simp only [List.not_mem_nil, if_false]
    exact withFlat_self.symm
  | append_singleton before block ih =>
    have hbefore : ∀ block ∈ before, block < blocks r :=
      fun block hmem => hblocks block (List.mem_append_left _ hmem)
    have hmapped : ∀ flat, (g.withFlat r flat).Mapped := fun flat => ⟨h.word, h.pointer⟩
    rw [List.foldl_append, ih hbefore]
    simp only [List.foldl_cons, List.foldl_nil]
    rw [(hmapped _).copyBlock_eq hr (hblocks block (by simp)), withFlat_withFlat]
    congr 1
    funext o
    rw [withFlat_vramFlat]
    simp only [List.mem_append, List.mem_singleton]
    by_cases ho : o / 512 = block
    · rw [if_pos ho, if_pos (Or.inr ho), ← ho]
      rfl
    · rw [if_neg ho]
      simp only [ho, or_false]

/-- `CopyLinearVRAM` copies the blocks that it is told to. -/
theorem Mapped.copyLinearVRAM_eq (h : g.Mapped) (hr : tracked r = true) (dirty : ℕ → Bool) :
    g.copyLinearVRAM r dirty = g.withFlat r fun o =>
      if o / 512 < blocks r ∧ dirty (o / 512) = true then
        copiedByte g.vram r (g.vramMap r (o / 512 / bitsPerMapping r)) o
      else g.vramFlat r o := by
  rw [copyLinearVRAM, h.foldl_copyBlock hr fun block hmem =>
    List.mem_range.mp (List.mem_filter.mp hmem).1]
  simp only [List.mem_filter, List.mem_range]

end Copies

section Banks

variable {r : VRAMRegion} {mask : UInt32} {b offset : ℕ}

/-- The banks whose bytes are in a copy. `ReadVRAM_AOBJExtPal` looks at other bits than those of its
banks, so where F and G are both there it takes G only. -/
def visible (r : VRAMRegion) (mask : UInt32) (b : ℕ) : Bool :=
  hasBit mask b && !(decide (r = .aobjExtPal) && decide (b = 5) && hasBit mask 6)

/-- An address that is rounded down and masked, and what was taken off. -/
theorem roundDown_and {within : UInt32} {k n : ℕ} (hwithin : within.toNat = 2 ^ n - 1) (hk : k ≤ n)
    (hoffset : offset < 2 ^ 32) :
    (UInt32.ofNat (offset / 2 ^ k * 2 ^ k) &&& within).toNat + offset % 2 ^ k = offset % 2 ^ n := by
  obtain ⟨m, rfl⟩ := Nat.exists_eq_add_of_le hk
  have hle : offset / 2 ^ k * 2 ^ k ≤ offset := Nat.div_mul_le_self _ _
  rw [UInt32.toNat_and, hwithin, Nat.and_two_pow_sub_one_eq_mod, UInt32.toNat_ofNat',
    Nat.mod_eq_of_lt (Nat.lt_of_le_of_lt hle hoffset), Nat.pow_add, Nat.mul_comm (offset / 2 ^ k),
    Nat.mul_mod_mul_left, Nat.mod_mul, Nat.add_comm]

/-- The lines look at as much of an address as their banks have, or as the region has. -/
theorem linesOf_within {l : Line} (hl : l ∈ linesOf r) :
    let n := Nat.log2 (l.within.toNat + 1)
    l.within.toNat = 2 ^ n - 1 ∧ 3 ≤ n ∧
      (n = offsetBits l.bank ∨ r.slots * 2 ^ pieceBits r ≤ 2 ^ n ∧ n ≤ offsetBits l.bank) := by
  have hall : ∀ l ∈ linesOf r, l.within.toNat = 2 ^ Nat.log2 (l.within.toNat + 1) - 1 ∧
      3 ≤ Nat.log2 (l.within.toNat + 1) ∧
      (Nat.log2 (l.within.toNat + 1) = offsetBits l.bank ∨
        r.slots * 2 ^ pieceBits r ≤ 2 ^ Nat.log2 (l.within.toNat + 1) ∧
          Nat.log2 (l.within.toNat + 1) ≤ offsetBits l.bank) := by
    cases r <;> decide
  exact hall l hl

/-- The offset of a byte in its bank, from that of its eight bytes. -/
theorem line_offset {l : Line} (hl : l ∈ linesOf r) (hoffset : offset < r.slots * 2 ^ pieceBits r) :
    (UInt32.ofNat (offset / 8 * 8) &&& l.within).toNat + offset % 8 =
      offset % 2 ^ offsetBits l.bank := by
  obtain ⟨hwithin, hthree, hbits⟩ := linesOf_within hl
  have hline := roundDown_and (k := 3) hwithin hthree (Nat.lt_trans hoffset (size_lt r))
  rcases hbits with hbits | ⟨hsize, hle⟩
  · rw [← hbits]
    exact hline
  · have hlt : offset < 2 ^ Nat.log2 (l.within.toNat + 1) := Nat.lt_of_lt_of_le hoffset hsize
    rw [Nat.mod_eq_of_lt hlt] at hline
    rw [Nat.mod_eq_of_lt (Nat.lt_of_lt_of_le hlt (Nat.pow_le_pow_right (by decide) hle))]
    exact hline

/-- The offset of a byte in a bank, from that of its block. -/
theorem block_offset (hb : b < 9) (hoffset : offset < 2 ^ 32) :
    (UInt32.ofNat (offset / 512 * 512) &&& vramMask b).toNat + offset % 512 =
      offset % 2 ^ offsetBits b := by
  have hmask : (vramMask b).toNat = 2 ^ offsetBits b - 1 := by
    interval_cases b <;> rfl
  have hnine : 9 ≤ offsetBits b := by
    rcases offsetBits_cases hb with h | h | h | h <;> omega
  exact roundDown_and (k := 9) hmask hnine hoffset

/-- The banks of a region are banks. -/
theorem banks_lt (hb : b ∈ banks r) : b < 9 := by
  have hall : ∀ b ∈ banks r, b < 9 := by
    cases r <;> decide
  exact hall b hb

/-- A copy has the bytes of the banks, or-ed together. -/
theorem copiedByte_eq (vram : ℕ → ℕ → UInt8) (hmask : ∀ b, hasBit mask b = true → b ∈ banks r)
    (hr : tracked r = true) (hoffset : offset < r.slots * 2 ^ pieceBits r) :
    copiedByte vram r mask offset =
      orBytes (banks r) (visible r mask) fun b => vram b (offset % 2 ^ offsetBits b) := by
  have hoffset32 : offset < 2 ^ 32 := Nat.lt_trans hoffset (size_lt r)
  unfold copiedByte
  split
  case h_1 bank o hptr =>
    rw [getUniqueBankPtr, Option.ite_none_left_eq_some] at hptr
    obtain ⟨hunique, hptr⟩ := hptr
    obtain ⟨b, hb32, hword⟩ := BitSet.unique_iff.mp hunique
    rw [hword, BitSet.ctz_bit hb32, Option.some.injEq, Prod.mk.injEq] at hptr
    obtain ⟨rfl, rfl⟩ := hptr
    have hone : ∀ c, hasBit mask c = decide (c = b) := by
      intro c
      rw [hword, BitSet.hasBit_bit hb32]
    have hb : b ∈ banks r := hmask b ((hone b).trans (decide_eq_true rfl))
    rw [block_offset (banks_lt hb) hoffset32]
    symm
    refine orBytes_eq_of_unique hb fun c _ => ?_
    rw [visible, hone, hone]
    by_cases hc : c = b
    · subst hc
      by_cases h5 : c = 5 <;> simp [h5]
    · simp [hc]
  case h_2 hptr =>
    have hlines : ∀ start : UInt8, (linesOf r).foldl (fun acc l =>
        if hasBit mask l.bit = true then
          acc ||| vram l.bank ((UInt32.ofNat (offset / 8 * 8) &&& l.within).toNat + offset % 8)
        else acc) start =
        ((linesOf r).map fun l => (l.bit, l.bank)).foldl (fun acc l =>
          if hasBit mask l.1 = true then acc ||| vram l.2 (offset % 2 ^ offsetBits l.2) else acc)
          start := by
      intro start
      rw [List.foldl_map]
      refine List.foldl_ext _ _ _ fun acc l hl => ?_
      rw [line_offset hl hoffset]
    rw [hlines]
    by_cases hext : r = .aobjExtPal
    · subst hext
      have hbit4 : ¬ hasBit mask 4 = true := fun h => absurd (hmask 4 h) (by decide)
      -- there is a pointer where there is one bank, so it is none or both
      have hboth : hasBit mask 5 = hasBit mask 6 := by
        rw [getUniqueBankPtr_eq_none] at hptr
        have honly : ∀ c : ℕ, c < 32 → ¬ ∀ b, hasBit mask b = decide (b = c) := by
          intro c hc hbits
          refine BitSet.unique_iff.mpr ⟨c, hc, BitSet.eq_of_hasBit fun b => ?_⟩ hptr
          rw [hbits, BitSet.hasBit_bit hc]
        have hbanks : ∀ b, hasBit mask b = true → b = 5 ∨ b = 6 := fun b hb => by
          simpa [banks] using hmask b hb
        by_contra hne
        cases h5 : hasBit mask 5 with
        | true =>
          have h6 : hasBit mask 6 = false := by
            rw [h5] at hne
            simpa using Ne.symm hne
          refine honly 5 (by decide) fun b => Bool.eq_iff_iff.mpr ⟨fun hb => ?_, fun hb => ?_⟩
          · rcases hbanks b hb with rfl | rfl
            · rfl
            · rw [h6] at hb
              contradiction
          · rw [of_decide_eq_true hb, h5]
        | false =>
          have h6 : hasBit mask 6 = true := by
            rw [h5] at hne
            simpa using Ne.symm hne
          refine honly 6 (by decide) fun b => Bool.eq_iff_iff.mpr ⟨fun hb => ?_, fun hb => ?_⟩
          · rcases hbanks b hb with rfl | rfl
            · rw [h5] at hb
              contradiction
            · rfl
          · rw [of_decide_eq_true hb, h6]
      simp [linesOf, linesAOBJExtPal, banks, orBytes, visible, hbit4, hboth]
    · have hsame : (linesOf r).map (fun l => (l.bit, l.bank)) = (banks r).map fun b => (b, b) := by
        cases r <;> first | rfl | contradiction
      rw [hsame, List.foldl_map, orBytes]
      refine List.foldl_ext _ _ _ fun acc b _ => ?_
      simp [visible, hext]

/-- The block of a bank that a block of a region is, as `DeriveState` has it. -/
def bankBlock (r : VRAMRegion) (b block : ℕ) : ℕ :=
  (block / bitsPerMapping r &&& (vramMask b).toNat >>> pieceBits r) * bitsPerMapping r +
    block % bitsPerMapping r

/-- The marks of a block of a region are those of the addresses that it is copied from. -/
theorem bankBlock_eq (hr : tracked r = true) (hb : b ∈ banks r) :
    bankBlock r b (offset / 512) = offset % 2 ^ offsetBits b / 512 := by
  have hpiece : pieceBits r ≤ offsetBits b ∧ bitsPerMapping r = 2 ^ (pieceBits r - 9) ∧
    9 ≤ pieceBits r ∧
      (vramMask b).toNat >>> pieceBits r = 2 ^ (offsetBits b - pieceBits r) - 1 := by
    have hall : ∀ b ∈ banks r, pieceBits r ≤ offsetBits b ∧
        bitsPerMapping r = 2 ^ (pieceBits r - 9) ∧ 9 ≤ pieceBits r ∧
        (vramMask b).toNat >>> pieceBits r = 2 ^ (offsetBits b - pieceBits r) - 1 := by
      cases r <;> first | contradiction | decide
    exact hall b hb
  obtain ⟨hle, hbpm, hnine, hshift⟩ := hpiece
  have hsplit : 2 ^ offsetBits b =
      512 * (2 ^ (pieceBits r - 9) * 2 ^ (offsetBits b - pieceBits r)) := by
    show _ = 2 ^ 9 * _
    rw [← Nat.pow_add, ← Nat.pow_add]
    congr 1
    omega
  rw [bankBlock, hshift, hbpm, Nat.and_two_pow_sub_one_eq_mod, hsplit, Nat.mod_mul_right_div_self,
    Nat.mod_mul, Nat.mul_comm, Nat.add_comm]

end Banks

section Marks

variable {g : GPU} {r : VRAMRegion}

/-- The blocks that `DeriveState` finds. -/
def NeedsCopy (g : GPU) (r : VRAMRegion) (block : ℕ) : Prop :=
  let i := block / bitsPerMapping r
  block < blocks r ∧ (g.vramMap r i ≠ (g.mapping r i).toUInt32 ∨
    ∃ b, hasBit (g.vramMap r i) b = true ∧ g.vramDirty b (bankBlock r b block) = true)

/-- Whether a bank is mapped to a region. -/
def InRegion (g : GPU) (r : VRAMRegion) (b : ℕ) : Prop :=
  ∃ i < r.slots, hasBit (g.vramMap r i) b = true

instance (g : GPU) (r : VRAMRegion) (b : ℕ) : Decidable (g.InRegion r b) :=
  inferInstanceAs (Decidable (∃ i, i < r.slots ∧ hasBit (g.vramMap r i) b = true))

/-- A word of the mapping has 16 bits, so that `Mapping` holds it. -/
theorem Mapped.toUInt16 (h : g.Mapped) (r : VRAMRegion) (i : ℕ) :
    (g.vramMap r i).toUInt16.toUInt32 = g.vramMap r i := by
  refine BitSet.eq_of_hasBit fun b => ?_
  rw [BitSet.hasBit_toUInt16_toUInt32]
  by_cases hb : b < 16
  · rw [decide_eq_true hb, Bool.true_and]
  · have hnot : hasBit (g.vramMap r i) b = false := by
      refine Bool.eq_false_iff.mpr fun hbit => hb ?_
      have hnine : b < 9 := ((h.word r i b).mp hbit).1
      omega
    rw [hnot, Bool.and_false]

/-- A loop that or-s flags together. -/
theorem foldl_or {α : Type} (f : α → ℕ → Bool) (l : List α) (start : ℕ → Bool) (j : ℕ) :
    l.foldl (fun result a j => result j || f a j) start j = (start j || l.any (f · j)) := by
  induction l generalizing start with
  | nil => simp
  | cons a l ih =>
    rw [List.foldl_cons, ih, List.any_cons, Bool.or_assoc]

/-- A loop that clears the flags of some banks. -/
theorem foldl_clear {α : Type} (l : List ℕ) (dirty : ℕ → ℕ → α) (value : ℕ → α) (b : ℕ) :
    l.foldl (fun dirty num => update dirty num value) dirty b = if b ∈ l then value
      else dirty b := by
  induction l generalizing dirty with
  | nil => simp
  | cons num l ih =>
    rw [List.foldl_cons, ih]
    by_cases hb : b = num
    · subst hb
      simp
    · simp [hb]

/-- The derivation after some pieces. -/
structure Derived (g : GPU) (r : VRAMRegion) (n : ℕ) (d : Derivation) : Prop where
  result : ∀ block, d.result block = true ↔
    block / bitsPerMapping r < n ∧
      (g.vramMap r (block / bitsPerMapping r) ≠ (g.mapping r (block / bitsPerMapping r)).toUInt32 ∨
        ∃ b, hasBit (g.vramMap r (block / bitsPerMapping r)) b = true ∧
          g.vramDirty b (bankBlock r b block) = true)
  banks : ∀ b, hasBit d.banksToBeZeroed.toUInt32 b = true ↔
    ∃ i < n, hasBit (g.vramMap r i) b = true
  mapping : ∀ i, d.mapping i = if i < n then (g.vramMap r i).toUInt16 else g.mapping r i

/-- The blocks of a piece. -/
theorem div_bitsPerMapping_eq (hr : tracked r = true) (i block : ℕ) :
    (i * bitsPerMapping r ≤ block ∧ block < i * bitsPerMapping r + bitsPerMapping r) ↔
      block / bitsPerMapping r = i := by
  have hpos : 0 < bitsPerMapping r := by
    cases r <;> decide
  constructor
  · intro h
    have hlt : block < (i + 1) * bitsPerMapping r := by
      rw [Nat.succ_mul]
      exact h.2
    exact Nat.div_eq_of_lt_le h.1 hlt
  · rintro rfl
    exact ⟨Nat.div_mul_le_self _ _, Nat.lt_div_mul_add hpos⟩

/-- One piece of `DeriveState`. -/
theorem Mapped.derived_step (h : g.Mapped) (hr : tracked r = true) {n : ℕ} {d : Derivation}
    (hd : g.Derived r n d) : g.Derived r (n + 1) (deriveStep r g d n) := by
  have hmap : d.mapping n = g.mapping r n := by
    rw [hd.mapping, if_neg (Nat.lt_irrefl n)]
  have hin : ∀ block, (decide (n * bitsPerMapping r ≤ block) &&
      decide (block < n * bitsPerMapping r + bitsPerMapping r)) = true ↔
        block / bitsPerMapping r = n := by
    intro block
    rw [Bool.and_eq_true, decide_eq_true_iff, decide_eq_true_iff]
    exact div_bitsPerMapping_eq hr n block
  unfold deriveStep
  dsimp only
  rw [hmap]
  by_cases hstale : g.vramMap r n ≠ (g.mapping r n).toUInt32
  · rw [if_pos hstale]
    constructor
    case result =>
      intro block
      rw [Bool.or_eq_true, hd.result, hin]
      constructor
      · rintro (hbefore | hn)
        · exact ⟨Nat.lt_succ_of_lt hbefore.1, hbefore.2⟩
        · subst hn
          exact ⟨Nat.lt_succ_self _, Or.inl hstale⟩
      · intro hblock
        rcases Nat.lt_succ_iff_lt_or_eq.mp hblock.1 with hlt | heq
        · exact Or.inl ⟨hlt, hblock.2⟩
        · exact Or.inr heq
    case banks =>
      intro b
      rw [UInt16.toUInt32_or, BitSet.hasBit_or, Bool.or_eq_true, hd.banks, h.toUInt16]
      exact Nat.exists_lt_succ_right.symm
    case mapping =>
      intro i
      dsimp only
      rw [Function.update_apply]
      by_cases hi : i = n
      · subst hi
        rw [if_pos rfl, if_pos (Nat.lt_succ_self i)]
      · rw [if_neg hi, hd.mapping]
        exact if_congr (by omega) rfl rfl
  · rw [if_neg hstale]
    have hsame : (g.mapping r n).toUInt32 = g.vramMap r n := (not_not.mp hstale).symm
    have hsame' : g.mapping r n = (g.vramMap r n).toUInt16 := by
      rw [← hsame, UInt16.toUInt16_toUInt32]
    rw [hsame]
    constructor
    case result =>
      intro block
      dsimp only
      rw [foldl_or, Bool.or_eq_true, hd.result, List.any_eq_true]
      constructor
      · rintro (hbefore | ⟨b, hb, hmark⟩)
        · exact ⟨Nat.lt_succ_of_lt hbefore.1, hbefore.2⟩
        · rw [Bool.and_eq_true, hin] at hmark
          obtain ⟨hn, hmark⟩ := hmark
          have hfirst : block - n * bitsPerMapping r = block % bitsPerMapping r := by
            rw [← hn, Nat.mod_eq_sub_div_mul]
          rw [hfirst] at hmark
          subst hn
          exact ⟨Nat.lt_succ_self _, Or.inr ⟨b, BitSet.mem_bits.mp hb, hmark⟩⟩
      · intro hblock
        rcases Nat.lt_succ_iff_lt_or_eq.mp hblock.1 with hlt | heq
        · exact Or.inl ⟨hlt, hblock.2⟩
        · right
          rcases hblock.2 with hne | ⟨b, hb, hmark⟩
          · rw [heq] at hne
            exact absurd hne hstale
          · rw [heq] at hb
            refine ⟨b, BitSet.mem_bits.mpr hb, ?_⟩
            have hfirst : block - n * bitsPerMapping r = block % bitsPerMapping r := by
              rw [← heq, Nat.mod_eq_sub_div_mul]
            rw [Bool.and_eq_true, hin, hfirst]
            refine ⟨heq, ?_⟩
            rw [← hmark, bankBlock, heq]
    case banks =>
      intro b
      rw [UInt16.toUInt32_or, BitSet.hasBit_or, Bool.or_eq_true, hd.banks, hsame]
      exact Nat.exists_lt_succ_right.symm
    case mapping =>
      intro i
      rw [hd.mapping]
      by_cases hi : i = n
      · subst hi
        rw [if_neg (Nat.lt_irrefl i), if_pos (Nat.lt_succ_self i), hsame']
      · exact if_congr (by omega) rfl rfl

/-- The loop of `DeriveState` over the first pieces. -/
theorem Mapped.derived (h : g.Mapped) (hr : tracked r = true) (n : ℕ) :
    g.Derived r n ((List.range n).foldl (deriveStep r g) ⟨fun _ => false, 0, g.mapping r⟩) := by
  induction n with
  | zero =>
    constructor
    case result => simp
    case banks => simp
    case mapping => simp
  | succ n ih =>
    rw [List.range_succ, List.foldl_append]
    exact h.derived_step hr ih

/-- What `DeriveState` finds, and what it changes. -/
theorem Mapped.deriveState_spec (h : g.Mapped) (hr : tracked r = true) :
    (∀ block, (g.deriveState r).1 block = true ↔ g.NeedsCopy r block) ∧
    (g.deriveState r).2 = { g with
      mapping := update g.mapping r fun i =>
        if i < r.slots then (g.vramMap r i).toUInt16 else g.mapping r i
      vramDirty := fun b block => if g.InRegion r b then false else g.vramDirty b block } := by
  have hd := h.derived hr r.slots
  have hpos : 0 < bitsPerMapping r := by
    cases r <;> decide
  unfold deriveState
  dsimp only
  constructor
  · intro block
    rw [hd.result, NeedsCopy, Nat.div_lt_iff_lt_mul hpos]
    rfl
  · congr 1
    · funext b
      rw [foldl_clear]
      funext block
      by_cases hb : g.InRegion r b
      · rw [if_pos hb, if_pos (BitSet.mem_bits.mpr ((hd.banks b).mpr hb))]
      · rw [if_neg hb, if_neg fun hmem => hb ((hd.banks b).mp (BitSet.mem_bits.mp hmem))]
    · congr 1
      funext i
      exact hd.mapping i

/-- What one update of a copy does. -/
theorem Mapped.makeVRAMFlatCoherent_spec (h : g.Mapped) (hr : tracked r = true) :
    g.makeVRAMFlatCoherent r = { g with
      mapping := update g.mapping r fun i =>
        if i < r.slots then (g.vramMap r i).toUInt16 else g.mapping r i
      vramDirty := fun b block => if g.InRegion r b then false else g.vramDirty b block
      vramFlat := update g.vramFlat r fun o =>
        if (g.deriveState r).1 (o / 512) = true then
          copiedByte g.vram r (g.vramMap r (o / 512 / bitsPerMapping r)) o
        else g.vramFlat r o } := by
  obtain ⟨hfound, hstate⟩ := h.deriveState_spec hr
  have hmapped : (g.deriveState r).2.Mapped := by
    rw [hstate]
    exact ⟨h.word, h.pointer⟩
  have hblocks : ∀ block, (g.deriveState r).1 block = true → block < blocks r :=
    fun block hblock => ((hfound block).mp hblock).1
  unfold makeVRAMFlatCoherent
  dsimp only
  rw [hmapped.copyLinearVRAM_eq hr, hstate, withFlat]
  dsimp only
  congr 2
  funext o
  exact if_congr ⟨fun hcopy => hcopy.2, fun hcopy => ⟨hblocks _ hcopy, hcopy⟩⟩ rfl rfl

end Marks

end DSEmu.GPU

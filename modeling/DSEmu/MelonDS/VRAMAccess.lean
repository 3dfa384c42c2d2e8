import Mathlib.Data.Nat.Bitwise
import DSEmu.MelonDS.VRAMMapping

/-!
# Accesses to video memory

The templates `ReadVRAM_x` and `WriteVRAM_x` of `GPU.h`. Each is a list of lines, one for each bank
that may be there: a read takes the `or` of the banks whose bit is set in the word of the slot, a
write goes to all of them. For the regions of the two screens a read first tries the pointer of the
slot, which there is where the slot has one bank only.

`readPointed_eq` says that the pointer makes no difference: what is read are the bytes of the banks
that are mapped, or-ed together (`overlay`). A write is read back wherever there is a bank
(`readPointed_scatter`).
-/

namespace DSEmu.GPU

open BitSet (hasBit bit ctz)
open Function (update)

/-- `*(T*)&memory[offset]`, for a type `T` of `n` bytes. -/
def load (n : ℕ) (memory : ℕ → UInt8) (offset : ℕ) : List UInt8 :=
  (List.range n).map fun k => memory (offset + k)

/-- `|` of two values. -/
def orValue (a b : List UInt8) : List UInt8 := List.zipWith (· ||| ·) a b

/-- `*(T*)&VRAM_x[offset] = val`. -/
def store (bank offset : ℕ) (val : List UInt8) (g : GPU) : GPU :=
  { g with
    vram := update g.vram bank fun o =>
      if offset ≤ o ∧ o < offset + val.length then val.getD (o - offset) 0 else g.vram bank o }

/-- `VRAMDirty[bank][block] = true`. -/
def setDirty (bank block : ℕ) (g : GPU) : GPU :=
  { g with vramDirty := update g.vramDirty bank (update (g.vramDirty bank) block true) }

/-- `VRAMDirtyGranularity`. -/
def vramDirtyGranularity : ℕ := 512

/-- A line of an access: it is done where the bit is set, to a bank, at `addr & within`. -/
structure Line where
  bit : ℕ
  bank : ℕ
  within : UInt32

/-- `if (mask & (1<<bit)) ret |= *(T*)&VRAM_x[addr & within]`, one line after the other. -/
def gather (n : ℕ) (mask addr : UInt32) (lines : List Line) (g : GPU) : List UInt8 :=
  lines.foldl (fun ret l =>
    if hasBit mask l.bit = true then orValue ret (load n (g.vram l.bank) (addr &&& l.within).toNat)
    else ret) (List.replicate n 0)

/-- The lines of a write, which may mark the blocks. -/
def scatter (marks : Bool) (mask addr : UInt32) (val : List UInt8) (lines : List Line) (g : GPU) :
    GPU :=
  lines.foldl (fun g l =>
    if hasBit mask l.bit = true then
      (if marks then g.setDirty l.bank ((addr &&& l.within).toNat / vramDirtyGranularity)
        else g).store l.bank (addr &&& l.within).toNat val
    else g) g

/-- The lines of `ReadVRAM_ABG` and `WriteVRAM_ABG`. -/
def linesABG : List Line :=
  [⟨0, 0, 0x1FFFF⟩, ⟨1, 1, 0x1FFFF⟩, ⟨2, 2, 0x1FFFF⟩, ⟨3, 3, 0x1FFFF⟩, ⟨4, 4, 0xFFFF⟩,
    ⟨5, 5, 0x3FFF⟩,
    ⟨6, 6, 0x3FFF⟩]

/-- The lines of `ReadVRAM_AOBJ` and `WriteVRAM_AOBJ`. -/
def linesAOBJ : List Line :=
  [⟨0, 0, 0x1FFFF⟩, ⟨1, 1, 0x1FFFF⟩, ⟨4, 4, 0xFFFF⟩, ⟨5, 5, 0x3FFF⟩, ⟨6, 6, 0x3FFF⟩]

/-- The lines of `ReadVRAM_BBG` and `WriteVRAM_BBG`. -/
def linesBBG : List Line := [⟨2, 2, 0x1FFFF⟩, ⟨7, 7, 0x7FFF⟩, ⟨8, 8, 0x3FFF⟩]

/-- The lines of `ReadVRAM_BOBJ` and `WriteVRAM_BOBJ`. -/
def linesBOBJ : List Line := [⟨3, 3, 0x1FFFF⟩, ⟨8, 8, 0x3FFF⟩]

/-- The lines of `ReadVRAM_ARM7` and `WriteVRAM_ARM7`. -/
def linesARM7 : List Line := [⟨2, 2, 0x1FFFF⟩, ⟨3, 3, 0x1FFFF⟩]

/-- The lines of `ReadVRAM_Texture`. -/
def linesTexture : List Line :=
  [⟨0, 0, 0x1FFFF⟩, ⟨1, 1, 0x1FFFF⟩, ⟨2, 2, 0x1FFFF⟩, ⟨3, 3, 0x1FFFF⟩]

/-- The lines of `ReadVRAM_TexPal`. -/
def linesTexPal : List Line := [⟨4, 4, 0xFFFF⟩, ⟨5, 5, 0x3FFF⟩, ⟨6, 6, 0x3FFF⟩]

/-- The lines of `ReadVRAM_ABGExtPal`. -/
def linesABGExtPal : List Line := [⟨4, 4, 0x7FFF⟩, ⟨5, 5, 0x3FFF⟩, ⟨6, 6, 0x3FFF⟩]

/-- The line of `ReadVRAM_BBGExtPal`. -/
def linesBBGExtPal : List Line := [⟨7, 7, 0x7FFF⟩]

/-- The bits are one lower than those of the banks. -/
def linesAOBJExtPal : List Line := [⟨4, 5, 0x1FFF⟩, ⟨5, 6, 0x1FFF⟩]

/-- The line of `ReadVRAM_BOBJExtPal`. -/
def linesBOBJExtPal : List Line := [⟨8, 8, 0x1FFF⟩]

/-- A read of one of the regions that have pointers, from its slot `i`. -/
def readPointed (n : ℕ) (r : VRAMRegion) (i : ℕ) (addr : UInt32) (lines : List Line) (g : GPU) :
    List UInt8 :=
  match g.vramPtr r i with
  | some (bank, offset) => load n (g.vram bank) (offset + (addr &&& 0x3FFF).toNat)
  | none => g.gather n (g.vramMap r i) addr lines

/-- `ReadVRAM_ABG`. -/
def readVRAM_ABG (n : ℕ) (addr : UInt32) (g : GPU) : List UInt8 :=
  g.readPointed n .abg ((addr >>> 14) &&& 0x1F).toNat addr linesABG

/-- `ReadVRAM_AOBJ`. -/
def readVRAM_AOBJ (n : ℕ) (addr : UInt32) (g : GPU) : List UInt8 :=
  g.readPointed n .aobj ((addr >>> 14) &&& 0xF).toNat addr linesAOBJ

/-- `ReadVRAM_BBG`. -/
def readVRAM_BBG (n : ℕ) (addr : UInt32) (g : GPU) : List UInt8 :=
  g.readPointed n .bbg ((addr >>> 14) &&& 0x7).toNat addr linesBBG

/-- `ReadVRAM_BOBJ`. -/
def readVRAM_BOBJ (n : ℕ) (addr : UInt32) (g : GPU) : List UInt8 :=
  g.readPointed n .bobj ((addr >>> 14) &&& 0x7).toNat addr linesBOBJ

/-- `ReadVRAM_ARM7`. -/
def readVRAM_ARM7 (n : ℕ) (addr : UInt32) (g : GPU) : List UInt8 :=
  g.gather n (g.vramMap .arm7 ((addr >>> 17) &&& 0x1).toNat) addr linesARM7

/-- `ReadVRAM_Texture`. -/
def readVRAM_Texture (n : ℕ) (addr : UInt32) (g : GPU) : List UInt8 :=
  g.gather n (g.vramMap .texture ((addr >>> 17) &&& 0x3).toNat) addr linesTexture

/-- `ReadVRAM_TexPal`. -/
def readVRAM_TexPal (n : ℕ) (addr : UInt32) (g : GPU) : List UInt8 :=
  g.gather n (g.vramMap .texPal ((addr >>> 14) &&& 0x7).toNat) addr linesTexPal

/-- `ReadVRAM_ABGExtPal`. -/
def readVRAM_ABGExtPal (n : ℕ) (addr : UInt32) (g : GPU) : List UInt8 :=
  g.gather n (g.vramMap .abgExtPal ((addr >>> 13) &&& 0x3).toNat) addr linesABGExtPal

/-- `ReadVRAM_BBGExtPal`. -/
def readVRAM_BBGExtPal (n : ℕ) (addr : UInt32) (g : GPU) : List UInt8 :=
  g.gather n (g.vramMap .bbgExtPal ((addr >>> 13) &&& 0x3).toNat) addr linesBBGExtPal

/-- `ReadVRAM_AOBJExtPal`. -/
def readVRAM_AOBJExtPal (n : ℕ) (addr : UInt32) (g : GPU) : List UInt8 :=
  g.gather n (g.vramMap .aobjExtPal 0) addr linesAOBJExtPal

/-- `ReadVRAM_BOBJExtPal`. -/
def readVRAM_BOBJExtPal (n : ℕ) (addr : UInt32) (g : GPU) : List UInt8 :=
  g.gather n (g.vramMap .bobjExtPal 0) addr linesBOBJExtPal

/-- `WriteVRAM_ABG`. -/
def writeVRAM_ABG (addr : UInt32) (val : List UInt8) (g : GPU) : GPU :=
  g.scatter true (g.vramMap .abg ((addr >>> 14) &&& 0x1F).toNat) addr val linesABG

/-- `WriteVRAM_AOBJ`. -/
def writeVRAM_AOBJ (addr : UInt32) (val : List UInt8) (g : GPU) : GPU :=
  g.scatter true (g.vramMap .aobj ((addr >>> 14) &&& 0xF).toNat) addr val linesAOBJ

/-- `WriteVRAM_BBG`. -/
def writeVRAM_BBG (addr : UInt32) (val : List UInt8) (g : GPU) : GPU :=
  g.scatter true (g.vramMap .bbg ((addr >>> 14) &&& 0x7).toNat) addr val linesBBG

/-- `WriteVRAM_BOBJ`. -/
def writeVRAM_BOBJ (addr : UInt32) (val : List UInt8) (g : GPU) : GPU :=
  g.scatter true (g.vramMap .bobj ((addr >>> 14) &&& 0x7).toNat) addr val linesBOBJ

/-- `WriteVRAM_ARM7`, which marks no blocks. -/
def writeVRAM_ARM7 (addr : UInt32) (val : List UInt8) (g : GPU) : GPU :=
  g.scatter false (g.vramMap .arm7 ((addr >>> 17) &&& 0x1).toNat) addr val linesARM7

/-- The switch of `ReadVRAM_LCDC` and `WriteVRAM_LCDC`: the bank of an address, and the part of the
address that is the offset. -/
def lcdcBank (addr : UInt32) : Option (ℕ × UInt32) :=
  let page := addr &&& 0xFF8FC000
  if page ∈ ([0x06800000, 0x06804000, 0x06808000, 0x0680C000,
      0x06810000, 0x06814000, 0x06818000, 0x0681C000] : List UInt32) then some (0, 0x1FFFF)
  else if page ∈ ([0x06820000, 0x06824000, 0x06828000, 0x0682C000,
      0x06830000, 0x06834000, 0x06838000, 0x0683C000] : List UInt32) then some (1, 0x1FFFF)
  else if page ∈ ([0x06840000, 0x06844000, 0x06848000, 0x0684C000,
      0x06850000, 0x06854000, 0x06858000, 0x0685C000] : List UInt32) then some (2, 0x1FFFF)
  else if page ∈ ([0x06860000, 0x06864000, 0x06868000, 0x0686C000,
      0x06870000, 0x06874000, 0x06878000, 0x0687C000] : List UInt32) then some (3, 0x1FFFF)
  else if page ∈ ([0x06880000, 0x06884000, 0x06888000, 0x0688C000] : List UInt32) then
    some (4, 0xFFFF)
  else if page = 0x06890000 then some (5, 0x3FFF)
  else if page = 0x06894000 then some (6, 0x3FFF)
  else if page = 0x06898000 ∨ page = 0x0689C000 then some (7, 0x7FFF)
  else if page = 0x068A0000 then some (8, 0x3FFF)
  else none

/-- `ReadVRAM_LCDC`. -/
def readVRAM_LCDC (n : ℕ) (addr : UInt32) (g : GPU) : List UInt8 :=
  match lcdcBank addr with
  | none => List.replicate n 0
  | some (bank, within) =>
    if hasBit (g.vramMap .lcdc 0) bank = true then load n (g.vram bank) (addr &&& within).toNat
    else List.replicate n 0

/-- `WriteVRAM_LCDC`. -/
def writeVRAM_LCDC (addr : UInt32) (val : List UInt8) (g : GPU) : GPU :=
  match lcdcBank addr with
  | none => g
  | some (bank, within) =>
    if hasBit (g.vramMap .lcdc 0) bank = true then
      (g.store bank (addr &&& within).toNat val).setDirty bank
        ((addr &&& within).toNat / vramDirtyGranularity)
    else g

/-- The case of video memory of `ARM9Read8`, `ARM9Read16` and `ARM9Read32`. -/
def arm9Read (n : ℕ) (addr : UInt32) (g : GPU) : List UInt8 :=
  let screen := addr &&& 0x00E00000
  if screen = 0x00000000 then g.readVRAM_ABG n addr
  else if screen = 0x00200000 then g.readVRAM_BBG n addr
  else if screen = 0x00400000 then g.readVRAM_AOBJ n addr
  else if screen = 0x00600000 then g.readVRAM_BOBJ n addr
  else g.readVRAM_LCDC n addr

/-- The case of video memory of `ARM9Write16` and `ARM9Write32`; `ARM9Write8` does nothing there. -/
def arm9Write (addr : UInt32) (val : List UInt8) (g : GPU) : GPU :=
  let screen := addr &&& 0x00E00000
  if screen = 0x00000000 then g.writeVRAM_ABG addr val
  else if screen = 0x00200000 then g.writeVRAM_BBG addr val
  else if screen = 0x00400000 then g.writeVRAM_AOBJ addr val
  else if screen = 0x00600000 then g.writeVRAM_BOBJ addr val
  else g.writeVRAM_LCDC addr val

/-! ### What is read -/

/-- The `or` of the bytes of some banks. -/
def orBytes (banks : List ℕ) (here : ℕ → Bool) (byte : ℕ → UInt8) : UInt8 :=
  banks.foldl (fun acc b => if here b = true then acc ||| byte b else acc) 0

section Bytes

variable {g : GPU} {n : ℕ} {mask addr : UInt32} {lines : List Line} {banks : List ℕ} {b : ℕ}
  {here : ℕ → Bool} {byte : ℕ → UInt8}

/-- A value that is gathered, byte by byte. -/
theorem gather_eq : g.gather n mask addr lines = (List.range n).map fun k =>
    lines.foldl (fun acc l =>
      if hasBit mask l.bit = true then acc ||| g.vram l.bank ((addr &&& l.within).toNat + k)
      else acc) 0 := by
  have hfold : ∀ (lines : List Line) (start : ℕ → UInt8),
      lines.foldl (fun ret l =>
        if hasBit mask l.bit = true then
          orValue ret (load n (g.vram l.bank) (addr &&& l.within).toNat)
        else ret) ((List.range n).map start) =
      (List.range n).map fun k => lines.foldl (fun acc l =>
        if hasBit mask l.bit = true then acc ||| g.vram l.bank ((addr &&& l.within).toNat + k)
        else acc) (start k) := by
    intro lines
    induction lines with
    | nil => exact fun start => rfl
    | cons l lines ih =>
      intro start
      simp only [List.foldl_cons]
      by_cases hbit : hasBit mask l.bit = true
      · simp only [hbit, if_true]
        rw [← ih fun k => start k ||| g.vram l.bank ((addr &&& l.within).toNat + k)]
        congr 1
        rw [orValue, load, List.zipWith_map, List.zipWith_self]
      · simp only [hbit]
        exact ih start
  have hzero : List.replicate n (0 : UInt8) = (List.range n).map fun _ => 0 := by
    rw [List.map_const', List.length_range]
  rw [gather, hzero, hfold]

/-- The lines of most accesses are those of some banks. -/
def bankLines (banks : List ℕ) : List Line := banks.map fun b => ⟨b, b, vramMask b⟩

/-- A read, byte by byte. -/
theorem gather_bankLines : g.gather n mask addr (bankLines banks) = (List.range n).map fun k =>
    orBytes banks (hasBit mask) fun b => g.vram b ((addr &&& vramMask b).toNat + k) := by
  rw [gather_eq, bankLines]
  simp only [List.foldl_map, orBytes]

/-- Banks that are not there do not matter. -/
theorem orBytes_filter (p : ℕ → Bool) (h : ∀ b ∈ banks, here b = true → p b = true) :
    orBytes (banks.filter p) here byte = orBytes banks here byte := by
  rw [orBytes, orBytes, List.foldl_filter]
  refine List.foldl_ext _ _ _ fun acc b hb => ?_
  by_cases hhere : here b = true
  · rw [if_pos (h b hb hhere)]
  · rw [if_neg hhere, ite_self]

/-- Only the banks that are there matter, with their bytes. -/
theorem orBytes_congr {here' : ℕ → Bool} {byte' : ℕ → UInt8}
    (hhere : ∀ b ∈ banks, here b = here' b) 
    (hbyte : ∀ b ∈ banks, here b = true → byte b = byte' b) :
    orBytes banks here byte = orBytes banks here' byte' := by
  refine List.foldl_ext _ _ _ fun acc b hb => ?_
  rw [← hhere b hb]
  by_cases h : here b = true
  · rw [if_pos h, if_pos h, hbyte b hb h]
  · rw [if_neg h, if_neg h]

/-- The same byte any number of times. -/
theorem orBytes_const (c : UInt8) :
    orBytes banks here (fun _ => c) = if ∃ b ∈ banks, here b = true then c else 0 := by
  have hfold : ∀ (banks : List ℕ) (start : UInt8), (start = 0 ∨ start = c) →
      banks.foldl (fun acc b => if here b = true then acc ||| c else acc) start =
        if start = c ∨ ∃ b ∈ banks, here b = true then c else 0 := by
    intro banks
    induction banks with
    | nil =>
      intro start hstart
      rcases hstart with rfl | rfl
      · simp only [List.foldl_nil, List.not_mem_nil, false_and, exists_false, or_false]
        split
        case isTrue h => exact h
        case isFalse h => rfl
      · simp
    | cons b banks ih =>
      intro start hstart
      rw [List.foldl_cons]
      by_cases hb : here b = true
      · have hc : start ||| c = c := by
          rcases hstart with rfl | rfl
          · exact UInt8.zero_or
          · exact UInt8.or_self
        rw [if_pos hb, hc, ih c (Or.inr rfl)]
        simp [hb]
      · rw [if_neg hb, ih start hstart]
        simp [hb]
  rw [orBytes, hfold banks 0 (Or.inl rfl)]
  by_cases hc : c = 0
  · subst hc
    simp
  · simp [Ne.symm hc]

/-- One bank only. -/
theorem orBytes_eq_of_unique (hb : b ∈ banks)
    (hhere : ∀ c ∈ banks, here c = true ↔ c = b) : orBytes banks here byte = byte b := by
  have hsame : orBytes banks here byte = orBytes banks here fun _ => byte b :=
    orBytes_congr (fun _ _ => rfl) fun c hc h => by rw [(hhere c hc).mp h]
  rw [hsame, orBytes_const, if_pos ⟨b, hb, (hhere b hb).mpr rfl⟩]

end Bytes

section Offsets

/-- The number of bits of an offset in a bank. -/
def offsetBits : ℕ → ℕ
  | 4 => 16
  | 5 => 14
  | 6 => 14
  | 7 => 15
  | 8 => 14
  | _ => 17

variable {b i : ℕ} {addr : UInt32}

/-- The offset of an address in a bank. -/
theorem toNat_and_vramMask (hb : b < 9) :
    (addr &&& vramMask b).toNat = addr.toNat % 2 ^ offsetBits b := by
  rw [UInt32.toNat_and, ← Nat.and_two_pow_sub_one_eq_mod]
  congr 1
  interval_cases b <;> rfl

/-- The sizes of the banks. -/
theorem offsetBits_cases (hb : b < 9) :
    offsetBits b = 14 ∨ offsetBits b = 15 ∨ offsetBits b = 16 ∨ offsetBits b = 17 := by
  interval_cases b <;> simp [offsetBits]

/-- The offset of an address in its piece of 16 KiB. -/
theorem toNat_page : (addr &&& 0x3FFF).toNat = addr.toNat % 2 ^ 14 := by
  rw [UInt32.toNat_and, ← Nat.and_two_pow_sub_one_eq_mod]
  rfl

/-- The first address of a slot. -/
theorem toNat_slotBase (hi : i < 32) : (UInt32.ofNat i <<< (14 : UInt32)).toNat = i * 2 ^ 14 := by
  rw [UInt32.toNat_shiftLeft, UInt32.toNat_ofNat']
  show (i % 4294967296) <<< 14 % 4294967296 = _
  rw [Nat.shiftLeft_eq]
  omega

/-- A pointer to the slot of an address, and the address in its page, are the address in the bank.
-/
theorem slotBase_add_page (hb : b < 9) (hi : i < 32) (hslot : i % 8 = addr.toNat / 2 ^ 14 % 8) :
    ((UInt32.ofNat i <<< (14 : UInt32)) &&& vramMask b).toNat + (addr &&& 0x3FFF).toNat =
      (addr &&& vramMask b).toNat := by
  rw [toNat_and_vramMask hb, toNat_and_vramMask hb, toNat_page, toNat_slotBase hi]
  rcases offsetBits_cases hb with h | h | h | h <;> rw [h] <;> omega

/-- The slots of 16 KiB that the functions take from an address. -/
theorem slot_mod {mask : UInt32} {s : ℕ} (hmask : mask.toNat = 2 ^ s - 1) (hs : 3 ≤ s) :
    ((addr >>> 14) &&& mask).toNat % 8 = addr.toNat / 2 ^ 14 % 8 := by
  rw [UInt32.toNat_and, hmask, Nat.and_two_pow_sub_one_eq_mod, UInt32.toNat_shiftRight]
  show addr.toNat >>> (14 % 32) % 2 ^ s % 8 = _
  rw [Nat.shiftRight_eq_div_pow]
  exact Nat.mod_mod_of_dvd _ (Nat.pow_dvd_pow 2 hs)

end Offsets

section Reads

variable {g : GPU} {n i : ℕ} {r : VRAMRegion} {addr : UInt32}

/-- The bytes of the banks that are mapped somewhere, or-ed together. -/
def overlay (g : GPU) (r : VRAMRegion) (i : ℕ) (offset : ℕ → ℕ) : UInt8 :=
  orBytes (List.range 9) (fun b => decide (Covers (placement b (g.vramCNT b)) r i))
    fun b => g.vram b (offset b)

/-- A slot has the banks that cover it. -/
theorem Mapped.hasBit_eq (h : g.Mapped) {b : ℕ} (hb : b < 9) :
    hasBit (g.vramMap r i) b = decide (Covers (placement b (g.vramCNT b)) r i) := by
  rw [Bool.eq_iff_iff, decide_eq_true_iff, h.word]
  exact ⟨fun h => h.2, fun h => ⟨hb, h⟩⟩

/-- The banks of a region are in the order of their numbers. -/
theorem banks_eq (r : VRAMRegion) : banks r = (List.range 9).filter (· ∈ banks r) := by
  cases r <;> rfl

/-- A value that is gathered from the banks of a region. -/
theorem Mapped.gather_banks (h : g.Mapped) :
    g.gather n (g.vramMap r i) addr (bankLines (banks r)) = (List.range n).map fun k =>
      g.overlay r i fun b => (addr &&& vramMask b).toNat + k := by
  rw [gather_bankLines]
  refine List.map_congr_left fun k _ => ?_
  rw [banks_eq, orBytes_filter]
  · refine orBytes_congr (fun b hb => ?_) fun _ _ _ => rfl
    exact h.hasBit_eq (List.mem_range.mp hb)
  · intro b hb hhere
    rw [decide_eq_true_iff]
    exact mem_banks ((h.word r i b).mp hhere).2

/-- A read through the pointer is a read of the banks: there is only one. -/
theorem Mapped.readPointed_eq (h : g.Mapped) (hr : r.hasPtr = true) (hi : i < 32)
    (hslot : i % 8 = addr.toNat / 2 ^ 14 % 8) :
    g.readPointed n r i addr (bankLines (banks r)) = (List.range n).map fun k =>
      g.overlay r i fun b => (addr &&& vramMask b).toNat + k := by
  unfold readPointed
  rw [h.pointer r i hr, getUniqueBankPtr]
  split
  case h_2 => exact h.gather_banks
  case h_1 bank offset hptr =>
    rw [Option.ite_none_left_eq_some] at hptr
    obtain ⟨hunique, hptr⟩ := hptr
    obtain ⟨b, hb32, hword⟩ := BitSet.unique_iff.mp hunique
    rw [hword, BitSet.ctz_bit hb32, Option.some.injEq, Prod.mk.injEq] at hptr
    obtain ⟨rfl, rfl⟩ := hptr
    have hone : ∀ c, hasBit (g.vramMap r i) c = decide (c = b) := by
      intro c
      rw [hword, BitSet.hasBit_bit hb32]
    have hb : b < 9 := ((h.word r i b).mp ((hone b).trans (decide_eq_true rfl))).1
    refine List.map_congr_left fun k _ => ?_
    rw [slotBase_add_page hb hi hslot, overlay]
    symm
    refine orBytes_eq_of_unique (List.mem_range.mpr hb) fun c hc => ?_
    rw [← h.hasBit_eq (List.mem_range.mp hc), hone, decide_eq_true_iff]

/-- A bank at its address for the LCDC, with its own mask. -/
theorem lcdcBank_eq {b : ℕ} {within : UInt32} (h : lcdcBank addr = some (b, within)) :
    b < 9 ∧ within = vramMask b := by
  unfold lcdcBank at h
  dsimp only at h
  repeat' split at h
  all_goals first | contradiction | (cases h; exact ⟨by decide, rfl⟩)

/-- The region and the slot that the ARM9 sees at an address, outside of the LCD controller's. -/
def screenSlot (addr : UInt32) : Option (VRAMRegion × ℕ) :=
  let screen := addr &&& 0x00E00000
  if screen = 0x00000000 then some (.abg, ((addr >>> 14) &&& 0x1F).toNat)
  else if screen = 0x00200000 then some (.bbg, ((addr >>> 14) &&& 0x7).toNat)
  else if screen = 0x00400000 then some (.aobj, ((addr >>> 14) &&& 0xF).toNat)
  else if screen = 0x00600000 then some (.bobj, ((addr >>> 14) &&& 0x7).toNat)
  else none

/-- Whether the ARM9 sees a bank at an address. -/
def Sees (g : GPU) (addr : UInt32) (b : ℕ) : Prop :=
  match screenSlot addr with
  | some (r, i) => Covers (placement b (g.vramCNT b)) r i
  | none => (lcdcBank addr).map Prod.fst = some b ∧ Covers (placement b (g.vramCNT b)) .lcdc 0

instance (g : GPU) (addr : UInt32) (b : ℕ) : Decidable (g.Sees addr b) := by
  unfold Sees
  split <;> infer_instance

/-- The slot of an address on the screens is one of a region with pointers. -/
theorem screenSlot_spec (h : screenSlot addr = some (r, i)) :
    r.hasPtr = true ∧ i < 32 ∧ i % 8 = addr.toNat / 2 ^ 14 % 8 := by
  have hlt : ∀ (mask : UInt32), mask.toNat < 32 → ((addr >>> 14) &&& mask).toNat < 32 := by
    intro mask hmask
    rw [UInt32.toNat_and]
    exact Nat.lt_of_le_of_lt Nat.and_le_right hmask
  unfold screenSlot at h
  dsimp only at h
  repeat' split at h
  · cases h
    exact ⟨rfl, hlt _ (by decide), slot_mod (s := 5) rfl (by decide)⟩
  · cases h
    exact ⟨rfl, hlt _ (by decide), slot_mod (s := 3) rfl (by decide)⟩
  · cases h
    exact ⟨rfl, hlt _ (by decide), slot_mod (s := 4) rfl (by decide)⟩
  · cases h
    exact ⟨rfl, hlt _ (by decide), slot_mod (s := 3) rfl (by decide)⟩
  · contradiction

/-- The switch of the accesses of the ARM9. -/
theorem screen_switch {α : Type} (addr : UInt32) (access : VRAMRegion → ℕ → α)
    (abg bbg aobj bobj lcdc : α)
    (habg : abg = access .abg ((addr >>> 14) &&& 0x1F).toNat)
    (hbbg : bbg = access .bbg ((addr >>> 14) &&& 0x7).toNat)
    (haobj : aobj = access .aobj ((addr >>> 14) &&& 0xF).toNat)
    (hbobj : bobj = access .bobj ((addr >>> 14) &&& 0x7).toNat) :
    (let screen := addr &&& 0x00E00000
      if screen = 0x00000000 then abg
      else if screen = 0x00200000 then bbg
      else if screen = 0x00400000 then aobj
      else if screen = 0x00600000 then bobj
      else lcdc) =
      match screenSlot addr with
      | some (r, i) => access r i
      | none => lcdc := by
  unfold screenSlot
  dsimp only
  split
  case isTrue => exact habg
  case isFalse =>
    split
    case isTrue => exact hbbg
    case isFalse =>
      split
      case isTrue => exact haobj
      case isFalse =>
        split
        case isTrue => exact hbobj
        case isFalse => rfl

/-- The lines of the accesses of the screens are those of the banks that can be there. -/
theorem arm9Read_eq_match : g.arm9Read n addr =
    match screenSlot addr with
    | some (r, i) => g.readPointed n r i addr (bankLines (banks r))
    | none => g.readVRAM_LCDC n addr :=
  screen_switch addr (fun r i => g.readPointed n r i addr (bankLines (banks r))) _ _ _ _ _ rfl rfl
    rfl rfl

/-- The ARM9 reads what the registers map to the address. -/
theorem Mapped.arm9Read_eq (h : g.Mapped) : g.arm9Read n addr = (List.range n).map fun k =>
    orBytes (List.range 9) (fun b => decide (g.Sees addr b))
      fun b => g.vram b ((addr &&& vramMask b).toNat + k) := by
  cases hslot : screenSlot addr with
  | some place =>
    obtain ⟨r, i⟩ := place
    obtain ⟨hr, hi, hmod⟩ := screenSlot_spec hslot
    rw [arm9Read_eq_match, hslot]
    dsimp only
    rw [h.readPointed_eq hr hi hmod]
    refine List.map_congr_left fun k _ => ?_
    refine orBytes_congr (fun b _ => ?_) fun _ _ _ => rfl
    unfold Sees
    simp only [hslot]
  | none =>
    rw [arm9Read_eq_match, hslot]
    dsimp only
    rw [readVRAM_LCDC]
    have hzero : List.replicate n (0 : UInt8) = (List.range n).map fun _ => 0 := by
      rw [List.map_const', List.length_range]
    have hsees : ∀ b, g.Sees addr b ↔
        (lcdcBank addr).map Prod.fst = some b ∧ Covers (placement b (g.vramCNT b)) .lcdc 0 := by
      intro b
      unfold Sees
      simp only [hslot]
    have hnone : (∀ b, ¬ g.Sees addr b) → List.replicate n (0 : UInt8) =
        (List.range n).map fun k => orBytes (List.range 9) (fun b => decide (g.Sees addr b))
          fun b => g.vram b ((addr &&& vramMask b).toNat + k) := by
      intro hno
      rw [hzero]
      refine List.map_congr_left fun k _ => ?_
      have hconst : orBytes (List.range 9) (fun b => decide (g.Sees addr b))
          (fun b => g.vram b ((addr &&& vramMask b).toNat + k)) =
            orBytes (List.range 9) (fun b => decide (g.Sees addr b)) fun _ => 0 :=
        orBytes_congr (fun _ _ => rfl) fun b _ hb => absurd (of_decide_eq_true hb) (hno b)
      rw [hconst, orBytes_const, ite_self]
    cases hbank : lcdcBank addr with
    | none =>
      refine hnone fun b hb => ?_
      rw [hsees, hbank] at hb
      exact absurd hb.1 (by simp)
    | some place =>
      obtain ⟨b, within⟩ := place
      obtain ⟨hb, rfl⟩ := lcdcBank_eq hbank
      dsimp only
      by_cases hlcdc : hasBit (g.vramMap .lcdc 0) b = true
      · rw [if_pos hlcdc, load]
        refine List.map_congr_left fun k _ => ?_
        symm
        refine orBytes_eq_of_unique (List.mem_range.mpr hb) fun c _ => ?_
        rw [decide_eq_true_iff, hsees, hbank]
        constructor
        · exact fun hc => (Option.some.inj hc.1).symm
        · rintro rfl
          exact ⟨rfl, ((h.word _ _ _).mp hlcdc).2⟩
      · rw [if_neg hlcdc]
        refine hnone fun c hc => ?_
        rw [hsees, hbank] at hc
        obtain rfl : b = c := Option.some.inj hc.1
        exact hlcdc ((h.word _ _ _).mpr ⟨hb, hc.2⟩)

end Reads

section Writes

variable {g : GPU} {n i : ℕ} {r : VRAMRegion} {mask addr : UInt32} {val : List UInt8}

/-- A write of a value leaves everything but the banks and their marks. -/
structure OnlyWrites (g t : GPU) : Prop where
  vramCNT : t.vramCNT = g.vramCNT
  vramSTAT : t.vramSTAT = g.vramSTAT
  vramMap : t.vramMap = g.vramMap
  vramPtr : t.vramPtr = g.vramPtr
  mapping : t.mapping = g.mapping
  vramFlat : t.vramFlat = g.vramFlat

/-- Nothing is written. -/
theorem OnlyWrites.refl (g : GPU) : OnlyWrites g g := ⟨rfl, rfl, rfl, rfl, rfl, rfl⟩

/-- One write after another. -/
theorem OnlyWrites.trans {t u : GPU} (h : OnlyWrites g t) (h' : OnlyWrites t u) : OnlyWrites g u :=
  ⟨h'.1.trans h.1, h'.2.trans h.2, h'.3.trans h.3, h'.4.trans h.4, h'.5.trans h.5, h'.6.trans h.6⟩

/-- A write goes to the bytes and the marks only. -/
theorem onlyWrites_scatter (marks : Bool) (lines : List Line) :
    OnlyWrites g (g.scatter marks mask addr val lines) := by
  unfold scatter
  induction lines generalizing g with
  | nil => exact OnlyWrites.refl g
  | cons l lines ih =>
    rw [List.foldl_cons]
    by_cases hbit : hasBit mask l.bit = true
    · rw [if_pos hbit]
      have hone : OnlyWrites g ((if marks then
          g.setDirty l.bank ((addr &&& l.within).toNat / vramDirtyGranularity) else g).store l.bank
            (addr &&& l.within).toNat val) := by
        cases marks <;> exact ⟨rfl, rfl, rfl, rfl, rfl, rfl⟩
      exact hone.trans (ih (g := _))
    · rw [if_neg hbit]
      exact ih (g := _)

/-- A write leaves the mapping as it is. -/
theorem Mapped.of_onlyWrites {t : GPU} (h : g.Mapped) (ht : OnlyWrites g t) : t.Mapped where
  word r i b := by
    rw [ht.vramMap, ht.vramCNT]
    exact h.word r i b
  pointer r i hr := by
    rw [ht.vramMap, ht.vramPtr]
    exact h.pointer r i hr

/-- A bank behind a write that goes to some banks: the value is there. -/
def written (g : GPU) (here : ℕ → Prop) [DecidablePred here] (addr : UInt32) (val : List UInt8)
    (b o : ℕ) : UInt8 :=
  let offset := (addr &&& vramMask b).toNat
  if here b ∧ offset ≤ o ∧ o < offset + val.length then val.getD (o - offset) 0 else g.vram b o

/-- The marks of a bank behind a write that goes to some banks. -/
def marked (g : GPU) (here : ℕ → Prop) [DecidablePred here] (addr : UInt32) (b block : ℕ) : Bool :=
  g.vramDirty b block ||
    decide (here b ∧ block = (addr &&& vramMask b).toNat / vramDirtyGranularity)

variable {banks : List ℕ}

/-- What is written depends on the banks that are there. -/
theorem written_congr {here here' : ℕ → Prop} [DecidablePred here] [DecidablePred here'] {b : ℕ}
    (h : here b ↔ here' b) (o : ℕ) : g.written here addr val b o =
    g.written here' addr val b o := by
  unfold written
  simp only [h]

/-- What is marked depends on the banks that are there. -/
theorem marked_congr {here here' : ℕ → Prop} [DecidablePred here] [DecidablePred here'] {b : ℕ}
    (h : here b ↔ here' b) (block : ℕ) :
    g.marked here addr b block = g.marked here' addr b block := by
  unfold marked
  congr 1
  exact decide_eq_decide.mpr (and_congr_left' h)

/-- What the lines of a write do to the banks. -/
theorem scatter_bankLines (marks : Bool) (hnodup : banks.Nodup) (b : ℕ) :
    (∀ o, (g.scatter marks mask addr val (bankLines banks)).vram b o =
      g.written (fun b => b ∈ banks ∧ hasBit mask b = true) addr val b o) ∧
    ∀ block, (g.scatter marks mask addr val (bankLines banks)).vramDirty b block =
      if marks then g.marked (fun b => b ∈ banks ∧ hasBit mask b = true) addr b block
      else g.vramDirty b block := by
  induction banks generalizing g with
  | nil =>
    constructor
    · intro o
      unfold written
      rw [if_neg (by simp)]
      rfl
    · intro block
      simp [marked, scatter, bankLines]
  | cons c banks ih =>
    obtain ⟨hc, hnodup⟩ := List.nodup_cons.mp hnodup
    by_cases hbit : hasBit mask c = true
    · -- the first line writes, the others leave its bank
      have hstep : g.scatter marks mask addr val (bankLines (c :: banks)) =
          ((if marks then g.setDirty c ((addr &&& vramMask c).toNat / vramDirtyGranularity)
            else g).store c (addr &&& vramMask c).toNat val).scatter marks mask addr val
              (bankLines banks) := by
        unfold scatter bankLines
        rw [List.map_cons, List.foldl_cons, if_pos hbit]
      obtain ⟨hvram, hdirty⟩ := ih (g := (if marks then
        g.setDirty c ((addr &&& vramMask c).toNat / vramDirtyGranularity) else g).store c
          (addr &&& vramMask c).toNat val) hnodup
      have hbefore : (if marks then g.setDirty c
        ((addr &&& vramMask c).toNat / vramDirtyGranularity)
          else g).vram = g.vram := by
        cases marks <;> rfl
      rw [hstep]
      constructor
      · intro o
        rw [hvram]
        unfold written store
        dsimp only
        rw [hbefore]
        by_cases hb : b = c
        · subst hb
          simp [hc, hbit]
        · simp [hb]
      · intro block
        rw [hdirty]
        cases marks with
        | false => rfl
        | true =>
          unfold marked store setDirty
          simp only [if_true]
          by_cases hb : b = c
          · subst hb
            by_cases hblock : block = (addr &&& vramMask b).toNat / vramDirtyGranularity
            · simp [hblock, hbit]
            · simp [hc, hblock, -UInt32.toNat_and]
          · simp [hb]
    · have hstep : g.scatter marks mask addr val (bankLines (c :: banks)) =
          g.scatter marks mask addr val (bankLines banks) := by
        unfold scatter bankLines
        rw [List.map_cons, List.foldl_cons, if_neg hbit]
      obtain ⟨hvram, hdirty⟩ := ih (g := g) hnodup
      have hsame : (b ∈ banks ∧ hasBit mask b = true) ↔
        (b ∈ c :: banks ∧ hasBit mask b = true) := by
        rw [List.mem_cons]
        constructor
        · exact fun h => ⟨Or.inr h.1, h.2⟩
        · rintro ⟨rfl | hmem, h⟩
          · exact absurd h hbit
          · exact ⟨hmem, h⟩
      rw [hstep]
      constructor
      · exact fun o => (hvram o).trans (written_congr hsame o)
      · intro block
        rw [hdirty]
        exact if_congr Iff.rfl (marked_congr hsame block) rfl

/-- What a write of the ARM9 does to the banks. -/
structure Arm9Written (g : GPU) (addr : UInt32) (val : List UInt8) (t : GPU) : Prop where
  only : OnlyWrites g t
  vram : ∀ b o, t.vram b o = g.written (g.Sees addr) addr val b o
  vramDirty : ∀ b block, t.vramDirty b block = g.marked (g.Sees addr) addr b block

/-- A region has each bank once. -/
theorem banks_nodup (r : VRAMRegion) : (GPU.banks r).Nodup := by
  cases r <;> decide

/-- A write of the ARM9, by the slot of the address. -/
theorem arm9Write_eq_match : g.arm9Write addr val =
    match screenSlot addr with
    | some (r, i) => g.scatter true (g.vramMap r i) addr val (bankLines (GPU.banks r))
    | none => g.writeVRAM_LCDC addr val :=
  screen_switch addr (fun r i => g.scatter true (g.vramMap r i) addr val (bankLines (GPU.banks r)))
    _ _ _ _ _ rfl rfl rfl rfl

/-- A write of the ARM9 goes to every bank that the processor sees at the address. -/
theorem Mapped.arm9Write_spec (h : g.Mapped) (addr : UInt32) (val : List UInt8) :
    g.Arm9Written addr val (g.arm9Write addr val) := by
  rw [arm9Write_eq_match]
  cases hslot : screenSlot addr with
  | some place =>
    obtain ⟨r, i⟩ := place
    have hsees : ∀ b, (b ∈ GPU.banks r ∧ hasBit (g.vramMap r i) b = true) ↔ g.Sees addr b := by
      intro b
      unfold Sees
      simp only [hslot]
      rw [h.word]
      constructor
      · exact fun hb => hb.2.2
      · intro hb
        have hmem := mem_banks hb
        exact ⟨hmem, List.mem_range.mp (List.mem_of_mem_filter (banks_eq r ▸ hmem)), hb⟩
    constructor
    case only => exact onlyWrites_scatter true _
    case vram =>
      intro b o
      exact ((scatter_bankLines true (banks_nodup r) b).1 o).trans (written_congr (hsees b) o)
    case vramDirty =>
      intro b block
      exact ((scatter_bankLines true (banks_nodup r) b).2 block).trans
        ((if_pos rfl).trans (marked_congr (hsees b) block))
  | none =>
    have hsees : ∀ b, g.Sees addr b ↔
        (lcdcBank addr).map Prod.fst = some b ∧ Covers (placement b (g.vramCNT b)) .lcdc 0 := by
      intro b
      unfold Sees
      simp only [hslot]
    have hnone : (∀ b, ¬ g.Sees addr b) → g.Arm9Written addr val g := by
      intro hno
      constructor
      case only => exact OnlyWrites.refl g
      case vram => exact fun b o => (if_neg fun h => hno b h.1).symm
      case vramDirty => exact fun b block => by simp [marked, hno b]
    dsimp only
    unfold writeVRAM_LCDC
    cases hbank : lcdcBank addr with
    | none =>
      refine hnone fun b hb => ?_
      rw [hsees, hbank] at hb
      exact absurd hb.1 (by simp)
    | some place =>
      obtain ⟨c, within⟩ := place
      obtain ⟨hc, rfl⟩ := lcdcBank_eq hbank
      dsimp only
      by_cases hlcdc : hasBit (g.vramMap .lcdc 0) c = true
      · have hiff : ∀ b, g.Sees addr b ↔ b = c := by
          intro b
          rw [hsees, hbank]
          constructor
          · exact fun hb => (Option.some.inj hb.1).symm
          · rintro rfl
            exact ⟨rfl, ((h.word _ _ _).mp hlcdc).2⟩
        rw [if_pos hlcdc]
        constructor
        case only => exact ⟨rfl, rfl, rfl, rfl, rfl, rfl⟩
        case vram =>
          intro b o
          have hwritten : g.written (g.Sees addr) addr val b o = g.written (· = c) addr val b o :=
            written_congr (hiff b) o
          rw [hwritten]
          unfold written store setDirty
          dsimp only
          by_cases hb : b = c
          · subst hb
            simp
          · simp [hb]
        case vramDirty =>
          intro b block
          have hmarked : g.marked (g.Sees addr) addr b block = g.marked (· = c) addr b block :=
            marked_congr (hiff b) block
          rw [hmarked]
          unfold marked store setDirty
          dsimp only
          by_cases hb : b = c
          · subst hb
            by_cases hblock : block = (addr &&& vramMask b).toNat / vramDirtyGranularity
            · simp [hblock]
            · simp [hblock, -UInt32.toNat_and]
          · simp [hb]
      · rw [if_neg hlcdc]
        refine hnone fun b hb => ?_
        rw [hsees, hbank] at hb
        obtain rfl : c = b := Option.some.inj hb.1
        exact hlcdc ((h.word _ _ _).mpr ⟨hc, hb.2⟩)

/-- A write does not change which banks are seen. -/
theorem sees_of_onlyWrites {t : GPU} (h : OnlyWrites g t) (b : ℕ) :
    t.Sees addr b ↔ g.Sees addr b := by
  unfold Sees
  rw [h.vramCNT]

/-- A value that is written is read back, where there is a bank. -/
theorem Mapped.arm9Read_arm9Write (h : g.Mapped) :
    (g.arm9Write addr val).arm9Read val.length addr =
      if ∃ b ∈ List.range 9, g.Sees addr b then val else List.replicate val.length 0 := by
  have hspec := h.arm9Write_spec addr val
  have hbyte : ∀ k < val.length, orBytes (List.range 9)
      (fun b => decide ((g.arm9Write addr val).Sees addr b))
      (fun b => (g.arm9Write addr val).vram b ((addr &&& vramMask b).toNat + k)) =
        if ∃ b ∈ List.range 9, g.Sees addr b then val.getD k 0 else 0 := by
    intro k hk
    have hsame : orBytes (List.range 9) (fun b => decide ((g.arm9Write addr val).Sees addr b))
        (fun b => (g.arm9Write addr val).vram b ((addr &&& vramMask b).toNat + k)) =
          orBytes (List.range 9) (fun b => decide (g.Sees addr b)) fun _ => val.getD k 0 := by
      refine orBytes_congr (fun b _ => ?_) fun b _ hb => ?_
      · exact decide_eq_decide.mpr (sees_of_onlyWrites hspec.only b)
      · have hb : g.Sees addr b := (sees_of_onlyWrites hspec.only b).mp (of_decide_eq_true hb)
        rw [hspec.vram, written]
        rw [if_pos ⟨hb, Nat.le_add_right _ _, Nat.add_lt_add_left hk _⟩, Nat.add_sub_cancel_left]
    rw [hsame, orBytes_const]
    simp only [decide_eq_true_iff]
  rw [(h.of_onlyWrites hspec.only).arm9Read_eq]
  refine List.ext_getElem (by split <;> simp) fun k hk hk' => ?_
  rw [List.length_map, List.length_range] at hk
  rw [List.getElem_map, List.getElem_range, hbyte k hk]
  split <;> simp [List.getD_eq_getElem?_getD, hk]

/-- What a write of the ARM7 does to the banks: the same, but for the marks. -/
theorem Mapped.writeVRAM_ARM7_spec (h : g.Mapped) (addr : UInt32) (val : List UInt8) :
    let t := g.writeVRAM_ARM7 addr val
    OnlyWrites g t ∧ t.vramDirty = g.vramDirty ∧
      ∀ b o, t.vram b o = g.written
        (fun b => Covers (placement b (g.vramCNT b)) .arm7 ((addr >>> 17) &&& 0x1).toNat) addr val b
          o := by
  have hsees : ∀ b, (b ∈ GPU.banks .arm7 ∧
      hasBit (g.vramMap .arm7 ((addr >>> 17) &&& 0x1).toNat) b = true) ↔
        Covers (placement b (g.vramCNT b)) .arm7 ((addr >>> 17) &&& 0x1).toNat := by
    intro b
    rw [h.word]
    constructor
    · exact fun hb => hb.2.2
    · intro hb
      have hmem := mem_banks hb
      exact ⟨hmem, List.mem_range.mp (List.mem_of_mem_filter (banks_eq .arm7 ▸ hmem)), hb⟩
  refine ⟨onlyWrites_scatter false _, ?_, fun b o => ?_⟩
  · funext b block
    exact (scatter_bankLines false (banks_nodup .arm7) b).2 block
  · exact ((scatter_bankLines false (banks_nodup .arm7) b).1 o).trans (written_congr (hsees b) o)

end Writes

end DSEmu.GPU

import Mathlib.Logic.Function.Basic
import DSEmu.Library.BitSet

/-!
# The video memory

The nine banks A to I of video memory, the registers `VRAMCNT` that map each of them to one of the
regions, and the accesses of the two processors, from `GPU.cpp` and `GPU.h`. The array `VRAMMap_x`
of a region has one word for each of its slots, with one bit for each bank: any number of banks may
be at one place, a read is the `or` of all of them and a write goes to all. Where there is only one,
`VRAMPtr_x` points into it.

A value of an access is the list of its bytes, the lowest first. Banks have their numbers, as in the
code.
-/

namespace DSEmu

open BitSet (hasBit bit ctz)
open Function (update)

/-- What video memory is mapped to: there is a `VRAMMap_x` for each. -/
inductive VRAMRegion where
  | lcdc
  | abg
  | aobj
  | bbg
  | bobj
  | abgExtPal
  | aobjExtPal
  | bbgExtPal
  | bobjExtPal
  | texture
  | texPal
  | arm7
  deriving DecidableEq, Repr

namespace VRAMRegion

/-- The length of `VRAMMap_x`. -/
def slots : VRAMRegion → ℕ
  | lcdc => 1
  | abg => 0x20
  | aobj => 0x10
  | bbg => 8
  | bobj => 8
  | abgExtPal => 4
  | aobjExtPal => 1
  | bbgExtPal => 4
  | bobjExtPal => 1
  | texture => 4
  | texPal => 8
  | arm7 => 2

/-- Whether there is a `VRAMPtr_x`. -/
def hasPtr : VRAMRegion → Bool
  | abg => true
  | aobj => true
  | bbg => true
  | bobj => true
  | _ => false

end VRAMRegion

/-- The video memory of `GPU`, and what is kept about it. -/
@[ext]
structure GPU where
  vramCNT : ℕ → UInt8 := fun _ => 0
  vramSTAT : UInt8 := 0
  vram : ℕ → ℕ → UInt8 := fun _ _ => 0
  vramMap : VRAMRegion → ℕ → UInt32 := fun _ _ => 0
  /-- a bank, and where in it -/
  vramPtr : VRAMRegion → ℕ → Option (ℕ × ℕ) := fun _ _ => none
  /-- the blocks of a bank that have been written to -/
  vramDirty : ℕ → ℕ → Bool := fun _ _ => false
  /-- `Mapping` of the `VRAMTrackingSet` of a region -/
  mapping : VRAMRegion → ℕ → UInt16 := fun _ _ => 0x8000
  vramFlat : VRAMRegion → ℕ → UInt8 := fun _ _ => 0

namespace GPU

/-- `VRAMMask`. -/
def vramMask : ℕ → UInt32
  | 0 => 0x1FFFF
  | 1 => 0x1FFFF
  | 2 => 0x1FFFF
  | 3 => 0x1FFFF
  | 4 => 0xFFFF
  | 5 => 0x3FFF
  | 6 => 0x3FFF
  | 7 => 0x7FFF
  | 8 => 0x3FFF
  | _ => 0

/-- `GetUniqueBankPtr`. -/
def getUniqueBankPtr (mask offset : UInt32) : Option (ℕ × ℕ) :=
  if mask = 0 ∨ mask &&& (mask - 1) ≠ 0 then none
  else some (ctz mask, (offset &&& vramMask (ctz mask)).toNat)

/-! ### The mapping -/

/-- `VRAMMap_x[i]` becomes `word`. -/
def setMap (r : VRAMRegion) (i : ℕ) (word : UInt32) (g : GPU) : GPU :=
  { g with vramMap := fun r' i' => if r' = r ∧ i' = i then word else g.vramMap r' i' }

/-- `VRAMMap_x[i] |= bankmask`. -/
def orMap (r : VRAMRegion) (bank i : ℕ) (g : GPU) : GPU := g.setMap r i (g.vramMap r i ||| bit bank)

/-- `VRAMMap_x[i] &= ~bankmask`. -/
def clearMap (r : VRAMRegion) (bank i : ℕ) (g : GPU) : GPU :=
  g.setMap r i (g.vramMap r i &&& ~~~bit bank)

/-- `VRAMPtr_x[i] = GetUniqueBankPtr(VRAMMap_x[i], i << 14)`. -/
def setPtr (r : VRAMRegion) (i : ℕ) (g : GPU) : GPU :=
  { g with
    vramPtr := fun r' i' =>
      if r' = r ∧ i' = i then getUniqueBankPtr (g.vramMap r i) (UInt32.ofNat i <<< (14 : UInt32))
      else g.vramPtr r' i' }

/-- `MAP_RANGE`. -/
def mapRange (r : VRAMRegion) (bank base n : ℕ) (g : GPU) : GPU :=
  (List.range n).foldl (fun g i => g.orMap r bank (base + i)) g

/-- `UNMAP_RANGE`. -/
def unmapRange (r : VRAMRegion) (bank base n : ℕ) (g : GPU) : GPU :=
  (List.range n).foldl (fun g i => g.clearMap r bank (base + i)) g

/-- `MAP_RANGE_PTR`. -/
def mapRangePtr (r : VRAMRegion) (bank base n : ℕ) (g : GPU) : GPU :=
  (List.range n).foldl (fun g i => (g.orMap r bank (base + i)).setPtr r (base + i)) g

/-- `UNMAP_RANGE_PTR`. -/
def unmapRangePtr (r : VRAMRegion) (bank base n : ℕ) (g : GPU) : GPU :=
  (List.range n).foldl (fun g i => (g.clearMap r bank (base + i)).setPtr r (base + i)) g

/-- `MapVRAM_AB`, for the banks A and B. -/
def mapVRAM_AB (bank : ℕ) (cnt : UInt8) (g : GPU) : GPU :=
  let cnt := cnt &&& 0x9B
  let oldcnt := g.vramCNT bank
  let g := { g with vramCNT := update g.vramCNT bank cnt }
  if oldcnt = cnt then g
  else
    let oldofs := ((oldcnt >>> 3) &&& 0x3).toNat
    let ofs := ((cnt >>> 3) &&& 0x3).toNat
    let g :=
      if oldcnt &&& 0x80 ≠ 0 then
        match (oldcnt &&& 0x3).toNat with
        | 0 => g.clearMap .lcdc bank 0
        | 1 => g.unmapRangePtr .abg bank (oldofs <<< 3) 8
        | 2 => g.unmapRangePtr .aobj bank ((oldofs &&& 0x1) <<< 3) 8
        | 3 => g.clearMap .texture bank oldofs
        | _ => g
      else g
    if cnt &&& 0x80 ≠ 0 then
      match (cnt &&& 0x3).toNat with
      | 0 => g.orMap .lcdc bank 0
      | 1 => g.mapRangePtr .abg bank (ofs <<< 3) 8
      | 2 => g.mapRangePtr .aobj bank ((ofs &&& 0x1) <<< 3) 8
      | 3 => g.orMap .texture bank ofs
      | _ => g
    else g

/-- `MapVRAM_CD`, for the banks C and D, but for the JIT's invalidation. -/
def mapVRAM_CD (bank : ℕ) (cnt : UInt8) (g : GPU) : GPU :=
  let cnt := cnt &&& 0x9F
  let oldcnt := g.vramCNT bank
  let statbit := (1 : UInt8) <<< UInt8.ofNat (bank - 2)
  -- the bit goes before the return, so it does where nothing else changes
  let g := { g with
    vramCNT := update g.vramCNT bank cnt
    vramSTAT := g.vramSTAT &&& ~~~statbit }
  if oldcnt = cnt then g
  else
    let oldofs := ((oldcnt >>> 3) &&& 0x7).toNat
    let ofs := ((cnt >>> 3) &&& 0x7).toNat
    let g :=
      if oldcnt &&& 0x80 ≠ 0 then
        match (oldcnt &&& 0x7).toNat with
        | 0 => g.clearMap .lcdc bank 0
        | 1 => g.unmapRangePtr .abg bank (oldofs <<< 3) 8
        | 2 => g.clearMap .arm7 bank (oldofs &&& 0x1)
        | 3 => g.clearMap .texture bank oldofs
        | 4 => g.unmapRangePtr (if bank = 2 then .bbg else .bobj) bank 0 8
        | _ => g
      else g
    if cnt &&& 0x80 ≠ 0 then
      match (cnt &&& 0x7).toNat with
      | 0 => g.orMap .lcdc bank 0
      | 1 => g.mapRangePtr .abg bank (ofs <<< 3) 8
      | 2 =>
        let g := g.orMap .arm7 bank (ofs &&& 0x1)
        { g with
          vramDirty := update g.vramDirty bank fun _ => true
          vramSTAT := g.vramSTAT ||| statbit }
      | 3 => g.orMap .texture bank ofs
      | 4 => g.mapRangePtr (if bank = 2 then .bbg else .bobj) bank 0 8
      | _ => g
    else g

/-- `MapVRAM_E`. -/
def mapVRAM_E (bank : ℕ) (cnt : UInt8) (g : GPU) : GPU :=
  let cnt := cnt &&& 0x87
  let oldcnt := g.vramCNT bank
  let g := { g with vramCNT := update g.vramCNT bank cnt }
  if oldcnt = cnt then g
  else
    let g :=
      if oldcnt &&& 0x80 ≠ 0 then
        match (oldcnt &&& 0x7).toNat with
        | 0 => g.clearMap .lcdc bank 0
        | 1 => g.unmapRangePtr .abg bank 0 4
        | 2 => g.unmapRangePtr .aobj bank 0 4
        | 3 => g.unmapRange .texPal bank 0 4
        | 4 => g.unmapRange .abgExtPal bank 0 4
        | _ => g
      else g
    if cnt &&& 0x80 ≠ 0 then
      match (cnt &&& 0x7).toNat with
      | 0 => g.orMap .lcdc bank 0
      | 1 => g.mapRangePtr .abg bank 0 4
      | 2 => g.mapRangePtr .aobj bank 0 4
      | 3 => g.mapRange .texPal bank 0 4
      | 4 => g.mapRange .abgExtPal bank 0 4
      | _ => g
    else g

/-- `MapVRAM_FG`, for the banks F and G. -/
def mapVRAM_FG (bank : ℕ) (cnt : UInt8) (g : GPU) : GPU :=
  let cnt := cnt &&& 0x9F
  let oldcnt := g.vramCNT bank
  let g := { g with vramCNT := update g.vramCNT bank cnt }
  if oldcnt = cnt then g
  else
    let oldofs := ((oldcnt >>> 3) &&& 0x7).toNat
    let ofs := ((cnt >>> 3) &&& 0x7).toNat
    let g :=
      if oldcnt &&& 0x80 ≠ 0 then
        let base := (oldofs &&& 0x1) + ((oldofs &&& 0x2) <<< 1)
        match (oldcnt &&& 0x7).toNat with
        | 0 => g.clearMap .lcdc bank 0
        | 1 => (((g.clearMap .abg bank base).clearMap .abg bank (base + 2)).setPtr .abg base).setPtr
            .abg (base + 2)
        | 2 =>
          (((g.clearMap .aobj bank base).clearMap .aobj bank (base + 2)).setPtr .aobj base).setPtr
            .aobj (base + 2)
        | 3 => g.clearMap .texPal bank base
        | 4 => (g.clearMap .abgExtPal bank ((oldofs &&& 0x1) <<< 1)).clearMap .abgExtPal bank
            (((oldofs &&& 0x1) <<< 1) + 1)
        | 5 => g.clearMap .aobjExtPal bank 0
        | _ => g
      else g
    if cnt &&& 0x80 ≠ 0 then
      let base := (ofs &&& 0x1) + ((ofs &&& 0x2) <<< 1)
      match (cnt &&& 0x7).toNat with
      | 0 => g.orMap .lcdc bank 0
      | 1 => (((g.orMap .abg bank base).orMap .abg bank (base + 2)).setPtr .abg base).setPtr
          .abg (base + 2)
      | 2 => (((g.orMap .aobj bank base).orMap .aobj bank (base + 2)).setPtr .aobj base).setPtr
          .aobj (base + 2)
      | 3 => g.orMap .texPal bank base
      | 4 => (g.orMap .abgExtPal bank ((ofs &&& 0x1) <<< 1)).orMap .abgExtPal bank
          (((ofs &&& 0x1) <<< 1) + 1)
      | 5 => g.orMap .aobjExtPal bank 0
      | _ => g
    else g

/-- `MapVRAM_H`. -/
def mapVRAM_H (bank : ℕ) (cnt : UInt8) (g : GPU) : GPU :=
  let cnt := cnt &&& 0x83
  let oldcnt := g.vramCNT bank
  let g := { g with vramCNT := update g.vramCNT bank cnt }
  if oldcnt = cnt then g
  else
    let g :=
      if oldcnt &&& 0x80 ≠ 0 then
        match (oldcnt &&& 0x3).toNat with
        | 0 => g.clearMap .lcdc bank 0
        | 1 =>
          let g := [0, 1, 4, 5].foldl (fun g i => g.clearMap .bbg bank i) g
          [0, 1, 4, 5].foldl (fun g i => g.setPtr .bbg i) g
        | 2 => g.unmapRange .bbgExtPal bank 0 4
        | _ => g
      else g
    if cnt &&& 0x80 ≠ 0 then
      match (cnt &&& 0x3).toNat with
      | 0 => g.orMap .lcdc bank 0
      | 1 =>
        let g := [0, 1, 4, 5].foldl (fun g i => g.orMap .bbg bank i) g
        [0, 1, 4, 5].foldl (fun g i => g.setPtr .bbg i) g
      | 2 => g.mapRange .bbgExtPal bank 0 4
      | _ => g
    else g

/-- `MapVRAM_I`. -/
def mapVRAM_I (bank : ℕ) (cnt : UInt8) (g : GPU) : GPU :=
  let cnt := cnt &&& 0x83
  let oldcnt := g.vramCNT bank
  let g := { g with vramCNT := update g.vramCNT bank cnt }
  if oldcnt = cnt then g
  else
    let g :=
      if oldcnt &&& 0x80 ≠ 0 then
        match (oldcnt &&& 0x3).toNat with
        | 0 => g.clearMap .lcdc bank 0
        | 1 =>
          let g := [2, 3, 6, 7].foldl (fun g i => g.clearMap .bbg bank i) g
          [2, 3, 6, 7].foldl (fun g i => g.setPtr .bbg i) g
        | 2 => g.unmapRangePtr .bobj bank 0 8
        | 3 => g.clearMap .bobjExtPal bank 0
        | _ => g
      else g
    if cnt &&& 0x80 ≠ 0 then
      match (cnt &&& 0x3).toNat with
      | 0 => g.orMap .lcdc bank 0
      | 1 =>
        let g := [2, 3, 6, 7].foldl (fun g i => g.orMap .bbg bank i) g
        [2, 3, 6, 7].foldl (fun g i => g.setPtr .bbg i) g
      | 2 => g.mapRangePtr .bobj bank 0 8
      | 3 => g.orMap .bobjExtPal bank 0
      | _ => g
    else g

/-- A write of `ARM9IOWrite8` to the register of a bank, at 0x04000240 to 0x04000246, 0x04000248 and
0x04000249. -/
def writeVRAMCNT (bank : ℕ) (cnt : UInt8) (g : GPU) : GPU :=
  match bank with
  | 0 => g.mapVRAM_AB 0 cnt
  | 1 => g.mapVRAM_AB 1 cnt
  | 2 => g.mapVRAM_CD 2 cnt
  | 3 => g.mapVRAM_CD 3 cnt
  | 4 => g.mapVRAM_E 4 cnt
  | 5 => g.mapVRAM_FG 5 cnt
  | 6 => g.mapVRAM_FG 6 cnt
  | 7 => g.mapVRAM_H 7 cnt
  | 8 => g.mapVRAM_I 8 cnt
  | _ => g

end GPU

end DSEmu

import DSEmu.MelonDS.VRAMAccess

/-!
# Video memory as a program sees it

What the mapping, the pointers and the copies are for: nine registers, which place nine banks of
bytes. A read sees the bytes of all banks that are at the address, or-ed together, and a write goes
to all of them. `VideoMemory` has nothing else, and `VRAMMachine` says that the emulator behaves
like it.
-/

namespace DSEmu

/-- What is done to the video memory from outside. -/
inductive VRAMEvent where
  /-- `VRAMCNT` of a bank is written -/
  | control (bank : ℕ) (cnt : UInt8)
  | arm9Write16 (addr : UInt32) (val : UInt16)
  | arm9Write32 (addr : UInt32) (val : UInt32)
  | arm7Write8 (addr : UInt32) (val : UInt8)
  | arm7Write16 (addr : UInt32) (val : UInt16)
  | arm7Write32 (addr : UInt32) (val : UInt32)
  /-- a line of the picture is captured, whatever the pixels are -/
  | capture (captureCnt : UInt32) (line : ℕ) (pixel : ℕ → UInt16)
  /-- a renderer brings its copy of a region up to date -/
  | update (r : VRAMRegion)
  /-- a savestate is made, and one of those that were made is loaded -/
  | save
  | load (k : ℕ)

/-- The bytes of a value, the lowest first. -/
def littleEndian16 (val : UInt16) : List UInt8 := [val.toUInt8, (val >>> 8).toUInt8]

def littleEndian32 (val : UInt32) : List UInt8 :=
  [val.toUInt8, (val >>> 8).toUInt8, (val >>> 16).toUInt8, (val >>> 24).toUInt8]

/-- The width and the height of a capture. -/
def captureSize (captureCnt : UInt32) : ℕ × ℕ :=
  match ((captureCnt >>> 20) &&& 0x3).toNat with
  | 0 => (128, 128)
  | 1 => (256, 64)
  | 2 => (256, 128)
  | _ => (256, 192)

/-- The registers and the banks. -/
@[ext]
structure VideoMemory where
  cnt : ℕ → UInt8 := fun _ => 0
  bytes : ℕ → ℕ → UInt8 := fun _ _ => 0

namespace VideoMemory

open GPU (Covers placement cntMask vramMask screenSlot lcdcBank orBytes banks offsetBits)
open Function (update)

/-- Whether a bank is at a slot of a region. -/
def Shows (m : VideoMemory) (r : VRAMRegion) (i b : ℕ) : Prop := Covers (placement b (m.cnt b)) r i

instance (m : VideoMemory) (r : VRAMRegion) (i b : ℕ) : Decidable (m.Shows r i b) :=
  inferInstanceAs (Decidable (Covers (placement b (m.cnt b)) r i))

/-- Whether the ARM9 sees a bank at an address. -/
def Sees (m : VideoMemory) (addr : UInt32) (b : ℕ) : Prop :=
  match screenSlot addr with
  | some (r, i) => m.Shows r i b
  | none => (lcdcBank addr).map Prod.fst = some b ∧ m.Shows .lcdc 0 b

instance (m : VideoMemory) (addr : UInt32) (b : ℕ) : Decidable (m.Sees addr b) :=
  inferInstanceAs (Decidable (({ vramCNT := m.cnt } : GPU).Sees addr b))

/-- Whether the ARM7 sees a bank at an address. -/
def Sees7 (m : VideoMemory) (addr : UInt32) (b : ℕ) : Prop :=
  m.Shows .arm7 ((addr >>> 17) &&& 0x1).toNat b

instance (m : VideoMemory) (addr : UInt32) (b : ℕ) : Decidable (m.Sees7 addr b) :=
  inferInstanceAs (Decidable (m.Shows .arm7 ((addr >>> 17) &&& 0x1).toNat b))

/-- A read of some bytes from the banks that are there. -/
def read (m : VideoMemory) (here : ℕ → Prop) [DecidablePred here] (n : ℕ) (addr : UInt32) :
    List UInt8 :=
  (List.range n).map fun k =>
    orBytes (List.range 9) (fun b => decide (here b)) fun b =>
      m.bytes b ((addr &&& vramMask b).toNat + k)

/-- A write to the banks that are there. -/
def write (m : VideoMemory) (here : ℕ → Prop) [DecidablePred here] (addr : UInt32)
    (val : List UInt8) :
    VideoMemory :=
  { m with
    bytes := fun b o =>
      let offset := (addr &&& vramMask b).toNat
      if here b ∧ offset ≤ o ∧ o < offset + val.length then val.getD (o - offset) 0
        else m.bytes b o }

/-- The byte of a region that a renderer is to see. In the palettes of the sprites of the first
screen the bank F cannot be seen behind G. -/
def rendered (m : VideoMemory) (r : VRAMRegion) (i offset : ℕ) : UInt8 :=
  orBytes (banks r)
    (fun b => decide (m.Shows r i b ∧ ¬(r = .aobjExtPal ∧ b = 5 ∧ m.Shows r i 6)))
    fun b => m.bytes b (offset % 2 ^ offsetBits b)

/-- The place of a captured line in its bank. -/
def captureStart (captureCnt : UInt32) (line : ℕ) : ℕ :=
  (((captureCnt >>> 18) &&& 0x3).toNat * 2 ^ 14 + line * (captureSize captureCnt).1) % 2 ^ 16

/-- A captured line goes to a bank of the LCD controller. -/
def capture (m : VideoMemory) (captureCnt : UInt32) (line : ℕ) (pixel : ℕ → UInt16) : VideoMemory :=
  if line < (captureSize captureCnt).2 then
    m.write (fun b => b = ((captureCnt >>> 16) &&& 0x3).toNat ∧ m.Shows .lcdc 0 b)
      (UInt32.ofNat (captureStart captureCnt line * 2))
      ((List.range (captureSize captureCnt).1).flatMap fun i => littleEndian16 (pixel i))
  else m

/-- What an event does, where `saved` is the savestates that there are. -/
def step (m : VideoMemory) (saved : List VideoMemory) : VRAMEvent → VideoMemory
  | .control bank cnt => { m with cnt := update m.cnt bank (cnt &&& cntMask bank) }
  | .arm9Write16 addr val =>
    let addr := addr &&& ~~~0x1
    m.write (m.Sees addr) addr (littleEndian16 val)
  | .arm9Write32 addr val =>
    let addr := addr &&& ~~~0x3
    m.write (m.Sees addr) addr (littleEndian32 val)
  | .arm7Write8 addr val => m.write (m.Sees7 addr) addr [val]
  | .arm7Write16 addr val =>
    let addr := addr &&& ~~~0x1
    m.write (m.Sees7 addr) addr (littleEndian16 val)
  | .arm7Write32 addr val =>
    let addr := addr &&& ~~~0x3
    m.write (m.Sees7 addr) addr (littleEndian32 val)
  | .capture captureCnt line pixel => m.capture captureCnt line pixel
  | .update _ => m
  | .save => m
  | .load k => saved[k]?.getD m

/-- The savestates behind an event. -/
def nextSaved (m : VideoMemory) (saved : List VideoMemory) : VRAMEvent → List VideoMemory
  | .save => saved ++ [m]
  | _ => saved

/-- A run, with the savestates that it has made. -/
def run : List VRAMEvent → VideoMemory × List VideoMemory :=
  List.foldl (fun s e => (s.1.step s.2 e, s.1.nextSaved s.2 e)) ({}, [])

end VideoMemory

end DSEmu

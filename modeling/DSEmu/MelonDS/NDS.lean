import Mathlib.Tactic.SplitIfs
import DSEmu.MelonDS.Savestate

/-!
# The console of melonDS

The parts of `src/NDS.cpp` and `src/SPI.cpp` of melonDS that take the keys and the stylus, and the
saving `DoSavestate`. What `NDS` writes into its own section, "NDSG", is `NDSG`; `NDS` adds what it
does not write, `KeyInput` among it, with the interrupt lines of the two processors and the touch
screen controller.

The other components, from the memory controllers to the wireless, are a parameter (`Components`).
Each writes its own sections from its own state. Keys and stylus reach one of them, the 3D renderer,
whose thread `GPU3D::RestartFrame` starts again; nothing that is written belongs to that thread.

What the keys change in section "NDSG" is the keypad's interrupt: `toNDSG_setKeyMask` says how, and
`withKeypadIRQ_eq_iff` when two of these changes are the same.
-/

namespace DSEmu

open FixedWidth

/-- `Timer`. -/
structure Timer where
  reload : UInt16 := 0
  cnt : UInt16 := 0
  counter : UInt32 := 0
  cycleShift : UInt32 := 0

instance : FixedWidth Timer :=
  ofInjective (fun t => (t.reload, t.cnt, t.counter, t.cycleShift)) <| by
    rintro ⟨⟩ ⟨⟩ h
    simpa only [Prod.mk.injEq, Timer.mk.injEq] using h

/-- `SchedEvent`, without the functions that it calls. -/
structure SchedEvent where
  timestamp : UInt64 := 0
  funcID : UInt32 := 0
  param : UInt32 := 0

instance : FixedWidth SchedEvent :=
  ofInjective (fun e => (e.timestamp, e.funcID, e.param)) <| by
    rintro ⟨⟩ ⟨⟩ h
    simpa only [Prod.mk.injEq, SchedEvent.mk.injEq] using h

/-- `FIFO<u32, 16>`. -/
structure IPCFIFO where
  numOccupied : UInt32 := 0
  readPos : UInt32 := 0
  writePos : UInt32 := 0
  entries : Vector UInt32 16 := .replicate 16 0

instance : FixedWidth IPCFIFO :=
  ofInjective (fun f => (f.numOccupied, f.readPos, f.writePos, f.entries)) <| by
    rintro ⟨⟩ ⟨⟩ h
    simpa only [Prod.mk.injEq, IPCFIFO.mk.injEq] using h

/-- What `NDS` writes into its section of a savestate, in this order. Arrays over the two processors
have the ARM9 first. -/
structure NDSG where
  consoleType : UInt32 := 0
  mainRAM : Vector UInt8 0x1000000 := .replicate _ 0
  sharedWRAM : Vector UInt8 0x8000 := .replicate _ 0
  arm7WRAM : Vector UInt8 0x10000 := .replicate _ 0
  exMemCnt : Vector UInt16 2 := .replicate _ 0
  romSeed0 : Vector UInt8 16 := .replicate _ 0
  romSeed1 : Vector UInt8 16 := .replicate _ 0
  wifiWaitCnt : UInt16 := 0
  /-- `IME` -/
  ime : Vector UInt32 2 := .replicate _ 0
  /-- `IE` -/
  ie : Vector UInt32 2 := .replicate _ 0
  /-- `IF` -/
  irf : Vector UInt32 2 := .replicate _ 0
  /-- `IE2` -/
  ie2 : UInt32 := 0
  /-- `IF2` -/
  irf2 : UInt32 := 0
  postFlag9 : UInt8 := 0
  postFlag7 : UInt8 := 0
  powerControl9 : UInt16 := 0
  powerControl7 : UInt16 := 0
  arm7BIOSProt : UInt16 := 0
  ipcSync9 : UInt16 := 0
  ipcSync7 : UInt16 := 0
  ipcFIFOCnt9 : UInt16 := 0
  ipcFIFOCnt7 : UInt16 := 0
  ipcFIFO9 : IPCFIFO := {}
  ipcFIFO7 : IPCFIFO := {}
  divCnt : UInt16 := 0
  sqrtCnt : UInt16 := 0
  cpuStop : UInt32 := 0
  timers : Vector Timer 8 := .replicate _ {}
  timerCheckMask : Vector UInt8 2 := .replicate _ 0
  timerTimestamp : Vector UInt64 2 := .replicate _ 0
  dma9Fill : Vector UInt32 4 := .replicate _ 0
  schedList : Vector SchedEvent 16 := .replicate _ {}
  schedListMask : UInt32 := 0
  arm9Timestamp : UInt64 := 0
  arm9Target : UInt64 := 0
  arm7Timestamp : UInt64 := 0
  arm7Target : UInt64 := 0
  sysTimestamp : UInt64 := 0
  lastSysClockCycles : UInt64 := 0
  frameStartTimestamp : UInt64 := 0
  numFrames : UInt32 := 0
  numLagFrames : UInt32 := 0
  lagFrameFlag : Bool := false
  keyCnt : Vector UInt16 2 := .replicate _ 0
  rCnt : UInt16 := 0
  wramCnt : UInt8 := 0
  runningGame : Bool := false

/-- The touch screen controller, `TSC`, without the microphone. -/
structure TSC where
  dataPos : UInt32 := 0
  controlByte : UInt8 := 0
  data : UInt8 := 0
  convResult : UInt16 := 0
  touchX : UInt16 := 0
  touchY : UInt16 := 0

/-- The components of the console that keys and stylus do not reach, with states `κ`: what they
write before the touch screen controller does and after it. -/
structure Components (κ : Type) where
  /-- `GPU3D::RestartFrame` -/
  restartFrame : κ → κ
  /-- the memory controllers, the processors, the slots, the graphics, the sound, and the host of
  the SPI bus with the power management and the firmware -/
  sectionsBeforeTSC : κ → List SavestateSection
  /-- the clock and the wireless -/
  sectionsAfterTSC : κ → List SavestateSection
  before_restartFrame : ∀ k, sectionsBeforeTSC (restartFrame k) = sectionsBeforeTSC k
  after_restartFrame : ∀ k, sectionsAfterTSC (restartFrame k) = sectionsAfterTSC k

/-- The console. -/
structure NDS (κ : Type) extends NDSG where
  keyInput : UInt32 := 0x007F03FF
  /-- `ARM9.IRQ` and `ARM7.IRQ` -/
  armIRQ : Vector Bool 2 := .replicate _ false
  tsc : TSC := {}
  components : κ

/-- `IRQ_Keypad` -/
def irqKeypad : UInt32 := 12

/-- `CPUStop_Wakeup`, bit 29 -/
def cpuStopWakeup : UInt32 := 0x20000000

/-- `CPUStop_Sleep`, bit 30 -/
def cpuStopSleep : UInt32 := 0x40000000

namespace NDSG

/-- The variables of section "NDSG", as `NDS::DoSavestate` saves them. -/
def fields (n : NDSG) : List Data :=
  [bytes n.consoleType,
    bytes n.mainRAM, bytes n.sharedWRAM, bytes n.arm7WRAM,
    bytes n.exMemCnt, bytes n.romSeed0, bytes n.romSeed1,
    bytes n.wifiWaitCnt,
    bytes n.ime, bytes n.ie, bytes n.irf, bytes n.ie2, bytes n.irf2,
    bytes n.postFlag9, bytes n.postFlag7, bytes n.powerControl9, bytes n.powerControl7,
    bytes n.arm7BIOSProt,
    bytes n.ipcSync9, bytes n.ipcSync7, bytes n.ipcFIFOCnt9, bytes n.ipcFIFOCnt7,
    bytes n.ipcFIFO9, bytes n.ipcFIFO7,
    bytes n.divCnt, bytes n.sqrtCnt,
    bytes n.cpuStop,
    bytes n.timers, bytes n.timerCheckMask, bytes n.timerTimestamp,
    bytes n.dma9Fill,
    bytes n.schedList, bytes n.schedListMask,
    bytes n.arm9Timestamp, bytes n.arm9Target, bytes n.arm7Timestamp, bytes n.arm7Target,
    bytes n.sysTimestamp, bytes n.lastSysClockCycles, bytes n.frameStartTimestamp,
    bytes n.numFrames, bytes n.numLagFrames, bytes n.lagFrameFlag,
    bytes n.keyCnt, bytes n.rCnt,
    bytes n.wramCnt,
    bytes n.runningGame]

/-- The fields of section "NDSG" have the same lengths in all consoles. -/
theorem length_fields (n n' : NDSG) : n.fields.map List.length = n'.fields.map List.length := by
  simp only [fields, List.map_cons, List.map_nil, length_bytes]

/-- The section tells every variable. -/
theorem fields_injective : Function.Injective fields := by
  rintro ⟨⟩ ⟨⟩ h
  simp only [fields, List.cons.injEq, bytes_inj, and_true] at h
  simpa only [NDSG.mk.injEq] using h

end NDSG

/-- "NDSG" -/
def magicNDSG : Magic := #v[0x4E, 0x44, 0x53, 0x47]

/-- "SPTS" -/
def magicSPTS : Magic := #v[0x53, 0x50, 0x54, 0x53]

/-- The section that `TSC::DoSavestate` writes. -/
def TSC.savestateSection (tsc : TSC) : SavestateSection where
  magic := magicSPTS
  fields := [bytes tsc.dataPos, bytes tsc.controlByte, bytes tsc.data, bytes tsc.convResult]

/-- The keys of `KeyInput` that a mask of `SetKeyMask` replaces: the ten of the ARM9's register, and
X and Y, which are the ARM7's. -/
def withKeyMask (mask keyInput : UInt32) : UInt32 :=
  let keyLo := mask &&& 0x3FF
  let keyHi := (mask >>> 10) &&& 0x3
  (keyInput &&& 0xFFFCFC00) ||| (keyLo ||| keyHi <<< (16 : UInt32))

/-- Whether the keys are those that a control register asks for: all of the selected ones pressed,
or one of them. A pressed key is a bit that is clear. -/
def keyMatch (cnt : UInt16) (key : UInt32) : Bool :=
  let mask := cnt.toUInt32 &&& 0x03FF
  if cnt &&& 0x8000 ≠ 0 then
    -- logical AND
    key &&& mask == 0
  else
    -- logical OR
    key &&& mask != mask

namespace NDS

variable {κ : Type} (components : Components κ)

/-- The sections that `DoSavestate` writes, in their order. -/
def sections (n : NDS κ) : List SavestateSection :=
  ⟨magicNDSG, n.fields⟩ :: (components.sectionsBeforeTSC n.components ++
    n.tsc.savestateSection :: components.sectionsAfterTSC n.components)

/-- A saving `DoSavestate`, and the buffer that it leaves. -/
def doSavestate (n : NDS κ) : Option Data :=
  some ((n.sections components).foldl (fun file s => s.write file) Savestate.new).finish.buffer

/-- What the other components and the touch screen controller write. -/
def rest (n : NDS κ) : Data :=
  (components.sectionsBeforeTSC n.components ++
    n.tsc.savestateSection :: components.sectionsAfterTSC n.components).flatMap
      SavestateSection.closed

/-- What is saved is the format of the sections. -/
theorem doSavestate_eq (n : NDS κ) :
    n.doSavestate components = some (Savestate.format (n.sections components)) :=
  congrArg some (Savestate.buffer_sections _)

/-- A savestate tells what section "NDSG" writes, whatever the other components write. -/
theorem doSavestate_eq_iff (n n' : NDS κ) :
    n.doSavestate components = n'.doSavestate components ↔
      n.toNDSG = n'.toNDSG ∧ n.rest components = n'.rest components := by
  rw [doSavestate_eq, doSavestate_eq, Option.some_inj, sections, sections,
    Savestate.format_cons_inj (NDSG.length_fields _ _), NDSG.fields_injective.eq_iff, rest, rest]

/-- A savestate is not empty. -/
theorem doSavestate_ne_nil {n : NDS κ} {buffer : Data}
    (h : n.doSavestate components = some buffer) :
    buffer ≠ [] := by
  rw [doSavestate_eq, Option.some_inj, Savestate.format] at h
  rintro rfl
  have hlen := congrArg List.length h
  rw [List.length_append, Savestate.length_header, List.length_nil] at hlen
  omega

/-- `UpdateIRQ`. -/
def updateIRQ (cpu : Fin 2) (n : NDS κ) : NDS κ :=
  let irq :=
    if n.ime[cpu] &&& 0x1 ≠ 0 then
      n.ie[cpu] &&& n.irf[cpu] ≠ 0 ∨ (n.consoleType = 1 ∧ cpu ≠ 0 ∧ n.ie2 &&& n.irf2 ≠ 0)
    else False
  { n with armIRQ := n.armIRQ.set cpu (decide irq) }

/-- `SetIRQ`. -/
def setIRQ (cpu : Fin 2) (irq : UInt32) (n : NDS κ) : NDS κ :=
  let n := updateIRQ cpu { n with irf := n.irf.set cpu (n.irf[cpu] ||| (1 : UInt32) <<< irq) }
  if cpu = 1 ∧ n.cpuStop &&& cpuStopSleep ≠ 0 then
    if n.ie[(1 : Fin 2)] &&& ((1 : UInt32) <<< irq) ≠ 0 then
      { n with
        cpuStop := (n.cpuStop &&& ~~~cpuStopSleep) ||| cpuStopWakeup
        components := components.restartFrame n.components }
    else n
  else n

/-- `CheckKeyIRQ`. -/
def checkKeyIRQ (cpu : Fin 2) (oldkey newkey : UInt32) (n : NDS κ) : NDS κ :=
  let cnt := n.keyCnt[cpu]
  if cnt &&& 0x4000 = 0 then n -- IRQ disabled
  else if !keyMatch cnt oldkey && keyMatch cnt newkey then setIRQ components cpu irqKeypad n
  else n

/-- `SetKeyMask`. -/
def setKeyMask (mask : UInt32) (n : NDS κ) : NDS κ :=
  let oldkey := n.keyInput
  let n := { n with keyInput := withKeyMask mask n.keyInput }
  let n := checkKeyIRQ components 0 oldkey n.keyInput n
  checkKeyIRQ components 1 oldkey n.keyInput n

/-- `TSC::SetTouchCoords`. Bit 22 of `KeyInput` is clear while the screen is touched. -/
def setTouchCoords (x y : UInt16) (n : NDS κ) : NDS κ :=
  let n := { n with tsc := { n.tsc with touchX := x, touchY := y } }
  if y = 0xFFF then { n with keyInput := n.keyInput ||| 0x400000 } -- released
  else
    { n with
      tsc := { n.tsc with touchX := n.tsc.touchX <<< 4, touchY := n.tsc.touchY <<< 4 }
      keyInput := n.keyInput &&& ~~~0x400000 }

/-- `TouchScreen`. -/
def touchScreen (x y : UInt16) (n : NDS κ) : NDS κ := setTouchCoords x y n

/-- `ReleaseScreen`. -/
def releaseScreen (n : NDS κ) : NDS κ := setTouchCoords 0 0xFFF n

end NDS

/-! ### The keypad's interrupt in section "NDSG" -/

/-- The bit of the keypad in `IE` and `IF`. -/
def keypadBit : UInt32 := 1 <<< irqKeypad

/-- Whether `CheckKeyIRQ` raises the interrupt: it is enabled, and the keys it is for are pressed
now and were not before. -/
def raisesKeyIRQ (cnt : UInt16) (oldkey newkey : UInt32) : Bool :=
  decide (cnt &&& 0x4000 ≠ 0) && (!keyMatch cnt oldkey && keyMatch cnt newkey)

namespace NDSG

/-- The keypad's interrupt wakes the ARM7: the console sleeps and the interrupt is enabled. -/
def Wakes (g : NDSG) : Prop :=
  g.cpuStop &&& cpuStopSleep ≠ 0 ∧ g.ie[(1 : Fin 2)] &&& keypadBit ≠ 0

instance (g : NDSG) : Decidable g.Wakes := inferInstanceAs (Decidable (_ ∧ _))

/-- `CPUStop` once the keypad's interrupt has been raised, for the ARM7 or not. -/
def stopAfter (raised : Bool) (g : NDSG) : UInt32 :=
  if raised ∧ g.Wakes then (g.cpuStop &&& ~~~cpuStopSleep) ||| cpuStopWakeup else g.cpuStop

/-- For a processor, the keypad's interrupt changes nothing: it is pending, and wakes nobody. -/
def Settled (g : NDSG) (cpu : Fin 2) : Prop :=
  g.irf[cpu] &&& keypadBit ≠ 0 ∧ (cpu = 1 → ¬ g.Wakes)

instance (g : NDSG) (cpu : Fin 2) : Decidable (g.Settled cpu) := inferInstanceAs (Decidable (_ ∧ _))

/-- The section once the keypad's interrupt has been raised for a processor, or not. -/
def keypadIRQ (cpu : Fin 2) (raised : Bool) (g : NDSG) : NDSG :=
  if raised then
    { g with irf := g.irf.set cpu (g.irf[cpu] ||| keypadBit), cpuStop := g.stopAfter (cpu == 1) }
  else g

/-- The section once the keypad's interrupt has been raised for some processors. -/
def withKeypadIRQ (raised : Fin 2 → Bool) (g : NDSG) : NDSG :=
  { g with
    irf := .ofFn fun cpu => if raised cpu then g.irf[cpu] ||| keypadBit else g.irf[cpu]
    cpuStop := g.stopAfter (raised 1) }

end NDSG

/-- A bit that is set already is a bit that is there. -/
theorem or_eq_self_iff {x bit : UInt32} {i : ℕ} (hi : i < 32) (hbit : bit.toBitVec = .twoPow 32 i) :
    x ||| bit = x ↔ x &&& bit ≠ 0 := by
  have hand : x &&& bit = if x.toBitVec.getLsbD i then bit else 0 := by
    rw [← UInt32.toBitVec_inj, UInt32.toBitVec_and, hbit, BitVec.and_twoPow]
    split_ifs
    · exact hbit.symm
    · rfl
  have hbit0 : bit ≠ 0 := by
    rintro rfl
    have := congrArg (·.getLsbD i) hbit
    simp [hi] at this
  constructor
  · intro h
    -- the bit is set in a word that it was or-ed into
    have habsorb : (x ||| bit) &&& bit = bit := by
      rw [← UInt32.toBitVec_inj]
      ext j hj
      simp only [UInt32.toBitVec_and, UInt32.toBitVec_or, BitVec.getElem_and, BitVec.getElem_or]
      cases bit.toBitVec[j] <;> simp
    rw [← h, habsorb]
    exact hbit0
  · intro h
    rw [hand] at h
    have hset : x &&& bit = bit := by
      rw [hand]
      exact if_pos (by_contra fun hclear => h (if_neg hclear))
    calc x ||| bit = x ||| (x &&& bit) := by rw [hset]
      _ = x := by
        rw [← UInt32.toBitVec_inj]
        ext j hj
        simp only [UInt32.toBitVec_and, UInt32.toBitVec_or, BitVec.getElem_and, BitVec.getElem_or]
        cases x.toBitVec[j] <;> simp

/-- The bit of the keypad's interrupt is there already. -/
theorem or_keypadBit (x : UInt32) : x ||| keypadBit = x ↔ x &&& keypadBit ≠ 0 :=
  or_eq_self_iff (i := 12) (by decide) (by decide)

/-- Waking up changes what is asleep. -/
theorem wakeup_ne {stop : UInt32} (h : stop &&& cpuStopSleep ≠ 0) :
    (stop &&& ~~~cpuStopSleep) ||| cpuStopWakeup ≠ stop := by
  have hclear : ((stop &&& ~~~cpuStopSleep) ||| cpuStopWakeup) &&& cpuStopSleep =
      cpuStopWakeup &&& cpuStopSleep := by
    rw [← UInt32.toBitVec_inj]
    ext j hj
    simp only [UInt32.toBitVec_and, UInt32.toBitVec_or, UInt32.toBitVec_not, BitVec.getElem_and,
      BitVec.getElem_or, BitVec.getElem_not]
    cases cpuStopSleep.toBitVec[j] <;> simp
  intro heq
  rw [heq] at hclear
  exact h (hclear.trans (by decide))

namespace NDSG

/-- The interrupt does not change `KEYCNT`. -/
theorem keyCnt_keypadIRQ (g : NDSG) (cpu : Fin 2) (raised : Bool) :
    (g.keypadIRQ cpu raised).keyCnt = g.keyCnt := by
  cases raised <;> rfl

/-- Without an interrupt the processor stays stopped or not. -/
theorem stopAfter_false (g : NDSG) : g.stopAfter false = g.cpuStop := by
  rw [stopAfter, if_neg (by simp)]

/-- The interrupt is a bit of one processor's `IF`. -/
theorem irf_keypadIRQ (g : NDSG) (cpu i : Fin 2) (raised : Bool) :
    (g.keypadIRQ cpu raised).irf[i] =
      if raised ∧ cpu = i then g.irf[i] ||| keypadBit else g.irf[i] := by
  cases raised with
  | false => rw [if_neg (by simp)]; rfl
  | true =>
    show (g.irf.set cpu (g.irf[cpu] ||| keypadBit))[(i : ℕ)] = _
    rw [Vector.getElem_set]
    by_cases h : cpu = i
    · subst h
      rw [if_pos rfl, if_pos ⟨rfl, rfl⟩]
    · rw [if_neg (fun hval => h (Fin.ext hval)), if_neg (fun hc => h hc.2)]
      rfl

/-- The interrupt of the ARM9 does not matter to the ARM7's stop. -/
theorem stopAfter_keypadIRQ_zero (g : NDSG) (raised raised' : Bool) :
    (g.keypadIRQ 0 raised).stopAfter raised' = g.stopAfter raised' := by
  cases raised with
  | false => rfl
  | true =>
    have hstop : (g.keypadIRQ 0 true).cpuStop = g.cpuStop := g.stopAfter_false
    have hwakes : (g.keypadIRQ 0 true).Wakes ↔ g.Wakes := by
      rw [Wakes, Wakes, hstop]
      rfl
    rw [stopAfter, stopAfter, hstop]
    exact if_congr (and_congr_right fun _ => hwakes) rfl rfl

/-- Raising the keypad's interrupt changes `IF` and `CPUStop` only. -/
theorem eta_keypadIRQ (g : NDSG) (cpu : Fin 2) (raised : Bool) :
    g.keypadIRQ cpu raised =
      { g with
        irf := (g.keypadIRQ cpu raised).irf
        cpuStop := (g.keypadIRQ cpu raised).cpuStop } := by
  cases raised <;> rfl

/-- One processor after the other is both at once. -/
theorem keypadIRQ_keypadIRQ (g : NDSG) (raised : Fin 2 → Bool) :
    (g.keypadIRQ 0 (raised 0)).keypadIRQ 1 (raised 1) = g.withKeypadIRQ raised := by
  have hirf : ((g.keypadIRQ 0 (raised 0)).keypadIRQ 1 (raised 1)).irf =
      (g.withKeypadIRQ raised).irf := by
    refine Vector.ext fun i hi => ?_
    have hof : (g.withKeypadIRQ raised).irf[i] =
        if raised ⟨i, hi⟩ then g.irf[i] ||| keypadBit else g.irf[i] := Vector.getElem_ofFn hi
    rw [hof]
    have h := irf_keypadIRQ (g.keypadIRQ 0 (raised 0)) 1 ⟨i, hi⟩ (raised 1)
    refine h.trans ?_
    rw [irf_keypadIRQ]
    obtain rfl | rfl : i = 0 ∨ i = 1 := by omega
    · simp
    · simp
  have hstop : ((g.keypadIRQ 0 (raised 0)).keypadIRQ 1 (raised 1)).cpuStop =
      g.stopAfter (raised 1) := by
    cases h1 : raised 1 with
    | false => exact (g.stopAfter_keypadIRQ_zero (raised 0) false)
    | true => exact g.stopAfter_keypadIRQ_zero (raised 0) true
  rw [eta_keypadIRQ, hirf, hstop, eta_keypadIRQ]
  rfl

/-- Raising the interrupt for a processor changes `IF` unless it is pending. -/
theorem irf_eq_iff (irf : UInt32) (raised raised' : Bool) :
    ((if raised then irf ||| keypadBit else irf) = if raised' then irf ||| keypadBit else irf) ↔
      raised = raised' ∨ irf &&& keypadBit ≠ 0 := by
  have hpending := or_keypadBit irf
  cases raised <;> cases raised'
  · simp
  · simpa [eq_comm] using hpending
  · simpa using hpending
  · simp

/-- Raising the interrupt for the ARM7 changes `CPUStop` where it wakes up. -/
theorem stopAfter_eq_iff (g : NDSG) (raised raised' : Bool) :
    g.stopAfter raised = g.stopAfter raised' ↔ raised = raised' ∨ ¬ g.Wakes := by
  by_cases hwakes : g.Wakes
  · have hne := wakeup_ne hwakes.1
    cases raised <;> cases raised'
    · simp
    · simpa [stopAfter, hwakes] using hne.symm
    · simpa [stopAfter, hwakes] using hne
    · simp
  · simp [stopAfter, hwakes]

/-- Two choices of processors make the same section exactly if they differ only where it is
settled. -/
theorem withKeypadIRQ_eq_iff (g : NDSG) (raised raised' : Fin 2 → Bool) :
    g.withKeypadIRQ raised = g.withKeypadIRQ raised' ↔
      ∀ cpu, raised cpu = raised' cpu ∨ g.Settled cpu := by
  have hword {raised : Fin 2 → Bool} (cpu : Fin 2) : (g.withKeypadIRQ raised).irf[cpu] =
      if raised cpu then g.irf[cpu] ||| keypadBit else g.irf[cpu] := Vector.getElem_ofFn cpu.isLt
  constructor
  · intro h cpu
    have hirf : raised cpu = raised' cpu ∨ g.irf[cpu] &&& keypadBit ≠ 0 := by
      rw [← irf_eq_iff, ← hword, ← hword, h]
    have hstop : raised 1 = raised' 1 ∨ ¬ g.Wakes := by
      rw [← stopAfter_eq_iff]
      exact congrArg NDSG.cpuStop h
    obtain hsame | hpending := hirf
    · exact Or.inl hsame
    · by_cases hcpu : cpu = 1
      · subst hcpu
        exact hstop.imp_right fun hwakes => ⟨hpending, fun _ => hwakes⟩
      · exact Or.inr ⟨hpending, fun h1 => absurd h1 hcpu⟩
  · intro h
    have hirf (cpu : Fin 2) : (if raised cpu then g.irf[cpu] ||| keypadBit else g.irf[cpu]) =
        if raised' cpu then g.irf[cpu] ||| keypadBit else g.irf[cpu] :=
      (irf_eq_iff _ _ _).mpr ((h cpu).imp_right And.left)
    have hstop : g.stopAfter (raised 1) = g.stopAfter (raised' 1) :=
      (stopAfter_eq_iff _ _ _).mpr ((h 1).imp_right fun hsettled => hsettled.2 rfl)
    rw [withKeypadIRQ, withKeypadIRQ, hstop, funext hirf]

end NDSG

namespace NDS

variable {κ : Type} (components : Components κ)

/-- Whether a key mask raises the keypad's interrupt on a console, for each processor. -/
def raises (keyMask : UInt16) (n : NDS κ) (cpu : Fin 2) : Bool :=
  raisesKeyIRQ n.keyCnt[cpu] n.keyInput (withKeyMask keyMask.toUInt32 n.keyInput)

/-- `SetIRQ` changes section "NDSG" only. -/
theorem rest_setIRQ (cpu : Fin 2) (irq : UInt32) (n : NDS κ) :
    (setIRQ components cpu irq n).rest components = n.rest components := by
  dsimp only [setIRQ]
  split_ifs
  · simp only [rest, components.before_restartFrame, components.after_restartFrame, updateIRQ]
  · rfl
  · rfl

/-- `CheckKeyIRQ` changes section "NDSG" only. -/
theorem rest_checkKeyIRQ (cpu : Fin 2) (oldkey newkey : UInt32) (n : NDS κ) :
    (checkKeyIRQ components cpu oldkey newkey n).rest components = n.rest components := by
  dsimp only [checkKeyIRQ]
  split_ifs
  · rfl
  · exact rest_setIRQ components cpu irqKeypad n
  · rfl

/-- What raising the keypad's interrupt for one processor does to the section. -/
theorem toNDSG_setIRQ (cpu : Fin 2) (n : NDS κ) :
    (setIRQ components cpu irqKeypad n).toNDSG =
      { n.toNDSG with
        irf := n.irf.set cpu (n.irf[cpu] ||| keypadBit)
        cpuStop := n.stopAfter (cpu == 1) } := by
  have hwakes : n.Wakes ↔
      n.cpuStop &&& cpuStopSleep ≠ 0 ∧ n.ie[(1 : Fin 2)] &&& (1 : UInt32) <<< irqKeypad ≠ 0 :=
    Iff.rfl
  dsimp only [setIRQ]
  split_ifs with hsleep hie
  · rw [NDSG.stopAfter, if_pos ⟨beq_iff_eq.mpr hsleep.1, hwakes.mpr ⟨hsleep.2, hie⟩⟩]
    rfl
  · rw [NDSG.stopAfter, if_neg fun h => hie (hwakes.mp h.2).2]
    rfl
  · rw [NDSG.stopAfter, if_neg fun h => hsleep ⟨beq_iff_eq.mp h.1, (hwakes.mp h.2).1⟩]
    rfl

/-- `SetIRQ` leaves the keys alone. -/
theorem keyInput_setIRQ (cpu : Fin 2) (irq : UInt32) (n : NDS κ) :
    (setIRQ components cpu irq n).keyInput = n.keyInput := by
  dsimp only [setIRQ]
  split_ifs <;> rfl

/-- `CheckKeyIRQ` raises the interrupt or does nothing. -/
theorem checkKeyIRQ_eq (cpu : Fin 2) (oldkey newkey : UInt32) (n : NDS κ) :
    checkKeyIRQ components cpu oldkey newkey n =
      if raisesKeyIRQ n.keyCnt[cpu] oldkey newkey then setIRQ components cpu irqKeypad n
        else n := by
  dsimp only [checkKeyIRQ, raisesKeyIRQ]
  by_cases hoff : n.keyCnt[cpu] &&& 0x4000 = 0
  · simp only [hoff, if_true, ne_eq, not_true_eq_false, decide_false, Bool.false_and,
      Bool.false_eq_true, if_false]
  · simp only [hoff, if_false, ne_eq, not_false_eq_true, decide_true, Bool.true_and]

/-- `CheckKeyIRQ` leaves the keys alone. -/
theorem keyInput_checkKeyIRQ (cpu : Fin 2) (oldkey newkey : UInt32) (n : NDS κ) :
    (checkKeyIRQ components cpu oldkey newkey n).keyInput = n.keyInput := by
  rw [checkKeyIRQ_eq]
  split_ifs
  · exact keyInput_setIRQ components cpu irqKeypad n
  · rfl

/-- `CheckKeyIRQ`, in section "NDSG". -/
theorem toNDSG_checkKeyIRQ (cpu : Fin 2) (oldkey newkey : UInt32) (n : NDS κ) :
    (checkKeyIRQ components cpu oldkey newkey n).toNDSG =
      n.toNDSG.keypadIRQ cpu (raisesKeyIRQ n.keyCnt[cpu] oldkey newkey) := by
  rw [checkKeyIRQ_eq]
  cases raisesKeyIRQ n.keyCnt[cpu] oldkey newkey with
  | true => exact toNDSG_setIRQ components cpu n
  | false => rfl

/-- What a key mask does to the section. -/
theorem toNDSG_setKeyMask (keyMask : UInt16) (n : NDS κ) :
    (setKeyMask components keyMask.toUInt32 n).toNDSG =
      n.toNDSG.withKeypadIRQ (n.raises keyMask) := by
  dsimp only [setKeyMask]
  rw [toNDSG_checkKeyIRQ, toNDSG_checkKeyIRQ, keyInput_checkKeyIRQ, NDSG.keyCnt_keypadIRQ]
  exact n.toNDSG.keypadIRQ_keypadIRQ (n.raises keyMask)

end NDS

end DSEmu

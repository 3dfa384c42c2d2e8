import DSEmu.Library.Indexed
import DSEmu.MelonDS.NDS

/-!
# Timers

The eight timers of the console, four of each processor, as `src/NDS.cpp` of melonDS runs them. A
timer counts in its `counter`, whose upper 16 bits of 26 are what a program reads: cycles, shifted
by its prescaler, or the overflows of the timer before it. The code runs the timers of a processor
when it comes to them: after each piece of the program, and whenever the program reads or starts
one.

The `while` loop of `RunTimer` has fuel here, as much as the counter itself: every round takes at
least 2^10 off the counter.
-/

namespace DSEmu

open scoped Indexed

/-- `IRQ_Timer0` -/
def irqTimer0 : UInt32 := 3

/-- `TimerPrescaler`, at the two lowest bits of a control register -/
def timerPrescaler (cnt : UInt16) : UInt32 :=
  if cnt &&& 0x03 = 0 then 0 else if cnt &&& 0x03 = 1 then 6 else if cnt &&& 0x03 = 2 then 8 else 10

/-- `tid >> 2` -/
def timerCPU (tid : Fin 8) : Fin 2 := ⟨tid / 4, by omega⟩

/-- The interrupt of a timer, `IRQ_Timer0 + (tid & 0x3)`. -/
def timerIRQ (tid : Fin 8) : UInt32 := irqTimer0 + UInt32.ofNat (tid % 4)

/-- The timers of a processor. -/
def timersOf (cpu : Fin 2) : List (Fin 8) := (List.finRange 8).filter fun tid => timerCPU tid = cpu

/-- The timers behind a timer that are of the same processor. -/
def timersAfter (tid : Fin 8) : List (Fin 8) :=
  (List.finRange 8).filter fun t => tid < t ∧ timerCPU t = timerCPU tid

/-- The bit of a timer in `TimerCheckMask`. -/
def timerBit (tid : Fin 8) : UInt8 := (1 : UInt8) <<< UInt8.ofNat (tid % 4)

/-- Clock ticks of a timer that counts overflows are 2^10 each. -/
def Timer.countsUp (t : Timer) : Prop := t.cnt &&& 0x84 = 0x84

instance (t : Timer) : Decidable t.countsUp := inferInstanceAs (Decidable (_ = _))

/-- The timer interrupts when it overflows. -/
def Timer.interrupts (t : Timer) : Prop := t.cnt &&& 0x40 ≠ 0

instance (t : Timer) : Decidable t.interrupts := inferInstanceAs (Decidable (_ ≠ _))

namespace NDS

variable {κ : Type} (components : Components κ)

def setTimer (tid : Fin 8) (t : Timer) (n : NDS κ) : NDS κ :=
  { n with timers := n.timers.put tid t }

/-- The loop of `HandleTimerOverflow` over the timers behind the one that has overflowed. -/
def countUp : List (Fin 8) → NDS κ → NDS κ
  | [], n => n
  | tid :: tids, n =>
    let timer := n.timers.get tid
    if ¬ timer.countsUp then n
    else
      let timer := { timer with counter := timer.counter + ((1 : UInt32) <<< 10) }
      if timer.counter >>> (26 : UInt32) = 0 then n.setTimer tid timer
      else
        let timer := { timer with counter := timer.reload.toUInt32 <<< 10 }
        let n := n.setTimer tid timer
        let n := if timer.interrupts then setIRQ components (timerCPU tid) (timerIRQ tid) n else n
        countUp tids n

/-- `HandleTimerOverflow`. -/
def handleTimerOverflow (tid : Fin 8) (n : NDS κ) : NDS κ :=
  let timer := n.timers.get tid
  let timer := { timer with counter := timer.counter + (timer.reload.toUInt32 <<< 10) }
  let n := n.setTimer tid timer
  let n := if timer.interrupts then setIRQ components (timerCPU tid) (timerIRQ tid) n else n
  countUp components (timersAfter tid) n

/-- The loop of `RunTimer`. -/
def overflowLoop (tid : Fin 8) : ℕ → NDS κ → NDS κ
  | 0, n => n
  | fuel + 1, n =>
    let timer := n.timers.get tid
    if timer.counter >>> (26 : UInt32) = 0 then n
    else
      let timer := { timer with counter := timer.counter - ((1 : UInt32) <<< 26) }
      overflowLoop tid fuel (handleTimerOverflow components tid (n.setTimer tid timer))

/-- `RunTimer`. -/
def runTimer (tid : Fin 8) (cycles : Int32) (n : NDS κ) : NDS κ :=
  let timer := n.timers.get tid
  let timer := { timer with counter := timer.counter + (cycles.toUInt32 <<< timer.cycleShift) }
  overflowLoop components tid timer.counter.toNat (n.setTimer tid timer)

variable (arm9ClockShift : UInt64)

/-- The time of a processor in cycles of the system. -/
def cpuTimestamp (cpu : Fin 2) (n : NDS κ) : UInt64 :=
  if cpu = 0 then n.arm9Timestamp >>> arm9ClockShift else n.arm7Timestamp

/-- `TimerTimestamp[cpu] += cycles` -/
def advanceTimers (cpu : Fin 2) (cycles : Int32) (n : NDS κ) : NDS κ :=
  let timestamp := n.timerTimestamp.get cpu + cycles.toInt64.toUInt64
  { n with timerTimestamp := n.timerTimestamp.put cpu timestamp }

/-- `RunTimers`. -/
def runTimers (cpu : Fin 2) (n : NDS κ) : NDS κ :=
  let timermask := n.timerCheckMask.get cpu
  let cycles := (cpuTimestamp arm9ClockShift cpu n - n.timerTimestamp.get cpu).toUInt32.toInt32
  ((timersOf cpu).foldl
    (fun n tid => if timermask &&& timerBit tid ≠ 0 then runTimer components tid cycles n else n)
    n).advanceTimers cpu cycles

/-- `TimerGetCounter`. -/
def timerGetCounter (tid : Fin 8) (n : NDS κ) : UInt16 × NDS κ :=
  let n := runTimers components arm9ClockShift (timerCPU tid) n
  (((n.timers.get tid).counter >>> 10).toUInt16, n)

/-- `TimerStart`. -/
def timerStart (tid : Fin 8) (cnt : UInt16) (n : NDS κ) : NDS κ :=
  let curstart := (n.timers.get tid).cnt &&& 0x80
  let newstart := cnt &&& 0x80
  let n := runTimers components arm9ClockShift (timerCPU tid) n
  let timer := n.timers.get tid
  let timer := { timer with cnt := cnt, cycleShift := 10 - timerPrescaler cnt }
  let timer :=
    if curstart = 0 ∧ newstart ≠ 0 then { timer with counter := timer.reload.toUInt32 <<< 10 }
    else timer
  let n := n.setTimer tid timer
  let mask := n.timerCheckMask.get (timerCPU tid)
  let mask := if cnt &&& 0x84 = 0x80 then mask ||| timerBit tid else mask &&& ~~~timerBit tid
  { n with timerCheckMask := n.timerCheckMask.put (timerCPU tid) mask }

/-- A write to the reload register. -/
def timerReload (tid : Fin 8) (val : UInt16) (n : NDS κ) : NDS κ :=
  n.setTimer tid { (n.timers.get tid) with reload := val }

end NDS

end DSEmu

import DSEmu.Library.Words
import DSEmu.MelonDS.Scheduler
import DSEmu.MelonDS.Sqrt

/-!
# The division unit and the square root unit

`DivDone`, `StartDiv` and `StartSqrt` of `src/NDS.cpp` of melonDS, the writes to the registers of
the two units, and the passes of `RunSystem` that finish their work.

A unit is busy while its event waits. From the first write to one of its registers on, whatever
happens, its results are those of its operands whenever it is not busy, and a pass leaves no work
over whose time has come (`mathUnits_spec`): no write changes an operand without starting the work
again. The one exception is the remainder of the division of `-2^31` by `-1` in 32 bits, which is
left as it was, and the quotient of that of `-2^63` does not fit.

The two units differ in their event, their control word and what their results have to be
(`MathUnit`). Apart from `DivDone` and `SqrtDone` themselves everything is shown once, for a unit.
-/

namespace DSEmu

open BitSet (hasBit)

/-! ### Division -/

/-- The registers of the division unit, without `DivCnt`. The two words of a result are one value.
-/
structure DivUnit where
  divNumerator0 : UInt32
  divNumerator1 : UInt32
  divDenominator0 : UInt32
  divDenominator1 : UInt32
  divQuotient : UInt64
  divRemainder : UInt64

/-- Two words as one value, the lower one first. -/
def twoWords (low high : UInt32) : UInt64 := low.toUInt64 + high.toUInt64 <<< (32 : UInt64)

namespace DivUnit

/-- The case of `DivDone` with operands of 32 bits. -/
def div32 (num den : Int32) (u : DivUnit) : DivUnit :=
  if den = 0 then
    { u with
      divQuotient := if num < 0 then twoWords 1 0xFFFFFFFF else twoWords 0xFFFFFFFF 0
      divRemainder := num.toInt64.toUInt64 }
  else if num = Int32.minValue ∧ den = -1 then { u with divQuotient := 0x80000000 }
  else
    { u with
      divQuotient := (num / den).toInt64.toUInt64
      divRemainder := (num % den).toInt64.toUInt64 }

/-- The cases of `DivDone` with a numerator of 64 bits. -/
def div64 (num den : Int64) (u : DivUnit) : DivUnit :=
  if den = 0 then
    { u with
      divQuotient := if num < 0 then 1 else 0xFFFFFFFFFFFFFFFF
      divRemainder := num.toUInt64 }
  else if num = Int64.minValue ∧ den = -1 then
    { u with
      divQuotient := 0x8000000000000000
      divRemainder := 0 }
  else
    { u with
      divQuotient := (num / den).toUInt64
      divRemainder := (num % den).toUInt64 }

/-- The switch of `DivDone`. -/
def divide (divCnt : UInt16) (u : DivUnit) : DivUnit :=
  if divCnt &&& 3 = 0 then u.div32 u.divNumerator0.toInt32 u.divDenominator0.toInt32
  else
    let num := (twoWords u.divNumerator0 u.divNumerator1).toInt64
    if divCnt &&& 3 = 2 then u.div64 num (twoWords u.divDenominator0 u.divDenominator1).toInt64
    else u.div64 num u.divDenominator0.toInt32.toInt64

/-- `DivDone`, on `DivCnt` and the other registers. -/
def divDone (divCnt : UInt16) (u : DivUnit) : UInt16 × DivUnit :=
  let divCnt := divCnt &&& ~~~0xC000
  (if u.divDenominator0 ||| u.divDenominator1 = 0 then divCnt ||| 0x4000 else divCnt,
    u.divide divCnt)

/-- The numerator, as a number. -/
def numerator (divCnt : UInt16) (u : DivUnit) : ℤ :=
  if divCnt &&& 3 = 0 then u.divNumerator0.toInt32.toInt
  else (twoWords u.divNumerator0 u.divNumerator1).toInt64.toInt

/-- The denominator, as a number. -/
def denominator (divCnt : UInt16) (u : DivUnit) : ℤ :=
  if divCnt &&& 3 = 2 then (twoWords u.divDenominator0 u.divDenominator1).toInt64.toInt
  else u.divDenominator0.toInt32.toInt

/-- The results are those of the operands. Where the denominator is zero the remainder is the
numerator. -/
structure Divided (divCnt : UInt16) (u : DivUnit) : Prop where
  quotient : u.denominator divCnt ≠ 0 →
    ¬ (u.numerator divCnt = -2 ^ 63 ∧ u.denominator divCnt = -1) →
    u.divQuotient.toInt64.toInt = (u.numerator divCnt).tdiv (u.denominator divCnt)
  remainder :
    ¬ (divCnt &&& 3 = 0 ∧ u.numerator divCnt = -2 ^ 31 ∧ u.denominator divCnt = -1) →
      u.divRemainder.toInt64.toInt = (u.numerator divCnt).tmod (u.denominator divCnt)
  divByZero : divCnt &&& 0x4000 ≠ 0 ↔ u.divDenominator0 = 0 ∧ u.divDenominator1 = 0

/-- The division of `-2^31` by `-1` in 32 bits, whose quotient has more. -/
structure Overflows (divCnt : UInt16) (u : DivUnit) : Prop where
  mode : divCnt &&& 3 = 0
  numerator : u.numerator divCnt = -2 ^ 31
  denominator : u.denominator divCnt = -1

variable {divCnt : UInt16} {u : DivUnit}

/-- The results of `div32` are those of truncated division. -/
theorem div32_spec (num den : Int32) (u : DivUnit) :
    (den.toInt ≠ 0 → (u.div32 num den).divQuotient.toInt64.toInt = num.toInt.tdiv den.toInt) ∧
      (¬ (num.toInt = -2 ^ 31 ∧ den.toInt = -1) →
        (u.div32 num den).divRemainder.toInt64.toInt = num.toInt.tmod den.toInt) := by
  unfold div32
  split
  case isTrue hzero =>
    subst hzero
    refine ⟨fun h => absurd rfl h, fun _ => ?_⟩
    show num.toInt64.toInt = _
    rw [Int32.toInt_toInt64]
    exact (Int.tmod_zero _).symm
  case isFalse =>
    split
    case isTrue hover =>
      obtain ⟨rfl, rfl⟩ := hover
      refine ⟨fun _ => ?_, fun h => absurd ⟨by decide, by decide⟩ h⟩
      show (0x80000000 : UInt64).toInt64.toInt = _
      decide
    case isFalse hover =>
      have hfits : num ≠ Int32.minValue ∨ den ≠ -1 := Decidable.not_and_iff_not_or_not.mp hover
      refine ⟨fun _ => ?_, fun _ => ?_⟩
      · show (num / den).toInt64.toInt = _
        rw [Int32.toInt_toInt64]
        obtain hnum | hden := hfits
        · exact Int32.toInt_div_of_ne_left num den hnum
        · exact Int32.toInt_div_of_ne_right num den hden
      · show (num % den).toInt64.toInt = _
        rw [Int32.toInt_toInt64, Int32.toInt_mod]

/-- The results of `div64` are those of truncated division. -/
theorem div64_spec (num den : Int64) (u : DivUnit) :
    (den.toInt ≠ 0 → ¬ (num.toInt = -2 ^ 63 ∧ den.toInt = -1) →
        (u.div64 num den).divQuotient.toInt64.toInt = num.toInt.tdiv den.toInt) ∧
      (u.div64 num den).divRemainder.toInt64.toInt = num.toInt.tmod den.toInt := by
  unfold div64
  split
  case isTrue hzero =>
    subst hzero
    exact ⟨fun h => absurd rfl h, (Int.tmod_zero _).symm⟩
  case isFalse =>
    split
    case isTrue hover =>
      obtain ⟨rfl, rfl⟩ := hover
      refine ⟨fun _ h => absurd ⟨by decide, by decide⟩ h, ?_⟩
      show (0 : UInt64).toInt64.toInt = _
      decide
    case isFalse hover =>
      refine ⟨fun _ _ => ?_, Int64.toInt_mod num den⟩
      obtain hnum | hden := Decidable.not_and_iff_not_or_not.mp hover
      · exact Int64.toInt_div_of_ne_left num den hnum
      · exact Int64.toInt_div_of_ne_right num den hden

/-- Two states of the unit with the same operands. -/
structure SameOperands (u u' : DivUnit) : Prop where
  numerator0 : u'.divNumerator0 = u.divNumerator0
  numerator1 : u'.divNumerator1 = u.divNumerator1
  denominator0 : u'.divDenominator0 = u.divDenominator0
  denominator1 : u'.divDenominator1 = u.divDenominator1

/-- `div32` writes to the results only. -/
theorem sameOperands_div32 (num den : Int32) (u : DivUnit) : u.SameOperands (u.div32 num den) := by
  unfold div32
  split
  · exact ⟨rfl, rfl, rfl, rfl⟩
  · split <;> exact ⟨rfl, rfl, rfl, rfl⟩

/-- `div64` writes to the results only. -/
theorem sameOperands_div64 (num den : Int64) (u : DivUnit) : u.SameOperands (u.div64 num den) := by
  unfold div64
  split
  · exact ⟨rfl, rfl, rfl, rfl⟩
  · split <;> exact ⟨rfl, rfl, rfl, rfl⟩

/-- `DivDone` leaves the operands alone. -/
theorem sameOperands_divide (divCnt : UInt16) (u : DivUnit) : u.SameOperands (u.divide divCnt) := by
  unfold divide
  split
  · exact sameOperands_div32 _ _ u
  · dsimp only
    split <;> exact sameOperands_div64 _ _ u

/-- The bits of `DivCnt` once the work is done. -/
theorem and_divDone (divCnt : UInt16) (u : DivUnit) (z : UInt16) :
    (u.divDone divCnt).1 &&& z = divCnt &&& (~~~0xC000 &&& z) |||
      (if u.divDenominator0 ||| u.divDenominator1 = 0 then 0x4000 else 0) &&& z := by
  rw [divDone, ← UInt16.and_assoc]
  dsimp only
  split
  · exact UInt16.and_or_distrib_right _ _ _
  · rw [UInt16.zero_and, UInt16.or_zero]

/-- `DivDone` keeps the mode of the division. -/
theorem and_three_divDone (divCnt : UInt16) (u : DivUnit) :
    (u.divDone divCnt).1 &&& 3 = divCnt &&& 3 := by
  rw [and_divDone]
  split
  · exact UInt16.or_zero
  · exact UInt16.or_zero

/-- `DivDone` clears the busy bit. -/
theorem and_busy_divDone (divCnt : UInt16) (u : DivUnit) : (u.divDone divCnt).1 &&& 0x8000 = 0 := by
  have hbusy : divCnt &&& (~~~0xC000 &&& 0x8000) = 0 := UInt16.and_zero
  rw [and_divDone, hbusy]
  split <;> rfl

/-- `DivDone` sets the flag of a division by zero for both words of the denominator. -/
theorem and_flag_divDone (divCnt : UInt16) (u : DivUnit) :
    (u.divDone divCnt).1 &&& 0x4000 ≠ 0 ↔ u.divDenominator0 = 0 ∧ u.divDenominator1 = 0 := by
  have hflag : divCnt &&& (~~~0xC000 &&& 0x4000) = 0 := UInt16.and_zero
  have hzero : u.divDenominator0 ||| u.divDenominator1 = 0 ↔
      u.divDenominator0 = 0 ∧ u.divDenominator1 = 0 := UInt32.or_eq_zero_iff
  rw [and_divDone, hflag, ← hzero]
  split
  case isTrue h => exact iff_of_true (by decide) h
  case isFalse h => exact iff_of_false (by decide) h

/-- The mode does not change on the way. -/
theorem and_three_and_not (divCnt : UInt16) : divCnt &&& ~~~0xC000 &&& 3 = divCnt &&& 3 := by
  rw [UInt16.and_assoc]
  rfl

/-- The operands are what they were, as numbers too. -/
theorem operands_divDone (divCnt : UInt16) (u : DivUnit) :
    (u.divDone divCnt).2.numerator (u.divDone divCnt).1 = u.numerator divCnt ∧
      (u.divDone divCnt).2.denominator (u.divDone divCnt).1 = u.denominator divCnt := by
  obtain ⟨hnum0, hnum1, hden0, hden1⟩ := u.sameOperands_divide (divCnt &&& ~~~0xC000)
  have hmode : (u.divDone divCnt).1 &&& 3 = divCnt &&& 3 := and_three_divDone divCnt u
  constructor
  · rw [numerator, hmode, divDone, hnum0, hnum1, numerator]
  · rw [denominator, hmode, divDone, hden0, hden1, denominator]

/-- Behind `DivDone` the results are those of the operands. -/
theorem divided_divDone (divCnt : UInt16) (u : DivUnit) :
    (u.divDone divCnt).2.Divided (u.divDone divCnt).1 := by
  obtain ⟨-, -, hden0, hden1⟩ := u.sameOperands_divide (divCnt &&& ~~~0xC000)
  have hmode : (u.divDone divCnt).1 &&& 3 = divCnt &&& 3 := and_three_divDone divCnt u
  obtain ⟨hnumerator, hdenominator⟩ := operands_divDone divCnt u
  have hresult : (u.denominator divCnt ≠ 0 →
        ¬ (u.numerator divCnt = -2 ^ 63 ∧ u.denominator divCnt = -1) →
          (u.divDone divCnt).2.divQuotient.toInt64.toInt =
            (u.numerator divCnt).tdiv (u.denominator divCnt)) ∧
      (¬ (divCnt &&& 3 = 0 ∧ u.numerator divCnt = -2 ^ 31 ∧ u.denominator divCnt = -1) →
        (u.divDone divCnt).2.divRemainder.toInt64.toInt =
          (u.numerator divCnt).tmod (u.denominator divCnt)) := by
    rw [divDone, divide, and_three_and_not, numerator, denominator]
    by_cases h0 : divCnt &&& 3 = 0
    · have h2 : ¬ divCnt &&& 3 = 2 := by
        rw [h0]
        decide
      rw [if_pos h0, if_pos h0, if_neg h2]
      obtain ⟨hquotient, hremainder⟩ :=
        div32_spec u.divNumerator0.toInt32 u.divDenominator0.toInt32 u
      exact ⟨fun h _ => hquotient h, fun h => hremainder fun hover => h ⟨h0, hover⟩⟩
    · rw [if_neg h0, if_neg h0]
      by_cases h2 : divCnt &&& 3 = 2
      · rw [if_pos h2, if_pos h2]
        obtain ⟨hquotient, hremainder⟩ :=
          div64_spec (twoWords u.divNumerator0 u.divNumerator1).toInt64
          (twoWords u.divDenominator0 u.divDenominator1).toInt64 u
        exact ⟨hquotient, fun _ => hremainder⟩
      · rw [if_neg h2, if_neg h2, ← Int32.toInt_toInt64]
        obtain ⟨hquotient, hremainder⟩ :=
          div64_spec (twoWords u.divNumerator0 u.divNumerator1).toInt64
          u.divDenominator0.toInt32.toInt64 u
        exact ⟨hquotient, fun _ => hremainder⟩
  constructor
  case quotient =>
    rw [hnumerator, hdenominator]
    exact hresult.1
  case remainder =>
    rw [hnumerator, hdenominator, hmode]
    exact hresult.2
  case divByZero =>
    rw [and_flag_divDone, divDone, hden0, hden1]

/-- `DivDone` leaves the operands of that division what they are. -/
theorem Overflows.divDone (h : u.Overflows divCnt) :
    (u.divDone divCnt).2.Overflows (u.divDone divCnt).1 := by
  obtain ⟨hnumerator, hdenominator⟩ := operands_divDone divCnt u
  constructor
  case mode => rw [and_three_divDone, h.mode]
  case numerator => rw [hnumerator, h.numerator]
  case denominator => rw [hdenominator, h.denominator]

/-- The one case in which `DivDone` does not write to the remainder. -/
theorem Overflows.divRemainder_divDone (h : u.Overflows divCnt) :
    (u.divDone divCnt).2.divRemainder = u.divRemainder := by
  obtain ⟨hmode, hnumerator, hdenominator⟩ := h
  rw [DivUnit.numerator, if_pos hmode] at hnumerator
  have hnot : ¬ divCnt &&& 3 = 2 := by
    rw [hmode]
    decide
  rw [DivUnit.denominator, if_neg hnot] at hdenominator
  have hnum : u.divNumerator0.toInt32 = Int32.minValue := Int32.toInt_inj.mp hnumerator
  have hden : u.divDenominator0.toInt32 = -1 := Int32.toInt_inj.mp hdenominator
  have hzero : ¬ (-1 : Int32) = 0 := by decide
  show (u.divide (divCnt &&& ~~~0xC000)).divRemainder = u.divRemainder
  rw [divide, and_three_and_not, if_pos hmode, hnum, hden, div32, if_neg hzero, if_pos ⟨rfl, rfl⟩]

end DivUnit

/-! ### The units in the machine -/

/-- A call from anywhere but `StartDiv` and `StartSqrt`, which make the only ones for the events of
the units. -/
structure OtherCall where
  call : SchedCall
  ne_div : call.id ≠ eventDiv
  ne_sqrt : call.id ≠ eventSqrt

namespace NDSG

/-- `StartDiv`. -/
def startDiv (curCPU : Fin 2) (arm9ClockShift : UInt64) (n : NDSG) : NDSG :=
  let n := n.cancelEvent eventDiv
  let n := { n with divCnt := n.divCnt ||| 0x8000 }
  n.scheduleEvent curCPU arm9ClockShift eventDiv false (if n.divCnt &&& 3 = 0 then 18 else 34) 0 0

/-- `StartSqrt`. -/
def startSqrt (curCPU : Fin 2) (arm9ClockShift : UInt64) (n : NDSG) : NDSG :=
  let n := n.cancelEvent eventSqrt
  let n := { n with sqrtCnt := n.sqrtCnt ||| 0x8000 }
  n.scheduleEvent curCPU arm9ClockShift eventSqrt false 13 0 0

end NDSG

/-- The two units. -/
inductive MathUnit where
  | div
  | sqrt
  deriving DecidableEq

namespace MathUnit

/-- The event that ends a unit's work. -/
def event : MathUnit → Fin 16
  | div => eventDiv
  | sqrt => eventSqrt

/-- A unit's control word. -/
def cnt (n : NDSG) : MathUnit → UInt16
  | div => n.divCnt
  | sqrt => n.sqrtCnt

/-- `StartDiv` and `StartSqrt`. -/
def start (curCPU : Fin 2) (arm9ClockShift : UInt64) (n : NDSG) : MathUnit → NDSG
  | div => n.startDiv curCPU arm9ClockShift
  | sqrt => n.startSqrt curCPU arm9ClockShift

/-- The units have an event each. -/
theorem event_inj {unit other : MathUnit} : unit.event = other.event ↔ unit = other := by
  cases unit <;> cases other <;> decide

end MathUnit

open MathUnit (cnt)

/-- The calls from elsewhere are not for the event of a unit. -/
theorem OtherCall.ne (c : OtherCall) (unit : MathUnit) : c.call.id ≠ unit.event := by
  cases unit with
  | div => exact c.ne_div
  | sqrt => exact c.ne_sqrt

namespace NDSG

/-- `Reschedule` leaves the control words alone. -/
theorem cnt_reschedule (curCPU : Fin 2) (arm9ClockShift target : UInt64) (n : NDSG) :
    cnt (n.reschedule curCPU arm9ClockShift target) = cnt n := by
  unfold reschedule
  split <;> split <;> rfl

/-- `ScheduleEvent` leaves the control words alone. -/
theorem cnt_scheduleEvent (curCPU : Fin 2) (arm9ClockShift : UInt64) (i : Fin 16) (periodic : Bool)
    (delay : Int32) (funcID param : UInt32) (n : NDSG) :
    cnt (n.scheduleEvent curCPU arm9ClockShift i periodic delay funcID param) = cnt n := by
  rw [scheduleEvent]
  split
  · rfl
  · exact cnt_reschedule _ _ _ _

/-- The console as the scheduler sees it, without the control words. -/
def schedulerPart (n : NDSG) : NDSG := { n with divCnt := 0, sqrtCnt := 0 }

/-- `Reschedule` does not look at the control words. -/
theorem schedulerPart_reschedule (curCPU : Fin 2) (arm9ClockShift target : UInt64) (n : NDSG) :
    n.schedulerPart.reschedule curCPU arm9ClockShift target =
      (n.reschedule curCPU arm9ClockShift target).schedulerPart := by
  unfold reschedule
  rw [apply_ite schedulerPart, apply_ite schedulerPart, apply_ite schedulerPart]
  rfl

/-- The scheduler does not look at the control words. -/
theorem schedulerPart_call (n : NDSG) (c : SchedCall) :
    (n.call c).schedulerPart = n.schedulerPart.call c := by
  cases c with
  | schedule curCPU arm9ClockShift id periodic delay funcID param =>
    rw [call, call, scheduleEvent, apply_ite schedulerPart, ← schedulerPart_reschedule]
    rfl
  | cancel id => rfl

variable {n n' : NDSG} {j : Fin 16} {unit : MathUnit}

/-- The scheduler leaves the control words alone. -/
theorem cnt_call (n : NDSG) (c : SchedCall) : cnt (n.call c) = cnt n := by
  cases c with
  | schedule => exact cnt_scheduleEvent _ _ _ _ _ _ _ n
  | cancel => rfl

/-- A unit is left alone. -/
structure Keeps (unit : MathUnit) (n n' : NDSG) : Prop where
  hasBit_eq : hasBit n'.schedListMask unit.event.val = hasBit n.schedListMask unit.event.val
  cnt_eq : cnt n' unit = cnt n unit

/-- Leaving a unit alone, one thing after another. -/
theorem Keeps.trans {n'' : NDSG} (h : Keeps unit n n') (h' : Keeps unit n' n'') :
    Keeps unit n n'' :=
  ⟨h'.hasBit_eq.trans h.hasBit_eq, h'.cnt_eq.trans h.cnt_eq⟩

/-- An event that is cancelled is of no concern to a unit with another one. -/
theorem keeps_cancelEvent (hj : j ≠ unit.event) : Keeps unit n (n.cancelEvent j) where
  hasBit_eq := by rw [hasBit_cancelEvent, decide_eq_false hj.symm, Bool.not_false, Bool.and_true]
  cnt_eq := rfl

/-- A call of the scheduler for another event. -/
theorem keeps_call {c : SchedCall} (hc : c.id ≠ unit.event) : Keeps unit n (n.call c) := by
  refine ⟨?_, congrFun (n.cnt_call c) unit⟩
  cases c with
  | schedule curCPU arm9ClockShift id periodic delay funcID param =>
    have hne : decide (unit.event = id) = false := decide_eq_false (Ne.symm hc)
    rw [call, hasBit_scheduleEvent, hne, Bool.or_false]
  | cancel id => exact (keeps_cancelEvent hc).hasBit_eq

/-- The calls of a function of an event other than the units'. -/
theorem keeps_foldl_call (n : NDSG) (cs : List OtherCall) (unit : MathUnit) :
    Keeps unit n (cs.foldl (fun n c => n.call c.call) n) :=
  List.foldlRecOn (motive := Keeps unit n) cs _ ⟨rfl, rfl⟩ fun _ h c _ =>
    h.trans (keeps_call (c.ne unit))

/-- The control word of the unit that is started gets the busy bit, and the other one's stays. -/
theorem cnt_start (curCPU : Fin 2) (arm9ClockShift : UInt64) (n : NDSG) (unit other : MathUnit) :
    cnt (unit.start curCPU arm9ClockShift n) other =
      if other = unit then cnt n unit ||| 0x8000 else cnt n other := by
  cases unit with
  | div =>
    show cnt (n.startDiv curCPU arm9ClockShift) other = _
    rw [startDiv, cnt_scheduleEvent]
    cases other <;> rfl
  | sqrt =>
    show cnt (n.startSqrt curCPU arm9ClockShift) other = _
    rw [startSqrt, cnt_scheduleEvent]
    cases other <;> rfl

/-- The event of the unit that is started waits, whether it did or not. -/
theorem hasBit_start (curCPU : Fin 2) (arm9ClockShift : UInt64) (n : NDSG) (unit : MathUnit)
    (j : Fin 16) :
    hasBit (unit.start curCPU arm9ClockShift n).schedListMask j.val =
      (hasBit n.schedListMask j.val || decide (j = unit.event)) := by
  have hstart : hasBit (unit.start curCPU arm9ClockShift n).schedListMask j.val =
      (hasBit (n.cancelEvent unit.event).schedListMask j.val || decide (j = unit.event)) := by
    cases unit <;> exact hasBit_scheduleEvent _ _ _ _ _ _ _ _ j
  rw [hstart, hasBit_cancelEvent]
  cases decide (j = unit.event) <;> cases hasBit n.schedListMask j.val <;> rfl

/-- Starting one unit leaves the other one alone. -/
theorem keeps_start {other : MathUnit} (hne : other ≠ unit) (curCPU : Fin 2)
    (arm9ClockShift : UInt64) (n : NDSG) : Keeps other n (unit.start curCPU arm9ClockShift n) where
  hasBit_eq := by
    have hevent : ¬ other.event = unit.event := fun h => hne (MathUnit.event_inj.mp h)
    rw [hasBit_start, decide_eq_false hevent, Bool.or_false]
  cnt_eq := by rw [cnt_start, if_neg hne]

end NDSG

/-- The console with the registers of the two units. -/
structure MathUnits where
  nds : NDSG
  div : DivUnit
  sqrtVal0 : UInt32
  sqrtVal1 : UInt32
  sqrtRes : UInt32

/-- A write to a register of the division unit. -/
inductive DivWrite where
  | divCnt (val : UInt16)
  | divNumerator0 (val : UInt32)
  | divNumerator1 (val : UInt32)
  | divDenominator0 (val : UInt32)
  | divDenominator1 (val : UInt32)

/-- A write to a register of the square root unit. -/
inductive SqrtWrite where
  | sqrtCnt (val : UInt16)
  | sqrtVal0 (val : UInt32)
  | sqrtVal1 (val : UInt32)

/-- What happens to the units between a reset or a savestate and the next: the writes of
`ARM9IOWrite16` and `ARM9IOWrite32`, calls of the scheduler from elsewhere, the clocks of the
processors, and passes of `RunSystem`. -/
inductive MathEvent where
  | writeDiv (curCPU : Fin 2) (arm9ClockShift : UInt64) (w : DivWrite)
  | writeSqrt (curCPU : Fin 2) (arm9ClockShift : UInt64) (w : SqrtWrite)
  | call (c : OtherCall)
  | clock (arm9Timestamp arm9Target arm7Timestamp arm7Target : UInt64)
  | runSystem (calls : Fin 16 → List OtherCall) (timestamp : UInt64)

namespace MathUnits

/-- The writes to the registers of the division unit, before the unit is started. -/
def writeDiv (m : MathUnits) : DivWrite → MathUnits
  | .divCnt val => { m with nds := { m.nds with divCnt := val } }
  | .divNumerator0 val => { m with div := { m.div with divNumerator0 := val } }
  | .divNumerator1 val => { m with div := { m.div with divNumerator1 := val } }
  | .divDenominator0 val => { m with div := { m.div with divDenominator0 := val } }
  | .divDenominator1 val => { m with div := { m.div with divDenominator1 := val } }

/-- The writes to the registers of the square root unit, before the unit is started. -/
def writeSqrt (m : MathUnits) : SqrtWrite → MathUnits
  | .sqrtCnt val => { m with nds := { m.nds with sqrtCnt := val } }
  | .sqrtVal0 val => { m with sqrtVal0 := val }
  | .sqrtVal1 val => { m with sqrtVal1 := val }

/-- The function of an event. -/
def eventFunc (calls : Fin 16 → List OtherCall) (i : Fin 16) (m : MathUnits) : MathUnits :=
  if i = eventDiv then
    let (divCnt, div) := m.div.divDone m.nds.divCnt
    { m with nds := { m.nds with divCnt := divCnt }, div := div }
  else if i = eventSqrt then
    let (sqrtCnt, sqrtRes) := sqrtDone m.nds.sqrtCnt m.sqrtVal0 m.sqrtVal1
    { m with nds := { m.nds with sqrtCnt := sqrtCnt }, sqrtRes := sqrtRes }
  else { m with nds := (calls i).foldl (fun n c => n.call c.call) m.nds }

/-- The body of the loop of `RunSystem`. -/
def runEvent (calls : Fin 16 → List OtherCall) (mask : UInt32) (m : MathUnits) (i : Fin 16) :
    MathUnits :=
  if hasBit mask i.val ∧ (m.nds.schedList.get i).timestamp ≤ m.nds.sysTimestamp then
    eventFunc calls i { m with nds := m.nds.cancelEvent i }
  else m

/-- What an event does. -/
def step (m : MathUnits) : MathEvent → MathUnits
  | .writeDiv curCPU arm9ClockShift w =>
    let m := m.writeDiv w
    { m with nds := m.nds.startDiv curCPU arm9ClockShift }
  | .writeSqrt curCPU arm9ClockShift w =>
    let m := m.writeSqrt w
    { m with nds := m.nds.startSqrt curCPU arm9ClockShift }
  | .call c => { m with nds := m.nds.call c.call }
  | .clock arm9Timestamp arm9Target arm7Timestamp arm7Target =>
    { m with
      nds := { m.nds with
        arm9Timestamp := arm9Timestamp
        arm9Target := arm9Target
        arm7Timestamp := arm7Timestamp
        arm7Target := arm7Target } }
  | .runSystem calls timestamp =>
    (List.finRange 16).foldl (runEvent calls m.nds.schedListMask)
      { m with nds := { m.nds with sysTimestamp := timestamp } }

/-- A run. -/
def exec (m : MathUnits) (events : List MathEvent) : MathUnits := events.foldl step m

/-! ### A unit that is not busy has the results of its operands -/

/-- A unit is busy while its event waits, and else `right` holds. -/
structure Settled (waits : Bool) (cnt : UInt16) (right : Prop) : Prop where
  busy : waits = true ↔ cnt &&& 0x8000 ≠ 0
  right : cnt &&& 0x8000 = 0 → right

/-- A unit that is started is busy, and its event waits. -/
theorem settled_start (cnt : UInt16) (right : Prop) : Settled true (cnt ||| 0x8000) right := by
  have hbusy : (cnt ||| 0x8000) &&& 0x8000 ≠ 0 := by
    intro hzero
    rw [UInt16.and_or_distrib_right] at hzero
    exact absurd (UInt16.or_eq_zero_iff.mp hzero).2 (by decide)
  exact ⟨iff_of_true rfl hbusy, fun hzero => absurd hzero hbusy⟩

/-- A unit whose work is done is not busy, and its event waits no more. -/
theorem settled_done {cnt : UInt16} {right : Prop} (hcnt : cnt &&& 0x8000 = 0) (h : right) :
    Settled false cnt right :=
  ⟨iff_of_false Bool.false_ne_true (fun hbusy => hbusy hcnt), fun _ => h⟩

/-- The results of a unit are those of its operands, under a control word. -/
def Right (m : MathUnits) (cnt : UInt16) : MathUnit → Prop
  | .div => m.div.Divided cnt
  | .sqrt => m.sqrtRes = (sqrtDone cnt m.sqrtVal0 m.sqrtVal1).2

/-- The invariant of a unit. -/
def UnitSettled (m : MathUnits) (unit : MathUnit) : Prop :=
  Settled (hasBit m.nds.schedListMask unit.event.val) (unit.cnt m.nds)
    (m.Right (unit.cnt m.nds) unit)

/-- The division unit is busy while its event waits, and else its results are right. -/
def DivSettled (m : MathUnits) : Prop :=
  Settled (hasBit m.nds.schedListMask eventDiv.val) m.nds.divCnt (m.div.Divided m.nds.divCnt)

/-- The square root unit is busy while its event waits, and else its result is right. -/
def SqrtSettled (m : MathUnits) : Prop :=
  Settled (hasBit m.nds.schedListMask eventSqrt.val) m.nds.sqrtCnt
    (m.sqrtRes = (sqrtDone m.nds.sqrtCnt m.sqrtVal0 m.sqrtVal1).2)

variable {m m' : MathUnits} {unit : MathUnit}

/-- A unit that is left alone stays as it is: the other events, the clocks and the registers of the
other unit do not matter. -/
theorem UnitSettled.of_keeps (h : m.UnitSettled unit) (hkeeps : NDSG.Keeps unit m.nds m'.nds)
    (hright : ∀ cnt, m.Right cnt unit → m'.Right cnt unit) : m'.UnitSettled unit := by
  unfold UnitSettled
  rw [hkeeps.hasBit_eq, hkeeps.cnt_eq]
  exact ⟨h.busy, fun hdone => hright _ (h.right hdone)⟩

/-- The results do not depend on the scheduler. -/
theorem UnitSettled.of_keeps_nds (h : m.UnitSettled unit) {n : NDSG}
    (hkeeps : NDSG.Keeps unit m.nds n) : ({ m with nds := n } : MathUnits).UnitSettled unit :=
  h.of_keeps hkeeps fun _ hright => by cases unit <;> exact hright

/-- A unit is settled from its start on, whatever its results are. -/
theorem unitSettled_start (curCPU : Fin 2) (arm9ClockShift : UInt64) (m : MathUnits)
    (unit : MathUnit) :
    ({ m with nds := unit.start curCPU arm9ClockShift m.nds } : MathUnits).UnitSettled unit := by
  have hwaits := m.nds.hasBit_start curCPU arm9ClockShift unit unit.event
  rw [decide_eq_true rfl, Bool.or_true] at hwaits
  unfold UnitSettled
  rw [hwaits, NDSG.cnt_start, if_pos rfl]
  exact settled_start _ _

/-- `SqrtDone` clears the busy bit. -/
theorem and_busy_sqrtDone (sqrtCnt : UInt16) (sqrtVal0 sqrtVal1 : UInt32) :
    (sqrtDone sqrtCnt sqrtVal0 sqrtVal1).1 &&& 0x8000 = 0 := by
  show sqrtCnt &&& ~~~0x8000 &&& 0x8000 = 0
  rw [UInt16.and_assoc]
  exact UInt16.and_zero

/-- The busy bit does not change the result. -/
theorem sqrtDone_sqrtDone (sqrtCnt : UInt16) (sqrtVal0 sqrtVal1 : UInt32) :
    (sqrtDone (sqrtDone sqrtCnt sqrtVal0 sqrtVal1).1 sqrtVal0 sqrtVal1).2 =
      (sqrtDone sqrtCnt sqrtVal0 sqrtVal1).2 := by
  have hmode : (sqrtDone sqrtCnt sqrtVal0 sqrtVal1).1 &&& 0x0001 = sqrtCnt &&& 0x0001 := by
    show sqrtCnt &&& ~~~0x8000 &&& 0x0001 = _
    rw [UInt16.and_assoc]
    rfl
  rw [sqrtDone, hmode]
  rfl

/-- The event of the square root unit is not that of the division unit. -/
theorem eventSqrt_ne : eventSqrt ≠ eventDiv := by decide

/-- What `DivDone` and `SqrtDone` do to their unit. -/
theorem done_eventFunc (calls : Fin 16 → List OtherCall) (m : MathUnits) (unit : MathUnit) :
    (eventFunc calls unit.event m).nds.schedListMask = m.nds.schedListMask ∧
      unit.cnt (eventFunc calls unit.event m).nds &&& 0x8000 = 0 ∧
      (eventFunc calls unit.event m).Right (unit.cnt (eventFunc calls unit.event m).nds) unit := by
  cases unit with
  | div =>
    have hevent : MathUnit.div.event = eventDiv := rfl
    rw [hevent, eventFunc, if_pos rfl]
    exact ⟨rfl, m.div.and_busy_divDone _, m.div.divided_divDone _⟩
  | sqrt =>
    have hevent : MathUnit.sqrt.event = eventSqrt := rfl
    rw [hevent, eventFunc, if_neg eventSqrt_ne, if_pos rfl]
    exact ⟨rfl, and_busy_sqrtDone m.nds.sqrtCnt m.sqrtVal0 m.sqrtVal1,
      (sqrtDone_sqrtDone m.nds.sqrtCnt m.sqrtVal0 m.sqrtVal1).symm⟩

/-- `DivDone` and `SqrtDone`, with the event that has just ended. -/
theorem unitSettled_eventFunc (calls : Fin 16 → List OtherCall) (m : MathUnits) (unit : MathUnit) :
    (eventFunc calls unit.event { m with nds := m.nds.cancelEvent unit.event }).UnitSettled
      unit := by
  have hwaits := m.nds.hasBit_cancelEvent unit.event unit.event
  rw [decide_eq_true rfl, Bool.not_true, Bool.and_false] at hwaits
  obtain ⟨hmask, hbusy, hright⟩ :=
    done_eventFunc calls { m with nds := m.nds.cancelEvent unit.event } unit
  unfold UnitSettled
  rw [hmask, hwaits]
  exact settled_done hbusy hright

/-- The functions of the other events leave a unit alone, that of the other unit among them. -/
theorem UnitSettled.eventFunc (h : m.UnitSettled unit) (calls : Fin 16 → List OtherCall)
    {i : Fin 16} (hi : i ≠ unit.event) : (MathUnits.eventFunc calls i m).UnitSettled unit := by
  unfold MathUnits.eventFunc
  split
  case isTrue hdiv =>
    cases unit with
    | div => exact absurd hdiv hi
    | sqrt => exact h
  case isFalse =>
    split
    case isTrue hsqrt =>
      cases unit with
      | div => exact h
      | sqrt => exact absurd hsqrt hi
    case isFalse => exact h.of_keeps_nds (NDSG.keeps_foldl_call _ _ unit)

/-- One event of a pass. -/
theorem UnitSettled.runEvent (h : m.UnitSettled unit) (calls : Fin 16 → List OtherCall)
    (mask : UInt32) (i : Fin 16) : (m.runEvent calls mask i).UnitSettled unit := by
  unfold MathUnits.runEvent
  split
  · by_cases hi : i = unit.event
    · subst hi
      exact unitSettled_eventFunc calls m unit
    · exact (h.of_keeps_nds (NDSG.keeps_cancelEvent hi)).eventFunc calls hi
  · exact h

/-- A write to the registers of a unit leaves the scheduler and the other unit alone. -/
theorem UnitSettled.writeOther (h : m.UnitSettled unit) :
    (unit ≠ .div → ∀ w, (m.writeDiv w).UnitSettled unit) ∧
      (unit ≠ .sqrt → ∀ w, (m.writeSqrt w).UnitSettled unit) := by
  refine ⟨fun hne w => ?_, fun hne w => ?_⟩
  · cases unit with
    | div => exact absurd rfl hne
    | sqrt => cases w <;> exact h
  · cases unit with
    | div => cases w <;> exact h
    | sqrt => exact absurd rfl hne

/-- The step lemma: a settled unit stays settled. -/
theorem UnitSettled.step (h : m.UnitSettled unit) (e : MathEvent) :
    (m.step e).UnitSettled unit := by
  cases e with
  | writeDiv curCPU arm9ClockShift w =>
    by_cases hdiv : unit = .div
    · rw [hdiv]
      exact unitSettled_start curCPU arm9ClockShift (m.writeDiv w) .div
    · exact (h.writeOther.1 hdiv w).of_keeps_nds (NDSG.keeps_start hdiv _ _ _)
  | writeSqrt curCPU arm9ClockShift w =>
    by_cases hsqrt : unit = .sqrt
    · rw [hsqrt]
      exact unitSettled_start curCPU arm9ClockShift (m.writeSqrt w) .sqrt
    · exact (h.writeOther.2 hsqrt w).of_keeps_nds (NDSG.keeps_start hsqrt _ _ _)
  | call c => exact h.of_keeps_nds (NDSG.keeps_call (c.ne unit))
  | clock => exact h.of_keeps_nds ⟨rfl, rfl⟩
  | runSystem calls timestamp =>
    have hclock := (h.of_keeps_nds ⟨rfl, rfl⟩ :
        ({ m with nds := { m.nds with sysTimestamp := timestamp } } : MathUnits).UnitSettled unit)
    exact List.foldlRecOn (motive := fun m : MathUnits => m.UnitSettled unit) _ _ hclock
      fun _ ht i _ =>
      ht.runEvent calls _ i

/-- The run lemma. -/
theorem UnitSettled.exec (h : m.UnitSettled unit) (events : List MathEvent) :
    (m.exec events).UnitSettled unit :=
  List.foldlRecOn (motive := fun m : MathUnits => m.UnitSettled unit) events _ h fun _ ht e _ =>
    ht.step e

/-! ### A remainder that is left as it was -/

/-- The operands of the division without a remainder, and the remainder. -/
structure LeavesRemainder (remainder : UInt64) (m : MathUnits) : Prop where
  overflows : m.div.Overflows m.nds.divCnt
  remainder_eq : m.div.divRemainder = remainder

variable {remainder : UInt64}

/-- One event of a pass. -/
theorem LeavesRemainder.runEvent (h : m.LeavesRemainder remainder)
    (calls : Fin 16 → List OtherCall) (mask : UInt32) (i : Fin 16) :
    (m.runEvent calls mask i).LeavesRemainder remainder := by
  unfold MathUnits.runEvent eventFunc
  split
  · split
    · exact ⟨h.overflows.divDone, h.overflows.divRemainder_divDone.trans h.remainder_eq⟩
    · split
      · exact ⟨h.overflows, h.remainder_eq⟩
      · have hcnt : ((calls i).foldl (fun n c => n.call c.call) (m.nds.cancelEvent i)).divCnt =
            m.nds.divCnt := (NDSG.keeps_foldl_call (m.nds.cancelEvent i) (calls i) .div).cnt_eq
        refine ⟨?_, h.remainder_eq⟩
        dsimp only
        rw [hcnt]
        exact h.overflows
  · exact h

/-- Only `DivDone` writes to the remainder, and not with these operands. -/
theorem divRemainder_step (h : m.div.Overflows m.nds.divCnt) (e : MathEvent) :
    (m.step e).div.divRemainder = m.div.divRemainder := by
  cases e with
  | writeDiv curCPU arm9ClockShift w => cases w <;> rfl
  | writeSqrt curCPU arm9ClockShift w => cases w <;> rfl
  | call => rfl
  | clock => rfl
  | runSystem calls timestamp =>
    have hpass : (m.step (.runSystem calls timestamp)).LeavesRemainder m.div.divRemainder :=
      List.foldlRecOn (motive := LeavesRemainder m.div.divRemainder) _ _ ⟨h, rfl⟩ fun _ ht i _ =>
        ht.runEvent calls _ i
    exact hpass.remainder_eq

/-! ### The units and the scheduler -/

/-- The calls of the functions of the events: `DivDone` and `SqrtDone` make none. -/
def schedCalls (calls : Fin 16 → List OtherCall) (i : Fin 16) : List SchedCall :=
  if i = eventDiv ∨ i = eventSqrt then [] else (calls i).map OtherCall.call

/-- To the scheduler a pass is one in which these calls are made. -/
theorem schedulerPart_runEvent (calls : Fin 16 → List OtherCall) (mask : UInt32) (m : MathUnits)
    (i : Fin 16) :
    (m.runEvent calls mask i).nds.schedulerPart =
      m.nds.schedulerPart.runEvent (schedCalls calls) mask i := by
  unfold MathUnits.runEvent NDSG.runEvent
  by_cases hrun : hasBit mask i.val = true ∧ (m.nds.schedList.get i).timestamp ≤ m.nds.sysTimestamp
  · have hrun' : hasBit mask i.val = true ∧
        (m.nds.schedulerPart.schedList.get i).timestamp ≤ m.nds.schedulerPart.sysTimestamp := hrun
    rw [if_pos hrun, if_pos hrun', schedCalls]
    unfold eventFunc
    by_cases hdiv : i = eventDiv
    · rw [if_pos hdiv, if_pos (Or.inl hdiv)]
      rfl
    · rw [if_neg hdiv]
      by_cases hsqrt : i = eventSqrt
      · rw [if_pos hsqrt, if_pos (Or.inr hsqrt)]
        rfl
      · rw [if_neg hsqrt, if_neg (not_or_intro hdiv hsqrt), List.foldl_map]
        exact (List.foldl_hom NDSG.schedulerPart fun n c => (n.schedulerPart_call c.call).symm).symm
  · have hrun' : ¬ (hasBit mask i.val = true ∧
        (m.nds.schedulerPart.schedList.get i).timestamp ≤ m.nds.schedulerPart.sysTimestamp) := hrun
    rw [if_neg hrun, if_neg hrun']

/-- The whole pass, to the scheduler. -/
theorem schedulerPart_runSystem (calls : Fin 16 → List OtherCall) (timestamp : UInt64)
    (m : MathUnits) :
    (m.step (.runSystem calls timestamp)).nds.schedulerPart =
      m.nds.schedulerPart.runSystem (schedCalls calls) timestamp :=
  (List.foldl_hom (fun m : MathUnits => m.nds.schedulerPart) fun m i =>
    (schedulerPart_runEvent calls _ m i).symm).symm

/-- In a pass nothing is started. -/
theorem ne_id_of_mem_schedCalls {calls : Fin 16 → List OtherCall} {j : Fin 16} {c : SchedCall}
    (hc : c ∈ schedCalls calls j) (unit : MathUnit) : c.id ≠ unit.event := by
  rw [schedCalls] at hc
  split at hc
  · exact absurd hc List.not_mem_nil
  · obtain ⟨other, -, rfl⟩ := List.mem_map.mp hc
    exact other.ne unit

/-- No pass leaves over work whose time has come, since nothing is started in a pass. -/
theorem lt_timestamp_of_waiting {calls : Fin 16 → List OtherCall} {timestamp : UInt64}
    {e : SchedEvent} (he : e ∈ (m.step (.runSystem calls timestamp)).nds.waiting unit.event) :
    timestamp < e.timestamp := by
  by_contra hdue
  have hwait : e ∈ ((SchedulerMachine.start m.nds.schedulerPart).runSystem (schedCalls calls)
      timestamp).nds.waiting unit.event := by
    rw [SchedulerMachine.nds_runSystem]
    show e ∈ (m.nds.schedulerPart.runSystem (schedCalls calls) timestamp).waiting unit.event
    rw [← schedulerPart_runSystem]
    exact he
  obtain ⟨new, hnew, haccepted⟩ := SchedulerMachine.runSystem_settles hwait (UInt64.not_lt.mp hdue)
  rw [SchedulerMachine.accepted_runSystem fun j c hc => ne_id_of_mem_schedCalls hc unit]
    at haccepted
  exact hnew (List.self_eq_append_right.mp haccepted)

/-- A run up to an event, the event, and the rest. -/
theorem exec_append_cons (m : MathUnits) (pre post : List MathEvent) (e : MathEvent) :
    m.exec (pre ++ e :: post) = ((m.exec pre).step e).exec post := by
  rw [exec, List.foldl_append, List.foldl_cons]
  rfl

/-- In every run, whatever there was before: from the first write to a register of a unit on its
results are right when it is not busy, behind a pass it is not busy with work whose time has come,
and nothing writes to the remainder while the operands are those of the one division without one. -/
theorem mathUnits_spec (m : MathUnits) (pre post : List MathEvent) (curCPU : Fin 2)
    (arm9ClockShift : UInt64) :
    (∀ w, (m.exec (pre ++ .writeDiv curCPU arm9ClockShift w :: post)).DivSettled) ∧
      (∀ w, (m.exec (pre ++ .writeSqrt curCPU arm9ClockShift w :: post)).SqrtSettled) ∧
      (∀ calls timestamp i e, i = eventDiv ∨ i = eventSqrt →
        e ∈ (m.exec (pre ++ [.runSystem calls timestamp])).nds.waiting i →
          timestamp < e.timestamp) ∧
      ∀ e, (m.exec pre).div.Overflows (m.exec pre).nds.divCnt →
        (m.exec (pre ++ [e])).div.divRemainder = (m.exec pre).div.divRemainder := by
  refine ⟨fun w => ?_, fun w => ?_, fun calls timestamp i e hi he => ?_, fun e hoverflows => ?_⟩
  · have hstart := unitSettled_start curCPU arm9ClockShift ((m.exec pre).writeDiv w) .div
    rw [exec_append_cons]
    exact hstart.exec post
  · have hstart := unitSettled_start curCPU arm9ClockShift ((m.exec pre).writeSqrt w) .sqrt
    rw [exec_append_cons]
    exact hstart.exec post
  · rw [exec_append_cons] at he
    obtain rfl | rfl := hi
    · exact lt_timestamp_of_waiting (show e ∈ NDSG.waiting _ (MathUnit.event .div) from he)
    · exact lt_timestamp_of_waiting (show e ∈ NDSG.waiting _ (MathUnit.event .sqrt) from he)
  · rw [exec_append_cons]
    exact divRemainder_step hoverflows e

/-- Seven by two, once the time has come. -/
example :
    let m : MathUnits := exec ⟨{}, ⟨0, 0, 0, 0, 0, 0⟩, 0, 0, 0⟩
      [.writeDiv 0 1 (.divNumerator0 7), .writeDiv 0 1 (.divDenominator0 2),
        .runSystem (fun _ => []) 18]
    m.nds.divCnt = 0 ∧ m.div.divQuotient = 3 ∧ m.div.divRemainder = 1 := by
  decide

end MathUnits

end DSEmu

import Mathlib.Algebra.Ring.Nat
import DSEmu.MelonDS.Scheduler

/-!
# The slices of the ARM9

`NextTarget` of `src/NDS.cpp` of melonDS and what `RunFrame` makes of it: the ARM9 runs up to
`ARM9Target`, and `Reschedule` moves this ahead where an event is scheduled for an earlier time. So
`ARM9Target` is never behind the time of an event that waits, from the beginning of the slice to its
end, whatever the ARM9 schedules and cancels in it; and where no event is late, it is ahead of the
time up to which the console has been run (`slice_spec`).
-/

namespace DSEmu

open BitSet (hasBit)

namespace NDSG

/-- The body of the loop of `NextTarget`. -/
def earlier (n : NDSG) (minEvent : UInt64) (i : Fin 16) : UInt64 :=
  if hasBit n.schedListMask i.val ∧ (n.schedList.get i).timestamp < minEvent then
    (n.schedList.get i).timestamp
  else minEvent

/-- What the loop of `NextTarget` finds. It ends early where no bit of the mask is left. -/
def minEvent (n : NDSG) : UInt64 := (List.finRange 16).foldl n.earlier 0xFFFFFFFFFFFFFFFF

/-- `NextTarget`. -/
def nextTarget (n : NDSG) : UInt64 :=
  let max := n.sysTimestamp + 64
  if n.minEvent < max + 8 then n.minEvent else max

/-- The beginning of a slice in `RunFrame`. -/
def startSlice (arm9ClockShift : UInt64) (n : NDSG) : NDSG :=
  { n with arm9Target := n.nextTarget <<< arm9ClockShift }

/-- What the scheduler sees of the ARM9 in a slice. -/
inductive SliceStep where
  | schedule (id : Fin 16) (periodic : Bool) (delay : Int32) (funcID param : UInt32)
  | cancel (id : Fin 16)
  | clock (arm9Timestamp : UInt64)

/-- A step of the ARM9, where `CurCPU` is 0. -/
def sliceStep (arm9ClockShift : UInt64) (n : NDSG) : SliceStep → NDSG
  | .schedule id periodic delay funcID param =>
    n.scheduleEvent ⟨0, Nat.zero_lt_two⟩ arm9ClockShift id periodic delay funcID param
  | .cancel id => n.cancelEvent id
  | .clock arm9Timestamp => { n with arm9Timestamp := arm9Timestamp }

variable {n : NDSG} {arm9ClockShift : UInt64}

/-! ### The next target -/

/-- The loop finds nothing later than where it starts, and nothing later than an event it has seen.
-/
theorem fold_le (n : NDSG) (is : List (Fin 16)) (start : UInt64) :
    (is.foldl n.earlier start ≤ start) ∧
      ∀ i ∈ is, hasBit n.schedListMask i.val = true →
        is.foldl n.earlier start ≤ (n.schedList.get i).timestamp := by
  induction is generalizing start with
  | nil => exact ⟨UInt64.le_refl _, fun _ hi => absurd hi List.not_mem_nil⟩
  | cons j is ih =>
    rw [List.foldl_cons]
    obtain ⟨hstart, his⟩ := ih (n.earlier start j)
    have hle : n.earlier start j ≤ start := by
      unfold earlier
      split
      case isTrue h => exact UInt64.le_of_lt h.2
      case isFalse => exact UInt64.le_refl _
    refine ⟨UInt64.le_trans hstart hle, fun i hi hbit => ?_⟩
    obtain rfl | hi := List.mem_cons.mp hi
    · refine UInt64.le_trans hstart ?_
      unfold earlier
      split
      case isTrue => exact UInt64.le_refl _
      case isFalse h => exact UInt64.not_lt.mp fun hlt => h ⟨hbit, hlt⟩
    · exact his i hi hbit

/-- A time before those of all events is before what the loop finds. -/
theorem lt_fold {t : UInt64} (ht : ∀ i, hasBit n.schedListMask i.val = true →
    t < (n.schedList.get i).timestamp) (is : List (Fin 16)) {start : UInt64} (hstart : t < start) :
    t < is.foldl n.earlier start := by
  induction is generalizing start with
  | nil => exact hstart
  | cons j is ih =>
    rw [List.foldl_cons]
    apply ih
    unfold earlier
    split
    case isTrue h => exact ht j h.1
    case isFalse => exact hstart

/-- No event that waits is earlier than what `NextTarget` finds. -/
theorem minEvent_le {i : Fin 16} {e : SchedEvent} (he : e ∈ n.waiting i) :
    n.minEvent ≤ e.timestamp := by
  obtain ⟨hbit, rfl⟩ := mem_waiting_iff.mp he
  exact (n.fold_le (List.finRange 16) 0xFFFFFFFFFFFFFFFF).2 i (List.mem_finRange i) hbit

/-- The bounds of a slice do not wrap around. -/
theorem toNat_sysTimestamp_add (h : n.sysTimestamp.toNat + 72 < 2 ^ 64) :
    (n.sysTimestamp + 64).toNat = n.sysTimestamp.toNat + 64 ∧
      (n.sysTimestamp + 64 + 8).toNat = n.sysTimestamp.toNat + 72 := by
  have hmax : (n.sysTimestamp + 64).toNat = n.sysTimestamp.toNat + 64 := by
    rw [UInt64.toNat_add]
    show (n.sysTimestamp.toNat + 64) % 2 ^ 64 = _
    exact Nat.mod_eq_of_lt (by omega)
  refine ⟨hmax, ?_⟩
  rw [UInt64.toNat_add, hmax]
  show (n.sysTimestamp.toNat + 64 + 8) % 2 ^ 64 = _
  exact Nat.mod_eq_of_lt (by omega)

/-- `NextTarget` is no later than an event that waits. The margin of eight cycles does not matter.
-/
theorem nextTarget_le (h : n.sysTimestamp.toNat + 72 < 2 ^ 64) {i : Fin 16} {e : SchedEvent}
    (he : e ∈ n.waiting i) : n.nextTarget ≤ e.timestamp := by
  obtain ⟨hmax, hmargin⟩ := toNat_sysTimestamp_add h
  have hmin := UInt64.le_iff_toNat_le.mp (minEvent_le he)
  rw [nextTarget]
  split
  · exact minEvent_le he
  case isFalse hlt =>
    have hlater := UInt64.le_iff_toNat_le.mp (UInt64.not_lt.mp hlt)
    refine UInt64.le_iff_toNat_le.mpr ?_
    omega

/-- Where no event is late, the console goes on. -/
theorem lt_nextTarget (h : n.sysTimestamp.toNat + 72 < 2 ^ 64)
    (hlate : ∀ i, ∀ e ∈ n.waiting i, n.sysTimestamp < e.timestamp) :
    n.sysTimestamp < n.nextTarget := by
  obtain ⟨hmax, -⟩ := toNat_sysTimestamp_add h
  rw [nextTarget]
  split
  · have hlast : n.sysTimestamp < 0xFFFFFFFFFFFFFFFF := by
      refine UInt64.lt_iff_toNat_lt.mpr ?_
      show n.sysTimestamp.toNat < 2 ^ 64 - 1
      omega
    exact lt_fold (fun i hbit => hlate i _ (mem_waiting_iff.mpr ⟨hbit, rfl⟩))
      (List.finRange 16) hlast
  · refine UInt64.lt_iff_toNat_lt.mpr ?_
    omega

/-! ### The slice -/

/-- The clock of the ARM9 runs faster by a shift; what it drops is not made up for. -/
theorem shiftLeft_shiftRight_le (x s : UInt64) : (x <<< s) >>> s ≤ x := by
  refine UInt64.le_iff_toNat_le.mpr ?_
  rw [UInt64.toNat_shiftRight, UInt64.toNat_shiftLeft, Nat.shiftRight_eq_div_pow, Nat.shiftLeft_eq]
  have hpos : 0 < 2 ^ (s.toNat % 64) := Nat.two_pow_pos _
  calc x.toNat * 2 ^ (s.toNat % 64) % 2 ^ 64 / 2 ^ (s.toNat % 64)
      ≤ x.toNat * 2 ^ (s.toNat % 64) / 2 ^ (s.toNat % 64) := Nat.div_le_div_right (Nat.mod_le _ _)
    _ = x.toNat := Nat.mul_div_cancel _ hpos

/-- The ARM9 stops no later than any event is due. -/
def InTime (arm9ClockShift : UInt64) (n : NDSG) : Prop :=
  ∀ i, ∀ e ∈ n.waiting i, n.arm9Target >>> arm9ClockShift ≤ e.timestamp

/-- At the beginning of a slice. -/
theorem inTime_startSlice (h : n.sysTimestamp.toNat + 72 < 2 ^ 64) (arm9ClockShift : UInt64) :
    (n.startSlice arm9ClockShift).InTime arm9ClockShift := fun _ _ he =>
  UInt64.le_trans (shiftLeft_shiftRight_le _ _) (nextTarget_le h he)

/-- `Reschedule` never moves the target back, and never leaves it behind the new time. -/
theorem arm9Target_reschedule (arm9ClockShift target : UInt64) (n : NDSG) :
    (n.reschedule ⟨0, Nat.zero_lt_two⟩ arm9ClockShift target).arm9Target >>> arm9ClockShift ≤
      target ∧
      (n.reschedule ⟨0, Nat.zero_lt_two⟩ arm9ClockShift target).arm9Target >>> arm9ClockShift ≤
        n.arm9Target >>> arm9ClockShift := by
  rw [reschedule, if_pos rfl]
  split
  case isTrue h =>
    have hle := shiftLeft_shiftRight_le target arm9ClockShift
    exact ⟨hle, UInt64.le_trans hle (UInt64.le_of_lt h)⟩
  case isFalse h => exact ⟨UInt64.not_lt.mp h, UInt64.le_refl _⟩

/-- The step lemma: whatever the ARM9 schedules or cancels. -/
theorem InTime.step (h : n.InTime arm9ClockShift) (s : SliceStep) :
    (n.sliceStep arm9ClockShift s).InTime arm9ClockShift := by
  intro j e he
  cases s with
  | schedule id periodic delay funcID param =>
    cases hbit : hasBit n.schedListMask id.val with
    | true =>
      rw [sliceStep, scheduleEvent_of_hasBit _ _ _ _ _ _ hbit] at he ⊢
      exact h j e he
    | false =>
      rw [sliceStep, waiting_scheduleEvent _ _ _ _ _ _ hbit] at he
      have hnot : ¬ hasBit n.schedListMask id.val = true := by
        rw [hbit]
        exact Bool.false_ne_true
      rw [sliceStep, scheduleEvent, if_neg hnot]
      obtain ⟨htarget, hold⟩ := arm9Target_reschedule arm9ClockShift
        (n.eventTime ⟨0, Nat.zero_lt_two⟩ arm9ClockShift id periodic delay)
        { n with
          schedList := n.schedList.put id
            ⟨n.eventTime ⟨0, Nat.zero_lt_two⟩ arm9ClockShift id periodic delay, funcID, param⟩
          schedListMask := n.schedListMask ||| BitSet.bit id.val }
      split at he
      · obtain rfl := List.mem_singleton.mp he
        exact htarget
      · exact UInt64.le_trans hold (h j e he)
  | cancel id =>
    by_cases hj : j = id
    · subst hj
      rw [sliceStep, waiting_cancelEvent_self] at he
      exact absurd he List.not_mem_nil
    · rw [sliceStep, waiting_cancelEvent_of_ne hj] at he
      exact h j e he
  | clock => exact h j e he

/-- In every slice of the ARM9, at every moment. The timestamp is far from its end. -/
theorem slice_spec (n : NDSG) (arm9ClockShift : UInt64) (steps : List SliceStep)
    (h : n.sysTimestamp.toNat + 72 < 2 ^ 64) :
    (steps.foldl (sliceStep arm9ClockShift) (n.startSlice arm9ClockShift)).InTime arm9ClockShift ∧
      ((∀ i, ∀ e ∈ n.waiting i, n.sysTimestamp < e.timestamp) → n.sysTimestamp < n.nextTarget) :=
  ⟨List.foldlRecOn (motive := InTime arm9ClockShift) steps _ (inTime_startSlice h arm9ClockShift)
    fun _ ht s _ => ht.step s, lt_nextTarget h⟩

/-- A console at cycle 1000, in which an event waits for cycle 1040. -/
def eventAhead : NDSG :=
  { ({} : NDSG) with
    arm9Timestamp := 2000
    sysTimestamp := 1000
    schedList := ({} : NDSG).schedList.put ⟨0, by decide⟩ ⟨1040, 0, 0⟩
    schedListMask := 1 }

/-- The ARM9 starts a division and a square root, and puts the square root off. -/
def twoUnitsSlice : List SliceStep :=
  [.clock 2010, .schedule eventDiv false 18 0 0, .schedule eventSqrt false 13 0 0,
    .cancel eventSqrt]

/-- Both events that wait behind this slice are ahead of the target, and the slice has a length. -/
theorem slice_spec_twoUnits :
    let n := twoUnitsSlice.foldl (sliceStep 1) (eventAhead.startSlice 1)
    (n.waiting ⟨0, by decide⟩ = [⟨1040, 0, 0⟩] ∧ n.arm9Target >>> 1 ≤ 1040) ∧
      (n.waiting eventDiv = [⟨1023, 0, 0⟩] ∧ n.arm9Target >>> 1 ≤ 1023) ∧
      n.waiting eventSqrt = [] ∧ eventAhead.sysTimestamp < eventAhead.nextTarget := by
  have hfar : eventAhead.sysTimestamp.toNat + 72 < 2 ^ 64 := by decide
  have hlate : ∀ i, ∀ e ∈ eventAhead.waiting i, eventAhead.sysTimestamp < e.timestamp := by decide
  have hahead : (twoUnitsSlice.foldl (sliceStep 1) (eventAhead.startSlice 1)).waiting
      ⟨0, by decide⟩ = [⟨1040, 0, 0⟩] := rfl
  have hdivision : (twoUnitsSlice.foldl (sliceStep 1) (eventAhead.startSlice 1)).waiting
      eventDiv = [⟨1023, 0, 0⟩] := rfl
  have hsqrt : (twoUnitsSlice.foldl (sliceStep 1) (eventAhead.startSlice 1)).waiting
      eventSqrt = [] := rfl
  obtain ⟨hinTime, hlength⟩ := slice_spec eventAhead 1 twoUnitsSlice hfar
  have hbound (i : Fin 16) (e : SchedEvent)
      (he : (twoUnitsSlice.foldl (sliceStep 1) (eventAhead.startSlice 1)).waiting i = [e]) :
      (twoUnitsSlice.foldl (sliceStep 1) (eventAhead.startSlice 1)).arm9Target >>> 1 ≤
        e.timestamp := hinTime i e (he ▸ List.mem_singleton_self e)
  exact ⟨⟨hahead, hbound _ _ hahead⟩, ⟨hdivision, hbound _ _ hdivision⟩, hsqrt, hlength hlate⟩

end NDSG

end DSEmu

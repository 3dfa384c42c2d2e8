import Mathlib.Tactic.FinCases
import DSEmu.MelonDS.Interrupts
import DSEmu.MelonDS.TimerBlock

/-!
# Running the timers whenever

`putBlock` is a console with the timers of a list as `TimerBlock.lean` has them. The code's loops
over a console are the block's functions on its timers (`runTimers_putBlock`), so that what holds of
blocks holds of the console: a program that reads a timer has the timers run there, and they are, at
the end, where they are if it does not (`NDS.timers_run_in_pieces`).
-/

namespace DSEmu.NDS

open scoped Indexed

variable {κ : Type} (components : Components κ) {cpu : Fin 2} {n : NDS κ}

/-- A console with a timer, and with the interrupt of the timer raised if it has raised it. -/
def putTimer (tid : Fin 8) (c : Counting) (n : NDS κ) : NDS κ :=
  let n := n.setTimer tid c.timer
  if c.raised then setIRQ components (timerCPU tid) (timerIRQ tid) n else n

/-- A console with some timers. -/
def putBlock (tids : List (Fin 8)) (cs : List Counting) (n : NDS κ) : NDS κ :=
  (tids.zip cs).foldl (fun n p => putTimer components p.1 p.2 n) n

section Frames

variable (tid t : Fin 8) (x y : Timer) (i : UInt32) (c : Counting) (cs : List Counting)
  (tids : List (Fin 8))

/-- A block is put back timer by timer. -/
@[simp] theorem putBlock_cons : putBlock components (tid :: tids) (c :: cs) n =
    putBlock components tids cs (putTimer components tid c n) := rfl

/-- `SetIRQ` leaves the timers alone. -/
@[simp] theorem timers_setIRQ (cpu : Fin 2) : (setIRQ components cpu i n).timers = n.timers := by
  dsimp only [setIRQ]
  split_ifs <;> rfl

/-- `SetIRQ` and a timer that is set do not disturb each other. -/
@[simp] theorem setTimer_setIRQ (cpu : Fin 2) : (setIRQ components cpu i n).setTimer tid x =
    setIRQ components cpu i (n.setTimer tid x) := by
  simp only [setIRQ, apply_ite (setTimer tid x)]
  rfl

/-- A timer that is set. -/
@[simp] theorem timers_setTimer : (n.setTimer tid x).timers = n.timers.put tid x := rfl

/-- Of two settings of a timer the second one counts. -/
@[simp] theorem setTimer_setTimer : (n.setTimer tid x).setTimer tid y = n.setTimer tid y := by
  simp only [setTimer, Vector.put_put]

/-- Two timers that are set do not disturb each other. -/
theorem setTimer_comm (h : tid ≠ t) :
    (n.setTimer tid x).setTimer t y = (n.setTimer t y).setTimer tid x := by
  simp only [setTimer]
  rw [Vector.put_comm h]

/-- A timer that is set to what it is. -/
theorem setTimer_self : n.setTimer tid (n.timers.get tid) = n := by
  simp only [setTimer]
  have hself : n.timers.put tid (n.timers.get tid) = n.timers := Vector.put_get_self _ _
  rw [hself]

/-- A timer that is put back. -/
theorem timers_putTimer : (putTimer components tid c n).timers = n.timers.put tid c.timer := by
  dsimp only [putTimer]
  split_ifs
  · rw [timers_setIRQ, timers_setTimer]
  · rfl

/-- A timer that is put back and set again. -/
theorem putTimer_setTimer :
    (putTimer components tid c n).setTimer tid x =
      putTimer components tid { c with timer := x } n := by
  dsimp only [putTimer]
  split_ifs
  · rw [setTimer_setIRQ, setTimer_setTimer]
  · rw [setTimer_setTimer]

/-- The interrupt of a timer that has raised it before may be raised again. -/
theorem setIRQ_putTimer (p : Prop) [Decidable p] :
    (if p then setIRQ components (timerCPU tid) (timerIRQ tid) (putTimer components tid c n)
      else putTimer components tid c n) =
      putTimer components tid { c with raised := c.raised || decide p } n := by
  dsimp only [putTimer]
  by_cases hp : p
  · rw [if_pos hp, decide_eq_true hp, Bool.or_true, if_pos rfl]
    split_ifs
    · exact setIRQ_setIRQ _ _ _ _
    · rfl
  · rw [if_neg hp, decide_eq_false hp, Bool.or_false]

/-- Two interrupts of a processor may be raised in either order. -/
theorem setIRQ_putTimer_comm :
    setIRQ components (timerCPU tid) i (putTimer components tid c n) =
      putTimer components tid c (setIRQ components (timerCPU tid) i n) := by
  dsimp only [putTimer]
  rw [setTimer_setIRQ]
  split_ifs
  · exact setIRQ_comm _ _ _ _ _
  · rfl

/-- Another timer that is set does not disturb the one that is put back. -/
theorem setTimer_putTimer_comm (h : t ≠ tid) :
    (putTimer components tid c n).setTimer t x = putTimer components tid c (n.setTimer t x) := by
  dsimp only [putTimer]
  split_ifs
  · rw [setTimer_setIRQ, setTimer_comm _ _ _ _ h.symm]
  · rw [setTimer_comm _ _ _ _ h.symm]

/-- The timers outside of the block stay. -/
theorem timers_putBlock (h : t ∉ tids) :
    (putBlock components tids cs n).timers.get t = n.timers.get t := by
  induction tids generalizing cs n with
  | nil => rfl
  | cons tid tids ih =>
    have hne : t ≠ tid := List.ne_of_not_mem_cons h
    have hnot : t ∉ tids := List.not_mem_of_not_mem_cons h
    cases cs with
    | nil => rfl
    | cons c cs =>
      rw [putBlock_cons, ih cs hnot, timers_putTimer]
      exact Vector.get_put_of_ne (Ne.symm hne) _

/-- A timer outside of the block may be set before or behind it. -/
theorem setTimer_putBlock (h : t ∉ tids) : (putBlock components tids cs n).setTimer t x =
    putBlock components tids cs (n.setTimer t x) := by
  induction tids generalizing cs n with
  | nil => rfl
  | cons tid tids ih =>
    have hne : t ≠ tid := List.ne_of_not_mem_cons h
    have hnot : t ∉ tids := List.not_mem_of_not_mem_cons h
    cases cs with
    | nil => rfl
    | cons c cs =>
      rw [putBlock_cons, ih cs hnot, putBlock_cons, setTimer_putTimer_comm _ _ _ _ _ hne]

/-- An interrupt of the processor may be raised before or behind its block. -/
theorem setIRQ_putBlock (h : ∀ t ∈ tids, timerCPU t = cpu) :
    setIRQ components cpu i (putBlock components tids cs n) =
      putBlock components tids cs (setIRQ components cpu i n) := by
  induction tids generalizing cs n with
  | nil => rfl
  | cons tid tids ih =>
    obtain ⟨hcpu, htids⟩ := List.forall_mem_cons.mp h
    cases cs with
    | nil => rfl
    | cons c cs =>
      subst hcpu
      rw [putBlock_cons, ih cs htids, putBlock_cons, setIRQ_putTimer_comm]

/-- The timer in front of a block. -/
theorem timers_putBlock_cons (h : tid ∉ tids) :
    (putBlock components (tid :: tids) (c :: cs) n).timers.get tid = c.timer := by
  rw [putBlock_cons, timers_putBlock components tid cs tids h, timers_putTimer]
  exact Vector.get_put_self _ _ _

/-- The first timer of a block, set again. -/
theorem setTimer_putBlock_cons (h : tid ∉ tids) :
    (putBlock components (tid :: tids) (c :: cs) n).setTimer tid x =
      putBlock components (tid :: tids) ({ c with timer := x } :: cs) n := by
  rw [putBlock_cons, setTimer_putBlock components tid x cs tids h, putTimer_setTimer]
  rfl

/-- The timer in front of a block raises its interrupt, or not. -/
theorem setIRQ_putBlock_cons (h : ∀ t ∈ tids, timerCPU t = timerCPU tid) (p : Prop) [Decidable p] :
    (if p then setIRQ components (timerCPU tid) (timerIRQ tid)
        (putBlock components (tid :: tids) (c :: cs) n)
      else putBlock components (tid :: tids) (c :: cs) n) =
      putBlock components (tid :: tids) ({ c with raised := c.raised || decide p } :: cs) n := by
  rw [putBlock_cons, setIRQ_putBlock components (timerIRQ tid) cs tids h, putBlock_cons,
    ← setIRQ_putTimer]
  split_ifs <;> rfl

end Frames

/-! ### The loops over a block -/

/-- A list of timers of one processor in which every timer comes before those behind it. -/
def Block (cpu : Fin 2) : List (Fin 8) → Prop
  | [] => True
  | tid :: tids => timerCPU tid = cpu ∧ timersAfter tid = tids ∧ tid ∉ tids ∧ Block cpu tids

/-- The timers of a block are of one processor. -/
theorem Block.timerCPU_eq {tids : List (Fin 8)} (h : Block cpu tids) :
    ∀ t ∈ tids, timerCPU t = cpu := by
  induction tids with
  | nil => exact fun t ht => absurd ht List.not_mem_nil
  | cons tid tids ih => exact List.forall_mem_cons.mpr ⟨h.1, ih h.2.2.2⟩

/-- The timers behind one that overflows. -/
theorem countUp_putBlock {tids : List (Fin 8)} (h : Block cpu tids) (cs : List Counting)
    (hlength : tids.length = cs.length) :
    countUp components tids (putBlock components tids cs n) =
      putBlock components tids (tick cs) n := by
  induction tids generalizing cs n with
  | nil => rfl
  | cons tid tids ih =>
    obtain ⟨rfl, -, hnot, hblock⟩ := h
    cases cs with
    | nil => contradiction
    | cons c cs =>
      have hlength' : tids.length = cs.length := Nat.succ.inj hlength
      rw [countUp, timers_putBlock_cons _ _ _ _ _ hnot, tick, Counting.tick]
      dsimp only
      by_cases hup : c.timer.countsUp
      · rw [if_neg (not_not.mpr hup), if_neg (not_not.mpr hup)]
        by_cases hlow : (c.timer.counter + ((1 : UInt32) <<< 10)) >>> (26 : UInt32) = 0
        · rw [if_pos hlow, if_pos hlow, setTimer_putBlock_cons _ _ _ _ _ _ hnot]
          rfl
        · rw [if_neg hlow, if_neg hlow, setTimer_putBlock_cons _ _ _ _ _ _ hnot,
            setIRQ_putBlock_cons _ _ _ _ _ hblock.timerCPU_eq]
          exact ih hblock cs hlength'
      · rw [if_pos hup, if_pos hup]
        rfl

variable {tid : Fin 8} {tids : List (Fin 8)}

/-- A timer that overflows in front of its block. -/
theorem handleTimerOverflow_putBlock (h : Block cpu (tid :: tids)) (c : Counting)
    (cs : List Counting) (hlength : tids.length = cs.length) :
    handleTimerOverflow components tid (putBlock components (tid :: tids) (c :: cs) n) =
      putBlock components (tid :: tids)
        (c.overflow (c.timer.counter + (c.timer.reload.toUInt32 <<< 10)) :: tick cs) n := by
  obtain ⟨rfl, hafter, hnot, hblock⟩ := h
  rw [handleTimerOverflow, timers_putBlock_cons _ _ _ _ _ hnot, hafter]
  rw [setTimer_putBlock_cons _ _ _ _ _ _ hnot, setIRQ_putBlock_cons _ _ _ _ _ hblock.timerCPU_eq,
    putBlock_cons, countUp_putBlock components hblock cs hlength]
  rfl

/-- The counter of a timer when the loop of `RunTimer` ends, and its interrupt. -/
def settled (c : Counting) : Counting where
  timer := { c.timer with
    counter := UInt32.ofNat
      (settle (2 ^ 26) (c.timer.reload.toNat * 2 ^ 10) c.timer.counter.toNat).2 }
  raised := c.raised ||
    (decide (0 < (settle (2 ^ 26) (c.timer.reload.toNat * 2 ^ 10) c.timer.counter.toNat).1) &&
      decide c.timer.interrupts)

/-- A cycle leaves the number of timers. -/
theorem length_tick (cs : List Counting) : (tick cs).length = cs.length := by
  induction cs with
  | nil => rfl
  | cons c cs ih =>
    rw [tick, List.length_cons, List.length_cons]
    split_ifs
    · rw [ih]
    · rfl

/-- Whether a counter has gone past its 26 bits. -/
theorem shiftRight_eq_zero_iff (x : UInt32) : x >>> (26 : UInt32) = 0 ↔ x.toNat < 2 ^ 26 := by
  rw [← UInt32.toNat_inj, UInt32.toNat_shiftRight]
  change x.toNat >>> 26 = 0 ↔ _
  rw [Nat.shiftRight_eq_div_pow, Nat.div_eq_zero_iff]
  omega

/-- The reload value, at the bits of the counter. -/
theorem toNat_reload (t : Timer) : (t.reload.toUInt32 <<< 10).toNat = t.reload.toNat * 2 ^ 10 := by
  have hreload := t.reload.toNat_lt
  rw [UInt32.toNat_shiftLeft]
  change t.reload.toNat <<< 10 % 2 ^ 32 = _
  rw [Nat.shiftLeft_eq]
  exact Nat.mod_eq_of_lt (by omega)

/-- One round of the loop takes the counter down. -/
theorem toNat_round {t : Timer} (h : ¬ t.counter.toNat < 2 ^ 26) :
    (t.counter - ((1 : UInt32) <<< 26) + (t.reload.toUInt32 <<< 10)).toNat =
      t.counter.toNat - 2 ^ 26 + t.reload.toNat * 2 ^ 10 := by
  have hreload := t.reload_lt
  have hcounter : t.counter.toNat < 2 ^ 32 := t.counter.toNat_lt
  have hlimit : ((1 : UInt32) <<< 26).toNat = 2 ^ 26 := by decide
  have hle : (1 : UInt32) <<< 26 ≤ t.counter := by
    rw [UInt32.le_iff_toNat_le, hlimit]
    omega
  rw [UInt32.toNat_add, UInt32.toNat_sub_of_le _ _ hle, toNat_reload, hlimit]
  exact Nat.mod_eq_of_lt (by omega)

/-- A counter that has not overflowed is settled. -/
theorem settled_of_lt {c : Counting} (h : c.timer.counter.toNat < 2 ^ 26) : settled c = c := by
  rw [settled, settle_of_lt h]
  dsimp only
  rw [UInt32.ofNat_toNat, decide_eq_false (Nat.lt_irrefl 0), Bool.false_and, Bool.or_false]

/-- The loop ends with the counter in its 26 bits, however often it has to go round. -/
theorem overflowLoop_putBlock (h : Block cpu (tid :: tids)) (fuel : ℕ) (c : Counting)
    (cs : List Counting) (hlength : tids.length = cs.length)
    (hfuel : c.timer.counter.toNat ≤ fuel) :
    overflowLoop components tid fuel (putBlock components (tid :: tids) (c :: cs) n) =
      putBlock components (tid :: tids) (settled c :: ticks
        (settle (2 ^ 26) (c.timer.reload.toNat * 2 ^ 10) c.timer.counter.toNat).1 cs) n := by
  have hdone {c : Counting} {cs : List Counting} (hlow : c.timer.counter.toNat < 2 ^ 26) :
      putBlock components (tid :: tids) (c :: cs) n =
        putBlock components (tid :: tids) (settled c :: ticks
          (settle (2 ^ 26) (c.timer.reload.toNat * 2 ^ 10) c.timer.counter.toNat).1 cs) n := by
    rw [settled_of_lt hlow, settle_of_lt hlow, ticks_zero]
  induction fuel generalizing c cs with
  | zero => exact hdone (by omega)
  | succ fuel ih =>
    have hnot : tid ∉ tids := h.2.2.1
    rw [overflowLoop, timers_putBlock_cons _ _ _ _ _ hnot]
    by_cases hlow : c.timer.counter.toNat < 2 ^ 26
    · rw [if_pos ((shiftRight_eq_zero_iff _).mpr hlow)]
      exact hdone hlow
    · rw [if_neg (mt (shiftRight_eq_zero_iff _).mp hlow)]
      -- the timer after one round
      obtain ⟨next, hnext⟩ : ∃ next, next = c.overflow
          (c.timer.counter - ((1 : UInt32) <<< 26) + (c.timer.reload.toUInt32 <<< 10)) := ⟨_, rfl⟩
      have hcounter : next.timer.counter.toNat =
          c.timer.counter.toNat - 2 ^ 26 + c.timer.reload.toNat * 2 ^ 10 := by
        rw [hnext]
        exact toNat_round hlow
      have hreload : next.timer.reload = c.timer.reload := by rw [hnext]; rfl
      have hstep : handleTimerOverflow components tid
          ((putBlock components (tid :: tids) (c :: cs) n).setTimer tid
            { c.timer with counter := c.timer.counter - ((1 : UInt32) <<< 26) }) =
          putBlock components (tid :: tids) (next :: tick cs) n := by
        rw [setTimer_putBlock_cons _ _ _ _ _ _ hnot,
          handleTimerOverflow_putBlock components h _ cs hlength, hnext]
        rfl
      have hround : next.timer.counter.toNat ≤ fuel := by
        have hlt := c.timer.reload.toNat_lt
        omega
      have hsettle := settle_of_le c.timer.reload_lt (Nat.not_lt.mp hlow)
      rw [← hcounter, ← hreload] at hsettle
      have hsettled : settled next = settled c := by
        have htimer : (settled next).timer = (settled c).timer := by
          rw [settled, settled, ← hreload, hsettle, hnext]
          rfl
        have hraised : (settled next).raised = (settled c).raised := by
          rw [settled, settled, ← hreload, hsettle, decide_eq_true (Nat.succ_pos _), Bool.true_and,
            hnext]
          change ((c.raised || decide c.timer.interrupts) || (_ && decide c.timer.interrupts)) = _
          cases c.raised <;> cases decide c.timer.interrupts <;> simp
        exact Counting.ext htimer hraised
      refine (congrArg (overflowLoop components tid fuel) hstep).trans ?_
      rw [ih next (tick cs) (by rw [length_tick, hlength]) hround, hsettled, ← ticks_succ',
        ← hreload,
        hsettle]

/-- A timer in front of its block is run. -/
theorem runTimer_putBlock (h : Block cpu (tid :: tids)) (cycles : Int32) (c : Counting)
    (cs : List Counting) (hlength : tids.length = cs.length) :
    runTimer components tid cycles (putBlock components (tid :: tids) (c :: cs) n) =
      putBlock components (tid :: tids)
        (c.run cycles.toUInt32 :: ticks (c.timer.run cycles.toUInt32).1 cs) n := by
  have hnot : tid ∉ tids := h.2.2.1
  rw [runTimer, timers_putBlock_cons _ _ _ _ _ hnot]
  dsimp only
  rw [setTimer_putBlock_cons _ _ _ _ _ _ hnot]
  exact overflowLoop_putBlock components h _ _ cs hlength (Nat.le_refl _)

/-- What the code knows of a timer: the bit of its mask, which is set where it counts cycles. -/
def Masked (mask : UInt8) (tid : Fin 8) (c : Counting) : Prop :=
  mask &&& timerBit tid ≠ 0 ↔ c.timer.Counts

/-- The cycles do not change which timers the mask has. -/
theorem masked_ticks {mask : UInt8} {cs : List Counting} (h : List.Forall₂ (Masked mask) tids cs)
    (k : ℕ) : List.Forall₂ (Masked mask) tids (ticks k cs) := by
  refine forall₂_ticks h (fun tid c hc => ?_) k
  obtain ⟨counter, raised, heq⟩ := c.tick_eq
  rw [heq]
  exact hc

/-- The timers of a processor are run. -/
theorem foldl_runTimer_putBlock (h : Block cpu tids) (mask : UInt8) (cycles : Int32)
    {cs : List Counting} (hmask : List.Forall₂ (Masked mask) tids cs) :
    tids.foldl
        (fun n tid => if mask &&& timerBit tid ≠ 0 then runTimer components tid cycles n else n)
        (putBlock components tids cs n) =
      putBlock components tids (runBlock cycles.toUInt32 cs) n := by
  induction tids generalizing cs n with
  | nil => rfl
  | cons tid tids ih =>
    cases hmask with
    | cons hc hcs =>
      rename_i c cs
      have hlength : tids.length = cs.length := hcs.length_eq
      rw [List.foldl_cons, runBlock]
      by_cases hcounts : c.timer.Counts
      · rw [if_pos (hc.mpr hcounts), if_pos hcounts,
          runTimer_putBlock components h cycles c cs hlength, putBlock_cons,
          ih h.2.2.2 (masked_ticks hcs _), ← ticks_runBlock]
        rfl
      · rw [if_neg (mt hc.mp hcounts), if_neg hcounts, putBlock_cons, ih h.2.2.2 hcs]
        rfl

/-! ### All timers of a processor -/

/-- The timers of a processor are a block. -/
theorem block_timersOf (cpu : Fin 2) : Block cpu (timersOf cpu) := by
  fin_cases cpu
  · exact ⟨rfl, rfl, by decide, rfl, rfl, by decide, rfl, rfl, by decide, rfl, rfl, by decide,
      trivial⟩
  · exact ⟨rfl, rfl, by decide, rfl, rfl, by decide, rfl, rfl, by decide, rfl, rfl, by decide,
      trivial⟩

/-- What timers and interrupts leave alone, they leave alone in a block. -/
theorem putBlock_keeps {β : Type} (g : NDS κ → β) (htimer : ∀ tid x m, g (m.setTimer tid x) = g m)
    (hirq : ∀ cpu i m, g (setIRQ components cpu i m) = g m) (tids : List (Fin 8))
    (cs : List Counting) : g (putBlock components tids cs n) = g n := by
  induction tids generalizing cs n with
  | nil => rfl
  | cons tid tids ih =>
    cases cs with
    | nil => rfl
    | cons c cs =>
      rw [putBlock_cons, ih, putTimer]
      split_ifs
      · rw [hirq, htimer]
      · rw [htimer]

/-- What commutes with timers and interrupts commutes with a block. -/
theorem putBlock_comm (f : NDS κ → NDS κ) (htimer : ∀ tid x m,
    f (m.setTimer tid x) = (f m).setTimer tid x)
    (hirq : ∀ cpu i m, f (setIRQ components cpu i m) = setIRQ components cpu i (f m))
    (tids : List (Fin 8)) (cs : List Counting) :
    f (putBlock components tids cs n) = putBlock components tids cs (f n) := by
  induction tids generalizing cs n with
  | nil => rfl
  | cons tid tids ih =>
    cases cs with
    | nil => rfl
    | cons c cs =>
      rw [putBlock_cons, ih, putBlock_cons]
      congr 1
      dsimp only [putTimer]
      split_ifs
      · rw [hirq, htimer]
      · rw [htimer]

/-- The timers of a processor, none of which has raised its interrupt. -/
def counting (cpu : Fin 2) (n : NDS κ) : List Counting :=
  (timersOf cpu).map fun tid => ⟨n.timers.get tid, false⟩

/-- The timers as they are, put back. -/
theorem putBlock_counting (cpu : Fin 2) (n : NDS κ) :
    putBlock components (timersOf cpu) (n.counting cpu) n = n := by
  rw [counting]
  induction timersOf cpu with
  | nil => rfl
  | cons tid tids ih =>
    have hput : putTimer components tid ⟨n.timers.get tid, false⟩ n = n := setTimer_self tid
    rw [List.map_cons, putBlock_cons, hput]
    exact ih

/-- The time of a processor is set. -/
def atTime (cpu : Fin 2) (t : UInt64) (n : NDS κ) : NDS κ :=
  if cpu = 0 then { n with arm9Timestamp := t } else { n with arm7Timestamp := t }

variable (arm9ClockShift : UInt64)

/-- A time of a processor in cycles of the system. -/
def systemTime (cpu : Fin 2) (t : UInt64) : UInt64 := if cpu = 0 then t >>> arm9ClockShift else t

/-- The cycles from one time to another, as `RunTimers` computes them. -/
def cyclesTo (t u : UInt64) : Int32 := (u - t).toUInt32.toInt32

/-- Running the timers up to a cycle does not look at the interrupts. -/
theorem advanceTimers_setIRQ (cpu c : Fin 2) (cycles : Int32) (i : UInt32) (n : NDS κ) :
    (setIRQ components c i n).advanceTimers cpu cycles =
      setIRQ components c i (n.advanceTimers cpu cycles) := by
  simp only [setIRQ, apply_ite (advanceTimers cpu cycles)]
  rfl

/-- Nor does setting the clock. -/
theorem atTime_setIRQ (cpu c : Fin 2) (t : UInt64) (i : UInt32) (n : NDS κ) :
    (setIRQ components c i n).atTime cpu t = setIRQ components c i (n.atTime cpu t) := by
  obtain rfl | rfl : cpu = 0 ∨ cpu = 1 := by omega
  · simp only [setIRQ, apply_ite (atTime 0 t)]
    rfl
  · simp only [setIRQ, apply_ite (atTime 1 t)]
    rfl

/-- The timers of a processor are run to its time. -/
theorem runTimers_putBlock (cpu : Fin 2) (n : NDS κ) {cs : List Counting}
    (hmask : List.Forall₂ (Masked (n.timerCheckMask.get cpu)) (timersOf cpu) cs) :
    runTimers components arm9ClockShift cpu (putBlock components (timersOf cpu) cs n) =
      let cycles := cyclesTo (n.timerTimestamp.get cpu) (cpuTimestamp arm9ClockShift cpu n)
      putBlock components (timersOf cpu) (runBlock cycles.toUInt32 cs)
        (n.advanceTimers cpu cycles) := by
  have hchecked : (putBlock components (timersOf cpu) cs n).timerCheckMask = n.timerCheckMask :=
    putBlock_keeps components (fun m => m.timerCheckMask) (fun _ _ _ => rfl)
      (fun _ _ _ => by dsimp only [setIRQ]; split_ifs <;> rfl) _ _
  have hrunTo : (putBlock components (timersOf cpu) cs n).timerTimestamp = n.timerTimestamp :=
    putBlock_keeps components (fun m => m.timerTimestamp) (fun _ _ _ => rfl)
      (fun _ _ _ => by dsimp only [setIRQ]; split_ifs <;> rfl) _ _
  have htime : cpuTimestamp arm9ClockShift cpu (putBlock components (timersOf cpu) cs n) =
      cpuTimestamp arm9ClockShift cpu n :=
    putBlock_keeps components (cpuTimestamp arm9ClockShift cpu) (fun _ _ _ => rfl)
      (fun _ _ _ => by dsimp only [setIRQ]; split_ifs <;> rfl) _ _
  rw [runTimers, hchecked, htime, hrunTo,
    foldl_runTimer_putBlock components (block_timersOf cpu) _ _ hmask]
  exact putBlock_comm components (advanceTimers cpu _) (fun _ _ _ => rfl)
    (fun c i m => advanceTimers_setIRQ components cpu c _ i m) _ _

/-- `cycles` that do not go beyond the 32 bits that the code has for them. -/
theorem cyclesTo_spec {t u : UInt64} (hle : t ≤ u) (hroom : u.toNat - t.toNat < 63 * 2 ^ 16) :
    (cyclesTo t u).toUInt32.toNat = u.toNat - t.toNat ∧
      t + (cyclesTo t u).toInt64.toUInt64 = u := by
  have hsub : (u - t).toNat = u.toNat - t.toNat := UInt64.toNat_sub_of_le _ _ hle
  have hcycles : (cyclesTo t u).toUInt32.toNat = u.toNat - t.toNat := by
    rw [cyclesTo, UInt32.toUInt32_toInt32, UInt64.toNat_toUInt32, hsub]
    exact Nat.mod_eq_of_lt (by omega)
  refine ⟨hcycles, ?_⟩
  have hpositive : (u - t).toUInt32.toBitVec.msb = false := by
    rw [BitVec.msb_eq_false_iff_two_mul_lt]
    change 2 * (cyclesTo t u).toUInt32.toNat < 2 ^ 32
    omega
  have hextended : (cyclesTo t u).toInt64.toUInt64 = u - t := by
    rw [← UInt64.toNat_inj, hsub, ← hcycles]
    change ((u - t).toUInt32.toBitVec.signExtend 64).toNat = _
    rw [BitVec.signExtend_eq_setWidth_of_msb_false hpositive, BitVec.toNat_setWidth]
    exact Nat.mod_eq_of_lt (by
      have := (u - t).toUInt32.toBitVec.isLt
      omega)
  rw [hextended, UInt64.add_comm, UInt64.sub_add_cancel]

/-! ### What timers always are -/

/-- What a timer always is: the code's mask has its bit where it counts cycles, and its counter is
within 26 bits. -/
structure GoodTimer (mask : UInt8) (tid : Fin 8) (t : Timer) : Prop where
  masked : mask &&& timerBit tid ≠ 0 ↔ t.Counts
  counter_lt : t.counter.toNat < 2 ^ 26
  cycleShift_le : t.cycleShift.toNat ≤ 10

/-- The timers of a console. -/
def TimersGood (n : NDS κ) : Prop :=
  ∀ tid : Fin 8, GoodTimer (n.timerCheckMask.get (timerCPU tid)) tid (n.timers.get tid)

section Good

variable {mask : UInt8} {c : Counting} {cs : List Counting} {t : Timer}

/-- A timer with another counter of 26 bits. -/
theorem GoodTimer.withCounter (h : GoodTimer mask tid t) {counter : UInt32}
    (hcounter : counter.toNat < 2 ^ 26) : GoodTimer mask tid { t with counter := counter } where
  masked := by
    rw [Timer.Counts]
    exact h.masked
  counter_lt := hcounter
  cycleShift_le := h.cycleShift_le

/-- A cycle leaves a timer good. -/
theorem GoodTimer.tick (h : GoodTimer mask tid c.timer) : GoodTimer mask tid c.tick.1.timer := by
  dsimp only [Counting.tick]
  split_ifs with hup hlow
  · exact h.withCounter ((shiftRight_eq_zero_iff _).mp hlow)
  · apply h.withCounter
    rw [toNat_reload]
    exact c.timer.reload_lt
  · exact h

/-- Some cycles leave a timer good. -/
theorem GoodTimer.run (h : GoodTimer mask tid c.timer) (a : UInt32) :
    GoodTimer mask tid (c.run a).timer := by
  apply h.withCounter
  have hcounter := c.toNat_counter_run a
  rw [Counting.run] at hcounter
  rw [hcounter]
  exact settle_snd_lt c.timer.reload_lt _

/-- Some cycles leave the timers of a block good. -/
theorem good_runBlock (h : List.Forall₂ (fun tid c => GoodTimer mask tid c.timer) tids cs)
    (a : UInt32) :
    List.Forall₂ (fun tid c => GoodTimer mask tid c.timer) tids (runBlock a cs) := by
  induction h with
  | nil => exact List.Forall₂.nil
  | cons hc hcs ih =>
    rw [runBlock]
    split_ifs
    · exact List.Forall₂.cons (hc.run a) (forall₂_ticks ih (fun _ _ hgood => hgood.tick) _)
    · exact List.Forall₂.cons hc ih

/-- A counter has room for fewer cycles than 63 times its 16 bits. -/
theorem GoodTimer.hasRoom (h : GoodTimer mask tid t) {a : UInt32} (ha : a.toNat < 63 * 2 ^ 16) :
    t.HasRoom a := by
  have hshift := h.cycleShift_le
  have hcounter := h.counter_lt
  have hpow : 2 ^ t.cycleShift.toNat ≤ 2 ^ 10 := Nat.pow_le_pow_right (by decide) hshift
  have hcycles : a.toNat * 2 ^ t.cycleShift.toNat ≤ a.toNat * 2 ^ 10 :=
    Nat.mul_le_mul (Nat.le_refl _) hpow
  refine ⟨by omega, ?_⟩
  omega

/-- The timers of a block are in the console. -/
theorem timers_putBlock_mem (h : Block cpu tids) (hlength : tids.length = cs.length) :
    List.Forall₂ (fun tid c => ((putBlock components tids cs n).timers.get tid) = c.timer) tids
      cs := by
  induction tids generalizing cs n with
  | nil =>
    rw [List.eq_nil_of_length_eq_zero hlength.symm]
    exact List.Forall₂.nil
  | cons tid tids ih =>
    cases cs with
    | nil => contradiction
    | cons c cs =>
      refine List.Forall₂.cons (timers_putBlock_cons components tid c cs tids h.2.2.1) ?_
      exact ih h.2.2.2 (Nat.succ.inj hlength)

/-- The timers of a processor, in a good console. -/
theorem TimersGood.counting (h : n.TimersGood) (cpu : Fin 2) : List.Forall₂
    (fun tid c => GoodTimer (n.timerCheckMask.get cpu) tid c.timer) (timersOf cpu)
      (n.counting cpu) := by
  rw [NDS.counting, List.forall₂_map_right_iff, List.forall₂_same]
  intro tid htid
  have hcpu : timerCPU tid = cpu := of_decide_eq_true (List.mem_filter.mp htid).2
  rw [← hcpu]
  exact h tid

end Good

end DSEmu.NDS

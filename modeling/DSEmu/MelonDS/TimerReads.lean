import DSEmu.MelonDS.TimerRuns

/-!
# Programs that look at timers

The code runs the timers of a processor whenever the program reads one of them, and after each piece
of the program. `TimersReachable` is every console that a reset, the program's accesses to the
timers, and the rest of the emulation lead to. On such a console it makes no difference for anything
how often the timers have been run on the way to a time (`timers_run_in_pieces`), and running them
leaves a timer where its cycles say, with its interrupt raised if it has gone past the end
(`timer_after`).
-/

namespace DSEmu.NDS

open scoped Indexed

variable {κ : Type} (components : Components κ) (arm9ClockShift : UInt64) {cpu : Fin 2} {n : NDS κ}
  {t u : UInt64}

/-- The timers in a `Reset`. -/
def resetTimers (n : NDS κ) : NDS κ :=
  { n with
    timers := .replicate 8 {}
    timerCheckMask := .replicate 2 0
    timerTimestamp := .replicate 2 0 }

/-- The consoles that the program's accesses to the timers and the rest of the emulation lead to. -/
inductive TimersReachable : NDS κ → Prop where
  | reset (n : NDS κ) : TimersReachable n.resetTimers
  | run (n : NDS κ) (cpu : Fin 2) :
      TimersReachable n → TimersReachable (runTimers components arm9ClockShift cpu n)
  | read (n : NDS κ) (tid : Fin 8) :
      TimersReachable n → TimersReachable (timerGetCounter components arm9ClockShift tid n).2
  | start (n : NDS κ) (tid : Fin 8) (cnt : UInt16) :
      TimersReachable n → TimersReachable (timerStart components arm9ClockShift tid cnt n)
  | reload (n : NDS κ) (tid : Fin 8) (val : UInt16) :
      TimersReachable n → TimersReachable (timerReload tid val n)
  /-- Anything else in the console changes, the times too. -/
  | elsewhere (n n' : NDS κ) : n'.timers = n.timers → n'.timerCheckMask = n.timerCheckMask →
      TimersReachable n → TimersReachable n'

/-! ### The timers stay good -/

/-- The timers are good from a reset on. -/
theorem timersGood_resetTimers (n : NDS κ) : n.resetTimers.TimersGood := by
  intro tid
  have htimer : n.resetTimers.timers.get tid = {} := Vector.getElem_replicate _
  have hmask : n.resetTimers.timerCheckMask.get (timerCPU tid) = 0 := Vector.getElem_replicate _
  rw [htimer, hmask]
  refine ⟨⟨fun h => absurd UInt8.zero_and h, fun h => absurd h (by decide)⟩, by decide, by decide⟩

/-- A processor's timers are run, wherever its time is. -/
theorem runTimers_eq (h : n.TimersGood) (cpu : Fin 2) :
    runTimers components arm9ClockShift cpu n =
      let cycles := cyclesTo (n.timerTimestamp.get cpu) (cpuTimestamp arm9ClockShift cpu n)
      putBlock components (timersOf cpu) (runBlock cycles.toUInt32 (n.counting cpu))
        (n.advanceTimers cpu cycles) := by
  have hmasked : List.Forall₂ (Masked (n.timerCheckMask.get cpu)) (timersOf cpu) (n.counting cpu) :=
    (h.counting cpu).imp fun _ _ hgood => hgood.masked
  have hput := runTimers_putBlock components arm9ClockShift cpu n hmasked
  rwa [putBlock_counting] at hput

/-- The timers of a processor. -/
theorem mem_timersOf {tid : Fin 8} : tid ∈ timersOf cpu ↔ timerCPU tid = cpu := by
  rw [timersOf, List.mem_filter, decide_eq_true_eq]
  exact and_iff_right (List.mem_finRange tid)

/-- What two lists say together of every element of the first. -/
theorem forall_mem_of_forall₂ {α β : Type} {R S : α → β → Prop} {P : α → Prop} {as : List α}
    {bs : List β} (hr : List.Forall₂ R as bs) (hs : List.Forall₂ S as bs)
    (himp : ∀ a b, R a b → S a b → P a) : ∀ a ∈ as, P a := by
  induction hr with
  | nil => exact fun a ha => absurd ha List.not_mem_nil
  | cons hr hrs ih =>
    cases hs with
    | cons hs hss => exact List.forall_mem_cons.mpr ⟨himp _ _ hr hs, ih hss⟩

/-- A block of good timers in a good console. -/
theorem TimersGood.putBlock (h : n.TimersGood) {cs : List Counting} (hcs : List.Forall₂
      (fun tid c => GoodTimer (n.timerCheckMask.get cpu) tid c.timer) (timersOf cpu) cs) :
    (putBlock components (timersOf cpu) cs n).TimersGood := by
  have hmask : (NDS.putBlock components (timersOf cpu) cs n).timerCheckMask = n.timerCheckMask :=
    putBlock_keeps components (fun m => m.timerCheckMask) (fun _ _ _ => rfl)
      (fun _ _ _ => by dsimp only [setIRQ]; split_ifs <;> rfl) _ _
  have htimers := timers_putBlock_mem components (n := n) (block_timersOf cpu) hcs.length_eq
  have hblock : ∀ tid ∈ timersOf cpu, GoodTimer (n.timerCheckMask.get cpu) tid
      ((NDS.putBlock components (timersOf cpu) cs n).timers.get tid) :=
    forall_mem_of_forall₂ htimers hcs fun tid c htimer hgood => htimer.symm ▸ hgood
  intro tid
  rw [hmask]
  by_cases hcpu : timerCPU tid = cpu
  · subst hcpu
    exact hblock tid (mem_timersOf.mpr rfl)
  · rw [timers_putBlock components tid cs _ (mt mem_timersOf.mp hcpu)]
    exact h tid

/-- `RunTimers` leaves the timers good. -/
theorem TimersGood.runTimers (h : n.TimersGood) (cpu : Fin 2) :
    (NDS.runTimers components arm9ClockShift cpu n).TimersGood := by
  rw [runTimers_eq components arm9ClockShift h]
  exact TimersGood.putBlock components (n := n.advanceTimers cpu _) h
    (good_runBlock (h.counting cpu) _)

/-- A prescaler is one of the four. -/
theorem cycleShift_start_le (cnt : UInt16) : (10 - timerPrescaler cnt).toNat ≤ 10 := by
  rw [timerPrescaler]
  split_ifs <;> decide

/-- The bits of two timers of a processor are different. -/
theorem timerBit_and_of_ne {t u : Fin 8} (h : t ≠ u) (hcpu : timerCPU t = timerCPU u) :
    timerBit t &&& timerBit u = 0 := by
  revert t u
  decide

/-- A timer has a bit in the mask. -/
theorem timerBit_and_self (t : Fin 8) : timerBit t &&& timerBit t ≠ 0 := by
  revert t
  decide

/-- The mask of one processor. -/
theorem getElem_fin_congr (masks : Vector UInt8 2) {a b : Fin 2} (h : a = b) :
    masks.get a = masks.get b := by
  subst h
  rfl

/-- Another timer, and another bit of the mask. -/
theorem TimersGood.setTimer (h : n.TimersGood) {tid : Fin 8} {mask : UInt8} {timer : Timer}
    (htimer : GoodTimer mask tid timer)
    (hmask : ∀ t, t ≠ tid → timerCPU t = timerCPU tid →
      mask &&& timerBit t = n.timerCheckMask.get (timerCPU tid) &&& timerBit t) :
    TimersGood { n.setTimer tid timer with
      timerCheckMask := n.timerCheckMask.put (timerCPU tid) mask } := by
  intro t
  by_cases hsame : t = tid
  · subst hsame
    have hnew : (n.timerCheckMask.put (timerCPU t) mask).get (timerCPU t) = mask :=
      Vector.get_put_self _ _ _
    have htimers : (n.timers.put t timer).get t = timer := Vector.get_put_self _ _ _
    change GoodTimer ((n.timerCheckMask.put (timerCPU t) mask).get (timerCPU t)) t
      ((n.timers.put t timer).get t)
    rw [hnew, htimers]
    exact htimer
  · have htimers : (n.timers.put tid timer).get t = n.timers.get t :=
      Vector.get_put_of_ne (Ne.symm hsame) _
    change GoodTimer ((n.timerCheckMask.put (timerCPU tid) mask).get (timerCPU t)) t
      ((n.timers.put tid timer).get t)
    rw [htimers]
    by_cases hcpu : timerCPU t = timerCPU tid
    · have hget (masks : Vector UInt8 2) : masks.get (timerCPU t) = masks.get (timerCPU tid) :=
        getElem_fin_congr masks hcpu
      have hnew : (n.timerCheckMask.put (timerCPU tid) mask).get (timerCPU tid) = mask :=
        Vector.get_put_self _ _ _
      have hgood := h t
      rw [hget] at hgood
      rw [hget, hnew]
      refine ⟨?_, hgood.counter_lt, hgood.cycleShift_le⟩
      rw [hmask t hsame hcpu]
      exact hgood.masked
    · have hold : ((n.timerCheckMask.put (timerCPU tid) mask).get (timerCPU t)) =
          (n.timerCheckMask.get (timerCPU t)) :=
        Vector.get_put_of_ne (Ne.symm hcpu) _
      rw [hold]
      exact h t

/-- The bit of a timer that is started or stopped. -/
theorem startMask_spec (mask : UInt8) (tid : Fin 8) (cnt : UInt16) :
    let mask' := if cnt &&& 0x84 = 0x80 then mask ||| timerBit tid else mask &&& ~~~timerBit tid
    (mask' &&& timerBit tid ≠ 0 ↔ cnt &&& 0x84 = 0x80) ∧
      ∀ t, t ≠ tid → timerCPU t = timerCPU tid → mask' &&& timerBit t = mask &&& timerBit t := by
  intro mask'
  by_cases hcounts : cnt &&& 0x84 = 0x80
  · have hmask : mask' = mask ||| timerBit tid := if_pos hcounts
    rw [hmask]
    refine ⟨iff_of_true (UInt8.or_and_self_ne_zero (timerBit_and_self tid)) hcounts, ?_⟩
    intro t hne hcpu
    exact UInt8.or_and_of_and_eq_zero (timerBit_and_of_ne hne.symm hcpu.symm)
  · have hmask : mask' = mask &&& ~~~timerBit tid := if_neg hcounts
    rw [hmask]
    refine ⟨iff_of_false (not_not.mpr (UInt8.and_not_and_self mask _)) hcounts, ?_⟩
    intro t hne hcpu
    exact UInt8.and_not_and (timerBit_and_of_ne hne.symm hcpu.symm)

/-- A write to the control register of a timer leaves the timers good. -/
theorem TimersGood.timerStart (h : n.TimersGood) (tid : Fin 8) (cnt : UInt16) :
    (NDS.timerStart components arm9ClockShift tid cnt n).TimersGood := by
  have hrun := h.runTimers components arm9ClockShift (timerCPU tid)
  rw [NDS.timerStart]
  generalize NDS.runTimers components arm9ClockShift (timerCPU tid) n = m at hrun ⊢
  obtain ⟨hmasked, hothers⟩ := startMask_spec (m.timerCheckMask.get (timerCPU tid)) tid cnt
  have hcounter (curstart newstart : UInt16) : GoodTimer
      (if cnt &&& 0x84 = 0x80 then (m.timerCheckMask.get (timerCPU tid)) ||| timerBit tid
        else (m.timerCheckMask.get (timerCPU tid)) &&& ~~~timerBit tid) tid
      (if curstart = 0 ∧ newstart ≠ 0 then
        { (m.timers.get tid) with
          cnt := cnt, cycleShift := 10 - timerPrescaler cnt
          counter := (m.timers.get tid).reload.toUInt32 <<< 10 }
        else { (m.timers.get tid) with cnt := cnt, cycleShift := 10 - timerPrescaler cnt }) := by
    by_cases hstart : curstart = 0 ∧ newstart ≠ 0
    · rw [if_pos hstart]
      refine ⟨hmasked, ?_, cycleShift_start_le cnt⟩
      rw [toNat_reload]
      exact (m.timers.get tid).reload_lt
    · rw [if_neg hstart]
      exact ⟨hmasked, (hrun tid).counter_lt, cycleShift_start_le cnt⟩
  exact TimersGood.setTimer hrun (hcounter _ _) hothers

/-- A write to the reload value leaves the timers good. -/
theorem TimersGood.timerReload (h : n.TimersGood) (tid : Fin 8) (val : UInt16) :
    (NDS.timerReload tid val n).TimersGood := by
  intro t
  by_cases hsame : t = tid
  · subst hsame
    have htimers : ((n.timers.put t { (n.timers.get t) with reload := val }).get t) =
        { (n.timers.get t) with reload := val } := Vector.get_put_self _ _ _
    change GoodTimer _ t ((n.timers.put t { (n.timers.get t) with reload := val }).get t)
    rw [htimers]
    exact ⟨(h t).masked, (h t).counter_lt, (h t).cycleShift_le⟩
  · have htimers : (n.timers.put tid { (n.timers.get tid) with reload := val }).get t =
      n.timers.get t :=
      Vector.get_put_of_ne (Ne.symm hsame) _
    change GoodTimer _ t ((n.timers.put tid { (n.timers.get tid) with reload := val }).get t)
    rw [htimers]
    exact h t

/-- The timers are good in every console that is reached. -/
theorem timersGood_of_reachable (h : TimersReachable components arm9ClockShift n) :
    n.TimersGood := by
  induction h with
  | reset n => exact timersGood_resetTimers n
  | run n cpu _ ih => exact ih.runTimers components arm9ClockShift cpu
  | read n tid _ ih => exact ih.runTimers components arm9ClockShift (timerCPU tid)
  | start n tid cnt _ ih => exact ih.timerStart components arm9ClockShift tid cnt
  | reload n tid val _ ih => exact ih.timerReload tid val
  | elsewhere n n' htimers hmask _ ih =>
    intro tid
    rw [htimers, hmask]
    exact ih tid

/-! ### Running them whenever -/

/-- The clocks do not matter to the timers. -/
theorem TimersGood.atTime (h : n.TimersGood) (cpu : Fin 2) (t : UInt64) :
    (n.atTime cpu t).TimersGood := by
  rw [NDS.atTime]
  split_ifs <;> exact h

/-- Setting a clock leaves the time to which the timers have been run. -/
@[simp] theorem timerTimestamp_atTime (cpu : Fin 2) (t : UInt64) (n : NDS κ) :
    (n.atTime cpu t).timerTimestamp = n.timerTimestamp := by
  rw [atTime]
  split_ifs <;> rfl

/-- The time of the processor, from its clock. -/
theorem cpuTimestamp_atTime (cpu : Fin 2) (t : UInt64) (n : NDS κ) :
    cpuTimestamp arm9ClockShift cpu (n.atTime cpu t) = systemTime arm9ClockShift cpu t := by
  rw [cpuTimestamp, atTime, systemTime]
  split_ifs <;> rfl

/-- A time of a processor to which its timers can be run: not before the one to which they have
been, and with so few cycles in between that the code can add them to a counter. -/
def WithinReach (cpu : Fin 2) (n : NDS κ) (t : UInt64) : Prop :=
  n.timerTimestamp.get cpu ≤ systemTime arm9ClockShift cpu t ∧
    (systemTime arm9ClockShift cpu t).toNat - (n.timerTimestamp.get cpu).toNat < 63 * 2 ^ 16

/-- A time of a processor, with its timers run to it. -/
def runTo (cpu : Fin 2) (t : UInt64) (n : NDS κ) : NDS κ :=
  runTimers components arm9ClockShift cpu (n.atTime cpu t)

/-- The time to which the timers of a processor have been run is set. -/
def setTimerTimestamp (cpu : Fin 2) (t : UInt64) (n : NDS κ) : NDS κ :=
  { n with timerTimestamp := n.timerTimestamp.put cpu t }

/-- A console whose time and whose timers' time have gone on. -/
def wound (cpu : Fin 2) (t : UInt64) (n : NDS κ) : NDS κ :=
  (n.atTime cpu t).setTimerTimestamp cpu (systemTime arm9ClockShift cpu t)

/-- Of two times that are set the second one counts. -/
theorem setTimerTimestamp_setTimerTimestamp (cpu : Fin 2) (t u : UInt64) (n : NDS κ) :
    (n.setTimerTimestamp cpu t).setTimerTimestamp cpu u = n.setTimerTimestamp cpu u := by
  simp only [setTimerTimestamp, Vector.put_put]

/-- The clock and the time of the timers are set independently. -/
theorem atTime_setTimerTimestamp (cpu : Fin 2) (t u : UInt64) (n : NDS κ) :
    (n.setTimerTimestamp cpu t).atTime cpu u = (n.atTime cpu u).setTimerTimestamp cpu t := by
  rw [atTime, atTime]
  split_ifs <;> rfl

/-- Of two clocks that are set the second one counts. -/
theorem atTime_atTime (cpu : Fin 2) (t u : UInt64) (n : NDS κ) :
    (n.atTime cpu t).atTime cpu u = n.atTime cpu u := by
  rw [atTime, atTime, atTime]
  split_ifs <;> rfl

/-- Of two times to which a console is wound the second one counts. -/
theorem wound_wound (cpu : Fin 2) (t u : UInt64) (n : NDS κ) :
    wound arm9ClockShift cpu u (wound arm9ClockShift cpu t n) = wound arm9ClockShift cpu u n := by
  rw [wound, wound, wound, atTime_setTimerTimestamp, setTimerTimestamp_setTimerTimestamp,
    atTime_atTime]

/-- The time to which a console is wound. -/
theorem timerTimestamp_wound (cpu : Fin 2) (t : UInt64) (n : NDS κ) :
    (wound arm9ClockShift cpu t n).timerTimestamp.get cpu = systemTime arm9ClockShift cpu t :=
  Vector.get_put_self _ _ _

/-- Winding leaves the mask of the timers. -/
theorem timerCheckMask_wound (cpu : Fin 2) (t : UInt64) (n : NDS κ) :
    (wound arm9ClockShift cpu t n).timerCheckMask = n.timerCheckMask := by
  rw [wound, atTime]
  split_ifs <;> rfl

/-- The cycles of a run take the timers to its time. -/
theorem advanceTimers_atTime (h : WithinReach arm9ClockShift cpu n t) :
    (n.atTime cpu t).advanceTimers cpu
        (cyclesTo (n.timerTimestamp.get cpu) (systemTime arm9ClockShift cpu t)) =
      wound arm9ClockShift cpu t n := by
  obtain ⟨-, hsum⟩ := cyclesTo_spec h.1 h.2
  rw [advanceTimers, timerTimestamp_atTime, hsum, wound, setTimerTimestamp, timerTimestamp_atTime]

/-- A block of timers, run to a time that is within reach. -/
theorem runTo_putBlock {cs : List Counting} (hcs : List.Forall₂
      (fun tid c => GoodTimer (n.timerCheckMask.get cpu) tid c.timer) (timersOf cpu) cs)
    (h : WithinReach arm9ClockShift cpu n t) :
    runTo components arm9ClockShift cpu t (putBlock components (timersOf cpu) cs n) =
      putBlock components (timersOf cpu)
        (runBlock
          (cyclesTo (n.timerTimestamp.get cpu) (systemTime arm9ClockShift cpu t)).toUInt32 cs)
        (wound arm9ClockShift cpu t n) := by
  have hat : (putBlock components (timersOf cpu) cs n).atTime cpu t =
      putBlock components (timersOf cpu) cs (n.atTime cpu t) := by
    apply putBlock_comm components (atTime cpu t)
    · intro tid x m
      rw [atTime, atTime]
      split_ifs <;> rfl
    · intro c i m
      exact atTime_setIRQ components cpu c t i m
  have hmask : (n.atTime cpu t).timerCheckMask = n.timerCheckMask := by
    rw [atTime]
    split_ifs <;> rfl
  have hmasked : List.Forall₂ (Masked ((n.atTime cpu t).timerCheckMask.get cpu))
    (timersOf cpu) cs := by
    rw [hmask]
    exact hcs.imp fun _ _ hgood => hgood.masked
  rw [runTo, hat, runTimers_putBlock components arm9ClockShift cpu _ hmasked, cpuTimestamp_atTime,
    timerTimestamp_atTime]
  dsimp only
  rw [advanceTimers_atTime arm9ClockShift h]

/-- A run, on the counters alone: the block of the timers runs for the cycles in between. -/
theorem runTo_eq (hn : n.TimersGood) (h : WithinReach arm9ClockShift cpu n t) :
    runTo components arm9ClockShift cpu t n =
      putBlock components (timersOf cpu)
        (runBlock
          (cyclesTo (n.timerTimestamp.get cpu) (systemTime arm9ClockShift cpu t)).toUInt32
          (n.counting cpu))
        (wound arm9ClockShift cpu t n) := by
  have hput := runTo_putBlock components arm9ClockShift (hn.counting cpu) h
  rwa [putBlock_counting] at hput

/-- The timers are run to a time, and then to a later one. -/
theorem runTo_runTo (hn : n.TimersGood) (ht : WithinReach arm9ClockShift cpu n t)
    (hu : WithinReach arm9ClockShift cpu n u)
    (htu : systemTime arm9ClockShift cpu t ≤ systemTime arm9ClockShift cpu u) :
    runTo components arm9ClockShift cpu u (runTo components arm9ClockShift cpu t n) =
      runTo components arm9ClockShift cpu u n := by
  obtain ⟨hstart, hroom⟩ := hu
  have htu' := UInt64.le_iff_toNat_le.mp htu
  have hstart' := UInt64.le_iff_toNat_le.mp ht.1
  have hreach : WithinReach arm9ClockShift cpu (wound arm9ClockShift cpu t n) u := by
    rw [WithinReach, timerTimestamp_wound]
    exact ⟨htu, by omega⟩
  have hgood : List.Forall₂
      (fun tid c => GoodTimer ((wound arm9ClockShift cpu t n).timerCheckMask.get cpu) tid c.timer)
      (timersOf cpu) (runBlock
        (cyclesTo (n.timerTimestamp.get cpu) (systemTime arm9ClockShift cpu t)).toUInt32
        (n.counting cpu)) := by
    rw [timerCheckMask_wound]
    exact good_runBlock (hn.counting cpu) _
  rw [runTo_eq components arm9ClockShift hn ht,
    runTo_putBlock components arm9ClockShift hgood hreach,
    wound_wound, timerTimestamp_wound, runTo_eq components arm9ClockShift hn ⟨hstart, hroom⟩]
  -- the cycles of the two pieces
  obtain ⟨hfirst, -⟩ := cyclesTo_spec ht.1 ht.2
  obtain ⟨hsecond, -⟩ := cyclesTo_spec htu (by omega)
  obtain ⟨hboth, -⟩ := cyclesTo_spec hstart hroom
  have hadd : ((cyclesTo (n.timerTimestamp.get cpu) (systemTime arm9ClockShift cpu t)).toUInt32 +
        (cyclesTo (systemTime arm9ClockShift cpu t)
          (systemTime arm9ClockShift cpu u)).toUInt32).toNat =
      (cyclesTo (n.timerTimestamp.get cpu) (systemTime arm9ClockShift cpu t)).toUInt32.toNat +
        (cyclesTo (systemTime arm9ClockShift cpu t)
          (systemTime arm9ClockShift cpu u)).toUInt32.toNat := by
    rw [UInt32.toNat_add, hfirst, hsecond]
    exact Nat.mod_eq_of_lt (by omega)
  have hsum : (cyclesTo (n.timerTimestamp.get cpu) (systemTime arm9ClockShift cpu t)).toUInt32 +
      (cyclesTo (systemTime arm9ClockShift cpu t) (systemTime arm9ClockShift cpu u)).toUInt32 =
      (cyclesTo (n.timerTimestamp.get cpu) (systemTime arm9ClockShift cpu u)).toUInt32 := by
    rw [← UInt32.toNat_inj, hadd, hfirst, hsecond, hboth]
    omega
  have hspace : ∀ c ∈ n.counting cpu, c.timer.Counts → c.timer.HasRoom
      ((cyclesTo (n.timerTimestamp.get cpu) (systemTime arm9ClockShift cpu t)).toUInt32 +
        (cyclesTo (systemTime arm9ClockShift cpu t)
          (systemTime arm9ClockShift cpu u)).toUInt32) := by
    intro c hc _
    obtain ⟨tid, -, rfl⟩ := List.mem_map.mp hc
    apply (hn tid).hasRoom
    rw [hsum, hboth]
    exact hroom
  rw [← hsum, runBlock_add hadd hspace]

/-- Behind a run the timers have been run to its time. -/
theorem timerTimestamp_runTo (hn : n.TimersGood) (h : WithinReach arm9ClockShift cpu n t) :
    ((runTo components arm9ClockShift cpu t n).timerTimestamp.get cpu) =
      systemTime arm9ClockShift cpu t := by
  have hkeeps (cs : List Counting) (m : NDS κ) :
      (putBlock components (timersOf cpu) cs m).timerTimestamp = m.timerTimestamp :=
    putBlock_keeps components (fun m => m.timerTimestamp) (fun _ _ _ => rfl)
      (fun _ _ _ => by dsimp only [setIRQ]; split_ifs <;> rfl) _ _
  rw [runTo_eq components arm9ClockShift hn h, hkeeps, timerTimestamp_wound]

/-- However often the timers of a processor are run on the way to a time, as when a program reads
them, the console at that time is the one in which they have been run once. -/
theorem timers_run_in_pieces (hn : TimersReachable components arm9ClockShift n) (cpu : Fin 2)
    (ts : List UInt64) (u : UInt64)
    (hsorted : ts.Pairwise fun t t' =>
      systemTime arm9ClockShift cpu t ≤ systemTime arm9ClockShift cpu t')
    (hbetween : ∀ t ∈ ts, (n.timerTimestamp.get cpu) ≤ systemTime arm9ClockShift cpu t ∧
      systemTime arm9ClockShift cpu t ≤ systemTime arm9ClockShift cpu u)
    (hu : WithinReach arm9ClockShift cpu n u) :
    runTo components arm9ClockShift cpu u
        (ts.foldl (fun m t => runTo components arm9ClockShift cpu t m) n) =
      runTo components arm9ClockShift cpu u n := by
  have hgood := timersGood_of_reachable components arm9ClockShift hn
  clear hn
  induction ts generalizing n with
  | nil => rfl
  | cons t ts ih =>
    obtain ⟨hfirst, hsorted⟩ := List.pairwise_cons.mp hsorted
    obtain ⟨⟨hstart, htu⟩, hbetween⟩ := List.forall_mem_cons.mp hbetween
    have htu' := UInt64.le_iff_toNat_le.mp htu
    have hstart' := UInt64.le_iff_toNat_le.mp hstart
    have hroom := hu.2
    have ht : WithinReach arm9ClockShift cpu n t := ⟨hstart, by omega⟩
    have hrun := timerTimestamp_runTo components arm9ClockShift hgood ht
    have hreach : WithinReach arm9ClockShift cpu (runTo components arm9ClockShift cpu t n) u := by
      rw [WithinReach, hrun]
      exact ⟨htu, by omega⟩
    have hrest : ∀ t' ∈ ts, ((runTo components arm9ClockShift cpu t n).timerTimestamp.get cpu) ≤
        systemTime arm9ClockShift cpu t' ∧
        systemTime arm9ClockShift cpu t' ≤ systemTime arm9ClockShift cpu u := by
      rw [hrun]
      exact fun t' ht' => ⟨hfirst t' ht', (hbetween t' ht').2⟩
    rw [List.foldl_cons, ih hsorted hrest hreach
      ((hgood.atTime cpu t).runTimers components arm9ClockShift cpu)]
    exact runTo_runTo components arm9ClockShift hgood ht hu htu

/-- The first timer of the ARM7 counts every cycle, and interrupts. -/
def started : NDS Unit :=
  timerStart noComponents 1 4 0x00C0 (resetTimers { components := () })

/-- The timer that has been started, run in three pieces and in one. -/
theorem timers_run_in_pieces_started :
    runTo noComponents 1 1 70000
        ([100, 66000].foldl (fun m t => runTo noComponents 1 1 t m) started) =
      runTo noComponents 1 1 70000 started := by
  have hreach : TimersReachable noComponents 1 started := .start _ 4 0x00C0 (.reset _)
  have hbetween : ∀ t ∈ ([100, 66000] : List UInt64), (started.timerTimestamp.get 1) ≤
      systemTime 1 1 t ∧ systemTime 1 1 t ≤ systemTime 1 1 70000 := by
    refine List.forall_mem_cons.mpr ⟨⟨by decide, by decide⟩, ?_⟩
    exact List.forall_mem_singleton.mpr ⟨by decide, by decide⟩
  exact timers_run_in_pieces _ 1 hreach 1 [100, 66000] 70000 (by decide) hbetween
    ⟨by decide, by decide⟩

/-! ### Where a timer is then -/

/-- A timer that counts cycles is run for itself. -/
theorem forall₂_runBlock (a : UInt32) (cs : List Counting) :
    List.Forall₂ (fun c d => c.timer.Counts → d = c.run a) cs (runBlock a cs) := by
  induction cs with
  | nil => exact List.Forall₂.nil
  | cons c cs ih =>
    rw [runBlock]
    split_ifs with hcounts
    · refine List.Forall₂.cons (fun _ => rfl) ?_
      refine forall₂_ticks ih (fun c d h hc => ?_) _
      have hd : d = c.run a := h hc
      have hcounts' : d.timer.Counts := by
        rw [hd]
        exact hc
      rw [Counting.tick_of_not_countsUp hcounts'.not_countsUp, hd]
    · exact List.Forall₂.cons (fun h => absurd h hcounts) ih

variable {tid : Fin 8}

/-- The interrupts of two timers of a processor are different. -/
theorem timerIRQ_and_of_ne {t u : Fin 8} (h : t ≠ u) (hcpu : timerCPU t = timerCPU u) :
    (1 : UInt32) <<< timerIRQ t &&& (1 : UInt32) <<< timerIRQ u = 0 := by
  revert t u
  decide

/-- The interrupt of a timer is a bit. -/
theorem timerIRQ_ne_zero (t : Fin 8) : (1 : UInt32) <<< timerIRQ t ≠ 0 := by
  revert t
  decide

/-- The interrupt of a timer waits for its processor. -/
def TimerPending (tid : Fin 8) (n : NDS κ) : Prop := n.Pending (timerCPU tid) (timerIRQ tid)

/-- A timer that is put back raises its interrupt if it has overflowed. -/
theorem pending_putTimer_self (c : Counting) : TimerPending tid (putTimer components tid c n) ↔
    TimerPending tid n ∨ c.raised = true := by
  dsimp only [putTimer]
  split_ifs with hraised
  · exact iff_of_true (pending_setIRQ_self _ _ (timerIRQ_ne_zero tid) _) (Or.inr hraised)
  · rw [or_iff_left hraised]
    rfl

/-- It does not raise that of another timer. -/
theorem pending_putTimer_of_ne {t : Fin 8} (h : t ≠ tid) (hcpu : timerCPU t = timerCPU tid)
    (c : Counting) : TimerPending t (putTimer components tid c n) ↔ TimerPending t n := by
  have hbits := timerIRQ_and_of_ne h.symm hcpu.symm
  dsimp only [putTimer]
  split_ifs
  · rw [TimerPending, hcpu, pending_setIRQ_of_ne _ _ hbits, ← hcpu]
    rfl
  · rfl

/-- A block does not raise the interrupts of timers outside of it. -/
theorem pending_putBlock_of_not_mem {t : Fin 8} {tids : List (Fin 8)} (h : t ∉ tids)
    (hcpu : ∀ tid ∈ tids, timerCPU tid = timerCPU t) (cs : List Counting) :
    TimerPending t (putBlock components tids cs n) ↔ TimerPending t n := by
  induction tids generalizing cs n with
  | nil => exact Iff.rfl
  | cons tid tids ih =>
    obtain ⟨htid, htids⟩ := List.forall_mem_cons.mp hcpu
    cases cs with
    | nil => exact Iff.rfl
    | cons c cs =>
      rw [putBlock_cons, ih (List.not_mem_of_not_mem_cons h) htids,
        pending_putTimer_of_ne components (List.ne_of_not_mem_cons h) htid.symm]

/-- The interrupts of a block are those that were pending and those that it has raised. -/
theorem pending_putBlock {tids : List (Fin 8)} (h : Block cpu tids) {cs : List Counting}
    (hlength : tids.length = cs.length) : List.Forall₂ (fun tid c =>
      TimerPending tid (putBlock components tids cs n) ↔ TimerPending tid n ∨ c.raised = true)
      tids cs := by
  induction tids generalizing cs n with
  | nil =>
    rw [List.eq_nil_of_length_eq_zero hlength.symm]
    exact List.Forall₂.nil
  | cons tid tids ih =>
    obtain ⟨rfl, -, hnot, hblock⟩ := h
    cases cs with
    | nil => contradiction
    | cons c cs =>
      refine List.Forall₂.cons ?_ ?_
      · rw [putBlock_cons, pending_putBlock_of_not_mem components hnot hblock.timerCPU_eq,
          pending_putTimer_self]
      · have hrest := ih (n := putTimer components tid c n) hblock (Nat.succ.inj hlength)
        have hothers : ∀ t ∈ tids, t ≠ tid ∧ timerCPU t = timerCPU tid := fun t ht =>
          ⟨fun heq => hnot (heq ▸ ht), hblock.timerCPU_eq t ht⟩
        refine ((List.forall₂_and_left _ _).mpr ⟨hothers, hrest⟩).imp fun t d ht => ?_
        rw [putBlock_cons, ht.2, pending_putTimer_of_ne components ht.1.1 ht.1.2]

/-- Where a timer of a console is after some cycles to which the code can run it: at the remainder
that the division by its period leaves; and its interrupt waits if it did, or if the timer has gone
past its end and is to interrupt then. -/
theorem timer_after (hn : TimersReachable components arm9ClockShift n) (tid : Fin 8)
    (hcounts : (n.timers.get tid).Counts) (t : UInt64)
    (ht : WithinReach arm9ClockShift (timerCPU tid) n t) :
    let cycles := (systemTime arm9ClockShift (timerCPU tid) t).toNat -
      (n.timerTimestamp.get (timerCPU tid)).toNat
    let ahead := (n.timers.get tid).counter.toNat + cycles * 2 ^ (n.timers.get tid).cycleShift.toNat
    let reload := (n.timers.get tid).reload.toNat * 2 ^ 10
    let after := runTo components arm9ClockShift (timerCPU tid) t n
    (after.timers.get tid).counter.toNat =
        (if ahead < 2 ^ 26 then ahead else reload + (ahead - 2 ^ 26) % (2 ^ 26 - reload)) ∧
      (TimerPending tid after ↔
        TimerPending tid n ∨ 2 ^ 26 ≤ ahead ∧ (n.timers.get tid).interrupts) := by
  intro cycles ahead reload after
  have hgood := timersGood_of_reachable components arm9ClockShift hn
  have hmem : tid ∈ timersOf (timerCPU tid) := mem_timersOf.mpr rfl
  obtain ⟨hcycles, -⟩ := cyclesTo_spec ht.1 ht.2
  generalize hrun : (cyclesTo (n.timerTimestamp.get (timerCPU tid))
    (systemTime arm9ClockShift (timerCPU tid) t)).toUInt32 = a at hcycles
  have hafter : after = putBlock components (timersOf (timerCPU tid))
      (runBlock a (n.counting (timerCPU tid))) (wound arm9ClockShift (timerCPU tid) t n) := by
    rw [← hrun]
    exact runTo_eq components arm9ClockShift hgood ht
  -- what the timer does for itself
  have hsettle : (n.timers.get tid).run a = settle (2 ^ 26) reload ahead := by
    have hroom : (n.timers.get tid).HasRoom a := (hgood tid).hasRoom (hcycles ▸ ht.2)
    rw [Timer.run, hroom.toNat_add, hcycles]
  have hentry := forall₂_runBlock a (n.counting (timerCPU tid))
  have hlength : (timersOf (timerCPU tid)).length =
      (runBlock a (n.counting (timerCPU tid))).length := by
    rw [← hentry.length_eq, counting, List.length_map]
  have hpending := pending_putBlock components (n := wound arm9ClockShift (timerCPU tid) t n)
    (block_timersOf (timerCPU tid)) hlength
  have htimers := timers_putBlock_mem components (n := wound arm9ClockShift (timerCPU tid) t n)
    (block_timersOf (timerCPU tid)) hlength
  rw [← hafter] at hpending htimers
  have hentry : List.Forall₂ (fun u c => (n.timers.get u).Counts →
      c = (⟨n.timers.get u, false⟩ : Counting).run a) (timersOf (timerCPU tid))
      (runBlock a (n.counting (timerCPU tid))) := by
    rwa [counting, List.forall₂_map_left_iff] at hentry
  constructor
  case left =>
    have hcounter : ∀ u ∈ timersOf (timerCPU tid), (n.timers.get u).Counts →
        (after.timers.get u).counter.toNat = ((n.timers.get u).run a).2 := by
      refine forall_mem_of_forall₂ hentry htimers fun u c hc htimer hcounts => ?_
      rw [htimer, hc hcounts, Counting.toNat_counter_run]
    rw [hcounter tid hmem hcounts, hsettle, settle]
    split_ifs <;> rfl
  case right =>
    have hraised : ∀ u ∈ timersOf (timerCPU tid), (n.timers.get u).Counts →
        (TimerPending u after ↔ TimerPending u (wound arm9ClockShift (timerCPU tid) t n) ∨
          0 < ((n.timers.get u).run a).1 ∧ (n.timers.get u).interrupts) := by
      refine forall_mem_of_forall₂ hentry hpending fun u c hc hiff hcounts => ?_
      rw [hiff, hc hcounts, Counting.run, Bool.false_or, Bool.and_eq_true, decide_eq_true_eq,
        decide_eq_true_eq]
    have hwound : TimerPending tid (wound arm9ClockShift (timerCPU tid) t n) ↔
      TimerPending tid n := by
      rw [wound, atTime]
      split_ifs <;> rfl
    have hpast : 0 < (settle (2 ^ 26) reload ahead).1 ↔ 2 ^ 26 ≤ ahead := by
      rw [settle]
      split_ifs with hlt
      · exact iff_of_false (Nat.lt_irrefl 0) (Nat.not_le.mpr hlt)
      · exact iff_of_true (Nat.succ_pos _) (Nat.not_lt.mp hlt)
    rw [hraised tid hmem hcounts, hwound, hsettle, hpast]

/-- The timer that has been started, once it has overflowed. -/
theorem timer_after_started :
    (started.timers.get 4).Counts ∧
      TimerPending 4 (runTo noComponents 1 1 70000 started) := by
  have hreach : TimersReachable noComponents 1 started := .start _ 4 0x00C0 (.reset _)
  have hcounts : (started.timers.get 4).Counts := by decide
  have hafter := timer_after _ 1 hreach 4 hcounts 70000 ⟨by decide, by decide⟩
  exact ⟨hcounts, hafter.2.mpr (Or.inr ⟨by decide, by decide⟩)⟩

end DSEmu.NDS

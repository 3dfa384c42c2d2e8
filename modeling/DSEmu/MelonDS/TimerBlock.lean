import DSEmu.Library.ReloadCounter
import DSEmu.MelonDS.Timers

/-!
# A block of timers

The timers of a processor as a list, each with a note of whether it has raised its interrupt. A
timer passes ticks to the timers behind it, one for each of its overflows, and `ticks` says what
they do. `runBlock` runs a block for some cycles from its first timer to its last.

Ticks from in front do not care whether the timers behind have been run (`ticks_runBlock`), so
running a block in two pieces is running it at once (`runBlock_add`).
-/

namespace DSEmu

/-! ### Ticks and cycles -/

/-- A timer, and whether it has raised its interrupt. -/
@[ext] structure Counting where
  timer : Timer
  raised : Bool

/-- A timer that overflows, and begins at `counter` again. -/
def Counting.overflow (counter : UInt32) (c : Counting) : Counting where
  timer := { c.timer with counter := counter }
  raised := c.raised || decide c.timer.interrupts

/-- A timer when the one before it overflows, and whether it overflows then. -/
def Counting.tick (c : Counting) : Counting × Bool :=
  if ¬ c.timer.countsUp then (c, false)
  else
    let counter := c.timer.counter + ((1 : UInt32) <<< 10)
    if counter >>> (26 : UInt32) = 0 then
      ({ c with timer := { c.timer with counter := counter } }, false)
    else (c.overflow (c.timer.reload.toUInt32 <<< 10), true)

/-- The timers behind a timer that overflows. -/
def tick : List Counting → List Counting
  | [] => []
  | c :: cs => c.tick.1 :: if c.tick.2 then tick cs else cs

/-- The timers behind a timer that has overflowed some times. -/
def ticks (k : ℕ) (cs : List Counting) : List Counting := tick^[k] cs

/-- A timer that counts cycles. -/
def Timer.Counts (t : Timer) : Prop := t.cnt &&& 0x84 = 0x80

instance (t : Timer) : Decidable t.Counts := inferInstanceAs (Decidable (_ = _))

/-- How often a timer overflows in some cycles, and where its counter is then. -/
def Timer.run (cycles : UInt32) (t : Timer) : ℕ × ℕ :=
  settle (2 ^ 26) (t.reload.toNat * 2 ^ 10) (t.counter + (cycles <<< t.cycleShift)).toNat

/-- A timer after some cycles. -/
def Counting.run (cycles : UInt32) (c : Counting) : Counting where
  timer := { c.timer with counter := UInt32.ofNat (c.timer.run cycles).2 }
  raised := c.raised || (decide (0 < (c.timer.run cycles).1) && decide c.timer.interrupts)

/-- A block after some cycles: what a timer passes on comes to the timers behind it. -/
def runBlock (cycles : UInt32) : List Counting → List Counting
  | [] => []
  | c :: cs =>
    if c.timer.Counts then c.run cycles :: ticks (c.timer.run cycles).1 (runBlock cycles cs)
    else c :: runBlock cycles cs

section Blocks

variable {c : Counting} {cs : List Counting} {a b : UInt32} {k l : ℕ}

/-- No cycle. -/
@[simp] theorem ticks_zero (cs : List Counting) : ticks 0 cs = cs := rfl

/-- One more cycle, the last one. -/
theorem ticks_succ (k : ℕ) (cs : List Counting) : ticks (k + 1) cs = tick (ticks k cs) :=
  Function.iterate_succ_apply' tick k cs

/-- One more cycle, the first one. -/
theorem ticks_succ' (k : ℕ) (cs : List Counting) : ticks (k + 1) cs = ticks k (tick cs) :=
  Function.iterate_succ_apply tick k cs

/-- Some cycles after others. -/
theorem ticks_add (k l : ℕ) (cs : List Counting) : ticks (k + l) cs = ticks k (ticks l cs) :=
  Function.iterate_add_apply tick k l cs

/-- A timer that counts cycles does not count overflows. -/
theorem Timer.Counts.not_countsUp {t : Timer} (h : t.Counts) : ¬ t.countsUp := by
  intro hup
  rw [Timer.countsUp, h] at hup
  exact absurd hup (by decide)

/-- A timer that does not count cycles. -/
theorem Counting.tick_of_not_countsUp (h : ¬ c.timer.countsUp) : c.tick = (c, false) := if_pos h

/-- A tick does not change what a timer counts, nor how. -/
theorem Counting.tick_eq (c : Counting) : ∃ counter raised,
    c.tick.1 = ⟨{ c.timer with counter := counter }, raised⟩ := by
  dsimp only [Counting.tick]
  split_ifs
  · exact ⟨_, c.raised, rfl⟩
  · exact ⟨_, _, rfl⟩
  · exact ⟨c.timer.counter, c.raised, rfl⟩

/-- The timers behind do not care whether they have been run when a tick comes. -/
theorem tick_runBlock (a : UInt32) (cs : List Counting) :
    tick (runBlock a cs) = runBlock a (tick cs) := by
  induction cs with
  | nil => rfl
  | cons c cs ih =>
    by_cases hcounts : c.timer.Counts
    · -- the tick is not for this timer
      have hrun : (c.run a).tick = (c.run a, false) :=
        Counting.tick_of_not_countsUp hcounts.not_countsUp
      have hself : c.tick = (c, false) := Counting.tick_of_not_countsUp hcounts.not_countsUp
      rw [runBlock, if_pos hcounts, tick, tick, hrun, hself]
      exact (if_pos hcounts).symm
    · have hkept : ¬ c.tick.1.timer.Counts := by
        obtain ⟨counter, raised, hc⟩ := c.tick_eq
        rw [hc]
        exact hcounts
      rw [runBlock, if_neg hcounts, tick, tick, runBlock, if_neg hkept]
      congr 1
      split_ifs
      · exact ih
      · rfl

/-- Cycles one by one and at once, in either order. -/
theorem ticks_runBlock (k : ℕ) (a : UInt32) (cs : List Counting) :
    ticks k (runBlock a cs) = runBlock a (ticks k cs) := by
  induction k with
  | zero => rfl
  | succ k ih => rw [ticks_succ, ih, tick_runBlock, ← ticks_succ]

/-- What a tick keeps of the timers that it comes to. -/
theorem forall₂_tick {α : Type} {R : α → Counting → Prop} {as : List α}
    (h : List.Forall₂ R as cs) (hkeeps : ∀ a c, R a c → R a c.tick.1) :
    List.Forall₂ R as (tick cs) := by
  induction h with
  | nil => exact List.Forall₂.nil
  | cons hc hcs ih =>
    rw [tick]
    split_ifs
    · exact List.Forall₂.cons (hkeeps _ _ hc) ih
    · exact List.Forall₂.cons (hkeeps _ _ hc) hcs

/-- What a cycle keeps of every timer, some cycles keep. -/
theorem forall₂_ticks {α : Type} {R : α → Counting → Prop} {as : List α}
    (h : List.Forall₂ R as cs) (hkeeps : ∀ a c, R a c → R a c.tick.1) (k : ℕ) :
    List.Forall₂ R as (ticks k cs) := by
  induction k with
  | zero => exact h
  | succ k ih =>
    rw [ticks_succ]
    exact forall₂_tick ih hkeeps

/-- The reload value is below the end of the counter. -/
theorem Timer.reload_lt (t : Timer) : t.reload.toNat * 2 ^ 10 < 2 ^ 26 := by
  have hreload := t.reload.toNat_lt
  omega

/-- The counter after some cycles at once. -/
theorem Counting.toNat_counter_run (a : UInt32) (c : Counting) :
    (c.run a).timer.counter.toNat = (c.timer.run a).2 := by
  have hlt : (c.timer.run a).2 < 2 ^ 26 := settle_snd_lt c.timer.reload_lt _
  apply UInt32.toNat_ofNat_of_lt
  change (c.timer.run a).2 < 2 ^ 32
  omega

/-- A timer has room for some cycles: its counter and they are no more than 32 bits. -/
def Timer.HasRoom (cycles : UInt32) (t : Timer) : Prop :=
  t.cycleShift.toNat < 32 ∧ t.counter.toNat + cycles.toNat * 2 ^ t.cycleShift.toNat < 2 ^ 32

/-- What is added to the counter. -/
theorem Timer.HasRoom.toNat_add {t : Timer} (h : t.HasRoom a) :
    (t.counter + (a <<< t.cycleShift)).toNat =
      t.counter.toNat + a.toNat * 2 ^ t.cycleShift.toNat := by
  obtain ⟨hshift, hroom⟩ := h
  have hterm : (a <<< t.cycleShift).toNat = a.toNat * 2 ^ t.cycleShift.toNat := by
    rw [UInt32.toNat_shiftLeft, Nat.mod_eq_of_lt hshift, Nat.shiftLeft_eq]
    exact Nat.mod_eq_of_lt (by omega)
  rw [UInt32.toNat_add, hterm]
  exact Nat.mod_eq_of_lt hroom

/-- Some cycles, and then some more. -/
theorem Counting.run_add (hab : (a + b).toNat = a.toNat + b.toNat) (h : c.timer.HasRoom (a + b)) :
    c.run (a + b) = (c.run a).run b ∧
      (c.timer.run (a + b)).1 = ((c.run a).timer.run b).1 + (c.timer.run a).1 := by
  have hcounter := c.toNat_counter_run a
  have hsum := h.toNat_add
  rw [hab, Nat.add_mul, ← Nat.add_assoc] at hsum
  have hfits := h.2
  rw [hab, Nat.add_mul] at hfits
  have hfirst : c.timer.HasRoom a := ⟨h.1, by omega⟩
  have hsecond : (c.run a).timer.HasRoom b := by
    refine ⟨h.1, ?_⟩
    rw [hcounter]
    have hle : (c.timer.run a).2 ≤ c.timer.counter.toNat +
      a.toNat * 2 ^ c.timer.cycleShift.toNat := by
      rw [← hfirst.toNat_add]
      exact settle_snd_le c.timer.reload_lt _
    change (c.timer.run a).2 + b.toNat * 2 ^ c.timer.cycleShift.toNat < 2 ^ 32
    omega
  have hsettle : c.timer.run (a + b) =
      ((c.timer.run a).1 + ((c.run a).timer.run b).1, ((c.run a).timer.run b).2) := by
    have hlast : (c.run a).timer.run b = settle (2 ^ 26) (c.timer.reload.toNat * 2 ^ 10)
        ((c.timer.run a).2 + b.toNat * 2 ^ c.timer.cycleShift.toNat) := by
      rw [Timer.run, hsecond.toNat_add, hcounter]
      rfl
    rw [hlast, Timer.run, hsum, settle_settle c.timer.reload_lt, ← hfirst.toNat_add]
    rfl
  have hraised (raised interrupts : Bool) (k l : ℕ) :
      (raised || (decide (0 < k + l) && interrupts)) =
        ((raised || (decide (0 < k) && interrupts)) || (decide (0 < l) && interrupts)) := by
    have hpos : decide (0 < k + l) = (decide (0 < k) || decide (0 < l)) := by
      rw [Bool.eq_iff_iff, Bool.or_eq_true, decide_eq_true_eq, decide_eq_true_eq, decide_eq_true_eq]
      omega
    rw [hpos]
    cases raised <;> cases interrupts <;> simp
  constructor
  case left =>
    rw [Counting.run, hsettle, hraised]
    rfl
  case right => rw [hsettle, Nat.add_comm]

/-- A block that is run in two pieces is run at once. -/
theorem runBlock_add (hab : (a + b).toNat = a.toNat + b.toNat)
    (h : ∀ c ∈ cs, c.timer.Counts → c.timer.HasRoom (a + b)) :
    runBlock (a + b) cs = runBlock b (runBlock a cs) := by
  induction cs with
  | nil => rfl
  | cons c cs ih =>
    have hrest := ih fun c' hc' => h c' (List.mem_cons_of_mem c hc')
    by_cases hcounts : c.timer.Counts
    · have hcounts' : (c.run a).timer.Counts := hcounts
      obtain ⟨hrun, hoverflows⟩ := Counting.run_add hab (h c List.mem_cons_self hcounts)
      rw [runBlock, if_pos hcounts, runBlock, if_pos hcounts, runBlock, if_pos hcounts', hrun,
        hoverflows, hrest, ticks_add, ticks_runBlock]
    · rw [runBlock, if_neg hcounts, runBlock, if_neg hcounts, runBlock, if_neg hcounts, hrest]

end Blocks

end DSEmu

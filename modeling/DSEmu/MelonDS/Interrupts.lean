import DSEmu.Library.Indexed
import DSEmu.Library.Words
import DSEmu.MelonDS.NDS

/-!
# Interrupts in any order

`SetIRQ` sets one bit of `IF`, works out the interrupt line, and may wake the console up.
`raiseIRQs` does this for any bits at once (`setIRQ_eq`), and one after the other is both at once
(`raiseIRQs_raiseIRQs`). So interrupts of one processor can be raised in any order, and again.
-/

namespace DSEmu

open scoped Indexed

/-- What no components write. -/
def noSections : List SavestateSection := []

/-- A console with no other components. -/
def noComponents : Components Unit where
  restartFrame := id
  sectionsBeforeTSC _ := noSections
  sectionsAfterTSC _ := noSections
  before_restartFrame _ := rfl
  after_restartFrame _ := rfl

namespace NDS

variable {κ : Type} (components : Components κ) (cpu : Fin 2)

/-- Interrupts wake the console up: it sleeps, and the ARM7 has one of them enabled. -/
def WakesFor (bits : UInt32) (n : NDS κ) : Prop :=
  cpu = 1 ∧ n.cpuStop &&& cpuStopSleep ≠ 0 ∧ n.ie.get 1 &&& bits ≠ 0

instance (bits : UInt32) (n : NDS κ) : Decidable (WakesFor cpu bits n) :=
  inferInstanceAs (Decidable (_ ∧ _))

/-- Interrupts of a processor are raised at once, where `bits` is not 0. -/
def raiseIRQs (bits : UInt32) (n : NDS κ) : NDS κ :=
  let raised := updateIRQ cpu { n with irf := n.irf.put cpu (n.irf.get cpu ||| bits) }
  if WakesFor cpu bits n then
    { raised with
      cpuStop := (n.cpuStop &&& ~~~cpuStopSleep) ||| cpuStopWakeup
      components := components.restartFrame n.components }
  else raised

theorem setIRQ_eq (irq : UInt32) (n : NDS κ) :
    setIRQ components cpu irq n = raiseIRQs components cpu ((1 : UInt32) <<< irq) n := by
  dsimp only [setIRQ, raiseIRQs]
  by_cases hsleep : cpu = 1 ∧ n.cpuStop &&& cpuStopSleep ≠ 0
  · rw [if_pos (by exact hsleep)]
    by_cases henabled : n.ie.get 1 &&& ((1 : UInt32) <<< irq) ≠ 0
    · rw [if_pos (by exact henabled), if_pos ⟨hsleep.1, hsleep.2, henabled⟩]
      rfl
    · rw [if_neg (by exact henabled), if_neg fun hwakes => henabled hwakes.2.2]
      rfl
  · rw [if_neg (by exact hsleep), if_neg fun hwakes => hsleep ⟨hwakes.1, hwakes.2.1⟩]
    rfl

/-- A console that has been woken up does not sleep. -/
theorem wakeup_and_sleep (stop : UInt32) :
    ((stop &&& ~~~cpuStopSleep) ||| cpuStopWakeup) &&& cpuStopSleep = 0 := by
  have hdisjoint : cpuStopWakeup &&& cpuStopSleep = 0 := by decide
  rw [UInt32.and_or_distrib_right, hdisjoint, UInt32.and_assoc, UInt32.not_and_self,
    UInt32.and_zero, UInt32.or_zero]

/-- Bits of `IF` that are set one after the other are set at once. -/
theorem updateIRQ_updateIRQ (a b : UInt32) (n : NDS κ) :
    let raised := updateIRQ cpu { n with irf := n.irf.put cpu (n.irf.get cpu ||| a) }
    updateIRQ cpu { raised with irf := raised.irf.put cpu (raised.irf.get cpu ||| b) } =
      updateIRQ cpu { n with irf := n.irf.put cpu (n.irf.get cpu ||| (a ||| b)) } := by
  have hirf : (n.irf.put cpu (n.irf.get cpu ||| a)).put cpu
        ((n.irf.put cpu (n.irf.get cpu ||| a)).get cpu ||| b) =
      n.irf.put cpu (n.irf.get cpu ||| (a ||| b)) := by
    rw [Vector.put_put, ← UInt32.or_assoc]
    congr 2
    exact Vector.get_put_self _ _ _
  dsimp only [updateIRQ]
  rw [hirf, Vector.set_set]

/-- Bits that are raised one after the other are raised at once. -/
theorem raiseIRQs_raiseIRQs (a b : UInt32) (n : NDS κ) :
    raiseIRQs components cpu b (raiseIRQs components cpu a n) =
      raiseIRQs components cpu (a ||| b) n := by
  have hor : n.ie.get 1 &&& (a ||| b) ≠ 0 ↔
      n.ie.get 1 &&& a ≠ 0 ∨ n.ie.get 1 &&& b ≠ 0 := by
    rw [UInt32.and_or_distrib_left, Ne, UInt32.or_eq_zero_iff]
    exact not_and_or
  have hraised := updateIRQ_updateIRQ cpu a b n
  dsimp only at hraised
  by_cases ha : WakesFor cpu a n
  · -- the first bits wake the console up, and then no others do
    have hb : ¬ WakesFor cpu b (raiseIRQs components cpu a n) := by
      intro hb
      have hstop := hb.2.1
      dsimp only [raiseIRQs] at hstop
      rw [if_pos ha] at hstop
      exact hstop (wakeup_and_sleep _)
    have hboth : WakesFor cpu (a ||| b) n := ⟨ha.1, ha.2.1, hor.mpr (Or.inl ha.2.2)⟩
    dsimp only [raiseIRQs] at hb ⊢
    rw [if_neg hb, if_pos ha, if_pos hboth, ← hraised]
    rfl
  · have hafter : WakesFor cpu b (raiseIRQs components cpu a n) ↔ WakesFor cpu b n := by
      dsimp only [raiseIRQs]
      rw [if_neg ha]
      rfl
    have hboth : WakesFor cpu (a ||| b) n ↔ WakesFor cpu b n := by
      constructor
      · rintro ⟨hcpu, hsleep, henabled⟩
        exact ⟨hcpu, hsleep, (hor.mp henabled).resolve_left fun h => ha ⟨hcpu, hsleep, h⟩⟩
      · rintro ⟨hcpu, hsleep, henabled⟩
        exact ⟨hcpu, hsleep, hor.mpr (Or.inr henabled)⟩
    dsimp only [raiseIRQs] at hafter ⊢
    by_cases hb : WakesFor cpu b n
    · rw [if_pos (hafter.mpr hb), if_neg ha, if_pos (hboth.mpr hb), ← hraised]
      rfl
    · rw [if_neg (mt hafter.mp hb), if_neg ha, if_neg (mt hboth.mp hb), ← hraised]

theorem setIRQ_comm (i j : UInt32) (n : NDS κ) :
    setIRQ components cpu i (setIRQ components cpu j n) =
      setIRQ components cpu j (setIRQ components cpu i n) := by
  simp only [setIRQ_eq, raiseIRQs_raiseIRQs, UInt32.or_comm]

theorem setIRQ_setIRQ (i : UInt32) (n : NDS κ) :
    setIRQ components cpu i (setIRQ components cpu i n) = setIRQ components cpu i n := by
  simp only [setIRQ_eq, raiseIRQs_raiseIRQs, UInt32.or_self]

theorem irf_setIRQ (irq : UInt32) (n : NDS κ) : (setIRQ components cpu irq n).irf =
    n.irf.put cpu (n.irf.get cpu ||| (1 : UInt32) <<< irq) := by
  dsimp only [setIRQ]
  split_ifs <;> rfl

/-- An interrupt waits for a processor. -/
def Pending (irq : UInt32) (n : NDS κ) : Prop := n.irf.get cpu &&& ((1 : UInt32) <<< irq) ≠ 0

theorem pending_setIRQ_self {irq : UInt32} (h : (1 : UInt32) <<< irq ≠ 0) (n : NDS κ) :
    (setIRQ components cpu irq n).Pending cpu irq := by
  rw [Pending, irf_setIRQ]
  have hself : ((n.irf.put cpu (n.irf.get cpu ||| (1 : UInt32) <<< irq)).get cpu) =
      n.irf.get cpu ||| (1 : UInt32) <<< irq := Vector.get_put_self _ _ _
  rw [hself]
  exact UInt32.or_and_ne_zero (Or.inr (by rwa [UInt32.and_self]))

/-- Raising one interrupt does not raise another. -/
theorem pending_setIRQ_of_ne {irq other : UInt32}
    (h : (1 : UInt32) <<< other &&& (1 : UInt32) <<< irq = 0) (n : NDS κ) :
    (setIRQ components cpu other n).Pending cpu irq ↔ n.Pending cpu irq := by
  rw [Pending, irf_setIRQ, Pending]
  have hself : ((n.irf.put cpu (n.irf.get cpu ||| (1 : UInt32) <<< other)).get cpu) =
      n.irf.get cpu ||| (1 : UInt32) <<< other := Vector.get_put_self _ _ _
  rw [hself, UInt32.and_or_distrib_right, h, UInt32.or_zero]

end NDS

end DSEmu

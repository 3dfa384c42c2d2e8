import Mathlib.Logic.Function.Basic

/-!
# Threads at a condition

A thread that waits on a condition gives the lock away and is parked until it is woken, by a
broadcast or for no reason; then it takes the lock again and tests once more what it waits for.
`Waiter` is where a thread is in this, and `Justified guard s w` says that every parked thread has
reason to be parked in the shared state `s`: what it found when it tested, `guard`, still holds. No
wake-up is lost where every change of the shared state either broadcasts (`Justified.broadcast`) or
keeps the guards (`Justified.mono`).
-/

namespace DSEmu

/-- Where a thread is: not in the monitor, in it with the test still to come, or parked. -/
inductive Waiter where
  | away
  | awake
  | parked
  deriving DecidableEq, Repr

/-- What a broadcast does to a thread. -/
def Waiter.wake : Waiter → Waiter
  | .parked => .awake
  | w => w

theorem Waiter.wake_ne_parked (w : Waiter) : w.wake ≠ .parked := by
  cases w <;> exact nofun

/-- Every parked thread has reason to be parked. -/
def Justified {τ σ : Type} (guard : τ → σ → Prop) (s : σ) (w : τ → Waiter) : Prop :=
  ∀ c, w c = .parked → guard c s

namespace Justified

variable {τ σ : Type} {guard : τ → σ → Prop} {s t : σ} {w : τ → Waiter}

/-- After a broadcast no thread is parked. -/
theorem broadcast (s : σ) (w : τ → Waiter) : Justified guard s fun c => (w c).wake :=
  fun c h => absurd h (w c).wake_ne_parked

theorem mono (h : Justified guard s w) (hguard : ∀ c, guard c s → guard c t) :
    Justified guard t w :=
  fun c hc => hguard c (h c hc)

/-- One thread moves, and where it parks it has reason to. -/
theorem update [DecidableEq τ] (h : Justified guard s w) (c : τ) (x : Waiter)
    (hx : x = .parked → guard c s) : Justified guard s (Function.update w c x) := by
  intro c' hc'
  by_cases heq : c' = c
  · rw [heq, Function.update_self] at hc'
    exact heq ▸ hx hc'
  · rw [Function.update_of_ne heq] at hc'
    exact h c' hc'

end Justified

end DSEmu

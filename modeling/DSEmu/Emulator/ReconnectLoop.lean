import DSEmu.Library.Automaton

/-!
# The reconnect loop

`TwoPhoneReconnectLoop` of `DSEmu/Emulator/EmulatorCore.swift`: one thread in `run`, and any others
that call `didEnterBackground`, `willEnterForeground` and `stop`, each of which is one section that
holds the lock of the condition and ends with a broadcast. What the loop thread does from taking the
lock to giving it away, in a wait or at the end of a method, is one section as well; where it goes
on is `LoopPhase`. The clock may be set to anything at any time, and a timed wait ends when it
reaches the deadline.

`loop_gated` is what holds along every run.
-/

namespace DSEmu

open Automaton (exec exec_split exec_last exec_preserves)

/-- Where the loop thread is. -/
inductive LoopPhase where
  /-- In `waitUntilForeground`, at the test of its loop. -/
  | gate
  /-- `waitUntilForeground` has returned true. -/
  | admitted
  /-- In `attempt`. -/
  | attempting
  /-- In the `catch`, at `shouldContinue`. -/
  | caught
  /-- `shouldContinue` was true. -/
  | continuing
  /-- At the start of `waitBeforeRetry`. -/
  | retrying
  /-- At the test of the loop in `waitBeforeRetry` that waits for the foreground, for the deadline,
  and for the foreground after it. -/
  | inBackground
  | untilDeadline (deadline : ℕ)
  | afterDeadline
  /-- `run` has returned. -/
  | finished
  deriving DecidableEq, Repr

/-- The loop: its two flags, the clock, and its thread. A time is a number of units of any size. -/
structure LoopState where
  isForeground : Bool := true
  isStopped : Bool := false
  clock : ℕ := 0
  phase : LoopPhase := .gate
  /-- The thread is in a wait of its phase, and no wake-up is pending. -/
  parked : Bool := false
  deriving DecidableEq, Repr

/-- A step of the loop thread, of another thread, or of the clock. -/
inductive LoopEvent where
  | didEnterBackground
  | willEnterForeground
  | stop
  /-- The clock is read or set. -/
  | clock (now : ℕ)
  /-- The loop thread wakes up for no reason. -/
  | woken
  /-- The loop thread takes the lock, and gives it away again after some time. -/
  | locked (elapsed : ℕ)
  | attemptStarted
  | attemptReturned
  | attemptThrew
  /-- `onFailure` is called. -/
  | failureReported
  deriving DecidableEq, Repr

/-- The step is one of the loop thread in `run`. -/
def LoopEvent.runs : LoopEvent → Bool
  | locked _ => true
  | attemptStarted => true
  | attemptReturned => true
  | attemptThrew => true
  | failureReported => true
  | _ => false

namespace LoopState

/-- `condition.broadcast()`. -/
def broadcast (s : LoopState) : LoopState := { s with parked := false }

/-- `condition.wait()` in a phase. -/
def wait (s : LoopState) (phase : LoopPhase) : LoopState := { s with phase, parked := true }

/-- A method of the loop returns, and the thread goes on in a phase. -/
def go (s : LoopState) (phase : LoopPhase) : LoopState := { s with phase }

/-- The end of `waitBeforeRetry`, from the check after the timed loop on. -/
def passDeadline (s : LoopState) : LoopState :=
  if s.isStopped then s.go .finished
  else if !s.isForeground then s.wait .afterDeadline
  else s.go .gate

/-- The timed loop of `waitBeforeRetry`, and what follows it. -/
def awaitDeadline (s : LoopState) (deadline : ℕ) : LoopState :=
  if !s.isStopped && s.isForeground && s.clock < deadline then s.wait (.untilDeadline deadline)
  else s.passDeadline

/-- What the loop thread does while it has the lock: `none` where it does not take it. The deadline
is taken from the clock before it is read again. -/
def locked (retryDelay : ℕ) (s : LoopState) (elapsed : ℕ) : Option LoopState :=
  if s.parked then none
  else
    let later := { s with clock := s.clock + elapsed }
    match s.phase with
    | .gate =>
      if !s.isStopped && !s.isForeground then some (later.wait .gate)
      else some (later.go (if s.isStopped then .finished else .admitted))
    | .caught => some (later.go (if s.isStopped then .retrying else .continuing))
    | .retrying =>
      if s.isStopped then some (later.go .finished)
      else if !s.isForeground then some (later.wait .inBackground)
      else if retryDelay = 0 then some (later.go .gate)
      else some (later.awaitDeadline (s.clock + retryDelay))
    | .inBackground =>
      if !s.isStopped && !s.isForeground then some (later.wait .inBackground)
      else some (later.go (if s.isStopped then .finished else .gate))
    | .untilDeadline deadline => some (later.awaitDeadline deadline)
    | .afterDeadline => some later.passDeadline
    | _ => none

/-- One step. -/
def step (retryDelay : ℕ) (s : LoopState) : LoopEvent → Option LoopState
  | .didEnterBackground => some { s with isForeground := false }.broadcast
  | .willEnterForeground => some { s with isForeground := true }.broadcast
  | .stop => some { s with isStopped := true }.broadcast
  | .clock now =>
    -- a timed wait ends when the clock reaches its deadline
    match s.phase with
    | .untilDeadline deadline =>
      some { s with clock := now, parked := s.parked && now < deadline }
    | _ => some { s with clock := now }
  | .woken => if s.parked then some s.broadcast else none
  | .locked elapsed => s.locked retryDelay elapsed
  | .attemptStarted => if s.phase = .admitted then some (s.go .attempting) else none
  | .attemptReturned => if s.phase = .attempting then some (s.go .retrying) else none
  | .attemptThrew => if s.phase = .attempting then some (s.go .caught) else none
  | .failureReported => if s.phase = .continuing then some (s.go .retrying) else none

/-- The flags say why the thread is parked. -/
def Justified (s : LoopState) : Prop :=
  s.parked = true → s.isStopped = false ∧
    (s.isForeground = false ∧
        (s.phase = .gate ∨ s.phase = .inBackground ∨ s.phase = .afterDeadline) ∨
      s.isForeground = true ∧ ∃ deadline, s.phase = .untilDeadline deadline ∧ s.clock < deadline)

/-- What the loop thread leaves behind when it gives the lock away: it goes on where the flags that
it has seen allow it, and parks where they say so. -/
structure Section (s t : LoopState) : Prop where
  awake : s.parked = false
  isForeground : t.isForeground = s.isForeground
  isStopped : t.isStopped = s.isStopped
  admitted : t.phase = .admitted → s.phase = .gate ∧ s.isStopped = false ∧ s.isForeground = true
  continuing : t.phase = .continuing → s.phase = .caught ∧ s.isStopped = false
  caught : t.phase ≠ .caught
  justified : t.Justified

theorem section_passDeadline {s t : LoopState} (hs : s.parked = false)
    (ht : t.isForeground = s.isForeground ∧ t.isStopped = s.isStopped ∧ t.parked = false) :
    Section s t.passDeadline := by
  obtain ⟨hforeground, hstopped, hparked⟩ := ht
  unfold passDeadline
  split_ifs with h₁ h₂
  · exact ⟨hs, hforeground, hstopped, nofun, nofun, nofun,
      fun h => absurd (hparked.symm.trans h) nofun⟩
  · rw [Bool.not_eq_true'] at h₂
    refine ⟨hs, hforeground, hstopped, nofun, nofun, nofun, fun _ => ?_⟩
    exact ⟨Bool.eq_false_iff.mpr h₁, .inl ⟨h₂, .inr (.inr rfl)⟩⟩
  · exact ⟨hs, hforeground, hstopped, nofun, nofun, nofun,
      fun h => absurd (hparked.symm.trans h) nofun⟩

theorem section_awaitDeadline {s t : LoopState} (hs : s.parked = false)
    (ht : t.isForeground = s.isForeground ∧ t.isStopped = s.isStopped ∧ t.parked = false)
    (deadline : ℕ) : Section s (t.awaitDeadline deadline) := by
  unfold awaitDeadline
  split_ifs with h
  · rw [Bool.and_eq_true, Bool.and_eq_true, Bool.not_eq_true', decide_eq_true_eq] at h
    refine ⟨hs, ht.1, ht.2.1, nofun, nofun, nofun, fun _ => ?_⟩
    exact ⟨h.1.1, .inr ⟨h.1.2, deadline, rfl, h.2⟩⟩
  · exact section_passDeadline hs ht

theorem section_of_locked {retryDelay elapsed : ℕ} {s t : LoopState}
    (h : s.locked retryDelay elapsed = some t) : Section s t := by
  have hs : s.parked = false := by
    cases hparked : s.parked with
    | false => rfl
    | true =>
      rw [locked, if_pos hparked] at h
      exact absurd h nofun
  -- A thread that does not park has nothing to justify.
  have hlater : ∀ clock phase, Justified { s with clock, phase } :=
    fun _ _ h => absurd (hs.symm.trans h) nofun
  rw [locked, if_neg (by rw [hs]; nofun)] at h
  cases hphase : s.phase with
  -- It parks at the gate only in the background, and passes it only where neither flag stops it.
  | gate =>
    rw [hphase] at h
    dsimp only at h
    split_ifs at h with hwait hstopped
    · rw [Bool.and_eq_true, Bool.not_eq_true', Bool.not_eq_true'] at hwait
      obtain rfl := Option.some.inj h
      exact ⟨hs, rfl, rfl, nofun, nofun, nofun, fun _ => ⟨hwait.1, .inl ⟨hwait.2, .inl rfl⟩⟩⟩
    · obtain rfl := Option.some.inj h
      exact ⟨hs, rfl, rfl, nofun, nofun, nofun, hlater _ _⟩
    · obtain rfl := Option.some.inj h
      rw [Bool.not_eq_true] at hstopped
      have hforeground : s.isForeground = true := by
        rw [hstopped, Bool.not_false, Bool.true_and, Bool.not_eq_true', Bool.not_eq_false] at hwait
        exact hwait
      exact ⟨hs, rfl, rfl, fun _ => ⟨hphase, hstopped, hforeground⟩, nofun, nofun, hlater _ _⟩
  | caught =>
    rw [hphase] at h
    dsimp only at h
    split_ifs at h with hstopped
    · obtain rfl := Option.some.inj h
      exact ⟨hs, rfl, rfl, nofun, nofun, nofun, hlater _ _⟩
    · obtain rfl := Option.some.inj h
      rw [Bool.not_eq_true] at hstopped
      exact ⟨hs, rfl, rfl, nofun, fun _ => ⟨hphase, hstopped⟩, nofun, hlater _ _⟩
  -- After an error it stops, waits for the foreground, or waits for the deadline of the delay.
  | retrying =>
    rw [hphase] at h
    dsimp only at h
    split_ifs at h with hstopped hforeground hdelay
    · obtain rfl := Option.some.inj h
      exact ⟨hs, rfl, rfl, nofun, nofun, nofun, hlater _ _⟩
    · obtain rfl := Option.some.inj h
      rw [Bool.not_eq_true'] at hforeground
      rw [Bool.not_eq_true] at hstopped
      exact ⟨hs, rfl, rfl, nofun, nofun, nofun,
        fun _ => ⟨hstopped, .inl ⟨hforeground, .inr (.inl rfl)⟩⟩⟩
    · obtain rfl := Option.some.inj h
      exact ⟨hs, rfl, rfl, nofun, nofun, nofun, hlater _ _⟩
    · obtain rfl := Option.some.inj h
      refine section_awaitDeadline hs ?_ _
      exact ⟨rfl, rfl, hs⟩
  | inBackground =>
    rw [hphase] at h
    dsimp only at h
    split_ifs at h with hwait hstopped
    · rw [Bool.and_eq_true, Bool.not_eq_true', Bool.not_eq_true'] at hwait
      obtain rfl := Option.some.inj h
      exact ⟨hs, rfl, rfl, nofun, nofun, nofun,
        fun _ => ⟨hwait.1, .inl ⟨hwait.2, .inr (.inl rfl)⟩⟩⟩
    · obtain rfl := Option.some.inj h
      exact ⟨hs, rfl, rfl, nofun, nofun, nofun, hlater _ _⟩
    · obtain rfl := Option.some.inj h
      exact ⟨hs, rfl, rfl, nofun, nofun, nofun, hlater _ _⟩
  | untilDeadline deadline =>
    rw [hphase] at h
    obtain rfl := Option.some.inj h
    refine section_awaitDeadline hs ?_ _
    exact ⟨rfl, rfl, hs⟩
  | afterDeadline =>
    rw [hphase] at h
    obtain rfl := Option.some.inj h
    refine section_passDeadline hs ?_
    exact ⟨rfl, rfl, hs⟩
  | _ =>
    rw [hphase] at h
    exact absurd h nofun

section Steps

variable {retryDelay : ℕ} {s t : LoopState} {e : LoopEvent}

/-- Other threads and the clock leave the loop thread where it is. -/
theorem step_phase (h : s.step retryDelay e = some t) (he : e.runs = false) :
    t.phase = s.phase := by
  cases e with
  | clock now =>
    unfold step at h
    dsimp only at h
    split at h
    · obtain rfl := Option.some.inj h
      rfl
    · obtain rfl := Option.some.inj h
      rfl
  | woken =>
    obtain ⟨-, h⟩ := Option.ite_none_right_eq_some.mp h
    obtain rfl := Option.some.inj h
    rfl
  | didEnterBackground =>
    obtain rfl := Option.some.inj h
    rfl
  | willEnterForeground =>
    obtain rfl := Option.some.inj h
    rfl
  | stop =>
    obtain rfl := Option.some.inj h
    rfl
  | _ => exact absurd he nofun

/-- Everything that the loop thread can do. -/
theorem step_of_runs (h : s.step retryDelay e = some t) (he : e.runs = true) :
    (∃ elapsed, e = .locked elapsed ∧ Section s t) ∨
    (e = .attemptStarted ∧ s.phase = .admitted ∧ t = s.go .attempting) ∨
    (e = .attemptReturned ∧ s.phase = .attempting ∧ t = s.go .retrying) ∨
    (e = .attemptThrew ∧ s.phase = .attempting ∧ t = s.go .caught) ∨
    (e = .failureReported ∧ s.phase = .continuing ∧ t = s.go .retrying) := by
  cases e with
  | locked elapsed => exact .inl ⟨elapsed, rfl, section_of_locked h⟩
  | attemptStarted =>
    obtain ⟨hphase, h⟩ := Option.ite_none_right_eq_some.mp h
    exact .inr (.inl ⟨rfl, hphase, (Option.some.inj h).symm⟩)
  | attemptReturned =>
    obtain ⟨hphase, h⟩ := Option.ite_none_right_eq_some.mp h
    exact .inr (.inr (.inl ⟨rfl, hphase, (Option.some.inj h).symm⟩))
  | attemptThrew =>
    obtain ⟨hphase, h⟩ := Option.ite_none_right_eq_some.mp h
    exact .inr (.inr (.inr (.inl ⟨rfl, hphase, (Option.some.inj h).symm⟩)))
  | failureReported =>
    obtain ⟨hphase, h⟩ := Option.ite_none_right_eq_some.mp h
    exact .inr (.inr (.inr (.inr ⟨rfl, hphase, (Option.some.inj h).symm⟩)))
  | _ => exact absurd he nofun

/-- The loop is admitted to an attempt by a section at the gate, in the foreground. -/
theorem step_admitted (h : s.step retryDelay e = some t) (he : e.runs = true)
    (ht : t.phase = .admitted) : (∃ elapsed, e = .locked elapsed) ∧ s.phase = .gate ∧
      s.isStopped = false ∧ s.isForeground = true := by
  obtain ⟨elapsed, rfl, hsection⟩ | ⟨-, -, rfl⟩ | ⟨-, -, rfl⟩ | ⟨-, -, rfl⟩ | ⟨-, -, rfl⟩ :=
    step_of_runs h he
  · exact ⟨⟨elapsed, rfl⟩, hsection.admitted ht⟩
  all_goals exact absurd ht nofun

/-- A failure is reported after the section of `shouldContinue`, where the loop is not stopped. -/
theorem step_continuing (h : s.step retryDelay e = some t) (he : e.runs = true)
    (ht : t.phase = .continuing) :
    (∃ elapsed, e = .locked elapsed) ∧ s.phase = .caught ∧ s.isStopped = false := by
  obtain ⟨elapsed, rfl, hsection⟩ | ⟨-, -, rfl⟩ | ⟨-, -, rfl⟩ | ⟨-, -, rfl⟩ | ⟨-, -, rfl⟩ :=
    step_of_runs h he
  · exact ⟨⟨elapsed, rfl⟩, hsection.continuing ht⟩
  all_goals exact absurd ht nofun

/-- That section comes after an attempt that has thrown. -/
theorem step_caught (h : s.step retryDelay e = some t) (he : e.runs = true)
    (ht : t.phase = .caught) : e = .attemptThrew := by
  obtain ⟨elapsed, rfl, hsection⟩ | ⟨-, -, rfl⟩ | ⟨-, -, rfl⟩ | ⟨rfl, -, -⟩ | ⟨-, -, rfl⟩ :=
    step_of_runs h he
  · exact absurd ht hsection.caught
  · exact absurd ht nofun
  · exact absurd ht nofun
  · rfl
  · exact absurd ht nofun

/-- The loop is stopped for good. -/
theorem step_isStopped (h : s.step retryDelay e = some t) (hs : s.isStopped = true) :
    t.isStopped = true := by
  cases hruns : e.runs with
  | true =>
    obtain ⟨elapsed, rfl, hsection⟩ | ⟨-, -, rfl⟩ | ⟨-, -, rfl⟩ | ⟨-, -, rfl⟩ | ⟨-, -, rfl⟩ :=
      step_of_runs h hruns
    · exact hsection.isStopped.trans hs
    all_goals exact hs
  | false =>
    cases e with
    | clock now =>
      unfold step at h
      dsimp only at h
      split at h
      · exact Option.some.inj h ▸ hs
      · exact Option.some.inj h ▸ hs
    | woken =>
      obtain ⟨-, h⟩ := Option.ite_none_right_eq_some.mp h
      exact Option.some.inj h ▸ hs
    | didEnterBackground => exact Option.some.inj h ▸ hs
    | willEnterForeground => exact Option.some.inj h ▸ hs
    | stop => exact Option.some.inj h ▸ rfl
    | _ => exact absurd hruns nofun

/-- Only the two calls of the app say whether it is in the foreground. -/
theorem step_isForeground (h : s.step retryDelay e = some t) (he : e ≠ .didEnterBackground)
    (he' : e ≠ .willEnterForeground) : t.isForeground = s.isForeground := by
  cases hruns : e.runs with
  | true =>
    obtain ⟨elapsed, rfl, hsection⟩ | ⟨-, -, rfl⟩ | ⟨-, -, rfl⟩ | ⟨-, -, rfl⟩ | ⟨-, -, rfl⟩ :=
      step_of_runs h hruns
    · exact hsection.isForeground
    all_goals rfl
  | false =>
    cases e with
    | clock now =>
      unfold step at h
      dsimp only at h
      split at h
      · exact Option.some.inj h ▸ rfl
      · exact Option.some.inj h ▸ rfl
    | woken =>
      obtain ⟨-, h⟩ := Option.ite_none_right_eq_some.mp h
      exact Option.some.inj h ▸ rfl
    | didEnterBackground => exact absurd rfl he
    | willEnterForeground => exact absurd rfl he'
    | stop => exact Option.some.inj h ▸ rfl
    | _ => exact absurd hruns nofun

theorem Justified.awake (hs : s.Justified)
    (hphase : s.phase = .admitted ∨ s.phase = .attempting ∨ s.phase = .continuing) :
    s.parked = false := by
  cases hparked : s.parked with
  | false => rfl
  | true =>
    obtain ⟨-, ⟨-, hwait⟩ | ⟨-, _, hwait, -⟩⟩ := hs hparked
    · rcases hphase with hphase | hphase | hphase
      all_goals simp [hphase] at hwait
    · rcases hphase with hphase | hphase | hphase
      all_goals exact absurd (hphase.symm.trans hwait) nofun

/-- The clock keeps a timed wait only before its deadline. -/
theorem justified_clock {now : ℕ} (h : s.step retryDelay (.clock now) = some t) (hs : s.Justified) :
    t.Justified := by
  unfold step at h
  dsimp only at h
  split at h
  · rename_i deadline hphase
    obtain rfl := Option.some.inj h
    intro hparked
    obtain ⟨hparked, hnow⟩ := Bool.and_eq_true_iff.mp hparked
    obtain ⟨hstopped, ⟨-, hwait⟩ | ⟨hforeground, -⟩⟩ := hs hparked
    · simp [hphase] at hwait
    · exact ⟨hstopped, .inr ⟨hforeground, deadline, hphase, of_decide_eq_true hnow⟩⟩
  · rename_i hphase
    obtain rfl := Option.some.inj h
    intro hparked
    obtain ⟨hstopped, hwait | ⟨-, deadline, hwait, -⟩⟩ := hs hparked
    · exact ⟨hstopped, .inl hwait⟩
    · exact absurd hwait (hphase deadline)

/-- No step loses a wake-up. -/
theorem step_justified (h : s.step retryDelay e = some t) (hs : s.Justified) : t.Justified := by
  cases hruns : e.runs with
  | true =>
    obtain ⟨elapsed, rfl, hsection⟩ | ⟨-, hphase, rfl⟩ | ⟨-, hphase, rfl⟩ | ⟨-, hphase, rfl⟩ |
      ⟨-, hphase, rfl⟩ := step_of_runs h hruns
    · exact hsection.justified
    · exact fun h => absurd ((hs.awake (.inl hphase)).symm.trans h) nofun
    · exact fun h => absurd ((hs.awake (.inr (.inl hphase))).symm.trans h) nofun
    · exact fun h => absurd ((hs.awake (.inr (.inl hphase))).symm.trans h) nofun
    · exact fun h => absurd ((hs.awake (.inr (.inr hphase))).symm.trans h) nofun
  | false =>
    cases e with
    | clock now => exact justified_clock h hs
    | didEnterBackground => exact Option.some.inj h ▸ nofun
    | willEnterForeground => exact Option.some.inj h ▸ nofun
    | stop => exact Option.some.inj h ▸ nofun
    | woken =>
      obtain ⟨-, h⟩ := Option.ite_none_right_eq_some.mp h
      exact Option.some.inj h ▸ nofun
    | _ => exact absurd hruns nofun

end Steps

section Runs

variable {retryDelay : ℕ} {s t : LoopState} {es : List LoopEvent}

/-- In a stopped loop an attempt starts only from where the loop is admitted already, and then no
other. -/
theorem attempts_of_isStopped (h : exec (step retryDelay) s es = some t) (hs : s.isStopped = true) :
    (s.phase ≠ .admitted → LoopEvent.attemptStarted ∉ es) ∧ es.count .attemptStarted ≤ 1 := by
  induction es generalizing s with
  | nil => exact ⟨fun _ => List.not_mem_nil, Nat.zero_le 1⟩
  | cons e es ih =>
    rw [Automaton.exec_cons, Option.bind_eq_some_iff] at h
    obtain ⟨u, hu, ht⟩ := h
    obtain ⟨hnone, hcount⟩ := ih ht (step_isStopped hu hs)
    -- nothing leads to an admission any more
    have hnotAdmitted : s.phase ≠ .admitted ∨ e = .attemptStarted → u.phase ≠ .admitted := by
      intro hor hadmitted
      cases hruns : e.runs with
      | true => exact absurd hs (by rw [(step_admitted hu hruns hadmitted).2.2.1]; nofun)
      | false =>
        rcases hor with hphase | rfl
        · exact hphase ((step_phase hu hruns).symm.trans hadmitted)
        · exact absurd hruns nofun
    by_cases he : e = .attemptStarted
    · subst he
      have hphase : s.phase = .admitted := (Option.ite_none_right_eq_some.mp hu).1
      have hzero : es.count .attemptStarted = 0 :=
        List.count_eq_zero.mpr (hnone (hnotAdmitted (.inr rfl)))
      refine ⟨fun hne => absurd hphase hne, ?_⟩
      rw [List.count_cons_self]
      omega
    · refine ⟨fun hphase hmem => ?_, ?_⟩
      · rcases List.mem_cons.mp hmem with rfl | hmem
        · exact he rfl
        · exact hnone (hnotAdmitted (.inl hphase)) hmem
      · rw [List.count_cons_of_ne he]
        exact hcount

/-- The last step of the loop thread has brought it where it is. -/
theorem last_of_exec (h : exec (step retryDelay) s es = some t) (hphase : t.phase ≠ s.phase) :
    ∃ pre e post u v, es = pre ++ e :: post ∧ (∀ e' ∈ post, e'.runs = false) ∧ e.runs = true ∧
      exec (step retryDelay) s pre = some u ∧ u.step retryDelay e = some v ∧ v.phase = t.phase := by
  have still : ∀ s e t, step retryDelay s e = some t → e.runs = false → t.phase = s.phase :=
    fun _ _ _ => step_phase
  exact (exec_last still h).resolve_left hphase

end Runs

end LoopState

/-- What holds after a run `es` of the loop that ends in `s`. -/
structure LoopGated (retryDelay : ℕ) (es : List LoopEvent) (s : LoopState) : Prop where
  /-- The last that the loop thread did before an attempt, and so after the attempt before it, is a
  section at the gate, in which the loop was not stopped and in the foreground. -/
  observed : ∀ pre post, es = pre ++ .attemptStarted :: post → ∃ before elapsed others t,
    pre = before ++ .locked elapsed :: others ∧ (∀ e ∈ others, e.runs = false) ∧
    exec (LoopState.step retryDelay) {} before = some t ∧
    t.phase = .gate ∧ t.isStopped = false ∧ t.isForeground = true
  /-- After `stop`, an attempt starts only where that section came before, and only this one. -/
  stopped : ∀ pre post, es = pre ++ .stop :: post → LoopEvent.attemptStarted ∈ post →
    post.count .attemptStarted = 1 ∧
      ∃ t, exec (LoopState.step retryDelay) {} pre = some t ∧ t.phase = .admitted
  /-- The last that the loop thread did before it reports a failure is a section of
  `shouldContinue`, in which the loop was not stopped, and before that an attempt that throws. -/
  reported : ∀ pre post, es = pre ++ .failureReported :: post → ∃ before others elapsed others' t,
    pre = before ++ .attemptThrew :: others ++ .locked elapsed :: others' ∧
    (∀ e ∈ others, e.runs = false) ∧ (∀ e ∈ others', e.runs = false) ∧
    exec (LoopState.step retryDelay) {} (before ++ .attemptThrew :: others) = some t ∧
    t.phase = .caught ∧ t.isStopped = false
  /-- The thread is parked only where the flags and the clock say so. -/
  justified : s.parked = true → s.isStopped = false ∧
    (s.isForeground = false ∧
        (s.phase = .gate ∨ s.phase = .inBackground ∨ s.phase = .afterDeadline) ∨
      s.isForeground = true ∧ ∃ deadline, s.phase = .untilDeadline deadline ∧ s.clock < deadline)

/-- In every run, attempts start only where the loop was seen in the foreground and not stopped
since the attempt before, failures are reported only where it was seen not stopped after them, and
no wake-up is lost. -/
theorem loop_gated {retryDelay : ℕ} {es : List LoopEvent} {s : LoopState}
    (h : exec (LoopState.step retryDelay) {} es = some s) : LoopGated retryDelay es s where
  observed := by
    rintro pre post rfl
    obtain ⟨t, u, ht, hu, -⟩ := exec_split h
    have hphase : t.phase = .admitted := (Option.ite_none_right_eq_some.mp hu).1
    -- the last step of the loop itself has brought it to this phase
    obtain ⟨before, e, others, v, w, rfl, hothers, he, hv, hw, hadmitted⟩ :=
      LoopState.last_of_exec ht (by rw [hphase]; nofun)
    obtain ⟨⟨elapsed, rfl⟩, hgate⟩ := LoopState.step_admitted hw he (hadmitted.trans hphase)
    exact ⟨before, elapsed, others, v, rfl, hothers, hv, hgate⟩
  stopped := by
    rintro pre post rfl hmem
    obtain ⟨t, u, ht, hu, hs⟩ := exec_split h
    obtain rfl := Option.some.inj hu
    obtain ⟨hnone, hcount⟩ := LoopState.attempts_of_isStopped hs rfl
    have hphase : t.phase = .admitted := by
      by_contra hne
      exact hnone hne hmem
    have hpos := List.count_pos_iff.mpr hmem
    exact ⟨by omega, t, ht, hphase⟩
  reported := by
    rintro pre post rfl
    obtain ⟨t, u, ht, hu, -⟩ := exec_split h
    have hphase : t.phase = .continuing := (Option.ite_none_right_eq_some.mp hu).1
    obtain ⟨before, e, others', v, w, rfl, hothers', he, hv, hw, hcontinuing⟩ :=
      LoopState.last_of_exec ht (by rw [hphase]; nofun)
    obtain ⟨⟨elapsed, rfl⟩, hcaught, hstopped⟩ :=
      LoopState.step_continuing hw he (hcontinuing.trans hphase)
    -- and the one before that is the throw that it has caught
    obtain ⟨before, e, others, v', w', rfl, hothers, he, -, hw', hthrew⟩ :=
      LoopState.last_of_exec hv (by rw [hcaught]; nofun)
    obtain rfl := LoopState.step_caught hw' he (hthrew.trans hcaught)
    exact ⟨before, others, elapsed, others', v, rfl, hothers, hothers', hv, hcaught, hstopped⟩
  justified := exec_preserves (fun _ _ _ hs ht => LoopState.step_justified ht hs)
    (show LoopState.Justified {} from nofun) h

/-- The app leaves and returns while the loop waits for the deadline, and it is stopped behind the
gate: the attempt that is already admitted starts, and its failure is not reported. -/
theorem loop_gated_flips : ∃ s, LoopGated 5 [.locked 0, .attemptStarted, .attemptThrew, .locked 0,
    .failureReported, .locked 1, .didEnterBackground, .locked 0, .willEnterForeground, .locked 0,
    .locked 0, .stop, .attemptStarted, .attemptThrew, .locked 0, .locked 0] s :=
  ⟨_, loop_gated rfl⟩

end DSEmu

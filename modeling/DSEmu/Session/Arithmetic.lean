import DSEmu.Protocol.RoundTrip
import DSEmu.Session.Barrier
import DSEmu.Session.DisplayTrace

/-!
# The checked arithmetic of a session

Swift checks the sums and differences of its integers at run time and ends the process where one
does not fit. The model has a phase for it, `trapped`, in both roles: the frame counters, the
difference of two readings of the display's clock, and the sums of `DisplayFrameTiming` lead there.
The counter of checkpoints is an `Int` in Swift, and a thread whose counter has come to `2^63` has
trapped as well (`ControllerThread.step`), so it is a statement of its own that it stays below; the
remainder by the checkpoint interval is taken of an interval
that `TwoPhoneConfiguration` keeps positive.

The display never traps over fewer than `2^63` frames. The controller adds up the durations that the
peer reports since the last checkpoint, and traps exactly where these do not fit a `UInt64`
(`TimesFit`, `session_arithmetic`). An acknowledgement that does it is one that `decode` produces
(`session_traps_on_decoded`).
-/

namespace DSEmu

open Automaton (exec)

namespace ControllerThread

variable {σ : Type} (S : TwoPhoneSession σ) (s : ControllerThread σ)

/-- The frames that the thread has counted as checkpoints, and those that it may still count. -/
def accounted : ℕ := s.checkpoints + s.pendingFrames.length

/-- Waiting for an acknowledgement counts nothing. -/
@[simp] theorem accounted_awaitAcknowledgement (loop : AcknowledgementLoop) :
    (s.awaitAcknowledgement loop).accounted = s.accounted := by
  unfold awaitAcknowledgement
  split <;> rfl

/-- Beginning a frame counts nothing. -/
@[simp] theorem accounted_beginFrame : s.beginFrame.accounted = s.accounted := by
  unfold beginFrame
  split <;> rfl

/-- Filling the window counts nothing. -/
@[simp] theorem accounted_fillWindow : (s.fillWindow S).accounted = s.accounted := by
  unfold fillWindow
  split
  · exact s.accounted_awaitAcknowledgement .window
  · exact s.accounted_beginFrame

/-- Going round the main loop counts nothing. -/
@[simp] theorem accounted_mainLoop : (s.mainLoop S).accounted = s.accounted := by
  unfold mainLoop
  split
  · exact s.accounted_fillWindow S
  · rfl

/-- Draining for a checkpoint counts nothing. -/
@[simp] theorem accounted_drainCheckpoint : (s.drainCheckpoint S).accounted = s.accounted := by
  unfold drainCheckpoint
  split
  · exact s.accounted_mainLoop S
  · exact s.accounted_awaitAcknowledgement .checkpoint

/-- Going back to a loop counts nothing. -/
@[simp] theorem accounted_continueLoop (loop : AcknowledgementLoop) :
    (s.continueLoop S loop).accounted = s.accounted := by
  cases loop with
  | window => exact s.accounted_fillWindow S
  | checkpoint => exact s.accounted_drainCheckpoint S

/-- A frame acknowledged is counted at most once. -/
theorem accounted_acknowledged_le (loop : AcknowledgementLoop) (m : TwoPhoneMessage) :
    (s.acknowledged S loop m).accounted ≤ s.accounted := by
  cases hpending : s.pendingFrames with
  | nil =>
    -- without a pending frame the call throws
    have hthrow : ∃ error, s.acknowledged S loop m = s.throwLate error := by
      unfold acknowledged receiveControllerAcknowledgement
      rw [hpending]
      exact ⟨_, rfl⟩
    obtain ⟨error, hthrow⟩ := hthrow
    rw [hthrow]
    exact Nat.le_refl _
  | cons pending rest =>
    have hlength : s.pendingFrames.length = rest.length + 1 := congrArg List.length hpending
    -- A frame leaves the pending ones, and is counted or not.
    have hcounted (timing : DisplayFrameTiming) :
        (s.counted rest timing).accounted ≤ s.accounted := by
      change s.checkpoints + rest.length ≤ s.checkpoints + s.pendingFrames.length
      omega
    have hcompared (timing : DisplayFrameTiming) :
        (s.compared pending rest timing).accounted ≤ s.accounted := by
      change s.checkpoints + 1 + rest.length ≤ s.checkpoints + s.pendingFrames.length
      omega
    rcases s.acknowledged_cases S hpending loop m with ⟨a, -, -, hout⟩ | ⟨-, error, hout⟩
    · rcases hout with ⟨-, hout⟩ | ⟨timing, -, ⟨-, hout⟩ | ⟨-, -, hout⟩ | ⟨-, failure, -, hout⟩⟩ <;>
        rw [hout]
      · exact Nat.le_refl _
      · rw [accounted_continueLoop]
        exact hcounted timing
      · rw [accounted_continueLoop]
        exact hcompared {}
      · exact hcompared timing
    · rw [hout]
      exact Nat.le_refl _

variable {S s}

/-- One step accounts for at most the frame that it steps. -/
theorem accounted_step {t : ControllerThread σ} {e : SessionEvent} (h : s.step S e = some t) :
    t.accounted ≤ s.accounted + (steps [e]).length := by
  have hstill : t.accounted ≤ s.accounted → t.accounted ≤ s.accounted + (steps [e]).length :=
    fun hle => Nat.le_trans hle (Nat.le_add_right _ _)
  replace h := call_of_step h
  unfold call at h
  cases hp : s.phase <;> rw [hp] at h <;> dsimp only at h
  -- The only call that puts a frame into the account is the one that steps it.
  case steppingFrame input =>
    obtain ⟨rfl, rfl⟩ := SessionEvent.on_eq_some.mp h
    have hone : (steps [.stepped s.frame input (S.shouldCreateDigest s.frame)
        (S.stepFrame input (S.shouldCreateDigest s.frame) s.host).1]).length = 1 := rfl
    rw [hone]
    split <;>
      simp only [accounted_drainCheckpoint, accounted_mainLoop] <;>
      simp only [accounted, List.length_append, List.length_singleton, ← Nat.add_assoc, Nat.le_refl]
  case awaitingAcknowledgement loop =>
    apply hstill
    rcases SessionEvent.onNext_eq_some.mp h with ⟨m, -, rfl⟩ | ⟨error, -, rfl⟩
    · exact s.accounted_acknowledged_le S loop m
    · exact Nat.le_refl _
  case awaitingFinish success detail =>
    apply hstill
    rcases SessionEvent.onNext_eq_some.mp h with ⟨m, -, rfl⟩ | ⟨error, -, rfl⟩
    · unfold finished
      split <;> exact Nat.le_refl _
    · exact Nat.le_refl _
  case receivingHello | receivingReady =>
    apply hstill
    rcases SessionEvent.onReceive_eq_some.mp h with ⟨m, -, rfl⟩ | ⟨-, rfl⟩
    · split <;> exact Nat.le_refl _
    · exact Nat.le_refl _
  case startingInbox =>
    obtain ⟨-, rfl⟩ := SessionEvent.on_eq_some.mp h
    -- the first round of the loop begins
    rw [accounted_mainLoop]
    exact Nat.le_add_right _ _
  case makingSnapshot =>
    apply hstill
    obtain ⟨-, rfl⟩ := SessionEvent.on_eq_some.mp h
    split <;> exact Nat.le_refl _
  case connecting | activating =>
    apply hstill
    rcases SessionEvent.on_or_on_eq_some h with ⟨-, rfl⟩ | ⟨-, rfl⟩ <;> exact Nat.le_refl _
  case sendingHello | sendingSnapshot | sendingStart | sendingInput | sendingFinish =>
    apply hstill
    rcases SessionEvent.onSend_eq_some.mp h with ⟨-, rfl⟩ | ⟨-, rfl⟩ <;> exact Nat.le_refl _
  case preparing | hashingState | resuming | providingInput | stoppingInbox | closingInbox |
      deactivating | closing =>
    apply hstill
    obtain ⟨-, rfl⟩ := SessionEvent.on_eq_some.mp h
    exact Nat.le_refl _
  case ended | trapped => exact absurd h nofun

/-- A run counts no more checkpoints than it steps frames. -/
theorem checkpoints_le_steps {t : ControllerThread σ} {host : σ} {es : List SessionEvent}
    (h : exec (step S) { host := host } es = some t) : t.checkpoints ≤ (steps es).length := by
  have haccounted : t.accounted ≤ (steps es).length := by
    refine Automaton.exec_invariant (I := fun es u => u.accounted ≤ (steps es).length)
      (Nat.le_refl 0) ?_ h
    intro es u e v hu hstep
    have hlast := accounted_step hstep
    rw [steps_append, List.length_append]
    omega
  exact Nat.le_trans (Nat.le_add_right _ _) haccounted

end ControllerThread

namespace DisplayThread

variable {σ : Type} {S : TwoPhoneSession σ} {s t : DisplayThread σ} {e : SessionEvent}

/-- The frame that is stepped and not counted yet. -/
def uncounted (s : DisplayThread σ) : ℕ :=
  match s.phase with
  | .stoppingClock _ _ _ => 1
  | _ => 0

/-- The loop counts no checkpoint when it takes a message. -/
theorem handle_counts (s : DisplayThread σ) (m : TwoPhoneMessage) :
    (s.handle m).checkpoints = s.checkpoints ∧ (s.handle m).uncounted = 0 := by
  rcases s.handle_cases m with ⟨input, -, -, hout⟩ | ⟨success, detail, -, hout⟩ |
    ⟨error, -, hout⟩ | ⟨input, -, -, hout⟩ <;> rw [hout] <;> exact ⟨rfl, rfl⟩

/-- A frame that is measured is counted at most once. -/
theorem measured_counts (s : DisplayThread σ) (input : DSInputFrame)
    (digest : Option EmulatorDigest) (started finished : UInt64) :
    (s.measured S input digest started finished).checkpoints ≤ s.checkpoints + 1 ∧
      (s.measured S input digest started finished).uncounted = 0 := by
  unfold measured
  split
  · exact ⟨Nat.le_succ _, rfl⟩
  · refine ⟨?_, rfl⟩
    rw [goto_checkpoints, counted_checkpoints]
    split <;> omega

/-- One step counts at most the frame that is not counted yet. -/
theorem counts_step (h : s.step S e = some t) :
    t.checkpoints + t.uncounted ≤ s.checkpoints + s.uncounted + (steps [e]).length := by
  -- Two steps count a frame: the one that steps it, and the reading of the clock after it.
  have hstill : t.checkpoints = s.checkpoints → t.uncounted = 0 →
      t.checkpoints + t.uncounted ≤ s.checkpoints + s.uncounted + (steps [e]).length := by
    intro hcheckpoints huncounted
    omega
  replace h := call_of_step h
  unfold call at h
  cases hp : s.phase <;> rw [hp] at h <;> dsimp only at h
  case steppingFrame input started =>
    obtain ⟨rfl, rfl⟩ := SessionEvent.on_eq_some.mp h
    have hzero : s.uncounted = 0 := by
      unfold uncounted
      rw [hp]
    rw [hzero]
    exact Nat.le_refl _
  case stoppingClock input digest started =>
    obtain ⟨u, rfl, -, rfl⟩ := onClock_eq_some.mp h
    have hone : s.uncounted = 1 := by
      unfold uncounted
      rw [hp]
    obtain ⟨hcheckpoints, huncounted⟩ := measured_counts (S := S)
      { s with phase := .stoppingClock input digest started, uptime := u } input digest started u
    rw [hone, huncounted]
    exact Nat.le_trans hcheckpoints (Nat.le_add_right _ _)
  case receiving =>
    rcases SessionEvent.onReceive_eq_some.mp h with ⟨m, -, rfl⟩ | ⟨-, rfl⟩
    · exact hstill (s.handle_counts m).1 (s.handle_counts m).2
    · exact hstill rfl rfl
  case startingClock input =>
    obtain ⟨u, -, -, rfl⟩ := onClock_eq_some.mp h
    exact hstill rfl rfl
  case receivingHello | receivingSnapshot | receivingStart =>
    rcases SessionEvent.onReceive_eq_some.mp h with ⟨m, -, rfl⟩ | ⟨-, rfl⟩
    · apply hstill <;> split <;> rfl
    · exact hstill rfl rfl
  case loadingSnapshot | hashingState =>
    obtain ⟨-, rfl⟩ := SessionEvent.on_eq_some.mp h
    apply hstill <;> split <;> rfl
  case connecting | activating =>
    rcases SessionEvent.on_or_on_eq_some h with ⟨-, rfl⟩ | ⟨-, rfl⟩ <;> exact hstill rfl rfl
  case sendingHello | sendingFailure | sendingReady | acknowledging |
      sendingFinishAcknowledgement =>
    rcases SessionEvent.onSend_eq_some.mp h with ⟨-, rfl⟩ | ⟨-, rfl⟩ <;> exact hstill rfl rfl
  case preparing | resuming | deactivating | closing =>
    obtain ⟨-, rfl⟩ := SessionEvent.on_eq_some.mp h
    exact hstill rfl rfl
  case ended | trapped => exact absurd h nofun

/-- A run counts no more checkpoints than it steps frames. -/
theorem checkpoints_le_steps {host : σ} {es : List SessionEvent}
    (h : exec (DisplayThread.step S) { host := host } es = some t) :
    t.checkpoints ≤ (steps es).length := by
  have hcounts : t.checkpoints + t.uncounted ≤ (steps es).length := by
    refine Automaton.exec_invariant
      (I := fun es u => u.checkpoints + u.uncounted ≤ (steps es).length) (Nat.le_refl 0) ?_ h
    intro es u e v hu hstep
    have hlast := counts_step hstep
    rw [steps_append, List.length_append]
    omega
  exact Nat.le_trans (Nat.le_add_right _ _) hcounts

end DisplayThread

section

variable {σ : Type} (S : TwoPhoneSession σ)

/-- What a trace `es` of the controller's main thread that leads to the state `s` says about its
checked arithmetic. -/
structure ControllerArithmetic (es : List SessionEvent) (s : ControllerThread σ) : Prop where
  /-- the counter of checkpoints is in the range of an `Int` -/
  counted : s.checkpoints < 2 ^ 63
  /-- the thread has not trapped exactly if the durations reported to it fit -/
  inRange_iff : s.phase ≠ .trapped ↔ TimesFit S.configuration es
  /-- anything but the acknowledgement of the oldest pending frame is thrown at -/
  refused : ∀ pre m post st, es = pre ++ .next m :: post → oldestPending pre = some st →
    (∀ a, m = .acknowledgement a → a.frame ≠ st.frame) →
      ∃ error, ControllerThread.LeavingInbox (.error error) post s

/-- What a trace `es` of the display's thread from `init` to the state `s` says about its checked
arithmetic. -/
structure DisplayArithmetic (init : DisplayThread σ) (es : List SessionEvent)
    (s : DisplayThread σ) : Prop where
  /-- the counter of checkpoints is in the range of an `Int` -/
  counted : s.checkpoints < 2 ^ 63
  /-- the thread has not trapped -/
  inRange : s.phase ≠ .trapped
  /-- anything but the next input or a finish at the current frame is thrown at -/
  refused : ∀ pre m post t, es = pre ++ .operation (.received m) :: post →
    exec (DisplayThread.step S) init pre = some t → t.phase = .receiving → ¬ t.Accepts m →
      ∃ error, DisplayThread.Leaving (.error error) post s

variable {S}

/-- An acknowledgement whose duration does not fit, at the call that waits for it: the thread
traps. -/
theorem ControllerTrace.acknowledged_trapped {s : ControllerThread σ} {es : List SessionEvent}
    {a : FrameAcknowledgement} {st : SteppedFrame} {loop : AcknowledgementLoop}
    (h : ControllerTrace S es s) (hp : s.phase = .awaitingAcknowledgement loop)
    (holdest : oldestPending es = some st) (hframe : a.frame = st.frame)
    (hsum : UInt64.size ≤
      durationSinceCheckpoint S.configuration (consumedAcks es) + a.processingNanoseconds.toNat) :
    s.acknowledged S loop (.acknowledgement a) = s.goto .trapped := by
  unfold ControllerTrace at h
  rw [hp] at h
  obtain ⟨done, st', pending, idle, hverified, -⟩ := h
  -- the thread waits for the oldest pending frame of the ledger
  have hst : st' = st := by
    rw [idle.oldestPending_eq, Option.some.injEq] at holdest
    exact holdest
  subst hst
  -- its sum is that of the durations since the last checkpoint
  have hrecord : s.displayFrameTiming.record a.processingNanoseconds = none := by
    rw [DisplayFrameTiming.record_eq_none idle.count_lt, idle.total hverified,
      ← idle.consumedAcks_eq]
    exact hsum
  rcases ControllerThread.acknowledged_cases S idle.pendingFrames loop (.acknowledgement a)
    with ⟨_, ⟨⟩, -, hout⟩ | ⟨hwrong, -⟩
  · rcases hout with ⟨-, hout⟩ | ⟨timing, hsome, -⟩
    · exact hout
    · rw [hrecord] at hsome
      exact absurd hsome nofun
  · exact absurd hframe (hwrong a rfl)

/-- A controller that has trapped within its frames did so at an acknowledgement of the oldest
pending frame, whose duration did not fit. -/
theorem ControllerTrace.trapped_cause {s : ControllerThread σ} {es : List SessionEvent}
    (h : ControllerTrace S es s) (hp : s.phase = .trapped) (hfew : (steps es).length < 2 ^ 63) :
    ∃ pre a st, es = pre ++ [.next (.acknowledgement a)] ∧ oldestPending pre = some st ∧
      a.frame = st.frame ∧ UInt64.size ≤
        durationSinceCheckpoint S.configuration (consumedAcks pre) +
          a.processingNanoseconds.toNat := by
  unfold ControllerTrace at h
  rw [hp] at h
  obtain ⟨pre, done, pending, idle, hverified, hcause⟩ := h
  rcases hcause with ⟨rfl, hlimit, -⟩ | ⟨st, rest, a, rfl, rfl, hframe, hsum⟩
  · -- The frame counter is at its limit only after as many frames.
    have hsteps : (steps es).length = done.length + pending.length := by
      rw [idle.steps_eq, ledgerSteps, List.length_append, List.length_map]
    have hframe := idle.frame
    have hsize : UInt64.size = 2 ^ 64 := rfl
    omega
  · refine ⟨pre, a, st, rfl, idle.oldestPending_eq, hframe, ?_⟩
    rw [idle.consumedAcks_eq, ← idle.total hverified]
    exact hsum

/-- A thread that has trapped does nothing more. -/
theorem ControllerThread.exec_trapped {s t : ControllerThread σ} {es : List SessionEvent}
    (hp : s.phase = .trapped) (h : exec (ControllerThread.step S) s es = some t) : t = s := by
  cases es with
  | nil => exact (Option.some.inj h).symm
  | cons e es =>
    rw [Automaton.exec_cons, Option.bind_eq_some_iff] at h
    obtain ⟨u, hu, -⟩ := h
    replace hu := ControllerThread.call_of_step hu
    rw [ControllerThread.call, hp] at hu
    contradiction

/-- The controller has not trapped over fewer than `2^63` frames exactly if the durations fit. -/
theorem ControllerThread.phase_ne_trapped_iff {host : σ} {s : ControllerThread σ}
    {es : List SessionEvent} (h : exec (ControllerThread.step S) { host := host } es = some s)
    (hfew : (steps es).length < 2 ^ 63) :
    s.phase ≠ .trapped ↔ TimesFit S.configuration es := by
  constructor
  -- A duration that does not fit traps where it is recorded, and the trace ends there.
  · intro hphase pre a post st hes holdest hframe
    subst hes
    obtain ⟨t, t', ht, hstep, hpost⟩ := Automaton.exec_split h
    have hpre : ControllerTrace S pre t := controllerTrace_of_exec ht
    by_contra hsum
    apply hphase
    -- the message is taken while an acknowledgement is awaited, or the finish, when nothing is
    -- pending
    rcases ControllerThread.step_next hstep with ⟨loop, hp, rfl⟩ | ⟨success, detail, hp⟩
    · rw [hpre.acknowledged_trapped hp holdest hframe (Nat.not_lt.mp hsum)] at hpost
      rw [ControllerThread.exec_trapped rfl hpost]
      rfl
    · rw [hpre.oldestPending_finish hp] at holdest
      exact absurd holdest nofun
  · intro hfit hp
    have htrace : ControllerTrace S es s := controllerTrace_of_exec h
    obtain ⟨pre, a, st, hes, holdest, hframe, hsum⟩ := htrace.trapped_cause hp hfew
    exact absurd (hfit pre a [] st hes holdest hframe) (Nat.not_lt.mpr hsum)

/-- What the controller does not expect while it waits for an acknowledgement is thrown at. -/
theorem ControllerThread.refused_of_exec {host : σ} {s : ControllerThread σ}
    {pre post : List SessionEvent} {m : TwoPhoneMessage} {st : SteppedFrame}
    (h : exec (ControllerThread.step S) { host := host } (pre ++ .next m :: post) = some s)
    (holdest : oldestPending pre = some st)
    (hwrong : ∀ a, m = .acknowledgement a → a.frame ≠ st.frame) :
    ∃ error, ControllerThread.LeavingInbox (.error error) post s := by
  obtain ⟨t, t', ht, hstep, hpost⟩ := Automaton.exec_split h
  have hpre : ControllerTrace S pre t := controllerTrace_of_exec ht
  rcases ControllerThread.step_next hstep with ⟨loop, hp, rfl⟩ | ⟨success, detail, hp⟩
  · obtain ⟨⟨error, hthrow⟩, -⟩ := hpre.unexpected hp holdest hwrong
    rw [hthrow] at hpost
    exact ⟨error, ControllerThread.leavingInbox_of_exec rfl hpost⟩
  · rw [hpre.oldestPending_finish hp] at holdest
    exact absurd holdest nofun

/-- A display that has trapped has completed all frames that its counter has room for. -/
theorem DisplayTrace.trapped_cause {s : DisplayThread σ} {es : List SessionEvent}
    (h : DisplayTrace S es s) (hp : s.phase = .trapped) :
    (steps es).length + 1 = UInt64.size := by
  unfold DisplayTrace at h
  rw [hp] at h
  obtain ⟨stateHash, rs, input, -, hlimit, rfl⟩ := h
  have hsteps : (steps (displayHandshake S s.snapshot stateHash ++ roundEvents S rs ++
      [.operation (.received (.input input))])).length = rs.length := by
    rw [steps_append, steps_append, steps_roundEvents]
    exact (congrArg List.length (List.append_nil _)).trans (roundSteps_length S rs)
  rw [hsteps]
  exact hlimit

/-- The display does not trap over fewer than `2^63` frames. -/
theorem DisplayThread.phase_ne_trapped {host : σ} {s : DisplayThread σ} {es : List SessionEvent}
    (h : exec (DisplayThread.step S) { host := host } es = some s)
    (hfew : (steps es).length < 2 ^ 63) : s.phase ≠ .trapped := by
  intro hp
  have hlimit := (displayTrace_of_exec h).trapped_cause hp
  have hsize : UInt64.size = 2 ^ 64 := rfl
  omega

/-- What the display does not accept in its loop is thrown at. -/
theorem DisplayThread.refused_of_exec {host : σ} {s t : DisplayThread σ}
    {pre post : List SessionEvent} {m : TwoPhoneMessage}
    (h : exec (DisplayThread.step S) { host := host }
      (pre ++ .operation (.received m) :: post) = some s)
    (hfew : (steps (pre ++ .operation (.received m) :: post)).length < 2 ^ 63)
    (ht : exec (DisplayThread.step S) { host := host } pre = some t) (hp : t.phase = .receiving)
    (hrefused : ¬ t.Accepts m) :
    ∃ error, DisplayThread.Leaving (.error error) post s := by
  obtain ⟨t₁, t', ht₁, hstep, hpost⟩ := Automaton.exec_split h
  obtain rfl : t₁ = t := Option.some.inj (ht₁.symm.trans ht)
  have hhandle : t' = t₁.handle m := by
    replace hstep := DisplayThread.call_of_step hstep
    rw [DisplayThread.call, hp] at hstep
    exact (Option.some.inj hstep).symm
  subst hhandle
  rcases t₁.handle_cases m with ⟨input, -, haccepts, -⟩ | ⟨success, detail, rfl, -⟩ |
    ⟨error, -, hthrow⟩ | ⟨input, -, -, htrap⟩
  · exact absurd haccepts hrefused
  · exact absurd rfl hrefused
  · rw [hthrow] at hpost
    exact ⟨error, DisplayThread.leaving_of_exec rfl hpost⟩
  · -- The counter is at its limit only after as many frames.
    have hstep' : exec (DisplayThread.step S) { host := host }
        (pre ++ [.operation (.received m)]) = some (t₁.handle m) :=
      Automaton.exec_concat_eq_some.mpr ⟨t₁, ht, hstep⟩
    refine absurd (by rw [htrap]; rfl) (DisplayThread.phase_ne_trapped hstep' ?_)
    rw [← List.singleton_append, ← List.append_assoc, steps_append, List.length_append] at hfew
    omega

/-- The checked arithmetic of a session, in either role, against an arbitrary peer: over fewer than
`2^63` frames nothing is out of range but the sum of the durations that the peer reports to the
controller, and this one exactly where they do not fit. No remainder is taken of zero. -/
theorem session_arithmetic (host : σ) :
    S.configuration.checkpointInterval ≠ 0 ∧
      (∀ events u, exec (ControllerState.step S) { thread := { host := host } } events = some u →
        (steps (events.filterMap ControllerEvent.main?)).length < 2 ^ 63 →
          ControllerArithmetic S (events.filterMap ControllerEvent.main?) u.thread) ∧
      ∀ es s, exec (DisplayThread.step S) { host := host } es = some s →
        (steps es).length < 2 ^ 63 → DisplayArithmetic S { host := host } es s := by
  refine ⟨?_, ?_, ?_⟩
  · have hpos := S.configuration.checkpointInterval_pos
    exact (UInt64.ne_of_lt hpos).symm
  · intro events u h hfew
    have hrun := ControllerState.exec_thread h
    generalize events.filterMap ControllerEvent.main? = es at hrun hfew ⊢
    refine ⟨?_, ControllerThread.phase_ne_trapped_iff hrun hfew, ?_⟩
    · exact Nat.lt_of_le_of_lt (ControllerThread.checkpoints_le_steps hrun) hfew
    · intro pre m post st hes holdest hwrong
      subst hes
      exact ControllerThread.refused_of_exec hrun holdest hwrong
  · intro es s h hfew
    refine ⟨?_, DisplayThread.phase_ne_trapped h hfew, ?_⟩
    · exact Nat.lt_of_le_of_lt (DisplayThread.checkpoints_le_steps h) hfew
    · intro pre m post t hes ht hp hrefused
      subst hes
      exact DisplayThread.refused_of_exec h hfew ht hp hrefused

end

/-- `alternateSession` on a ROM whose hash has the 32 bytes of a SHA-256. -/
def alternateHashedSession : TwoPhoneSession Unit :=
  { alternateSession with romSHA256 := List.replicate 32 0 }

/-- `twoFrameRun` of that session. -/
def twoFrameHashedRun (first second : UInt64) : List ControllerEvent :=
  (controllerHandshake alternateHashedSession [] 0).map .main ++
    (twoFrameRun first second).drop (controllerHandshake alternateSession [] 0).length

/-- `session_arithmetic` on a controller's run whose durations fit, and on a display's run through
its first frame. -/
theorem session_arithmetic_two_frames :
    ∃ u s, ControllerArithmetic alternateHashedSession
        ((twoFrameHashedRun 7 1).filterMap ControllerEvent.main?)
        (u : ControllerState Unit).thread ∧ u.thread.phase ≠ .trapped ∧
      DisplayArithmetic alternateHashedSession { host := () }
        (displayHandshake alternateHashedSession [] 0 ++
          roundEvents alternateHashedSession [⟨⟨1, 0, 0, 0, false⟩, some ⟨0, 0, 0, 0⟩, 3, 5⟩])
        s := by
  obtain ⟨u, hu⟩ := Option.isSome_iff_exists.mp
    (show (exec (ControllerState.step alternateHashedSession) { thread := { host := () } }
      (twoFrameHashedRun 7 1)).isSome = true by decide +kernel)
  obtain ⟨s, hs⟩ := Option.isSome_iff_exists.mp
    (show (exec (DisplayThread.step alternateHashedSession) { host := () }
      (displayHandshake alternateHashedSession [] 0 ++
        roundEvents alternateHashedSession
          [⟨⟨1, 0, 0, 0, false⟩, some ⟨0, 0, 0, 0⟩, 3, 5⟩])).isSome = true by decide +kernel)
  obtain ⟨-, hcontroller, hdisplay⟩ := session_arithmetic (S := alternateHashedSession) ()
  have harithmetic := hcontroller _ u hu (by decide +kernel)
  exact ⟨u, s, harithmetic, harithmetic.inRange_iff.mpr (timesFit_of_sum (by decide +kernel)),
    hdisplay _ s hs (by decide +kernel)⟩

/-- A peer traps the controller with two acknowledgements that `decode` produces. -/
theorem session_traps_on_decoded :
    ∃ u, exec (ControllerState.step alternateHashedSession) { thread := { host := () } }
        (twoFrameHashedRun 18446744073709551615 1) = some u ∧
      (∀ m ∈ Duplex.receivedMessages
          ((twoFrameHashedRun 18446744073709551615 1).filterMap ControllerEvent.operation?),
        ∃ payload, TwoPhoneMessage.decode payload = .ok m) ∧
      (steps ((twoFrameHashedRun 18446744073709551615 1).filterMap ControllerEvent.main?)).length <
        2 ^ 63 ∧
      u.thread.phase = .trapped := by
  have hrun : (exec (ControllerState.step alternateHashedSession) { thread := { host := () } }
      (twoFrameHashedRun 18446744073709551615 1)).map
        (fun u => u.thread.phase.hasTrapped) = some true := by
    decide +kernel
  obtain ⟨u, hu, hphase⟩ := Option.map_eq_some_iff.mp hrun
  refine ⟨u, hu, ?_, by decide +kernel, ControllerPhase.hasTrapped_iff.mp hphase⟩
  have hreceived : Duplex.receivedMessages
      ((twoFrameHashedRun 18446744073709551615 1).filterMap ControllerEvent.operation?) =
        [alternateHashedSession.hello, .ready, .acknowledgement ⟨1, none, 18446744073709551615⟩,
          .acknowledgement ⟨2, none, 1⟩] := by
    decide +kernel
  -- What a peer encodes is decoded to what was framed.
  have hdecoded (m : TwoPhoneMessage) (hfits : m.Fits) (hframed : m.framed = m) :
      ∃ payload, TwoPhoneMessage.decode payload = .ok m := by
    refine ⟨m.payload, ?_⟩
    rw [TwoPhoneMessage.decode_payload m hfits, hframed]
  rw [hreceived]
  intro m hm
  simp only [List.mem_cons, List.not_mem_nil, or_false] at hm
  rcases hm with rfl | rfl | rfl | rfl
  · exact hdecoded _ (List.length_replicate ..) rfl
  · exact hdecoded _ trivial rfl
  · exact hdecoded _ trivial rfl
  · exact hdecoded _ trivial rfl

end DSEmu

import DSEmu.Library.Automaton
import DSEmu.Session.Session

/-!
# The display's thread

`runDisplay` of `DSEmu/TwoPhone/TwoPhoneSession.swift`, as a machine. `DispatchTime` is monotonic,
so a reading of it (`clockRead`) is never below the last one; `uptime` is the last reading. As for
the controller, a thread whose `checkpoints` has come to `2^63` has trapped and makes no call any
more.
-/

namespace DSEmu

open SessionEvent (on onSend onReceive)

/-- The call that the display's thread is in. The phases from `deactivating` on run the `defer`
block on the way out of `run()` with the given result. -/
inductive DisplayPhase where
  | preparing
  | connecting
  | activating
  | sendingHello
  | receivingHello
  | receivingSnapshot
  | loadingSnapshot (expectedStateHash : UInt64)
  | hashingState (expectedStateHash : UInt64)
  | sendingFailure (detail : String)
  | sendingReady
  | receivingStart
  | resuming
  | receiving
  | startingClock (input : DSInputFrame)
  | steppingFrame (input : DSInputFrame) (processingStarted : UInt64)
  | stoppingClock (input : DSInputFrame) (digest : Option EmulatorDigest)
      (processingStarted : UInt64)
  | acknowledging (acknowledgement : FrameAcknowledgement)
  | sendingFinishAcknowledgement (success : Bool) (detail : String)
  | deactivating (result : SessionResult)
  | closing (result : SessionResult)
  | ended (result : SessionResult)
  | trapped

/-- The display's thread: the call it is in, the variables of `runDisplay`, the last reading of the
clock, and the state of the phone. -/
structure DisplayThread (σ : Type) where
  phase : DisplayPhase := .preparing
  snapshot : Data := []
  framesCompleted : UInt64 := 0
  checkpoints : ℕ := 0
  lastDigest : Option EmulatorDigest := none
  uptime : UInt64 := 0
  host : σ

namespace DisplayThread

variable {σ : Type}

/-- The thread in another phase, with the same variables. -/
def goto (s : DisplayThread σ) (p : DisplayPhase) : DisplayThread σ :=
  { s with phase := p }

@[simp] theorem goto_phase (s : DisplayThread σ) (p : DisplayPhase) :
    (s.goto p).phase = p := rfl

@[simp] theorem goto_snapshot (s : DisplayThread σ) (p : DisplayPhase) :
    (s.goto p).snapshot = s.snapshot := rfl

@[simp] theorem goto_framesCompleted (s : DisplayThread σ) (p : DisplayPhase) :
    (s.goto p).framesCompleted = s.framesCompleted := rfl

@[simp] theorem goto_checkpoints (s : DisplayThread σ) (p : DisplayPhase) :
    (s.goto p).checkpoints = s.checkpoints := rfl

@[simp] theorem goto_lastDigest (s : DisplayThread σ) (p : DisplayPhase) :
    (s.goto p).lastDigest = s.lastDigest := rfl

@[simp] theorem goto_uptime (s : DisplayThread σ) (p : DisplayPhase) :
    (s.goto p).uptime = s.uptime := rfl

@[simp] theorem goto_host (s : DisplayThread σ) (p : DisplayPhase) :
    (s.goto p).host = s.host := rfl

/-- `throw` once the transport is active. -/
def throwing (s : DisplayThread σ) (error : SessionError) : DisplayThread σ :=
  s.goto (.deactivating (.error error))

/-- The text that a display sends when the state it loaded is not the controller's. -/
def hashMismatchDetail : String := "Loaded snapshot did not match controller state"

/-- The `switch` of the loop, on the message received. -/
def handle (s : DisplayThread σ) : TwoPhoneMessage → DisplayThread σ
  | .input input =>
    match checkedAdd s.framesCompleted 1 with
    | none => s.goto .trapped
    | some expected =>
      if input.frame ≠ expected then
        s.throwing (malformed s!"received frame {input.frame}, expected {expected}")
      else s.goto (.startingClock input)
  | .finish frame success detail =>
    if frame ≠ s.framesCompleted then
      s.throwing (malformed
        s!"controller finished at frame {frame}, display is at {s.framesCompleted}")
    else s.goto (.sendingFinishAcknowledgement success detail)
  | .failure detail => s.throwing (malformed s!"controller failure: {detail}")
  | _ => s.throwing (malformed "unexpected message during display loop")

/-- The messages that the loop takes: the input of the next frame, and a finish at the current
one. -/
def Accepts (s : DisplayThread σ) : TwoPhoneMessage → Prop
  | .input input => input.frame.toNat = s.framesCompleted.toNat + 1
  | .finish frame _ _ => frame = s.framesCompleted
  | _ => False

/-- What the loop does with a message: it steps the next input, it acknowledges a finish at its own
frame, it throws at everything else, or, once the frame counter is at its limit, it traps at an
input. -/
theorem handle_cases (s : DisplayThread σ) (m : TwoPhoneMessage) :
    (∃ input, m = .input input ∧ s.Accepts m ∧ s.handle m = s.goto (.startingClock input)) ∨
    (∃ success detail, m = .finish s.framesCompleted success detail ∧
      s.handle m = s.goto (.sendingFinishAcknowledgement success detail)) ∨
    (∃ error, ¬ s.Accepts m ∧ s.handle m = s.throwing error) ∨
    (∃ input, m = .input input ∧ s.framesCompleted.toNat + 1 = UInt64.size ∧
      s.handle m = s.goto .trapped) := by
  cases m with
  | input input =>
    cases hnext : checkedAdd s.framesCompleted 1 with
    | none =>
      right; right; right
      have hle := checkedAdd_eq_none.mp hnext
      have hlt := s.framesCompleted.toNat_lt
      refine ⟨input, rfl, ?_, by simp only [handle, hnext]⟩
      change UInt64.size ≤ s.framesCompleted.toNat + 1 at hle
      change s.framesCompleted.toNat < UInt64.size at hlt
      omega
    | some expected =>
      have hsum : expected.toNat = s.framesCompleted.toNat + 1 := checkedAdd_eq_some hnext
      by_cases hf : input.frame = expected
      · left
        refine ⟨input, rfl, ?_, by simp only [handle, hnext, hf, ne_eq, not_true_eq_false,
          if_false]⟩
        rw [Accepts, hf, hsum]
      · right; right; left
        refine ⟨_, ?_, by simp only [handle, hnext, if_pos hf]; rfl⟩
        rw [Accepts, ← hsum]
        exact fun h => hf (UInt64.toNat_inj.mp h)
  | finish frame success detail =>
    by_cases hf : frame = s.framesCompleted
    · right; left
      subst hf
      exact ⟨success, detail, rfl, if_neg (not_not.mpr rfl)⟩
    · right; right; left
      exact ⟨_, hf, if_pos hf⟩
  | _ => exact .inr (.inr (.inl ⟨_, id, rfl⟩))

/-- The counters after a frame was stepped. -/
def counted (S : TwoPhoneSession σ) (s : DisplayThread σ) (input : DSInputFrame)
    (digest : Option EmulatorDigest) : DisplayThread σ :=
  let s := { s with framesCompleted := input.frame }
  if S.shouldCreateDigest input.frame then
    { s with checkpoints := s.checkpoints + 1, lastDigest := digest }
  else s

section Counted

variable (S : TwoPhoneSession σ) (s : DisplayThread σ) (input : DSInputFrame)
  (digest : Option EmulatorDigest)

/-- Counting a frame leaves the snapshot alone. -/
@[simp] theorem counted_snapshot : (s.counted S input digest).snapshot = s.snapshot := by
  unfold counted
  split <;> rfl

/-- A frame is counted. -/
@[simp] theorem counted_framesCompleted :
    (s.counted S input digest).framesCompleted = input.frame := by
  unfold counted
  split <;> rfl

/-- A checkpoint is counted on schedule. -/
@[simp] theorem counted_checkpoints :
    (s.counted S input digest).checkpoints =
      s.checkpoints + if S.shouldCreateDigest input.frame then 1 else 0 := by
  unfold counted
  split <;> rfl

/-- The digest of a checkpoint is kept. -/
@[simp] theorem counted_lastDigest :
    (s.counted S input digest).lastDigest =
      if S.shouldCreateDigest input.frame then digest else s.lastDigest := by
  unfold counted
  split <;> rfl

/-- Counting a frame does not read the clock. -/
@[simp] theorem counted_uptime : (s.counted S input digest).uptime = s.uptime := by
  unfold counted
  split <;> rfl

/-- Counting a frame does not call the host. -/
@[simp] theorem counted_host : (s.counted S input digest).host = s.host := by
  unfold counted
  split <;> rfl

end Counted

/-- From the second reading of the clock to the call of `send`. -/
def measured (S : TwoPhoneSession σ) (s : DisplayThread σ) (input : DSInputFrame)
    (digest : Option EmulatorDigest) (processingStarted processingFinished : UInt64) :
    DisplayThread σ :=
  match checkedSub processingFinished processingStarted with
  | none => s.goto .trapped
  | some processingNanoseconds =>
    (s.counted S input digest).goto (.acknowledging ⟨input.frame, digest, processingNanoseconds⟩)

/-- On a clock that does not go back, the difference of its readings does not trap. -/
theorem measured_eq {S : TwoPhoneSession σ} {s : DisplayThread σ} {input : DSInputFrame}
    {digest : Option EmulatorDigest} {started finished : UInt64} (h : started ≤ finished) :
    s.measured S input digest started finished =
      (s.counted S input digest).goto
        (.acknowledging ⟨input.frame, digest, finished - started⟩) := by
  rw [measured, checkedSub, if_pos h]

/-- The outcome that `runDisplay` returns. -/
def outcome (s : DisplayThread σ) (success : Bool) (detail : String) :
    TwoPhoneSessionOutcome where
  success := success
  framesCompleted := s.framesCompleted
  finalDigest := s.lastDigest
  checkpointsCompared := s.checkpoints
  snapshotBytes := s.snapshot.length
  detail := detail

/-- A thread that reads the clock: the reading is not below the last one. -/
def onClock (s : DisplayThread σ) (done : UInt64 → DisplayThread σ) :
    SessionEvent → Option (DisplayThread σ)
  | .clockRead t => if s.uptime ≤ t then some (done t) else none
  | _ => none

/-- The clock does not run backwards. -/
theorem onClock_eq_some {s t : DisplayThread σ} {done : UInt64 → DisplayThread σ}
    {e : SessionEvent} :
    s.onClock done e = some t ↔ ∃ u, e = .clockRead u ∧ s.uptime ≤ u ∧ t = done u := by
  cases e <;> simp [onClock, eq_comm]

/-- One call of the display's thread, in the order of the source. -/
def call (S : TwoPhoneSession σ) (s : DisplayThread σ) (e : SessionEvent) :
    Option (DisplayThread σ) :=
  match s.phase with
  | .preparing =>
    on .prepared { s with phase := .connecting, host := S.prepareForSynchronization s.host } e
  | .connecting =>
    on .connected (s.goto .activating) e <|>
      on .connectFailed (s.goto (.ended (.error .transport))) e
  | .activating =>
    -- A refused transport is closed before `activate` throws.
    on .activated (s.goto .sendingHello) e <|>
      on .activationRefused (s.goto (.closing (.error .cancelled))) e
  | .sendingHello => onSend S.hello (s.goto .receivingHello) (s.throwing .transport) e
  | .receivingHello =>
    onReceive (fun m =>
      match S.validateHello m with
      | .ok () => s.goto .receivingSnapshot
      | .error error => s.throwing error) (s.throwing .transport) e
  | .receivingSnapshot =>
    onReceive (fun m =>
      match m with
      | .snapshot snapshot expectedStateHash =>
        { s with snapshot := snapshot, phase := .loadingSnapshot expectedStateHash }
      | _ => s.throwing (malformed "controller did not send a shared snapshot"))
      (s.throwing .transport) e
  | .loadingSnapshot expectedStateHash =>
    let (result, host) := S.loadSnapshot s.snapshot s.host
    let s := { s with host := host }
    on (.loadedSnapshot s.snapshot result)
      (match result with
      | .ok () => s.goto (.hashingState expectedStateHash)
      | .error error => s.throwing error) e
  | .hashingState expectedStateHash =>
    let (stateHash, host) := S.snapshotStateHash s.host
    let s := { s with host := host }
    on (.hashed stateHash)
      (if stateHash ≠ expectedStateHash then s.goto (.sendingFailure hashMismatchDetail)
      else s.goto .sendingReady) e
  | .sendingFailure detail =>
    onSend (.failure detail) (s.throwing (malformed detail)) (s.throwing .transport) e
  | .sendingReady => onSend .ready (s.goto .receivingStart) (s.throwing .transport) e
  | .receivingStart =>
    onReceive (fun m =>
      if m = .start then s.goto .resuming
      else s.throwing (malformed "controller did not start the verified snapshot"))
      (s.throwing .transport) e
  | .resuming =>
    on .resumed { s with phase := .receiving, host := S.resumeAfterSynchronization s.host } e
  | .receiving => onReceive s.handle (s.throwing .transport) e
  | .startingClock input =>
    s.onClock (fun t => { s with uptime := t, phase := .steppingFrame input t }) e
  | .steppingFrame input processingStarted =>
    let needsDigest := S.shouldCreateDigest input.frame
    let (digest, host) := S.stepFrame input needsDigest s.host
    on (.stepped input.frame input needsDigest digest)
      { s with host := host, phase := .stoppingClock input digest processingStarted } e
  | .stoppingClock input digest processingStarted =>
    s.onClock (fun t => measured S { s with uptime := t } input digest processingStarted t) e
  | .acknowledging acknowledgement =>
    onSend (.acknowledgement acknowledgement) (s.goto .receiving) (s.throwing .transport) e
  | .sendingFinishAcknowledgement success detail =>
    onSend .finishAcknowledgement (s.goto (.deactivating (.ok (s.outcome success detail))))
      (s.throwing .transport) e
  | .deactivating result => on .deactivated (s.goto (.closing result)) e
  | .closing result => on (.operation .closed) (s.goto (.ended result)) e
  | .ended _ => none
  | .trapped => none

/-- One call of the thread in its process: past the largest `Int`, `checkpoints += 1` has trapped.
-/
def step (S : TwoPhoneSession σ) (s : DisplayThread σ) (e : SessionEvent) :
    Option (DisplayThread σ) :=
  if s.checkpoints < 2 ^ 63 then s.call S e else none

/-- A step is a call. -/
theorem call_of_step {S : TwoPhoneSession σ} {s t : DisplayThread σ} {e : SessionEvent}
    (h : s.step S e = some t) : s.call S e = some t :=
  (Option.ite_none_right_eq_some.mp h).2

/-- A thread that makes a step has not counted past the largest `Int`. -/
theorem counted_of_step {S : TwoPhoneSession σ} {s t : DisplayThread σ} {e : SessionEvent}
    (h : s.step S e = some t) : s.checkpoints < 2 ^ 63 :=
  (Option.ite_none_right_eq_some.mp h).1

/-- Before that, a call is a step. -/
theorem step_eq_call (S : TwoPhoneSession σ) {s : DisplayThread σ} (h : s.checkpoints < 2 ^ 63)
    (e : SessionEvent) : s.step S e = s.call S e := if_pos h

/-- What is left of `run()` on its way out, and how far a trace `post` has got with it. -/
def Leaving (result : SessionResult) (post : List SessionEvent) (s : DisplayThread σ) : Prop :=
  (post = [] ∧ s.phase = .deactivating result) ∨
    (post = [.deactivated] ∧ s.phase = .closing result) ∨
    (post = [.deactivated, .operation .closed] ∧ s.phase = .ended result)

/-- A thread on its way out makes the calls of the `defer` block and no other. -/
theorem leaving_of_exec {S : TwoPhoneSession σ} {s t : DisplayThread σ} {result : SessionResult}
    {post : List SessionEvent} (hs : s.phase = .deactivating result)
    (h : Automaton.exec (step S) s post = some t) : Leaving result post t := by
  refine Automaton.exec_invariant (I := Leaving result) (.inl ⟨rfl, hs⟩) ?_ h
  intro post u e v hu hstep
  replace hstep := call_of_step hstep
  unfold call at hstep
  rcases hu with ⟨rfl, hp⟩ | ⟨rfl, hp⟩ | ⟨rfl, hp⟩ <;> rw [hp] at hstep <;> dsimp only at hstep
  · obtain ⟨rfl, rfl⟩ := SessionEvent.on_eq_some.mp hstep
    exact .inr (.inl ⟨rfl, rfl⟩)
  · obtain ⟨rfl, rfl⟩ := SessionEvent.on_eq_some.mp hstep
    exact .inr (.inr ⟨rfl, rfl⟩)
  · exact absurd hstep (Option.some_ne_none _).symm

/-- The thread receives at four places; during the handshake it throws at what it does not
expect. -/
theorem step_received {S : TwoPhoneSession σ} {s t : DisplayThread σ} {m : TwoPhoneMessage}
    (h : s.step S (.operation (.received m)) = some t) :
    (s.phase = .receivingHello ∧ (m ≠ S.hello → ∃ error, t = s.throwing error)) ∨
      (s.phase = .receivingSnapshot ∧ ((∀ snapshot stateHash, m ≠ .snapshot snapshot stateHash) →
        ∃ error, t = s.throwing error)) ∨
      (s.phase = .receivingStart ∧ (m ≠ .start → ∃ error, t = s.throwing error)) ∨
      (s.phase = .receiving ∧ t = s.handle m) := by
  replace h := call_of_step h
  unfold call at h
  cases hp : s.phase <;> rw [hp] at h <;> dsimp only [onReceive] at h
  case receivingHello =>
    refine .inl ⟨rfl, fun hm => ?_⟩
    cases hv : S.validateHello m with
    | ok u => exact absurd ((S.validateHello_eq_ok m).mp hv) hm
    | error error =>
      rw [hv, Option.some.injEq] at h
      exact ⟨error, h.symm⟩
  case receivingSnapshot =>
    refine .inr (.inl ⟨rfl, fun hm => ?_⟩)
    cases m with
    | snapshot snapshot stateHash => exact absurd rfl (hm snapshot stateHash)
    | _ => exact ⟨_, (Option.some.inj h).symm⟩
  case receivingStart =>
    refine .inr (.inr (.inl ⟨rfl, fun hm => ?_⟩))
    rw [if_neg hm, Option.some.injEq] at h
    exact ⟨_, h.symm⟩
  case receiving => exact .inr (.inr (.inr ⟨rfl, (Option.some.inj h).symm⟩))
  all_goals simp_all [SessionEvent.on, onSend, onClock]

/-- Where an operation of the thread fails, it throws. -/
theorem step_fails {S : TwoPhoneSession σ} {s t : DisplayThread σ} {e : SessionEvent}
    (he : e.Fails) (h : s.step S e = some t) : ∃ error, t = s.throwing error := by
  replace h := call_of_step h
  unfold call at h
  cases hp : s.phase <;> rw [hp] at h
  all_goals
    unfold SessionEvent.Fails at he
    split at he <;> simp_all [SessionEvent.on, onSend, onReceive, onClock]
  all_goals first | exact ⟨_, h.symm⟩ | exact ⟨_, h.2.symm⟩

/-- The thread sends a finish acknowledgement at one place. -/
theorem step_finishAcknowledgement {S : TwoPhoneSession σ} {s t : DisplayThread σ}
    {e : SessionEvent}
    (he : e = .operation (.sent .finishAcknowledgement) ∨
      e = .operation (.sendFailed .finishAcknowledgement))
    (h : s.step S e = some t) :
    ∃ success detail result, s.phase = .sendingFinishAcknowledgement success detail ∧
      t = s.goto (.deactivating result) := by
  replace h := call_of_step h
  unfold call at h
  rcases he with rfl | rfl <;> cases hp : s.phase <;> rw [hp] at h <;>
    simp_all [SessionEvent.on, onSend, onReceive, onClock, TwoPhoneSession.hello, throwing]
  all_goals exact ⟨_, h.symm⟩

/-- A snapshot that does not load is thrown at. -/
theorem step_loadedSnapshot {S : TwoPhoneSession σ} {s t : DisplayThread σ} {snapshot : Data}
    {error : SessionError} (h : s.step S (.loadedSnapshot snapshot (.error error)) = some t) :
    ∃ host, t = throwing { s with host := host } error := by
  replace h := call_of_step h
  unfold call at h
  cases hp : s.phase <;> rw [hp] at h
  case loadingSnapshot expected =>
    obtain ⟨he, rfl⟩ := SessionEvent.on_eq_some.mp h
    obtain ⟨-, hresult⟩ := SessionEvent.loadedSnapshot.inj he
    rw [← hresult]
    exact ⟨_, rfl⟩
  all_goals simp_all [SessionEvent.on, onSend, onReceive, onClock]

/-- The loaded state is hashed once, and compared with the hash that came with the snapshot. -/
theorem step_hashed {S : TwoPhoneSession σ} {s t : DisplayThread σ} {stateHash : UInt64}
    (h : s.step S (.hashed stateHash) = some t) :
    ∃ expected, s.phase = .hashingState expected ∧
      (stateHash ≠ expected → t.phase = .sendingFailure hashMismatchDetail) := by
  replace h := call_of_step h
  unfold call at h
  cases hp : s.phase <;> rw [hp] at h
  case hashingState expected =>
    refine ⟨expected, rfl, fun hne => ?_⟩
    obtain ⟨hhash, rfl⟩ := SessionEvent.on_eq_some.mp h
    rw [SessionEvent.hashed.inj hhash] at hne
    rw [if_pos hne]
    rfl
  all_goals simp_all [SessionEvent.on, onSend, onReceive, onClock]

/-- Once the states differ, the thread sends its failure and leaves. -/
theorem exec_sendingFailure {S : TwoPhoneSession σ} {s t : DisplayThread σ} {detail : String}
    {post : List SessionEvent} (hs : s.phase = .sendingFailure detail)
    (h : Automaton.exec (step S) s post = some t) :
    (post = [] ∧ t.phase = .sendingFailure detail) ∨ ∃ e rest error, post = e :: rest ∧
      (e = .operation (.sent (.failure detail)) ∨ e = .operation (.sendFailed (.failure detail))) ∧
      Leaving (.error error) rest t := by
  cases post with
  | nil =>
    rw [Automaton.exec_nil, Option.some.injEq] at h
    subst h
    exact .inl ⟨rfl, hs⟩
  | cons e rest =>
    rw [Automaton.exec_cons, Option.bind_eq_some_iff] at h
    obtain ⟨u, hu, ht⟩ := h
    replace hu := call_of_step hu
    unfold call at hu
    rw [hs] at hu
    right
    rcases SessionEvent.onSend_eq_some.mp hu with ⟨rfl, rfl⟩ | ⟨rfl, rfl⟩
    · exact ⟨_, rest, _, rfl, .inl rfl, leaving_of_exec rfl ht⟩
    · exact ⟨_, rest, _, rfl, .inr rfl, leaving_of_exec rfl ht⟩

end DisplayThread

end DSEmu

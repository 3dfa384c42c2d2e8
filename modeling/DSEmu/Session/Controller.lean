import DSEmu.Library.Automaton
import DSEmu.Session.Session

/-!
# The controller's main thread

`runController`, `finishController`, and `receiveControllerAcknowledgement` of
`DSEmu/TwoPhone/TwoPhoneSession.swift`, as a machine. A `ControllerPhase` is the call that the
thread is in; between two calls the thread computes on its own variables, which the functions below
do as the source does. `inbox.next()` is a call whose result is the environment's here; the inbox
itself and the thread that fills it are in `Session/Inbox.lean`.

The counter `frame` is a `UInt64` and the sums of `DisplayFrameTiming` are checked as Swift checks
them: where one overflows, the process traps and the thread does nothing more. The counter
`checkpoints` is an `Int` in the source; here it is a natural number, and a thread whose counter has
come to `2^63` is one that has trapped in `checkpoints += 1` and makes no call any more (`step`).
-/

namespace DSEmu

open SessionEvent (on onSend onReceive onNext)

/-- `DisplayFrameTiming`; the averages are read by the status texts only. -/
structure DisplayFrameTiming where
  totalNanoseconds : UInt64 := 0
  maximumNanoseconds : UInt64 := 0
  frameCount : UInt64 := 0
  deriving DecidableEq, Repr

/-- `record`, with Swift's checked sums: `none` is the trap. -/
def DisplayFrameTiming.record (t : DisplayFrameTiming) (nanoseconds : UInt64) :
    Option DisplayFrameTiming := do
  let total ← checkedAdd t.totalNanoseconds nanoseconds
  let count ← checkedAdd t.frameCount 1
  return {
    totalNanoseconds := total
    maximumNanoseconds := max t.maximumNanoseconds nanoseconds
    frameCount := count }

/-- A recorded time is added to the total and counted. -/
theorem DisplayFrameTiming.record_eq_some {t t' : DisplayFrameTiming} {nanoseconds : UInt64}
    (h : t.record nanoseconds = some t') :
    t'.totalNanoseconds.toNat = t.totalNanoseconds.toNat + nanoseconds.toNat ∧
      t'.frameCount.toNat = t.frameCount.toNat + 1 := by
  unfold record at h
  simp only [Option.bind_eq_bind, Option.bind_eq_some_iff, Option.pure_def,
    Option.some.injEq] at h
  obtain ⟨total, htotal, count, hcount, rfl⟩ := h
  exact ⟨checkedAdd_eq_some htotal, checkedAdd_eq_some hcount⟩

/-- While the count is below its limit, a time is recorded unless the total overflows. -/
theorem DisplayFrameTiming.record_eq_none {t : DisplayFrameTiming} {nanoseconds : UInt64}
    (hcount : t.frameCount.toNat + 1 < UInt64.size) :
    t.record nanoseconds = none ↔
      UInt64.size ≤ t.totalNanoseconds.toNat + nanoseconds.toNat := by
  have hsome : checkedAdd t.frameCount 1 = some (t.frameCount + 1) := if_pos hcount
  rw [← checkedAdd_eq_none]
  unfold record
  rw [hsome]
  cases checkedAdd t.totalNanoseconds nanoseconds <;> simp

/-- An element of `pendingFrames`: a frame that was sent and stepped, and is not acknowledged. -/
structure PendingFrame where
  frame : UInt64
  needsDigest : Bool
  digest : Option EmulatorDigest
  deriving DecidableEq, Repr

/-- The two loops that wait for acknowledgements: for room in the window, and at a checkpoint until
no frame is pending. -/
inductive AcknowledgementLoop where
  | window
  | checkpoint
  deriving DecidableEq, Repr

/-- The call that the controller's main thread is in. The phases from `stoppingInbox` on run the
`defer` blocks, innermost first, on the way out of `run()` with the given result. -/
inductive ControllerPhase where
  | preparing
  | connecting
  | activating
  | receivingHello
  | sendingHello
  | makingSnapshot
  | hashingState
  | sendingSnapshot (stateHash : UInt64)
  | receivingReady
  | sendingStart
  | resuming
  | startingInbox
  | awaitingAcknowledgement (loop : AcknowledgementLoop)
  | providingInput
  | sendingInput (input : DSInputFrame)
  | steppingFrame (input : DSInputFrame)
  | sendingFinish (success : Bool) (detail : String)
  | awaitingFinish (success : Bool) (detail : String)
  | stoppingInbox (result : SessionResult)
  | closingInbox (result : SessionResult)
  | deactivating (result : SessionResult)
  | closing (result : SessionResult)
  | ended (result : SessionResult)
  | trapped

/-- The outcome with which `run()` has returned. -/
def ControllerPhase.outcome? : ControllerPhase → Option TwoPhoneSessionOutcome
  | ended (.ok o) => some o
  | _ => none

/-- An outcome is that of a thread that has returned it. -/
theorem ControllerPhase.outcome?_eq_some {p : ControllerPhase} {o : TwoPhoneSessionOutcome} :
    p.outcome? = some o ↔ p = .ended (.ok o) := by
  unfold outcome?
  split
  · simp
  · rename_i hother
    simpa using hother o

/-- `run()` has trapped. -/
def ControllerPhase.hasTrapped : ControllerPhase → Bool
  | trapped => true
  | _ => false

/-- The phase of a trap. -/
theorem ControllerPhase.hasTrapped_iff {p : ControllerPhase} : p.hasTrapped ↔ p = .trapped := by
  cases p <;> simp [hasTrapped]

/-- The controller's main thread: the call it is in, the variables of `runController`, and the state
of the phone. -/
structure ControllerThread (σ : Type) where
  phase : ControllerPhase := .preparing
  snapshot : Data := []
  frame : UInt64 := 0
  checkpoints : ℕ := 0
  lastDigest : Option EmulatorDigest := none
  pendingFrames : List PendingFrame := []
  displayFrameTiming : DisplayFrameTiming := {}
  host : σ

/-- What `receiveControllerAcknowledgement` does with the message that `inbox.next()` returned: it
returns, with the text of a failed comparison if there is one, it throws, or it traps. -/
inductive AcknowledgementOutcome (σ : Type) where
  | returned (failure : Option String) (s : ControllerThread σ)
  | threw (error : SessionError)
  | trapped

namespace ControllerThread

variable {σ : Type}

/-- The thread in another phase, with the same variables. -/
def goto (s : ControllerThread σ) (p : ControllerPhase) : ControllerThread σ :=
  { s with phase := p }

@[simp] theorem goto_phase (s : ControllerThread σ) (p : ControllerPhase) :
    (s.goto p).phase = p := rfl

@[simp] theorem goto_snapshot (s : ControllerThread σ) (p : ControllerPhase) :
    (s.goto p).snapshot = s.snapshot := rfl

@[simp] theorem goto_frame (s : ControllerThread σ) (p : ControllerPhase) :
    (s.goto p).frame = s.frame := rfl

@[simp] theorem goto_checkpoints (s : ControllerThread σ) (p : ControllerPhase) :
    (s.goto p).checkpoints = s.checkpoints := rfl

@[simp] theorem goto_lastDigest (s : ControllerThread σ) (p : ControllerPhase) :
    (s.goto p).lastDigest = s.lastDigest := rfl

@[simp] theorem goto_pendingFrames (s : ControllerThread σ) (p : ControllerPhase) :
    (s.goto p).pendingFrames = s.pendingFrames := rfl

@[simp] theorem goto_displayFrameTiming (s : ControllerThread σ) (p : ControllerPhase) :
    (s.goto p).displayFrameTiming = s.displayFrameTiming := rfl

@[simp] theorem goto_host (s : ControllerThread σ) (p : ControllerPhase) :
    (s.goto p).host = s.host := rfl

/-- `throw` once the transport is active and before the inbox is started. -/
def throwEarly (s : ControllerThread σ) (error : SessionError) : ControllerThread σ :=
  s.goto (.deactivating (.error error))

/-- `throw` once the inbox is started. -/
def throwLate (s : ControllerThread σ) (error : SessionError) : ControllerThread σ :=
  s.goto (.stoppingInbox (.error error))

/-- The start of `receiveControllerAcknowledgement`: it looks at the oldest pending frame before it
calls `inbox.next()`. -/
def awaitAcknowledgement (s : ControllerThread σ) (loop : AcknowledgementLoop) :
    ControllerThread σ :=
  match s.pendingFrames with
  | [] => s.throwLate (malformed "received an acknowledgement with no pending frame")
  | _ :: _ => s.goto (.awaitingAcknowledgement loop)

/-- `frame += 1`, before the input of the new frame is asked for. -/
def beginFrame (s : ControllerThread σ) : ControllerThread σ :=
  match checkedAdd s.frame 1 with
  | none => s.goto .trapped
  | some frame => { s with frame := frame, phase := .providingInput }

/-- The inner loop `while pendingFrames.count >= maximumInFlightFrames`, and what follows it. -/
def fillWindow (S : TwoPhoneSession σ) (s : ControllerThread σ) : ControllerThread σ :=
  if S.configuration.frameWindow ≤ s.pendingFrames.length then s.awaitAcknowledgement .window
  else s.beginFrame

/-- The text of a passed proof. -/
def passedDetail (checkpoints : ℕ) : String :=
  s!"All {checkpoints} state and framebuffer checkpoints matched"

/-- The condition of the main loop, and what follows it on either side. -/
def mainLoop (S : TwoPhoneSession σ) (s : ControllerThread σ) : ControllerThread σ :=
  if (S.configuration.testFrameLimit.map fun limit => decide (s.frame < limit)).getD true then
    s.fillWindow S
  else s.goto (.sendingFinish true (passedDetail s.checkpoints))

/-- The inner loop `while !pendingFrames.isEmpty` at a checkpoint, and what follows it. -/
def drainCheckpoint (S : TwoPhoneSession σ) (s : ControllerThread σ) : ControllerThread σ :=
  if s.pendingFrames.isEmpty then s.mainLoop S else s.awaitAcknowledgement .checkpoint

/-- The next pass through the loop that waited for an acknowledgement. -/
def continueLoop (S : TwoPhoneSession σ) (s : ControllerThread σ) :
    AcknowledgementLoop → ControllerThread σ
  | .window => s.fillWindow S
  | .checkpoint => s.drainCheckpoint S

/-- The text of a checkpoint at which a digest is missing. -/
def missingDigestDetail (frame : UInt64) : String :=
  s!"Missing determinism digest at frame {frame}"

/-- The text of a checkpoint at which the digests differ. -/
def mismatchDetail (frame : UInt64) (localDigest remoteDigest : EmulatorDigest) : String :=
  s!"State mismatch at frame {frame}: controller=" ++ localDigest.description ++ ", display=" ++
    remoteDigest.description

/-- The comparison of the two digests of a checkpoint: the text of its failure, if it fails. -/
def digestFailure (pending : PendingFrame) (remoteDigest : Option EmulatorDigest) : Option String :=
  match pending.digest, remoteDigest with
  | some localDigest, some remoteDigest =>
    if localDigest ≠ remoteDigest then
      some (mismatchDetail pending.frame localDigest remoteDigest)
    else none
  | _, _ => some (missingDigestDetail pending.frame)

/-- The comparison passes exactly when both digests are there and equal. -/
theorem digestFailure_eq_none {pending : PendingFrame} {remoteDigest : Option EmulatorDigest} :
    digestFailure pending remoteDigest = none ↔
      pending.digest.isSome ∧ remoteDigest = pending.digest := by
  obtain ⟨frame, needsDigest, digest⟩ := pending
  cases digest <;> cases remoteDigest <;> simp [digestFailure, eq_comm]

/-- `receiveControllerAcknowledgement`, from the return of `inbox.next()` on. -/
def receiveControllerAcknowledgement (s : ControllerThread σ) (m : TwoPhoneMessage) :
    AcknowledgementOutcome σ :=
  match s.pendingFrames with
  | [] => .threw (malformed "received an acknowledgement with no pending frame")
  | pending :: rest =>
    match m with
    | .acknowledgement acknowledgement =>
      if acknowledgement.frame ≠ pending.frame then
        .threw (malformed
          s!"display acknowledged frame {acknowledgement.frame}, expected {pending.frame}")
      else
        match s.displayFrameTiming.record acknowledgement.processingNanoseconds with
        | none => .trapped
        | some timing =>
          let s := { s with pendingFrames := rest, displayFrameTiming := timing }
          if pending.needsDigest then
            let s := { s with checkpoints := s.checkpoints + 1, lastDigest := pending.digest }
            match digestFailure pending acknowledgement.digest with
            | some failure => .returned (some failure) s
            | none => .returned none { s with displayFrameTiming := {} }
          else .returned none s
    | _ => .threw (malformed s!"expected acknowledgement for frame {pending.frame}")

/-- Either loop, once `inbox.next()` has returned. -/
def acknowledged (S : TwoPhoneSession σ) (s : ControllerThread σ) (loop : AcknowledgementLoop)
    (m : TwoPhoneMessage) : ControllerThread σ :=
  match s.receiveControllerAcknowledgement m with
  | .returned none s' => s'.continueLoop S loop
  | .returned (some failure) s' => s'.goto (.sendingFinish false failure)
  | .threw error => s.throwLate error
  | .trapped => s.goto .trapped

/-- The variables after the acknowledgement of a frame that is not a checkpoint. -/
def counted (s : ControllerThread σ) (rest : List PendingFrame) (timing : DisplayFrameTiming) :
    ControllerThread σ :=
  { s with pendingFrames := rest, displayFrameTiming := timing }

/-- The variables after the acknowledgement of a checkpoint. -/
def compared (s : ControllerThread σ) (pending : PendingFrame) (rest : List PendingFrame)
    (timing : DisplayFrameTiming) : ControllerThread σ :=
  { s with
    pendingFrames := rest
    displayFrameTiming := timing
    checkpoints := s.checkpoints + 1
    lastDigest := pending.digest }

/-- What either loop does with a message when a frame is pending: the acknowledgement of that frame
is recorded, which may trap, and compared at a checkpoint; everything else is thrown at. -/
theorem acknowledged_cases (S : TwoPhoneSession σ) {s : ControllerThread σ}
    {pending : PendingFrame} {rest : List PendingFrame} (hp : s.pendingFrames = pending :: rest)
    (loop : AcknowledgementLoop) (m : TwoPhoneMessage) :
    (∃ a, m = .acknowledgement a ∧ a.frame = pending.frame ∧
      ((s.displayFrameTiming.record a.processingNanoseconds = none ∧
          s.acknowledged S loop m = s.goto .trapped) ∨
        ∃ timing, s.displayFrameTiming.record a.processingNanoseconds = some timing ∧
          ((pending.needsDigest = false ∧
              s.acknowledged S loop m = (s.counted rest timing).continueLoop S loop) ∨
            (pending.needsDigest = true ∧ digestFailure pending a.digest = none ∧
              s.acknowledged S loop m = (s.compared pending rest {}).continueLoop S loop) ∨
            (pending.needsDigest = true ∧ ∃ failure, digestFailure pending a.digest = some failure ∧
              s.acknowledged S loop m =
                (s.compared pending rest timing).goto (.sendingFinish false failure))))) ∨
    ((∀ a, m = .acknowledgement a → a.frame ≠ pending.frame) ∧
      ∃ error, s.acknowledged S loop m = s.throwLate error) := by
  unfold acknowledged receiveControllerAcknowledgement
  rw [hp]
  cases m with
  | acknowledgement a =>
    by_cases hf : a.frame = pending.frame
    · left
      refine ⟨a, rfl, hf, ?_⟩
      simp only [hf, ne_eq, not_true_eq_false, if_false]
      cases ht : s.displayFrameTiming.record a.processingNanoseconds with
      | none => exact .inl ⟨rfl, rfl⟩
      | some timing =>
        refine .inr ⟨timing, rfl, ?_⟩
        cases hd : pending.needsDigest with
        | false => exact .inl ⟨rfl, rfl⟩
        | true =>
          cases hfail : digestFailure pending a.digest with
          | none => exact .inr (.inl ⟨rfl, rfl, rfl⟩)
          | some failure => exact .inr (.inr ⟨rfl, failure, rfl, rfl⟩)
    · right
      simp only [ne_eq, hf, not_false_eq_true, if_true]
      refine ⟨?_, _, rfl⟩
      rintro _ ⟨⟩
      exact hf
  | _ => exact .inr ⟨nofun, _, rfl⟩

/-- The outcome that `finishController` returns. -/
def outcome (s : ControllerThread σ) (success : Bool) (detail : String) :
    TwoPhoneSessionOutcome where
  success := success
  framesCompleted := s.frame
  finalDigest := s.lastDigest
  checkpointsCompared := s.checkpoints
  snapshotBytes := s.snapshot.length
  detail := detail

/-- The end of `finishController`, once `receive()` has returned. -/
def finished (s : ControllerThread σ) (success : Bool) (detail : String) (m : TwoPhoneMessage) :
    ControllerThread σ :=
  if m = .finishAcknowledgement then
    s.goto (.stoppingInbox (.ok (s.outcome success detail)))
  else s.throwLate (malformed "display did not acknowledge session completion")

/-- One call of the controller's main thread, in the order of the source. -/
def call (S : TwoPhoneSession σ) (s : ControllerThread σ) (e : SessionEvent) :
    Option (ControllerThread σ) :=
  match s.phase with
  | .preparing =>
    on .prepared { s with phase := .connecting, host := S.prepareForSynchronization s.host } e
  | .connecting =>
    on .connected (s.goto .activating) e <|>
      on .connectFailed (s.goto (.ended (.error .transport))) e
  | .activating =>
    -- A refused transport is closed before `activate` throws.
    on .activated (s.goto .receivingHello) e <|>
      on .activationRefused (s.goto (.closing (.error .cancelled))) e
  | .receivingHello =>
    onReceive (fun m =>
      match S.validateHello m with
      | .ok () => s.goto .sendingHello
      | .error error => s.throwEarly error) (s.throwEarly .transport) e
  | .sendingHello => onSend S.hello (s.goto .makingSnapshot) (s.throwEarly .transport) e
  | .makingSnapshot =>
    let (result, host) := S.makeSnapshot s.host
    let s := { s with host := host }
    on (.madeSnapshot result)
      (match result with
      | .ok snapshot => { s with snapshot := snapshot, phase := .hashingState }
      | .error error => s.throwEarly error) e
  | .hashingState =>
    let (stateHash, host) := S.snapshotStateHash s.host
    on (.hashed stateHash) { s with host := host, phase := .sendingSnapshot stateHash } e
  | .sendingSnapshot stateHash =>
    onSend (.snapshot s.snapshot stateHash) (s.goto .receivingReady) (s.throwEarly .transport) e
  | .receivingReady =>
    onReceive (fun m =>
      if m = .ready then s.goto .sendingStart
      else s.throwEarly (malformed "display did not acknowledge the snapshot"))
      (s.throwEarly .transport) e
  | .sendingStart => onSend .start (s.goto .resuming) (s.throwEarly .transport) e
  | .resuming =>
    on .resumed { s with phase := .startingInbox, host := S.resumeAfterSynchronization s.host } e
  | .startingInbox => on .inboxStarted (s.mainLoop S) e
  | .awaitingAcknowledgement loop => onNext (s.acknowledged S loop) s.throwLate e
  | .providingInput =>
    let (input, host) := S.inputProvider s.frame s.host
    on (.provided s.frame input) { s with host := host, phase := .sendingInput input } e
  | .sendingInput input =>
    onSend (.input input) (s.goto (.steppingFrame input)) (s.throwLate .transport) e
  | .steppingFrame input =>
    let needsDigest := S.shouldCreateDigest s.frame
    let (digest, host) := S.stepFrame input needsDigest s.host
    let s := { s with
      host := host
      pendingFrames := s.pendingFrames ++ [PendingFrame.mk s.frame needsDigest digest] }
    on (.stepped s.frame input needsDigest digest)
      (if needsDigest then s.drainCheckpoint S else s.mainLoop S) e
  | .sendingFinish success detail =>
    onSend (.finish s.frame success detail) (s.goto (.awaitingFinish success detail))
      (s.throwLate .transport) e
  | .awaitingFinish success detail => onNext (s.finished success detail) s.throwLate e
  | .stoppingInbox result => on .inboxStopped (s.goto (.closingInbox result)) e
  | .closingInbox result => on (.operation .closed) (s.goto (.deactivating result)) e
  | .deactivating result => on .deactivated (s.goto (.closing result)) e
  | .closing result => on (.operation .closed) (s.goto (.ended result)) e
  | .ended _ => none
  | .trapped => none

/-- One call of the thread in its process: past the largest `Int`, `checkpoints += 1` has trapped.
-/
def step (S : TwoPhoneSession σ) (s : ControllerThread σ) (e : SessionEvent) :
    Option (ControllerThread σ) :=
  if s.checkpoints < 2 ^ 63 then s.call S e else none

/-- A step is a call. -/
theorem call_of_step {S : TwoPhoneSession σ} {s t : ControllerThread σ} {e : SessionEvent}
    (h : s.step S e = some t) : s.call S e = some t :=
  (Option.ite_none_right_eq_some.mp h).2

/-- A thread that makes a step has not counted past the largest `Int`. -/
theorem counted_of_step {S : TwoPhoneSession σ} {s t : ControllerThread σ} {e : SessionEvent}
    (h : s.step S e = some t) : s.checkpoints < 2 ^ 63 :=
  (Option.ite_none_right_eq_some.mp h).1

/-- Before that, a call is a step. -/
theorem step_eq_call (S : TwoPhoneSession σ) {s : ControllerThread σ} (h : s.checkpoints < 2 ^ 63)
    (e : SessionEvent) : s.step S e = s.call S e := if_pos h

/-- The thread itself receives at two places, and throws at what it does not expect. -/
theorem step_received {S : TwoPhoneSession σ} {s t : ControllerThread σ} {m : TwoPhoneMessage}
    (h : s.step S (.operation (.received m)) = some t) :
    (s.phase = .receivingHello ∧ (m ≠ S.hello → ∃ error, t = s.throwEarly error)) ∨
      (s.phase = .receivingReady ∧ (m ≠ .ready → ∃ error, t = s.throwEarly error)) := by
  replace h := call_of_step h
  unfold call at h
  cases hp : s.phase <;> rw [hp] at h <;> dsimp only [onReceive] at h
  case receivingHello =>
    refine .inl ⟨rfl, fun hm => ?_⟩
    cases hv : S.validateHello m with
    | ok u => exact absurd ((S.validateHello_eq_ok m).mp hv) hm
    | error error =>
      rw [hv, Option.some.injEq] at h
      exact ⟨error, h.symm⟩
  case receivingReady =>
    refine .inr ⟨rfl, fun hm => ?_⟩
    rw [if_neg hm, Option.some.injEq] at h
    exact ⟨_, h.symm⟩
  all_goals simp_all [on, onSend, onNext]

/-- Where an operation of the thread fails, it throws: before the inbox is started, or at the send
of an input or of the finish. -/
theorem step_fails {S : TwoPhoneSession σ} {s t : ControllerThread σ} {e : SessionEvent}
    (he : e.Fails) (h : s.step S e = some t) :
    (∃ error, t = s.throwEarly error) ∨ (∃ input, s.phase = .sendingInput input) ∨
      ∃ success detail, s.phase = .sendingFinish success detail := by
  replace h := call_of_step h
  unfold call at h
  cases hp : s.phase <;> rw [hp] at h
  case sendingInput input => exact .inr (.inl ⟨input, rfl⟩)
  case sendingFinish success detail => exact .inr (.inr ⟨success, detail, rfl⟩)
  all_goals
    left
    unfold SessionEvent.Fails at he
    split at he <;> simp_all [on, onSend, onReceive, onNext]
  all_goals first | exact ⟨_, h.symm⟩ | exact ⟨_, h.2.symm⟩

/-- What is left of `run()` on its way out past the inbox, and how far a trace `post` has got. -/
def Leaving (result : SessionResult) (post : List SessionEvent) (s : ControllerThread σ) : Prop :=
  (post = [] ∧ s.phase = .deactivating result) ∨
    (post = [.deactivated] ∧ s.phase = .closing result) ∨
    (post = [.deactivated, .operation .closed] ∧ s.phase = .ended result)

/-- What is left of `run()` on its way out once the inbox was started, and how far a trace `post`
has got: the inbox is stopped, which closes the transport, before the other `defer` block runs. -/
def LeavingInbox (result : SessionResult) (post : List SessionEvent) (s : ControllerThread σ) :
    Prop :=
  (post = [] ∧ s.phase = .stoppingInbox result) ∨
    (post = [.inboxStopped] ∧ s.phase = .closingInbox result) ∨
    ∃ rest, post = [.inboxStopped, .operation .closed] ++ rest ∧ Leaving result rest s

section WayOut

variable {S : TwoPhoneSession σ} {s t : ControllerThread σ} {result : SessionResult}
  {post : List SessionEvent} {e : SessionEvent}

/-- A step on the way out is the next call of the `defer` block. -/
theorem Leaving.step (h : Leaving result post s) (hs : s.step S e = some t) :
    Leaving result (post ++ [e]) t := by
  replace hs := ControllerThread.call_of_step hs
  unfold ControllerThread.call at hs
  rcases h with ⟨rfl, hp⟩ | ⟨rfl, hp⟩ | ⟨rfl, hp⟩ <;> rw [hp] at hs <;> dsimp only at hs
  · obtain ⟨rfl, rfl⟩ := SessionEvent.on_eq_some.mp hs
    exact .inr (.inl ⟨rfl, rfl⟩)
  · obtain ⟨rfl, rfl⟩ := SessionEvent.on_eq_some.mp hs
    exact .inr (.inr ⟨rfl, rfl⟩)
  · exact absurd hs (Option.some_ne_none _).symm

/-- A thread on its way out makes the calls of the `defer` block and no other. -/
theorem leaving_of_exec (hs : s.phase = .deactivating result)
    (h : Automaton.exec (step S) s post = some t) : Leaving result post t :=
  Automaton.exec_invariant (I := Leaving result) (.inl ⟨rfl, hs⟩)
    (fun _ _ _ _ hu hstep => hu.step hstep) h

/-- A thread on its way out makes the calls of both `defer` blocks and no other. -/
theorem leavingInbox_of_exec (hs : s.phase = .stoppingInbox result)
    (h : Automaton.exec (step S) s post = some t) : LeavingInbox result post t := by
  refine Automaton.exec_invariant (I := LeavingInbox result) (.inl ⟨rfl, hs⟩) ?_ h
  intro post u e v hu hstep
  rcases hu with ⟨rfl, hp⟩ | ⟨rfl, hp⟩ | ⟨rest, rfl, hleaving⟩
  · replace hstep := call_of_step hstep
    unfold call at hstep
    rw [hp] at hstep
    obtain ⟨rfl, rfl⟩ := SessionEvent.on_eq_some.mp hstep
    exact .inr (.inl ⟨rfl, rfl⟩)
  · replace hstep := call_of_step hstep
    unfold call at hstep
    rw [hp] at hstep
    obtain ⟨rfl, rfl⟩ := SessionEvent.on_eq_some.mp hstep
    exact .inr (.inr ⟨[], rfl, .inl ⟨rfl, rfl⟩⟩)
  · exact .inr (.inr ⟨rest ++ [e], List.append_assoc _ _ _, hleaving.step hstep⟩)

/-- The thread takes messages from the inbox at two places. -/
theorem step_next {m : TwoPhoneMessage} (h : s.step S (.next m) = some t) :
    (∃ loop, s.phase = .awaitingAcknowledgement loop ∧ t = s.acknowledged S loop m) ∨
      ∃ success detail, s.phase = .awaitingFinish success detail := by
  replace h := call_of_step h
  unfold call at h
  cases hp : s.phase <;> rw [hp] at h
  case awaitingAcknowledgement loop => exact .inl ⟨loop, rfl, (Option.some.inj h).symm⟩
  case awaitingFinish success detail => exact .inr ⟨success, detail, rfl⟩
  all_goals simp_all [on, onSend, onReceive]

/-- The thread sends inputs at one place. -/
theorem step_input {input : DSInputFrame} (he : e = .operation (.sent (.input input)) ∨
    e = .operation (.sendFailed (.input input))) (h : s.step S e = some t) :
    s.phase = .sendingInput input := by
  replace h := call_of_step h
  unfold call at h
  rcases he with rfl | rfl <;> cases hp : s.phase <;> rw [hp] at h <;>
    simp_all [on, onSend, onReceive, onNext, TwoPhoneSession.hello]

/-- After the call that sends the finish the thread only waits for its acknowledgement and
leaves. -/
theorem exec_awaitingFinish {success : Bool} {detail : String}
    (hs : s.phase = .awaitingFinish success detail)
    (h : Automaton.exec (step S) s post = some t) :
    (post = [] ∧ t.phase = .awaitingFinish success detail) ∨ ∃ e rest result, post = e :: rest ∧
      ((∃ m, e = .next m) ∨ ∃ error, e = .nextFailed error) ∧ LeavingInbox result rest t := by
  cases post with
  | nil =>
    rw [Automaton.exec_nil, Option.some.injEq] at h
    subst h
    exact .inl ⟨rfl, hs⟩
  | cons e rest =>
    rw [Automaton.exec_cons, Option.bind_eq_some_iff] at h
    obtain ⟨u, hu, ht⟩ := h
    replace hu := call_of_step hu
    unfold call at hu
    rw [hs] at hu
    right
    rcases SessionEvent.onNext_eq_some.mp hu with ⟨m, rfl, rfl⟩ | ⟨error, rfl, rfl⟩
    · unfold finished at ht
      split at ht
      · exact ⟨_, rest, _, rfl, .inl ⟨m, rfl⟩, leavingInbox_of_exec rfl ht⟩
      · exact ⟨_, rest, _, rfl, .inl ⟨m, rfl⟩, leavingInbox_of_exec rfl ht⟩
    · exact ⟨_, rest, _, rfl, .inr ⟨error, rfl⟩, leavingInbox_of_exec rfl ht⟩

/-- Once the session is to finish, the next call sends the finish. -/
theorem exec_sendingFinish {success : Bool} {detail : String}
    (hs : s.phase = .sendingFinish success detail)
    (h : Automaton.exec (step S) s post = some t) :
    (post = [] ∧ t.phase = .sendingFinish success detail) ∨ ∃ e rest, post = e :: rest ∧
      ((e = .operation (.sent (.finish s.frame success detail)) ∧ ∃ u : ControllerThread σ,
          u.phase = .awaitingFinish success detail ∧
            Automaton.exec (step S) u rest = some t) ∨
        (e = .operation (.sendFailed (.finish s.frame success detail)) ∧
          ∃ error, LeavingInbox (.error error) rest t)) := by
  cases post with
  | nil =>
    rw [Automaton.exec_nil, Option.some.injEq] at h
    subst h
    exact .inl ⟨rfl, hs⟩
  | cons e rest =>
    rw [Automaton.exec_cons, Option.bind_eq_some_iff] at h
    obtain ⟨u, hu, ht⟩ := h
    replace hu := call_of_step hu
    unfold call at hu
    rw [hs] at hu
    right
    rcases SessionEvent.onSend_eq_some.mp hu with ⟨rfl, rfl⟩ | ⟨rfl, rfl⟩
    · exact ⟨_, rest, rfl, .inl ⟨rfl, _, rfl, ht⟩⟩
    · exact ⟨_, rest, rfl, .inr ⟨rfl, _, leavingInbox_of_exec rfl ht⟩⟩

end WayOut

end ControllerThread

end DSEmu

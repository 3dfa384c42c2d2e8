import Mathlib.Data.List.Induction
import DSEmu.Session.Controller
import DSEmu.Session.Trace

/-!
# The traces of the controller's main thread

`ControllerTrace` says, phase by phase, what the trace of the controller's main thread looks like: a
part of the handshake (`controllerHandshake`), or the handshake followed by the loop. The loop keeps
a ledger (`LoopTrace`): the frames that it has stepped are the frames whose acknowledgements it has
consumed (`done`), followed by the frames that are pending. `ControllerIdle` ties the ledger to the
variables of the loop, and `ControllerExit` describes a trace at which `run()` starts on its way
out.

The environment is arbitrary: `inbox.next()` may return any message at any time, and any operation
of the transport may fail. One step preserves `ControllerTrace` (`ControllerTrace.step`), so it
holds after every run (`controllerTrace_of_exec`).
-/

namespace DSEmu

open Automaton (exec exec_invariant)

/-- A frame that the controller has stepped, with the acknowledgement that it has consumed for
it. -/
structure AcknowledgedFrame where
  step : SteppedFrame
  acknowledgement : FrameAcknowledgement
  deriving DecidableEq, Repr

/-- The element of `pendingFrames` for a frame stepped. -/
def SteppedFrame.pending (st : SteppedFrame) : PendingFrame :=
  ⟨st.frame, st.needsDigest, st.digest⟩

/-- The acknowledgement of a checkpoint carries the digest that the controller computed. -/
def AcknowledgedFrame.Verified (p : AcknowledgedFrame) : Prop :=
  p.step.needsDigest = true → p.step.digest.isSome ∧ p.acknowledgement.digest = p.step.digest

/-- An event of the controller's loop. -/
def SessionEvent.InLoop : SessionEvent → Prop
  | .next _ => True
  | .provided _ _ => True
  | .operation _ => True
  | .stepped _ _ _ _ => True
  | _ => False

/-- The frames stepped, by the ledger: those acknowledged, and those pending. -/
def ledgerSteps (done : List AcknowledgedFrame) (pending : List SteppedFrame) : List SteppedFrame :=
  done.map AcknowledgedFrame.step ++ pending

/-- What the display's durations sum to since the last acknowledgement of a checkpoint. -/
def durationSinceCheckpoint (c : TwoPhoneConfiguration) (acks : List FrameAcknowledgement) : ℕ :=
  ((acks.reverse.takeWhile fun a => !c.shouldCreateDigest a.frame).map
    fun a => a.processingNanoseconds.toNat).sum

/-- The next acknowledgement adds its duration, or starts from zero at a checkpoint. -/
theorem durationSinceCheckpoint_concat (c : TwoPhoneConfiguration)
    (acks : List FrameAcknowledgement) (a : FrameAcknowledgement) :
    durationSinceCheckpoint c (acks ++ [a]) =
      if c.shouldCreateDigest a.frame then 0
      else durationSinceCheckpoint c acks + a.processingNanoseconds.toNat := by
  unfold durationSinceCheckpoint
  rw [List.reverse_append, List.reverse_singleton, List.singleton_append, List.takeWhile_cons]
  cases h : c.shouldCreateDigest a.frame with
  | true => simp
  | false => simp [Nat.add_comm]

/-- The durations since a checkpoint are a part of all durations. -/
theorem durationSinceCheckpoint_le (c : TwoPhoneConfiguration) (acks : List FrameAcknowledgement) :
    durationSinceCheckpoint c acks ≤ (acks.map fun a => a.processingNanoseconds.toNat).sum := by
  induction acks using List.reverseRecOn with
  | nil => exact Nat.le_refl 0
  | append_singleton acks a ih =>
    rw [durationSinceCheckpoint_concat, List.map_append, List.sum_append, List.map_singleton,
      List.sum_singleton]
    split <;> omega

/-- The ledger of the loop: each frame pending or done was asked for, sent, and stepped, and the
acknowledgements consumed are those of the frames done. -/
structure LoopTrace (ls : List SessionEvent) (done : List AcknowledgedFrame)
    (pending : List SteppedFrame) : Prop where
  steps : steps ls = ledgerSteps done pending
  consumed : consumed ls = done.map fun p => .acknowledgement p.acknowledgement
  operations : operations ls = (ledgerSteps done pending).map fun st => .sent (.input st.input)
  provided : provided ls = (ledgerSteps done pending).map fun st => (st.frame, st.input)
  inLoop : ∀ e ∈ ls, e.InLoop

namespace LoopTrace

variable {ls : List SessionEvent} {done : List AcknowledgedFrame} {pending : List SteppedFrame}

theorem nil : LoopTrace [] [] [] := ⟨rfl, rfl, rfl, rfl, nofun⟩

/-- The acknowledgement of the oldest pending frame moves it to the frames done. -/
theorem acknowledge {st : SteppedFrame} (h : LoopTrace ls done (st :: pending))
    (a : FrameAcknowledgement) :
    LoopTrace (ls ++ [.next (.acknowledgement a)]) (done ++ [⟨st, a⟩]) pending := by
  have hsteps : ledgerSteps (done ++ [⟨st, a⟩]) pending = ledgerSteps done (st :: pending) := by
    rw [ledgerSteps, List.map_append, List.append_assoc]
    rfl
  constructor
  case steps =>
    rw [steps_append, h.steps, hsteps]
    exact List.append_nil _
  case consumed =>
    rw [consumed_append, h.consumed, List.map_append]
    rfl
  case operations =>
    rw [operations_append, h.operations, hsteps]
    exact List.append_nil _
  case provided =>
    rw [provided_append, h.provided, hsteps]
    exact List.append_nil _
  case inLoop =>
    intro e he
    rcases List.mem_append.mp he with he | he
    · exact h.inLoop e he
    · rw [List.mem_singleton.mp he]
      trivial

/-- A frame asked for, sent, and stepped is pending. -/
theorem frame (h : LoopTrace ls done pending) (st : SteppedFrame) :
    LoopTrace (ls ++ [.provided st.frame st.input, .operation (.sent (.input st.input)),
        .stepped st.frame st.input st.needsDigest st.digest]) done (pending ++ [st]) := by
  have hsteps : ledgerSteps done (pending ++ [st]) = ledgerSteps done pending ++ [st] :=
    (List.append_assoc _ _ _).symm
  constructor
  case steps =>
    rw [steps_append, h.steps, hsteps]
    rfl
  case consumed =>
    rw [consumed_append, h.consumed]
    exact List.append_nil _
  case operations =>
    rw [operations_append, h.operations, hsteps, List.map_append]
    rfl
  case provided =>
    rw [provided_append, h.provided, hsteps, List.map_append]
    rfl
  case inLoop =>
    intro e he
    rcases List.mem_append.mp he with he | he
    · exact h.inLoop e he
    · simp only [List.mem_cons, List.not_mem_nil, or_false] at he
      rcases he with rfl | rfl | rfl <;> trivial

end LoopTrace

section

variable {σ : Type} (S : TwoPhoneSession σ)

/-- The controller's handshake up to the display's ready. -/
def controllerOffered (snapshot : Data) (stateHash : UInt64) : List SessionEvent :=
  opened ++ [.operation (.received S.hello), .operation (.sent S.hello),
    .madeSnapshot (.ok snapshot), .hashed stateHash,
    .operation (.sent (.snapshot snapshot stateHash)), .operation (.received .ready)]

/-- The controller's whole handshake, with the start of its inbox. -/
def controllerHandshake (snapshot : Data) (stateHash : UInt64) : List SessionEvent :=
  controllerOffered S snapshot stateHash ++ [.operation (.sent .start), .resumed, .inboxStarted]

/-- What the variables of the loop say when the trace is `es`, where the main thread is between two
frames (`k = 0`) or has begun the next one (`k = 1`). -/
structure ControllerIdle (k : ℕ) (es : List SessionEvent) (done : List AcknowledgedFrame)
    (pending : List SteppedFrame) (s : ControllerThread σ) : Prop where
  trace : ∃ stateHash ls, es = controllerHandshake S s.snapshot stateHash ++ ls ∧
    LoopTrace ls done pending
  matched : ∀ p ∈ done, p.acknowledgement.frame = p.step.frame
  scheduled : Scheduled S.configuration (ledgerSteps done pending)
  frame : s.frame.toNat = done.length + pending.length + k
  pendingFrames : s.pendingFrames = pending.map SteppedFrame.pending
  checkpoints : s.checkpoints = checkpointCount (done.map AcknowledgedFrame.step)
  lastDigest : s.lastDigest = lastCheckpointDigest (done.map AcknowledgedFrame.step)
  short : pending.length + k ≤ S.configuration.frameWindow
  limit : ∀ n, S.configuration.testFrameLimit = some n → s.frame ≤ n
  total : (∀ p ∈ done, p.Verified) → s.displayFrameTiming.totalNanoseconds.toNat =
    durationSinceCheckpoint S.configuration (done.map AcknowledgedFrame.acknowledgement)
  count : s.displayFrameTiming.frameCount.toNat ≤ done.length

/-- No frame of the list is a checkpoint. -/
def Relaxed (sts : List SteppedFrame) : Prop := ∀ st ∈ sts, st.needsDigest = false

/-- What a loop that waits for an acknowledgement knows of the frames that are pending: the window
is full of frames that are not checkpoints, or the last one is the only checkpoint. -/
def LoopPending (s : ControllerThread σ) (pending : List SteppedFrame) :
    AcknowledgementLoop → Prop
  | .window => Relaxed pending ∧ S.configuration.frameWindow ≤ pending.length ∧
      ∀ n, S.configuration.testFrameLimit = some n → s.frame < n
  | .checkpoint => ∃ init last, pending = init ++ [last] ∧ Relaxed init ∧ last.needsDigest = true

/-- How the loop ended: with every checkpoint verified at the frame limit, or at the first
checkpoint that was not. -/
def ControllerConcluded (s : ControllerThread σ) (done : List AcknowledgedFrame) (success : Bool)
    (detail : String) : Prop :=
  (success = true ∧ (∀ p ∈ done, p.Verified) ∧
    detail = ControllerThread.passedDetail s.checkpoints ∧
      S.configuration.testFrameLimit = some s.frame) ∨
    (success = false ∧ ∃ init p, done = init ++ [p] ∧ (∀ q ∈ init, q.Verified) ∧
      p.step.needsDigest = true ∧
      ControllerThread.digestFailure p.step.pending p.acknowledgement.digest = some detail)

/-- The trace of a controller at which `run()` starts on its way out after the inbox was started. -/
inductive ControllerExit (s : ControllerThread σ) : List SessionEvent → SessionResult → Prop
  /-- the send of an input failed -/
  | unsent {es : List SessionEvent} {done : List AcknowledgedFrame} {pending : List SteppedFrame}
      {input : DSInputFrame} {error : SessionError} (idle : ControllerIdle S 1 es done pending s)
      (verified : ∀ p ∈ done, p.Verified) :
      ControllerExit s
        (es ++ [.provided s.frame input, .operation (.sendFailed (.input input))]) (.error error)
  /-- the inbox failed while a frame was pending -/
  | unreceived {es : List SessionEvent} {done : List AcknowledgedFrame}
    {pending : List SteppedFrame}
      {failure error : SessionError} (idle : ControllerIdle S 0 es done pending s)
      (verified : ∀ p ∈ done, p.Verified) (nonempty : pending ≠ []) :
      ControllerExit s (es ++ [.nextFailed failure]) (.error error)
  /-- the inbox had something else than the acknowledgement of the oldest pending frame -/
  | unexpected {es : List SessionEvent} {done : List AcknowledgedFrame} {st : SteppedFrame}
      {pending : List SteppedFrame} {m : TwoPhoneMessage} {error : SessionError}
      (idle : ControllerIdle S 0 es done (st :: pending) s)
      (verified : ∀ p ∈ done, p.Verified)
      (wrong : ∀ a, m = .acknowledgement a → a.frame ≠ st.frame) :
      ControllerExit s (es ++ [.next m]) (.error error)
  /-- the send of the finish failed -/
  | unfinished {es : List SessionEvent} {done : List AcknowledgedFrame} {success : Bool}
      {detail : String} {error : SessionError} (idle : ControllerIdle S 0 es done [] s)
      (concluded : ControllerConcluded S s done success detail) :
      ControllerExit s (es ++ [.operation (.sendFailed (.finish s.frame success detail))])
        (.error error)
  /-- the inbox had no acknowledgement of the finish -/
  | unacknowledged {es : List SessionEvent} {done : List AcknowledgedFrame} {success : Bool}
      {detail : String} {e : SessionEvent} {error : SessionError}
      (idle : ControllerIdle S 0 es done [] s)
      (concluded : ControllerConcluded S s done success detail)
      (wrong : (∃ failure, e = .nextFailed failure) ∨
        ∃ m, e = .next m ∧ m ≠ .finishAcknowledgement) :
      ControllerExit s (es ++ [.operation (.sent (.finish s.frame success detail)), e])
        (.error error)
  /-- the session finished -/
  | finished {es : List SessionEvent} {done : List AcknowledgedFrame} {success : Bool}
      {detail : String} (idle : ControllerIdle S 0 es done [] s)
      (concluded : ControllerConcluded S s done success detail) :
      ControllerExit s
        (es ++ [.operation (.sent (.finish s.frame success detail)), .next .finishAcknowledgement])
        (.ok (s.outcome success detail))

/-- The variables of the loop before its first frame. -/
def ControllerThread.Fresh (s : ControllerThread σ) : Prop :=
  s.frame = 0 ∧ s.checkpoints = 0 ∧ s.lastDigest = none ∧ s.pendingFrames = [] ∧
    s.displayFrameTiming = {}

/-- The trace is the first `n` calls of the handshake. -/
def ControllerOpening (n : ℕ) (stateHash : UInt64) (es : List SessionEvent)
    (s : ControllerThread σ) : Prop :=
  s.Fresh ∧ es = (controllerHandshake S s.snapshot stateHash).take n

/-- The handshake ended early. -/
def ControllerInterrupted (es : List SessionEvent) : Prop :=
  ∃ snapshot stateHash, Interrupted (controllerOffered S snapshot stateHash)
    [S.hello, .snapshot snapshot stateHash, .start] es

/-- The trace of a controller that is past the `defer` block of its inbox, or that never got
there. -/
def ControllerLeft (s : ControllerThread σ) (es : List SessionEvent) (result : SessionResult) :
    Prop :=
  (ControllerInterrupted S es ∧ ∃ error, result = .error error) ∨
    ∃ pre, ControllerExit S s pre result ∧ es = pre ++ [.inboxStopped, .operation .closed]

/-- The trace of the controller's main thread, by the call that the thread is in. -/
def ControllerTrace (es : List SessionEvent) (s : ControllerThread σ) : Prop :=
  match s.phase with
  | .preparing => ControllerOpening S 0 0 es s
  | .connecting => ControllerOpening S 1 0 es s
  | .activating => ControllerOpening S 2 0 es s
  | .receivingHello => ControllerOpening S 3 0 es s
  | .sendingHello => ControllerOpening S 4 0 es s
  | .makingSnapshot => ControllerOpening S 5 0 es s
  | .hashingState => ControllerOpening S 6 0 es s
  | .sendingSnapshot stateHash => ControllerOpening S 7 stateHash es s
  | .receivingReady => ∃ stateHash, ControllerOpening S 8 stateHash es s
  | .sendingStart => ∃ stateHash, ControllerOpening S 9 stateHash es s
  | .resuming => ∃ stateHash, ControllerOpening S 10 stateHash es s
  | .startingInbox => ∃ stateHash, ControllerOpening S 11 stateHash es s
  | .awaitingAcknowledgement loop =>
    ∃ done st pending, ControllerIdle S 0 es done (st :: pending) s ∧
      (∀ p ∈ done, p.Verified) ∧ LoopPending S s (st :: pending) loop
  | .providingInput =>
    ∃ done pending, ControllerIdle S 1 es done pending s ∧ (∀ p ∈ done, p.Verified) ∧
      Relaxed pending
  | .sendingInput input =>
    ∃ pre done pending, ControllerIdle S 1 pre done pending s ∧ (∀ p ∈ done, p.Verified) ∧
      Relaxed pending ∧ es = pre ++ [.provided s.frame input]
  | .steppingFrame input =>
    ∃ pre done pending, ControllerIdle S 1 pre done pending s ∧ (∀ p ∈ done, p.Verified) ∧
      Relaxed pending ∧ es = pre ++ [.provided s.frame input, .operation (.sent (.input input))]
  | .sendingFinish success detail =>
    ∃ done, ControllerIdle S 0 es done [] s ∧ ControllerConcluded S s done success detail
  | .awaitingFinish success detail =>
    ∃ pre done, ControllerIdle S 0 pre done [] s ∧ ControllerConcluded S s done success detail ∧
      es = pre ++ [.operation (.sent (.finish s.frame success detail))]
  | .stoppingInbox result => ControllerExit S s es result
  | .closingInbox result => ∃ pre, ControllerExit S s pre result ∧ es = pre ++ [.inboxStopped]
  | .deactivating result => ControllerLeft S s es result
  | .closing result =>
    (∃ pre, ControllerLeft S s pre result ∧ es = pre ++ [.deactivated]) ∨
      (result = .error .cancelled ∧ es = [.prepared, .connected, .activationRefused])
  | .ended result =>
    (∃ pre, ControllerLeft S s pre result ∧ es = pre ++ [.deactivated, .operation .closed]) ∨
      (result = .error .cancelled ∧
        es = [.prepared, .connected, .activationRefused, .operation .closed]) ∨
      (result = .error .transport ∧ es = [.prepared, .connectFailed])
  | .trapped =>
    ∃ pre done pending, ControllerIdle S 0 pre done pending s ∧ (∀ p ∈ done, p.Verified) ∧
      ((es = pre ∧ s.frame.toNat + 1 = UInt64.size ∧ S.configuration.testFrameLimit = none) ∨
        ∃ st rest a, pending = st :: rest ∧ es = pre ++ [.next (.acknowledgement a)] ∧
          a.frame = st.frame ∧ UInt64.size ≤
            s.displayFrameTiming.totalNanoseconds.toNat + a.processingNanoseconds.toNat)

variable {S} {s s' : ControllerThread σ} {es : List SessionEvent} {e : SessionEvent}
  {done : List AcknowledgedFrame} {pending : List SteppedFrame}

namespace ControllerIdle

/-- The phase is not among the variables of the loop. -/
theorem goto {k : ℕ} {p : ControllerPhase} (h : ControllerIdle S k es done pending s) :
    ControllerIdle S k es done pending (s.goto p) :=
  ⟨h.trace, h.matched, h.scheduled, h.frame, h.pendingFrames, h.checkpoints, h.lastDigest, h.short,
    h.limit, h.total, h.count⟩

/-- The state of the phone is not among the variables of the loop. -/
theorem host {k : ℕ} {p : ControllerPhase} {host : σ} (h : ControllerIdle S k es done pending s) :
    ControllerIdle S k es done pending { s with phase := p, host := host } :=
  ⟨h.trace, h.matched, h.scheduled, h.frame, h.pendingFrames, h.checkpoints, h.lastDigest, h.short,
    h.limit, h.total, h.count⟩

/-- The frames stepped. -/
theorem steps_eq {k : ℕ} (h : ControllerIdle S k es done pending s) :
    steps es = ledgerSteps done pending := by
  obtain ⟨stateHash, ls, rfl, hls⟩ := h.trace
  rw [steps_append, hls.steps]
  rfl

/-- The messages consumed. -/
theorem consumed_eq {k : ℕ} (h : ControllerIdle S k es done pending s) :
    consumed es = done.map fun p => .acknowledgement p.acknowledgement := by
  obtain ⟨stateHash, ls, rfl, hls⟩ := h.trace
  rw [consumed_append, hls.consumed]
  rfl

/-- The inputs asked for. -/
theorem provided_eq {k : ℕ} (h : ControllerIdle S k es done pending s) :
    provided es = (ledgerSteps done pending).map fun st => (st.frame, st.input) := by
  obtain ⟨stateHash, ls, rfl, hls⟩ := h.trace
  rw [provided_append, hls.provided]
  rfl

/-- The messages received and sent by the thread itself: those of the handshake, and the inputs. -/
theorem messages_eq {k : ℕ} (h : ControllerIdle S k es done pending s) :
    ∃ stateHash, received es = [S.hello, .ready] ∧
      sent es = [S.hello, .snapshot s.snapshot stateHash, .start] ++
        (ledgerSteps done pending).map (fun st => .input st.input) ∧
      attempted es = sent es := by
  obtain ⟨stateHash, ls, rfl, hls⟩ := h.trace
  -- The operations of the loop send the inputs of its steps and receive nothing.
  have hinputs : ∀ sts : List SteppedFrame,
      Duplex.receivedMessages
          (sts.map fun st => (.sent (.input st.input) : Duplex.Operation TwoPhoneMessage)) = [] ∧
        Duplex.sentMessages (sts.map fun st => .sent (.input st.input)) =
          sts.map (fun st => TwoPhoneMessage.input st.input) ∧
        Duplex.attemptedMessages (sts.map fun st => .sent (.input st.input)) =
          sts.map (fun st => TwoPhoneMessage.input st.input) := by
    intro sts
    induction sts with
    | nil => exact ⟨rfl, rfl, rfl⟩
    | cons st sts ih => exact ⟨ih.1, congrArg (_ :: ·) ih.2.1, congrArg (_ :: ·) ih.2.2⟩
  obtain ⟨hreceived, hsent, hattempted⟩ := hinputs (ledgerSteps done pending)
  refine ⟨stateHash, ?_, ?_, ?_⟩
  · rw [received_append, received, received, hls.operations, hreceived]
    rfl
  · rw [sent_append, sent, sent, hls.operations, hsent]
    rfl
  · rw [attempted_append, sent_append, attempted, attempted, sent, sent, hls.operations, hsent,
      hattempted]
    rfl

/-- The frames done never reach the limit of the counter. -/
theorem count_lt {k : ℕ} {st : SteppedFrame} (h : ControllerIdle S k es done (st :: pending) s) :
    s.displayFrameTiming.frameCount.toNat + 1 < UInt64.size := by
  have hcount := h.count
  have hframe := h.frame
  have hlt : s.frame.toNat < UInt64.size := s.frame.toNat_lt
  rw [List.length_cons] at hframe
  omega

/-- The frame at the end of the pending ones is the last frame stepped. -/
theorem getLast_frame (init : List SteppedFrame) {last : SteppedFrame}
    (h : ControllerIdle S 0 es done (init ++ [last]) s) : last.frame = s.frame := by
  have hlen : done.length + init.length < (ledgerSteps done (init ++ [last])).length := by
    simp [ledgerSteps]
  have hnum := h.scheduled.getElem hlen
  have hlast : (ledgerSteps done (init ++ [last]))[done.length + init.length] = last := by
    simp [ledgerSteps, List.getElem_append_right]
  have hframe := h.frame
  rw [hlast] at hnum
  rw [List.length_append, List.length_singleton] at hframe
  apply UInt64.toNat_inj.mp
  omega

/-- The acknowledgement of the oldest pending frame. -/
theorem acknowledge {st : SteppedFrame} {a : FrameAcknowledgement}
    (h : ControllerIdle S 0 es done (st :: pending) s) (ha : a.frame = st.frame)
    (hsnapshot : s'.snapshot = s.snapshot) (hframe : s'.frame = s.frame)
    (hpending : s'.pendingFrames = pending.map SteppedFrame.pending)
    (hcheckpoints : s'.checkpoints = s.checkpoints + if st.needsDigest then 1 else 0)
    (hdigest : s'.lastDigest = if st.needsDigest then st.digest else s.lastDigest)
    (htotal : AcknowledgedFrame.Verified ⟨st, a⟩ →
      s'.displayFrameTiming.totalNanoseconds.toNat = if st.needsDigest then 0
        else s.displayFrameTiming.totalNanoseconds.toNat + a.processingNanoseconds.toNat)
    (hcount : s'.displayFrameTiming.frameCount.toNat ≤
      s.displayFrameTiming.frameCount.toNat + 1) :
    ControllerIdle S 0 (es ++ [.next (.acknowledgement a)]) (done ++ [⟨st, a⟩]) pending s' := by
  obtain ⟨stateHash, ls, rfl, hls⟩ := h.trace
  have hlen := h.frame
  have hshort := h.short
  rw [List.length_cons] at hlen hshort
  constructor
  case trace =>
    refine ⟨stateHash, _, ?_, hls.acknowledge a⟩
    rw [hsnapshot, List.append_assoc]
  case matched =>
    intro p hp
    rcases List.mem_append.mp hp with hp | hp
    · exact h.matched p hp
    · rw [List.mem_singleton.mp hp]
      exact ha
  case scheduled =>
    have heq : ledgerSteps (done ++ [⟨st, a⟩]) pending = ledgerSteps done (st :: pending) := by
      simp [ledgerSteps]
    rw [heq]
    exact h.scheduled
  case frame =>
    rw [hframe, List.length_append, List.length_singleton]
    omega
  case pendingFrames => exact hpending
  case checkpoints =>
    rw [hcheckpoints, h.checkpoints, List.map_append, List.map_singleton, checkpointCount_concat]
  case lastDigest =>
    rw [hdigest, h.lastDigest, List.map_append, List.map_singleton, lastCheckpointDigest_concat]
  case short => omega
  case limit =>
    rw [hframe]
    exact h.limit
  case total =>
    intro hverified
    obtain ⟨hdone, hlast⟩ := List.forall_mem_append.mp hverified
    have hasked : st.needsDigest = S.configuration.shouldCreateDigest st.frame :=
      h.scheduled.asked st (by simp [ledgerSteps])
    rw [htotal (hlast _ (List.mem_singleton_self _)), h.total hdone, List.map_append,
      List.map_singleton, durationSinceCheckpoint_concat, ha, hasked]
  case count =>
    have hcnt := h.count
    rw [List.length_append, List.length_singleton]
    omega

/-- A frame that was asked for, sent, and stepped is pending. -/
theorem stepped (p : ControllerPhase) (host : σ) (input : DSInputFrame)
    (digest : Option EmulatorDigest) (h : ControllerIdle S 1 es done pending s) :
    ControllerIdle S 0
      (es ++ [.provided s.frame input, .operation (.sent (.input input)),
        .stepped s.frame input (S.shouldCreateDigest s.frame) digest]) done
      (pending ++ [⟨s.frame, input, S.shouldCreateDigest s.frame, digest⟩])
      { s with
        phase := p
        host := host
        pendingFrames := s.pendingFrames ++
          [PendingFrame.mk s.frame (S.shouldCreateDigest s.frame) digest] } := by
  obtain ⟨stateHash, ls, rfl, hls⟩ := h.trace
  have hlen := h.frame
  have hshort := h.short
  constructor
  case trace =>
    refine ⟨stateHash, _, ?_, hls.frame ⟨s.frame, input, S.shouldCreateDigest s.frame, digest⟩⟩
    rw [List.append_assoc]
  case matched => exact h.matched
  case scheduled =>
    have heq : ledgerSteps done
        (pending ++ [⟨s.frame, input, S.shouldCreateDigest s.frame, digest⟩]) =
        ledgerSteps done pending ++ [⟨s.frame, input, S.shouldCreateDigest s.frame, digest⟩] :=
      (List.append_assoc _ _ _).symm
    rw [heq]
    refine h.scheduled.concat ?_ rfl
    rw [ledgerSteps, List.length_append, List.length_map]
    exact hlen
  case frame =>
    rw [List.length_append, List.length_singleton]
    change s.frame.toNat = _
    omega
  case pendingFrames =>
    change s.pendingFrames ++ _ = _
    rw [h.pendingFrames, List.map_append]
    rfl
  case checkpoints => exact h.checkpoints
  case lastDigest => exact h.lastDigest
  case short =>
    rw [List.length_append, List.length_singleton]
    omega
  case limit => exact h.limit
  case total => exact h.total
  case count => exact h.count

end ControllerIdle

/-- The frames pending at the window loop do not go on to a finish: at the limit the last of them
would be a checkpoint. -/
theorem ControllerIdle.pending_eq_nil (h : ControllerIdle S 0 es done pending s)
    (hrelaxed : Relaxed pending) (hlimit : S.configuration.testFrameLimit = some s.frame) :
    pending = [] := by
  rcases List.eq_nil_or_concat pending with rfl | ⟨init, last, hpending⟩
  · rfl
  · rw [List.concat_eq_append] at hpending
    subst hpending
    have hlast : last.needsDigest = false := hrelaxed last (by simp)
    have hasked : last.needsDigest = S.configuration.shouldCreateDigest last.frame :=
      h.scheduled.asked last (by simp [ledgerSteps])
    rw [h.getLast_frame init, TwoPhoneConfiguration.shouldCreateDigest, hlimit] at hasked
    simp [hlast] at hasked

/-- The loop that fills the window. -/
theorem ControllerTrace.fillWindow (h : ControllerIdle S 0 es done pending s)
    (hverified : ∀ p ∈ done, p.Verified) (hrelaxed : Relaxed pending)
    (hlimit : ∀ n, S.configuration.testFrameLimit = some n → s.frame < n) :
    ControllerTrace S es (s.fillWindow S) := by
  unfold ControllerThread.fillWindow
  have hlen : s.pendingFrames.length = pending.length := by
    rw [h.pendingFrames, List.length_map]
  rw [hlen]
  split
  · rename_i hfull
    cases pending with
    | nil => exact absurd hfull (Nat.not_le.mpr S.configuration.frameWindow_pos)
    | cons st pending =>
      have hawait : s.awaitAcknowledgement .window = s.goto (.awaitingAcknowledgement .window) := by
        rw [ControllerThread.awaitAcknowledgement, h.pendingFrames]
        rfl
      rw [hawait]
      exact ⟨done, st, pending, h.goto, hverified, hrelaxed, hfull, hlimit⟩
  · rename_i hroom
    unfold ControllerThread.beginFrame
    cases hnext : checkedAdd s.frame 1 with
    | none =>
      have hmax : UInt64.size ≤ s.frame.toNat + 1 := checkedAdd_eq_none.mp hnext
      have hlt : s.frame.toNat < UInt64.size := s.frame.toNat_lt
      refine ⟨es, done, pending, h.goto, hverified, .inl ⟨rfl, Nat.le_antisymm hlt hmax, ?_⟩⟩
      -- A frame limit keeps the counter below the limit.
      cases hl : S.configuration.testFrameLimit with
      | none => rfl
      | some n =>
        have hn : s.frame.toNat < n.toNat := UInt64.lt_iff_toNat_lt.mp (hlimit n hl)
        have hnlt : n.toNat < UInt64.size := n.toNat_lt
        omega
    | some frame =>
      have hsum : frame.toNat = s.frame.toNat + 1 := checkedAdd_eq_some hnext
      have hframe := h.frame
      refine ⟨done, pending, ⟨h.trace, h.matched, h.scheduled, ?_, h.pendingFrames, h.checkpoints,
        h.lastDigest, Nat.not_le.mp hroom, ?_, h.total, h.count⟩, hverified, hrelaxed⟩
      · change frame.toNat = _
        omega
      · intro n hn
        have hlt : s.frame.toNat < n.toNat := UInt64.lt_iff_toNat_lt.mp (hlimit n hn)
        change frame ≤ n
        rw [UInt64.le_iff_toNat_le]
        omega

/-- The main loop, where no frame that is pending is a checkpoint. -/
theorem ControllerTrace.mainLoop (h : ControllerIdle S 0 es done pending s)
    (hverified : ∀ p ∈ done, p.Verified) (hrelaxed : Relaxed pending) :
    ControllerTrace S es (s.mainLoop S) := by
  unfold ControllerThread.mainLoop
  cases hl : S.configuration.testFrameLimit with
  | none =>
    refine ControllerTrace.fillWindow h hverified hrelaxed ?_
    rw [hl]
    exact nofun
  | some n =>
    simp only [Option.map_some, Option.getD_some, decide_eq_true_eq]
    split
    · rename_i hlt
      refine ControllerTrace.fillWindow h hverified hrelaxed ?_
      rw [hl]
      rintro _ ⟨⟩
      exact hlt
    · rename_i hge
      -- the limit is reached, which leaves no frame pending
      have heq : s.frame = n := by
        have hle := UInt64.le_iff_toNat_le.mp (h.limit n hl)
        rw [UInt64.lt_iff_toNat_lt] at hge
        apply UInt64.toNat_inj.mp
        omega
      have hnil : pending = [] := h.pending_eq_nil hrelaxed (by rw [hl, heq])
      subst hnil
      exact ⟨done, h.goto, .inl ⟨rfl, hverified, rfl, by rw [hl]; exact congrArg some heq.symm⟩⟩

/-- The loop that drains a checkpoint. -/
theorem ControllerTrace.drainCheckpoint (h : ControllerIdle S 0 es done pending s)
    (hverified : ∀ p ∈ done, p.Verified)
    (hpending : pending = [] ∨ LoopPending S s pending .checkpoint) :
    ControllerTrace S es (s.drainCheckpoint S) := by
  unfold ControllerThread.drainCheckpoint
  rw [h.pendingFrames]
  cases pending with
  | nil => exact ControllerTrace.mainLoop h hverified nofun
  | cons st pending =>
    have hawait :
        s.awaitAcknowledgement .checkpoint = s.goto (.awaitingAcknowledgement .checkpoint) := by
      rw [ControllerThread.awaitAcknowledgement, h.pendingFrames]
      rfl
    rw [List.map_cons, List.isEmpty_cons, hawait]
    rcases hpending with hnil | hpending
    · exact absurd hnil (List.cons_ne_nil _ _)
    · exact ⟨done, st, pending, h.goto, hverified, hpending⟩

/-- The checkpoint of a loop is the only frame pending when it is the oldest. -/
theorem LoopPending.head {loop : AcknowledgementLoop} {st : SteppedFrame}
    (h : LoopPending S s (st :: pending) loop) (hst : st.needsDigest = true) :
    loop = .checkpoint ∧ pending = [] := by
  cases loop with
  | window =>
    have hfalse : st.needsDigest = false := h.1 st (List.mem_cons_self ..)
    rw [hst] at hfalse
    exact absurd hfalse (by decide)
  | checkpoint =>
    obtain ⟨init, last, heq, hrelaxed, -⟩ := h
    cases init with
    | nil =>
      rw [List.nil_append, List.cons.injEq] at heq
      exact ⟨rfl, heq.2⟩
    | cons st' init =>
      rw [List.cons_append, List.cons.injEq] at heq
      have hfalse : st.needsDigest = false := heq.1 ▸ hrelaxed st' (List.mem_cons_self ..)
      rw [hst] at hfalse
      exact absurd hfalse (by decide)

/-- Either loop goes on once the oldest frame, not a checkpoint, is acknowledged. -/
theorem ControllerTrace.continueLoop {loop : AcknowledgementLoop} {st : SteppedFrame}
    {t : ControllerThread σ} (h : ControllerIdle S 0 es done pending t)
    (hframe : t.frame = s.frame) (hverified : ∀ p ∈ done, p.Verified)
    (hpending : LoopPending S s (st :: pending) loop) (hst : st.needsDigest = false) :
    ControllerTrace S es (t.continueLoop S loop) := by
  cases loop with
  | window =>
    obtain ⟨hrelaxed, -, hlimit⟩ := hpending
    refine ControllerTrace.fillWindow h hverified ?_ ?_
    · exact fun st' hst' => hrelaxed st' (List.mem_cons_of_mem _ hst')
    · rw [hframe]
      exact hlimit
  | checkpoint =>
    obtain ⟨init, last, heq, hrelaxed, hlast⟩ := hpending
    refine ControllerTrace.drainCheckpoint h hverified (.inr ?_)
    cases init with
    | nil =>
      rw [List.nil_append, List.cons.injEq] at heq
      rw [heq.1, hlast] at hst
      exact absurd hst (by decide)
    | cons st' init =>
      rw [List.cons_append, List.cons.injEq] at heq
      exact ⟨init, last, heq.2, fun q hq => hrelaxed q (List.mem_cons_of_mem _ hq), hlast⟩

/-- A message taken from the inbox while a frame is pending. -/
theorem ControllerTrace.acknowledged {loop : AcknowledgementLoop} {st : SteppedFrame}
    (m : TwoPhoneMessage) (h : ControllerIdle S 0 es done (st :: pending) s)
    (hverified : ∀ p ∈ done, p.Verified) (hpending : LoopPending S s (st :: pending) loop) :
    ControllerTrace S (es ++ [.next m]) (s.acknowledged S loop m) := by
  rcases ControllerThread.acknowledged_cases S h.pendingFrames loop m with
    ⟨a, rfl, hf, hout⟩ | ⟨hwrong, error, hout⟩
  -- The acknowledgement is of the oldest frame: its duration does not fit, or it is counted.
  · rcases hout with ⟨hrecord, hout⟩ | ⟨timing, hrecord, hout⟩
    · rw [hout]
      exact ⟨es, done, st :: pending, h.goto, hverified, .inr ⟨st, pending, a, rfl, rfl, hf,
        (DisplayFrameTiming.record_eq_none h.count_lt).mp hrecord⟩⟩
    · obtain ⟨htotal, hcount⟩ := DisplayFrameTiming.record_eq_some hrecord
      rcases hout with ⟨hneeds, hout⟩ | ⟨hneeds, hdigest, hout⟩ | ⟨hneeds, failure, hdigest, hout⟩
        <;> change st.needsDigest = _ at hneeds <;> rw [hout]
      -- A frame that is not a checkpoint is verified whatever digest comes with it.
      · have hidle : ControllerIdle S 0 (es ++ [.next (.acknowledgement a)]) (done ++ [⟨st, a⟩])
            pending (s.counted (pending.map SteppedFrame.pending) timing) :=
          h.acknowledge hf rfl rfl rfl (by rw [hneeds]; rfl) (by rw [hneeds]; rfl)
            (fun _ => by rw [hneeds]; exact htotal) (Nat.le_of_eq hcount)
        have hfree : AcknowledgedFrame.Verified ⟨st, a⟩ :=
          fun htrue => absurd (hneeds.symm.trans htrue) (by decide)
        exact ControllerTrace.continueLoop hidle rfl
          (List.forall_mem_append.mpr ⟨hverified, List.forall_mem_singleton.mpr hfree⟩) hpending
          hneeds
      -- A checkpoint whose digests are equal: the loop that drains it has nothing left to wait for.
      · obtain ⟨rfl, rfl⟩ := hpending.head hneeds
        have hidle : ControllerIdle S 0 (es ++ [.next (.acknowledgement a)]) (done ++ [⟨st, a⟩])
            [] (s.compared st.pending [] {}) :=
          h.acknowledge hf rfl rfl rfl (by rw [hneeds]; rfl) (by rw [hneeds]; rfl)
            (fun _ => by rw [hneeds]; rfl) (Nat.zero_le _)
        have hequal : AcknowledgedFrame.Verified ⟨st, a⟩ :=
          fun _ => ControllerThread.digestFailure_eq_none.mp hdigest
        exact ControllerTrace.drainCheckpoint hidle
          (List.forall_mem_append.mpr ⟨hverified, List.forall_mem_singleton.mpr hequal⟩) (.inl rfl)
      -- A checkpoint that fails: the run goes on with the finish of a mismatch.
      · obtain ⟨rfl, rfl⟩ := hpending.head hneeds
        have hdiffers : ¬ AcknowledgedFrame.Verified ⟨st, a⟩ := by
          intro hequal
          rw [ControllerThread.digestFailure_eq_none.mpr (hequal hneeds)] at hdigest
          exact absurd hdigest nofun
        have hidle : ControllerIdle S 0 (es ++ [.next (.acknowledgement a)]) (done ++ [⟨st, a⟩])
            [] (s.compared st.pending [] timing) :=
          h.acknowledge hf rfl rfl rfl (by rw [hneeds]; rfl) (by rw [hneeds]; rfl)
            (fun hequal => absurd hequal hdiffers) (Nat.le_of_eq hcount)
        exact ⟨done ++ [⟨st, a⟩], hidle.goto,
          .inr ⟨rfl, done, ⟨st, a⟩, rfl, hverified, hneeds, hdigest⟩⟩
  · rw [hout]
    exact .unexpected h.goto hverified hwrong

/-- The phase is not among the variables that an exit speaks of. -/
theorem ControllerExit.goto {p : ControllerPhase} {result : SessionResult}
    (h : ControllerExit S s es result) : ControllerExit S (s.goto p) es result := by
  cases h with
  | unsent idle verified => exact .unsent idle.goto verified
  | unreceived idle verified nonempty => exact .unreceived idle.goto verified nonempty
  | unexpected idle verified wrong => exact .unexpected idle.goto verified wrong
  | unfinished idle concluded => exact .unfinished idle.goto concluded
  | unacknowledged idle concluded wrong => exact .unacknowledged idle.goto concluded wrong
  | finished idle concluded => exact .finished idle.goto concluded

theorem ControllerLeft.goto {p : ControllerPhase} {result : SessionResult}
    (h : ControllerLeft S s es result) : ControllerLeft S (s.goto p) es result := by
  rcases h with h | ⟨pre, hexit, hes⟩
  · exact .inl h
  · exact .inr ⟨pre, hexit.goto, hes⟩

open ControllerThread in
/-- One step keeps the shape of the trace. -/
theorem ControllerTrace.step (h : ControllerTrace S es s) (hs : s.step S e = some s') :
    ControllerTrace S (es ++ [e]) s' := by
  unfold ControllerTrace at h
  replace hs := ControllerThread.call_of_step hs
  unfold ControllerThread.call at hs
  cases hp : s.phase <;> rw [hp] at h hs <;> dsimp only at h hs
  case preparing =>
    obtain ⟨hf, rfl⟩ := h
    obtain ⟨rfl, rfl⟩ := SessionEvent.on_eq_some.mp hs
    exact ⟨hf, rfl⟩
  case connecting =>
    obtain ⟨hf, rfl⟩ := h
    rcases SessionEvent.on_or_on_eq_some hs with ⟨rfl, rfl⟩ | ⟨rfl, rfl⟩
    · exact ⟨hf, rfl⟩
    · exact .inr (.inr ⟨rfl, rfl⟩)
  case activating =>
    obtain ⟨hf, rfl⟩ := h
    rcases SessionEvent.on_or_on_eq_some hs with ⟨rfl, rfl⟩ | ⟨rfl, rfl⟩
    · exact ⟨hf, rfl⟩
    · exact .inr ⟨rfl, rfl⟩
  -- The handshake: a call that fails, and a message that is refused, interrupt it where it stands.
  case receivingHello =>
    obtain ⟨hf, rfl⟩ := h
    rcases SessionEvent.onReceive_eq_some.mp hs with ⟨m, rfl, rfl⟩ | ⟨rfl, rfl⟩
    · cases hv : S.validateHello m with
      | ok u =>
        rw [(S.validateHello_eq_ok m).mp hv]
        exact ⟨hf, rfl⟩
      | error error =>
        exact .inl ⟨⟨s.snapshot, 0, _, _, rfl, ⟨_, rfl⟩, trivial, ⟨_, rfl⟩⟩, _, rfl⟩
    · exact .inl ⟨⟨s.snapshot, 0, _, _, rfl, ⟨_, rfl⟩, trivial, ⟨_, rfl⟩⟩, _, rfl⟩
  case sendingHello =>
    obtain ⟨hf, rfl⟩ := h
    rcases SessionEvent.onSend_eq_some.mp hs with ⟨rfl, rfl⟩ | ⟨rfl, rfl⟩
    · exact ⟨hf, rfl⟩
    · exact .inl ⟨⟨s.snapshot, 0, _, _, rfl, ⟨_, rfl⟩, trivial, ⟨_, rfl⟩⟩, _, rfl⟩
  case makingSnapshot =>
    obtain ⟨hf, rfl⟩ := h
    obtain ⟨rfl, rfl⟩ := SessionEvent.on_eq_some.mp hs
    cases hm : (S.makeSnapshot s.host).1 with
    | ok snapshot => exact ⟨hf, rfl⟩
    | error error => exact .inl ⟨⟨s.snapshot, 0, _, _, rfl, ⟨_, rfl⟩, trivial, ⟨_, rfl⟩⟩, _, rfl⟩
  case hashingState =>
    obtain ⟨hf, rfl⟩ := h
    obtain ⟨rfl, rfl⟩ := SessionEvent.on_eq_some.mp hs
    exact ⟨hf, rfl⟩
  case sendingSnapshot stateHash =>
    obtain ⟨hf, rfl⟩ := h
    rcases SessionEvent.onSend_eq_some.mp hs with ⟨rfl, rfl⟩ | ⟨rfl, rfl⟩
    · exact ⟨stateHash, hf, rfl⟩
    · exact .inl ⟨⟨s.snapshot, stateHash, _, _, rfl, ⟨_, rfl⟩, trivial, ⟨_, rfl⟩⟩, _, rfl⟩
  case receivingReady =>
    obtain ⟨stateHash, hf, rfl⟩ := h
    rcases SessionEvent.onReceive_eq_some.mp hs with ⟨m, rfl, rfl⟩ | ⟨rfl, rfl⟩
    · split
      · rename_i hm
        subst hm
        exact ⟨stateHash, hf, rfl⟩
      · exact .inl ⟨⟨s.snapshot, stateHash, _, _, rfl, ⟨_, rfl⟩, trivial, ⟨_, rfl⟩⟩, _, rfl⟩
    · exact .inl ⟨⟨s.snapshot, stateHash, _, _, rfl, ⟨_, rfl⟩, trivial, ⟨_, rfl⟩⟩, _, rfl⟩
  case sendingStart =>
    obtain ⟨stateHash, hf, rfl⟩ := h
    rcases SessionEvent.onSend_eq_some.mp hs with ⟨rfl, rfl⟩ | ⟨rfl, rfl⟩
    · exact ⟨stateHash, hf, rfl⟩
    · exact .inl ⟨⟨s.snapshot, stateHash, _, _, rfl, ⟨_, rfl⟩, trivial, ⟨_, rfl⟩⟩, _, rfl⟩
  case resuming =>
    obtain ⟨stateHash, hf, rfl⟩ := h
    obtain ⟨rfl, rfl⟩ := SessionEvent.on_eq_some.mp hs
    exact ⟨stateHash, hf, rfl⟩
  -- The loop starts with no frame stepped, none pending and all counters at zero.
  case startingInbox =>
    obtain ⟨stateHash, ⟨hframe, hcheckpoints, hdigest, hpending, htiming⟩, rfl⟩ := h
    obtain ⟨rfl, rfl⟩ := SessionEvent.on_eq_some.mp hs
    have hidle : ControllerIdle S 0 (controllerHandshake S s.snapshot stateHash) [] [] s := by
      refine ⟨⟨stateHash, [], (List.append_nil _).symm, .nil⟩, nofun, .nil, ?_, hpending,
        hcheckpoints, hdigest, Nat.zero_le _, ?_, ?_, ?_⟩
      · rw [hframe]
        rfl
      · intro n _
        rw [hframe]
        exact UInt64.le_iff_toNat_le.mpr (Nat.zero_le _)
      · rw [htiming]
        exact fun _ => rfl
      · rw [htiming]
        exact Nat.zero_le _
    exact ControllerTrace.mainLoop hidle nofun nofun
  -- The loop: which of its two inner loops goes on is settled by the lemma for each of them.
  case awaitingAcknowledgement loop =>
    obtain ⟨done, st, pending, hidle, hverified, hpending⟩ := h
    rcases SessionEvent.onNext_eq_some.mp hs with ⟨m, rfl, rfl⟩ | ⟨error, rfl, rfl⟩
    · exact ControllerTrace.acknowledged m hidle hverified hpending
    · exact .unreceived hidle.goto hverified (List.cons_ne_nil _ _)
  case providingInput =>
    obtain ⟨done, pending, hidle, hverified, hrelaxed⟩ := h
    obtain ⟨rfl, rfl⟩ := SessionEvent.on_eq_some.mp hs
    exact ⟨es, done, pending, hidle.host, hverified, hrelaxed, rfl⟩
  case sendingInput input =>
    obtain ⟨pre, done, pending, hidle, hverified, hrelaxed, rfl⟩ := h
    rw [List.append_assoc]
    rcases SessionEvent.onSend_eq_some.mp hs with ⟨rfl, rfl⟩ | ⟨rfl, rfl⟩
    · exact ⟨pre, done, pending, hidle.goto, hverified, hrelaxed, rfl⟩
    · exact .unsent hidle.goto hverified
  case steppingFrame input =>
    obtain ⟨pre, done, pending, hidle, hverified, hrelaxed, rfl⟩ := h
    obtain ⟨rfl, rfl⟩ := SessionEvent.on_eq_some.mp hs
    rw [List.append_assoc]
    replace hidle := hidle.stepped (.steppingFrame input)
      (S.stepFrame input (S.shouldCreateDigest s.frame) s.host).2 input
      (S.stepFrame input (S.shouldCreateDigest s.frame) s.host).1
    -- A checkpoint is drained at once; any other frame leaves room for the next one in the window.
    cases hneeds : S.shouldCreateDigest s.frame with
    | false =>
      rw [hneeds] at hidle
      refine ControllerTrace.mainLoop hidle hverified ?_
      exact List.forall_mem_append.mpr ⟨hrelaxed, List.forall_mem_singleton.mpr rfl⟩
    | true =>
      rw [hneeds] at hidle
      refine ControllerTrace.drainCheckpoint hidle hverified (.inr ?_)
      exact ⟨pending, _, rfl, hrelaxed, rfl⟩
  -- The way out: the phase moves on, and the trace grows by the calls of the deferred blocks.
  case sendingFinish success detail =>
    obtain ⟨done, hidle, hconcluded⟩ := h
    rcases SessionEvent.onSend_eq_some.mp hs with ⟨rfl, rfl⟩ | ⟨rfl, rfl⟩
    · exact ⟨es, done, hidle.goto, hconcluded, rfl⟩
    · exact .unfinished hidle.goto hconcluded
  case awaitingFinish success detail =>
    obtain ⟨pre, done, hidle, hconcluded, rfl⟩ := h
    rw [List.append_assoc]
    rcases SessionEvent.onNext_eq_some.mp hs with ⟨m, rfl, rfl⟩ | ⟨error, rfl, rfl⟩
    · unfold finished
      split
      · rename_i hm
        subst hm
        exact .finished hidle.goto hconcluded
      · rename_i hm
        exact .unacknowledged hidle.goto hconcluded (.inr ⟨m, rfl, hm⟩)
    · exact .unacknowledged hidle.goto hconcluded (.inl ⟨error, rfl⟩)
  case stoppingInbox result =>
    obtain ⟨rfl, rfl⟩ := SessionEvent.on_eq_some.mp hs
    exact ⟨es, h.goto, rfl⟩
  case closingInbox result =>
    obtain ⟨pre, hexit, rfl⟩ := h
    obtain ⟨rfl, rfl⟩ := SessionEvent.on_eq_some.mp hs
    exact .inr ⟨pre, hexit.goto, List.append_assoc _ _ _⟩
  case deactivating result =>
    obtain ⟨rfl, rfl⟩ := SessionEvent.on_eq_some.mp hs
    exact .inl ⟨es, h.goto, rfl⟩
  case closing result =>
    obtain ⟨rfl, rfl⟩ := SessionEvent.on_eq_some.mp hs
    rcases h with ⟨pre, hleft, rfl⟩ | ⟨rfl, rfl⟩
    · exact .inl ⟨pre, hleft.goto, List.append_assoc _ _ _⟩
    · exact .inr (.inl ⟨rfl, rfl⟩)
  case ended result => exact absurd hs (Option.some_ne_none _).symm
  case trapped => exact absurd hs (Option.some_ne_none _).symm

/-- Every run of the controller's main thread has the trace that its phase says. -/
theorem controllerTrace_of_exec {host : σ}
    (h : exec (ControllerThread.step S) { host := host } es = some s) : ControllerTrace S es s := by
  refine exec_invariant (I := ControllerTrace S) ?_ ?_ h
  · exact ⟨⟨rfl, rfl, rfl, rfl, rfl⟩, rfl⟩
  · intro es t e u ht hstep
    exact ht.step hstep

/-- The ledger of an exit: what follows it in the trace is no step. -/
theorem ControllerExit.ledger {result : SessionResult} (h : ControllerExit S s es result) :
    ∃ k pre done pending tail, ControllerIdle S k pre done pending s ∧ es = pre ++ tail ∧
      steps tail = [] := by
  cases h with
  | unsent idle _ => exact ⟨_, _, _, _, _, idle, rfl, rfl⟩
  | unreceived idle _ _ => exact ⟨_, _, _, _, _, idle, rfl, rfl⟩
  | unexpected idle _ _ => exact ⟨_, _, _, _, _, idle, rfl, rfl⟩
  | unfinished idle _ => exact ⟨_, _, _, _, _, idle, rfl, rfl⟩
  | unacknowledged idle _ wrong =>
    rcases wrong with ⟨failure, rfl⟩ | ⟨m, rfl, -⟩ <;> exact ⟨_, _, _, _, _, idle, rfl, rfl⟩
  | finished idle _ => exact ⟨_, _, _, _, _, idle, rfl, rfl⟩

/-- The ledger of a controller that has left: it had not resumed, or what follows its exit is no
step. -/
theorem ControllerLeft.ledger {gs : List SessionEvent} {result : SessionResult}
    (h : ControllerLeft S s es result) (hgs : steps gs = []) :
    steps (es ++ gs) = [] ∨ ∃ k pre done pending tail, ControllerIdle S k pre done pending s ∧
      es ++ gs = pre ++ tail ∧ steps tail = [] := by
  rcases h with ⟨⟨snapshot, stateHash, hbreaks⟩, -⟩ | ⟨_, hexit, rfl⟩
  · left
    rw [steps_append, hgs, List.append_nil]
    exact (hbreaks.unresumed (by simp [controllerOffered, opened]) rfl).2
  · right
    obtain ⟨k, pre, done, pending, tail, idle, rfl, htail⟩ := hexit.ledger
    refine ⟨k, pre, done, pending, tail ++ ([.inboxStopped, .operation .closed] ++ gs), idle,
      ?_, ?_⟩
    · simp only [List.append_assoc]
    · rw [steps_append, steps_append, htail, hgs]
      rfl

/-- The trace of a controller has a ledger, followed by no step, or it has no step at all. -/
theorem ControllerTrace.ledger (h : ControllerTrace S es s) :
    steps es = [] ∨ ∃ k pre done pending tail, ControllerIdle S k pre done pending s ∧
      es = pre ++ tail ∧ steps tail = [] := by
  unfold ControllerTrace at h
  cases hp : s.phase <;> rw [hp] at h <;> dsimp only at h
  -- The handshake has no steps.
  case preparing | connecting | activating | receivingHello | sendingHello | makingSnapshot |
      hashingState | sendingSnapshot =>
    obtain ⟨-, rfl⟩ := h
    exact .inl rfl
  case receivingReady | sendingStart | resuming | startingInbox =>
    obtain ⟨_, -, rfl⟩ := h
    exact .inl rfl
  -- In the loop the ledger is that of the last time it was idle.
  case awaitingAcknowledgement =>
    obtain ⟨done, st, pending, idle, -⟩ := h
    exact .inr ⟨0, es, done, _, [], idle, (List.append_nil _).symm, rfl⟩
  case providingInput =>
    obtain ⟨done, pending, idle, -⟩ := h
    exact .inr ⟨1, es, done, pending, [], idle, (List.append_nil _).symm, rfl⟩
  case sendingInput | steppingFrame =>
    obtain ⟨pre, done, pending, idle, -, -, rfl⟩ := h
    exact .inr ⟨1, pre, done, pending, _, idle, rfl, rfl⟩
  case sendingFinish =>
    obtain ⟨done, idle, -⟩ := h
    exact .inr ⟨0, es, done, [], [], idle, (List.append_nil _).symm, rfl⟩
  case awaitingFinish =>
    obtain ⟨pre, done, idle, -, rfl⟩ := h
    exact .inr ⟨0, pre, done, [], _, idle, rfl, rfl⟩
  -- On the way out it is that of the exit.
  case stoppingInbox => exact .inr h.ledger
  case closingInbox =>
    obtain ⟨_, hexit, rfl⟩ := h
    obtain ⟨k, pre, done, pending, tail, idle, rfl, htail⟩ := hexit.ledger
    refine .inr ⟨k, pre, done, pending, tail ++ [.inboxStopped], idle, List.append_assoc _ _ _, ?_⟩
    rw [steps_append, htail]
    rfl
  case deactivating =>
    have hledger := h.ledger (rfl : steps [] = [])
    rwa [List.append_nil] at hledger
  case closing =>
    rcases h with ⟨_, hleft, rfl⟩ | ⟨-, rfl⟩
    · exact hleft.ledger rfl
    · exact .inl rfl
  case ended =>
    rcases h with ⟨_, hleft, rfl⟩ | ⟨-, rfl⟩ | ⟨-, rfl⟩
    · exact hleft.ledger rfl
    · exact .inl rfl
    · exact .inl rfl
  case trapped =>
    obtain ⟨pre, done, pending, idle, -, ⟨rfl, -⟩ | ⟨_, _, _, -, rfl, -⟩⟩ := h
    · exact .inr ⟨0, es, done, pending, [], idle, (List.append_nil _).symm, rfl⟩
    · exact .inr ⟨0, pre, done, pending, _, idle, rfl, rfl⟩

/-- The frames that a controller has stepped are 1, 2, …, on schedule. -/
theorem ControllerTrace.scheduled (h : ControllerTrace S es s) :
    Scheduled S.configuration (steps es) := by
  rcases h.ledger with hnone | ⟨k, pre, done, pending, tail, idle, rfl, htail⟩
  · rw [hnone]
    exact .nil
  · rw [steps_append, htail, List.append_nil, idle.steps_eq]
    exact idle.scheduled

/-- An outcome is that of a concluded session, whose finish the peer has acknowledged. -/
theorem ControllerTrace.outcome {o : TwoPhoneSessionOutcome} (h : ControllerTrace S es s)
    (ho : s.phase = .ended (.ok o)) :
    ∃ pre done success detail, ControllerIdle S 0 pre done [] s ∧
      ControllerConcluded S s done success detail ∧ o = s.outcome success detail ∧
      es = pre ++ [.operation (.sent (.finish s.frame success detail)),
        .next .finishAcknowledgement,
        .inboxStopped, .operation .closed, .deactivated, .operation .closed] := by
  unfold ControllerTrace at h
  rw [ho] at h
  rcases h with ⟨_, hleft, rfl⟩ | ⟨hcancelled, -⟩ | ⟨hrefused, -⟩
  · rcases hleft with ⟨-, error, herror⟩ | ⟨_, hexit, rfl⟩
    · exact absurd herror nofun
    · cases hexit with
      | @finished pre done success detail idle concluded =>
        refine ⟨pre, done, success, detail, idle, concluded, rfl, ?_⟩
        simp only [List.append_assoc]
        rfl
  · exact absurd hcancelled nofun
  · exact absurd hrefused nofun

end

end DSEmu

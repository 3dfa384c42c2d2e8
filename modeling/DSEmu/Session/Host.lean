import DSEmu.Session.Controller
import DSEmu.Session.Display

/-!
# What a session's calls do to the phone

`TwoPhoneSession.hostStep` is what a call of a main thread does to the state of its phone: a
callback changes the state as the session's callback does, and returns what the callback returns;
every other call leaves the phone alone. Both roles change their phone by these steps only
(`ControllerThread.step_host`, `DisplayThread.step_host`), so a run of either thread is a run of the
phone, and what a statement about the phone needs of the thread is its trace.
-/

namespace DSEmu

open Automaton (exec exec_project)
open SessionEvent (on onSend onReceive onNext)

/-- The phone after a call, or `none` where the result is not the callback's. -/
def TwoPhoneSession.hostStep {σ : Type} (S : TwoPhoneSession σ) (host : σ) : SessionEvent → Option σ
  | .prepared => some (S.prepareForSynchronization host)
  | .madeSnapshot result =>
    let (result', host') := S.makeSnapshot host
    if result = result' then some host' else none
  | .loadedSnapshot snapshot result =>
    let (result', host') := S.loadSnapshot snapshot host
    if result = result' then some host' else none
  | .hashed stateHash =>
    let (stateHash', host') := S.snapshotStateHash host
    if stateHash = stateHash' then some host' else none
  | .resumed => some (S.resumeAfterSynchronization host)
  | .provided frame input =>
    let (input', host') := S.inputProvider frame host
    if input = input' then some host' else none
  | .stepped _ input needsDigest digest =>
    let (digest', host') := S.stepFrame input needsDigest host
    if digest = digest' then some host' else none
  | _ => some host

section Callbacks

variable {σ : Type} {S : TwoPhoneSession σ} {host host' : σ}

/-- A callback that returned the given result. -/
theorem returned_eq_some {ρ : Type} [DecidableEq ρ] {returned : ρ × σ} {result : ρ} :
    (if result = returned.1 then some returned.2 else none) = some host' ↔
      returned = (result, host') := by
  obtain ⟨result', host''⟩ := returned
  rw [Option.ite_none_right_eq_some, Option.some.injEq, Prod.mk.injEq, eq_comm (a := result)]

/-- The host makes its snapshot. -/
theorem hostStep_madeSnapshot {result : Except SessionError Data} :
    S.hostStep host (.madeSnapshot result) = some host' ↔
      S.makeSnapshot host = (result, host') :=
  returned_eq_some

/-- The host loads a snapshot. -/
theorem hostStep_loadedSnapshot {snapshot : Data} {result : Except SessionError Unit} :
    S.hostStep host (.loadedSnapshot snapshot result) = some host' ↔
      S.loadSnapshot snapshot host = (result, host') :=
  returned_eq_some

/-- The host hashes its state. -/
theorem hostStep_hashed {stateHash : UInt64} :
    S.hostStep host (.hashed stateHash) = some host' ↔
      S.snapshotStateHash host = (stateHash, host') :=
  returned_eq_some

/-- The host provides the input of a frame. -/
theorem hostStep_provided {frame : UInt64} {input : DSInputFrame} :
    S.hostStep host (.provided frame input) = some host' ↔
      S.inputProvider frame host = (input, host') :=
  returned_eq_some

/-- The host steps a frame. -/
theorem hostStep_stepped {frame : UInt64} {input : DSInputFrame} {needsDigest : Bool}
    {digest : Option EmulatorDigest} :
    S.hostStep host (.stepped frame input needsDigest digest) = some host' ↔
      S.stepFrame input needsDigest host = (digest, host') :=
  returned_eq_some

end Callbacks

namespace ControllerThread

variable {σ : Type} {S : TwoPhoneSession σ} {s t : ControllerThread σ} {e : SessionEvent}

/-- Waiting for an acknowledgement does not call the host. -/
theorem awaitAcknowledgement_host (loop : AcknowledgementLoop) :
    (s.awaitAcknowledgement loop).host = s.host := by
  unfold awaitAcknowledgement
  split <;> rfl

/-- Filling the window does not call the host. -/
theorem fillWindow_host : (s.fillWindow S).host = s.host := by
  unfold fillWindow
  split
  · exact awaitAcknowledgement_host .window
  · unfold beginFrame
    split <;> rfl

/-- The main loop does not call the host. -/
theorem mainLoop_host : (s.mainLoop S).host = s.host := by
  unfold mainLoop
  split
  · exact fillWindow_host
  · rfl

/-- Draining for a checkpoint does not call the host. -/
theorem drainCheckpoint_host : (s.drainCheckpoint S).host = s.host := by
  unfold drainCheckpoint
  split
  · exact mainLoop_host
  · exact awaitAcknowledgement_host .checkpoint

/-- Going back to a loop does not call the host. -/
theorem continueLoop_host (loop : AcknowledgementLoop) : (s.continueLoop S loop).host = s.host := by
  cases loop with
  | window => exact fillWindow_host
  | checkpoint => exact drainCheckpoint_host

/-- The comparison of digests does not touch the phone. -/
theorem acknowledged_host (loop : AcknowledgementLoop) (m : TwoPhoneMessage) :
    (s.acknowledged S loop m).host = s.host := by
  cases hp : s.pendingFrames with
  | nil =>
    unfold acknowledged receiveControllerAcknowledgement
    rw [hp]
    rfl
  | cons pending rest =>
    rcases acknowledged_cases S hp loop m with
      ⟨a, -, -, ⟨-, h⟩ | ⟨timing, -, ⟨-, h⟩ | ⟨-, -, h⟩ | ⟨-, failure, -, h⟩⟩⟩ | ⟨-, error, h⟩ <;>
      rw [h]
    · rfl
    · exact continueLoop_host loop
    · exact continueLoop_host loop
    · rfl
    · rfl

/-- The answer to a finish does not call the host. -/
theorem finished_host (success : Bool) (detail : String) (m : TwoPhoneMessage) :
    (s.finished success detail m).host = s.host := by
  unfold finished
  split <;> rfl

/-- A call of the controller's main thread changes the phone as a callback does, or not at all. -/
theorem step_host (h : s.step S e = some t) : S.hostStep s.host e = some t.host := by
  replace h := call_of_step h
  unfold call at h
  cases hp : s.phase <;> rw [hp] at h <;> dsimp only at h
  case preparing =>
    obtain ⟨rfl, rfl⟩ := SessionEvent.on_eq_some.mp h
    rfl
  case connecting | activating =>
    rcases SessionEvent.on_or_on_eq_some h with ⟨rfl, rfl⟩ | ⟨rfl, rfl⟩ <;> rfl
  case receivingHello =>
    rcases SessionEvent.onReceive_eq_some.mp h with ⟨m, rfl, rfl⟩ | ⟨rfl, rfl⟩
    · split <;> rfl
    · rfl
  case makingSnapshot =>
    obtain ⟨rfl, rfl⟩ := SessionEvent.on_eq_some.mp h
    rw [hostStep_madeSnapshot]
    split <;> rfl
  case hashingState =>
    obtain ⟨rfl, rfl⟩ := SessionEvent.on_eq_some.mp h
    exact hostStep_hashed.mpr rfl
  case receivingReady =>
    rcases SessionEvent.onReceive_eq_some.mp h with ⟨m, rfl, rfl⟩ | ⟨rfl, rfl⟩
    · split <;> rfl
    · rfl
  case resuming =>
    obtain ⟨rfl, rfl⟩ := SessionEvent.on_eq_some.mp h
    rfl
  case startingInbox =>
    obtain ⟨rfl, rfl⟩ := SessionEvent.on_eq_some.mp h
    exact congrArg some mainLoop_host.symm
  case awaitingAcknowledgement loop =>
    rcases SessionEvent.onNext_eq_some.mp h with ⟨m, rfl, rfl⟩ | ⟨error, rfl, rfl⟩
    · exact congrArg some (acknowledged_host loop m).symm
    · rfl
  case providingInput =>
    obtain ⟨rfl, rfl⟩ := SessionEvent.on_eq_some.mp h
    exact hostStep_provided.mpr rfl
  case steppingFrame input =>
    obtain ⟨rfl, rfl⟩ := SessionEvent.on_eq_some.mp h
    rw [hostStep_stepped]
    split
    · rw [drainCheckpoint_host]
    · rw [mainLoop_host]
  case awaitingFinish success detail =>
    rcases SessionEvent.onNext_eq_some.mp h with ⟨m, rfl, rfl⟩ | ⟨error, rfl, rfl⟩
    · exact congrArg some (finished_host success detail m).symm
    · rfl
  case sendingHello | sendingSnapshot | sendingStart | sendingInput | sendingFinish =>
    rcases SessionEvent.onSend_eq_some.mp h with ⟨rfl, rfl⟩ | ⟨rfl, rfl⟩ <;> rfl
  case stoppingInbox | closingInbox | deactivating | closing =>
    obtain ⟨rfl, rfl⟩ := SessionEvent.on_eq_some.mp h
    rfl
  case ended | trapped => exact absurd h nofun

/-- A run of the controller's main thread is a run of its phone. -/
theorem exec_host {es : List SessionEvent} (h : exec (step S) s es = some t) :
    exec S.hostStep s.host es = some t.host := by
  have hproject : exec S.hostStep s.host (es.filterMap some) = some t.host :=
    exec_project ControllerThread.host some (fun _ _ _ hstep => step_host hstep) h
  rwa [List.filterMap_some] at hproject

end ControllerThread

namespace DisplayThread

variable {σ : Type} {S : TwoPhoneSession σ} {s t : DisplayThread σ} {e : SessionEvent}

/-- A message by itself does not call the host. -/
theorem handle_host (m : TwoPhoneMessage) : (s.handle m).host = s.host := by
  rcases s.handle_cases m with ⟨input, -, -, h⟩ | ⟨success, detail, -, h⟩ | ⟨error, -, h⟩ |
    ⟨input, -, -, h⟩ <;> rw [h] <;> rfl

/-- Measuring a frame does not call the host. -/
theorem measured_host (input : DSInputFrame) (digest : Option EmulatorDigest)
    (started finished : UInt64) : (s.measured S input digest started finished).host = s.host := by
  unfold measured
  split
  · rfl
  · rw [goto_host, counted_host]

/-- A call of the display's thread changes the phone as a callback does, or not at all. -/
theorem step_host (h : s.step S e = some t) : S.hostStep s.host e = some t.host := by
  replace h := call_of_step h
  unfold call at h
  cases hp : s.phase <;> rw [hp] at h <;> dsimp only at h
  case preparing | resuming =>
    obtain ⟨rfl, rfl⟩ := SessionEvent.on_eq_some.mp h
    rfl
  case connecting | activating =>
    rcases SessionEvent.on_or_on_eq_some h with ⟨rfl, rfl⟩ | ⟨rfl, rfl⟩ <;> rfl
  case receivingHello | receivingSnapshot | receivingStart =>
    rcases SessionEvent.onReceive_eq_some.mp h with ⟨m, rfl, rfl⟩ | ⟨rfl, rfl⟩
    · split <;> rfl
    · rfl
  case loadingSnapshot expectedStateHash =>
    obtain ⟨rfl, rfl⟩ := SessionEvent.on_eq_some.mp h
    rw [hostStep_loadedSnapshot]
    split <;> rfl
  case hashingState expectedStateHash =>
    obtain ⟨rfl, rfl⟩ := SessionEvent.on_eq_some.mp h
    rw [hostStep_hashed]
    split <;> rfl
  case receiving =>
    rcases SessionEvent.onReceive_eq_some.mp h with ⟨m, rfl, rfl⟩ | ⟨rfl, rfl⟩
    · exact congrArg some (handle_host m).symm
    · rfl
  case startingClock input =>
    obtain ⟨u, rfl, -, rfl⟩ := onClock_eq_some.mp h
    rfl
  case steppingFrame input processingStarted =>
    obtain ⟨rfl, rfl⟩ := SessionEvent.on_eq_some.mp h
    exact hostStep_stepped.mpr rfl
  case stoppingClock input digest processingStarted =>
    obtain ⟨u, rfl, -, rfl⟩ := onClock_eq_some.mp h
    rw [measured_host]
    rfl
  case sendingHello | sendingFailure | sendingReady | acknowledging |
      sendingFinishAcknowledgement =>
    rcases SessionEvent.onSend_eq_some.mp h with ⟨rfl, rfl⟩ | ⟨rfl, rfl⟩ <;> rfl
  case deactivating | closing =>
    obtain ⟨rfl, rfl⟩ := SessionEvent.on_eq_some.mp h
    rfl
  case ended | trapped => exact absurd h nofun

/-- A run of the display's thread is a run of its phone. -/
theorem exec_host {es : List SessionEvent} (h : exec (step S) s es = some t) :
    exec S.hostStep s.host es = some t.host := by
  have hproject : exec S.hostStep s.host (es.filterMap some) = some t.host :=
    exec_project DisplayThread.host some (fun _ _ _ hstep => step_host hstep) h
  rwa [List.filterMap_some] at hproject

end DisplayThread

end DSEmu

import DSEmu.Session.Controller
import DSEmu.Session.Display

/-!
# The stages of `run()`

What a session does with its transport is the same in both roles: it obtains one, activates it, uses
it, and gives it up in the `defer` block. `RunStage` is how far `run()` is in this, `RunStage.Step`
what a call of its thread can do to it, and a `Runner` a thread with its stage. The threads of both
roles are runners.
-/

namespace DSEmu

open SessionEvent (on_eq_some on_or_on_eq_some onSend_eq_some
  onReceive_eq_some onNext_eq_some)

/-- How far `run()` is with its transport. -/
inductive RunStage where
  /-- It has none yet. -/
  | connecting
  /-- It has obtained one, and is at the lock section of `activate`. -/
  | activating
  /-- It has activated it, and is before the lock section of `deactivateTransport`. -/
  | active
  /-- It is at the `close()` of `activate` or of the `defer` block. -/
  | closing (result : SessionResult)
  | ended (result : SessionResult)

/-- A call between `activate` and `deactivateTransport`. -/
def SessionEvent.uses : SessionEvent → Bool
  | prepared => false
  | connected => false
  | connectFailed => false
  | activated => false
  | activationRefused => false
  | deactivated => false
  | _ => true

/-- What a call does to the stage. -/
inductive RunStage.Step : RunStage → SessionEvent → RunStage → Prop
  | prepared : Step .connecting .prepared .connecting
  | connected : Step .connecting .connected .activating
  | connectFailed : Step .connecting .connectFailed (.ended (.error .transport))
  | activated : Step .activating .activated .active
  | activationRefused : Step .activating .activationRefused (.closing (.error .cancelled))
  | used (e : SessionEvent) (he : e.uses = true) : Step .active e .active
  | deactivated (result : SessionResult) : Step .active .deactivated (.closing result)
  | closed (result : SessionResult) : Step (.closing result) (.operation .closed) (.ended result)

section Uses

variable {T : Type} (stage : T → RunStage) {e : SessionEvent} {t : T}

/-- A call between `activate` and `deactivateTransport`, in a thread that goes on there. -/
theorem RunStage.Step.on {e₀ : SessionEvent} {done : T} (h : SessionEvent.on e₀ done e = some t)
    (he : e₀.uses = true) (hdone : stage done = .active) : Step .active e (stage t) := by
  obtain ⟨rfl, rfl⟩ := on_eq_some.mp h
  rw [hdone]
  exact .used e he

/-- A send in the middle of a run, whether it fails or not. -/
theorem RunStage.Step.onSend {m : TwoPhoneMessage} {done failed : T}
    (h : SessionEvent.onSend m done failed e = some t) (hdone : stage done = .active)
    (hfailed : stage failed = .active) : Step .active e (stage t) := by
  obtain ⟨rfl, rfl⟩ | ⟨rfl, rfl⟩ := onSend_eq_some.mp h
  · rw [hdone]
    exact .used _ rfl
  · rw [hfailed]
    exact .used _ rfl

/-- A receive in the middle of a run. -/
theorem RunStage.Step.onReceive {done : TwoPhoneMessage → T} {failed : T}
    (h : SessionEvent.onReceive done failed e = some t) (hdone : ∀ m, stage (done m) = .active)
    (hfailed : stage failed = .active) : Step .active e (stage t) := by
  obtain ⟨m, rfl, rfl⟩ | ⟨rfl, rfl⟩ := onReceive_eq_some.mp h
  · rw [hdone m]
    exact .used _ rfl
  · rw [hfailed]
    exact .used _ rfl

/-- A message of the inbox in the middle of a run. -/
theorem RunStage.Step.onNext {done : TwoPhoneMessage → T} {failed : SessionError → T}
    (h : SessionEvent.onNext done failed e = some t) (hdone : ∀ m, stage (done m) = .active)
    (hfailed : ∀ error, stage (failed error) = .active) : Step .active e (stage t) := by
  obtain ⟨m, rfl, rfl⟩ | ⟨error, rfl, rfl⟩ := onNext_eq_some.mp h
  · rw [hdone m]
    exact .used _ rfl
  · rw [hfailed error]
    exact .used _ rfl

end Uses

/-- A thread in `run()`, with the stage that it is in. What `activate` finds is not up to the
thread, nor whether `close()` returns. -/
structure Runner (ρ : Type) where
  step : ρ → SessionEvent → Option ρ
  stage : ρ → RunStage
  step_stage : ∀ {r t : ρ} {e : SessionEvent}, step r e = some t →
    RunStage.Step (stage r) e (stage t)
  refuses : ∀ {r : ρ}, stage r = .activating → ∃ t, step r .activationRefused = some t
  closes : ∀ {r : ρ} {result : SessionResult}, stage r = .closing result →
    ∃ t, step r (.operation .closed) = some t

/-- The stage of a call of the controller. -/
def ControllerPhase.stage : ControllerPhase → RunStage
  | .preparing => .connecting
  | .connecting => .connecting
  | .activating => .activating
  | .closing result => .closing result
  | .ended result => .ended result
  | _ => .active

/-- Activating is one phase. -/
theorem ControllerPhase.stage_eq_activating {p : ControllerPhase} (h : p.stage = .activating) :
    p = .activating := by
  cases p with
  | activating => rfl
  | _ => exact absurd h nofun

/-- Closing is one phase for each result. -/
theorem ControllerPhase.stage_eq_closing {p : ControllerPhase} {result : SessionResult}
    (h : p.stage = .closing result) : p = .closing result := by
  cases p with
  | closing result' => rw [RunStage.closing.inj h]
  | _ => exact absurd h nofun

/-- The stage of a call of the display. -/
def DisplayPhase.stage : DisplayPhase → RunStage
  | .preparing => .connecting
  | .connecting => .connecting
  | .activating => .activating
  | .closing result => .closing result
  | .ended result => .ended result
  | _ => .active

/-- Activating is one phase. -/
theorem DisplayPhase.stage_eq_activating {p : DisplayPhase} (h : p.stage = .activating) :
    p = .activating := by
  cases p with
  | activating => rfl
  | _ => exact absurd h nofun

/-- Closing is one phase for each result. -/
theorem DisplayPhase.stage_eq_closing {p : DisplayPhase} {result : SessionResult}
    (h : p.stage = .closing result) : p = .closing result := by
  cases p with
  | closing result' => rw [RunStage.closing.inj h]
  | _ => exact absurd h nofun

section Controller

variable {σ : Type} (S : TwoPhoneSession σ) (s : ControllerThread σ)

/-- The stage of the controller. Where `checkpoints += 1` has trapped, it stays the active one. -/
def ControllerThread.stage : RunStage :=
  if s.checkpoints < 2 ^ 63 then s.phase.stage else .active

variable {s} in
/-- A thread in an active phase is active, whether it has trapped or not. -/
theorem ControllerThread.stage_of_active (h : s.phase.stage = .active) : s.stage = .active := by
  unfold stage
  rw [h, ite_self]

variable {s} in
/-- A thread that has not trapped is where its phase is. -/
theorem ControllerThread.stage_goto (hcounted : s.checkpoints < 2 ^ 63) (p : ControllerPhase) :
    (s.goto p).stage = p.stage :=
  if_pos hcounted

variable {s} in
/-- A thread at another stage than the active one has not trapped. -/
theorem ControllerThread.stage_eq {stage : RunStage} (h : s.stage = stage)
    (hother : stage ≠ .active) :
    s.checkpoints < 2 ^ 63 ∧ s.phase.stage = stage := by
  subst h
  unfold ControllerThread.stage at hother ⊢
  split_ifs at hother ⊢ with hcounted
  · exact ⟨hcounted, rfl⟩
  · exact absurd rfl hother

/-- Waiting for an acknowledgement, the session runs. -/
theorem ControllerThread.stage_awaitAcknowledgement (loop : AcknowledgementLoop) :
    (s.awaitAcknowledgement loop).phase.stage = .active := by
  unfold awaitAcknowledgement
  split <;> rfl

/-- Filling the window, the session runs. -/
theorem ControllerThread.stage_fillWindow : (s.fillWindow S).phase.stage = .active := by
  unfold fillWindow beginFrame
  split_ifs
  · exact s.stage_awaitAcknowledgement _
  · split <;> rfl

/-- In the main loop, the session runs. -/
theorem ControllerThread.stage_mainLoop : (s.mainLoop S).phase.stage = .active := by
  unfold mainLoop
  split_ifs
  · exact s.stage_fillWindow S
  · rfl

/-- Draining for a checkpoint, the session runs. -/
theorem ControllerThread.stage_drainCheckpoint : (s.drainCheckpoint S).phase.stage = .active := by
  unfold drainCheckpoint
  split_ifs
  · exact s.stage_mainLoop S
  · exact s.stage_awaitAcknowledgement _

/-- Back in one of the loops, the session runs. -/
theorem ControllerThread.stage_continueLoop (loop : AcknowledgementLoop) :
    (s.continueLoop S loop).phase.stage = .active := by
  cases loop with
  | window => exact s.stage_fillWindow S
  | checkpoint => exact s.stage_drainCheckpoint S

/-- An acknowledgement does not end the session. -/
theorem ControllerThread.stage_acknowledged (loop : AcknowledgementLoop) (m : TwoPhoneMessage) :
    (s.acknowledged S loop m).phase.stage = .active := by
  unfold acknowledged
  split
  · exact stage_continueLoop S _ loop
  · rfl
  · rfl
  · rfl

/-- The answer to a finish is sent before the session ends. -/
theorem ControllerThread.stage_finished (success : Bool) (detail : String) (m : TwoPhoneMessage) :
    (s.finished success detail m).phase.stage = .active := by
  unfold finished
  split_ifs
  · rfl
  · rfl

/-- A call of the controller's main thread is a step of its stage. -/
theorem ControllerThread.step_stage {s t : ControllerThread σ} {e : SessionEvent}
    (h : s.step S e = some t) : RunStage.Step s.stage e t.stage := by
  have hcounted := counted_of_step h
  have hstage : s.stage = s.phase.stage := if_pos hcounted
  rw [hstage]
  replace h := call_of_step h
  unfold call at h
  cases hp : s.phase with
  | preparing =>
    rw [hp] at h
    obtain ⟨rfl, rfl⟩ := on_eq_some.mp h
    rw [stage, if_pos hcounted]
    exact .prepared
  | connecting =>
    rw [hp] at h
    obtain ⟨rfl, rfl⟩ | ⟨rfl, rfl⟩ := on_or_on_eq_some h
    · rw [stage_goto hcounted]
      exact .connected
    · rw [stage_goto hcounted]
      exact .connectFailed
  | activating =>
    rw [hp] at h
    obtain ⟨rfl, rfl⟩ | ⟨rfl, rfl⟩ := on_or_on_eq_some h
    · rw [stage_goto hcounted]
      exact .activated
    · rw [stage_goto hcounted]
      exact .activationRefused
  | deactivating result =>
    rw [hp] at h
    obtain ⟨rfl, rfl⟩ := on_eq_some.mp h
    rw [stage_goto hcounted]
    exact .deactivated result
  | closing result =>
    rw [hp] at h
    obtain ⟨rfl, rfl⟩ := on_eq_some.mp h
    rw [stage_goto hcounted]
    exact .closed result
  -- The calls of an active session, which stays active until the deferred block deactivates it.
  | receivingHello =>
    rw [hp] at h
    refine .onReceive ControllerThread.stage h ?_ (stage_of_active rfl)
    intro m
    cases hm : S.validateHello m with
    | ok => exact stage_of_active rfl
    | error => exact stage_of_active rfl
  | sendingHello =>
    rw [hp] at h
    exact .onSend ControllerThread.stage h (stage_of_active rfl) (stage_of_active rfl)
  | makingSnapshot =>
    rw [hp] at h
    refine .on ControllerThread.stage h rfl ?_
    cases (S.makeSnapshot s.host).1 with
    | ok => exact stage_of_active rfl
    | error => exact stage_of_active rfl
  | hashingState =>
    rw [hp] at h
    exact .on ControllerThread.stage h rfl (stage_of_active rfl)
  | sendingSnapshot stateHash =>
    rw [hp] at h
    exact .onSend ControllerThread.stage h (stage_of_active rfl) (stage_of_active rfl)
  | receivingReady =>
    rw [hp] at h
    refine .onReceive ControllerThread.stage h ?_ (stage_of_active rfl)
    intro m
    split_ifs
    · exact stage_of_active rfl
    · exact stage_of_active rfl
  | sendingStart =>
    rw [hp] at h
    exact .onSend ControllerThread.stage h (stage_of_active rfl) (stage_of_active rfl)
  | resuming =>
    rw [hp] at h
    exact .on ControllerThread.stage h rfl (stage_of_active rfl)
  | startingInbox =>
    rw [hp] at h
    exact .on ControllerThread.stage h rfl (stage_of_active (s.stage_mainLoop S))
  | awaitingAcknowledgement loop =>
    rw [hp] at h
    exact .onNext ControllerThread.stage h
      (fun m => stage_of_active (s.stage_acknowledged S loop m)) fun error => stage_of_active rfl
  | providingInput =>
    rw [hp] at h
    exact .on ControllerThread.stage h rfl (stage_of_active rfl)
  | sendingInput input =>
    rw [hp] at h
    exact .onSend ControllerThread.stage h (stage_of_active rfl) (stage_of_active rfl)
  | steppingFrame input =>
    rw [hp] at h
    refine .on ControllerThread.stage h rfl ?_
    split_ifs
    · exact stage_of_active (stage_drainCheckpoint S _)
    · exact stage_of_active (stage_mainLoop S _)
  | sendingFinish success detail =>
    rw [hp] at h
    exact .onSend ControllerThread.stage h (stage_of_active rfl) (stage_of_active rfl)
  | awaitingFinish success detail =>
    rw [hp] at h
    exact .onNext ControllerThread.stage h
      (fun m => stage_of_active (s.stage_finished success detail m)) fun error =>
        stage_of_active rfl
  | stoppingInbox result =>
    rw [hp] at h
    exact .on ControllerThread.stage h rfl (stage_of_active rfl)
  | closingInbox result =>
    rw [hp] at h
    exact .on ControllerThread.stage h rfl (stage_of_active rfl)
  | ended result =>
    rw [hp] at h
    exact absurd h (Option.some_ne_none _).symm
  | trapped =>
    rw [hp] at h
    exact absurd h (Option.some_ne_none _).symm

end Controller

section Display

variable {σ : Type} (S : TwoPhoneSession σ) (s : DisplayThread σ)

/-- The stage of the display. Where `checkpoints += 1` has trapped, it stays the active one. -/
def DisplayThread.stage : RunStage :=
  if s.checkpoints < 2 ^ 63 then s.phase.stage else .active

variable {s} in
/-- A thread in an active phase is active, whether it has trapped or not. -/
theorem DisplayThread.stage_of_active (h : s.phase.stage = .active) : s.stage = .active := by
  unfold stage
  rw [h, ite_self]

variable {s} in
/-- A thread that has not trapped is where its phase is. -/
theorem DisplayThread.stage_goto (hcounted : s.checkpoints < 2 ^ 63) (p : DisplayPhase) :
    (s.goto p).stage = p.stage :=
  if_pos hcounted

variable {s} in
/-- A thread at another stage than the active one has not trapped. -/
theorem DisplayThread.stage_eq {stage : RunStage} (h : s.stage = stage) (hother : stage ≠ .active) :
    s.checkpoints < 2 ^ 63 ∧ s.phase.stage = stage := by
  subst h
  unfold DisplayThread.stage at hother ⊢
  split_ifs at hother ⊢ with hcounted
  · exact ⟨hcounted, rfl⟩
  · exact absurd rfl hother

/-- A message does not end the session at once. -/
theorem DisplayThread.stage_handle (m : TwoPhoneMessage) :
    (s.handle m).phase.stage = .active := by
  obtain ⟨input, -, -, h⟩ | ⟨success, detail, -, h⟩ | ⟨error, -, h⟩ | ⟨input, -, -, h⟩ :=
    s.handle_cases m <;> rw [h] <;> rfl

/-- A frame that has been measured is acknowledged. -/
theorem DisplayThread.stage_measured (input : DSInputFrame) (digest : Option EmulatorDigest)
    (processingStarted processingFinished : UInt64) :
    (s.measured S input digest processingStarted processingFinished).phase.stage = .active := by
  unfold measured
  split <;> rfl

/-- Reading the clock in the middle of a run. -/
theorem RunStage.Step.onClock {s t : DisplayThread σ} {done : UInt64 → DisplayThread σ}
    {e : SessionEvent} (h : s.onClock done e = some t)
    (hdone : ∀ u, (done u).stage = .active) : Step .active e t.stage := by
  obtain ⟨u, rfl, -, rfl⟩ := DisplayThread.onClock_eq_some.mp h
  rw [hdone u]
  exact .used _ rfl

/-- A call of the display's thread is a step of its stage. -/
theorem DisplayThread.step_stage {s t : DisplayThread σ} {e : SessionEvent}
    (h : s.step S e = some t) : RunStage.Step s.stage e t.stage := by
  have hcounted := counted_of_step h
  have hstage : s.stage = s.phase.stage := if_pos hcounted
  rw [hstage]
  replace h := call_of_step h
  unfold call at h
  cases hp : s.phase with
  | preparing =>
    rw [hp] at h
    obtain ⟨rfl, rfl⟩ := on_eq_some.mp h
    rw [stage, if_pos hcounted]
    exact .prepared
  | connecting =>
    rw [hp] at h
    obtain ⟨rfl, rfl⟩ | ⟨rfl, rfl⟩ := on_or_on_eq_some h
    · rw [stage_goto hcounted]
      exact .connected
    · rw [stage_goto hcounted]
      exact .connectFailed
  | activating =>
    rw [hp] at h
    obtain ⟨rfl, rfl⟩ | ⟨rfl, rfl⟩ := on_or_on_eq_some h
    · rw [stage_goto hcounted]
      exact .activated
    · rw [stage_goto hcounted]
      exact .activationRefused
  | deactivating result =>
    rw [hp] at h
    obtain ⟨rfl, rfl⟩ := on_eq_some.mp h
    rw [stage_goto hcounted]
    exact .deactivated result
  | closing result =>
    rw [hp] at h
    obtain ⟨rfl, rfl⟩ := on_eq_some.mp h
    rw [stage_goto hcounted]
    exact .closed result
  -- The calls of an active session, which stays active until the deferred block deactivates it.
  | sendingHello =>
    rw [hp] at h
    exact .onSend DisplayThread.stage h (stage_of_active rfl) (stage_of_active rfl)
  | receivingHello =>
    rw [hp] at h
    refine .onReceive DisplayThread.stage h ?_ (stage_of_active rfl)
    intro m
    cases hm : S.validateHello m with
    | ok => exact stage_of_active rfl
    | error => exact stage_of_active rfl
  | receivingSnapshot =>
    rw [hp] at h
    refine .onReceive DisplayThread.stage h ?_ (stage_of_active rfl)
    intro m
    cases m with
    | snapshot snapshot expectedStateHash => exact stage_of_active rfl
    | _ => exact stage_of_active rfl
  | loadingSnapshot expectedStateHash =>
    rw [hp] at h
    refine .on DisplayThread.stage h rfl ?_
    cases (S.loadSnapshot s.snapshot s.host).1 with
    | ok => exact stage_of_active rfl
    | error => exact stage_of_active rfl
  | hashingState expectedStateHash =>
    rw [hp] at h
    refine .on DisplayThread.stage h rfl ?_
    split_ifs
    · exact stage_of_active rfl
    · exact stage_of_active rfl
  | sendingFailure detail =>
    rw [hp] at h
    exact .onSend DisplayThread.stage h (stage_of_active rfl) (stage_of_active rfl)
  | sendingReady =>
    rw [hp] at h
    exact .onSend DisplayThread.stage h (stage_of_active rfl) (stage_of_active rfl)
  | receivingStart =>
    rw [hp] at h
    refine .onReceive DisplayThread.stage h ?_ (stage_of_active rfl)
    intro m
    split_ifs
    · exact stage_of_active rfl
    · exact stage_of_active rfl
  | resuming =>
    rw [hp] at h
    exact .on DisplayThread.stage h rfl (stage_of_active rfl)
  | receiving =>
    rw [hp] at h
    exact .onReceive DisplayThread.stage h (fun m => stage_of_active (s.stage_handle m))
      (stage_of_active rfl)
  | startingClock input =>
    rw [hp] at h
    exact .onClock h fun u => stage_of_active rfl
  | steppingFrame input processingStarted =>
    rw [hp] at h
    exact .on DisplayThread.stage h rfl (stage_of_active rfl)
  | stoppingClock input digest processingStarted =>
    rw [hp] at h
    exact .onClock h fun u =>
      stage_of_active (stage_measured S _ input digest processingStarted u)
  | acknowledging acknowledgement =>
    rw [hp] at h
    exact .onSend DisplayThread.stage h (stage_of_active rfl) (stage_of_active rfl)
  | sendingFinishAcknowledgement success detail =>
    rw [hp] at h
    exact .onSend DisplayThread.stage h (stage_of_active rfl) (stage_of_active rfl)
  | ended result =>
    rw [hp] at h
    exact absurd h (Option.some_ne_none _).symm
  | trapped =>
    rw [hp] at h
    exact absurd h (Option.some_ne_none _).symm

end Display

/-- The controller's main thread in `run()`. -/
def controllerRunner {σ : Type} (S : TwoPhoneSession σ) : Runner (ControllerThread σ) where
  step := ControllerThread.step S
  stage := ControllerThread.stage
  step_stage := ControllerThread.step_stage S
  refuses := by
    intro s h
    obtain ⟨hcounted, hactivating⟩ := ControllerThread.stage_eq h nofun
    refine ⟨s.goto (.closing (.error .cancelled)), ?_⟩
    rw [ControllerThread.step_eq_call S hcounted, ControllerThread.call,
      ControllerPhase.stage_eq_activating hactivating]
    rfl
  closes := by
    intro s result h
    obtain ⟨hcounted, hclosing⟩ := ControllerThread.stage_eq h nofun
    refine ⟨s.goto (.ended result), ?_⟩
    rw [ControllerThread.step_eq_call S hcounted, ControllerThread.call,
      ControllerPhase.stage_eq_closing hclosing]
    rfl

/-- The display's thread in `run()`. -/
def displayRunner {σ : Type} (S : TwoPhoneSession σ) : Runner (DisplayThread σ) where
  step := DisplayThread.step S
  stage := DisplayThread.stage
  step_stage := DisplayThread.step_stage S
  refuses := by
    intro s h
    obtain ⟨hcounted, hactivating⟩ := DisplayThread.stage_eq h nofun
    refine ⟨s.goto (.closing (.error .cancelled)), ?_⟩
    rw [DisplayThread.step_eq_call S hcounted, DisplayThread.call,
      DisplayPhase.stage_eq_activating hactivating]
    rfl
  closes := by
    intro s result h
    obtain ⟨hcounted, hclosing⟩ := DisplayThread.stage_eq h nofun
    refine ⟨s.goto (.ended result), ?_⟩
    rw [DisplayThread.step_eq_call S hcounted, DisplayThread.call,
      DisplayPhase.stage_eq_closing hclosing]
    rfl

end DSEmu

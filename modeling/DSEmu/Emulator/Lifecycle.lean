import DSEmu.Emulator.EmulatorCore
import DSEmu.Emulator.ReconnectLoop
import DSEmu.Session.Cancel

/-!
# The app on a phone

The two threads of `DSEmu/Emulator/EmulatorCore.swift` in two-phone mode, once `loadROM` has started
the second: the main thread, in `appDidEnterBackground` and `appWillEnterForeground` when the system
calls them, and the emulation thread in `TwoPhoneReconnectLoop.run`, which makes one session after
the other in `runTwoPhoneSessionAttempt`. A section that holds a lock is one step, and every
interleaving of the steps of the two threads is a run. `isRunning` is true as long as the emulation
thread is in its loop, and nothing calls `stop`. A call of `appWillEnterForeground` that finds
`backgrounded` false does nothing and is no step, and neither is a status text.
-/

namespace DSEmu

open Automaton (exec)

/-- `pauseEmulation()`. -/
def EmulatorCore.pauseEmulation {ν ι : Type} (phone : Phone ν ι) : Phone ν ι :=
  { phone with bridge := MelonDS.pause phone.bridge }

/-- A role of a session on a phone with state `σ`: its thread, and how that reaches the phone, which
the main thread reaches as well. -/
structure Role (ρ σ : Type) extends Runner ρ where
  start : σ → ρ
  host : ρ → σ
  withHost : σ → ρ → ρ
  stage_start : ∀ h, stage (start h) = .connecting
  stage_withHost : ∀ h r, stage (withHost h r) = stage r

/-- The controller. -/
def controllerRole {σ : Type} (S : TwoPhoneSession σ) : Role (ControllerThread σ) σ where
  toRunner := controllerRunner S
  start host := { host }
  host s := s.host
  withHost host s := { s with host }
  stage_start _ := rfl
  stage_withHost _ _ := rfl

/-- The display. -/
def displayRole {σ : Type} (S : TwoPhoneSession σ) : Role (DisplayThread σ) σ where
  toRunner := displayRunner S
  start host := { host }
  host s := s.host
  withHost host s := { s with host }
  stage_start _ := rfl
  stage_withHost _ _ := rfl

/-- Where the emulation thread is in `runTwoPhoneSessionAttempt`. A session is named by its
number. -/
inductive AttemptPhase where
  | idle
  | started
  /-- The session is made, and not yet `activeTwoPhoneSession`. -/
  | created (session : ℕ)
  /-- It is, and the thread is in its `run()`. -/
  | running (session : ℕ)
  /-- The `defer` block is done. -/
  | left (result : SessionResult)

/-- What a step of the loop does to the attempt: `none` where the attempt is not at the point for
it. The main thread's calls are not steps of the loop's own. -/
def AttemptPhase.after : LoopEvent → AttemptPhase → Option AttemptPhase
  | .didEnterBackground, _ => none
  | .willEnterForeground, _ => none
  | .stop, _ => none
  | .attemptStarted, idle => some started
  | .attemptStarted, _ => none
  | .attemptReturned, left (.ok _) => some idle
  | .attemptReturned, _ => none
  | .attemptThrew, left (.error _) => some idle
  | .attemptThrew, _ => none
  | _, p => some p

/-- An attempt is started, ended, or where it was. -/
theorem AttemptPhase.after_cases {e : LoopEvent} {p q : AttemptPhase} (h : p.after e = some q) :
    (e = .attemptStarted ∧ p = .idle ∧ q = .started) ∨
    (e ≠ .attemptStarted ∧ e ≠ .didEnterBackground ∧ e ≠ .willEnterForeground ∧
      (q = p ∨ (∃ result, p = .left result) ∧ q = .idle)) := by
  cases e with
  | attemptStarted =>
    cases p with
    | idle => exact .inl ⟨rfl, rfl, (Option.some.inj h).symm⟩
    | _ => exact absurd h nofun
  | attemptReturned =>
    cases p with
    | left result =>
      cases result with
      | ok => exact .inr ⟨nofun, nofun, nofun, .inr ⟨⟨_, rfl⟩, (Option.some.inj h).symm⟩⟩
      | error => exact absurd h nofun
    | _ => exact absurd h nofun
  | attemptThrew =>
    cases p with
    | left result =>
      cases result with
      | ok => exact absurd h nofun
      | error => exact .inr ⟨nofun, nofun, nofun, .inr ⟨⟨_, rfl⟩, (Option.some.inj h).symm⟩⟩
    | _ => exact absurd h nofun
  | didEnterBackground => exact absurd h nofun
  | willEnterForeground => exact absurd h nofun
  | stop => exact absurd h nofun
  | _ => exact .inr ⟨nofun, nofun, nofun, .inl (Option.some.inj h).symm⟩

/-- Where the main thread is. -/
inductive MainPhase where
  | idle
  /-- In `appDidEnterBackground`, after the first, second and third of its calls. -/
  | backgrounded
  | notified
  | paused
  /-- In the `cancel()` of `cancelActiveTwoPhoneSession`, before its section and after it. -/
  | cancelling (session : ℕ)
  | closing (session : ℕ)
  /-- Before the return of `appDidEnterBackground`. -/
  | cancelled
  /-- In `appWillEnterForeground`, before `willEnterForeground`. -/
  | foregrounding
  deriving DecidableEq, Repr

/-- The app: the reconnect loop, the sessions that it has made, `activeTwoPhoneSession`, and the
state of the phone. -/
structure AppState (ρ σ : Type) where
  loop : LoopState := {}
  attempt : AttemptPhase := .idle
  sessions : List (SessionState ρ Unit) := []
  activeTwoPhoneSession : Option ℕ := none
  main : MainPhase := .idle
  backgrounded : Bool := false
  host : σ

/-- A step of the emulation thread, or of the main thread. -/
inductive AppEvent where
  /-- A step of the loop, or of its clock. -/
  | loop (event : LoopEvent)
  /-- `TwoPhoneSession(…)` -/
  | created
  /-- the section that sets `activeTwoPhoneSession` -/
  | registered
  /-- a call of `session.run()` -/
  | session (event : SessionEvent)
  /-- the section of the `defer` block -/
  | unregistered
  /-- `backgrounded = true` -/
  | backgroundStarted
  /-- `twoPhoneReconnectLoop.didEnterBackground()` -/
  | didEnterBackground
  /-- `pauseEmulation()` -/
  | emulationPaused
  /-- the section of `cancelActiveTwoPhoneSession` -/
  | activeRead
  /-- the section of `session.cancel()`, and its return -/
  | cancelLocked
  | cancelReturned
  /-- `appDidEnterBackground` returns -/
  | backgroundReturned
  /-- `backgrounded = false` -/
  | foregroundStarted
  /-- `twoPhoneReconnectLoop.willEnterForeground()` -/
  | willEnterForeground
  deriving DecidableEq

namespace AppState

variable {ρ σ : Type} (retryDelay : ℕ) (R : Role ρ σ) (pause : σ → σ)

/-- A step of the loop. -/
def loopStep (s : AppState ρ σ) (e : LoopEvent) : Option (AppState ρ σ) :=
  (s.loop.step retryDelay e).bind fun loop =>
    (s.attempt.after e).map fun attempt => { s with loop, attempt }

/-- A step of a session in `run()`, on the phone as it is. -/
def sessionStep (s : AppState ρ σ) (k : ℕ) (e : SessionEvent) : Option (AppState ρ σ) :=
  (s.sessions[k]?).bind fun x =>
    (SessionState.step R.toRunner { x with run := R.withHost s.host x.run } (.run e)).map fun y =>
      { s with sessions := s.sessions.set k y, host := R.host y.run }

/-- The section of the `defer` block, once `run()` has ended. -/
def unregister (s : AppState ρ σ) (k : ℕ) : Option (AppState ρ σ) :=
  (s.sessions[k]?).bind fun x =>
    match R.stage x.run with
    | .ended result =>
      some { s with
        attempt := .left result
        activeTwoPhoneSession :=
          if s.activeTwoPhoneSession = some k then none else s.activeTwoPhoneSession }
    | _ => none

/-- A step of `cancel()` on a session. -/
def cancelStep (s : AppState ρ σ) (k : ℕ) (e : SessionCall Unit) (main : MainPhase) :
    Option (AppState ρ σ) :=
  (s.sessions[k]?).bind fun x =>
    (SessionState.step R.toRunner x e).map fun y =>
      { s with sessions := s.sessions.set k y, main }

/-- One step. -/
def step (s : AppState ρ σ) : AppEvent → Option (AppState ρ σ)
  | .loop e => s.loopStep retryDelay e
  | .created =>
    match s.attempt with
    | .started =>
      some { s with
        attempt := .created s.sessions.length
        sessions := s.sessions ++ [{ run := R.start s.host }] }
    | _ => none
  | .registered =>
    match s.attempt with
    | .created k => some { s with attempt := .running k, activeTwoPhoneSession := some k }
    | _ => none
  | .session e =>
    match s.attempt with
    | .running k => s.sessionStep R k e
    | _ => none
  | .unregistered =>
    match s.attempt with
    | .running k => s.unregister R k
    | _ => none
  | .backgroundStarted =>
    if s.main = .idle then some { s with backgrounded := true, main := .backgrounded } else none
  | .didEnterBackground =>
    if s.main = .backgrounded then
      (s.loop.step retryDelay .didEnterBackground).map fun loop =>
        { s with loop, main := .notified }
    else none
  | .emulationPaused =>
    if s.main = .notified then some { s with host := pause s.host, main := .paused } else none
  | .activeRead =>
    if s.main = .paused then
      some { s with main := (s.activeTwoPhoneSession.map MainPhase.cancelling).getD .cancelled }
    else none
  | .cancelLocked =>
    match s.main with
    | .cancelling k => s.cancelStep R k (.cancelLocked ()) (.closing k)
    | _ => none
  | .cancelReturned =>
    match s.main with
    | .closing k => s.cancelStep R k (.cancelReturned ()) .cancelled
    | _ => none
  | .backgroundReturned => if s.main = .cancelled then some { s with main := .idle } else none
  | .foregroundStarted =>
    if s.main = .idle ∧ s.backgrounded = true then
      some { s with backgrounded := false, main := .foregrounding }
    else none
  | .willEnterForeground =>
    if s.main = .foregrounding then
      (s.loop.step retryDelay .willEnterForeground).map fun loop => { s with loop, main := .idle }
    else none

/-- What a step can do. -/
inductive Step (s : AppState ρ σ) : AppEvent → AppState ρ σ → Prop
  | loop (e : LoopEvent) (loop : LoopState) (attempt : AttemptPhase)
      (hloop : s.loop.step retryDelay e = some loop)
      (hforeground : loop.isForeground = s.loop.isForeground)
      (hattempt : attempt = s.attempt ∨ (∃ result, s.attempt = .left result) ∧ attempt = .idle) :
      Step s (.loop e) { s with loop, attempt }
  | attemptStarted (hs : s.attempt = .idle) (hadmitted : s.loop.phase = .admitted) :
      Step s (.loop .attemptStarted) { s with loop := s.loop.go .attempting, attempt := .started }
  | created (hs : s.attempt = .started) :
      Step s .created { s with
        attempt := .created s.sessions.length
        sessions := s.sessions ++ [{ run := R.start s.host }] }
  | registered (k : ℕ) (hs : s.attempt = .created k) :
      Step s .registered { s with attempt := .running k, activeTwoPhoneSession := some k }
  | session (k : ℕ) (e : SessionEvent) (x y : SessionState ρ Unit) (hs : s.attempt = .running k)
      (hx : s.sessions[k]? = some x)
      (hmoves : SessionState.Moves R.toRunner { x with run := R.withHost s.host x.run } y e) :
      Step s (.session e) { s with sessions := s.sessions.set k y, host := R.host y.run }
  | unregistered (k : ℕ) (x : SessionState ρ Unit) (result : SessionResult)
      (hs : s.attempt = .running k) (hx : s.sessions[k]? = some x)
      (hended : R.stage x.run = .ended result) :
      Step s .unregistered { s with
        attempt := .left result
        activeTwoPhoneSession :=
          if s.activeTwoPhoneSession = some k then none else s.activeTwoPhoneSession }
  | backgroundStarted (hs : s.main = .idle) :
      Step s .backgroundStarted { s with backgrounded := true, main := .backgrounded }
  | didEnterBackground (hs : s.main = .backgrounded) :
      Step s .didEnterBackground { s with
        loop := { s.loop with isForeground := false }.broadcast
        main := .notified }
  | emulationPaused (hs : s.main = .notified) :
      Step s .emulationPaused { s with host := pause s.host, main := .paused }
  | activeRead (hs : s.main = .paused) :
      Step s .activeRead { s with
        main := (s.activeTwoPhoneSession.map MainPhase.cancelling).getD .cancelled }
  | cancelLocked (k : ℕ) (x y : SessionState ρ Unit) (hs : s.main = .cancelling k)
      (hx : s.sessions[k]? = some x) (hy : x.step R.toRunner (.cancelLocked ()) = some y) :
      Step s .cancelLocked { s with sessions := s.sessions.set k y, main := .closing k }
  | cancelReturned (k : ℕ) (x y : SessionState ρ Unit) (hs : s.main = .closing k)
      (hx : s.sessions[k]? = some x) (hy : x.step R.toRunner (.cancelReturned ()) = some y) :
      Step s .cancelReturned { s with sessions := s.sessions.set k y, main := .cancelled }
  | backgroundReturned (hs : s.main = .cancelled) :
      Step s .backgroundReturned { s with main := .idle }
  | foregroundStarted (hs : s.main = .idle) (hbackgrounded : s.backgrounded = true) :
      Step s .foregroundStarted { s with backgrounded := false, main := .foregrounding }
  | willEnterForeground (hs : s.main = .foregrounding) :
      Step s .willEnterForeground { s with
        loop := { s.loop with isForeground := true }.broadcast
        main := .idle }

variable {retryDelay R pause} {s t : AppState ρ σ}

theorem step_of_loopStep {e : LoopEvent} (h : s.loopStep retryDelay e = some t) :
    Step retryDelay R pause s (.loop e) t := by
  obtain ⟨loop, hloop, h⟩ := Option.bind_eq_some_iff.mp h
  obtain ⟨attempt, hattempt, rfl⟩ := Option.map_eq_some_iff.mp h
  obtain ⟨rfl, hidle, rfl⟩ | ⟨-, hbackground, hforeground, hafter⟩ :=
    AttemptPhase.after_cases hattempt
  · obtain ⟨hadmitted, hgo⟩ := Option.ite_none_right_eq_some.mp hloop
    obtain rfl := Option.some.inj hgo
    exact .attemptStarted hidle hadmitted
  · exact .loop e loop attempt hloop (LoopState.step_isForeground hloop hbackground hforeground)
      hafter

/-- Every step is one of these. -/
theorem step_of_step {e : AppEvent} (h : s.step retryDelay R pause e = some t) :
    Step retryDelay R pause s e t := by
  cases e with
  | loop e => exact step_of_loopStep h
  -- The calls of the thread that runs the sessions.
  | created =>
    unfold step at h
    dsimp only at h
    split at h
    · rename_i hs
      obtain rfl := Option.some.inj h
      exact .created hs
    · exact absurd h nofun
  | registered =>
    unfold step at h
    dsimp only at h
    split at h
    · rename_i k hs
      obtain rfl := Option.some.inj h
      exact .registered k hs
    · exact absurd h nofun
  | session e =>
    unfold step at h
    dsimp only at h
    split at h
    · rename_i k hs
      obtain ⟨x, hx, h⟩ := Option.bind_eq_some_iff.mp h
      obtain ⟨y, hy, rfl⟩ := Option.map_eq_some_iff.mp h
      exact .session k e x y hs hx (SessionState.moves_of_step hy)
    · exact absurd h nofun
  | unregistered =>
    unfold step at h
    dsimp only at h
    split at h
    · rename_i k hs
      obtain ⟨x, hx, h⟩ := Option.bind_eq_some_iff.mp h
      split at h
      · rename_i result hended
        obtain rfl := Option.some.inj h
        exact .unregistered k x result hs hx hended
      · exact absurd h nofun
    · exact absurd h nofun
  -- The calls of the main thread, where the notifications of the system arrive.
  | cancelLocked =>
    unfold step at h
    dsimp only at h
    split at h
    · rename_i k hs
      obtain ⟨x, hx, h⟩ := Option.bind_eq_some_iff.mp h
      obtain ⟨y, hy, rfl⟩ := Option.map_eq_some_iff.mp h
      exact .cancelLocked k x y hs hx hy
    · exact absurd h nofun
  | cancelReturned =>
    unfold step at h
    dsimp only at h
    split at h
    · rename_i k hs
      obtain ⟨x, hx, h⟩ := Option.bind_eq_some_iff.mp h
      obtain ⟨y, hy, rfl⟩ := Option.map_eq_some_iff.mp h
      exact .cancelReturned k x y hs hx hy
    · exact absurd h nofun
  | backgroundStarted =>
    obtain ⟨hs, h⟩ := Option.ite_none_right_eq_some.mp h
    exact Option.some.inj h ▸ .backgroundStarted hs
  | didEnterBackground =>
    obtain ⟨hs, h⟩ := Option.ite_none_right_eq_some.mp h
    exact Option.some.inj h ▸ .didEnterBackground hs
  | emulationPaused =>
    obtain ⟨hs, h⟩ := Option.ite_none_right_eq_some.mp h
    exact Option.some.inj h ▸ .emulationPaused hs
  | activeRead =>
    obtain ⟨hs, h⟩ := Option.ite_none_right_eq_some.mp h
    exact Option.some.inj h ▸ .activeRead hs
  | backgroundReturned =>
    obtain ⟨hs, h⟩ := Option.ite_none_right_eq_some.mp h
    exact Option.some.inj h ▸ .backgroundReturned hs
  | foregroundStarted =>
    obtain ⟨⟨hs, hbackgrounded⟩, h⟩ := Option.ite_none_right_eq_some.mp h
    exact Option.some.inj h ▸ .foregroundStarted hs hbackgrounded
  | willEnterForeground =>
    obtain ⟨hs, h⟩ := Option.ite_none_right_eq_some.mp h
    exact Option.some.inj h ▸ .willEnterForeground hs

end AppState

end DSEmu

import DSEmu.Emulator.Background
import DSEmu.Session.Host

/-!
# Frames while the emulator is paused

`melonds_run_frame` returns at once while the bridge is paused, and `stepFrame` returns as if it had
run the frame: the controller counts it as pending, and the display acknowledges it. The session
pauses the bridge before it connects and resumes it after the handshake; `appDidEnterBackground`
pauses it whenever it comes. So exactly the frames are counted that were not run which are stepped
after such a pause and before the next `resumeAfterSynchronization` (`frames_executed_iff`).
-/

namespace DSEmu

open Automaton (exec exec_append_eq_some exec_cons exec_split exec_invariant exec_preserves_along
  along_of_forall_mem)
open EmulatorCore (Phone pauseEmulation)

/-- The flag of the bridge after a call of a session. -/
theorem EmulatorCore.hostStep_paused {ν ι : Type} {melonDS : MelonDS ν} {core : EmulatorCore ι}
    {phone phone' : Phone ν ι} {e : SessionEvent}
    (h : (core.twoPhoneSession melonDS).hostStep phone e = some phone') :
    phone'.bridge.paused =
      if e = .prepared then true else if e = .resumed then false else phone.bridge.paused := by
  cases e with
  | prepared =>
    obtain rfl := Option.some.inj h
    rfl
  | resumed =>
    obtain rfl := Option.some.inj h
    rfl
  | madeSnapshot result =>
    obtain ⟨-, rfl⟩ := Prod.mk.inj (hostStep_madeSnapshot.mp h)
    rfl
  | loadedSnapshot snapshot result =>
    obtain ⟨-, rfl⟩ := Prod.mk.inj (hostStep_loadedSnapshot.mp h)
    show (melonDS.melondsLoadStateFromBuffer snapshot phone.bridge).2.paused = phone.bridge.paused
    unfold MelonDS.melondsLoadStateFromBuffer
    split_ifs
    · rfl
    · rfl
  | hashed stateHash =>
    obtain ⟨-, rfl⟩ := Prod.mk.inj (hostStep_hashed.mp h)
    rfl
  | provided frame input =>
    obtain ⟨-, rfl⟩ := Prod.mk.inj (hostStep_provided.mp h)
    rfl
  | stepped frame input needsDigest digest =>
    obtain ⟨-, rfl⟩ := Prod.mk.inj (hostStep_stepped.mp h)
    show (melonDS.melondsRunFrame _).paused = phone.bridge.paused
    unfold MelonDS.melondsRunFrame
    split_ifs
    · rfl
    · rfl
  | _ =>
    obtain rfl := Option.some.inj h
    rfl

/-- The part of a thread in which it steps frames: it is entered by `resumeAfterSynchronization`. -/
structure FrameLoop {ρ σ : Type} (S : TwoPhoneSession σ) (R : Role ρ σ) (looping : ρ → Bool) :
    Prop where
  host_withHost : ∀ host r, R.host (R.withHost host r) = host
  host : ∀ {r t : ρ} {e : SessionEvent}, R.step r e = some t →
    S.hostStep (R.host r) e = some (R.host t)
  withHost : ∀ host r, looping (R.withHost host r) = looping r
  active : ∀ {r : ρ}, looping r = true → R.stage r = .active
  entered : ∀ {r t : ρ} {e : SessionEvent}, R.step r e = some t → looping t = true →
    e = .resumed ∨ looping r = true
  stepped : ∀ {r t : ρ} {frame : UInt64} {input : DSInputFrame} {needsDigest : Bool}
    {digest : Option EmulatorDigest}, R.step r (.stepped frame input needsDigest digest) = some t →
    looping r = true

/-- The controller's frame loop. -/
def ControllerPhase.looping : ControllerPhase → Bool
  | .startingInbox => true
  | .awaitingAcknowledgement _ => true
  | .providingInput => true
  | .sendingInput _ => true
  | .steppingFrame _ => true
  | _ => false

/-- The display's. -/
def DisplayPhase.looping : DisplayPhase → Bool
  | .receiving => true
  | .startingClock _ => true
  | .steppingFrame _ _ => true
  | .stoppingClock _ _ _ => true
  | .acknowledging _ => true
  | _ => false

section Roles

variable {σ : Type} {S : TwoPhoneSession σ} {e : SessionEvent}

/-- The controller enters its frame loop by `resumeAfterSynchronization`. -/
theorem ControllerThread.step_looping {s t : ControllerThread σ} (h : s.step S e = some t)
    (ht : t.phase.looping = true) : e = .resumed ∨ s.phase.looping = true := by
  replace h := call_of_step h
  unfold call at h
  cases hp : s.phase <;> rw [hp] at h
  case startingInbox | awaitingAcknowledgement | providingInput | sendingInput | steppingFrame =>
    exact .inr rfl
  case resuming =>
    obtain ⟨rfl, -⟩ := SessionEvent.on_eq_some.mp h
    exact .inl rfl
  case connecting | activating =>
    obtain ⟨-, rfl⟩ | ⟨-, rfl⟩ := SessionEvent.on_or_on_eq_some h
    · exact absurd ht nofun
    · exact absurd ht nofun
  case preparing | hashingState | stoppingInbox | closingInbox | deactivating | closing =>
    obtain ⟨-, rfl⟩ := SessionEvent.on_eq_some.mp h
    exact absurd ht nofun
  case sendingHello | sendingSnapshot | sendingStart | sendingFinish =>
    obtain ⟨-, rfl⟩ | ⟨-, rfl⟩ := SessionEvent.onSend_eq_some.mp h
    · exact absurd ht nofun
    · exact absurd ht nofun
  case makingSnapshot =>
    obtain ⟨-, rfl⟩ := SessionEvent.on_eq_some.mp h
    split at ht
    · exact absurd ht nofun
    · exact absurd ht nofun
  case receivingHello | receivingReady =>
    obtain ⟨m, -, rfl⟩ | ⟨-, rfl⟩ := SessionEvent.onReceive_eq_some.mp h
    · split at ht
      · exact absurd ht nofun
      · exact absurd ht nofun
    · exact absurd ht nofun
  case awaitingFinish success detail =>
    obtain ⟨m, -, rfl⟩ | ⟨error, -, rfl⟩ := SessionEvent.onNext_eq_some.mp h
    · unfold finished at ht
      split at ht
      · exact absurd ht nofun
      · exact absurd ht nofun
    · exact absurd ht nofun
  case ended | trapped => exact absurd h nofun

/-- The controller steps its frames there. -/
theorem ControllerThread.looping_of_stepped {s t : ControllerThread σ} {frame : UInt64}
    {input : DSInputFrame} {needsDigest : Bool} {digest : Option EmulatorDigest}
    (h : s.step S (.stepped frame input needsDigest digest) = some t) : s.phase.looping = true := by
  replace h := call_of_step h
  unfold call at h
  cases hp : s.phase <;> rw [hp] at h
  case steppingFrame => rfl
  all_goals simp [SessionEvent.on, SessionEvent.onSend, SessionEvent.onReceive,
    SessionEvent.onNext] at h

/-- The display enters its frame loop by `resumeAfterSynchronization`. -/
theorem DisplayThread.step_looping {s t : DisplayThread σ} (h : s.step S e = some t)
    (ht : t.phase.looping = true) : e = .resumed ∨ s.phase.looping = true := by
  replace h := call_of_step h
  unfold call at h
  cases hp : s.phase <;> rw [hp] at h
  case receiving | startingClock | steppingFrame | stoppingClock | acknowledging => exact .inr rfl
  case resuming =>
    -- the loop is entered only by `resume`
    obtain ⟨rfl, -⟩ := SessionEvent.on_eq_some.mp h
    exact .inl rfl
  case connecting | activating =>
    obtain ⟨-, rfl⟩ | ⟨-, rfl⟩ := SessionEvent.on_or_on_eq_some h
    · exact absurd ht nofun
    · exact absurd ht nofun
  case preparing | deactivating | closing =>
    obtain ⟨-, rfl⟩ := SessionEvent.on_eq_some.mp h
    exact absurd ht nofun
  case sendingHello | sendingFailure | sendingReady | sendingFinishAcknowledgement =>
    obtain ⟨-, rfl⟩ | ⟨-, rfl⟩ := SessionEvent.onSend_eq_some.mp h
    · exact absurd ht nofun
    · exact absurd ht nofun
  case loadingSnapshot | hashingState =>
    obtain ⟨-, rfl⟩ := SessionEvent.on_eq_some.mp h
    split at ht
    · exact absurd ht nofun
    · exact absurd ht nofun
  case receivingHello | receivingSnapshot | receivingStart =>
    obtain ⟨m, -, rfl⟩ | ⟨-, rfl⟩ := SessionEvent.onReceive_eq_some.mp h
    · split at ht
      · exact absurd ht nofun
      · exact absurd ht nofun
    · exact absurd ht nofun
  case ended | trapped => exact absurd h nofun

/-- The display steps its frames there. -/
theorem DisplayThread.looping_of_stepped {s t : DisplayThread σ} {frame : UInt64}
    {input : DSInputFrame} {needsDigest : Bool} {digest : Option EmulatorDigest}
    (h : s.step S (.stepped frame input needsDigest digest) = some t) : s.phase.looping = true := by
  replace h := call_of_step h
  unfold call at h
  cases hp : s.phase <;> rw [hp] at h
  case steppingFrame => rfl
  all_goals simp [SessionEvent.on, SessionEvent.onSend, SessionEvent.onReceive, onClock] at h

theorem controller_frameLoop (S : TwoPhoneSession σ) :
    FrameLoop S (controllerRole S) fun s => s.phase.looping where
  host_withHost _ _ := rfl
  host h := ControllerThread.step_host h
  withHost _ _ := rfl
  active := by
    intro s h
    refine ControllerThread.stage_of_active ?_
    cases hp : s.phase <;> rw [hp] at h
    case startingInbox | awaitingAcknowledgement | providingInput | sendingInput |
        steppingFrame => rfl
    all_goals exact absurd h nofun
  entered h := ControllerThread.step_looping h
  stepped h := ControllerThread.looping_of_stepped h

theorem display_frameLoop (S : TwoPhoneSession σ) :
    FrameLoop S (displayRole S) fun s => s.phase.looping where
  host_withHost _ _ := rfl
  host h := DisplayThread.step_host h
  withHost _ _ := rfl
  active := by
    intro s h
    refine DisplayThread.stage_of_active ?_
    cases hp : s.phase <;> rw [hp] at h
    case receiving | startingClock | steppingFrame | stoppingClock | acknowledging => rfl
    all_goals exact absurd h nofun
  entered h := DisplayThread.step_looping h
  stepped h := DisplayThread.looping_of_stepped h

end Roles

namespace AppState

variable {ν ι ρ : Type} {melonDS : MelonDS ν} {core : EmulatorCore ι} {retryDelay : ℕ}
  {R : Role ρ (Phone ν ι)} {looping : ρ → Bool} {s t : AppState ρ (Phone ν ι)} {e : AppEvent}

/-- The flag of the bridge after a step. -/
theorem paused_step (L : FrameLoop (core.twoPhoneSession melonDS) R looping)
    (h : Step retryDelay R pauseEmulation s e t) :
    t.host.bridge.paused =
      if e = .session .resumed then false
      else if e = .session .prepared ∨ e = .emulationPaused then true
      else s.host.bridge.paused := by
  cases h with
  | session k e x y hrunning hx hmoves =>
    have hhost := L.host hmoves.run
    rw [L.host_withHost] at hhost
    show (R.host y.run).bridge.paused = _
    rw [EmulatorCore.hostStep_paused hhost]
    by_cases hresumed : e = .resumed
    · rw [hresumed]
      rfl
    · by_cases hprepared : e = .prepared
      · rw [hprepared]
        rfl
      · simp [hresumed, hprepared]
  | emulationPaused => rfl
  | loop => simp
  | _ => rfl

/-- At most one session is active: where one is active in some way `Q` after a step, the step is one
of that session, or it was so before. -/
theorem active_step {σ : Type} {R : Role ρ σ} {pause : σ → σ} {s t : AppState ρ σ}
    (hs : s.Orderly R) {Q : ρ → Prop}
    (hactive : ∀ r, Q r → R.stage r = .active) (h : Step retryDelay R pause s e t)
    (ht : ∃ x ∈ t.sessions, Q x.run) :
    (∃ e' x y, e = .session e' ∧ x ∈ s.sessions ∧ R.step (R.withHost s.host x.run) e' = some y ∧
      Q y) ∨
      (∀ e', e ≠ .session e') ∧ ∃ x ∈ s.sessions, Q x.run := by
  obtain ⟨x, hx, hQ⟩ := ht
  cases h with
  | created hstarted =>
    obtain hx | hx := List.mem_append.mp hx
    · exact .inr ⟨fun _ => AppEvent.noConfusion, x, hx, hQ⟩
    · obtain rfl := List.mem_singleton.mp hx
      exact absurd ((R.stage_start s.host).symm.trans (hactive _ hQ)) nofun
  | session k e x' y hrunning hx' hmoves =>
    obtain ⟨j, hj⟩ := List.mem_iff_getElem?.mp hx
    obtain ⟨-, rfl⟩ | ⟨hne, hj⟩ := getElem?_set_cases hj
    · exact .inl ⟨e, x', _, rfl, List.mem_of_getElem? hx', hmoves.run, hQ⟩
    · -- the other sessions have ended
      obtain ⟨result, hended⟩ := hs.ended j x hj (by rw [hrunning]; nofun) (by
        rw [hrunning]
        rintro ⟨⟩
        exact hne rfl)
      exact absurd ((hactive _ hQ).symm.trans hended) nofun
  | cancelLocked k x' y hcancelling hx' hy =>
    obtain hx | rfl := List.mem_or_eq_of_mem_set hx
    · exact .inr ⟨fun _ => AppEvent.noConfusion, x, hx, hQ⟩
    · rw [(SessionState.cancels_of_locked hy).1.run] at hQ
      exact .inr ⟨fun _ => AppEvent.noConfusion, x', List.mem_of_getElem? hx', hQ⟩
  | cancelReturned k x' y hclosing hx' hy =>
    obtain hx | rfl := List.mem_or_eq_of_mem_set hx
    · exact .inr ⟨fun _ => AppEvent.noConfusion, x, hx, hQ⟩
    · rw [(SessionState.cancels_of_returned hy).1.run] at hQ
      exact .inr ⟨fun _ => AppEvent.noConfusion, x', List.mem_of_getElem? hx', hQ⟩
  | _ => exact .inr ⟨fun _ => AppEvent.noConfusion, x, hx, hQ⟩

/-- A session in its frame loop was there before the step, or has entered it. -/
theorem looping_step (L : FrameLoop (core.twoPhoneSession melonDS) R looping) (hs : s.Orderly R)
    (h : Step retryDelay R pauseEmulation s e t) (ht : ∃ x ∈ t.sessions, looping x.run = true) :
    e = .session .resumed ∨
      e ≠ .session .prepared ∧ ∃ x ∈ s.sessions, looping x.run = true := by
  obtain ⟨e', x, y, rfl, hx, hy, hlooping⟩ | ⟨he, hbefore⟩ :=
    active_step (Q := fun r => looping r = true) hs (fun _ => L.active) h ht
  · obtain rfl | hbefore := L.entered hy hlooping
    · exact .inl rfl
    · refine .inr ⟨?_, x, hx, (L.withHost _ _).symm.trans hbefore⟩
      rintro ⟨⟩
      have hstage := R.step_stage hy
      rw [L.active hbefore] at hstage
      generalize R.stage y = q at hstage
      cases hstage with
      | used _ hfalse => exact absurd hfalse nofun
  · exact .inr ⟨he .prepared, hbefore⟩

/-- Where a session in its frame loop finds the bridge paused, `appDidEnterBackground` has paused
it, and nothing has resumed it since. -/
theorem paused_of_exec (L : FrameLoop (core.twoPhoneSession melonDS) R looping) {host : Phone ν ι}
    {es : List AppEvent} (h : exec (step retryDelay R pauseEmulation) { host } es = some t)
    (ht : ∃ x ∈ t.sessions, looping x.run = true) :
    t.host.bridge.paused = false ∨
      ∃ pre mid, es = pre ++ .emulationPaused :: mid ∧ .session .resumed ∉ mid := by
  have hinvariant : t.Orderly R ∧ ((∃ x ∈ t.sessions, looping x.run = true) →
      t.host.bridge.paused = false ∨
        ∃ pre mid, es = pre ++ .emulationPaused :: mid ∧ .session .resumed ∉ mid) := by
    refine exec_invariant (I := fun es t => t.Orderly R ∧
      ((∃ x ∈ t.sessions, looping x.run = true) → t.host.bridge.paused = false ∨
        ∃ pre mid, es = pre ++ .emulationPaused :: mid ∧ .session .resumed ∉ mid)) ?_ ?_ h
    · refine ⟨orderly_initial host, ?_⟩
      rintro ⟨x, hx, -⟩
      exact absurd hx List.not_mem_nil
    · rintro es s e t ⟨hs, hpaused⟩ hstep
      have hstep := step_of_step hstep
      refine ⟨hs.step hstep, fun ht => ?_⟩
      have hflag := paused_step L hstep
      by_cases hresumed : e = .session .resumed
      · rw [if_pos hresumed] at hflag
        exact .inl hflag
      rw [if_neg hresumed] at hflag
      obtain ⟨hprepared, hbefore⟩ := (looping_step L hs hstep ht).resolve_left hresumed
      by_cases he : e = .emulationPaused
      · exact .inr ⟨es, [], by rw [he], List.not_mem_nil⟩
      rw [if_neg (not_or.mpr ⟨hprepared, he⟩)] at hflag
      obtain hrunning | ⟨pre, mid, rfl, hmid⟩ := hpaused hbefore
      · exact .inl (hflag.trans hrunning)
      · refine .inr ⟨pre, mid ++ [e], List.append_assoc _ _ _, fun hmem => ?_⟩
        obtain hmem | hmem := List.mem_append.mp hmem
        · exact hmid hmem
        · exact hresumed (List.mem_singleton.mp hmem).symm
  exact hinvariant.2 ht

/-- While nothing resumes it, the bridge stays paused. -/
theorem paused_of_mid (L : FrameLoop (core.twoPhoneSession melonDS) R looping) {es : List AppEvent}
    (hs : s.host.bridge.paused = true) (hes : .session .resumed ∉ es)
    (h : exec (step retryDelay R pauseEmulation) s es = some t) : t.host.bridge.paused = true := by
  have halong : Automaton.Along (step retryDelay R pauseEmulation)
      (fun _ e => e ≠ .session .resumed) s es :=
    along_of_forall_mem fun e he _ hfalse => hes (hfalse ▸ he)
  refine exec_preserves_along (P := fun s => s.host.bridge.paused = true) ?_ hs halong h
  intro s e t hs he hstep
  have hflag := paused_step L (step_of_step hstep)
  rw [if_neg he, hs, ite_self] at hflag
  exact hflag

/-- Every frame that is counted was run: `counts` says from the rest of the run whether the role
counts a frame that it steps. -/
def FramesExecuted (melonDS : MelonDS ν) (retryDelay : ℕ) (R : Role ρ (Phone ν ι))
    (counts : List AppEvent → Bool) (host : Phone ν ι) (es : List AppEvent) : Prop :=
  ∀ pre frame input needsDigest digest post u v,
    es = pre ++ .session (.stepped frame input needsDigest digest) :: post → counts post = true →
    exec (step retryDelay R pauseEmulation) { host } pre = some u →
    u.step retryDelay R pauseEmulation (.session (.stepped frame input needsDigest digest)) =
      some v →
    u.host.bridge.paused = false ∧
      v.host.bridge.nds = frameStep melonDS u.host.bridge.nds input

/-- No `pauseEmulation()` of `appDidEnterBackground` comes between `resumeAfterSynchronization()`
and the step of a frame that is counted. -/
def PausesApart (counts : List AppEvent → Bool) (es : List AppEvent) : Prop :=
  ∀ pre mid frame input needsDigest digest post,
    es = pre ++ .emulationPaused ::
      (mid ++ .session (.stepped frame input needsDigest digest) :: post) →
    counts post = true → .session .resumed ∈ mid

/-- The step of a frame, in a session in its frame loop. -/
theorem stepped_step (L : FrameLoop (core.twoPhoneSession melonDS) R looping) {frame : UInt64}
    {input : DSInputFrame} {needsDigest : Bool} {digest : Option EmulatorDigest}
    (h : Step retryDelay R pauseEmulation s (.session
      (.stepped frame input needsDigest digest)) t) :
    (∃ x ∈ s.sessions, looping x.run = true) ∧
      EmulatorCore.step melonDS input needsDigest s.host.bridge = (digest, t.host.bridge) := by
  cases h with
  | session k e x y hrunning hx hmoves =>
    refine ⟨⟨x, List.mem_of_getElem? hx, (L.withHost _ _).symm.trans (L.stepped hmoves.run)⟩, ?_⟩
    have hhost := L.host hmoves.run
    rw [L.host_withHost] at hhost
    obtain ⟨hdigest, hphone⟩ := Prod.mk.inj (hostStep_stepped.mp hhost)
    refine Prod.ext hdigest ?_
    rw [← hphone]
    rfl

/-- Exactly where no pause is in the way of a frame that is counted, every such frame was run. -/
theorem framesExecuted_iff (L : FrameLoop (core.twoPhoneSession melonDS) R looping)
    (counts : List AppEvent → Bool) {host : Phone ν ι} {es : List AppEvent}
    (h : exec (step retryDelay R pauseEmulation) { host } es = some t) :
    FramesExecuted melonDS retryDelay R counts host es ↔ PausesApart counts es := by
  constructor
  · rintro hexecuted pre mid frame input needsDigest digest post rfl hcounts
    by_contra hmid
    rw [← List.cons_append, ← List.append_assoc] at h
    obtain ⟨u, v, hu, hv, -⟩ := exec_split h
    obtain ⟨w, w', -, hpause, hrest⟩ := exec_split hu
    have hpaused : u.host.bridge.paused = true := by
      refine paused_of_mid L ?_ hmid hrest
      rw [paused_step L (step_of_step hpause)]
      rfl
    have hrunning := (hexecuted (pre ++ .emulationPaused :: mid) frame input needsDigest digest post
      u v (by rw [List.append_assoc, List.cons_append]) hcounts hu hv).1
    exact absurd (hpaused.symm.trans hrunning) nofun
  · rintro hapart pre frame input needsDigest digest post u v rfl hcounts hu hv
    obtain ⟨hlooping, hstep⟩ := stepped_step L (step_of_step hv)
    obtain hrunning | ⟨pre', mid, rfl, hmid⟩ := paused_of_exec L hu hlooping
    · refine ⟨hrunning, ?_⟩
      rw [EmulatorCore.step_eq input needsDigest _ hrunning] at hstep
      rw [← (Prod.mk.inj hstep).2]
    · refine absurd (hapart pre' mid frame input needsDigest digest post ?_ hcounts) hmid
      rw [List.append_assoc, List.cons_append]

end AppState

/-- The frame that the display has stepped and not acknowledged. -/
def DisplayPhase.unacknowledged : DisplayPhase → Option UInt64
  | .stoppingClock input _ _ => some input.frame
  | .acknowledging acknowledgement => some acknowledgement.frame
  | _ => none

theorem DisplayPhase.stage_of_unacknowledged {p : DisplayPhase} {frame : UInt64}
    (h : p.unacknowledged = some frame) : p.stage = .active := by
  cases p with
  | stoppingClock input digest processingStarted => rfl
  | acknowledging acknowledgement => rfl
  | _ => exact absurd h nofun

/-- A step of a frame. -/
def SessionEvent.steps : SessionEvent → Bool
  | stepped .. => true
  | _ => false

namespace DisplayThread

variable {σ : Type} {S : TwoPhoneSession σ} {s t : DisplayThread σ} {e : SessionEvent}

/-- A frame becomes unacknowledged where it is stepped. -/
theorem step_unacknowledged {frame : UInt64} (h : s.step S e = some t)
    (ht : t.phase.unacknowledged = some frame) :
    (∃ input needsDigest digest, e = .stepped frame input needsDigest digest) ∨
      s.phase.unacknowledged = some frame ∧ e.steps = false := by
  replace h := call_of_step h
  unfold call at h
  cases hp : s.phase <;> rw [hp] at h
  case steppingFrame input processingStarted =>
    obtain ⟨rfl, rfl⟩ := SessionEvent.on_eq_some.mp h
    obtain rfl := Option.some.inj ht
    exact .inl ⟨_, _, _, rfl⟩
  case stoppingClock input digest processingStarted =>
    obtain ⟨u, rfl, -, rfl⟩ := onClock_eq_some.mp h
    right
    unfold measured at ht
    split at ht
    · exact absurd ht nofun
    · exact ⟨ht, rfl⟩
  -- A call of any other phase leaves no frame unacknowledged.
  case receiving =>
    obtain ⟨m, -, rfl⟩ | ⟨-, rfl⟩ := SessionEvent.onReceive_eq_some.mp h
    · obtain ⟨input, -, -, hm⟩ | ⟨success, detail, -, hm⟩ | ⟨error, -, hm⟩ |
        ⟨input, -, -, hm⟩ := s.handle_cases m
      all_goals
        rw [hm] at ht
        exact absurd ht nofun
    · exact absurd ht nofun
  case startingClock input =>
    obtain ⟨u, -, -, rfl⟩ := onClock_eq_some.mp h
    exact absurd ht nofun
  case connecting | activating =>
    obtain ⟨-, rfl⟩ | ⟨-, rfl⟩ := SessionEvent.on_or_on_eq_some h
    · exact absurd ht nofun
    · exact absurd ht nofun
  case preparing | resuming | deactivating | closing =>
    obtain ⟨-, rfl⟩ := SessionEvent.on_eq_some.mp h
    exact absurd ht nofun
  case sendingHello | sendingFailure | sendingReady | acknowledging |
      sendingFinishAcknowledgement =>
    obtain ⟨-, rfl⟩ | ⟨-, rfl⟩ := SessionEvent.onSend_eq_some.mp h
    · exact absurd ht nofun
    · exact absurd ht nofun
  case loadingSnapshot | hashingState =>
    obtain ⟨-, rfl⟩ := SessionEvent.on_eq_some.mp h
    split at ht
    · exact absurd ht nofun
    · exact absurd ht nofun
  case receivingHello | receivingSnapshot | receivingStart =>
    obtain ⟨m, -, rfl⟩ | ⟨-, rfl⟩ := SessionEvent.onReceive_eq_some.mp h
    · split at ht
      · exact absurd ht nofun
      · exact absurd ht nofun
    · exact absurd ht nofun
  case ended | trapped => exact absurd h nofun

/-- An acknowledgement is of an unacknowledged frame. -/
theorem unacknowledged_of_sent {acknowledgement : FrameAcknowledgement}
    (h : s.step S (.operation (.sent (.acknowledgement acknowledgement))) = some t) :
    s.phase.unacknowledged = some acknowledgement.frame := by
  replace h := call_of_step h
  unfold call at h
  cases hp : s.phase <;> rw [hp] at h
  case acknowledging acknowledgement' =>
    obtain ⟨he, -⟩ | ⟨he, -⟩ := SessionEvent.onSend_eq_some.mp h
    · obtain rfl : acknowledgement = acknowledgement' := by simpa using he
      rfl
    · exact absurd he nofun
  all_goals simp [SessionEvent.on, SessionEvent.onSend, SessionEvent.onReceive, onClock,
    TwoPhoneSession.hello] at h

end DisplayThread

namespace AppEvent

/-- A step of a frame. -/
def steps : AppEvent → Bool
  | session e => e.steps
  | _ => false

/-- The display's next frame is acknowledged: of the acknowledgement and the step of a further
frame, the acknowledgement comes first. -/
def acknowledges : List AppEvent → Bool
  | [] => false
  | session (.operation (.sent (.acknowledgement _))) :: _ => true
  | e :: post => !e.steps && acknowledges post

end AppEvent

namespace AppState

variable {ν ι : Type} {melonDS : MelonDS ν} {core : EmulatorCore ι} {retryDelay : ℕ}
  {s t : AppState (DisplayThread (Phone ν ι)) (Phone ν ι)} {e : AppEvent}

/-- The display of a phone. -/
abbrev displayOf (melonDS : MelonDS ν) (core : EmulatorCore ι) :
    Role (DisplayThread (Phone ν ι)) (Phone ν ι) :=
  displayRole (core.twoPhoneSession melonDS)

theorem unacknowledged_step (hs : s.Orderly (displayOf melonDS core))
    (h : Step retryDelay (displayOf melonDS core) pauseEmulation s e t) {frame : UInt64}
    (ht : ∃ x ∈ t.sessions, x.run.phase.unacknowledged = some frame) :
    (∃ input needsDigest digest, e = .session (.stepped frame input needsDigest digest)) ∨
      e.steps = false ∧ ∃ x ∈ s.sessions, x.run.phase.unacknowledged = some frame := by
  obtain ⟨e', x, y, rfl, hx, hy, hframe⟩ | ⟨he, hbefore⟩ :=
    active_step (Q := fun r => r.phase.unacknowledged = some frame) hs
      (fun _ hr => DisplayThread.stage_of_active (DisplayPhase.stage_of_unacknowledged hr)) h ht
  · obtain ⟨input, needsDigest, digest, rfl⟩ | ⟨hbefore, he⟩ :=
      DisplayThread.step_unacknowledged hy hframe
    · exact .inl ⟨input, needsDigest, digest, rfl⟩
    · exact .inr ⟨he, x, hx, hbefore⟩
  · refine .inr ⟨?_, hbefore⟩
    cases e with
    | session e' => exact absurd rfl (he e')
    | _ => rfl

theorem acknowledges_append {mid post : List AppEvent} {acknowledgement : FrameAcknowledgement}
    (hmid : ∀ e ∈ mid, e.steps = false) :
    AppEvent.acknowledges
      (mid ++ .session (.operation (.sent (.acknowledgement acknowledgement))) :: post) = true := by
  induction mid with
  | nil => rfl
  | cons e mid ih =>
    have hrest := ih fun e' he' => hmid e' (List.mem_cons_of_mem e he')
    rw [List.cons_append]
    unfold AppEvent.acknowledges
    split
    · rename_i hnil
      exact absurd hnil nofun
    · rfl
    · rename_i hcons
      obtain ⟨rfl, rfl⟩ := List.cons.inj hcons
      rw [hmid _ List.mem_cons_self, hrest]
      rfl

/-- Every acknowledgement is of the last frame that was stepped before it. -/
theorem stepped_of_acknowledged {host : Phone ν ι} {pre post : List AppEvent}
    {acknowledgement : FrameAcknowledgement}
    (h : exec (step retryDelay (displayOf melonDS core) pauseEmulation) { host }
      (pre ++ .session (.operation (.sent (.acknowledgement acknowledgement))) :: post) = some t) :
    ∃ pre' input needsDigest digest mid,
      pre = pre' ++ .session (.stepped acknowledgement.frame input needsDigest digest) :: mid ∧
      AppEvent.acknowledges
        (mid ++ .session (.operation (.sent (.acknowledgement acknowledgement))) :: post) =
          true := by
  obtain ⟨u, v, hu, hv, -⟩ := exec_split h
  -- The invariant: a frame that is unacknowledged was stepped, and none was stepped since.
  have hinvariant : u.Orderly (displayOf melonDS core) ∧
      ∀ frame, (∃ x ∈ u.sessions, x.run.phase.unacknowledged = some frame) →
        ∃ pre' input needsDigest digest mid,
          pre = pre' ++ .session (.stepped frame input needsDigest digest) :: mid ∧
          ∀ e ∈ mid, e.steps = false := by
    refine exec_invariant (I := fun pre u => u.Orderly (displayOf melonDS core) ∧
      ∀ frame, (∃ x ∈ u.sessions, x.run.phase.unacknowledged = some frame) →
        ∃ pre' input needsDigest digest mid,
          pre = pre' ++ .session (.stepped frame input needsDigest digest) :: mid ∧
          ∀ e ∈ mid, e.steps = false) ?_ ?_ hu
    · refine ⟨orderly_initial host, ?_⟩
      rintro frame ⟨x, hx, -⟩
      exact absurd hx List.not_mem_nil
    · rintro es s e t ⟨hs, hframes⟩ hstep
      have hstep := step_of_step hstep
      refine ⟨hs.step hstep, fun frame ht => ?_⟩
      obtain ⟨input, needsDigest, digest, rfl⟩ | ⟨he, hbefore⟩ := unacknowledged_step hs hstep ht
      · exact ⟨es, input, needsDigest, digest, [], rfl, fun e he => absurd he List.not_mem_nil⟩
      · obtain ⟨pre', input, needsDigest, digest, mid, rfl, hmid⟩ := hframes frame hbefore
        refine ⟨pre', input, needsDigest, digest, mid ++ [e], List.append_assoc _ _ _, ?_⟩
        intro e' he'
        obtain hmem | hmem := List.mem_append.mp he'
        · exact hmid e' hmem
        · rw [List.mem_singleton.mp hmem, he]
  have hsent : ∃ x ∈ u.sessions, x.run.phase.unacknowledged = some acknowledgement.frame := by
    cases step_of_step hv with
    | session k e x y hrunning hx hmoves =>
      have hbefore := DisplayThread.unacknowledged_of_sent hmoves.run
      exact ⟨x, List.mem_of_getElem? hx, hbefore⟩
  obtain ⟨pre', input, needsDigest, digest, mid, hpre, hmid⟩ := hinvariant.2 _ hsent
  exact ⟨pre', input, needsDigest, digest, mid, hpre, acknowledges_append hmid⟩

end AppState

open AppState (FramesExecuted PausesApart displayOf)

/-- On either phone, with any peer and at any interleaving with the main thread: every frame that is
counted was run exactly where no pause of `appDidEnterBackground` comes between the resume of a
session and the step of a frame that is counted. The controller counts a frame when it steps it; the
display when it acknowledges it, and it acknowledges what it has stepped. -/
theorem frames_executed_iff {ν ι : Type} (melonDS : MelonDS ν) (core : EmulatorCore ι)
    (retryDelay : ℕ) (phone : Phone ν ι) (es : List AppEvent) :
    (∀ t, exec (AppState.step retryDelay (controllerRole (core.twoPhoneSession melonDS))
        pauseEmulation) { host := phone } es = some t →
      (FramesExecuted melonDS retryDelay (controllerRole (core.twoPhoneSession melonDS))
        (fun _ => true) phone es ↔ PausesApart (fun _ => true) es)) ∧
    (∀ t, exec (AppState.step retryDelay (displayOf melonDS core) pauseEmulation) { host := phone }
        es = some t →
      (FramesExecuted melonDS retryDelay (displayOf melonDS core) AppEvent.acknowledges phone es ↔
        PausesApart AppEvent.acknowledges es) ∧
      ∀ pre acknowledgement post,
        es = pre ++ .session (.operation (.sent (.acknowledgement acknowledgement))) :: post →
        ∃ pre' input needsDigest digest mid,
          pre = pre' ++
            .session (.stepped acknowledgement.frame input needsDigest digest) :: mid ∧
          AppEvent.acknowledges
            (mid ++ .session (.operation (.sent (.acknowledgement acknowledgement))) :: post) =
              true) := by
  refine ⟨fun t h => ?_, fun t h => ⟨?_, ?_⟩⟩
  · exact AppState.framesExecuted_iff (controller_frameLoop _) _ h
  · exact AppState.framesExecuted_iff (display_frameLoop _) _ h
  · rintro pre acknowledgement post rfl
    exact AppState.stepped_of_acknowledged h

section Instances

/-- The attempt of a display up to the clock reading before its first step. -/
def firstReceived : List AppEvent :=
  attemptBegins ++ .registered ::
    (displayHandshake (frameCounterCore.twoPhoneSession frameCounter) [0]
        (frameCounter.melondsStateHash 0) ++
      [SessionEvent.operation (.received (.input (EmulatorCore.scriptedInput 1))),
        .clockRead 0]).map .session

/-- The display steps this frame. -/
def firstStepped : AppEvent := .session (.stepped 1 (EmulatorCore.scriptedInput 1) false none)

/-- It acknowledges the frame. -/
def firstAcknowledged : List AppEvent :=
  [.session (.clockRead 0), .session (.operation (.sent (.acknowledgement ⟨1, none, 0⟩)))]

/-- The app enters the background, up to the pause. -/
def pauseBegins : List AppEvent := [.backgroundStarted, .didEnterBackground, .emulationPaused]

/-- Without a pause before the step, the frame that the display acknowledges was run. -/
theorem frames_executed_running :
    FramesExecuted frameCounter 1 frameCounterDisplay AppEvent.acknowledges ⟨⟨0, false⟩, ()⟩
      (firstReceived ++ firstStepped :: firstAcknowledged) := by
  have hrun : (exec frameCounterStep { host := ⟨⟨0, false⟩, ()⟩ }
      (firstReceived ++ firstStepped :: firstAcknowledged)).isSome = true := by
    decide +kernel
  obtain ⟨t, ht⟩ := Option.isSome_iff_exists.mp hrun
  refine ((frames_executed_iff frameCounter frameCounterCore 1 ⟨⟨0, false⟩, ()⟩ _).2 t ht).1.mpr ?_
  intro pre mid frame input needsDigest digest post hes
  have hmem : AppEvent.emulationPaused ∈ firstReceived ++ firstStepped :: firstAcknowledged := by
    rw [hes]
    exact List.mem_append_right _ List.mem_cons_self
  exact absurd hmem (by decide +kernel)

/-- With a pause between the receipt and the step, the display acknowledges a frame that was not
run. -/
theorem frame_acknowledged_while_paused :
    ¬ ∀ es t, exec frameCounterStep { host := ⟨⟨0, false⟩, ()⟩ } es = some t →
      FramesExecuted frameCounter 1 frameCounterDisplay AppEvent.acknowledges
        ⟨⟨0, false⟩, ()⟩ es := by
  intro h
  have hrun : ((exec frameCounterStep { host := ⟨⟨0, false⟩, ()⟩ }
    (firstReceived ++ pauseBegins)).bind
      fun u => (frameCounterStep u firstStepped).bind fun v =>
        (exec frameCounterStep v firstAcknowledged).map fun _ => u.host.bridge.paused) =
          some true := by
    decide +kernel
  obtain ⟨u, hu, hrun⟩ := Option.bind_eq_some_iff.mp hrun
  obtain ⟨v, hv, hrun⟩ := Option.bind_eq_some_iff.mp hrun
  obtain ⟨t, ht, hpaused⟩ := Option.map_eq_some_iff.mp hrun
  have hexec : exec frameCounterStep { host := ⟨⟨0, false⟩, ()⟩ }
      (firstReceived ++ pauseBegins ++ firstStepped :: firstAcknowledged) = some t := by
    refine exec_append_eq_some.mpr ⟨u, hu, ?_⟩
    rw [exec_cons, hv]
    exact ht
  have hrunning :=
    (h _ t hexec (firstReceived ++ pauseBegins) 1 (EmulatorCore.scriptedInput 1) false
    none firstAcknowledged u v rfl rfl hu hv).1
  exact absurd (hpaused.symm.trans hrunning) nofun

end Instances

end DSEmu

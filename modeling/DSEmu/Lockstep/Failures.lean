import DSEmu.Lockstep.Logs

/-!
# How a party comes to fail

The steps by which a display or a controller that has not failed can start on its way out with an
error: an operation of the transport or of the inbox that fails, a message that it refuses, or a
callback that throws. Also what the closing of an end and the sending of a finish say about the
phase.
-/

namespace DSEmu

open Automaton (exec exec_invariant exec_split)
open SessionEvent (on onSend onReceive onNext)

/-- An input provider that tags its input with the frame that it was asked for. -/
def TwoPhoneSession.Tagged {σ : Type} (S : TwoPhoneSession σ) : Prop :=
  ∀ frame host, (S.inputProvider frame host).1.frame = frame

section Display

variable {τ : Type} {D : TwoPhoneSession τ} {es : List SessionEvent} {s t : DisplayThread τ}
  {e : SessionEvent}

/-- What a display refuses: a message, a snapshot, or a state. -/
inductive DisplayThread.Refuses (D : TwoPhoneSession τ) (s : DisplayThread τ) :
    SessionEvent → Prop
  | hello (m : TwoPhoneMessage) (phase : s.phase = .receivingHello) (wrong : m ≠ D.hello) :
      Refuses D s (.operation (.received m))
  | snapshot (m : TwoPhoneMessage) (phase : s.phase = .receivingSnapshot)
      (wrong : ∀ snapshot stateHash, m ≠ .snapshot snapshot stateHash) :
      Refuses D s (.operation (.received m))
  | start (m : TwoPhoneMessage) (phase : s.phase = .receivingStart) (wrong : m ≠ .start) :
      Refuses D s (.operation (.received m))
  | message (m : TwoPhoneMessage) (phase : s.phase = .receiving) (wrong : ¬ s.Accepts m) :
      Refuses D s (.operation (.received m))
  | load (snapshot : Data) (stateHash : UInt64) (error : SessionError)
      (phase : s.phase = .loadingSnapshot stateHash) :
      Refuses D s (.loadedSnapshot snapshot (.error error))
  | state (expected stateHash : UInt64) (phase : s.phase = .hashingState expected)
      (wrong : stateHash ≠ expected) : Refuses D s (.hashed stateHash)

/-- How a display that has not failed comes to fail. -/
theorem DisplayTrace.fails (h : DisplayTrace D es s) (hs : s.step D e = some t)
    (hbefore : ¬ s.Failed) (hafter : t.Failed) :
    e.Fails ∨ e = .connectFailed ∨ e = .activationRefused ∨ s.Refuses D e := by
  unfold DisplayTrace at h
  replace hs := DisplayThread.call_of_step hs
  unfold DisplayThread.call at hs
  unfold DisplayThread.Failed at hbefore
  cases hp : s.phase <;> rw [hp] at h hs hbefore <;> dsimp only at h hs hbefore
  case preparing | resuming =>
    obtain ⟨rfl, rfl⟩ := SessionEvent.on_eq_some.mp hs
    exact hafter.elim
  case connecting =>
    rcases SessionEvent.on_or_on_eq_some hs with ⟨rfl, rfl⟩ | ⟨rfl, rfl⟩
    · exact hafter.elim
    · exact .inr (.inl rfl)
  case activating =>
    rcases SessionEvent.on_or_on_eq_some hs with ⟨rfl, rfl⟩ | ⟨rfl, rfl⟩
    · exact hafter.elim
    · exact .inr (.inr (.inl rfl))
  case sendingHello | sendingReady | acknowledging =>
    rcases SessionEvent.onSend_eq_some.mp hs with ⟨rfl, rfl⟩ | ⟨rfl, rfl⟩
    · exact hafter.elim
    · exact .inl trivial
  -- A receive fails by itself, or by the message: the right one would not have made it fail.
  case receivingHello =>
    rcases SessionEvent.onReceive_eq_some.mp hs with ⟨m, rfl, rfl⟩ | ⟨rfl, rfl⟩
    · refine .inr (.inr (.inr (.hello m hp ?_)))
      rintro rfl
      rw [(D.validateHello_eq_ok _).mpr rfl] at hafter
      exact hafter.elim
    · exact .inl trivial
  case receivingSnapshot =>
    rcases SessionEvent.onReceive_eq_some.mp hs with ⟨m, rfl, rfl⟩ | ⟨rfl, rfl⟩
    · refine .inr (.inr (.inr (.snapshot m hp ?_)))
      rintro snapshot stateHash rfl
      exact hafter.elim
    · exact .inl trivial
  case loadingSnapshot stateHash =>
    obtain ⟨rfl, rfl⟩ := SessionEvent.on_eq_some.mp hs
    cases hload : (D.loadSnapshot s.snapshot s.host).1 with
    | ok u =>
      rw [hload] at hafter
      exact hafter.elim
    | error error => exact .inr (.inr (.inr (.load _ stateHash error hp)))
  case hashingState expected =>
    obtain ⟨rfl, rfl⟩ := SessionEvent.on_eq_some.mp hs
    refine .inr (.inr (.inr (.state expected _ hp ?_)))
    intro heq
    rw [if_neg (not_not.mpr heq)] at hafter
    exact hafter.elim
  case receivingStart =>
    rcases SessionEvent.onReceive_eq_some.mp hs with ⟨m, rfl, rfl⟩ | ⟨rfl, rfl⟩
    · refine .inr (.inr (.inr (.start m hp ?_)))
      rintro rfl
      exact hafter.elim
    · exact .inl trivial
  case receiving =>
    rcases SessionEvent.onReceive_eq_some.mp hs with ⟨m, rfl, rfl⟩ | ⟨rfl, rfl⟩
    · refine .inr (.inr (.inr (.message m hp ?_)))
      intro haccepts
      rcases s.handle_cases m with ⟨input, -, -, hh⟩ | ⟨success, detail, -, hh⟩ |
        ⟨error, hno, -⟩ | ⟨input, rfl, hmax, -⟩
      · rw [hh] at hafter
        exact hafter.elim
      · rw [hh] at hafter
        exact hafter.elim
      · exact hno haccepts
      · have hlt := input.frame.toNat_lt
        rw [DisplayThread.Accepts, hmax] at haccepts
        change _ < UInt64.size at hlt
        omega
    · exact .inl trivial
  case startingClock input =>
    obtain ⟨u, rfl, -, rfl⟩ := DisplayThread.onClock_eq_some.mp hs
    exact hafter.elim
  case steppingFrame =>
    obtain ⟨rfl, rfl⟩ := SessionEvent.on_eq_some.mp hs
    exact hafter.elim
  -- The clock does not run back, so no duration underflows.
  case stoppingClock =>
    obtain ⟨_, _, -, -, hstarted, -⟩ := h
    obtain ⟨u, rfl, hle, rfl⟩ := DisplayThread.onClock_eq_some.mp hs
    rw [hstarted, DisplayThread.measured_eq hle] at hafter
    exact hafter.elim
  case sendingFinishAcknowledgement =>
    rcases SessionEvent.onSend_eq_some.mp hs with ⟨rfl, rfl⟩ | ⟨rfl, rfl⟩
    · exact hafter.elim
    · exact .inl trivial
  -- The phases of a display that has failed already.
  case sendingFailure | trapped => exact absurd trivial hbefore
  case deactivating result | closing result =>
    obtain ⟨rfl, rfl⟩ := SessionEvent.on_eq_some.mp hs
    cases result with
    | ok o => exact hafter.elim
    | error error => exact absurd trivial hbefore
  case ended => exact absurd hs (Option.some_ne_none _).symm

/-- An end that the display has closed is that of a `run()` that has ended. -/
theorem DisplayThread.ended_of_closed {host : τ}
    (h : exec (DisplayThread.step D) { host := host } es = some s)
    (hclosed : .operation .closed ∈ es) : ∃ result, s.phase = .ended result := by
  refine exec_invariant
    (I := fun es s => .operation .closed ∈ es → ∃ result, s.phase = .ended result)
    nofun ?_ h hclosed
  intro es s e t ih hs hmem
  rcases List.mem_append.mp hmem with hmem | hmem
  · obtain ⟨result, hp⟩ := ih hmem
    replace hs := DisplayThread.call_of_step hs
    unfold DisplayThread.call at hs
    rw [hp] at hs
    exact absurd hs (Option.some_ne_none _).symm
  · obtain rfl := List.mem_singleton.mp hmem
    replace hs := DisplayThread.call_of_step hs
    unfold DisplayThread.call at hs
    cases hp : s.phase <;> rw [hp] at hs
    case closing result =>
      obtain ⟨-, rfl⟩ := SessionEvent.on_eq_some.mp hs
      exact ⟨result, rfl⟩
    all_goals simp_all [on, onSend, onReceive, DisplayThread.onClock]

/-- A display that has not failed has sent nothing, its hello, or its ready as well. -/
theorem DisplayTrace.greeting (h : DisplayTrace D es s) (hfailed : ¬ s.Failed) :
    sent es = [] ∨ sent es = [D.hello] ∨ .ready ∈ sent es := by
  have hready : ∀ fs snapshot stateHash rs,
      .ready ∈ sent (displayHandshake D snapshot stateHash ++ roundEvents D rs ++ fs) := by
    intro fs snapshot stateHash rs
    rw [sent_append, sent_append]
    refine List.mem_append_left _ (List.mem_append_left _ ?_)
    exact List.mem_cons_of_mem _ (List.mem_singleton_self _)
  have hexit : ∀ {fs gs : List SessionEvent} {result : SessionResult},
      DisplayExit D s fs result → (∀ error, result ≠ .error error) → .ready ∈ sent (fs ++ gs) := by
    intro fs gs result hexit hok
    cases hexit with
    | finished idle =>
      rw [List.append_assoc]
      exact hready _ _ _ _
    | _ => exact absurd rfl (hok _)
  unfold DisplayTrace at h
  unfold DisplayThread.Failed at hfailed
  cases hp : s.phase <;> rw [hp] at h hfailed <;> dsimp only at h hfailed
  case preparing | connecting | activating | sendingHello =>
    obtain ⟨-, rfl⟩ := h
    exact .inl rfl
  case receivingHello | receivingSnapshot | loadingSnapshot | hashingState =>
    obtain ⟨-, rfl⟩ := h
    exact .inr (.inl rfl)
  case sendingReady =>
    obtain ⟨-, _, rfl⟩ := h
    exact .inr (.inl rfl)
  case sendingFailure | trapped => exact absurd trivial hfailed
  -- In the other phases the ready has been sent.
  all_goals right; right
  case receivingStart | resuming =>
    obtain ⟨-, _, rfl⟩ := h
    exact List.mem_cons_of_mem _ (List.mem_cons_self ..)
  case receiving =>
    obtain ⟨stateHash, rs, -, rfl⟩ := h
    rw [← List.append_nil (_ ++ _)]
    exact hready _ _ _ _
  case startingClock =>
    obtain ⟨stateHash, rs, -, -, rfl⟩ := h
    exact hready _ _ _ _
  case steppingFrame | stoppingClock =>
    obtain ⟨stateHash, rs, -, -, -, rfl⟩ := h
    exact hready _ _ _ _
  case acknowledging =>
    obtain ⟨stateHash, rs, r, -, -, rfl⟩ := h
    exact hready _ _ _ _
  case sendingFinishAcknowledgement =>
    obtain ⟨stateHash, rs, -, rfl⟩ := h
    exact hready _ _ _ _
  case deactivating result =>
    rw [← List.append_nil es]
    cases result with
    | ok o => exact hexit h nofun
    | error error => exact absurd trivial hfailed
  case closing result =>
    rcases h with ⟨pre, h, rfl⟩ | ⟨rfl, -⟩
    · cases result with
      | ok o => exact hexit h nofun
      | error error => exact absurd trivial hfailed
    · exact absurd trivial hfailed
  case ended result =>
    rcases h with ⟨pre, h, rfl⟩ | ⟨rfl, -⟩ | ⟨rfl, -⟩
    · cases result with
      | ok o => exact hexit h nofun
      | error error => exact absurd trivial hfailed
    · exact absurd trivial hfailed
    · exact absurd trivial hfailed

end Display

section Controller

variable {σ : Type} {C : TwoPhoneSession σ} {es : List SessionEvent} {s t : ControllerThread σ}
  {e : SessionEvent}

/-- What a controller refuses: a message, its own snapshot, or an inbox that throws. -/
inductive ControllerThread.Refuses (C : TwoPhoneSession σ) (s : ControllerThread σ) :
    SessionEvent → Prop
  | hello (m : TwoPhoneMessage) (phase : s.phase = .receivingHello) (wrong : m ≠ C.hello) :
      Refuses C s (.operation (.received m))
  | ready (m : TwoPhoneMessage) (phase : s.phase = .receivingReady) (wrong : m ≠ .ready) :
      Refuses C s (.operation (.received m))
  | snapshot (error : SessionError) (phase : s.phase = .makingSnapshot) :
      Refuses C s (.madeSnapshot (.error error))
  | acknowledgement (m : TwoPhoneMessage) (loop : AcknowledgementLoop)
      (phase : s.phase = .awaitingAcknowledgement loop)
      (wrong : ∀ pending rest a, s.pendingFrames = pending :: rest → m = .acknowledgement a →
        a.frame ≠ pending.frame) :
      Refuses C s (.next m)
  | finish (m : TwoPhoneMessage) (success : Bool) (detail : String)
      (phase : s.phase = .awaitingFinish success detail) (wrong : m ≠ .finishAcknowledgement) :
      Refuses C s (.next m)
  | inbox (error : SessionError) (phase : (∃ loop, s.phase = .awaitingAcknowledgement loop) ∨
        ∃ success detail, s.phase = .awaitingFinish success detail) :
      Refuses C s (.nextFailed error)

/-- The window loop waits only where a frame is pending. -/
theorem ControllerThread.fillWindow_not_failed : ¬ (s.fillWindow C).Failed := by
  unfold ControllerThread.fillWindow
  split
  · rename_i hfull
    unfold ControllerThread.awaitAcknowledgement
    cases hpending : s.pendingFrames with
    | nil =>
      rw [hpending] at hfull
      exact absurd hfull (Nat.not_le.mpr C.configuration.frameWindow_pos)
    | cons st rest => exact id
  · unfold ControllerThread.beginFrame
    split <;> exact id

theorem ControllerThread.mainLoop_not_failed : ¬ (s.mainLoop C).Failed := by
  unfold ControllerThread.mainLoop
  split
  · exact fillWindow_not_failed
  · exact id

theorem ControllerThread.drainCheckpoint_not_failed : ¬ (s.drainCheckpoint C).Failed := by
  unfold ControllerThread.drainCheckpoint
  split
  · exact mainLoop_not_failed
  · rename_i hne
    unfold ControllerThread.awaitAcknowledgement
    cases hpending : s.pendingFrames with
    | nil =>
      rw [hpending] at hne
      exact absurd rfl hne
    | cons st rest => exact id

theorem ControllerThread.continueLoop_not_failed (loop : AcknowledgementLoop) :
    ¬ (s.continueLoop C loop).Failed := by
  cases loop with
  | window => exact fillWindow_not_failed
  | checkpoint => exact drainCheckpoint_not_failed

/-- How a controller that has not failed comes to fail. -/
theorem ControllerTrace.fails (h : ControllerTrace C es s) (hs : s.step C e = some t)
    (hbefore : ¬ s.Failed) (hafter : t.Failed) :
    e.Fails ∨ e = .connectFailed ∨ e = .activationRefused ∨ s.Refuses C e := by
  unfold ControllerTrace at h
  replace hs := ControllerThread.call_of_step hs
  unfold ControllerThread.call at hs
  unfold ControllerThread.Failed at hbefore
  cases hp : s.phase <;> rw [hp] at h hs hbefore <;> dsimp only at h hs hbefore
  case preparing | hashingState | resuming | providingInput =>
    obtain ⟨rfl, rfl⟩ := SessionEvent.on_eq_some.mp hs
    exact hafter.elim
  case connecting =>
    rcases SessionEvent.on_or_on_eq_some hs with ⟨rfl, rfl⟩ | ⟨rfl, rfl⟩
    · exact hafter.elim
    · exact .inr (.inl rfl)
  case activating =>
    rcases SessionEvent.on_or_on_eq_some hs with ⟨rfl, rfl⟩ | ⟨rfl, rfl⟩
    · exact hafter.elim
    · exact .inr (.inr (.inl rfl))
  case receivingHello =>
    rcases SessionEvent.onReceive_eq_some.mp hs with ⟨m, rfl, rfl⟩ | ⟨rfl, rfl⟩
    · refine .inr (.inr (.inr (.hello m hp ?_)))
      rintro rfl
      rw [(C.validateHello_eq_ok _).mpr rfl] at hafter
      exact hafter.elim
    · exact .inl trivial
  case sendingHello | sendingSnapshot | sendingStart | sendingInput | sendingFinish =>
    rcases SessionEvent.onSend_eq_some.mp hs with ⟨rfl, rfl⟩ | ⟨rfl, rfl⟩
    · exact hafter.elim
    · exact .inl trivial
  case makingSnapshot =>
    obtain ⟨rfl, rfl⟩ := SessionEvent.on_eq_some.mp hs
    cases hmake : (C.makeSnapshot s.host).1 with
    | ok snapshot =>
      rw [hmake] at hafter
      exact hafter.elim
    | error error => exact .inr (.inr (.inr (.snapshot error hp)))
  case receivingReady =>
    rcases SessionEvent.onReceive_eq_some.mp hs with ⟨m, rfl, rfl⟩ | ⟨rfl, rfl⟩
    · refine .inr (.inr (.inr (.ready m hp ?_)))
      rintro rfl
      exact hafter.elim
    · exact .inl trivial
  case startingInbox =>
    obtain ⟨rfl, rfl⟩ := SessionEvent.on_eq_some.mp hs
    exact absurd hafter ControllerThread.mainLoop_not_failed
  -- An acknowledgement of the oldest frame does not fail: it traps, goes on, or finishes.
  case awaitingAcknowledgement loop =>
    obtain ⟨done, st, pending, idle, -⟩ := h
    rcases SessionEvent.onNext_eq_some.mp hs with ⟨m, rfl, rfl⟩ | ⟨error, rfl, rfl⟩
    · refine .inr (.inr (.inr (.acknowledgement m loop hp ?_)))
      intro head rest a hpending hm hframe
      rcases ControllerThread.acknowledged_cases C hpending loop m with
        ⟨-, -, -, ⟨-, hout⟩ | ⟨timing, -, ⟨-, hout⟩ | ⟨-, -, hout⟩ | ⟨-, failure, -, hout⟩⟩⟩ |
        ⟨hwrong, -⟩
      · rw [hout] at hafter
        exact hafter.elim
      · rw [hout] at hafter
        exact ControllerThread.continueLoop_not_failed loop hafter
      · rw [hout] at hafter
        exact ControllerThread.continueLoop_not_failed loop hafter
      · rw [hout] at hafter
        exact hafter.elim
      · exact hwrong a hm hframe
    · exact .inr (.inr (.inr (.inbox error (.inl ⟨loop, hp⟩))))
  case steppingFrame =>
    obtain ⟨rfl, rfl⟩ := SessionEvent.on_eq_some.mp hs
    split at hafter
    · exact absurd hafter ControllerThread.drainCheckpoint_not_failed
    · exact absurd hafter ControllerThread.mainLoop_not_failed
  case awaitingFinish success detail =>
    rcases SessionEvent.onNext_eq_some.mp hs with ⟨m, rfl, rfl⟩ | ⟨error, rfl, rfl⟩
    · refine .inr (.inr (.inr (.finish m success detail hp ?_)))
      rintro rfl
      exact hafter.elim
    · exact .inr (.inr (.inr (.inbox error (.inr ⟨success, detail, hp⟩))))
  -- The way out keeps the result that it was entered with.
  case stoppingInbox result | closingInbox result | deactivating result | closing result =>
    obtain ⟨rfl, rfl⟩ := SessionEvent.on_eq_some.mp hs
    cases result with
    | ok o => exact hafter.elim
    | error error => exact absurd trivial hbefore
  case ended => exact absurd hs (Option.some_ne_none _).symm
  case trapped => exact absurd hs (Option.some_ne_none _).symm

/-- An end that the controller has closed is that of a `run()` on its way out. -/
theorem ControllerThread.leaving_of_closed {host : σ}
    (h : exec (ControllerThread.step C) { host := host } es = some s)
    (hclosed : .operation .closed ∈ es) :
    ∃ result, s.phase = .deactivating result ∨ s.phase = .closing result ∨
      s.phase = .ended result := by
  refine exec_invariant (I := fun es s => .operation .closed ∈ es → ∃ result,
    s.phase = .deactivating result ∨ s.phase = .closing result ∨ s.phase = .ended result)
    nofun ?_ h hclosed
  intro es s e t ih hs hmem
  replace hs := ControllerThread.call_of_step hs
  unfold ControllerThread.call at hs
  -- it was closed before this step, or is closed by it
  rcases List.mem_append.mp hmem with hmem | hmem
  · obtain ⟨result, hp | hp | hp⟩ := ih hmem <;> rw [hp] at hs <;> dsimp only at hs
    · obtain ⟨rfl, rfl⟩ := SessionEvent.on_eq_some.mp hs
      exact ⟨result, .inr (.inl rfl)⟩
    · obtain ⟨rfl, rfl⟩ := SessionEvent.on_eq_some.mp hs
      exact ⟨result, .inr (.inr rfl)⟩
    · exact absurd hs (Option.some_ne_none _).symm
  · obtain rfl := List.mem_singleton.mp hmem
    cases hp : s.phase <;> rw [hp] at hs
    case closingInbox result =>
      obtain ⟨-, rfl⟩ := SessionEvent.on_eq_some.mp hs
      exact ⟨result, .inl rfl⟩
    case closing result =>
      obtain ⟨-, rfl⟩ := SessionEvent.on_eq_some.mp hs
      exact ⟨result, .inr (.inr rfl)⟩
    all_goals simp_all [on, onSend, onReceive, onNext]

/-- A controller whose inbox was stopped is on its way out. -/
theorem ControllerThread.leaving_of_stopped {host : σ}
    (h : exec (ControllerThread.step C) { host := host } es = some s)
    (hstopped : .inboxStopped ∈ es) :
    ∃ result, s.phase = .closingInbox result ∨ s.phase = .deactivating result ∨
      s.phase = .closing result ∨ s.phase = .ended result := by
  refine exec_invariant (I := fun es s => .inboxStopped ∈ es → ∃ result,
    s.phase = .closingInbox result ∨ s.phase = .deactivating result ∨ s.phase = .closing result ∨
      s.phase = .ended result) nofun ?_ h hstopped
  intro es s e t ih hs hmem
  replace hs := ControllerThread.call_of_step hs
  unfold ControllerThread.call at hs
  rcases List.mem_append.mp hmem with hmem | hmem
  · obtain ⟨result, hp | hp | hp | hp⟩ := ih hmem <;> rw [hp] at hs <;> dsimp only at hs
    · obtain ⟨rfl, rfl⟩ := SessionEvent.on_eq_some.mp hs
      exact ⟨result, .inr (.inl rfl)⟩
    · obtain ⟨rfl, rfl⟩ := SessionEvent.on_eq_some.mp hs
      exact ⟨result, .inr (.inr (.inl rfl))⟩
    · obtain ⟨rfl, rfl⟩ := SessionEvent.on_eq_some.mp hs
      exact ⟨result, .inr (.inr (.inr rfl))⟩
    · exact absurd hs (Option.some_ne_none _).symm
  · obtain rfl := List.mem_singleton.mp hmem
    cases hp : s.phase <;> rw [hp] at hs
    case stoppingInbox result =>
      obtain ⟨-, rfl⟩ := SessionEvent.on_eq_some.mp hs
      exact ⟨result, .inl rfl⟩
    all_goals simp_all [on, onSend, onReceive, onNext]

/-- The inputs that a controller was given carry the frames that they were asked for. -/
theorem ControllerThread.tagged {host : σ} (htag : C.Tagged)
    (h : exec (ControllerThread.step C) { host := host } es = some s) (frame : UInt64)
    (input : DSInputFrame) (hmem : .provided frame input ∈ es) : input.frame = frame := by
  obtain ⟨pre, post, rfl⟩ := List.append_of_mem hmem
  obtain ⟨t, t', -, hstep, -⟩ := exec_split h
  replace hstep := ControllerThread.call_of_step hstep
  unfold ControllerThread.call at hstep
  cases hp : t.phase <;> rw [hp] at hstep
  case providingInput =>
    obtain ⟨heq, -⟩ := SessionEvent.on_eq_some.mp hstep
    obtain ⟨rfl, rfl⟩ := SessionEvent.provided.inj heq
    exact htag _ _
  all_goals simp_all [on, onSend, onReceive, onNext]

/-- In the loop the start has been sent. -/
theorem ControllerIdle.start_mem {k : ℕ} {done : List AcknowledgedFrame}
    {pending : List SteppedFrame} (h : ControllerIdle C k es done pending s)
    (fs : List SessionEvent) : .start ∈ sent (es ++ fs) := by
  obtain ⟨stateHash, -, hsent, -⟩ := h.messages_eq
  rw [sent_append, hsent]
  simp

/-- In the loop the inbox is not stopped, and no finish acknowledgement is consumed. -/
theorem ControllerIdle.open_inbox {k : ℕ} {done : List AcknowledgedFrame}
    {pending : List SteppedFrame} (h : ControllerIdle C k es done pending s) :
    .inboxStopped ∉ es ∧ .finishAcknowledgement ∉ consumed es := by
  refine ⟨?_, ?_⟩
  · obtain ⟨stateHash, ls, rfl, hls⟩ := h.trace
    intro hmem
    rcases List.mem_append.mp hmem with hmem | hmem
    · simp [controllerHandshake, controllerOffered, opened] at hmem
    · exact hls.inLoop _ hmem
  · rw [h.consumed_eq]
    simp

/-- A controller has sent a part of its offer, or it has sent its start. -/
theorem ControllerTrace.offered (h : ControllerTrace C es s) :
    (∃ snapshot stateHash, sent es <+: [C.hello, .snapshot snapshot stateHash]) ∨
      .start ∈ sent es := by
  have hexit : ∀ {pre : List SessionEvent} {result : SessionResult}, ControllerExit C s pre result →
      ∀ gs, .start ∈ sent (pre ++ gs) := by
    intro pre result hexit gs
    obtain ⟨k, fs, done, pending, tail, idle, rfl, -⟩ := hexit.ledger
    rw [List.append_assoc]
    exact idle.start_mem _
  -- An interrupted handshake has sent a part of the offer, and every other exit is past the start.
  have hleft : ∀ {pre : List SessionEvent} {result : SessionResult}, ControllerLeft C s pre result →
      ∀ gs, sent gs = [] → (∃ snapshot stateHash,
        sent (pre ++ gs) <+: [C.hello, .snapshot snapshot stateHash]) ∨
          .start ∈ sent (pre ++ gs) := by
    rintro pre result (⟨⟨snapshot, stateHash, fs, e, rfl, ⟨post, hgate⟩, hint, -⟩, -⟩ |
      ⟨fs, hl, rfl⟩) gs hgs
    · left
      have he : sent [e] = [] := by
        cases e with
        | operation o => cases o <;> first | rfl | exact hint.elim
        | _ => rfl
      have hoffered : sent (controllerOffered C snapshot stateHash) =
          [C.hello, .snapshot snapshot stateHash] := rfl
      refine ⟨snapshot, stateHash, ?_⟩
      rw [sent_append, sent_append, he, hgs, List.append_nil, List.append_nil, ← hoffered, ← hgate,
        sent_append]
      exact List.prefix_append _ _
    · right
      rw [List.append_assoc]
      exact hexit hl _
  unfold ControllerTrace at h
  cases hp : s.phase <;> rw [hp] at h <;> dsimp only at h
  case preparing | connecting | activating | receivingHello | sendingHello =>
    obtain ⟨-, rfl⟩ := h
    exact .inl ⟨[], 0, List.nil_prefix⟩
  case makingSnapshot | hashingState | sendingSnapshot =>
    obtain ⟨-, rfl⟩ := h
    exact .inl ⟨[], 0, ⟨_, rfl⟩⟩
  case receivingReady | sendingStart =>
    obtain ⟨stateHash, -, rfl⟩ := h
    exact .inl ⟨s.snapshot, stateHash, List.prefix_refl _⟩
  -- From here on the start has been sent.
  case resuming | startingInbox =>
    obtain ⟨stateHash, -, rfl⟩ := h
    exact .inr (List.mem_cons_of_mem _ (List.mem_cons_of_mem _ (List.mem_cons_self ..)))
  case awaitingAcknowledgement =>
    obtain ⟨_, _, _, idle, -⟩ := h
    exact .inr (List.append_nil es ▸ idle.start_mem [])
  case providingInput =>
    obtain ⟨_, _, idle, -⟩ := h
    exact .inr (List.append_nil es ▸ idle.start_mem [])
  case sendingInput | steppingFrame =>
    obtain ⟨_, _, _, idle, -, -, rfl⟩ := h
    exact .inr (idle.start_mem _)
  case sendingFinish =>
    obtain ⟨_, idle, -⟩ := h
    exact .inr (List.append_nil es ▸ idle.start_mem [])
  case awaitingFinish =>
    obtain ⟨_, _, idle, -, rfl⟩ := h
    exact .inr (idle.start_mem _)
  case stoppingInbox => exact .inr (List.append_nil es ▸ hexit h [])
  case closingInbox =>
    obtain ⟨_, hl, rfl⟩ := h
    exact .inr (hexit hl _)
  case deactivating => exact List.append_nil es ▸ hleft h [] rfl
  case closing =>
    rcases h with ⟨_, hl, rfl⟩ | ⟨-, rfl⟩
    · exact hleft hl _ rfl
    · exact .inl ⟨[], 0, List.nil_prefix⟩
  case ended =>
    rcases h with ⟨_, hl, rfl⟩ | ⟨-, rfl⟩ | ⟨-, rfl⟩
    · exact hleft hl _ rfl
    · exact .inl ⟨[], 0, List.nil_prefix⟩
    · exact .inl ⟨[], 0, List.nil_prefix⟩
  case trapped =>
    obtain ⟨_, _, _, idle, -, ⟨rfl, -⟩ | ⟨_, _, _, -, rfl, -⟩⟩ := h
    · exact .inr (List.append_nil es ▸ idle.start_mem [])
    · exact .inr (idle.start_mem _)

/-- The first three messages of a controller. -/
theorem ControllerTrace.sent_offer (h : ControllerTrace C es s) :
    ∃ snapshot stateHash rest,
      sent es <+: [C.hello, .snapshot snapshot stateHash, .start] ++ rest := by
  rcases h.offered with ⟨snapshot, stateHash, hoffer⟩ | hstart
  · exact ⟨snapshot, stateHash, [], hoffer.trans ⟨[.start], rfl⟩⟩
  · obtain ⟨done, pending, inputs, fin, tail, hlog⟩ := h.log hstart
    obtain ⟨stateHash, hsent⟩ := hlog.sent_eq
    exact ⟨s.snapshot, stateHash, inputs.map .input ++ fin, [],
      (List.append_nil _).trans (hsent.trans (List.append_assoc _ _ _))⟩

/-- Where a controller that has not failed has sent the finish, it waits for the answer or
returns. -/
theorem ControllerTrace.finishing {frame : UInt64} {success : Bool} {detail : String}
    (h : ControllerTrace C es s) (hfailed : ¬ s.Failed)
    (hmem : .finish frame success detail ∈ sent es) :
    (∃ success detail, s.phase = .awaitingFinish success detail) ∨ ∃ o, s.Returns o := by
  have hidle : ∀ {k : ℕ} {fs : List SessionEvent} {done : List AcknowledgedFrame}
      {pending : List SteppedFrame}, ControllerIdle C k fs done pending s →
      .finish frame success detail ∉ sent fs := by
    intro k fs done pending idle hfs
    obtain ⟨stateHash, -, hsent, -⟩ := idle.messages_eq
    rw [hsent] at hfs
    simp [TwoPhoneSession.hello] at hfs
  -- On the way out without an error the thread returns.
  have hleaves : ∀ {result : SessionResult}, s.phase = .stoppingInbox result ∨
      s.phase = .closingInbox result ∨ s.phase = .deactivating result ∨ s.phase = .closing result ∨
      s.phase = .ended result → ∃ o, s.Returns o := by
    intro result hp
    obtain ⟨hok, herror⟩ := ControllerThread.leaves hp
    cases result with
    | ok o => exact ⟨o, hok o rfl⟩
    | error error => exact absurd (herror error rfl) hfailed
  unfold ControllerTrace at h
  cases hp : s.phase <;> rw [hp] at h <;> dsimp only at h
  -- Before the finish no phase has sent one.
  case preparing | connecting | activating | receivingHello | sendingHello | makingSnapshot |
      hashingState | sendingSnapshot =>
    obtain ⟨-, rfl⟩ := h
    exact absurd hmem (by simp [controllerHandshake, controllerOffered, opened, sent, operations,
      Duplex.sentMessages, SessionEvent.operation?, Duplex.Operation.sent?, TwoPhoneSession.hello])
  case receivingReady | sendingStart | resuming | startingInbox =>
    obtain ⟨stateHash, -, rfl⟩ := h
    exact absurd hmem (by simp [controllerHandshake, controllerOffered, opened, sent, operations,
      Duplex.sentMessages, SessionEvent.operation?, Duplex.Operation.sent?, TwoPhoneSession.hello])
  case awaitingAcknowledgement =>
    obtain ⟨_, _, _, idle, -⟩ := h
    exact absurd hmem (hidle idle)
  case providingInput =>
    obtain ⟨_, _, idle, -⟩ := h
    exact absurd hmem (hidle idle)
  case sendingInput | steppingFrame =>
    obtain ⟨_, _, _, idle, -, -, rfl⟩ := h
    rw [sent_append, List.mem_append] at hmem
    exact absurd (hmem.resolve_right (by simp [sent, operations, Duplex.sentMessages,
      SessionEvent.operation?, Duplex.Operation.sent?])) (hidle idle)
  case sendingFinish =>
    obtain ⟨_, idle, -⟩ := h
    exact absurd hmem (hidle idle)
  case awaitingFinish success detail => exact .inl ⟨success, detail, rfl⟩
  case trapped =>
    obtain ⟨_, _, _, idle, -, ⟨rfl, -⟩ | ⟨_, _, _, -, rfl, -⟩⟩ := h
    · exact absurd hmem (hidle idle)
    · rw [sent_append, List.mem_append] at hmem
      exact absurd (hmem.resolve_right List.not_mem_nil) (hidle idle)
  case stoppingInbox => exact .inr (hleaves (.inl hp))
  case closingInbox => exact .inr (hleaves (.inr (.inl hp)))
  case deactivating => exact .inr (hleaves (.inr (.inr (.inl hp))))
  case closing => exact .inr (hleaves (.inr (.inr (.inr (.inl hp)))))
  case ended => exact .inr (hleaves (.inr (.inr (.inr (.inr hp)))))

/-- The calls of a controller on its way out. -/
def controllerWayOut : List SessionEvent :=
  [.inboxStopped, .operation .closed, .deactivated, .operation .closed]

/-- The trace of a controller that returns an outcome: a concluded session, its finish and the
acknowledgement of it, and a part of the way out. -/
theorem ControllerTrace.concluded {o : TwoPhoneSessionOutcome} (h : ControllerTrace C es s)
    (ho : s.Returns o) :
    ∃ pre done success detail gs, ControllerIdle C 0 pre done [] s ∧
      ControllerConcluded C s done success detail ∧ o = s.outcome success detail ∧
      es = pre ++ [.operation (.sent (.finish s.frame success detail)),
        .next .finishAcknowledgement] ++ gs ∧ gs <+: controllerWayOut := by
  have hexit : ∀ {pre : List SessionEvent}, ControllerExit C s pre (.ok o) →
      ∀ gs, gs <+: controllerWayOut → ∃ fs done success detail hs,
        ControllerIdle C 0 fs done [] s ∧ ControllerConcluded C s done success detail ∧
        o = s.outcome success detail ∧
        pre ++ gs = fs ++ [.operation (.sent (.finish s.frame success detail)),
          .next .finishAcknowledgement] ++ hs ∧ hs <+: controllerWayOut := by
    intro pre hexit gs hgs
    cases hexit with
    | @finished fs done success detail idle concluded =>
      exact ⟨fs, done, success, detail, gs, idle, concluded, rfl, rfl, hgs⟩
  have hleft : ∀ {pre : List SessionEvent}, ControllerLeft C s pre (.ok o) →
      ∀ gs, [.inboxStopped, .operation .closed] ++ gs <+: controllerWayOut →
        ∃ fs done success detail hs,
          ControllerIdle C 0 fs done [] s ∧ ControllerConcluded C s done success detail ∧
          o = s.outcome success detail ∧
          pre ++ gs = fs ++ [.operation (.sent (.finish s.frame success detail)),
            .next .finishAcknowledgement] ++ hs ∧ hs <+: controllerWayOut := by
    rintro pre (⟨-, error, herror⟩ | ⟨fs, hl, rfl⟩) gs hgs
    · exact absurd herror nofun
    · rw [List.append_assoc]
      exact hexit hl _ hgs
  unfold ControllerTrace at h
  -- The five phases of the way out, each with one call more behind it.
  rcases ho with hp | hp | hp | hp | hp <;> rw [hp] at h <;> dsimp only at h
  · exact List.append_nil es ▸ hexit h [] List.nil_prefix
  · obtain ⟨_, hl, rfl⟩ := h
    exact hexit hl _ ⟨_, rfl⟩
  · exact List.append_nil es ▸ hleft h [] ⟨_, rfl⟩
  · rcases h with ⟨_, hl, rfl⟩ | ⟨hcancelled, -⟩
    · exact hleft hl _ ⟨_, rfl⟩
    · exact absurd hcancelled nofun
  · rcases h with ⟨_, hl, rfl⟩ | ⟨hcancelled, -⟩ | ⟨hrefused, -⟩
    · exact hleft hl _ ⟨[], rfl⟩
    · exact absurd hcancelled nofun
    · exact absurd hrefused nofun

/-- An outcome is that of a concluded session: the finish was sent last, and its acknowledgement was
consumed last. -/
theorem ControllerTrace.returned {o : TwoPhoneSessionOutcome} (h : ControllerTrace C es s)
    (ho : s.Returns o) :
    ∃ pre done success detail, ControllerIdle C 0 pre done [] s ∧
      ControllerConcluded C s done success detail ∧ o = s.outcome success detail ∧
      sent es = sent pre ++ [.finish s.frame success detail] ∧ received es = received pre ∧
      consumed es = consumed pre ++ [.finishAcknowledgement] ∧ steps es = steps pre := by
  obtain ⟨pre, done, success, detail, gs, idle, concluded, rfl, rfl, post, hgs⟩ := h.concluded ho
  have hsent : sent gs ++ sent post = [] := by rw [← sent_append, hgs]; rfl
  have hreceived : received gs ++ received post = [] := by rw [← received_append, hgs]; rfl
  have hconsumed : consumed gs ++ consumed post = [] := by rw [← consumed_append, hgs]; rfl
  have hsteps : steps gs ++ steps post = [] := by rw [← steps_append, hgs]; rfl
  refine ⟨pre, done, success, detail, idle, concluded, rfl, ?_, ?_, ?_, ?_⟩
  · rw [sent_append, sent_append, (List.append_eq_nil_iff.mp hsent).1, List.append_nil]
    rfl
  · rw [received_append, received_append, (List.append_eq_nil_iff.mp hreceived).1, List.append_nil]
    exact List.append_nil _
  · rw [consumed_append, consumed_append, (List.append_eq_nil_iff.mp hconsumed).1, List.append_nil]
    rfl
  · rw [steps_append, steps_append, (List.append_eq_nil_iff.mp hsteps).1, List.append_nil]
    exact List.append_nil _

/-- A controller that returns an outcome has consumed the finish acknowledgement. -/
theorem ControllerTrace.consumed_finish {o : TwoPhoneSessionOutcome} (h : ControllerTrace C es s)
    (ho : s.Returns o) : .finishAcknowledgement ∈ consumed es := by
  obtain ⟨pre, _, _, _, -, -, -, -, -, hconsumed, -⟩ := h.returned ho
  rw [hconsumed]
  exact List.mem_append_right _ (List.mem_singleton_self _)

/-- No operation fails in a controller that waits for the answer to its finish or is on its way
out. -/
theorem ControllerThread.not_fails (hs : s.step C e = some t)
    (hp : (∃ success detail, s.phase = .awaitingFinish success detail) ∨ (∃ o, s.Returns o) ∨
      ∃ result, s.phase = .deactivating result ∨ s.phase = .closing result ∨
        s.phase = .ended result) : ¬ e.Fails := by
  intro hf
  replace hs := ControllerThread.call_of_step hs
  unfold ControllerThread.call at hs
  have hnot : ∀ {e₀ : SessionEvent} {done : ControllerThread σ}, on e₀ done e = some t →
      e₀ = .inboxStopped ∨ e₀ = .operation .closed ∨ e₀ = .deactivated → False := by
    intro e₀ done he h₀
    obtain ⟨rfl, -⟩ := SessionEvent.on_eq_some.mp he
    rcases h₀ with rfl | rfl | rfl <;> exact hf
  rcases hp with ⟨success, detail, hp⟩ | ⟨o, hp | hp | hp | hp | hp⟩ | ⟨result, hp | hp | hp⟩ <;>
    rw [hp] at hs <;> dsimp only at hs
  · rcases SessionEvent.onNext_eq_some.mp hs with ⟨m, rfl, -⟩ | ⟨error, rfl, -⟩ <;> exact hf
  · exact hnot hs (.inl rfl)
  · exact hnot hs (.inr (.inl rfl))
  · exact hnot hs (.inr (.inr rfl))
  · exact hnot hs (.inr (.inl rfl))
  · exact absurd hs (Option.some_ne_none _).symm
  · exact hnot hs (.inr (.inr rfl))
  · exact hnot hs (.inr (.inl rfl))
  · exact absurd hs (Option.some_ne_none _).symm

/-- The inbox is started after the start was sent. -/
theorem ControllerThread.start_of_inboxStarted {host : σ}
    (h : exec (ControllerThread.step C) { host := host } es = some s)
    (hmem : .inboxStarted ∈ es) : .start ∈ sent es := by
  obtain ⟨pre, post, rfl⟩ := List.append_of_mem hmem
  obtain ⟨u, u', hu, hstep, -⟩ := exec_split h
  have htrace : ControllerTrace C pre u := controllerTrace_of_exec hu
  replace hstep := ControllerThread.call_of_step hstep
  unfold ControllerThread.call at hstep
  unfold ControllerTrace at htrace
  cases hp : u.phase <;> rw [hp] at hstep htrace
  case startingInbox =>
    obtain ⟨stateHash, -, rfl⟩ := htrace
    rw [sent_append]
    exact List.mem_append_left _
      (List.mem_cons_of_mem _ (List.mem_cons_of_mem _ (List.mem_cons_self ..)))
  all_goals simp_all [on, onSend, onReceive, onNext]

end Controller

end DSEmu

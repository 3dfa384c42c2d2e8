import DSEmu.Lockstep.System

/-!
# Every session ends

A run of the two phones is finite. Each call that a thread has yet to make, each message on its way,
and each frame up to the frame limit is weighed with at least as many steps as it can still cause
(`LockstepState.potential`), so that every step of either phone decreases the potential
(`potential_decreases`). Where the controller has a frame limit, the potential of the initial state
bounds the length of every run (`exec_bounded`); the counter of frames bounds it otherwise.
-/

namespace DSEmu

open Automaton (exec exec_length_le exec_concat_eq_some)
open SessionEvent (on onSend onReceive onNext)
open Duplex (Medium Operation Side)

section Controller

variable {σ : Type} {C : TwoPhoneSession σ} {s t : ControllerThread σ} {es : List SessionEvent}
  {e : SessionEvent} {n : ℕ}

/-- The weight of a call of the controller's main thread, where a message to the display weighs
8. -/
def ControllerPhase.weight : ControllerPhase → ℕ
  | .preparing => 54
  | .connecting => 53
  | .activating => 52
  | .receivingHello => 51
  | .sendingHello => 50
  | .makingSnapshot => 41
  | .hashingState => 40
  | .sendingSnapshot _ => 39
  | .receivingReady => 30
  | .sendingStart => 29
  | .resuming => 20
  | .startingInbox => 19
  | .awaitingAcknowledgement _ => 14
  | .providingInput => 26
  | .sendingInput _ => 25
  | .steppingFrame _ => 16
  | .sendingFinish _ _ => 14
  | .awaitingFinish _ _ => 5
  | .stoppingInbox _ => 4
  | .closingInbox _ => 3
  | .deactivating _ => 2
  | .closing _ => 1
  | .ended _ => 0
  | .trapped => 0

/-- The potential of the controller's main thread with `n` frames in all. -/
def ControllerThread.potential (n : ℕ) (s : ControllerThread σ) : ℕ :=
  12 * (n - s.frame.toNat) + s.pendingFrames.length + s.phase.weight

/-- The number of frames that a session can step: those up to its limit, or up to that of the
counter. -/
def TwoPhoneSession.frameBound (C : TwoPhoneSession σ) : ℕ :=
  (C.configuration.testFrameLimit.map UInt64.toNat).getD (UInt64.size - 1)

/-- A frame that the controller begins is one of them. -/
theorem ControllerTrace.frame_le (h : ControllerTrace C es s) (hp : s.phase = .providingInput) :
    s.frame.toNat ≤ C.frameBound := by
  unfold ControllerTrace at h
  rw [hp] at h
  obtain ⟨done, pending, idle, -⟩ := h
  unfold TwoPhoneSession.frameBound
  cases hlimit : C.configuration.testFrameLimit with
  | none =>
    have hlt : s.frame.toNat < UInt64.size := s.frame.toNat_lt
    show s.frame.toNat ≤ UInt64.size - 1
    omega
  | some n => exact UInt64.le_iff_toNat_le.mp (idle.limit n hlimit)

theorem ControllerThread.awaitAcknowledgement_potential {loop : AcknowledgementLoop} :
    (s.awaitAcknowledgement loop).potential n ≤
      12 * (n - s.frame.toNat) + s.pendingFrames.length + 14 := by
  unfold ControllerThread.awaitAcknowledgement
  split
  · show 12 * (n - s.frame.toNat) + s.pendingFrames.length + 4 ≤ _
    omega
  · exact Nat.le_refl _

/-- The next frame is paid for by its part of the potential. -/
theorem ControllerThread.fillWindow_potential
    (hn : (s.fillWindow C).phase = .providingInput → (s.fillWindow C).frame.toNat ≤ n) :
    (s.fillWindow C).potential n ≤ 12 * (n - s.frame.toNat) + s.pendingFrames.length + 14 := by
  unfold ControllerThread.fillWindow at hn ⊢
  split
  · exact awaitAcknowledgement_potential
  · rename_i hroom
    rw [if_neg hroom] at hn
    unfold ControllerThread.beginFrame at hn ⊢
    cases hnext : checkedAdd s.frame 1 with
    | none =>
      show 12 * (n - s.frame.toNat) + s.pendingFrames.length + 0 ≤ _
      omega
    | some frame =>
      rw [hnext] at hn
      have hle : frame.toNat ≤ n := hn rfl
      have hsum : frame.toNat = s.frame.toNat + 1 := checkedAdd_eq_some hnext
      show 12 * (n - frame.toNat) + s.pendingFrames.length + 26 ≤ _
      omega

theorem ControllerThread.mainLoop_potential
    (hn : (s.mainLoop C).phase = .providingInput → (s.mainLoop C).frame.toNat ≤ n) :
    (s.mainLoop C).potential n ≤ 12 * (n - s.frame.toNat) + s.pendingFrames.length + 14 := by
  unfold ControllerThread.mainLoop at hn ⊢
  split
  · rename_i hmore
    rw [if_pos hmore] at hn
    exact fillWindow_potential hn
  · exact Nat.le_refl _

theorem ControllerThread.drainCheckpoint_potential
    (hn : (s.drainCheckpoint C).phase = .providingInput →
      (s.drainCheckpoint C).frame.toNat ≤ n) :
    (s.drainCheckpoint C).potential n ≤
      12 * (n - s.frame.toNat) + s.pendingFrames.length + 14 := by
  unfold ControllerThread.drainCheckpoint at hn ⊢
  split
  · rename_i hempty
    rw [if_pos hempty] at hn
    exact mainLoop_potential hn
  · exact awaitAcknowledgement_potential

/-- An acknowledgement leaves a frame less to wait for. -/
theorem ControllerThread.acknowledged_potential {loop : AcknowledgementLoop} {m : TwoPhoneMessage}
    (hn : (s.acknowledged C loop m).phase = .providingInput →
      (s.acknowledged C loop m).frame.toNat ≤ n) :
    (s.acknowledged C loop m).potential n <
      12 * (n - s.frame.toNat) + s.pendingFrames.length + 14 := by
  -- A frame that leaves the pending ones pays for going on with the loop.
  have hcontinue : ∀ u : ControllerThread σ, u.frame = s.frame →
      u.pendingFrames.length < s.pendingFrames.length →
        s.acknowledged C loop m = u.continueLoop C loop →
      (s.acknowledged C loop m).potential n <
        12 * (n - s.frame.toNat) + s.pendingFrames.length + 14 := by
    intro u hframe hless heq
    rw [heq] at hn ⊢
    have hle : (u.continueLoop C loop).potential n ≤
        12 * (n - u.frame.toNat) + u.pendingFrames.length + 14 := by
      cases loop with
      | window => exact fillWindow_potential hn
      | checkpoint => exact drainCheckpoint_potential hn
    rw [hframe] at hle
    omega
  cases hpending : s.pendingFrames with
  | nil =>
    unfold ControllerThread.acknowledged ControllerThread.receiveControllerAcknowledgement
    rw [hpending]
    show 12 * (n - s.frame.toNat) + s.pendingFrames.length + 4 < _
    rw [hpending]
    omega
  | cons pending rest =>
    rw [← hpending]
    have hlength : s.pendingFrames.length = rest.length + 1 := by rw [hpending]; rfl
    rcases ControllerThread.acknowledged_cases C hpending loop m with
      ⟨a, -, -, ⟨-, h⟩ | ⟨timing, -, ⟨-, h⟩ | ⟨-, -, h⟩ | ⟨-, failure, -, h⟩⟩⟩ | ⟨-, error, h⟩
    · rw [h]
      show 12 * (n - s.frame.toNat) + s.pendingFrames.length + 0 < _
      omega
    · exact hcontinue (s.counted rest timing) rfl (hlength ▸ Nat.lt_succ_self rest.length) h
    · exact hcontinue (s.compared pending rest {}) rfl (hlength ▸ Nat.lt_succ_self rest.length) h
    · rw [h]
      show 12 * (n - s.frame.toNat) + rest.length + 14 < _
      omega
    · rw [h]
      show 12 * (n - s.frame.toNat) + s.pendingFrames.length + 4 < _
      omega

/-- A call of the controller's main thread pays for the message that it sends, and for the start of
the reader thread. -/
theorem ControllerThread.step_potential (hs : s.step C e = some t)
    (hn : t.phase = .providingInput → t.frame.toNat ≤ n) :
    t.potential n + 8 * (sent [e]).length + (if e = .inboxStarted then 4 else 0) <
      s.potential n := by
  replace hs := ControllerThread.call_of_step hs
  unfold ControllerThread.call at hs
  have hpotential : s.potential n =
    12 * (n - s.frame.toNat) + s.pendingFrames.length + s.phase.weight := rfl
  -- Most calls keep the counter and the pending frames, and go on to a call of less weight.
  have hless : ∀ k : ℕ, t.frame = s.frame → t.pendingFrames = s.pendingFrames →
      t.phase.weight + k < s.phase.weight → t.potential n + k < s.potential n := by
    intro k hframe hpending hlt
    rw [hpotential, ControllerThread.potential, hframe, hpending]
    omega
  have hsend : ∀ {m : TwoPhoneMessage} {p : ControllerPhase} {error : SessionResult},
      (onSend m (s.goto p) (s.goto (.stoppingInbox error)) e = some t ∨
        onSend m (s.goto p) (s.goto (.deactivating error)) e = some t) →
      p.weight + 8 < s.phase.weight →
      t.potential n + 8 * (sent [e]).length + (if e = .inboxStarted then 4 else 0) <
        s.potential n := by
    intro m p error h hlt
    rcases h with h | h
    all_goals
      rcases SessionEvent.onSend_eq_some.mp h with ⟨rfl, rfl⟩ | ⟨rfl, rfl⟩
      · exact hless 8 rfl rfl hlt
      · refine hless 0 rfl rfl (Nat.lt_of_le_of_lt ?_ hlt)
        show _ ≤ p.weight + 8
        simp only [ControllerThread.goto, ControllerPhase.weight]
        omega
  cases hp : s.phase <;> rw [hp] at hs hsend hless hpotential <;> dsimp only at hs
  case connecting | activating =>
    rcases SessionEvent.on_or_on_eq_some hs with ⟨rfl, rfl⟩ | ⟨rfl, rfl⟩
    · exact hless 0 rfl rfl (by simp [ControllerPhase.weight])
    · exact hless 0 rfl rfl (by simp [ControllerPhase.weight])
  case sendingHello | sendingSnapshot | sendingStart =>
    exact hsend (.inr hs) (by simp [ControllerPhase.weight])
  case sendingInput | sendingFinish =>
    exact hsend (.inl hs) (by simp [ControllerPhase.weight])
  case preparing | hashingState | resuming | providingInput =>
    obtain ⟨rfl, rfl⟩ := SessionEvent.on_eq_some.mp hs
    exact hless 0 rfl rfl (by simp [ControllerPhase.weight])
  case makingSnapshot =>
    obtain ⟨rfl, rfl⟩ := SessionEvent.on_eq_some.mp hs
    refine hless 0 ?_ ?_ ?_
    · split <;> rfl
    · split <;> rfl
    · split <;> simp [ControllerPhase.weight, ControllerThread.throwEarly]
  case stoppingInbox | closingInbox | deactivating | closing =>
    obtain ⟨rfl, rfl⟩ := SessionEvent.on_eq_some.mp hs
    exact hless 0 rfl rfl (by simp [ControllerPhase.weight])
  case receivingHello | receivingReady =>
    rcases SessionEvent.onReceive_eq_some.mp hs with ⟨m, rfl, rfl⟩ | ⟨rfl, rfl⟩
    · refine hless 0 ?_ ?_ ?_
      · split <;> rfl
      · split <;> rfl
      · split <;> simp [ControllerPhase.weight, ControllerThread.throwEarly]
    · exact hless 0 rfl rfl (by simp [ControllerPhase.weight, ControllerThread.throwEarly])
  case startingInbox =>
    obtain ⟨rfl, rfl⟩ := SessionEvent.on_eq_some.mp hs
    have hle : (s.mainLoop C).potential n ≤
        12 * (n - s.frame.toNat) + s.pendingFrames.length + 14 := mainLoop_potential hn
    show (s.mainLoop C).potential n + 4 < s.potential n
    rw [hpotential]
    show _ < 12 * (n - s.frame.toNat) + s.pendingFrames.length + 19
    omega
  case awaitingAcknowledgement loop =>
    rcases SessionEvent.onNext_eq_some.mp hs with ⟨m, rfl, rfl⟩ | ⟨error, rfl, rfl⟩
    · rw [hpotential]
      exact acknowledged_potential hn
    · exact hless 0 rfl rfl (by simp [ControllerPhase.weight, ControllerThread.throwLate])
  case steppingFrame input =>
    obtain ⟨rfl, rfl⟩ := SessionEvent.on_eq_some.mp hs
    rw [hpotential]
    show _ < 12 * (n - s.frame.toNat) + s.pendingFrames.length + 16
    have hle : ∀ u : ControllerThread σ, u.frame = s.frame →
        u.pendingFrames.length = s.pendingFrames.length + 1 →
        12 * (n - u.frame.toNat) + u.pendingFrames.length + 14 <
          12 * (n - s.frame.toNat) + s.pendingFrames.length + 16 := by
      intro u hframe hlength
      rw [hframe, hlength]
      omega
    split at hn
    · rename_i hcheckpoint
      rw [if_pos hcheckpoint]
      exact Nat.lt_of_le_of_lt (drainCheckpoint_potential hn) (hle _ rfl List.length_append)
    · rename_i hcheckpoint
      rw [if_neg hcheckpoint]
      exact Nat.lt_of_le_of_lt (mainLoop_potential hn) (hle _ rfl List.length_append)
  case awaitingFinish success detail =>
    rcases SessionEvent.onNext_eq_some.mp hs with ⟨m, rfl, rfl⟩ | ⟨error, rfl, rfl⟩
    · refine hless 0 ?_ ?_ ?_ <;> unfold ControllerThread.finished
      · split <;> rfl
      · split <;> rfl
      · split <;> simp [ControllerPhase.weight, ControllerThread.throwLate]
    · exact hless 0 rfl rfl (by simp [ControllerPhase.weight, ControllerThread.throwLate])
  case ended | trapped => exact absurd hs nofun

/-- The weight of a call of the reader thread, where a message that it has yet to receive weighs
3. -/
def ReaderPhase.weight : ReaderPhase → ℕ
  | .idle => 0
  | .checking => 3
  | .receiving => 2
  | .queueing _ => 4
  | .failing => 1
  | .exited => 0

/-- The reader thread pays for its calls with the messages that it receives. -/
theorem ControllerState.readerStep_weight {s t : ControllerState σ} {e : ReaderEvent}
    (h : s.readerStep e = some t) :
    t.reader.weight < s.reader.weight +
      3 * ((ControllerEvent.reader e).operation?.bind Operation.received?).toList.length := by
  rcases readerStep_cases h with ⟨rfl, hr, rfl⟩ | ⟨m, rfl, hr, rfl⟩ | ⟨rfl, hr, rfl⟩ |
    ⟨m, rfl, hr, -, rfl⟩ | ⟨rfl, hr, rfl⟩ | ⟨m, rfl, hr, -, -, rfl⟩ | ⟨rfl, hr, rfl⟩
  all_goals rw [hr]
  · show (if s.inbox.isStopped then ReaderPhase.exited else .receiving).weight < 3
    split
    · exact Nat.zero_lt_succ 2
    · exact Nat.lt_succ_self 2
  · exact Nat.lt_succ_self 4
  · exact Nat.lt_succ_self 1
  · exact Nat.zero_lt_succ 3
  · exact Nat.zero_lt_succ 3
  · exact Nat.lt_succ_self 3
  · exact Nat.zero_lt_succ 0

end Controller

section Display

variable {τ : Type} {D : TwoPhoneSession τ} {s t : DisplayThread τ} {e : SessionEvent}

/-- The weight of a call of the display's thread, where a message to the controller weighs 3. -/
def DisplayPhase.weight : DisplayPhase → ℕ
  | .preparing => 20
  | .connecting => 19
  | .activating => 18
  | .sendingHello => 17
  | .receivingHello => 13
  | .receivingSnapshot => 12
  | .loadingSnapshot _ => 11
  | .hashingState _ => 10
  | .sendingFailure _ => 6
  | .sendingReady => 9
  | .receivingStart => 5
  | .resuming => 4
  | .receiving => 3
  | .startingClock _ => 10
  | .steppingFrame _ _ => 9
  | .stoppingClock _ _ _ => 8
  | .acknowledging _ => 7
  | .sendingFinishAcknowledgement _ _ => 6
  | .deactivating _ => 2
  | .closing _ => 1
  | .ended _ => 0
  | .trapped => 0

/-- A message pays for all that the display's loop does with it. -/
theorem DisplayThread.handle_weight (m : TwoPhoneMessage) : (s.handle m).phase.weight ≤ 10 := by
  rcases s.handle_cases m with ⟨_, -, -, h⟩ | ⟨_, _, -, h⟩ | ⟨_, -, h⟩ | ⟨_, -, -, h⟩ <;> rw [h]
  · exact Nat.le_refl 10
  · exact Nat.le_of_ble_eq_true rfl
  · exact Nat.le_of_ble_eq_true rfl
  · exact Nat.zero_le 10

/-- A call of the display pays for the message that it sends, with the message that it receives. -/
theorem DisplayThread.step_weight (hs : s.step D e = some t) :
    t.phase.weight + 3 * (sent [e]).length < s.phase.weight + 8 * (received [e]).length := by
  replace hs := DisplayThread.call_of_step hs
  unfold DisplayThread.call at hs
  -- A call that sends nothing, one that sends, and one that receives: each phase is one of these.
  have hless : sent [e] = [] → t.phase.weight < s.phase.weight →
      t.phase.weight + 3 * (sent [e]).length < s.phase.weight + 8 * (received [e]).length := by
    intro hsent hlt
    rw [hsent, List.length_nil]
    omega
  have hsend : ∀ {m : TwoPhoneMessage} {p : DisplayPhase} {error : SessionError},
      onSend m (s.goto p) (s.throwing error) e = some t → p.weight + 3 < s.phase.weight →
      2 < s.phase.weight →
      t.phase.weight + 3 * (sent [e]).length < s.phase.weight + 8 * (received [e]).length := by
    intro m p error h hlt hlt'
    rcases SessionEvent.onSend_eq_some.mp h with ⟨rfl, rfl⟩ | ⟨rfl, rfl⟩
    · exact hlt
    · exact hlt'
  have hreceive : ∀ {f : TwoPhoneMessage → DisplayThread τ} {error : SessionError},
      onReceive f (s.throwing error) e = some t → 2 < s.phase.weight →
      (∀ m, (f m).phase.weight < s.phase.weight + 8) →
      t.phase.weight + 3 * (sent [e]).length < s.phase.weight + 8 * (received [e]).length := by
    intro f error h hlt hf
    rcases SessionEvent.onReceive_eq_some.mp h with ⟨m, rfl, rfl⟩ | ⟨rfl, rfl⟩
    · exact hf m
    · exact hlt
  cases hp : s.phase <;> rw [hp] at hs hless hsend hreceive <;> dsimp only at hs
  case preparing | resuming | steppingFrame | deactivating | closing =>
    obtain ⟨rfl, rfl⟩ := SessionEvent.on_eq_some.mp hs
    exact hless rfl (by simp [DisplayPhase.weight])
  case connecting | activating =>
    rcases SessionEvent.on_or_on_eq_some hs with ⟨rfl, rfl⟩ | ⟨rfl, rfl⟩
    · exact hless rfl (by simp [DisplayPhase.weight])
    · exact hless rfl (by simp [DisplayPhase.weight])
  case sendingHello | sendingFailure | sendingReady | acknowledging |
      sendingFinishAcknowledgement =>
    exact hsend hs (by simp [DisplayPhase.weight]) (by simp [DisplayPhase.weight])
  case receivingHello | receivingSnapshot | receivingStart =>
    refine hreceive hs (by simp [DisplayPhase.weight]) fun m => ?_
    split <;> simp [DisplayPhase.weight, DisplayThread.throwing]
  case receiving =>
    exact hreceive hs (by simp [DisplayPhase.weight]) fun m =>
      Nat.lt_succ_of_le (DisplayThread.handle_weight m)
  case loadingSnapshot stateHash =>
    obtain ⟨rfl, rfl⟩ := SessionEvent.on_eq_some.mp hs
    refine hless rfl ?_
    split <;> simp [DisplayPhase.weight, DisplayThread.throwing]
  case hashingState stateHash =>
    obtain ⟨rfl, rfl⟩ := SessionEvent.on_eq_some.mp hs
    refine hless rfl ?_
    split <;> simp [DisplayPhase.weight]
  case startingClock input =>
    obtain ⟨u, rfl, -, rfl⟩ := DisplayThread.onClock_eq_some.mp hs
    exact hless rfl (by simp [DisplayPhase.weight])
  case stoppingClock input digest processingStarted =>
    obtain ⟨u, rfl, -, rfl⟩ := DisplayThread.onClock_eq_some.mp hs
    refine hless rfl ?_
    unfold DisplayThread.measured
    split <;> simp [DisplayPhase.weight]
  case ended | trapped => contradiction

end Display

section Lockstep

variable {σ τ : Type} {M : Medium} {C : TwoPhoneSession σ} {D : TwoPhoneSession τ}
  {s t : LockstepState σ τ} {es : List LockstepEvent} {e : LockstepEvent} {hostC : σ} {hostD : τ}

/-- The potential of the two phones with `n` frames in all. -/
def LockstepState.potential (n : ℕ) (s : LockstepState σ τ) : ℕ :=
  s.controller.thread.potential n + s.controller.reader.weight + s.display.phase.weight +
    8 * (s.link.incoming .right).length + 3 * (s.link.incoming .left).length

/-- The messages on their way after a step of the controller. -/
theorem controller_lengths {e : ControllerEvent}
    (h : s.linkStep M (.controller e) = some t.link) :
    (t.link.incoming .right).length = (s.link.incoming .right).length +
        (e.operation?.bind Operation.sent?).toList.length ∧
      (s.link.incoming .left).length = (t.link.incoming .left).length +
        (e.operation?.bind Operation.received?).toList.length := by
  have hlink := LockstepState.linkStep_eq_some h
  rw [LockstepEvent.operation?] at hlink
  cases ho : e.operation? with
  | none =>
    rw [ho] at hlink
    have hsame : t.link = s.link := hlink
    rw [hsame]
    exact ⟨rfl, rfl⟩
  | some o =>
    rw [ho] at hlink
    exact Duplex.Link.step_lengths (x := .left) hlink

/-- The messages on their way after a step of the display. -/
theorem display_lengths {e : SessionEvent} (h : s.linkStep M (.display e) = some t.link) :
    (t.link.incoming .left).length = (s.link.incoming .left).length + (sent [e]).length ∧
      (s.link.incoming .right).length = (t.link.incoming .right).length +
        (received [e]).length := by
  have hlink := LockstepState.linkStep_eq_some h
  rw [LockstepEvent.operation?] at hlink
  cases ho : e.operation? with
  | none =>
    rw [ho] at hlink
    have hsame : t.link = s.link := hlink
    rw [hsame, sent_singleton, received_singleton, ho]
    exact ⟨rfl, rfl⟩
  | some o =>
    rw [ho] at hlink
    rw [sent_singleton, received_singleton, ho]
    exact Duplex.Link.step_lengths (x := .right) hlink

/-- Every step decreases the potential. -/
theorem potential_decreases
    (hexec : exec (LockstepState.step M C D) (.initial hostC hostD) es = some s)
    (hs : s.step M C D e = some t) :
    t.potential C.frameBound < s.potential C.frameBound := by
  unfold LockstepState.potential
  match e with
  | .controller (.main e) =>
    obtain ⟨hlink, hcontroller, hsame⟩ := LockstepState.step_controller.mp hs
    obtain ⟨hthread, hinbox⟩ := ControllerState.step_main.mp hcontroller
    have hexec' := exec_concat_eq_some.mpr ⟨s, hexec, hs⟩
    have htrace := controllerTrace_of_exec (exec_main hexec')
    have hpotential := ControllerThread.step_potential hthread htrace.frame_le
    obtain ⟨hright, hleft⟩ := controller_lengths hlink
    have hsent : (sent [e]).length =
        ((ControllerEvent.main e).operation?.bind Operation.sent?).toList.length := by
      rw [sent_singleton]
      rfl
    -- Starting the inbox wakes the reader thread, and the main thread pays for it.
    have hreader : t.controller.reader.weight ≤
        s.controller.reader.weight + if e = .inboxStarted then 4 else 0 := by
      rcases (ControllerState.inboxStep_frame hinbox).2 with heq | ⟨rfl, heq⟩
      · rw [heq]
        omega
      · rw [heq, if_pos rfl]
        show 3 ≤ _
        omega
    rw [hsame]
    omega
  | .controller (.reader e) =>
    obtain ⟨hlink, hcontroller, hsame⟩ := LockstepState.step_controller.mp hs
    obtain ⟨-, -, hreader⟩ := ControllerState.step_reader.mp hcontroller
    have hweight := ControllerState.readerStep_weight hreader
    obtain ⟨hright, hleft⟩ := controller_lengths hlink
    -- The reader thread sends nothing.
    have hnone : ((ControllerEvent.reader e).operation?.bind Operation.sent?).toList = [] := by
      rcases ControllerState.readerStep_cases hreader with ⟨rfl, -⟩ | ⟨m, rfl, -⟩ | ⟨rfl, -⟩ |
        ⟨m, rfl, -⟩ | ⟨rfl, -⟩ | ⟨m, rfl, -⟩ | ⟨rfl, -⟩ <;> rfl
    rw [hnone, List.length_nil] at hright
    rw [ControllerState.readerStep_thread hreader, hsame]
    omega
  | .display e =>
    obtain ⟨hlink, hdisplay, hsame⟩ := LockstepState.step_display.mp hs
    have hweight := DisplayThread.step_weight hdisplay
    obtain ⟨hleft, hright⟩ := display_lengths hlink
    rw [hsame]
    omega

/-- The potential that two phones start with bounds the length of their runs. -/
theorem exec_bounded
    (hexec : exec (LockstepState.step M C D) (.initial hostC hostD) es = some s) :
    es.length ≤ 12 * C.frameBound + 74 := by
  have hle := exec_length_le (φ := LockstepState.potential C.frameBound)
    (fun _ _ _ _ hpre hs => potential_decreases hpre hs) hexec
  have hinitial : (LockstepState.initial hostC hostD).potential C.frameBound =
      12 * C.frameBound + 74 := rfl
  omega

end Lockstep

end DSEmu

import DSEmu.Lockstep.Accepted
import DSEmu.Lockstep.Agreement
import DSEmu.Lockstep.Conservation
import DSEmu.Lockstep.Termination
import DSEmu.Session.Arithmetic
import DSEmu.Session.Waiting

/-!
# Two phones never wait for each other

Where two phones accept each other and the link between them is reliable, a state in which no step
is enabled is one in which both have returned an outcome (`returned_of_stuck`). The controller's
main thread would have to wait for one of three things. In a send it waits for the display to
receive; a display that does not is sending itself, and the controller's reader thread takes what it
sends. In `inbox.next()` it waits for an acknowledgement of a frame that it has sent, and in a
receive of the handshake for the next message of the handshake; each time the display has something
to receive, or something to send and room for it. Only a counter can stop a phone: that of the
frames a controller that has no frame limit, and that of the checkpoints one that comes to `2^63` of
them.
-/

namespace DSEmu

open Automaton (exec exec_concat_eq_some Stuck)
open Duplex (Link Medium Operation Side)

section Calls

variable {σ : Type} {S : TwoPhoneSession σ} {es : List SessionEvent}

/-- How many messages a display that waits for a message has sent and received. -/
theorem DisplayTrace.receiving {s : DisplayThread σ} (h : DisplayTrace S es s)
    (hp : s.phase.waitsFor = .message) :
    ((sent es).length = 1 ∧ (received es).length ≤ 1) ∨
      ((sent es).length = 2 ∧ (received es).length = 2) ∨
      (3 ≤ (received es).length ∧ (sent es).length + 1 = (received es).length) := by
  unfold DisplayTrace at h
  cases hphase : s.phase <;> rw [hphase] at h hp <;> dsimp only at h
  case receivingHello | receivingSnapshot =>
    obtain ⟨-, rfl⟩ := h
    exact .inl ⟨rfl, Nat.le_of_ble_eq_true rfl⟩
  case receivingStart =>
    obtain ⟨-, stateHash, rfl⟩ := h
    exact .inr (.inl ⟨rfl, rfl⟩)
  case receiving =>
    obtain ⟨stateHash, rs, -, rfl⟩ := h
    right; right
    have hsent : (sent (displayHandshake S s.snapshot stateHash)).length = 2 := rfl
    have hreceived : (received (displayHandshake S s.snapshot stateHash)).length = 3 := rfl
    simp only [sent_append, received_append, List.length_append, sent_roundEvents,
      received_roundEvents, List.length_map, hsent, hreceived]
    omega
  all_goals exact absurd hp nofun

/-- How many messages a display that waits for room has sent and received, if it has not failed. -/
theorem DisplayTrace.sending {s : DisplayThread σ} (h : DisplayTrace S es s) (hs : ¬ s.Failed)
    (hp : s.phase.waitsFor = .room) :
    (sent es = [] ∧ received es = []) ∨ ((sent es).length = 1 ∧ (received es).length = 2) ∨
      3 ≤ (received es).length := by
  unfold DisplayTrace at h
  unfold DisplayThread.Failed at hs
  cases hphase : s.phase <;> rw [hphase] at h hp hs <;> dsimp only at h hs
  case sendingHello =>
    obtain ⟨-, rfl⟩ := h
    exact .inl ⟨rfl, rfl⟩
  case sendingReady =>
    obtain ⟨-, stateHash, rfl⟩ := h
    exact .inr (.inl ⟨rfl, rfl⟩)
  case sendingFailure => exact absurd trivial hs
  case acknowledging =>
    obtain ⟨stateHash, rs, r, -, -, rfl⟩ := h
    right; right
    simp only [received_append, List.length_append]
    exact Nat.le_add_right_of_le (Nat.le_add_right 3 _)
  case sendingFinishAcknowledgement =>
    obtain ⟨stateHash, rs, -, rfl⟩ := h
    right; right
    simp only [received_append, List.length_append]
    exact Nat.le_add_right_of_le (Nat.le_add_right 3 _)
  all_goals exact absurd hp nofun

/-- A display that has returned an outcome has closed its end. -/
theorem DisplayTrace.closed {s : DisplayThread σ} {o : TwoPhoneSessionOutcome}
    (h : DisplayTrace S es s) (hp : s.phase = .ended (.ok o)) : .operation .closed ∈ es := by
  unfold DisplayTrace at h
  rw [hp] at h
  rcases h with ⟨pre, -, rfl⟩ | ⟨hcancelled, -⟩ | ⟨hrefused, -⟩
  · simp
  · exact absurd hcancelled nofun
  · exact absurd hrefused nofun

/-- In the loop the inbox is started. -/
theorem ControllerIdle.started {s : ControllerThread σ} {k : ℕ} {done : List AcknowledgedFrame}
    {pending : List SteppedFrame} (h : ControllerIdle S k es done pending s) :
    .inboxStarted ∈ es := by
  obtain ⟨stateHash, ls, rfl, -⟩ := h.trace
  refine List.mem_append_left _ ?_
  simp [controllerHandshake]

/-- A controller that waits for a message is in its handshake. -/
theorem ControllerTrace.receiving {s : ControllerThread σ} (h : ControllerTrace S es s)
    (hp : s.phase.waitsFor = .message) :
    .inboxStarted ∉ es ∧ (((sent es).length = 0 ∧ (received es).length = 0) ∨
      ((sent es).length = 2 ∧ (received es).length = 1)) := by
  unfold ControllerTrace at h
  cases hphase : s.phase <;> rw [hphase] at h hp <;> dsimp only at h
  case receivingHello =>
    obtain ⟨-, rfl⟩ := h
    exact ⟨by simp [controllerHandshake, controllerOffered, opened], .inl ⟨rfl, rfl⟩⟩
  case receivingReady =>
    obtain ⟨stateHash, -, rfl⟩ := h
    exact ⟨by simp [controllerHandshake, controllerOffered, opened], .inr ⟨rfl, rfl⟩⟩
  all_goals contradiction

/-- A controller that waits for room is in its handshake, or its inbox is open. -/
theorem ControllerTrace.sending {s : ControllerThread σ} (h : ControllerTrace S es s)
    (hp : s.phase.waitsFor = .room) :
    (.inboxStarted ∉ es ∧ (sent es).length ≤ 2) ∨
      (.inboxStarted ∈ es ∧ .inboxStopped ∉ es ∧ .finishAcknowledgement ∉ consumed es) := by
  unfold ControllerTrace at h
  cases hphase : s.phase <;> rw [hphase] at h hp <;> dsimp only at h
  case sendingHello | sendingSnapshot =>
    obtain ⟨-, rfl⟩ := h
    exact .inl ⟨by simp [controllerHandshake, controllerOffered, opened], Nat.le_of_ble_eq_true rfl⟩
  case sendingStart =>
    obtain ⟨stateHash, -, rfl⟩ := h
    exact .inl ⟨by simp [controllerHandshake, controllerOffered, opened], Nat.le_refl 2⟩
  case sendingInput input =>
    obtain ⟨pre, done, pending, idle, -, -, rfl⟩ := h
    obtain ⟨hstopped, hfinish⟩ := idle.open_inbox
    refine .inr ⟨List.mem_append_left _ idle.started, ?_, ?_⟩
    · simp [hstopped]
    · rw [consumed_append, List.mem_append]
      exact not_or.mpr ⟨hfinish, List.not_mem_nil⟩
  case sendingFinish =>
    obtain ⟨done, idle, -⟩ := h
    exact .inr ⟨idle.started, idle.open_inbox⟩
  all_goals contradiction

/-- A controller that waits in `inbox.next()` has sent an input or the finish since the last
acknowledgement that it has consumed. -/
theorem ControllerTrace.awaiting {s : ControllerThread σ} (h : ControllerTrace S es s)
    (hp : s.phase.waitsFor = .inbox) :
    .inboxStarted ∈ es ∧ .finishAcknowledgement ∉ received es ++ consumed es ∧
      (received es).length = 2 ∧ (consumed es).length + 4 ≤ (sent es).length := by
  unfold ControllerTrace at h
  cases hphase : s.phase <;> rw [hphase] at h hp <;> dsimp only at h
  case awaitingAcknowledgement loop =>
    obtain ⟨done, st, pending, idle, -⟩ := h
    obtain ⟨stateHash, hreceived, hsent, -⟩ := idle.messages_eq
    refine ⟨idle.started, ?_, ?_, ?_⟩
    · rw [hreceived, List.mem_append]
      exact not_or.mpr ⟨by simp [TwoPhoneSession.hello], idle.open_inbox.2⟩
    · rw [hreceived]
      rfl
    · rw [hsent, idle.consumed_eq]
      simp [ledgerSteps]
  case awaitingFinish success detail =>
    obtain ⟨pre, done, idle, -, rfl⟩ := h
    obtain ⟨stateHash, hreceived, hsent, -⟩ := idle.messages_eq
    -- the finish adds to what was sent only
    have hconsumed : consumed (pre ++ [.operation (.sent (.finish s.frame success detail))]) =
        consumed pre := by
      rw [consumed_append]
      exact List.append_nil _
    have hreceived' : received (pre ++ [.operation (.sent (.finish s.frame success detail))]) =
        received pre := by
      rw [received_append]
      exact List.append_nil _
    refine ⟨List.mem_append_left _ idle.started, ?_, ?_, ?_⟩
    · rw [hreceived', hconsumed, hreceived, List.mem_append]
      exact not_or.mpr ⟨by simp [TwoPhoneSession.hello], idle.open_inbox.2⟩
    · rw [hreceived', hreceived]
      rfl
    · rw [hconsumed, sent_append, hsent, idle.consumed_eq, sent_singleton]
      simp [ledgerSteps, SessionEvent.operation?, Operation.sent?]
  all_goals contradiction

end Calls

section Stuck

variable {σ τ : Type} {M : Medium} {C : TwoPhoneSession σ} {D : TwoPhoneSession τ}
  {s : LockstepState σ τ} {es : List LockstepEvent} {hostC : σ} {hostD : τ}

/-- A call that returns by itself needs nothing of the link. -/
theorem linkStep_of_unhindered {e : SessionEvent} (he : e.Unhindered) :
    (s.linkStep M (.controller (.main e))).isSome ∧ (s.linkStep M (.display e)).isSome := by
  cases e with
  | operation o => cases o <;> first | exact ⟨rfl, rfl⟩ | exact he.elim
  | next m => exact he.elim
  | nextFailed error => exact he.elim
  | connectFailed => exact he.elim
  | activationRefused => exact he.elim
  | _ => exact ⟨rfl, rfl⟩

/-- A step of the main thread that the inbox and the link allow. -/
theorem main_enabled {e : SessionEvent} {thread : ControllerThread σ}
    (hthread : s.controller.thread.step C e = some thread)
    (hinbox : (s.controller.inboxStep e).isSome)
    (hlink : (s.linkStep M (.controller (.main e))).isSome) :
    s.step M C D (.controller (.main e)) ≠ none := by
  obtain ⟨⟨inbox, reader⟩, hinbox⟩ := Option.isSome_iff_exists.mp hinbox
  obtain ⟨link, hlink⟩ := Option.isSome_iff_exists.mp hlink
  have hcontroller : s.controller.step C (.main e) = some ⟨thread, inbox, reader⟩ :=
    ControllerState.step_main.mpr ⟨hthread, hinbox⟩
  have hs : s.step M C D (.controller (.main e)) =
      some ⟨⟨thread, inbox, reader⟩, s.display, link⟩ :=
    LockstepState.step_controller.mpr ⟨hlink, hcontroller, rfl⟩
  rw [hs]
  exact Option.some_ne_none _

/-- A step of the reader thread that the link allows. -/
theorem reader_enabled {e : ReaderEvent} {controller : ControllerState σ}
    (htrap : s.controller.thread.phase ≠ .trapped)
    (hcounted : s.controller.thread.checkpoints < 2 ^ 63)
    (hreader : s.controller.readerStep e = some controller)
    (hlink : (s.linkStep M (.controller (.reader e))).isSome) :
    s.step M C D (.controller (.reader e)) ≠ none := by
  obtain ⟨link, hlink⟩ := Option.isSome_iff_exists.mp hlink
  have hcontroller : s.controller.step C (.reader e) = some controller :=
    ControllerState.step_reader.mpr ⟨htrap, hcounted, hreader⟩
  have hs : s.step M C D (.controller (.reader e)) = some ⟨controller, s.display, link⟩ :=
    LockstepState.step_controller.mpr ⟨hlink, hcontroller, rfl⟩
  rw [hs]
  exact Option.some_ne_none _

/-- A step of the display that the link allows. -/
theorem display_enabled {e : SessionEvent} {display : DisplayThread τ}
    (hdisplay : s.display.step D e = some display) (hlink : (s.linkStep M (.display e)).isSome) :
    s.step M C D (.display e) ≠ none := by
  obtain ⟨link, hlink⟩ := Option.isSome_iff_exists.mp hlink
  have hs : s.step M C D (.display e) = some ⟨s.controller, display, link⟩ :=
    LockstepState.step_display.mpr ⟨hlink, hdisplay, rfl⟩
  rw [hs]
  exact Option.some_ne_none _

/-- Where nothing is enabled, the controller's main thread waits for something that is not there. -/
theorem stuck_main (hstuck : Stuck (LockstepState.step M C D) s)
    (hcounted : s.controller.thread.checkpoints < 2 ^ 63) :
    match s.controller.thread.phase.waitsFor with
    | .nothing => False
    | .room => s.link.closed .left = false ∧ s.link.closed .right = false ∧
        ¬ M.HasRoom .right (s.link.incoming .right).length
    | .message => s.link.incoming .left = [] ∧ s.link.closed .left = false ∧
        s.link.closed .right = false
    | .inbox => s.controller.inbox.next = none
    | .never => True := by
  have henabled := ControllerThread.enabled C hcounted
  -- A call that the thread and the inbox allow is refused by the link.
  have hblocked : ∀ {e : SessionEvent} {thread : ControllerThread σ},
      s.controller.thread.step C e = some thread → (s.controller.inboxStep e).isSome →
      s.linkStep M (.controller (.main e)) = none := by
    intro e thread hthread hinbox
    by_contra hsome
    exact main_enabled hthread hinbox (Option.isSome_iff_ne_none.mpr hsome) (hstuck _)
  cases hw : s.controller.thread.phase.waitsFor <;> rw [hw] at henabled <;> dsimp only
  case nothing =>
    obtain ⟨e, thread, hthread, he⟩ := henabled
    have hinbox : (s.controller.inboxStep e).isSome := by
      cases e <;> first | rfl | exact he.elim
    have hlink := (linkStep_of_unhindered (M := M) (s := s) he).1
    rw [hblocked hthread hinbox] at hlink
    contradiction
  case room =>
    obtain ⟨m, t, u, ht, hu⟩ := henabled
    exact Link.send_blocked (x := .left) (m := m) (hblocked ht rfl) (hblocked hu rfl)
  case message =>
    obtain ⟨hm, u, hu⟩ := henabled
    refine Link.receive_blocked (x := .left) (fun m => ?_) (hblocked hu rfl)
    obtain ⟨t, ht⟩ := hm m
    exact hblocked ht rfl
  case inbox =>
    obtain ⟨hm, herror⟩ := henabled
    cases hnext : s.controller.inbox.next with
    | none => rfl
    | some out =>
      exfalso
      obtain ⟨result, inbox⟩ := out
      cases result with
      | ok m =>
        obtain ⟨t, ht⟩ := hm m
        have hlink : some s.link = none := hblocked ht (by simp [ControllerState.inboxStep, hnext])
        contradiction
      | error error =>
        obtain ⟨t, ht⟩ := herror error
        have hlink : some s.link = none := hblocked ht (by simp [ControllerState.inboxStep, hnext])
        contradiction

/-- Where nothing is enabled, the display waits for something that is not there. -/
theorem stuck_display (hstuck : Stuck (LockstepState.step M C D) s)
    (hcounted : s.display.checkpoints < 2 ^ 63) :
    match s.display.phase.waitsFor with
    | .nothing => False
    | .room => s.link.closed .right = false ∧ s.link.closed .left = false ∧
        ¬ M.HasRoom .left (s.link.incoming .left).length
    | .message => s.link.incoming .right = [] ∧ s.link.closed .right = false ∧
        s.link.closed .left = false
    | .inbox => False
    | .never => True := by
  have henabled := DisplayThread.enabled D hcounted
  have hblocked : ∀ {e : SessionEvent} {display : DisplayThread τ},
      s.display.step D e = some display → s.linkStep M (.display e) = none := by
    intro e display hdisplay
    by_contra hsome
    exact display_enabled hdisplay (Option.isSome_iff_ne_none.mpr hsome) (hstuck _)
  cases hw : s.display.phase.waitsFor <;> rw [hw] at henabled <;> dsimp only
  case nothing =>
    obtain ⟨e, display, hdisplay, he⟩ := henabled
    have hlink := (linkStep_of_unhindered (M := M) (s := s) he).2
    rw [hblocked hdisplay] at hlink
    exact absurd hlink nofun
  case room =>
    obtain ⟨m, t, u, ht, hu⟩ := henabled
    exact Link.send_blocked (x := .right) (m := m) (hblocked ht) (hblocked hu)
  case message =>
    obtain ⟨hm, u, hu⟩ := henabled
    refine Link.receive_blocked (x := .right) (fun m => ?_) (hblocked hu)
    obtain ⟨t, ht⟩ := hm m
    exact hblocked ht
  case inbox =>
    -- a display has no inbox
    cases hp : s.display.phase <;> rw [hp] at hw <;> exact absurd hw nofun

/-- Where nothing is enabled, the reader thread is not running, or it waits for a message. -/
theorem stuck_reader (hstuck : Stuck (LockstepState.step M C D) s)
    (htrap : s.controller.thread.phase ≠ .trapped)
    (hcounted : s.controller.thread.checkpoints < 2 ^ 63) :
    s.controller.reader = .idle ∨ s.controller.reader = .exited ∨
      (s.controller.reader = .receiving ∧ s.link.incoming .left = []) := by
  have hblocked : ∀ e : ReaderEvent, (s.controller.readerStep e).isSome →
      s.linkStep M (.controller (.reader e)) = none := by
    intro e hreader
    obtain ⟨controller, hreader⟩ := Option.isSome_iff_exists.mp hreader
    by_contra hsome
    exact reader_enabled htrap hcounted hreader (Option.isSome_iff_ne_none.mpr hsome) (hstuck _)
  cases hr : s.controller.reader with
  | idle => exact .inl rfl
  | exited => exact .inr (.inl rfl)
  | checking => exact absurd (hblocked .checked (by simp [ControllerState.readerStep, hr])) nofun
  | queueing m => exact absurd (hblocked .queued (by simp [ControllerState.readerStep, hr])) nofun
  | failing => exact absurd (hblocked .recorded (by simp [ControllerState.readerStep, hr])) nofun
  | receiving =>
    refine .inr (.inr ⟨rfl, ?_⟩)
    refine (Link.receive_blocked (M := M) (x := .left) (fun m => ?_) ?_).1
    · exact hblocked (.operation (.received m)) (by simp [ControllerState.readerStep, hr])
    · exact hblocked (.operation .receiveFailed) (by simp [ControllerState.readerStep, hr])

/-- A display that has not failed and makes no more calls has returned an outcome. -/
theorem DisplayThread.ended_of_never {s : DisplayThread τ} (hs : ¬ s.Failed)
    (hp : s.phase.waitsFor = .never) : ∃ o, s.phase = .ended (.ok o) := by
  unfold DisplayThread.Failed at hs
  cases hphase : s.phase <;> rw [hphase] at hs hp
  case ended result =>
    cases result with
    | ok o => exact ⟨o, rfl⟩
    | error error => exact absurd trivial hs
  case trapped => exact absurd trivial hs
  all_goals exact absurd hp nofun

/-- A controller that has not failed or trapped and makes no more calls has returned an outcome. -/
theorem ControllerThread.ended_of_never {s : ControllerThread σ} (hs : ¬ s.Failed)
    (htrap : s.phase ≠ .trapped) (hp : s.phase.waitsFor = .never) :
    ∃ o, s.phase = .ended (.ok o) := by
  unfold ControllerThread.Failed at hs
  cases hphase : s.phase <;> rw [hphase] at hs hp
  case ended result =>
    cases result with
    | ok o => exact ⟨o, rfl⟩
    | error error => exact absurd trivial hs
  case trapped => exact absurd hphase htrap
  all_goals exact absurd hp nofun

/-- Both phones have returned an outcome. -/
def LockstepState.Returned (s : LockstepState σ τ) : Prop :=
  ∃ o o', s.controller.thread.phase = .ended (.ok o) ∧ s.display.phase = .ended (.ok o')

/-- One of the two phones has trapped in `checkpoints += 1`. -/
def LockstepState.Overcounted (s : LockstepState σ τ) : Prop :=
  2 ^ 63 ≤ s.controller.thread.checkpoints ∨ 2 ^ 63 ≤ s.display.checkpoints

/-- Where nothing is enabled, both phones have returned an outcome, unless one of them has
trapped. -/
theorem returned_of_stuck (hcapacity : ∀ x, ∀ c ∈ M.capacity x, 0 < c) (h : Healthy C es s)
    (hexec : exec (LockstepState.step M C D) (.initial hostC hostD) es = some s)
    (hstuck : Stuck (LockstepState.step M C D) s)
    (htrap : s.controller.thread.phase ≠ .trapped) (hcounted : ¬ s.Overcounted) : s.Returned := by
  obtain ⟨dropped, hlaws⟩ := lockstepLaws_of_exec hexec
  obtain ⟨hcontroller, hdisplay⟩ := not_or.mp hcounted
  rw [Nat.not_le] at hcontroller hdisplay
  have hmain := stuck_main hstuck hcontroller
  have hreader := stuck_reader hstuck htrap hcontroller
  replace hdisplay := stuck_display hstuck hdisplay
  have htoDisplay := congrArg List.length hlaws.toDisplay
  rw [List.length_append] at htoDisplay
  -- A display whose end is open and which has a way to go on is not at its end.
  have hopen : s.link.closed .right = false → s.display.phase.waitsFor ≠ .never := by
    intro hright hnever
    obtain ⟨o, hp⟩ := DisplayThread.ended_of_never h.display hnever
    have hclosed := hlaws.closedRight.mpr (hlaws.display.closed hp)
    rw [hright] at hclosed
    exact absurd hclosed nofun
  -- A direction that holds nothing has room.
  have hroom : ∀ x, s.link.incoming x = [] → M.HasRoom x (s.link.incoming x).length := by
    intro x hempty c hc
    rw [hempty]
    exact hcapacity x c hc
  cases hw : s.controller.thread.phase.waitsFor <;> rw [hw] at hmain <;> dsimp only at hmain
  case message =>
    obtain ⟨hempty, -, hright⟩ := hmain
    obtain ⟨hnot, hcounts⟩ := hlaws.controller.receiving hw
    have htoController := congrArg List.length (hlaws.early hnot)
    rw [hempty, List.append_nil] at htoController
    cases hd : s.display.phase.waitsFor <;> rw [hd] at hdisplay <;> dsimp only at hdisplay
    case room => exact absurd (hroom .left hempty) hdisplay.2.2
    case message =>
      rw [hdisplay.1, List.length_nil] at htoDisplay
      have hcounts' := hlaws.display.receiving hd
      omega
    case never => exact absurd hd (hopen hright)
  case room =>
    obtain ⟨hleft, hright, hfull⟩ := hmain
    have hsome : 0 < (s.link.incoming .right).length := by
      rcases Nat.eq_zero_or_pos (s.link.incoming .right).length with hzero | hpos
      · exact absurd (hroom .right (List.length_eq_zero_iff.mp hzero)) hfull
      · exact hpos
    cases hd : s.display.phase.waitsFor <;> rw [hd] at hdisplay <;> dsimp only at hdisplay
    case message =>
      rw [hdisplay.1] at hsome
      exact absurd hsome (Nat.lt_irrefl 0)
    case never => exact absurd hd (hopen hright)
    case room =>
      have hsome' : s.link.incoming .left ≠ [] :=
        fun hempty => hdisplay.2.2 (hroom .left hempty)
      have hpos := List.length_pos_iff.mpr hsome'
      rcases hlaws.controller.sending hw with ⟨hnot, hfew⟩ | ⟨hstarted, hstopped, hfinish⟩
      · have htoController := congrArg List.length (hlaws.early hnot)
        rw [List.length_append] at htoController
        rcases hlaws.display.sending h.display hd with ⟨hsent, -⟩ | hcounts | hcounts
        · rw [hsent, List.length_nil] at htoController
          omega
        · omega
        · omega
      · -- the reader thread takes what the display sends, unless it has taken the last message
        rcases hreader with hr | hr | ⟨-, hempty⟩
        · exact absurd hr (hlaws.inbox.started hstarted)
        · rcases hlaws.inbox.exited hr with hflag | herror
          · have hlast := (hlaws.inbox.stopped hflag).resolve_left hstopped
            have hsent : .finishAcknowledgement ∈ sent (displayEvents es) := by
              rw [hlaws.toController]
              exact List.mem_append_left _ (List.mem_append_right _ (List.mem_append_left _
                (List.mem_append_left _ hlast)))
            obtain ⟨_, _, _, _, -, -, -, hreturns⟩ :=
              DisplayThread.finished_of_sent (exec_display hexec) hsent
            rcases hreturns with hp | hp | hp <;> rw [hp] at hd <;> exact absurd hd nofun
          · exact absurd h.inbox herror
        · exact absurd hempty hsome'
  case inbox =>
    obtain ⟨hstarted, hfinish, hreceived, hahead⟩ := hlaws.controller.awaiting hw
    obtain ⟨hmessages, herror, hflag⟩ := ControllerMessageInbox.next_eq_none hmain
    have hreceiving : s.controller.reader = .receiving ∧ s.link.incoming .left = [] := by
      rcases hreader with hr | hr | hr
      · exact absurd hr (hlaws.inbox.started hstarted)
      · rcases hlaws.inbox.exited hr with hflag' | herror'
        · rw [hflag] at hflag'
          exact absurd hflag' nofun
        · exact absurd herror herror'
      · exact hr
    obtain ⟨hr, hempty⟩ := hreceiving
    have hdropped : dropped = [] := by
      by_contra hne
      have hexited := (hlaws.inbox.dropped hne).1
      rw [hr] at hexited
      exact absurd hexited nofun
    have hback : sent (displayEvents es) =
        received (mainEvents es) ++ consumed (mainEvents es) := by
      rw [hlaws.toController, hmessages, hr, hdropped, hempty]
      simp [ReaderPhase.held]
    cases hd : s.display.phase.waitsFor <;> rw [hd] at hdisplay <;> dsimp only at hdisplay
    case room => exact absurd (hroom .left hempty) hdisplay.2.2
    case message =>
      have hbackLength := congrArg List.length hback
      rw [List.length_append] at hbackLength
      rw [hdisplay.1, List.length_nil] at htoDisplay
      have hcounts := hlaws.display.receiving hd
      omega
    case never =>
      obtain ⟨o, hp⟩ := DisplayThread.ended_of_never h.display hd
      have hsent := hlaws.display.sent_finish (.inr (.inr hp))
      rw [hback] at hsent
      exact absurd hsent hfinish
  case never =>
    obtain ⟨o, hp⟩ := ControllerThread.ended_of_never h.controller htrap hw
    have hconsumed := hlaws.controller.consumed_finish (.inr (.inr (.inr (.inr hp))))
    obtain ⟨_, _, _, _, -, -, -, hreturns⟩ :=
      DisplayThread.finished_of_sent (exec_display hexec) (hlaws.sent_of_consumed hconsumed)
    rcases hreturns with hp' | hp' | hp'
    · rw [hp'] at hdisplay
      exact hdisplay.elim
    · rw [hp'] at hdisplay
      exact hdisplay.elim
    · exact ⟨o, _, hp, hp'⟩

end Stuck

section Ends

variable {σ τ : Type} (M : Medium) (C : TwoPhoneSession σ) (D : TwoPhoneSession τ) (hostC : σ)
  (hostD : τ)

/-- What the runs of two phones come to. -/
structure SessionEnds : Prop where
  /-- where the two phones have not both returned, a step is enabled, or one of them has trapped:
  the controller, which has no frame limit then, at the limit of its counter of frames, or either at
  that of its counter of checkpoints -/
  enabled : ∀ es s, exec (LockstepState.step M C D) (.initial hostC hostD) es = some s →
    ¬ ((∃ result, s.controller.thread.phase = .ended result) ∧
      ∃ result, s.display.phase = .ended result) →
    (∃ e, s.step M C D e ≠ none) ∨
      (s.controller.thread.phase = .trapped ∧ C.configuration.testFrameLimit = none ∧
        s.controller.thread.frame.toNat + 1 = UInt64.size) ∨ s.Overcounted
  /-- runs up to a frame limit are finite -/
  finite : ∀ n, C.configuration.testFrameLimit = some n → ∀ es s,
    exec (LockstepState.step M C D) (.initial hostC hostD) es = some s →
    es.length ≤ 12 * n.toNat + 74
  /-- and the ones that cannot go on have ended with an outcome on both phones, or in that trap -/
  returned : ∀ n, C.configuration.testFrameLimit = some n → ∀ es s,
    exec (LockstepState.step M C D) (.initial hostC hostD) es = some s →
    (∀ e, s.step M C D e = none) → s.Returned ∨ s.Overcounted
  /-- which no limit in the range of an `Int` lets happen -/
  counted : ∀ n, C.configuration.testFrameLimit = some n → n.toNat < 2 ^ 63 → ∀ es s,
    exec (LockstepState.step M C D) (.initial hostC hostD) es = some s → ¬ s.Overcounted

variable {M C D hostC hostD} {s : LockstepState σ τ} {es : List LockstepEvent}

/-- A controller with a frame limit steps no more frames. -/
theorem ControllerTrace.steps_le {fs : List SessionEvent} {thread : ControllerThread σ} {n : UInt64}
    (h : ControllerTrace C fs thread) (hlimit : C.configuration.testFrameLimit = some n) :
    (steps fs).length ≤ n.toNat := by
  rcases h.ledger with hnone | ⟨k, pre, done, pending, tail, idle, rfl, htail⟩
  · rw [hnone]
    exact Nat.zero_le _
  · have hlength : (steps (pre ++ tail)).length = done.length + pending.length := by
      rw [steps_append, htail, List.append_nil, idle.steps_eq, ledgerSteps, List.length_append,
        List.length_map]
    have hframe := idle.frame
    have hle := UInt64.le_iff_toNat_le.mp (idle.limit n hlimit)
    omega

/-- Nor does it send the input of a later one. -/
theorem sentInputs_within {fs : List SessionEvent} {thread : ControllerThread σ} {n : UInt64}
    (h : exec (ControllerThread.step C) { host := hostC } fs = some thread) (htag : C.Tagged)
    (hlimit : C.configuration.testFrameLimit = some n) {input : DSInputFrame}
    (hinput : input ∈ sentInputs fs) : input.frame ≤ n := by
  obtain ⟨m, hm, hmatch⟩ := List.mem_filterMap.mp hinput
  obtain rfl : m = .input input := by
    cases m <;> first | exact congrArg _ (Option.some.inj hmatch) | exact absurd hmatch nofun
  obtain ⟨pre, post, rfl⟩ := List.append_of_mem (mem_sent hm)
  obtain ⟨t, t', ht, hstep, -⟩ := Automaton.exec_split h
  have hpre : ControllerTrace C pre t := controllerTrace_of_exec ht
  unfold ControllerTrace at hpre
  rw [ControllerThread.step_input (.inl rfl) hstep] at hpre
  obtain ⟨pre', done, pending, idle, -, -, rfl⟩ := hpre
  have hframe : input.frame = t.frame :=
    ControllerThread.tagged htag ht _ _ (List.mem_append_right _ (List.mem_singleton_self _))
  rw [hframe]
  exact idle.limit n hlimit

/-- And the display steps only what it is sent. -/
theorem display_steps_le (htag : C.Tagged)
    (hexec : exec (LockstepState.step M C D) (.initial hostC hostD) es = some s) {n : UInt64}
    (hlimit : C.configuration.testFrameLimit = some n) :
    (steps (displayEvents es)).length ≤ n.toNat := by
  obtain ⟨dropped, hlaws⟩ := lockstepLaws_of_exec hexec
  obtain ⟨rounds, current, haccount⟩ := hlaws.display.account
  rcases Nat.eq_zero_or_pos (steps (displayEvents es)).length with hzero | hpos
  · omega
  -- The last frame that it has stepped has the number of all of them, and came as an input.
  have hlast : (steps (displayEvents es)).length - 1 < (steps (displayEvents es)).length := by omega
  have hnumber : (steps (displayEvents es))[(steps (displayEvents es)).length - 1].frame.toNat =
      (steps (displayEvents es)).length - 1 + 1 := by
    have hscheduled := haccount.scheduled
    rw [← haccount.steps] at hscheduled
    exact hscheduled.getElem hlast
  have hmem : (steps (displayEvents es))[(steps (displayEvents es)).length - 1] ∈
      steps (displayEvents es) := List.getElem_mem hlast
  generalize (steps (displayEvents es))[(steps (displayEvents es)).length - 1] = st at hnumber hmem
  have hown : st.frame = st.input.frame := by
    rw [haccount.steps, roundSteps, List.mem_map] at hmem
    obtain ⟨r, -, rfl⟩ := hmem
    rfl
  have hsent : st.input ∈ sentInputs (mainEvents es) :=
    hlaws.display_inputs.mem (List.mem_map_of_mem hmem)
  have hle := UInt64.le_iff_toNat_le.mp (sentInputs_within (exec_main hexec) htag hlimit hsent)
  rw [hown] at hnumber
  omega

/-- Up to a frame limit in the range of an `Int`, neither phone counts past that range. -/
theorem not_overcounted (htag : C.Tagged)
    (hexec : exec (LockstepState.step M C D) (.initial hostC hostD) es = some s) {n : UInt64}
    (hlimit : C.configuration.testFrameLimit = some n) (hn : n.toNat < 2 ^ 63) :
    ¬ s.Overcounted := by
  have hmain := exec_main hexec
  have hsteps := (controllerTrace_of_exec hmain).steps_le hlimit
  have hcontroller := ControllerThread.checkpoints_le_steps hmain
  have hdisplay := DisplayThread.checkpoints_le_steps (exec_display hexec)
  have hsteps' := display_steps_le htag hexec hlimit
  unfold LockstepState.Overcounted
  omega

/-- Two phones that accept each other, over a reliable link that holds at least a message in each
direction, never wait for each other, and up to a frame limit they end. -/
theorem session_ends (hM : M.faulty = false) (hcapacity : ∀ x, ∀ c ∈ M.capacity x, 0 < c)
    (haccepts : Accepts C D hostC hostD) (htag : C.Tagged) :
    SessionEnds M C D hostC hostD := by
  have healthy : ∀ {es : List LockstepEvent} {s : LockstepState σ τ},
      exec (LockstepState.step M C D) (.initial hostC hostD) es = some s → Healthy C es s :=
    fun hexec => healthy_of_exec hM htag hexec (not_refused_of_accepts haccepts hexec)
  refine ⟨?_, ?_, ?_, ?_⟩
  · intro es s hexec hnot
    by_cases htrap : s.controller.thread.phase = .trapped
    · obtain ⟨done, pending, -, -, hmax, hlimit⟩ := (healthy hexec).trapped htrap
      exact .inr (.inl ⟨htrap, hlimit, hmax⟩)
    · by_cases hcounted : s.Overcounted
      · exact .inr (.inr hcounted)
      · left
        by_contra hnone
        push Not at hnone
        obtain ⟨o, o', hp, hp'⟩ :=
          returned_of_stuck hcapacity (healthy hexec) hexec hnone htrap hcounted
        exact hnot ⟨⟨_, hp⟩, ⟨_, hp'⟩⟩
  · intro n hlimit es s hexec
    have hle := exec_bounded hexec
    rwa [TwoPhoneSession.frameBound, hlimit] at hle
  · intro n hlimit es s hexec hstuck
    refine or_iff_not_imp_right.mpr fun hcounted => ?_
    refine returned_of_stuck hcapacity (healthy hexec) hexec hstuck (fun htrap => ?_) hcounted
    obtain ⟨done, pending, -, -, -, hnone⟩ := (healthy hexec).trapped htrap
    rw [hlimit] at hnone
    exact absurd hnone nofun
  · intro n hlimit hn es s hexec
    exact not_overcounted htag hexec hlimit hn

/-- A reliable link with room for one message in each direction. -/
def oneMessageLink : Medium := { capacity := fun _ => some 1 }

/-- The link takes a message in each direction. -/
theorem oneMessageLink_capacity : ∀ x, ∀ c ∈ oneMessageLink.capacity x, 0 < c :=
  fun _ _ hc => Option.some.inj hc ▸ Nat.one_pos

/-- `session_ends` for two phones on a link with room for one message. -/
theorem session_ends_one_message : SessionEnds oneMessageLink oneFrameSession oneFrameSession ()
    () :=
  session_ends rfl oneMessageLink_capacity
    ⟨rfl, [], 0, ⟨(), (), rfl, rfl⟩, (), (), rfl, rfl⟩ fun _ _ => rfl

/-- A digest in a trace was returned by the session's `stepFrame`. -/
theorem digest_of_steps {S : TwoPhoneSession σ} {host host' : σ} {es : List SessionEvent}
    (h : exec S.hostStep host es = some host') {st : SteppedFrame} (hst : st ∈ steps es) :
    ∃ u, (S.stepFrame st.input st.needsDigest u).1 = st.digest := by
  obtain ⟨e, he, hmatch⟩ := List.mem_filterMap.mp hst
  cases e with
  | stepped frame input needsDigest digest =>
    obtain rfl := Option.some.inj hmatch
    obtain ⟨pre, post, rfl⟩ := List.append_of_mem he
    obtain ⟨u, u', -, hu, -⟩ := Automaton.exec_split h
    exact ⟨u, congrArg Prod.fst (hostStep_stepped.mp hu)⟩
  | _ => exact absurd hmatch nofun

end Ends

/-- Two phones whose digests always match, without a frame limit, come to a state in which nothing
is enabled and neither has returned: the controller has trapped. -/
theorem lockstep_traps_at_counter_limit :
    Accepts fixedDigestSession fixedDigestSession () () ∧ fixedDigestSession.Tagged ∧
      ∃ es s, exec (LockstepState.step oneMessageLink fixedDigestSession fixedDigestSession)
          (.initial () ()) es = some s ∧
        ¬ ((∃ result, s.controller.thread.phase = .ended result) ∧
          ∃ result, s.display.phase = .ended result) ∧
        ∀ e, s.step oneMessageLink fixedDigestSession fixedDigestSession e = none := by
  have haccepts : Accepts fixedDigestSession fixedDigestSession () () :=
    ⟨rfl, [], 0, ⟨(), (), rfl, rfl⟩, (), (), rfl, rfl⟩
  have htag : fixedDigestSession.Tagged := fun _ _ => rfl
  obtain ⟨es, s, hexec, hstuck⟩ := Automaton.exists_exec_stuck
    (φ := LockstepState.potential fixedDigestSession.frameBound)
    (fun _ _ _ _ hpre hs => potential_decreases hpre hs)
  refine ⟨haccepts, htag, es, s, hexec, ?_, hstuck⟩
  rintro ⟨⟨result, hp⟩, -⟩
  have healthy := healthy_of_exec rfl htag hexec (not_refused_of_accepts haccepts hexec)
  have htrap : s.controller.thread.phase ≠ .trapped := by
    rw [hp]
    exact nofun
  have hnever : s.controller.thread.phase.waitsFor = .never := by
    rw [hp]
    rfl
  obtain ⟨o, ho⟩ := ControllerThread.ended_of_never healthy.controller htrap hnever
  obtain ⟨done, rs, success, detail, -, hrun⟩ :=
    finishedRun_of_exec hexec (.inr (.inr (.inr (.inr ho))))
  -- The loop cannot have ended: there is no limit, and the digests of every checkpoint match.
  rcases hrun.concluded with ⟨-, -, -, hlimit⟩ | ⟨-, init, p, rfl, -, -, hfailure⟩
  · exact absurd hlimit nofun
  · have hp : p ∈ init ++ [p] := List.mem_append_right _ (List.mem_singleton_self p)
    have hlocal : p.step.digest = some ⟨0, 0, 0, 0⟩ := by
      have hst : p.step ∈ steps (mainEvents es) := by
        rw [hrun.controller_steps]
        exact List.mem_map_of_mem hp
      obtain ⟨_, hdigest⟩ := digest_of_steps (ControllerThread.exec_host (exec_main hexec)) hst
      exact hdigest.symm
    have hremote : p.acknowledgement.digest = some ⟨0, 0, 0, 0⟩ := by
      have hack : p.acknowledgement ∈ rs.map DisplayRound.acknowledgement := by
        rw [← hrun.acknowledgements]
        exact List.mem_map_of_mem hp
      obtain ⟨r, hr, heq⟩ := List.mem_map.mp hack
      have hst : r.step fixedDigestSession ∈ steps (displayEvents es) := by
        rw [hrun.display_steps]
        exact List.mem_map_of_mem hr
      obtain ⟨_, hdigest⟩ := digest_of_steps (DisplayThread.exec_host (exec_display hexec)) hst
      rw [← heq]
      exact hdigest.symm
    have hnone : ControllerThread.digestFailure p.step.pending p.acknowledgement.digest = none :=
      ControllerThread.digestFailure_eq_none.mpr ⟨by
        show p.step.digest.isSome = true
        rw [hlocal]
        rfl, hremote.trans hlocal.symm⟩
    rw [hnone] at hfailure
    exact absurd hfailure nofun

end DSEmu

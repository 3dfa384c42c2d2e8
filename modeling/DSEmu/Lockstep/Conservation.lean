import DSEmu.Lockstep.Health
import DSEmu.Session.ExactlyOnce
import DSEmu.Session.Handshake

/-!
# No frame is lost between the two phones

After the handshake, over a reliable link, each frame that the controller has sent and has no
acknowledgement for is at one place: its input is on the way to the display, the display works on
it, or its acknowledgement is on the way back, held by the reader thread, or in the inbox
(`lockstep_conservation`). The places follow one another in the order of the frames.
-/

namespace DSEmu

open Automaton (exec)
open Duplex (Medium)

/-- The inputs that a trace has sent. -/
def sentInputs (es : List SessionEvent) : List DSInputFrame :=
  (sent es).filterMap TwoPhoneMessage.input?

/-- What was sent stays sent. -/
theorem sentInputs_le (es fs : List LockstepEvent) :
    sentInputs (mainEvents es) <+: sentInputs (mainEvents (es ++ fs)) := by
  rw [mainEvents_append, sentInputs, sentInputs, sent_append, List.filterMap_append]
  exact List.prefix_append _ _

/-- The inputs of the frames that a trace has stepped. -/
def stepInputs (es : List SessionEvent) : List DSInputFrame := (steps es).map SteppedFrame.input

/-- The frames of the inputs among some messages. -/
def inputFrames (ms : List TwoPhoneMessage) : List UInt64 :=
  (ms.filterMap TwoPhoneMessage.input?).map DSInputFrame.frame

/-- The frames of the acknowledgements among some messages. -/
def acknowledgedFrames (ms : List TwoPhoneMessage) : List UInt64 :=
  (ms.filterMap TwoPhoneMessage.acknowledgement?).map FrameAcknowledgement.frame

@[simp] theorem acknowledgedFrames_append (ms ns : List TwoPhoneMessage) :
    acknowledgedFrames (ms ++ ns) = acknowledgedFrames ms ++ acknowledgedFrames ns := by
  simp [acknowledgedFrames]

@[simp] theorem inputFrames_append (ms ns : List TwoPhoneMessage) :
    inputFrames (ms ++ ns) = inputFrames ms ++ inputFrames ns := by
  simp [inputFrames]

@[simp] theorem acknowledgedFrames_map (acks : List FrameAcknowledgement) :
    acknowledgedFrames (acks.map .acknowledgement) = acks.map FrameAcknowledgement.frame := by
  rw [acknowledgedFrames, List.filterMap_map]
  exact congrArg (List.map _) List.filterMap_some

@[simp] theorem inputFrames_map (inputs : List DSInputFrame) :
    inputFrames (inputs.map .input) = inputs.map DSInputFrame.frame := by
  rw [inputFrames, List.filterMap_map]
  exact congrArg (List.map _) List.filterMap_some

section

variable {σ τ : Type}

/-- The frames that the controller has sent and has no acknowledgement for: those in
`pendingFrames`, and the one that it has not appended yet. -/
def outstandingFrames (s : ControllerThread σ) : List UInt64 :=
  s.pendingFrames.map PendingFrame.frame ++ s.phase.unappended.map DSInputFrame.frame

/-- Where the frames between the two phones are, the oldest first. -/
def framesBetween (s : LockstepState σ τ) : List UInt64 :=
  acknowledgedFrames s.controller.inbox.messages ++
    acknowledgedFrames s.controller.reader.held ++
    acknowledgedFrames (s.link.incoming .left) ++
    s.display.phase.workingFrames ++
    inputFrames (s.link.incoming .right)

variable (C : TwoPhoneSession σ) (D : TwoPhoneSession τ)

/-- What a run of the two phones says about their frames. -/
structure Conservation (es : List LockstepEvent) (s : LockstepState σ τ) : Prop where
  /-- the display has stepped the frames 1, 2, …, k -/
  scheduled : Scheduled D.configuration (steps (displayEvents es))
  /-- each with the input that the controller has sent for it -/
  inputs : (steps (displayEvents es)).map SteppedFrame.input <+: sentInputs (mainEvents es)
  numbered : ∀ st ∈ steps (displayEvents es), st.input.frame = st.frame
  /-- every outstanding frame is at one place between the two phones -/
  conserved : outstandingFrames s.controller.thread = framesBetween s
  /-- the outstanding frames follow those acknowledged, without a gap -/
  consecutive : (outstandingFrames s.controller.thread).map UInt64.toNat =
    List.range' ((consumed (mainEvents es)).countP (fun m => m.acknowledgement?.isSome) + 1)
      (outstandingFrames s.controller.thread).length
  window : (outstandingFrames s.controller.thread).length ≤ C.configuration.frameWindow

variable {C D} {M : Medium} {es : List LockstepEvent} {s : LockstepState σ τ} {hostC : σ}
  {hostD : τ}

/-- The display steps what the controller has sent, in order. -/
theorem LockstepLaws.display_inputs {dropped : List TwoPhoneMessage}
    (h : LockstepLaws C D es s dropped) :
    stepInputs (displayEvents es) <+: sentInputs (mainEvents es) := by
  obtain ⟨rounds, current, haccount⟩ := h.display.account
  have hmap : stepInputs (displayEvents es) = (rounds ++ current).map DisplayRound.input := by
    rw [stepInputs, haccount.steps, roundSteps, List.map_map]
    rfl
  rw [hmap, sentInputs, h.toDisplay, List.filterMap_append]
  exact haccount.inputs.trans (List.prefix_append _ _)

/-- The controller steps what it has sent, in order. -/
theorem ControllerTrace.step_inputs {es : List SessionEvent} {s : ControllerThread σ}
    (h : ControllerTrace C es s) : stepInputs es <+: sentInputs es := by
  rcases h.ledger with hnone | ⟨k, pre, done, pending, tail, idle, rfl, htail⟩
  · rw [stepInputs, hnone]
    exact List.nil_prefix
  · obtain ⟨stateHash, -, hsent, -⟩ := idle.messages_eq
    have hinputs : sentInputs pre = (ledgerSteps done pending).map SteppedFrame.input := by
      have hmap : ∀ sts : List SteppedFrame, (sts.map fun st =>
          TwoPhoneMessage.input st.input).filterMap TwoPhoneMessage.input? =
            sts.map SteppedFrame.input := by
        intro sts
        rw [List.filterMap_map]
        exact List.filterMap_eq_map ▸ rfl
      rw [sentInputs, hsent, List.filterMap_append, hmap]
      rfl
    have hsteps : stepInputs (pre ++ tail) = sentInputs pre := by
      rw [stepInputs, steps_append, htail, List.append_nil, idle.steps_eq, hinputs]
    rw [hsteps, sentInputs, sentInputs, sent_append, List.filterMap_append]
    exact List.prefix_append _ _

/-- Nothing was refused where both parties have resumed. -/
theorem not_refused_of_resumed
    (hexec : exec (LockstepState.step M C D) (.initial hostC hostD) es = some s)
    (hcontroller : .resumed ∈ mainEvents es) (hdisplay : .resumed ∈ displayEvents es) :
    ¬ Refused C D es := by
  obtain ⟨dropped, hlaws⟩ := lockstepLaws_of_exec hexec
  obtain ⟨snapshotC, stateHashC, hmain⟩ :=
    hlaws.controller.passed.resolve_right fun hnot => hnot.1.1 hcontroller
  obtain ⟨snapshotD, stateHashD, hdes⟩ :=
    hlaws.display.passed.resolve_right fun hnot => hnot.1.1 hdisplay
  rintro (differs | ⟨error, trace⟩ | ⟨snapshot, stateHash, error, trace⟩ |
    ⟨snapshot, expected, stateHash, differs, trace⟩)
  · obtain ⟨postC, hpostC⟩ := hmain
    obtain ⟨postD, hpostD⟩ := hdes
    have hlink := hlaws.toDisplay
    rw [← hpostC, ← hpostD, sent_append, received_append] at hlink
    exact differs (List.cons.inj hlink).1
  · have hle := List.prefix_of_prefix_length_le trace hmain (Nat.le_of_ble_eq_true rfl)
    simp [controllerOffered, opened] at hle
  · have hle := List.prefix_of_prefix_length_le trace hdes (Nat.le_of_ble_eq_true rfl)
    simp [displayHandshake, displayReady, displayLoaded, displayGreeted, opened] at hle
  · have hle := List.prefix_of_prefix_length_le trace hdes (Nat.le_of_ble_eq_true rfl)
    simp [displayHandshake, displayReady, displayLoaded, displayGreeted, opened] at hle
    exact differs (hle.2.2.trans hle.1.2.symm)

/-- A display that has received the start works on the inputs that it has received after those of
its rounds. -/
theorem DisplayLog.started {es : List SessionEvent} {s : DisplayThread τ} {rs : List DisplayRound}
    {extra others : List TwoPhoneMessage} (h : DisplayLog D es s rs extra others)
    (hstart : .start ∈ received es) (hfailed : ¬ s.Failed) :
    ∃ snapshot stateHash extra',
      received es = [D.hello, .snapshot snapshot stateHash, .start] ++
        rs.map (fun r => .input r.input) ++ extra' ∧
      inputFrames extra' = s.phase.workingFrames := by
  obtain ⟨snapshot, stateHash, hreceived | ⟨hreceived, rfl, -⟩⟩ := h.received_eq
  · exact ⟨snapshot, stateHash, extra, hreceived, h.working hfailed⟩
  · have hextra : extra = [.start] := by
      rw [hreceived] at hstart
      have hmem : .start ∈ extra := by
        simpa [TwoPhoneSession.hello] using hstart
      obtain ⟨m, rfl⟩ := List.length_eq_one_iff.mp
        (Nat.le_antisymm h.single (List.length_pos_of_mem hmem))
      rw [List.mem_singleton.mp hmem]
    subst hextra
    exact ⟨snapshot, stateHash, [], hreceived, h.working hfailed⟩

/-- With inputs that are tagged, the frames of the inputs that the controller has sent are those of
its ledger, and the one that it has not appended yet. -/
theorem ControllerLog.inputs_frames {es : List SessionEvent} {s : ControllerThread σ}
    {done : List AcknowledgedFrame} {pending : List SteppedFrame} {inputs : List DSInputFrame}
    {fin tail : List TwoPhoneMessage} (h : ControllerLog C es s done pending inputs fin tail)
    (htagged : ∀ frame input, .provided frame input ∈ es → input.frame = frame) :
    inputs.map DSInputFrame.frame =
      done.map (fun p => p.acknowledgement.frame) ++ outstandingFrames s := by
  have hnumbered := h.numbered htagged
  have hledger := h.scheduled.numbered
  -- The inputs of the steps are the first of the numbered ones, and the steps are numbered as well.
  have hcut : (ledgerSteps done pending).map (fun st => st.input.frame.toNat) =
      (ledgerSteps done pending).map (fun st => st.frame.toNat) := by
    rw [h.inputs_eq, List.map_append, List.map_map, List.length_append, List.length_map,
      ← List.range'_append_1] at hnumbered
    rw [hledger]
    exact (List.append_inj hnumbered (by simp)).1
  have hframes : (ledgerSteps done pending).map (fun st => st.input.frame) =
      (ledgerSteps done pending).map (fun st => st.frame) := by
    apply List.map_injective_iff.mpr (fun a b => UInt64.toNat_inj.mp)
    rw [List.map_map, List.map_map]
    exact hcut
  have hdone : (done.map AcknowledgedFrame.step).map SteppedFrame.frame =
      done.map (fun p => p.acknowledgement.frame) := by
    rw [List.map_map]
    exact List.map_congr_left fun p hp => (h.matched p hp).symm
  calc inputs.map DSInputFrame.frame
      = (ledgerSteps done pending).map (fun st => st.input.frame) ++
          s.phase.unappended.map DSInputFrame.frame := by
        rw [h.inputs_eq, List.map_append, List.map_map]
        rfl
    _ = (done.map AcknowledgedFrame.step).map SteppedFrame.frame ++
          pending.map SteppedFrame.frame ++ s.phase.unappended.map DSInputFrame.frame := by
        rw [hframes, ledgerSteps, List.map_append]
    _ = done.map (fun p => p.acknowledgement.frame) ++ outstandingFrames s := by
        rw [hdone, outstandingFrames, h.pendingFrames, List.map_map, List.append_assoc]
        rfl

/-- Over a reliable link, with inputs that are tagged with the frames that they were asked for, no
frame is lost between two phones that have passed their handshake. -/
theorem lockstep_conservation (hM : M.faulty = false) (htag : C.Tagged)
    (hexec : exec (LockstepState.step M C D) (.initial hostC hostD) es = some s)
    (hcontroller : .resumed ∈ mainEvents es) (hdisplay : .resumed ∈ displayEvents es) :
    Conservation C D es s := by
  obtain ⟨dropped, hlaws⟩ := lockstepLaws_of_exec hexec
  have hhealthy : Healthy C es s :=
    healthy_of_exec hM htag hexec (not_refused_of_resumed hexec hcontroller hdisplay)
  have hmain := ControllerState.exec_thread (exec_controller hexec)
  have htagged := ControllerThread.tagged htag hmain
  have hstart : .start ∈ received (displayEvents es) := by
    obtain ⟨snapshot, stateHash, post, hpost⟩ :=
      hlaws.display.passed.resolve_right fun hnot => hnot.1.1 hdisplay
    rw [← hpost, received_append]
    refine List.mem_append_left _ ?_
    exact List.mem_cons_of_mem _ (List.mem_cons_of_mem _ (List.mem_singleton_self _))
  have hsent : .start ∈ sent (mainEvents es) := by
    rw [hlaws.toDisplay]
    exact List.mem_append_left _ hstart
  obtain ⟨done, pending, inputs, fin, tail, hlog, htail⟩ := hhealthy.controller_log hlaws hsent
  obtain ⟨rs, extra, others, hdes, hacks⟩ :=
    hlaws.acknowledgements hlog.received_eq hlog.consumed_eq
  obtain ⟨snapshot, stateHash, extra', hreceived, hworking⟩ := hdes.started hstart hhealthy.display
  obtain ⟨stateHash', hsentEq⟩ := hlog.sent_eq
  have hinputs : (rs.map DisplayRound.input).map TwoPhoneMessage.input ++
      (extra' ++ s.link.incoming .right) = inputs.map .input ++ fin := by
    have hlink := hlaws.toDisplay
    rw [hsentEq, hreceived] at hlink
    simp only [List.append_assoc, List.cons_append, List.nil_append, List.cons.injEq,
      true_and] at hlink
    simp only [List.map_map]
    exact hlink.2.2.symm
  -- Each frame is counted on both sides: once by its acknowledgement, once by its input.
  have hframesBack : done.map (fun p => p.acknowledgement.frame) ++
      (acknowledgedFrames s.controller.inbox.messages ++
        acknowledgedFrames s.controller.reader.held ++
        acknowledgedFrames (s.link.incoming .left)) =
      rs.map (fun r => r.input.frame) := by
    have h := congrArg acknowledgedFrames hacks
    have htail' : acknowledgedFrames tail = [] := by
      rcases htail with rfl | ⟨rfl, -⟩ <;> rfl
    have hothers : acknowledgedFrames others = [] := by
      rcases hdes.finished with rfl | ⟨rfl, -⟩ <;> rfl
    have hdropped : acknowledgedFrames dropped = [] := by
      rw [hhealthy.dropped_eq_nil hexec hlaws]
      rfl
    simp only [acknowledgedFrames_append, acknowledgedFrames_map, htail', hothers, hdropped,
      List.nil_append, List.append_nil] at h
    rw [List.map_map, List.map_map] at h
    exact h
  have hframesForth : rs.map (fun r => r.input.frame) ++
      (s.display.phase.workingFrames ++ inputFrames (s.link.incoming .right)) =
      inputs.map DSInputFrame.frame := by
    have h := congrArg inputFrames hinputs
    have hfin : inputFrames fin = [] := by
      rcases hlog.finished with rfl | ⟨-, -, _, _, _, -, -, rfl⟩ <;> rfl
    simp only [inputFrames_append, inputFrames_map, hworking, hfin, List.append_nil] at h
    rw [List.map_map] at h
    exact h
  have hsum := hlog.inputs_frames htagged
  have hconserved : outstandingFrames s.controller.thread = framesBetween s := by
    rw [← hframesForth, ← hframesBack, List.append_assoc] at hsum
    have hcancel := List.append_cancel_left hsum
    rw [← hcancel, framesBetween]
    simp only [List.append_assoc]
  obtain ⟨rounds, current, haccount⟩ := hlaws.display.account
  refine ⟨?_, ?_, ?_, hconserved, ?_, ?_⟩
  · rw [haccount.steps]
    exact haccount.scheduled
  · exact hlaws.display_inputs
  · rw [haccount.steps]
    intro st hst
    obtain ⟨r, -, rfl⟩ := List.mem_map.mp hst
    rfl
  · have hnumbered := hlog.numbered htagged
    have hcount : (consumed (mainEvents es)).countP (fun m => m.acknowledgement?.isSome) =
        done.length := by
      have htail' : tail.countP (fun m => m.acknowledgement?.isSome) = 0 := by
        rcases htail with rfl | ⟨rfl, -⟩ <;> rfl
      rw [hlog.consumed_eq, List.countP_append, htail', List.countP_map]
      exact List.countP_eq_length.mpr fun p _ => rfl
    have hlen := congrArg List.length hsum
    rw [List.length_map, List.length_append, List.length_map] at hlen
    have hsplit : (done.map fun p => p.acknowledgement.frame).map UInt64.toNat ++
        (outstandingFrames s.controller.thread).map UInt64.toNat =
        List.range' 1 done.length ++
          List.range' (1 + done.length) (outstandingFrames s.controller.thread).length := by
      rw [List.range'_append_1, ← hlen, ← hnumbered, ← List.map_append, ← hsum, List.map_map]
      rfl
    rw [hcount, Nat.add_comm done.length]
    exact (List.append_inj hsplit (by simp)).2
  · rw [outstandingFrames, List.length_append, List.length_map, List.length_map, hlog.pendingFrames,
      List.length_map]
    exact hlog.short

end

/-- `lockstep_conservation` where the display works on the first frame and the input of the second
is on its way. -/
theorem lockstep_conservation_two_frames :
    ∃ es s, outstandingFrames (s : LockstepState Unit Unit).controller.thread = [1, 2] ∧
      s.display.phase.workingFrames = [1] ∧
      Conservation fixedDigestSession fixedDigestSession es s := by
  let frame (f : UInt64) : List SessionEvent :=
    [.provided f ⟨f, 0, 0, 0, false⟩, .operation (.sent (.input ⟨f, 0, 0, 0, false⟩)),
      .stepped f ⟨f, 0, 0, 0, false⟩ false (some ⟨0, 0, 0, 0⟩)]
  let es : List LockstepEvent := lockstepHandshake fixedDigestSession fixedDigestSession [] 0 ++
    (frame 1 ++ frame 2).map (fun e => .controller (.main e)) ++
    [.display (.operation (.received (.input ⟨1, 0, 0, 0, false⟩)))]
  have hrun : ((exec (LockstepState.step {} fixedDigestSession fixedDigestSession)
      (.initial () ()) es).map fun s => (outstandingFrames s.controller.thread,
        s.display.phase.workingFrames)) = some ([1, 2], [1]) := by
    decide +kernel
  obtain ⟨s, hs, hframes⟩ := Option.map_eq_some_iff.mp hrun
  obtain ⟨houtstanding, hworking⟩ := Prod.mk.inj hframes
  exact ⟨es, s, houtstanding, hworking,
    lockstep_conservation rfl (fun _ _ => rfl) hs (by decide +kernel) (by decide +kernel)⟩

end DSEmu

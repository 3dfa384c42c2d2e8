import DSEmu.Lockstep.Health
import DSEmu.Session.PassedProof

/-!
# The two phones return the same outcome

Whenever the controller returns an outcome, the display has taken its finish, has acknowledged it,
and returns an outcome that agrees with the controller's (`outcome_agreement`). Nothing is assumed
about the link but that it delivers what it delivers in order: an operation may fail at any time.
Nor is anything assumed about the digests, or about the inputs.
-/

namespace DSEmu

open Automaton (exec)
open Duplex (Medium)

section

variable {σ τ : Type} (C : TwoPhoneSession σ) (D : TwoPhoneSession τ)

/-- The two sides have the same schedule of checkpoints. -/
def SameSchedule : Prop :=
  C.configuration.checkpointInterval = D.configuration.checkpointInterval ∧
    C.configuration.testFrameLimit = D.configuration.testFrameLimit

/-- What a run of the two phones says about their outcomes. -/
structure OutcomeAgreement (es : List LockstepEvent) (s : LockstepState σ τ) : Prop where
  /-- when the controller returns an outcome, the display has taken the finish, has acknowledged it,
  and returns an outcome that agrees with it -/
  returned : ∀ o, s.controller.thread.Returns o →
    (received (displayEvents es)).getLast? = some (.finish o.framesCompleted o.success o.detail) ∧
      (sent (displayEvents es)).getLast? = some .finishAcknowledgement ∧
      ∃ o', s.display.Returns o' ∧ o'.success = o.success ∧
        o'.framesCompleted = o.framesCompleted ∧ o'.detail = o.detail ∧
        o'.snapshotBytes = o.snapshotBytes ∧
        (SameSchedule C D → o'.checkpointsCompared = o.checkpointsCompared ∧
          (o.success = true → o'.finalDigest = o.finalDigest))
  /-- the display's check of the frame of a finish cannot fail -/
  frame : s.display.phase = .receiving → ∀ frame success detail rest,
    s.link.incoming .right = .finish frame success detail :: rest →
      frame = s.display.framesCompleted
  /-- what the controller takes from its inbox after the finish is the finish acknowledgement -/
  answer : ∀ success detail, s.controller.thread.phase = .awaitingFinish success detail →
    ∀ m rest, s.controller.inbox.messages = m :: rest → m = .finishAcknowledgement

variable {C D} {M : Medium} {es : List LockstepEvent} {s : LockstepState σ τ} {hostC : σ}
  {hostD : τ}

/-- The digest of the last checkpoint is one of the acknowledgements', where each frame that has a
digest asked for has the digest of its acknowledgement. -/
theorem lastCheckpointDigest_eq {α : Type} {xs : List α} {step : α → SteppedFrame}
    (acknowledgement : α → FrameAcknowledgement) {c : TwoPhoneConfiguration}
    (hasked : ∀ x ∈ xs, (step x).needsDigest = c.shouldCreateDigest (acknowledgement x).frame)
    (hdigest : ∀ x ∈ xs, (step x).needsDigest = true →
      (step x).digest = (acknowledgement x).digest) :
    lastCheckpointDigest (xs.map step) =
      (((xs.map acknowledgement).filter fun a =>
        c.shouldCreateDigest a.frame).getLast?.bind FrameAcknowledgement.digest) := by
  induction xs using List.reverseRecOn with
  | nil => rfl
  | append_singleton xs x ih =>
    have hlast : x ∈ xs ++ [x] := List.mem_append_right _ (List.mem_singleton_self x)
    rw [List.map_append, List.map_singleton, lastCheckpointDigest_concat, hasked x hlast,
      ih (fun y hy => hasked y (List.mem_append_left _ hy))
        (fun y hy => hdigest y (List.mem_append_left _ hy)),
      List.map_append, List.map_singleton, List.filter_append]
    cases hneeds : c.shouldCreateDigest (acknowledgement x).frame with
    | false => simp [hneeds]
    | true =>
      have hd := hdigest x hlast ((hasked x hlast).trans hneeds)
      simp [hneeds, hd]

variable (C D) in
/-- A run whose controller returns an outcome: the frames that the controller has acknowledgements
for are the display's rounds, and the finish that closes the session has been answered. -/
structure FinishedRun (es : List LockstepEvent) (s : LockstepState σ τ)
    (done : List AcknowledgedFrame) (rs : List DisplayRound) (success : Bool) (detail : String) :
    Prop where
  idle : ∃ pre, ControllerIdle C 0 pre done [] s.controller.thread
  concluded : ControllerConcluded C s.controller.thread done success detail
  rounds : DisplayIdle D rs s.display
  returns : s.display.Returns (s.display.outcome success detail)
  frame : s.controller.thread.frame = s.display.framesCompleted
  snapshot : s.controller.thread.snapshot = s.display.snapshot
  inputs : rs.map DisplayRound.input = (done.map AcknowledgedFrame.step).map SteppedFrame.input
  acknowledgements : done.map AcknowledgedFrame.acknowledgement =
    rs.map DisplayRound.acknowledgement
  controller_steps : steps (mainEvents es) = done.map AcknowledgedFrame.step
  display_steps : steps (displayEvents es) = roundSteps D rs
  last_received : (received (displayEvents es)).getLast? =
    some (.finish s.display.framesCompleted success detail)
  last_sent : (sent (displayEvents es)).getLast? = some .finishAcknowledgement

/-- Where the controller returns an outcome, the run is finished. -/
theorem finishedRun_of_exec {o : TwoPhoneSessionOutcome}
    (hexec : exec (LockstepState.step M C D) (.initial hostC hostD) es = some s)
    (ho : s.controller.thread.Returns o) :
    ∃ done rs success detail, o = s.controller.thread.outcome success detail ∧
      FinishedRun C D es s done rs success detail := by
  obtain ⟨dropped, hlaws⟩ := lockstepLaws_of_exec hexec
  obtain ⟨pre, done, success, detail, idle, concluded, rfl, hsent, hreceived, hconsumed, hsteps⟩ :=
    hlaws.controller.returned ho
  have hfinish := hlaws.sent_of_consumed (hlaws.controller.consumed_finish ho)
  obtain ⟨_, _, _, _, -, -, -, hreturns⟩ :=
    DisplayThread.finished_of_sent (exec_display hexec) hfinish
  obtain ⟨rs, stateHashD, success', detail', idleD, houtcome, hsentD, hreceivedD, hstepsD⟩ :=
    hlaws.display.returned hreturns
  rw [houtcome] at hreturns
  obtain ⟨stateHash, hreceivedPre, hsentPre, -⟩ := idle.messages_eq
  -- The messages to the display give the snapshot, the inputs, and the finish.
  have hforth := hlaws.toDisplay
  rw [hsent, hsentPre, hreceivedD] at hforth
  simp only [List.append_assoc, List.cons_append, List.nil_append, List.cons.injEq,
    TwoPhoneMessage.snapshot.injEq, true_and] at hforth
  obtain ⟨-, ⟨hsnapshot, -⟩, hforth⟩ := hforth
  have hinputs : (rs.map DisplayRound.input).map TwoPhoneMessage.input ++
      .finish s.display.framesCompleted success' detail' :: s.link.incoming .right =
      ((ledgerSteps done []).map SteppedFrame.input).map .input ++
        [.finish s.controller.thread.frame success detail] := by
    simp only [List.map_map]
    exact hforth.symm
  have hothers : ∀ x ∈ [TwoPhoneMessage.finish s.controller.thread.frame success detail],
      ∀ input, x ≠ .input input := by
    intro x hx input
    rw [List.mem_singleton.mp hx]
    exact nofun
  rcases map_append_cons_eq (fun _ _ => TwoPhoneMessage.input.inj) hothers hinputs with
    ⟨_, _, -, hm⟩ | ⟨hinputsEq, hm⟩
  · exact absurd hm nofun
  obtain ⟨hframe, rfl, rfl⟩ := TwoPhoneMessage.finish.inj (List.cons.inj hm).1
  -- The messages back give the acknowledgements.
  have hback := hlaws.toController
  rw [hsentD, hreceived, hreceivedPre, hconsumed, idle.consumed_eq] at hback
  have hacks : (done.map AcknowledgedFrame.acknowledgement).map TwoPhoneMessage.acknowledgement ++
      .finishAcknowledgement :: (s.controller.inbox.messages ++ s.controller.reader.held ++
        dropped ++ s.link.incoming .left) =
      (rs.map DisplayRound.acknowledgement).map .acknowledgement ++ [.finishAcknowledgement] := by
    simp only [List.append_assoc, List.cons_append, List.nil_append, List.cons.injEq,
      true_and] at hback
    simp only [List.map_map, List.append_assoc]
    exact hback.2.symm
  have hothers' : ∀ x ∈ [TwoPhoneMessage.finishAcknowledgement], ∀ a,
      x ≠ .acknowledgement a := by
    intro x hx a
    rw [List.mem_singleton.mp hx]
    exact nofun
  rcases map_append_cons_eq (fun _ _ => TwoPhoneMessage.acknowledgement.inj) hothers' hacks with
    ⟨_, _, -, hm'⟩ | ⟨hacksEq, -⟩
  · exact absurd hm' nofun
  have hledger : ledgerSteps done [] = done.map AcknowledgedFrame.step := List.append_nil _
  refine ⟨done, rs, _, _, rfl, ⟨pre, idle⟩, concluded, idleD, hreturns, hframe, hsnapshot,
    hledger ▸ hinputsEq.symm, hacksEq.symm, ?_, hstepsD, ?_, ?_⟩
  · rw [hsteps, idle.steps_eq, hledger]
  · rw [hreceivedD, List.getLast?_concat]
  · rw [hsentD, List.getLast?_concat]

/-- The outcomes of the two phones agree, in every run over any link. -/
theorem outcome_agreement
    (hexec : exec (LockstepState.step M C D) (.initial hostC hostD) es = some s) :
    OutcomeAgreement C D es s := by
  obtain ⟨dropped, hlaws⟩ := lockstepLaws_of_exec hexec
  refine ⟨?_, ?_, ?_⟩
  · intro o ho
    obtain ⟨done, rs, success, detail, rfl, hrun⟩ := finishedRun_of_exec hexec ho
    obtain ⟨pre, idle⟩ := hrun.idle
    refine ⟨?_, hrun.last_sent, _, hrun.returns, rfl, hrun.frame.symm, rfl,
      congrArg List.length hrun.snapshot.symm, ?_⟩
    · rw [hrun.last_received]
      exact congrArg (fun f => some (TwoPhoneMessage.finish f success detail)) hrun.frame.symm
    -- With one schedule both phones count the same checkpoints, and keep the same last digest.
    · rintro ⟨hinterval, hlimit⟩
      have hsame : D.configuration.shouldCreateDigest = C.configuration.shouldCreateDigest := by
        funext f
        rw [TwoPhoneConfiguration.shouldCreateDigest, TwoPhoneConfiguration.shouldCreateDigest,
          hinterval, hlimit]
      have hscheduled : Scheduled C.configuration (done.map AcknowledgedFrame.step) := by
        have hledger := idle.scheduled
        rwa [ledgerSteps, List.append_nil] at hledger
      have hlen := congrArg List.length hrun.inputs
      simp only [List.length_map] at hlen
      refine ⟨?_, fun hsuccess => ?_⟩
      · change s.display.checkpoints = s.controller.thread.checkpoints
        rw [hrun.rounds.checkpoints, idle.checkpoints, hrun.rounds.scheduled.checkpointCount_eq,
          hscheduled.checkpointCount_eq, hsame, roundSteps_length, List.length_map, hlen]
      · have hverified : ∀ p ∈ done, p.Verified := by
          rcases hrun.concluded with ⟨-, hverified, -⟩ | ⟨hfalse, -⟩
          · exact hverified
          · exact absurd (hfalse.symm.trans hsuccess) (by decide)
        change s.display.lastDigest = s.controller.thread.lastDigest
        rw [hrun.rounds.lastDigest, idle.lastDigest, roundSteps,
          lastCheckpointDigest_eq DisplayRound.acknowledgement
            (c := C.configuration) (fun r _ => congrFun hsame r.input.frame) (fun _ _ _ => rfl),
          lastCheckpointDigest_eq AcknowledgedFrame.acknowledgement
            (c := C.configuration) ?_ (fun p hp hneeds => (hverified p hp hneeds).2.symm),
          hrun.acknowledgements]
        intro p hp
        have hasked := hscheduled.asked p.step (List.mem_map_of_mem hp)
        rw [hasked, idle.matched p hp]
  · intro hp frame success detail rest hin
    rcases hlaws.next_message hp hin with ⟨_, _, _, _, _, _, _, -, -, hm⟩ | ⟨_, _, hm⟩
    · contradiction
    · exact (TwoPhoneMessage.finish.inj hm).1
  · intro success detail hp m rest hmessages
    exact hlaws.next_finish hp hmessages

end

/-- A whole run of one frame. -/
def oneFrameLockstep : List LockstepEvent :=
  let input : DSInputFrame := ⟨1, 0, 0, 0, false⟩
  let digest : Option EmulatorDigest := some ⟨0, 0, 0, 0⟩
  let acknowledgement : TwoPhoneMessage := .acknowledgement ⟨1, digest, 0⟩
  let finish : TwoPhoneMessage := .finish 1 true "All 1 state and framebuffer checkpoints matched"
  let read (m : TwoPhoneMessage) : List LockstepEvent :=
    [.controller (.reader .checked), .controller (.reader (.operation (.received m))),
      .controller (.reader .queued), .controller (.main (.next m))]
  lockstepHandshake oneFrameSession oneFrameSession [] 0 ++
    [.controller (.main (.provided 1 input)),
      .controller (.main (.operation (.sent (.input input)))),
      .controller (.main (.stepped 1 input true digest)),
      .display (.operation (.received (.input input))), .display (.clockRead 0),
      .display (.stepped 1 input true digest), .display (.clockRead 0),
      .display (.operation (.sent acknowledgement))] ++ read acknowledgement ++
    [.controller (.main (.operation (.sent finish))), .display (.operation (.received finish)),
      .display (.operation (.sent .finishAcknowledgement)), .display .deactivated,
      .display (.operation .closed)] ++ read .finishAcknowledgement ++
    [.controller (.main .inboxStopped), .controller (.main (.operation .closed)),
      .controller (.main .deactivated), .controller (.main (.operation .closed))]

/-- `outcome_agreement` on a whole run of one frame. -/
theorem outcome_agreement_one_frame :
    ∃ s o, (s : LockstepState Unit Unit).controller.thread.phase = .ended (.ok o) ∧
      OutcomeAgreement oneFrameSession oneFrameSession oneFrameLockstep s := by
  have hrun : ((exec (LockstepState.step {} oneFrameSession oneFrameSession) (.initial () ())
      oneFrameLockstep).bind fun s => s.controller.thread.phase.outcome?).isSome = true := by
    decide +kernel
  obtain ⟨o, ho⟩ := Option.isSome_iff_exists.mp hrun
  obtain ⟨s, hs, hphase⟩ := Option.bind_eq_some_iff.mp ho
  exact ⟨s, o, ControllerPhase.outcome?_eq_some.mp hphase, outcome_agreement hs⟩

end DSEmu

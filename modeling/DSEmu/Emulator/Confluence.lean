import DSEmu.Emulator.Reconnect
import DSEmu.Lockstep.Progress

/-!
# The outcome of two emulators does not depend on the schedule

Two phones that run the same console from the same snapshot have the same console after each frame,
so the digests of a frame agree where both phones make one. What is left to fail is a checkpoint of
the controller at which the display makes no digest: the two schedules are configured on each phone
(`Covered`). Over a reliable link every complete run therefore ends the same way (`Verdict`),
whatever the window, the capacity of the link, and the interleaving: with success at the frame
limit, or at the first checkpoint that is not covered.
-/

namespace DSEmu

open Automaton (exec)
open Duplex (Medium)

/-- Where frame `f` is a checkpoint of the controller with frame limit `n`, the display makes a
digest of it. -/
def Covered (c d : TwoPhoneConfiguration) (n f : UInt64) : Prop :=
  f % c.checkpointInterval = 0 ∨ f = n → f % d.checkpointInterval = 0 ∨ d.testFrameLimit = some f

/-- The two schedules say the same. -/
theorem covered_iff {c d : TwoPhoneConfiguration} {n f : UInt64}
    (hlimit : c.testFrameLimit = some n) :
    Covered c d n f ↔ (c.shouldCreateDigest f = true → d.shouldCreateDigest f = true) := by
  unfold Covered TwoPhoneConfiguration.shouldCreateDigest
  rw [hlimit]
  simp only [Bool.or_eq_true, beq_iff_eq, Option.some.injEq, eq_comm (a := n)]

section

variable {σ τ : Type}

/-- How every complete run ends: on both phones with the same verdict, at the same frame. -/
structure Verdict (c d : TwoPhoneConfiguration) (n : UInt64) (s : LockstepState σ τ) : Prop where
  /-- where every checkpoint is covered, both phones succeed at the frame limit -/
  passes : (∀ f, 1 ≤ f → f ≤ n → Covered c d n f) → ∃ o o',
    s.controller.thread.phase = .ended (.ok o) ∧ s.display.phase = .ended (.ok o') ∧
      o.success = true ∧ o.framesCompleted = n ∧ o'.success = true ∧ o'.framesCompleted = n
  /-- otherwise both fail at the first one that is not, for want of its digest -/
  fails : ∀ f, 1 ≤ f → f ≤ n → ¬ Covered c d n f → (∀ g, 1 ≤ g → g < f → Covered c d n g) →
    ∃ o o', s.controller.thread.phase = .ended (.ok o) ∧ s.display.phase = .ended (.ok o') ∧
      o.success = false ∧ o.framesCompleted = f ∧
      o.detail = ControllerThread.missingDigestDetail f ∧
      o'.success = false ∧ o'.framesCompleted = f ∧
      o'.detail = ControllerThread.missingDigestDetail f
  /-- and no outcome reports a state mismatch -/
  matched : ∀ o frame localDigest remoteDigest,
    s.controller.thread.phase = .ended (.ok o) ∨ s.display.phase = .ended (.ok o) →
    o.detail ≠ ControllerThread.mismatchDetail frame localDigest remoteDigest

end

/-- The text of a mismatch is none of the others. -/
theorem mismatchDetail_ne (frame : UInt64) (localDigest remoteDigest : EmulatorDigest) :
    (∀ checkpoints, ControllerThread.passedDetail checkpoints ≠
        ControllerThread.mismatchDetail frame localDigest remoteDigest) ∧
      ∀ frame', ControllerThread.missingDigestDetail frame' ≠
        ControllerThread.mismatchDetail frame localDigest remoteDigest := by
  have hfirst : (ControllerThread.mismatchDetail frame localDigest remoteDigest).toList.head? =
      some 'S' := by
    unfold ControllerThread.mismatchDetail
    simp only [String.toList_append]
    rfl
  refine ⟨fun checkpoints h => ?_, fun frame' h => ?_⟩
  · have hother : (ControllerThread.passedDetail checkpoints).toList.head? = some 'A' := by
      unfold ControllerThread.passedDetail
      simp only [String.toList_append]
      rfl
    rw [h, hfirst] at hother
    exact absurd hother (by decide)
  · have hother : (ControllerThread.missingDigestDetail frame').toList.head? = some 'M' := by
      unfold ControllerThread.missingDigestDetail
      simp only [String.toList_append]
      rfl
    rw [h, hfirst] at hother
    exact absurd hother (by decide)

section

variable {ν ι κ : Type} {melonDS : MelonDS ν} {coreC : EmulatorCore ι} {coreD : EmulatorCore κ}
  {hostC : EmulatorCore.Phone ν ι} {hostD : EmulatorCore.Phone ν κ} {M : Medium}
  {es : List LockstepEvent}
  {s : LockstepState (EmulatorCore.Phone ν ι) (EmulatorCore.Phone ν κ)}

/-- Two emulators with the same ROM accept each other, where the controller's console can be
saved. -/
theorem EmulatorCore.accepts (hrestores : melonDS.RestoresSnapshots)
    (hrom : coreC.loadedROMHash = coreD.loadedROMHash) {snapshot : Data}
    (hmade : melonDS.savestateBuffer hostC.bridge.nds = some snapshot) :
    Accepts (coreC.twoPhoneSession melonDS) (coreD.twoPhoneSession melonDS) hostC hostD := by
  obtain ⟨hbuffer, hne⟩ := Option.filter_eq_some_iff.mp hmade
  have hload : ∀ b : Bridge ν, melonDS.melondsLoadStateFromBuffer snapshot b =
      (true, { b with nds := hostC.bridge.nds }) := by
    intro b
    rw [MelonDS.melondsLoadStateFromBuffer, if_neg (of_decide_eq_true hne),
      hrestores hostC.bridge.nds b.nds snapshot hbuffer]
  have hmakes : EmulatorCore.makeSnapshot melonDS (MelonDS.pause hostC.bridge) = .ok snapshot := by
    have hpaused : melonDS.savestateBuffer (MelonDS.pause hostC.bridge).nds = some snapshot := hmade
    rw [EmulatorCore.makeSnapshot, hpaused]
  have hloads : EmulatorCore.loadSnapshot melonDS snapshot (MelonDS.pause hostD.bridge) =
      (.ok (), ⟨hostC.bridge.nds, true⟩) := by
    rw [EmulatorCore.loadSnapshot, hload]
    rfl
  refine ⟨hrom, snapshot, melonDS.melondsStateHash hostC.bridge.nds,
    ⟨{ hostC with bridge := MelonDS.pause hostC.bridge }, _, ?_, rfl⟩,
    ⟨⟨⟨hostC.bridge.nds, true⟩, hostD.player⟩, _, ?_, rfl⟩⟩
  · simp only [EmulatorCore.twoPhoneSession, hmakes]
  · simp only [EmulatorCore.twoPhoneSession, hloads]

/-- The digest of the frame at a position of a trace is that of the console after the inputs up to
it. -/
theorem Replica.digest {nds : ν} {fs : List SessionEvent} {b : Bridge ν}
    (h : Replica melonDS nds fs b) {i : ℕ} {st : SteppedFrame} (hst : (steps fs)[i]? = some st) :
    st.Digests melonDS (replay melonDS nds ((stepInputs fs).take (i + 1))) := by
  obtain ⟨hi, rfl⟩ := List.getElem?_eq_some_iff.mp hst
  have hcut : steps fs = (steps fs).take i ++ (steps fs)[i] :: (steps fs).drop (i + 1) := by
    rw [List.getElem_cons_drop, List.take_append_drop]
  have hdigests := h.digests _ _ _ hcut
  rwa [List.take_append_getElem, List.map_take] at hdigests

variable {done : List AcknowledgedFrame} {rs : List DisplayRound} {success : Bool}
  {detail : String}

/-- Where both phones make a digest of a frame, it is the same. -/
theorem FinishedRun.digests (hrestores : melonDS.RestoresSnapshots)
    (hexec : exec (LockstepState.step M (coreC.twoPhoneSession melonDS)
      (coreD.twoPhoneSession melonDS)) (.initial hostC hostD) es = some s)
    (hrun : FinishedRun (coreC.twoPhoneSession melonDS) (coreD.twoPhoneSession melonDS) es s done rs
      success detail) {i : ℕ} {p : AcknowledgedFrame} (hp : done[i]? = some p) :
    ∃ digest, p.step.digest = (if p.step.needsDigest then some digest else none) ∧
      p.acknowledgement.digest =
        if coreD.configuration.shouldCreateDigest p.acknowledgement.frame then some digest
        else none := by
  have hstepC : (steps (mainEvents es))[i]? = some p.step := by
    rw [hrun.controller_steps, List.getElem?_map, hp]
    rfl
  -- the round of the display with the acknowledgement of the frame
  have hround : (rs.map DisplayRound.acknowledgement)[i]? = some p.acknowledgement := by
    rw [← hrun.acknowledgements, List.getElem?_map, hp]
    rfl
  rw [List.getElem?_map, Option.map_eq_some_iff] at hround
  obtain ⟨r, hr, hack⟩ := hround
  have hstepD : (steps (displayEvents es))[i]? =
      some (r.step (coreD.twoPhoneSession melonDS)) := by
    rw [hrun.display_steps, roundSteps, List.getElem?_map, hr]
    rfl
  have hinputs : stepInputs (displayEvents es) = stepInputs (mainEvents es) := by
    rw [stepInputs, stepInputs, hrun.display_steps, hrun.controller_steps, ← hrun.inputs,
      roundSteps,
      List.map_map]
    rfl
  have hinput : r.input = p.step.input := by
    have hboth := congrArg (fun l => l[i]?) hrun.inputs
    simp only [List.getElem?_map, hr, hp, Option.map_some, Option.some.injEq] at hboth
    exact hboth
  have hsteps : steps (displayEvents es) ≠ [] := by
    intro hnone
    rw [hnone] at hstepD
    contradiction
  have hC := (controller_replica (exec_main hexec)).digest hstepC
  have hD := (lockstep_replica hrestores hexec hsteps).digest hstepD
  rw [hinputs] at hD
  refine ⟨_, hC, ?_⟩
  rw [← hack, ← hinput]
  exact hD

/-- The frame of an acknowledgement is the frame that it is for, counted from 1. -/
theorem FinishedRun.frame_eq {σ τ : Type} {C : TwoPhoneSession σ} {D : TwoPhoneSession τ}
    {s : LockstepState σ τ} (hrun : FinishedRun C D es s done rs success detail) {i : ℕ}
    {p : AcknowledgedFrame} (hp : done[i]? = some p) :
    p.acknowledgement.frame = p.step.frame ∧ p.step.frame.toNat = i + 1 ∧
      p.step.needsDigest = C.configuration.shouldCreateDigest p.step.frame := by
  obtain ⟨pre, idle⟩ := hrun.idle
  have hscheduled := idle.scheduled
  rw [ledgerSteps, List.append_nil] at hscheduled
  obtain ⟨hi, rfl⟩ := List.getElem?_eq_some_iff.mp hp
  have hmem : done[i] ∈ done := List.getElem_mem hi
  refine ⟨idle.matched _ hmem, ?_, hscheduled.asked _ (List.mem_map_of_mem hmem)⟩
  have hnumber := hscheduled.getElem (i := i) (by rwa [List.length_map])
  rwa [List.getElem_map] at hnumber

/-- The acknowledgement of a frame is verified where the frame is covered; where it is not, the
digest that is missing is the display's. -/
theorem FinishedRun.verified_iff (hrestores : melonDS.RestoresSnapshots)
    (hexec : exec (LockstepState.step M (coreC.twoPhoneSession melonDS)
      (coreD.twoPhoneSession melonDS)) (.initial hostC hostD) es = some s)
    (hrun : FinishedRun (coreC.twoPhoneSession melonDS) (coreD.twoPhoneSession melonDS) es s done rs
      success detail) {n : UInt64} (hlimit : coreC.configuration.testFrameLimit = some n) {i : ℕ}
    {p : AcknowledgedFrame} (hp : done[i]? = some p) :
    (p.Verified ↔ Covered coreC.configuration coreD.configuration n p.step.frame) ∧
      (p.step.needsDigest = true → ControllerThread.digestFailure p.step.pending
        p.acknowledgement.digest =
          if coreD.configuration.shouldCreateDigest p.step.frame then none
          else some (ControllerThread.missingDigestDetail p.step.frame)) := by
  obtain ⟨digest, hlocal, hremote⟩ := hrun.digests hrestores hexec hp
  obtain ⟨hframe, -, hneeds⟩ := hrun.frame_eq hp
  rw [hframe] at hremote
  have hneeds' : p.step.needsDigest = coreC.configuration.shouldCreateDigest p.step.frame := hneeds
  rw [covered_iff hlimit, ← hneeds']
  unfold AcknowledgedFrame.Verified
  refine ⟨?_, fun hasked => ?_⟩
  · -- the two digests are of equal states, so they are equal where the display made one
    refine forall_congr' fun hasked => ?_
    rw [hlocal, hremote, if_pos hasked]
    cases coreD.configuration.shouldCreateDigest p.step.frame <;> simp
  · rw [if_pos hasked] at hlocal
    unfold ControllerThread.digestFailure
    have hpending : p.step.pending.digest = some digest := hlocal
    rw [hpending, hremote]
    cases coreD.configuration.shouldCreateDigest p.step.frame <;> simp [SteppedFrame.pending]

/-- How a session with frame limit `n` has concluded: at the limit with every frame covered, or at
the first frame that is not. -/
theorem FinishedRun.conclusion (hrestores : melonDS.RestoresSnapshots)
    (hexec : exec (LockstepState.step M (coreC.twoPhoneSession melonDS)
      (coreD.twoPhoneSession melonDS)) (.initial hostC hostD) es = some s)
    (hrun : FinishedRun (coreC.twoPhoneSession melonDS) (coreD.twoPhoneSession melonDS) es s done rs
      success detail) {n : UInt64} (hlimit : coreC.configuration.testFrameLimit = some n) :
    (success = true ∧ s.controller.thread.frame = n ∧
        detail = ControllerThread.passedDetail s.controller.thread.checkpoints ∧
        ∀ f, 1 ≤ f → f ≤ n → Covered coreC.configuration coreD.configuration n f) ∨
      (success = false ∧ 1 ≤ s.controller.thread.frame ∧ s.controller.thread.frame ≤ n ∧
        detail = ControllerThread.missingDigestDetail s.controller.thread.frame ∧
        ¬ Covered coreC.configuration coreD.configuration n s.controller.thread.frame ∧
        ∀ f, 1 ≤ f → f < s.controller.thread.frame →
          Covered coreC.configuration coreD.configuration n f) := by
  obtain ⟨pre, idle⟩ := hrun.idle
  have hlength : s.controller.thread.frame.toNat = done.length := by
    rw [idle.frame, List.length_nil]
    rfl
  -- each frame up to a number of the frames done is one of them
  have hcovered : ∀ k ≤ done.length, (∀ p ∈ done.take k, p.Verified) → ∀ f : UInt64, 1 ≤ f →
      f.toNat ≤ k → Covered coreC.configuration coreD.configuration n f := by
    intro k hk hverified f hpos hf
    have hpos' : 1 ≤ f.toNat := UInt64.le_iff_toNat_le.mp hpos
    have hi : f.toNat - 1 < done.length := by omega
    obtain ⟨p, hp⟩ : ∃ p, done[f.toNat - 1]? = some p := ⟨_, List.getElem?_eq_getElem hi⟩
    obtain ⟨-, hnumber, -⟩ := hrun.frame_eq hp
    have hframe : p.step.frame = f := UInt64.toNat_inj.mp (by omega)
    have hmem : p ∈ done.take k := by
      refine List.mem_of_getElem? (i := f.toNat - 1) ?_
      rw [List.getElem?_take, if_pos (by omega)]
      exact hp
    have hiff := (hrun.verified_iff hrestores hexec hlimit hp).1
    rw [hframe] at hiff
    exact hiff.mp (hverified p hmem)
  rcases hrun.concluded with ⟨rfl, hverified, hdetail, hframe⟩ |
    ⟨rfl, init, p, hdone, hverified, hneeds, hfailure⟩
  · left
    have hn : s.controller.thread.frame = n := by
      have hboth : some n = some s.controller.thread.frame := hlimit.symm.trans hframe
      exact (Option.some.inj hboth).symm
    refine ⟨rfl, hn, hdetail, fun f hpos hf => ?_⟩
    refine hcovered done.length (Nat.le_refl _) ?_ f hpos ?_
    · rw [List.take_length]
      exact hverified
    · rw [← hlength, hn]
      exact UInt64.le_iff_toNat_le.mp hf
  · right
    have hcount : done.length = init.length + 1 := by
      rw [hdone, List.length_append, List.length_singleton]
    have hp : done[init.length]? = some p := by
      rw [hdone, List.getElem?_append_right (Nat.le_refl _), Nat.sub_self]
      rfl
    obtain ⟨-, hnumber, -⟩ := hrun.frame_eq hp
    have hframe : p.step.frame = s.controller.thread.frame := UInt64.toNat_inj.mp (by omega)
    obtain ⟨hiff, hfail⟩ := hrun.verified_iff hrestores hexec hlimit hp
    have hfailure' := (hfail hneeds).symm.trans hfailure
    split at hfailure'
    · exact absurd hfailure' nofun
    · rename_i hmissing
      have hbad : ¬ p.Verified := by
        intro hv
        have hnone : ControllerThread.digestFailure p.step.pending p.acknowledgement.digest =
            none := ControllerThread.digestFailure_eq_none.mpr (hv hneeds)
        have hsome : ControllerThread.digestFailure p.step.pending p.acknowledgement.digest =
            some detail := hfailure
        exact absurd (hnone.symm.trans hsome) nofun
      rw [hframe] at hiff hfailure'
      refine ⟨rfl, UInt64.le_iff_toNat_le.mpr ?_, idle.limit n hlimit,
        (Option.some.inj hfailure').symm, fun hc => hbad (hiff.mpr hc), fun f hpos hf => ?_⟩
      · show 1 ≤ s.controller.thread.frame.toNat
        omega
      · have hf' := UInt64.lt_iff_toNat_lt.mp hf
        refine hcovered init.length (by omega) ?_ f hpos (by omega)
        rw [hdone, List.take_left' rfl]
        exact hverified

/-- Every complete run of two emulators that accept each other, over a reliable link, ends with the
verdict of the two schedules: one in which both have returned, or one that cannot go on, unless it
is for a counter of checkpoints that is out of range. -/
theorem lockstep_verdict (hM : M.faulty = false) (hcapacity : ∀ x, ∀ c ∈ M.capacity x, 0 < c)
    (hrestores : melonDS.RestoresSnapshots) (htags : EmulatorCore.Tags coreC.inputProvider)
    (hrom : coreC.loadedROMHash = coreD.loadedROMHash)
    (hmade : (melonDS.savestateBuffer hostC.bridge.nds).isSome) {n : UInt64}
    (hlimit : coreC.configuration.testFrameLimit = some n)
    (hexec : exec (LockstepState.step M (coreC.twoPhoneSession melonDS)
      (coreD.twoPhoneSession melonDS)) (.initial hostC hostD) es = some s)
    (hcomplete : ((∀ e, s.step M (coreC.twoPhoneSession melonDS) (coreD.twoPhoneSession melonDS) e =
        none) ∧ ¬ s.Overcounted) ∨
      ((∃ result, s.controller.thread.phase = .ended result) ∧
        ∃ result, s.display.phase = .ended result)) :
    Verdict coreC.configuration coreD.configuration n s := by
  obtain ⟨snapshot, hmade⟩ := Option.isSome_iff_exists.mp hmade
  have haccepts : Accepts (coreC.twoPhoneSession melonDS) (coreD.twoPhoneSession melonDS) hostC
      hostD := EmulatorCore.accepts hrestores hrom hmade
  have htagged : (coreC.twoPhoneSession melonDS (ν := ν)).Tagged :=
    fun frame phone => htags frame phone.player
  have healthy := healthy_of_exec hM htagged hexec (not_refused_of_accepts haccepts hexec)
  -- Neither phone fails, so a run that is stuck or ended is one where both return.
  have hreturned : s.Returned := by
    rcases hcomplete with ⟨hstuck, hcounted⟩ | ⟨⟨result, hp⟩, ⟨result', hp'⟩⟩
    · refine returned_of_stuck hcapacity healthy hexec hstuck (fun htrap => ?_) hcounted
      obtain ⟨done, pending, -, -, -, hnone⟩ := healthy.trapped htrap
      exact absurd (hlimit.symm.trans hnone) nofun
    · obtain ⟨o, ho⟩ := ControllerThread.ended_of_never healthy.controller
        (by rw [hp]; exact nofun) (by rw [hp]; rfl)
      obtain ⟨o', ho'⟩ := DisplayThread.ended_of_never healthy.display (by rw [hp']; rfl)
      exact ⟨o, o', ho, ho'⟩
  obtain ⟨o, o', ho, ho'⟩ := hreturned
  obtain ⟨done, rs, success, detail, rfl, hrun⟩ :=
    finishedRun_of_exec hexec (.inr (.inr (.inr (.inr ho))))
  have houtcome : o' = s.display.outcome success detail := by
    rcases hrun.returns with hp | hp | hp <;> rw [hp] at ho'
    · exact absurd ho' nofun
    · exact absurd ho' nofun
    · exact (Except.ok.inj (DisplayPhase.ended.inj ho')).symm
  subst houtcome
  have hconclusion := hrun.conclusion hrestores hexec hlimit
  have hframe := hrun.frame
  -- The run has reached its limit, or it has stopped at the first frame that is not covered.
  refine ⟨fun hall => ?_, fun f hpos hf hbad hleast => ?_, ?_⟩
  · rcases hconclusion with ⟨rfl, hn, -⟩ | ⟨-, hpos, hle, -, hbad, -⟩
    · exact ⟨_, _, ho, ho', rfl, hn, rfl, hframe.symm.trans hn⟩
    · exact absurd (hall _ hpos hle) hbad
  · rcases hconclusion with ⟨-, -, -, hall⟩ | ⟨rfl, hpos', -, rfl, hbad', hleast'⟩
    · exact absurd (hall f hpos hf) hbad
    · have hsame : s.controller.thread.frame = f := by
        rcases Nat.lt_trichotomy s.controller.thread.frame.toNat f.toNat with hlt | heq | hgt
        · exact absurd (hleast _ hpos' (UInt64.lt_iff_toNat_lt.mpr hlt)) hbad'
        · exact UInt64.toNat_inj.mp heq
        · exact absurd (hleast' f hpos (UInt64.lt_iff_toNat_lt.mpr hgt)) hbad
      have hdetail : ControllerThread.missingDigestDetail s.controller.thread.frame =
          ControllerThread.missingDigestDetail f := congrArg _ hsame
      exact ⟨_, _, ho, ho', rfl, hsame, hdetail, rfl, hframe.symm.trans hsame, hdetail⟩
  · intro o frame localDigest remoteDigest hphase
    have hdetail : o.detail = detail := by
      rcases hphase with hp | hp
      · exact congrArg _ (Except.ok.inj (ControllerPhase.ended.inj (hp.symm.trans ho)))
      · exact congrArg _ (Except.ok.inj (DisplayPhase.ended.inj (hp.symm.trans ho')))
    obtain ⟨hpassed, hmissing⟩ := mismatchDetail_ne frame localDigest remoteDigest
    rw [hdetail]
    rcases hconclusion with ⟨-, -, rfl, -⟩ | ⟨-, -, -, rfl, -⟩
    · exact hpassed _
    · exact hmissing _

end

/-- A controller that compares every frame, up to the second one. -/
def everyFrameCore : EmulatorCore Unit :=
  { frameCounterCore with
    configuration := { fixedDigestSession.configuration with
      testFrameLimit := some 2, checkpointInterval := 1, checkpointInterval_pos := by decide } }

/-- A display that compares every second frame. -/
def everySecondFrameCore : EmulatorCore Unit :=
  { frameCounterCore with configuration := alternateSession.configuration }

/-- `lockstep_verdict` for the two of them: a complete run exists, and it fails at the first
frame. -/
theorem lockstep_verdict_every_frame :
    ∃ es s o o', exec (LockstepState.step oneMessageLink
      (everyFrameCore.twoPhoneSession frameCounter)
        (everySecondFrameCore.twoPhoneSession frameCounter))
        (.initial ⟨⟨0, false⟩, ()⟩ ⟨⟨5, false⟩, ()⟩) es = some s ∧
      s.controller.thread.phase = .ended (.ok o) ∧ s.display.phase = .ended (.ok o') ∧
      (o.success, o.framesCompleted) = (false, 1) ∧
        (o'.success, o'.framesCompleted) = (false, 1) := by
  have hcomplete : ∃ es s, exec (LockstepState.step oneMessageLink
        (everyFrameCore.twoPhoneSession frameCounter)
        (everySecondFrameCore.twoPhoneSession frameCounter))
        (.initial ⟨⟨0, false⟩, ()⟩ ⟨⟨5, false⟩, ()⟩) es = some s ∧
      Automaton.Stuck (LockstepState.step oneMessageLink
        (everyFrameCore.twoPhoneSession frameCounter)
        (everySecondFrameCore.twoPhoneSession frameCounter)) s :=
    Automaton.exists_exec_stuck
      (φ := LockstepState.potential (everyFrameCore.twoPhoneSession frameCounter).frameBound)
      (fun _ _ _ _ hpre hs => potential_decreases hpre hs)
  obtain ⟨es, s, hexec, hstuck⟩ := hcomplete
  have hrom : everyFrameCore.loadedROMHash = everySecondFrameCore.loadedROMHash := rfl
  have htags : EmulatorCore.Tags everyFrameCore.inputProvider :=
    EmulatorCore.tags_scriptedInputProvider
  have hcounted : ¬ s.Overcounted :=
    not_overcounted (n := 2) (fun frame phone => htags frame phone.player) hexec rfl (by decide)
  have hverdict := lockstep_verdict (n := 2) rfl oneMessageLink_capacity frameCounter_restores
    htags hrom rfl rfl hexec (.inl ⟨hstuck, hcounted⟩)
  obtain ⟨o, o', ho, ho', hs, hf, -, hs', hf', -⟩ := hverdict.fails 1 (by decide) (by decide)
    (by unfold Covered; decide)
    (fun g hpos hlt => absurd (Nat.lt_of_le_of_lt (UInt64.le_iff_toNat_le.mp hpos)
      (UInt64.lt_iff_toNat_lt.mp hlt)) (Nat.lt_irrefl 1))
  exact ⟨es, s, o, o', hexec, ho, ho', Prod.ext hs hf, Prod.ext hs' hf'⟩

end DSEmu

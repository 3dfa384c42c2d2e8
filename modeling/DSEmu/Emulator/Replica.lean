import DSEmu.Emulator.EmulatorCore
import DSEmu.Lockstep.Accepted
import DSEmu.Lockstep.Conservation

/-!
# The console of a phone in a session

The console of a phone in a session is the console that its snapshot holds, with the frames of the
session run on it in order (`Replica`), and the digests of the frames are those of the consoles that
it passes. On the controller the snapshot is of the console that the session started with
(`controller_replica`), on the display it is the one that was loaded (`display_replica`). Where
loading a snapshot gives back the console that it was made from (`RestoresSnapshots`), the two
phones start from the same console.
-/

namespace DSEmu

open Automaton (exec exec_invariant exec_concat_eq_some statesAfter statesAfter_getElem?)
open SessionEvent (on onSend onReceive onNext)

section

variable {ν ι : Type} (melonDS : MelonDS ν)

/-- Loading a snapshot made from a console, into whatever console, gives that console. -/
def MelonDS.RestoresSnapshots : Prop :=
  ∀ nds nds' snapshot, melonDS.doSavestate nds = some snapshot →
    melonDS.loadSavestate snapshot nds' = (true, nds)

/-- The console after a frame with an input. -/
def frameStep (nds : ν) (input : DSInputFrame) : ν :=
  melonDS.runFrame (EmulatorCore.setInput melonDS input nds)

/-- The console after one frame with each of the inputs. -/
def replay (nds : ν) (inputs : List DSInputFrame) : ν := inputs.foldl (frameStep melonDS) nds

/-- A frame's digest is that of the console after it, if one was asked for. -/
def SteppedFrame.Digests (nds : ν) (st : SteppedFrame) : Prop :=
  st.digest = if st.needsDigest then some (EmulatorCore.digest melonDS st.input.frame nds) else none

/-- The bridge `b` after the trace `es` of a session that started on the console `nds`. -/
structure Replica (nds : ν) (es : List SessionEvent) (b : Bridge ν) : Prop where
  nds_eq : b.nds = replay melonDS nds (stepInputs es)
  running : .resumed ∈ es → b.paused = false
  digests : ∀ pre st post, steps es = pre ++ st :: post →
    st.Digests melonDS (replay melonDS nds ((pre ++ [st]).map SteppedFrame.input))

variable {melonDS} {core : EmulatorCore ι} {nds : ν} {es : List SessionEvent} {e : SessionEvent}

theorem replay_concat (inputs : List DSInputFrame) (input : DSInputFrame) :
    replay melonDS nds (inputs ++ [input]) = frameStep melonDS
      (replay melonDS nds inputs) input := by
  rw [replay, List.foldl_append]
  rfl

/-- `step` on a console that is not paused runs one frame, and returns its digest if one is asked
for. -/
theorem EmulatorCore.step_eq (input : DSInputFrame) (createDigest : Bool) (b : Bridge ν)
    (hb : b.paused = false) :
    EmulatorCore.step melonDS input createDigest b =
      (if createDigest then some (EmulatorCore.digest melonDS input.frame
          (frameStep melonDS b.nds input)) else none,
        { nds := frameStep melonDS b.nds input, paused := false }) := by
  obtain ⟨nds, paused⟩ := b
  subst hb
  rfl

/-- The next frame of a session that runs. -/
theorem Replica.stepped {b : Bridge ν} (h : Replica melonDS nds es b) (hresumed : .resumed ∈ es)
    {frame : UInt64} {input : DSInputFrame} {needsDigest : Bool} {digest : Option EmulatorDigest}
    {b' : Bridge ν} (hstep : EmulatorCore.step melonDS input needsDigest b = (digest, b')) :
    Replica melonDS nds (es ++ [.stepped frame input needsDigest digest]) b' := by
  rw [EmulatorCore.step_eq _ _ _ (h.running hresumed), Prod.mk.injEq] at hstep
  obtain ⟨hdigest, rfl⟩ := hstep
  have hsteps : steps (es ++ [.stepped frame input needsDigest digest]) =
      steps es ++ [⟨frame, input, needsDigest, digest⟩] := by
    rw [steps_append]
    rfl
  have hreplay : replay melonDS nds (stepInputs es ++ [input]) = frameStep melonDS b.nds input := by
    rw [replay_concat, ← h.nds_eq]
  refine ⟨?_, fun _ => rfl, ?_⟩
  · rw [stepInputs, hsteps, List.map_append]
    exact hreplay.symm
  · intro pre st post hcut
    rw [hsteps] at hcut
    -- The digest of the last step is that of the replayed console; the others are as before.
    rcases List.eq_nil_or_concat post with rfl | ⟨post, last, rfl⟩
    · obtain ⟨rfl, hst⟩ := List.append_inj' hcut rfl
      obtain rfl := (List.cons.inj hst).1
      rw [List.map_append]
      unfold SteppedFrame.Digests
      change digest = if needsDigest then some (EmulatorCore.digest melonDS input.frame
        (replay melonDS nds (stepInputs es ++ [input]))) else none
      rw [hreplay, hdigest]
    · have hinit : steps es = pre ++ st :: post := by
        rw [List.concat_eq_append, ← List.cons_append, ← List.append_assoc] at hcut
        exact (List.append_inj' hcut rfl).1
      exact h.digests pre st post hinit

/-- A call that steps no frame and leaves the console alone. -/
theorem Replica.unstepped {b b' : Bridge ν} (h : Replica melonDS nds es b)
    (hstepped : e.stepped? = none) (hnds : b'.nds = b.nds)
    (hrunning : .resumed ∈ es ∨ e = .resumed → b'.paused = false) :
    Replica melonDS nds (es ++ [e]) b' := by
  have hsteps : steps (es ++ [e]) = steps es := by
    rw [steps_append, steps, steps, List.filterMap_cons_none hstepped]
    exact List.append_nil _
  refine ⟨?_, fun hmem => hrunning ?_, ?_⟩
  · rw [stepInputs, hsteps, hnds]
    exact h.nds_eq
  · exact (List.mem_append.mp hmem).imp_right fun hlast => (List.mem_singleton.mp hlast).symm
  · intro pre st post hcut
    exact h.digests pre st post (hsteps ▸ hcut)

/-- What a call does to the console: a callback steps a frame, or none touches it, unless it loads a
snapshot. -/
theorem Replica.host {phone phone' : EmulatorCore.Phone ν ι}
    (h : Replica melonDS nds es phone.bridge)
    (hstep : (EmulatorCore.twoPhoneSession melonDS core).hostStep phone e =
      some phone')
    (hprepared : e = .prepared → .resumed ∉ es) (hstepped : e.stepped?.isSome → .resumed ∈ es)
    (hloaded : ∀ snapshot result, e ≠ .loadedSnapshot snapshot result) :
    Replica melonDS nds (es ++ [e]) phone'.bridge := by
  -- Only a step, a preparation and a resumption touch the bridge.
  have hinert : e.stepped? = none → e ≠ .resumed → phone'.bridge = phone.bridge →
      Replica melonDS nds (es ++ [e]) phone'.bridge := by
    intro hnone hne heq
    rw [heq]
    exact h.unstepped hnone rfl fun hmem => h.running (hmem.resolve_right hne)
  cases e with
  | prepared =>
    obtain rfl := Option.some.inj hstep
    exact h.unstepped rfl rfl fun hmem => absurd (hmem.resolve_right nofun) (hprepared rfl)
  | resumed =>
    obtain rfl := Option.some.inj hstep
    exact h.unstepped rfl rfl fun _ => rfl
  | loadedSnapshot snapshot result => exact absurd rfl (hloaded snapshot result)
  | madeSnapshot result =>
    obtain ⟨-, rfl⟩ := Prod.mk.inj (hostStep_madeSnapshot.mp hstep)
    exact hinert rfl nofun rfl
  | hashed stateHash =>
    obtain ⟨-, rfl⟩ := Prod.mk.inj (hostStep_hashed.mp hstep)
    exact hinert rfl nofun rfl
  | provided frame input =>
    obtain ⟨-, rfl⟩ := Prod.mk.inj (hostStep_provided.mp hstep)
    exact hinert rfl nofun rfl
  | stepped frame input needsDigest digest =>
    obtain ⟨hdigest, rfl⟩ := Prod.mk.inj (hostStep_stepped.mp hstep)
    exact h.stepped (hstepped rfl) (Prod.ext hdigest rfl)
  | _ =>
    obtain rfl := Option.some.inj hstep
    exact hinert rfl nofun rfl

end

section Controller

variable {σ : Type} {S : TwoPhoneSession σ} {es : List SessionEvent} {s t : ControllerThread σ}
  {e : SessionEvent}

/-- Where the controller's calls that touch the console stand in its trace. -/
theorem ControllerTrace.console (h : ControllerTrace S es s) (hs : s.step S e = some t) :
    (e = .prepared → .resumed ∉ es) ∧ (e.stepped?.isSome → .resumed ∈ es) ∧
      ∀ snapshot result, e ≠ .loadedSnapshot snapshot result := by
  replace hs := ControllerThread.call_of_step hs
  unfold ControllerThread.call at hs
  unfold ControllerTrace at h
  refine ⟨?_, ?_, ?_⟩
  · rintro rfl
    cases hp : s.phase <;> rw [hp] at hs h
    case preparing =>
      obtain ⟨-, rfl⟩ := h
      exact List.not_mem_nil
    all_goals simp_all [on, onSend, onReceive, onNext]
  · intro hstepped
    cases e with
    | stepped frame input needsDigest digest =>
      cases hp : s.phase <;> rw [hp] at hs h
      case steppingFrame input =>
        obtain ⟨pre, done, pending, idle, -, -, rfl⟩ := h
        obtain ⟨snapshot, stateHash, post, hpassed⟩ := idle.passed
        rw [← hpassed]
        simp
      all_goals simp_all [on, onSend, onReceive, onNext]
    | _ => contradiction
  · rintro snapshot result rfl
    cases hp : s.phase <;> rw [hp] at hs <;> simp_all [on, onSend, onReceive, onNext]

/-- The console of a controller is the one that its session started with, with the frames that it
has stepped run on it. -/
theorem controller_replica {ν ι : Type} {melonDS : MelonDS ν} {core : EmulatorCore ι}
    {host : EmulatorCore.Phone ν ι}
    {s : ControllerThread (EmulatorCore.Phone ν ι)}
    (h : exec (ControllerThread.step (EmulatorCore.twoPhoneSession melonDS core))
      { host := host } es = some s) :
    Replica melonDS host.bridge.nds es s.host.bridge := by
  have hinv : ControllerTrace (EmulatorCore.twoPhoneSession melonDS core) es s ∧
      Replica melonDS host.bridge.nds es s.host.bridge := by
    refine exec_invariant (I := fun es s =>
      ControllerTrace (EmulatorCore.twoPhoneSession melonDS core) es s ∧
        Replica melonDS host.bridge.nds es s.host.bridge) ?_ ?_ h
    · refine ⟨controllerTrace_of_exec rfl, rfl, nofun, ?_⟩
      intro pre st post hcut
      exact absurd hcut.symm (List.append_ne_nil_of_right_ne_nil _ (List.cons_ne_nil _ _))
    · rintro es s e t ⟨htrace, hreplica⟩ hs
      obtain ⟨hprepared, hstepped, hloaded⟩ := htrace.console hs
      exact ⟨htrace.step hs,
        hreplica.host (ControllerThread.step_host hs) hprepared hstepped hloaded⟩
  exact hinv.2

end Controller

section Display

variable {σ : Type} {S : TwoPhoneSession σ} {es : List SessionEvent} {s t : DisplayThread σ}
  {e : SessionEvent}

/-- Where the display's calls that touch the console stand in its trace. -/
theorem DisplayTrace.console (h : DisplayTrace S es s) (hs : s.step S e = some t) :
    (e = .prepared → .resumed ∉ es) ∧ (e.stepped?.isSome → .resumed ∈ es) ∧
      ∀ snapshot result, e = .loadedSnapshot snapshot result → ∃ stateHash,
        es = displayGreeted S ++ [.operation (.received (.snapshot snapshot stateHash))] := by
  replace hs := DisplayThread.call_of_step hs
  unfold DisplayThread.call at hs
  unfold DisplayTrace at h
  refine ⟨?_, ?_, ?_⟩
  · rintro rfl
    cases hp : s.phase <;> rw [hp] at hs h
    case preparing =>
      obtain ⟨-, rfl⟩ := h
      exact List.not_mem_nil
    all_goals simp_all [on, onSend, onReceive, DisplayThread.onClock]
  · intro hstepped
    cases e with
    | stepped frame input needsDigest digest =>
      cases hp : s.phase <;> rw [hp] at hs h
      case steppingFrame input processingStarted =>
        obtain ⟨stateHash, rs, -, -, -, rfl⟩ := h
        simp [displayHandshake]
      all_goals simp_all [on, onSend, onReceive, DisplayThread.onClock]
    | _ => contradiction
  · rintro snapshot result rfl
    cases hp : s.phase <;> rw [hp] at hs h
    case loadingSnapshot stateHash =>
      obtain ⟨-, rfl⟩ := h
      obtain ⟨heq, -⟩ := SessionEvent.on_eq_some.mp hs
      obtain ⟨rfl, -⟩ := SessionEvent.loadedSnapshot.inj heq
      exact ⟨stateHash, rfl⟩
    all_goals simp_all [on, onSend, onReceive, DisplayThread.onClock]

/-- The console of a display is the one that its snapshot was made from, with the frames that it has
stepped run on it. -/
theorem display_replica {ν ι : Type} {melonDS : MelonDS ν} {core : EmulatorCore ι}
    {host : EmulatorCore.Phone ν ι}
    {s : DisplayThread (EmulatorCore.Phone ν ι)} (hrestores : melonDS.RestoresSnapshots)
    (h : exec (DisplayThread.step (EmulatorCore.twoPhoneSession melonDS core))
      { host := host } es = some s) {snapshot : Data} {nds : ν}
    (hloaded : .loadedSnapshot snapshot (.ok ()) ∈ es)
    (hmade : melonDS.savestateBuffer nds = some snapshot) :
    Replica melonDS nds es s.host.bridge := by
  have hinv : DisplayTrace (EmulatorCore.twoPhoneSession melonDS core) es s ∧
      (.loadedSnapshot snapshot (.ok ()) ∈ es → Replica melonDS nds es s.host.bridge) := by
    refine exec_invariant (I := fun es s =>
      DisplayTrace (EmulatorCore.twoPhoneSession melonDS core) es s ∧
        (.loadedSnapshot snapshot (.ok ()) ∈ es → Replica melonDS nds es s.host.bridge)) ?_ ?_ h
    · exact ⟨displayTrace_of_exec rfl, nofun⟩
    · rintro es s e t ⟨htrace, ih⟩ hs
      refine ⟨htrace.step hs, fun hmem => ?_⟩
      obtain ⟨hprepared, hstepped, hloading⟩ := htrace.console hs
      have hhost := DisplayThread.step_host hs
      rcases List.mem_append.mp hmem with hbefore | hnow
      · refine (ih hbefore).host hhost hprepared hstepped ?_
        rintro snapshot' result rfl
        obtain ⟨stateHash, rfl⟩ := hloading snapshot' result rfl
        simp [displayGreeted, opened] at hbefore
      · -- The snapshot is loaded: the console is the one that it was made from.
        obtain rfl := List.mem_singleton.mp hnow
        obtain ⟨stateHash, rfl⟩ := hloading snapshot (.ok ()) rfl
        obtain ⟨hbuffer, hne⟩ := Option.filter_eq_some_iff.mp hmade
        obtain ⟨-, hphone⟩ := Prod.mk.inj (hostStep_loadedSnapshot.mp hhost)
        have hnds : t.host.bridge.nds = nds := by
          rw [← hphone]
          show (melonDS.melondsLoadStateFromBuffer snapshot s.host.bridge).2.nds = nds
          rw [MelonDS.melondsLoadStateFromBuffer, if_neg (of_decide_eq_true hne),
            hrestores nds _ snapshot hbuffer]
        refine ⟨hnds, ?_, ?_⟩
        · intro hresumed
          simp [displayGreeted, opened] at hresumed
        · intro pre st post hcut
          exact absurd hcut.symm (List.append_ne_nil_of_right_ne_nil _ (List.cons_ne_nil _ _))
  exact hinv.2 hloaded

end Display

section Lockstep

variable {ν ι κ : Type} {melonDS : MelonDS ν} {coreC : EmulatorCore ι} {coreD : EmulatorCore κ}
  {hostC : EmulatorCore.Phone ν ι} {hostD : EmulatorCore.Phone ν κ} {M : Duplex.Medium}
  {es : List LockstepEvent}
  {s x : LockstepState (EmulatorCore.Phone ν ι) (EmulatorCore.Phone ν κ)}

/-- A frame that the controller steps. -/
def LockstepEvent.controllerSteps : LockstepEvent → Bool
  | .controller (.main e) => e.stepped?.isSome
  | _ => false

/-- A frame that the display steps. -/
def LockstepEvent.displaySteps : LockstepEvent → Bool
  | .display e => e.stepped?.isSome
  | _ => false

/-- A trace has one input for each frame stepped. -/
theorem length_stepInputs (es : List SessionEvent) :
    (stepInputs es).length = es.countP fun e => e.stepped?.isSome := by
  rw [stepInputs, List.length_map, steps, List.length_filterMap_eq_countP]

/-- The controller's frames are counted by its steps. -/
theorem countP_controllerSteps (es : List LockstepEvent) :
    es.countP LockstepEvent.controllerSteps = (stepInputs (mainEvents es)).length := by
  rw [length_stepInputs]
  induction es using List.reverseRecOn with
  | nil => rfl
  | append_singleton es e ih =>
    rw [List.countP_append, ih, List.countP_singleton]
    match e with
    | .controller (.main e) =>
      rw [mainEvents_main, List.countP_append, List.countP_singleton]
      rfl
    | .controller (.reader e) =>
      rw [mainEvents_reader]
      rfl
    | .display e =>
      rw [mainEvents_display]
      rfl

/-- The display's frames are counted by its steps. -/
theorem countP_displaySteps (es : List LockstepEvent) :
    es.countP LockstepEvent.displaySteps = (stepInputs (displayEvents es)).length := by
  rw [length_stepInputs]
  induction es using List.reverseRecOn with
  | nil => rfl
  | append_singleton es e ih =>
    rw [List.countP_append, ih, List.countP_singleton]
    cases e with
    | controller e =>
      rw [displayEvents_controller]
      rfl
    | display e =>
      rw [displayEvents_display, List.countP_append, List.countP_singleton]
      rfl

/-- The snapshot that a display loads is of the console that the controller has started with. -/
theorem loaded_of_exec (hexec : exec (LockstepState.step M (coreC.twoPhoneSession melonDS)
      (coreD.twoPhoneSession melonDS)) (.initial hostC hostD) es = some s) {snapshot : Data}
    (hloaded : .loadedSnapshot snapshot (.ok ()) ∈ displayEvents es) :
    melonDS.savestateBuffer hostC.bridge.nds = some snapshot := by
  obtain ⟨dropped, hlaws⟩ := lockstepLaws_of_exec hexec
  obtain ⟨pre, post, hcut⟩ := List.append_of_mem hloaded
  have hdisplay := exec_display hexec
  rw [hcut] at hdisplay
  obtain ⟨t, t', ht, hstep, -⟩ := Automaton.exec_split hdisplay
  obtain ⟨-, -, hloading⟩ := (displayTrace_of_exec ht).console hstep
  obtain ⟨stateHash, rfl⟩ := hloading snapshot (.ok ()) rfl
  have hsent : .snapshot snapshot stateHash ∈ sent (mainEvents es) := by
    rw [hlaws.toDisplay, hcut]
    simp [received, operations, SessionEvent.operation?, Duplex.receivedMessages,
      Duplex.Operation.received?]
  obtain ⟨made, hashed, hmake, -⟩ := ControllerThread.offers_of_sent
    (ControllerState.exec_thread (exec_controller hexec)) hsent
  have hbuffer : EmulatorCore.makeSnapshot melonDS (MelonDS.pause hostC.bridge) = .ok snapshot :=
    (Prod.mk.inj hmake).1
  unfold EmulatorCore.makeSnapshot at hbuffer
  split at hbuffer
  · rename_i snapshot' heq
    rw [Except.ok.injEq] at hbuffer
    exact hbuffer ▸ heq
  · contradiction

/-- The console of a display that has stepped a frame is a replica of the one that the controller
has started with. -/
theorem lockstep_replica (hrestores : melonDS.RestoresSnapshots)
    (hexec : exec (LockstepState.step M (coreC.twoPhoneSession melonDS)
      (coreD.twoPhoneSession melonDS)) (.initial hostC hostD) es = some s)
    (hsteps : steps (displayEvents es) ≠ []) :
    Replica melonDS hostC.bridge.nds (displayEvents es) s.display.host.bridge := by
  have hdisplay := exec_display hexec
  obtain ⟨snapshot, stateHash, post, hpassed⟩ :=
    (displayTrace_of_exec hdisplay).passed.resolve_right fun hnot => hsteps hnot.1.2
  have hloaded : .loadedSnapshot snapshot (.ok ()) ∈ displayEvents es := by
    rw [← hpassed]
    simp [displayHandshake, displayReady, displayLoaded]
  exact display_replica hrestores hdisplay hloaded (loaded_of_exec hexec hloaded)

/-- The bridge of a phone that has stepped `k + 1` frames, which were the first inputs sent. -/
theorem bridge_of_replica {nds : ν} {fs : List SessionEvent} {b : Bridge ν} {k : ℕ}
    {inputs : List DSInputFrame} (h : Replica melonDS nds fs b)
    (hlength : (stepInputs fs).length = k + 1) (hinputs : stepInputs fs <+: inputs)
    (hpassed : .resumed ∈ fs ∨ steps fs = []) :
    b = ⟨replay melonDS nds (inputs.take (k + 1)), false⟩ := by
  have hresumed : .resumed ∈ fs := by
    refine hpassed.resolve_right fun hnone => ?_
    rw [stepInputs, hnone] at hlength
    contradiction
  have htake := List.prefix_iff_eq_take.mp hinputs
  rw [hlength] at htake
  rw [← htake, ← h.nds_eq, ← h.running hresumed]

/-- The bridge of the controller right after its frame `k + 1`: the first `k + 1` inputs sent were
run. -/
theorem controller_bridge {k : ℕ}
    (hexec : exec (LockstepState.step M (coreC.twoPhoneSession melonDS)
      (coreD.twoPhoneSession melonDS)) (.initial hostC hostD) es = some s)
    (hx : (statesAfter (LockstepState.step M (coreC.twoPhoneSession melonDS)
      (coreD.twoPhoneSession melonDS)) LockstepEvent.controllerSteps
        (.initial hostC hostD) es)[k]? =
        some x) :
    x.controller.thread.host.bridge =
      ⟨replay melonDS hostC.bridge.nds ((sentInputs (mainEvents es)).take (k + 1)), false⟩ := by
  obtain ⟨pre, e, post, rfl, hrun, hsel, hcount⟩ := statesAfter_getElem? hexec hx
  have hmain := exec_main hrun
  have hreplica : Replica melonDS hostC.bridge.nds (mainEvents (pre ++ [e]))
      x.controller.thread.host.bridge := controller_replica hmain
  have htrace := controllerTrace_of_exec hmain
  have hlength : (stepInputs (mainEvents (pre ++ [e]))).length = k + 1 := by
    rw [← countP_controllerSteps, List.countP_append, hcount, List.countP_singleton, if_pos hsel]
  refine bridge_of_replica hreplica hlength (htrace.step_inputs.trans ?_) ?_
  · have hle := sentInputs_le (pre ++ [e]) post
    rwa [List.append_assoc] at hle
  · refine htrace.passed.imp ?_ fun hnot => hnot.1.2
    rintro ⟨snapshot, stateHash, post', hpassed⟩
    rw [← hpassed]
    simp

/-- The bridge of the display right after its frame `k + 1`: the same. -/
theorem display_bridge (hrestores : melonDS.RestoresSnapshots) {k : ℕ}
    (hexec : exec (LockstepState.step M (coreC.twoPhoneSession melonDS)
      (coreD.twoPhoneSession melonDS)) (.initial hostC hostD) es = some s)
    (hx : (statesAfter (LockstepState.step M (coreC.twoPhoneSession melonDS)
      (coreD.twoPhoneSession melonDS)) LockstepEvent.displaySteps (.initial hostC hostD) es)[k]? =
        some x) :
    x.display.host.bridge =
      ⟨replay melonDS hostC.bridge.nds ((sentInputs (mainEvents es)).take (k + 1)), false⟩ := by
  obtain ⟨pre, e, post, rfl, hrun, hsel, hcount⟩ := statesAfter_getElem? hexec hx
  obtain ⟨dropped, hlaws⟩ := lockstepLaws_of_exec hrun
  have hlength : (stepInputs (displayEvents (pre ++ [e]))).length = k + 1 := by
    rw [← countP_displaySteps, List.countP_append, hcount, List.countP_singleton, if_pos hsel]
  have hsteps : steps (displayEvents (pre ++ [e])) ≠ [] := by
    intro hnone
    rw [stepInputs, hnone] at hlength
    contradiction
  refine bridge_of_replica (lockstep_replica hrestores hrun hsteps) hlength
    (hlaws.display_inputs.trans ?_) ?_
  · have hle := sentInputs_le (pre ++ [e]) post
    rwa [List.append_assoc] at hle
  · refine hlaws.display.passed.imp ?_ fun hnot => hnot.1.2
    rintro ⟨snapshot, stateHash, post', hpassed⟩
    rw [← hpassed]
    simp [displayHandshake]

end Lockstep

end DSEmu

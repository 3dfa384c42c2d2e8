import DSEmu.Emulator.Replica
import DSEmu.Lockstep.Reconnect

/-!
# The two consoles agree across reconnects

However the attempts before it ended, an attempt whose display has passed the check of the snapshot
runs the same console on both phones: right after the frame `k` of the attempt the controller's
bridge is the display's (`replicas_agree`). An attempt can be cut off at any step of either phone;
what its end has left behind, frames that only one of the phones has stepped, is gone with the
snapshot of the next attempt.
-/

namespace DSEmu

open Automaton (exec statesAfter)
open Duplex (Medium)

section

variable {ν ι κ : Type} (M : Medium) (melonDS : MelonDS ν) (coreC : EmulatorCore ι)
  (coreD : EmulatorCore κ)

/-- One step of two phones that emulate the console `melonDS` and reconnect. -/
abbrev EmulatorCore.reconnectStep :
    ReconnectState (EmulatorCore.Phone ν ι) (EmulatorCore.Phone ν κ) → ReconnectEvent →
      Option (ReconnectState (EmulatorCore.Phone ν ι) (EmulatorCore.Phone ν κ)) :=
  ReconnectState.step M (coreC.twoPhoneSession melonDS) (coreD.twoPhoneSession melonDS)

/-- What a run over `es` from the phones `hostC` and `hostD` says about the attempt `n`. A display
that has stepped a frame has passed the check of the snapshot's hash. -/
structure ReplicasAgree (hostC : EmulatorCore.Phone ν ι) (hostD : EmulatorCore.Phone ν κ)
    (es : List ReconnectEvent) (n : ℕ) : Prop where
  /-- right after the `k`-th frame of the attempt the emulators are in the same state -/
  states : ∀ (k : ℕ) (x y : ReconnectState (EmulatorCore.Phone ν ι) (EmulatorCore.Phone ν κ)),
    (statesAfter (EmulatorCore.reconnectStep M melonDS coreC coreD)
      (inAttempt n LockstepEvent.controllerSteps) (.initial hostC hostD) es)[k]? = some x →
    (statesAfter (EmulatorCore.reconnectStep M melonDS coreC coreD)
      (inAttempt n LockstepEvent.displaySteps) (.initial hostC hostD) es)[k]? = some y →
    x.controller.thread.host.bridge = y.display.host.bridge
  /-- the display steps inputs that were sent in this attempt, in order -/
  display_inputs : stepInputs (displayEvents (attemptEvents n es)) <+:
    sentInputs (mainEvents (attemptEvents n es))
  /-- and so does the controller -/
  controller_inputs : stepInputs (mainEvents (attemptEvents n es)) <+:
    sentInputs (mainEvents (attemptEvents n es))

variable {M melonDS coreC coreD}

/-- The two consoles agree in every attempt of every run, over any link. -/
theorem replicas_agree (hrestores : melonDS.RestoresSnapshots)
    {hostC : EmulatorCore.Phone ν ι} {hostD : EmulatorCore.Phone ν κ} {es : List ReconnectEvent}
    {s : ReconnectState (EmulatorCore.Phone ν ι) (EmulatorCore.Phone ν κ)}
    (hexec : exec (EmulatorCore.reconnectStep M melonDS coreC coreD) (.initial hostC hostD) es =
      some s) (n : ℕ) :
    ReplicasAgree M melonDS coreC coreD hostC hostD es n := by
  obtain ⟨t, hin, hrun⟩ := attempt_of_exec (n := n) hexec { thread := { host := hostC } }
    { host := hostD }
  -- The attempt starts afresh on the phones as they are then.
  have hfresh : ∃ hostC' hostD', t = .initial hostC' hostD' := by
    have hc : ∃ hostC', t.controller = { thread := { host := hostC' } } := by
      rcases Nat.eq_zero_or_pos n with rfl | hpos
      · exact ⟨hostC, hin.controller.1 rfl⟩
      · exact hin.controller.2.1 hpos
    have hd : ∃ hostD', t.display = { host := hostD' } := by
      rcases Nat.eq_zero_or_pos n with rfl | hpos
      · exact ⟨hostD, hin.display.1 rfl⟩
      · exact hin.display.2.1 hpos
    obtain ⟨hostC', hc⟩ := hc
    obtain ⟨hostD', hd⟩ := hd
    refine ⟨hostC', hostD', ?_⟩
    obtain ⟨controller, display, link⟩ := t
    obtain rfl : controller = _ := hc
    obtain rfl : display = _ := hd
    obtain rfl : link = _ := hin.link
    rfl
  obtain ⟨hostC', hostD', rfl⟩ := hfresh
  obtain ⟨u, hu⟩ := hrun.run
  obtain ⟨dropped, hlaws⟩ := lockstepLaws_of_exec hu
  refine ⟨fun k x y hx hy => ?_, hlaws.display_inputs, hlaws.controller.step_inputs⟩
  have hcontroller := congrArg (fun l => l[k]?)
    (hrun.controller LockstepEvent.controllerSteps fun _ => rfl)
  have hdisplay := congrArg (fun l => l[k]?) (hrun.display LockstepEvent.displaySteps fun _ => rfl)
  simp only [List.getElem?_map] at hcontroller hdisplay
  rw [hx, Option.map_some, eq_comm, Option.map_eq_some_iff] at hcontroller
  rw [hy, Option.map_some, eq_comm, Option.map_eq_some_iff] at hdisplay
  obtain ⟨x', hx', hxx⟩ := hcontroller
  obtain ⟨y', hy', hyy⟩ := hdisplay
  rw [← hxx, ← hyy, controller_bridge hu hx', display_bridge hrestores hu hy']

end

/-- A console that counts its frames. -/
def frameCounter : MelonDS ℕ where
  setKeyMask := fun _ n => n
  touchScreen := fun _ _ n => n
  releaseScreen := id
  runFrame := Nat.succ
  doSavestate := fun n => some (List.replicate (n + 1) 0)
  loadSavestate := fun data _ => (true, data.length - 1)
  framebuffer := fun _ _ => none

theorem frameCounter_restores : frameCounter.RestoresSnapshots := by
  intro nds nds' snapshot hmade
  obtain rfl := Option.some.inj hmade
  show (true, (List.replicate (nds + 1) (0 : UInt8)).length - 1) = (true, nds)
  rw [List.length_replicate, Nat.add_sub_cancel]

/-- A phone with the frame counter, whose player presses nothing. -/
def frameCounterCore : EmulatorCore Unit where
  configuration := fixedDigestSession.configuration
  loadedROMHash := []
  inputProvider := EmulatorCore.scriptedInputProvider

/-- The events of an attempt. -/
def attemptOf (n : ℕ) (es : List LockstepEvent) : List ReconnectEvent :=
  es.map fun
    | .controller e => .controller n e
    | .display e => .display n e

/-- An attempt that ends when the controller has stepped a frame and the display has not, and a
second one in which both step a frame. -/
def resynchronizedRun : List ReconnectEvent :=
  let session := frameCounterCore.twoPhoneSession frameCounter
  let input : DSInputFrame := EmulatorCore.scriptedInput 1
  let handshake (nds : ℕ) : List LockstepEvent :=
    lockstepHandshake session session (List.replicate (nds + 1) 0)
      (frameCounter.melondsStateHash nds)
  let controllerFrame : List LockstepEvent :=
    [.controller (.main (.provided 1 input)),
      .controller (.main (.operation (.sent (.input input)))),
      .controller (.main (.stepped 1 input false none))]
  let displayFrame : List LockstepEvent :=
    [.display (.operation (.received (.input input))), .display (.clockRead 0),
      .display (.stepped 1 input false none)]
  let aborted : List LockstepEvent :=
    [.display (.operation .receiveFailed), .display .deactivated, .display (.operation .closed),
      .controller (.main (.provided 2 (EmulatorCore.scriptedInput 2))),
      .controller (.main (.operation (.sendFailed (.input (EmulatorCore.scriptedInput 2))))),
      .controller (.main .inboxStopped), .controller (.main (.operation .closed)),
      .controller (.main .deactivated), .controller (.main (.operation .closed))]
  attemptOf 0 (handshake 0 ++ controllerFrame ++ aborted) ++
    [.displayRetries 1, .controllerRetries 1] ++
    attemptOf 1 (handshake 1 ++ controllerFrame ++ displayFrame)

/-- `replicas_agree` where the first attempt has left the consoles with different frames, and the
second one has stepped both to the same. -/
theorem replicas_agree_resynchronized :
    ∃ s, exec (EmulatorCore.reconnectStep { faulty := true } frameCounter frameCounterCore
        frameCounterCore) (.initial ⟨⟨0, false⟩, ()⟩ ⟨⟨0, false⟩, ()⟩) resynchronizedRun = some s ∧
      (s.controller.thread.host.bridge.nds, s.display.host.bridge.nds) = (2, 2) ∧
      ∀ n, ReplicasAgree { faulty := true } frameCounter frameCounterCore frameCounterCore
        ⟨⟨0, false⟩, ()⟩ ⟨⟨0, false⟩, ()⟩ resynchronizedRun n := by
  have hrun : (exec (EmulatorCore.reconnectStep { faulty := true } frameCounter frameCounterCore
      frameCounterCore) (.initial ⟨⟨0, false⟩, ()⟩ ⟨⟨0, false⟩, ()⟩) resynchronizedRun).map
        (fun s => (s.controller.thread.host.bridge.nds, s.display.host.bridge.nds)) =
          some (2, 2) := by
    decide +kernel
  obtain ⟨s, hs, hnds⟩ := Option.map_eq_some_iff.mp hrun
  exact ⟨s, hs, hnds, fun n => replicas_agree frameCounter_restores hs n⟩

end DSEmu

import Mathlib.Data.Option.Basic
import DSEmu.Session.Session
import Mathlib.Tactic.SplitIfs

/-!
# The emulator of a phone

The part of `DSEmu/Emulator/EmulatorCore.swift` that a session's callbacks run, over the bridge
`DSEmu/Bridge/melonds_bridge.cpp`. melonDS itself is a parameter (`MelonDS`): a type of console
states with the functions of `NDS` that the bridge calls. Before a session starts,
`melonds_load_rom` has set up the console and the bridge's flag `running`, so the only flag left
here is `paused`.

The player's side of a phone is a state of its own, which only the input provider reads and changes:
a provider cannot touch the emulator, and the emulator has no other way to the player. Pixels are
drawn from the framebuffers without a change of the console, and are left out.
-/

namespace DSEmu

/-- A screen of the console. -/
inductive Screen where
  | top
  | bottom
  deriving DecidableEq, Repr

/-- The functions of melonDS that the bridge calls, on console states `ν`. -/
structure MelonDS (ν : Type) where
  /-- `SetKeyMask` -/
  setKeyMask : UInt32 → ν → ν
  /-- `TouchScreen` -/
  touchScreen : UInt16 → UInt16 → ν → ν
  /-- `ReleaseScreen` -/
  releaseScreen : ν → ν
  /-- `RunFrame` -/
  runFrame : ν → ν
  /-- the buffer of a saving `DoSavestate`, or `none` where it fails -/
  doSavestate : ν → Option Data
  /-- a loading `DoSavestate` over a buffer, and whether it succeeds -/
  loadSavestate : Data → ν → Bool × ν
  /-- the bytes of the pixels of a screen's front buffer, or `none` where there is none -/
  framebuffer : Screen → ν → Option Data

/-- The state of the bridge: the console, and whether it is paused. -/
structure Bridge (ν : Type) where
  nds : ν
  paused : Bool := false

/-- `fnv1a64`. -/
def fnv1a64 (bytes : Data) : UInt64 :=
  bytes.foldl (fun hash byte => (hash ^^^ byte.toUInt64) * 1099511628211) 14695981039346656037

namespace MelonDS

variable {ν : Type} (melonDS : MelonDS ν)

/-- `melonds_pause`. -/
def pause (b : Bridge ν) : Bridge ν := { b with paused := true }

/-- `melonds_resume`. -/
def resume (b : Bridge ν) : Bridge ν := { b with paused := false }

/-- `melonds_run_frame`. -/
def melondsRunFrame (b : Bridge ν) : Bridge ν :=
  if b.paused then b else { b with nds := melonDS.runFrame b.nds }

/-- The buffer of a savestate that the bridge accepts: one without an error that is not empty. -/
def savestateBuffer (nds : ν) : Option Data :=
  (melonDS.doSavestate nds).filter fun buffer => buffer ≠ []

/-- `melonds_load_state_from_buffer`. -/
def melondsLoadStateFromBuffer (data : Data) (b : Bridge ν) : Bool × Bridge ν :=
  if data = [] then (false, b)
  else
    let (success, nds) := melonDS.loadSavestate data b.nds
    (success, { b with nds := nds })

/-- `melonds_state_hash`. -/
def melondsStateHash (nds : ν) : UInt64 := ((melonDS.savestateBuffer nds).map fnv1a64).getD 0

/-- `framebufferHash`. -/
def framebufferHash (screen : Screen) (nds : ν) : UInt64 :=
  ((melonDS.framebuffer screen nds).map fnv1a64).getD 0

end MelonDS

/-- The fields of `EmulatorCore` that stay as they are during a session, where the input provider
reads and changes a player `ι`. -/
structure EmulatorCore (ι : Type) where
  configuration : TwoPhoneConfiguration
  loadedROMHash : Data
  inputProvider : UInt64 → ι → DSInputFrame × ι

namespace EmulatorCore

variable {ν : Type} (melonDS : MelonDS ν)

/-- The keys and the stylus of an input, set on the console. -/
def setInput (input : DSInputFrame) (nds : ν) : ν :=
  let nds := melonDS.setKeyMask input.keyMask.toUInt32 nds
  if input.touchActive then melonDS.touchScreen input.touchX input.touchY nds
  else melonDS.releaseScreen nds

/-- The digest of a console state, for a frame. -/
def digest (frame : UInt64) (nds : ν) : EmulatorDigest where
  frame := frame
  state := melonDS.melondsStateHash nds
  top := melonDS.framebufferHash .top nds
  bottom := melonDS.framebufferHash .bottom nds

/-- `step(input:createDigest:)`. -/
def step (input : DSInputFrame) (createDigest : Bool) (b : Bridge ν) :
    Option EmulatorDigest × Bridge ν :=
  let b := melonDS.melondsRunFrame { b with nds := setInput melonDS input b.nds }
  (if createDigest then some (digest melonDS input.frame b.nds) else none, b)

/-- `makeSnapshot()`. It asks the bridge for the length of the savestate and then for the savestate,
without letting the emulator run in between, so the second buffer is the first. -/
def makeSnapshot (b : Bridge ν) : Except SessionError Data :=
  match melonDS.savestateBuffer b.nds with
  | some snapshot => .ok snapshot
  | none => .error .snapshot

/-- `loadSnapshot(_:)`. -/
def loadSnapshot (snapshot : Data) (b : Bridge ν) : Except SessionError Unit × Bridge ν :=
  let (success, b) := melonDS.melondsLoadStateFromBuffer snapshot b
  (if success then .ok () else .error .snapshot, b)

/-- The state of a phone: the bridge, and the player. -/
structure Phone (ν ι : Type) where
  bridge : Bridge ν
  player : ι

/-- What the touch screen and the buttons have set: `pendingKeyMask` and `pendingTouch`. -/
structure PendingInput where
  keyMask : UInt16 := 0x0FFF
  touch : Option (UInt16 × UInt16) := none

/-- `currentInput(frame:)`. -/
def currentInput (frame : UInt64) (pending : PendingInput) : DSInputFrame where
  frame := frame
  keyMask := pending.keyMask
  touchX := (pending.touch.map Prod.fst).getD 0
  touchY := (pending.touch.map Prod.snd).getD 0
  touchActive := pending.touch.isSome

/-- The provider of `currentInput`, where the player is what will be pending at one frame after the
other. -/
def currentInputProvider (frame : UInt64) : List PendingInput → DSInputFrame × List PendingInput
  | [] => (currentInput frame {}, [])
  | pending :: later => (currentInput frame pending, later)

/-- `TwoPhoneInputScript.input(frame:)`: a pressed key is a bit of the mask that is cleared. -/
def scriptedInput (frame : UInt64) : DSInputFrame :=
  let keyMask : UInt16 := 0x0FFF
  let unpressed (key : UInt16) : UInt16 := ~~~((1 : UInt16) <<< key)
  if 121 ≤ frame ∧ frame ≤ 126 then ⟨frame, keyMask &&& unpressed 0, 0, 0, false⟩
  else if 241 ≤ frame ∧ frame ≤ 246 then ⟨frame, keyMask &&& unpressed 3, 0, 0, false⟩
  else if 361 ≤ frame ∧ frame ≤ 372 then ⟨frame, keyMask &&& unpressed 4, 0, 0, false⟩
  else if 421 ≤ frame ∧ frame ≤ 432 then ⟨frame, keyMask, 128, 96, true⟩
  else ⟨frame, keyMask, 0, 0, false⟩

/-- The provider of a session with `scriptedInputs`. -/
def scriptedInputProvider (frame : UInt64) (player : Unit) : DSInputFrame × Unit :=
  (scriptedInput frame, player)

variable {ι : Type}

/-- A provider that tags each input with the frame that it was asked for. -/
def Tags (provider : UInt64 → ι → DSInputFrame × ι) : Prop :=
  ∀ frame player, (provider frame player).1.frame = frame

/-- Both providers of the emulator do. -/
theorem tags_currentInputProvider : Tags currentInputProvider := by
  intro frame player
  cases player <;> rfl

theorem tags_scriptedInputProvider : Tags scriptedInputProvider := by
  intro frame player
  unfold scriptedInputProvider scriptedInput
  split_ifs <;> rfl

/-- The session of `runTwoPhoneSessionAttempt`. -/
def twoPhoneSession (core : EmulatorCore ι) : TwoPhoneSession (Phone ν ι) where
  configuration := core.configuration
  romSHA256 := core.loadedROMHash
  makeSnapshot := fun phone => (makeSnapshot melonDS phone.bridge, phone)
  loadSnapshot := fun snapshot phone =>
    let (result, bridge) := loadSnapshot melonDS snapshot phone.bridge
    (result, { phone with bridge := bridge })
  inputProvider := fun frame phone =>
    let (input, player) := core.inputProvider frame phone.player
    (input, { phone with player := player })
  stepFrame := fun input createDigest phone =>
    let (digest, bridge) := step melonDS input createDigest phone.bridge
    (digest, { phone with bridge := bridge })
  prepareForSynchronization := fun phone => { phone with bridge := MelonDS.pause phone.bridge }
  snapshotStateHash := fun phone => (melonDS.melondsStateHash phone.bridge.nds, phone)
  resumeAfterSynchronization := fun phone => { phone with bridge := MelonDS.resume phone.bridge }

end EmulatorCore

end DSEmu

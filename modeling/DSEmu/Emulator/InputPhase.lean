import DSEmu.Emulator.EmulatorCore
import DSEmu.MelonDS.NDS

/-!
# The input phase and the snapshot

A snapshot is shared so that both phones begin from one state, and then each of them sets the same
input before it runs a frame. What the input changes in a snapshot is the keypad's interrupt:
`SetKeyMask` raises it for a processor where the keys that the processor waits for have just been
pressed, and for that it looks at the keys of before, in `KeyInput`. This register is not in the
snapshot, so two consoles with equal snapshots can differ in it: a key that was held on one of them
before the other one was started.

`toNDSG_setInput` says what an input does to section "NDSG". From it `savestateBuffer_setInput_iff`:
the snapshots stay equal exactly where, for each processor, both consoles raise the interrupt or
neither does, or raising it changes nothing, since it is pending already and does not wake the ARM7.
-/

namespace DSEmu

namespace NDS

variable {κ : Type} (components : Components κ) (runFrame : NDS κ → NDS κ)
  (loadSavestate : Data → NDS κ → Bool × NDS κ) (framebuffer : Screen → NDS κ → Option Data)

/-- The console behind the bridge. How it runs a frame, loads a savestate and draws is not looked
at. -/
def melonDS : MelonDS (NDS κ) where
  setKeyMask := setKeyMask components
  touchScreen := touchScreen
  releaseScreen := releaseScreen
  runFrame := runFrame
  doSavestate := doSavestate components
  loadSavestate := loadSavestate
  framebuffer := framebuffer

theorem rest_setTouchCoords (x y : UInt16) (n : NDS κ) :
    (setTouchCoords x y n).rest components = n.rest components := by
  unfold setTouchCoords
  split_ifs <;> rfl

theorem toNDSG_setTouchCoords (x y : UInt16) (n : NDS κ) :
    (setTouchCoords x y n).toNDSG = n.toNDSG := by
  unfold setTouchCoords
  split_ifs <;> rfl

/-- The input of a frame leaves alone what the other components write. -/
theorem rest_setInput (input : DSInputFrame) (n : NDS κ) :
    (EmulatorCore.setInput (melonDS components runFrame loadSavestate framebuffer) input n).rest
      components = n.rest components := by
  have hkeys : (setKeyMask components input.keyMask.toUInt32 n).rest components =
      n.rest components := by
    rw [setKeyMask, rest_checkKeyIRQ, rest_checkKeyIRQ]
    rfl
  unfold EmulatorCore.setInput
  split_ifs
  · exact (rest_setTouchCoords components _ _ _).trans hkeys
  · exact (rest_setTouchCoords components _ _ _).trans hkeys

/-- The input of a frame raises the keypad's interrupts, and changes nothing else in the section. -/
theorem toNDSG_setInput (input : DSInputFrame) (n : NDS κ) :
    (EmulatorCore.setInput (melonDS components runFrame loadSavestate framebuffer) input n).toNDSG =
      n.toNDSG.withKeypadIRQ (n.raises input.keyMask) := by
  unfold EmulatorCore.setInput
  split_ifs
  · exact (toNDSG_setTouchCoords _ _ _).trans (toNDSG_setKeyMask components _ _)
  · exact (toNDSG_setTouchCoords _ _ _).trans (toNDSG_setKeyMask components _ _)

/-- The snapshot is the savestate, which is never empty. -/
theorem savestateBuffer_eq (n : NDS κ) :
    (melonDS components runFrame loadSavestate framebuffer).savestateBuffer n =
      n.doSavestate components := by
  have hsaved := doSavestate_eq components n
  rw [MelonDS.savestateBuffer]
  show (n.doSavestate components).filter _ = n.doSavestate components
  rw [Option.filter_eq_some_iff.mpr ⟨hsaved, ?_⟩, hsaved]
  exact decide_eq_true (doSavestate_ne_nil components hsaved)

/-- On two consoles with equal snapshots the input phase of a frame leaves equal snapshots exactly
if for each processor the input raises the keypad's interrupt on both or on neither, or the
interrupt is pending already and does not wake the ARM7. -/
theorem savestateBuffer_setInput_iff {n n' : NDS κ} (input : DSInputFrame)
    (h : (melonDS components runFrame loadSavestate framebuffer).savestateBuffer n =
      (melonDS components runFrame loadSavestate framebuffer).savestateBuffer n') :
    (melonDS components runFrame loadSavestate framebuffer).savestateBuffer
        (EmulatorCore.setInput (melonDS components runFrame loadSavestate framebuffer) input n) =
      (melonDS components runFrame loadSavestate framebuffer).savestateBuffer
        (EmulatorCore.setInput (melonDS components runFrame loadSavestate framebuffer) input n') ↔
      ∀ cpu, n.raises input.keyMask cpu = n'.raises input.keyMask cpu ∨ n.Settled cpu := by
  rw [savestateBuffer_eq, savestateBuffer_eq, doSavestate_eq_iff] at h
  obtain ⟨hsection, hrest⟩ := h
  rw [savestateBuffer_eq, savestateBuffer_eq, doSavestate_eq_iff, rest_setInput, rest_setInput,
    toNDSG_setInput, toNDSG_setInput, ← hsection, NDSG.withKeypadIRQ_eq_iff]
  exact and_iff_left hrest

/-- A console whose ARM9 waits for A or another key that it has selected, with keys that are
held. -/
def waitingForA (keyInput : UInt32) : NDS Unit where
  keyCnt := #v[0x4001, 0]
  keyInput := keyInput
  components := ()

/-- Components that write nothing more. -/
def bareComponents : Components Unit where
  restartFrame := id
  sectionsBeforeTSC _ := []
  sectionsAfterTSC _ := []
  before_restartFrame _ := rfl
  after_restartFrame _ := rfl

/-- The bridge over such a console. -/
def bareMelonDS : MelonDS (NDS Unit) :=
  melonDS bareComponents id (fun _ n => (true, n)) (fun _ _ => none)

/-- The keys that are held are not in the snapshot. -/
theorem savestateBuffer_waitingForA (keyInput keyInput' : UInt32) :
    bareMelonDS.savestateBuffer (waitingForA keyInput) =
      bareMelonDS.savestateBuffer (waitingForA keyInput') := by
  rw [bareMelonDS, savestateBuffer_eq, savestateBuffer_eq, doSavestate_eq_iff]
  exact ⟨rfl, rfl⟩

/-- A frame on which A is pressed, and one on which nothing is. -/
def pressA : DSInputFrame := ⟨0, 0x0FFE, 0, 0, false⟩

def pressNothing : DSInputFrame := ⟨0, 0x0FFF, 0, 0, false⟩

/-- Before a frame without keys the two consoles agree, whatever is held on them. -/
theorem savestateBuffer_setInput_pressNothing :
    bareMelonDS.savestateBuffer
        (EmulatorCore.setInput bareMelonDS pressNothing (waitingForA 0x7F03FE)) =
      bareMelonDS.savestateBuffer
        (EmulatorCore.setInput bareMelonDS pressNothing (waitingForA 0x7F03FF)) :=
  (savestateBuffer_setInput_iff bareComponents id (fun _ n => (true, n))
    (fun _ _ => none) pressNothing
    (savestateBuffer_waitingForA 0x7F03FE 0x7F03FF)).mpr (by decide)

/-- A is held on one console and not on the other, and nothing in the snapshots says so. The next
frame presses A: only the second console takes it for a new key, and interrupts its ARM9. -/
theorem held_key_diverges : ¬ ∀ (n n' : NDS Unit) (input : DSInputFrame),
    bareMelonDS.savestateBuffer n = bareMelonDS.savestateBuffer n' →
      bareMelonDS.savestateBuffer (EmulatorCore.setInput bareMelonDS input n) =
        bareMelonDS.savestateBuffer (EmulatorCore.setInput bareMelonDS input n') := by
  intro h
  have hafter := h _ _ pressA (savestateBuffer_waitingForA 0x7F03FE 0x7F03FF)
  rw [bareMelonDS, savestateBuffer_eq, savestateBuffer_eq, doSavestate_eq_iff, toNDSG_setInput,
    toNDSG_setInput] at hafter
  have hraises := ((waitingForA 0x7F03FE).toNDSG.withKeypadIRQ_eq_iff _ _).mp hafter.1 0
  exact absurd hraises (by decide)

end NDS

end DSEmu

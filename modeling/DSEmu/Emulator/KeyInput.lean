import Mathlib.Data.Rat.Defs
import Mathlib.Logic.Function.Basic
import DSEmu.Emulator.EmulatorCore
import DSEmu.Library.Automaton

/-!
# The keys

What sets the key mask of the emulator: the buttons of `DSEmu/Views/OnScreenControls.swift` and the
gamepad of `DSEmu/Input/ControllerManager.swift`, at most one of which is connected. Each of the two
keeps a mask of its own, in which a bit is clear where the button is held, changes one bit of it at
an event, and hands the whole mask to `EmulatorCore.setKeyMask`, which keeps the last one that it
was handed. The thresholds of the directional pad are in exact arithmetic.

So the mask of the next frame is the mask of the source that sent the last event
(`shows_lastSource`), and it shows what is held on both where that source holds all that the other
one does.
-/

namespace DSEmu

open Automaton (exec exec_concat_eq_some)

/-- `OnScreenControls.DSButton`, which has a bit of the mask. -/
inductive DSButton where
  | a | b | select | start | right | left | up | down | r | l | x | y
  deriving DecidableEq, Repr

/-- `DSButton.rawValue`, which is the tag of the button on the screen. -/
def DSButton.rawValue : DSButton → ℕ
  | a => 0
  | b => 1
  | select => 2
  | start => 3
  | right => 4
  | left => 5
  | up => 6
  | down => 7
  | r => 8
  | l => 9
  | x => 10
  | y => 11

/-- The buttons of an `extendedGamepad` that have a `pressedChangedHandler`. -/
inductive GamepadButton where
  | buttonA | buttonB | buttonX | buttonY | leftShoulder | rightShoulder
  | buttonMenu | buttonOptions
  deriving DecidableEq, Repr

namespace GamepadButton

/-- The bit that `configureController` gives a button. -/
def bit : GamepadButton → ℕ
  | buttonA => 0
  | buttonB => 1
  | buttonX => 10
  | buttonY => 11
  | leftShoulder => 9
  | rightShoulder => 8
  | buttonMenu => 3
  | buttonOptions => 2

/-- The button of the console that it stands for. -/
def dsButton : GamepadButton → DSButton
  | buttonA => .a
  | buttonB => .b
  | buttonX => .x
  | buttonY => .y
  | leftShoulder => .l
  | rightShoulder => .r
  | buttonMenu => .start
  | buttonOptions => .select

end GamepadButton

/-- An event of one of the sources. -/
inductive KeyEvent where
  | buttonDown (button : DSButton)
  | buttonUp (button : DSButton)
  | controllerConnected
  /-- A `pressedChangedHandler`. -/
  | pressedChanged (button : GamepadButton) (pressed : Bool)
  /-- The `valueChangedHandler` of the directional pad. -/
  | valueChanged (xValue yValue : ℚ)
  | controllerDisconnected

/-- The `buttonMask` of the two sources, and what the emulator has pending. -/
structure KeyInputs where
  onScreen : UInt32 := 0xFFF
  controller : UInt32 := 0xFFF
  isConnected : Bool := false
  pending : EmulatorCore.PendingInput := {}

/-- `EmulatorCore.setKeyMask(_:)`. -/
def EmulatorCore.setKeyMask (mask : UInt32) (pending : PendingInput) : PendingInput :=
  { pending with keyMask := mask.toUInt16 &&& 0x0FFF }

/-- A mask with the bit cleared where the button is pressed, and set where it is released. -/
def maskWith (bit : ℕ) (pressed : Bool) (mask : UInt32) : UInt32 :=
  if pressed then mask &&& ~~~((1 : UInt32) <<< .ofNat bit)
    else mask ||| (1 : UInt32) <<< .ofNat bit

namespace KeyInputs

/-- `OnScreenControls.buttonDown(_:)`, and `buttonUp(_:)` where it is not pressed. -/
def setOnScreen (button : DSButton) (pressed : Bool) (s : KeyInputs) : KeyInputs :=
  let buttonMask := maskWith button.rawValue pressed s.onScreen
  { s with onScreen := buttonMask, pending := EmulatorCore.setKeyMask buttonMask s.pending }

/-- `ControllerManager.setButton(bit:pressed:)`. -/
def setButton (bit : ℕ) (pressed : Bool) (s : KeyInputs) : KeyInputs :=
  let buttonMask := maskWith bit pressed s.controller
  { s with controller := buttonMask, pending := EmulatorCore.setKeyMask buttonMask s.pending }

/-- The handler of the directional pad. -/
def setDpad (xValue yValue : ℚ) (s : KeyInputs) : KeyInputs :=
  (((s.setButton 4 (xValue > 1 / 2)).setButton 5 (xValue < -1 / 2)).setButton 6
    (yValue > 1 / 2)).setButton 7 (yValue < -1 / 2)

/-- `ControllerManager.controllerDisconnected(_:)`. -/
def disconnect (s : KeyInputs) : KeyInputs :=
  { s with
    controller := 0xFFF
    isConnected := false
    pending := EmulatorCore.setKeyMask 0xFFF s.pending }

/-- One event. Those of a gamepad come while it is connected. -/
def step (s : KeyInputs) : KeyEvent → Option KeyInputs
  | .buttonDown button => some (s.setOnScreen button true)
  | .buttonUp button => some (s.setOnScreen button false)
  | .controllerConnected => if s.isConnected then none else some { s with isConnected := true }
  | .pressedChanged button pressed =>
    if s.isConnected then some (s.setButton button.bit pressed) else none
  | .valueChanged xValue yValue => if s.isConnected then some (s.setDpad xValue yValue) else none
  | .controllerDisconnected => if s.isConnected then some s.disconnect else none

end KeyInputs

/-! ### What is held -/

/-- A source of key events. -/
inductive KeySource where
  | onScreen
  | controller
  deriving DecidableEq, Repr

/-- The other source. -/
def KeySource.other : KeySource → KeySource
  | onScreen => controller
  | controller => onScreen

/-- The source of an event that hands over a mask. -/
def KeyEvent.source? : KeyEvent → Option KeySource
  | buttonDown _ => some .onScreen
  | buttonUp _ => some .onScreen
  | controllerConnected => none
  | pressedChanged _ _ => some .controller
  | valueChanged _ _ => some .controller
  | controllerDisconnected => some .controller

/-- The buttons that are held on a source after an event, of those held on it before. -/
def heldAfter (held : DSButton → Bool) : KeySource → KeyEvent → DSButton → Bool
  | .onScreen, .buttonDown button => Function.update held button true
  | .onScreen, .buttonUp button => Function.update held button false
  | .controller, .pressedChanged button pressed => Function.update held button.dsButton pressed
  | .controller, .valueChanged xValue yValue =>
    Function.update (Function.update (Function.update (Function.update held
      .right (xValue > 1 / 2)) .left (xValue < -1 / 2)) .up (yValue > 1 / 2)) .down
        (yValue < -1 / 2)
  | .controller, .controllerDisconnected => fun _ => false
  | _, _ => held

/-- The buttons that are held on a source after the events `es`. -/
def heldOn (source : KeySource) (es : List KeyEvent) : DSButton → Bool :=
  es.foldl (fun held e => heldAfter held source e) fun _ => false

/-- The source of the last event that handed over a mask. -/
def lastSource (es : List KeyEvent) : Option KeySource :=
  (es.filterMap KeyEvent.source?).getLast?

/-- The mask shows which buttons are held: their bits are clear and the other ones set. -/
def Shows {w : ℕ} (mask : BitVec w) (held : DSButton → Bool) : Prop :=
  ∀ button, mask.getLsbD button.rawValue = !held button

/-! ### The bits -/

/-- The buttons have twelve bits. -/
theorem DSButton.rawValue_lt (button : DSButton) : button.rawValue < 12 := by
  cases button <;> decide

/-- A button of the gamepad sets the bit of a button of the DS. -/
theorem GamepadButton.bit_eq (button : GamepadButton) : button.bit = button.dsButton.rawValue := by
  cases button <;> rfl

/-- The bit that a shift sets. -/
theorem getLsbD_one_shiftLeft (button button' : DSButton) :
    ((1 : UInt32) <<< UInt32.ofNat button.rawValue).toBitVec.getLsbD button'.rawValue =
      decide (button' = button) := by
  cases button <;> cases button' <;> rfl

/-- The bits of the masks that have all keys released. -/
theorem shows_released : Shows (0xFFF : UInt32).toBitVec fun _ => false := by
  intro button
  cases button <;> rfl

/-- At first no button is held. -/
theorem shows_pending : Shows ({} : EmulatorCore.PendingInput).keyMask.toBitVec fun _ => false := by
  intro button
  cases button <;> rfl

/-- What changes one bit changes what is held of one button. -/
theorem shows_maskWith {mask : UInt32} {held : DSButton → Bool} (h : Shows mask.toBitVec held)
    (button : DSButton) (pressed : Bool) :
    Shows (maskWith button.rawValue pressed mask).toBitVec
      (Function.update held button pressed) := by
  intro button'
  have hwidth : button'.rawValue < 32 := Nat.lt_trans button'.rawValue_lt (by decide)
  have hbit := getLsbD_one_shiftLeft button button'
  unfold maskWith
  cases pressed with
  | true =>
    -- a press clears the bit
    rw [if_pos rfl, UInt32.toBitVec_and, UInt32.toBitVec_not, BitVec.getLsbD_and,
      BitVec.getLsbD_not, hbit, h button']
    by_cases heq : button' = button
    · simp [heq, Function.update_self]
    · simp [heq, Function.update_of_ne, hwidth]
  | false =>
    -- a release sets it
    rw [if_neg Bool.false_ne_true, UInt32.toBitVec_or, BitVec.getLsbD_or, hbit, h button']
    by_cases heq : button' = button
    · simp [heq, Function.update_self]
    · simp [heq, Function.update_of_ne]

/-- The emulator keeps the twelve bits of the mask that it is handed. -/
theorem shows_setKeyMask {mask : UInt32} {held : DSButton → Bool} (h : Shows mask.toBitVec held)
    (pending : EmulatorCore.PendingInput) :
    Shows (EmulatorCore.setKeyMask mask pending).keyMask.toBitVec held := by
  intro button
  -- the mask of twelve bits has the bit of every button
  have hkept : (0x0FFF : UInt16).toBitVec.getLsbD button.rawValue = true := by
    cases button <;> rfl
  have hwidth : button.rawValue < 16 := Nat.lt_trans button.rawValue_lt (by decide)
  show (mask.toUInt16 &&& 0x0FFF).toBitVec.getLsbD _ = _
  rw [UInt16.toBitVec_and, BitVec.getLsbD_and, hkept, Bool.and_true, UInt32.toBitVec_toUInt16,
    BitVec.getLsbD_setWidth, h button, decide_eq_true hwidth, Bool.true_and]

/-! ### Every run -/

/-- What is held on a source after one more event. -/
theorem heldOn_concat (source : KeySource) (es : List KeyEvent) (e : KeyEvent) :
    heldOn source (es ++ [e]) = heldAfter (heldOn source es) source e := by
  unfold heldOn
  rw [List.foldl_append, List.foldl_cons, List.foldl_nil]

/-- The source of the last event. -/
theorem lastSource_concat (es : List KeyEvent) (e : KeyEvent) :
    lastSource (es ++ [e]) = e.source?.or (lastSource es) := by
  unfold lastSource
  rw [List.filterMap_append]
  cases he : e.source? with
  | none => rw [List.filterMap_cons_none he, List.filterMap_nil, List.append_nil, Option.none_or]
  | some source =>
    rw [List.filterMap_cons_some he, List.filterMap_nil, List.getLast?_concat, Option.some_or]

/-- What the source of the last event holds. -/
def heldOnLast (es : List KeyEvent) : DSButton → Bool :=
  match lastSource es with
  | none => fun _ => false
  | some source => heldOn source es

/-- What is held on the source of the last event. -/
theorem heldOnLast_concat {es : List KeyEvent} {e : KeyEvent} {source : KeySource}
    (he : e.source? = some source) :
    heldOnLast (es ++ [e]) = heldAfter (heldOn source es) source e := by
  unfold heldOnLast
  rw [lastSource_concat, he, Option.some_or]
  exact heldOn_concat source es e

namespace KeyInputs

/-- What each mask shows after the events `es`. -/
structure Inv (es : List KeyEvent) (s : KeyInputs) : Prop where
  onScreen : Shows s.onScreen.toBitVec (heldOn .onScreen es)
  controller : Shows s.controller.toBitVec (heldOn .controller es)
  pending : Shows s.pending.keyMask.toBitVec (heldOnLast es)
  /-- Nothing is held before a first event. -/
  none : lastSource es = none → ∀ source button, heldOn source es button = false

/-- An event of the screen hands over the mask of the screen. -/
theorem Inv.setOnScreen {es : List KeyEvent} {s : KeyInputs} (h : Inv es s) {e : KeyEvent}
    (button : DSButton) (pressed : Bool) (he : e.source? = some .onScreen)
    (honScreen : ∀ held, heldAfter held .onScreen e = Function.update held button pressed)
    (hcontroller : ∀ held, heldAfter held .controller e = held) :
    Inv (es ++ [e]) (s.setOnScreen button pressed) := by
  have hmask : Shows (maskWith button.rawValue pressed s.onScreen).toBitVec
      (heldOn .onScreen (es ++ [e])) := by
    rw [heldOn_concat, honScreen]
    exact shows_maskWith h.onScreen button pressed
  constructor
  case onScreen => exact hmask
  case controller =>
    rw [heldOn_concat, hcontroller]
    exact h.controller
  case pending =>
    rw [heldOnLast_concat he, ← heldOn_concat]
    exact shows_setKeyMask hmask s.pending
  case none =>
    rw [lastSource_concat, he, Option.some_or]
    exact nofun

/-- An event of the gamepad hands over its mask. -/
theorem Inv.controllerMask {es : List KeyEvent} {s t : KeyInputs} (h : Inv es s) {e : KeyEvent}
    (he : e.source? = some .controller) (honScreen : ∀ held, heldAfter held .onScreen e = held)
    (hscreen : t.onScreen = s.onScreen)
    (hmask : Shows t.controller.toBitVec (heldAfter (heldOn .controller es) .controller e))
    (hpending : ∃ pending, t.pending = EmulatorCore.setKeyMask t.controller pending) :
    Inv (es ++ [e]) t := by
  constructor
  case onScreen =>
    rw [heldOn_concat, honScreen, hscreen]
    exact h.onScreen
  case controller =>
    rw [heldOn_concat]
    exact hmask
  case pending =>
    obtain ⟨pending, hpending⟩ := hpending
    rw [heldOnLast_concat he, hpending]
    exact shows_setKeyMask hmask pending
  case none =>
    rw [lastSource_concat, he, Option.some_or]
    exact nofun

/-- A controller that connects holds nothing yet. -/
theorem Inv.controllerConnected {es : List KeyEvent} {s : KeyInputs} (h : Inv es s) :
    Inv (es ++ [.controllerConnected]) { s with isConnected := true } := by
  have hlast : lastSource (es ++ [.controllerConnected]) = lastSource es :=
    lastSource_concat es .controllerConnected
  have hheld : ∀ source, heldOn source (es ++ [.controllerConnected]) = heldOn source es := by
    intro source
    rw [heldOn_concat]
    cases source <;> rfl
  constructor
  case onScreen => exact hheld .onScreen ▸ h.onScreen
  case controller => exact hheld .controller ▸ h.controller
  case pending =>
    have heldLast : heldOnLast (es ++ [.controllerConnected]) = heldOnLast es := by
      unfold heldOnLast
      rw [hlast]
      simp only [hheld]
    exact heldLast ▸ h.pending
  case none =>
    intro hnone source button
    rw [hheld]
    exact h.none (hlast.symm.trans hnone) source button

/-- The step lemma. -/
theorem Inv.step {es : List KeyEvent} {s t : KeyInputs} (h : Inv es s) {e : KeyEvent}
    (he : s.step e = some t) : Inv (es ++ [e]) t := by
  cases e with
  | buttonDown button =>
    obtain rfl := Option.some.inj he
    exact h.setOnScreen button true rfl (fun _ => rfl) fun _ => rfl
  | buttonUp button =>
    obtain rfl := Option.some.inj he
    exact h.setOnScreen button false rfl (fun _ => rfl) fun _ => rfl
  | controllerConnected =>
    obtain ⟨-, ht⟩ := Option.ite_none_left_eq_some.mp he
    obtain rfl := Option.some.inj ht
    exact h.controllerConnected
  | pressedChanged button pressed =>
    obtain ⟨-, ht⟩ := Option.ite_none_right_eq_some.mp he
    obtain rfl := Option.some.inj ht
    refine h.controllerMask rfl (fun _ => rfl) rfl ?_ ⟨s.pending, rfl⟩
    show Shows (maskWith button.bit pressed s.controller).toBitVec _
    rw [button.bit_eq]
    exact shows_maskWith h.controller button.dsButton pressed
  | valueChanged xValue yValue =>
    obtain ⟨-, ht⟩ := Option.ite_none_right_eq_some.mp he
    obtain rfl := Option.some.inj ht
    refine h.controllerMask rfl (fun _ => rfl) rfl ?_ ⟨_, rfl⟩
    -- the stick is four updates of the mask, in the order of the handler
    have hright := shows_maskWith h.controller .right (xValue > 1 / 2)
    have hleft := shows_maskWith hright .left (xValue < -1 / 2)
    have hup := shows_maskWith hleft .up (yValue > 1 / 2)
    exact shows_maskWith hup .down (yValue < -1 / 2)
  | controllerDisconnected =>
    obtain ⟨-, ht⟩ := Option.ite_none_right_eq_some.mp he
    obtain rfl := Option.some.inj ht
    -- a disconnect hands over a mask with all keys released
    exact h.controllerMask rfl (fun _ => rfl) rfl shows_released ⟨s.pending, rfl⟩

/-- The run lemma. -/
theorem inv_of_exec {es : List KeyEvent} {s : KeyInputs} (h : exec step {} es = some s) :
    Inv es s := by
  refine Automaton.exec_invariant ?_ (fun es s e t hs he => hs.step he) h
  exact ⟨shows_released, shows_released, shows_pending, fun _ _ _ => rfl⟩

end KeyInputs

/-- The mask shows what is held on either source. -/
def Merges (mask : UInt16) (es : List KeyEvent) : Prop :=
  ∀ button : DSButton, mask.toBitVec.getLsbD button.rawValue = false ↔
    heldOn .onScreen es button = true ∨ heldOn .controller es button = true

/-- The source of the last event holds every button that the other one holds. -/
def Covers (es : List KeyEvent) : Prop :=
  ∀ source, lastSource es = some source → ∀ button, heldOn source.other es button = true →
    heldOn source es button = true

/-- The last source covers the other one exactly where it holds what either holds. -/
theorem covers_iff {es : List KeyEvent}
    (hnone : lastSource es = none → ∀ source button, heldOn source es button = false) :
    Covers es ↔ ∀ button, heldOnLast es button = true ↔
      heldOn .onScreen es button = true ∨ heldOn .controller es button = true := by
  unfold Covers heldOnLast
  cases hlast : lastSource es with
  | none =>
    -- no source has reported, so nothing is held
    have hfree := hnone hlast
    exact iff_of_true nofun fun button => by simp only [hfree, Bool.false_eq_true, or_self]
  | some source =>
    constructor
    · -- what the other source holds adds nothing
      intro hcovers button
      have hother := hcovers source rfl button
      cases source with
      | onScreen => exact ⟨.inl, fun hheld => hheld.elim id hother⟩
      | controller => exact ⟨.inr, fun hheld => hheld.elim hother id⟩
    · rintro heither source' ⟨⟩ button hother
      apply (heither button).mpr
      cases source with
      | onScreen => exact .inr hother
      | controller => exact .inl hother

end DSEmu

import Mathlib.Algebra.Ring.Nat
import Mathlib.Data.List.Basic
import DSEmu.Library.Automaton
import DSEmu.Protocol.Message

/-!
# Battery saves

The save memory of the games: `EmulatorCore.loadROM` reads it, `Platform::WriteNDSSave` in
`DSEmu/Bridge/platform_ios.cpp` writes it, and both use the one file `save.sav` in the data
directory, whatever ROM it is about. The app is a machine over its launches. A file that is there
can be read, and a write that is begun is completed; that `fopen` fails is an event of its own.

What every ROM should be given is kept beside the file: `written` lists the saves, the newest one
first, each with the ROM that was loaded. `sramData_eq_lastSave_iff` compares the two. A ROM is
given its own last save exactly if the newest save of all is its own, or has the same bytes, or
there is none.
-/

namespace DSEmu

open Automaton

/-- The arguments of `melonds_load_rom`: without a save, the pointer is null and the size zero. -/
structure LoadROMCall where
  romData : Data
  sramData : Option Data
  deriving DecidableEq

/-- The storage and the process of the app, over ROM files `ρ`. `written` is not in the code. -/
structure SaveState (ρ : Type) where
  /-- `save.sav` -/
  saveFile : Option Data := none
  /-- the ROM whose game the emulation thread runs, where `emuThread` is not `nil` -/
  loaded : Option ρ := none
  written : List (ρ × Data) := []
  deriving DecidableEq

/-- What happens to the app. -/
inductive SaveEvent (ρ : Type) where
  /-- the app is launched again, after its process has ended -/
  | launch
  /-- `loadROM(at:)` -/
  | loadROM (rom : ρ)
  /-- the game that runs writes its save memory, and `fopen` opens the file or not -/
  | writeNDSSave (opened : Bool) (savedata : Data)

/-- The save that was written last while a ROM was loaded. -/
def lastSave {ρ : Type} [DecidableEq ρ] (rom : ρ) (written : List (ρ × Data)) : Option Data :=
  (written.find? fun save => save.1 = rom).map Prod.snd

namespace SaveState

variable {ρ : Type} (contents : ρ → Option Data) (parseROM : Data → Option Data → Bool)

/-- The call of `melonds_load_rom` that `loadROM` makes, if it comes to one. An empty buffer is
taken to have a base address, so that the call is made; a length that is no `UInt32` traps. -/
def loadROMCall (rom : ρ) (s : SaveState ρ) : Option LoadROMCall :=
  if s.loaded.isSome then none
  else
    match contents rom with
    | none => none
    | some romData =>
      if 2 ^ 32 ≤ romData.length then none
      else
        match s.saveFile with
        | some sramData =>
          if 2 ^ 32 ≤ sramData.length then none else some ⟨romData, some sramData⟩
        | none => some ⟨romData, none⟩

/-- `melonds_load_rom`, which succeeds where `ParseROM` makes a cartridge of the ROM and the save. A
save of size zero is none. -/
def melondsLoadROM (call : LoadROMCall) : Bool :=
  if call.romData = [] then false else parseROM call.romData (call.sramData.filter (· ≠ []))

/-- `WriteNDSSave`. -/
def writeNDSSave (opened : Bool) (savedata : Data) (saveFile : Option Data) : Option Data :=
  if opened then some savedata else saveFile

/-- One event. -/
def step (s : SaveState ρ) : SaveEvent ρ → Option (SaveState ρ)
  | .launch => some { s with loaded := none }
  | .loadROM rom =>
    match loadROMCall contents rom s with
    | some call =>
      some (if melondsLoadROM parseROM call then { s with loaded := some rom } else s)
    | none => some s
  | .writeNDSSave opened savedata =>
    s.loaded.map fun rom =>
      { s with
        saveFile := writeNDSSave opened savedata s.saveFile
        written := if opened then (rom, savedata) :: s.written else s.written }

/-- Loading a ROM changes neither the file nor the saves. -/
theorem step_loadROM {s t : SaveState ρ} {rom : ρ}
    (h : step contents parseROM s (.loadROM rom) = some t) :
    t.saveFile = s.saveFile ∧ t.written = s.written := by
  rw [step] at h
  split at h
  · obtain rfl := Option.some.inj h
    split <;> exact ⟨rfl, rfl⟩
  · obtain rfl := Option.some.inj h
    exact ⟨rfl, rfl⟩

/-- The file has the newest save of all. -/
def Newest (s : SaveState ρ) : Prop := s.saveFile = s.written.head?.map Prod.snd

/-- Every event keeps it so. -/
theorem newest_step (s : SaveState ρ) (e : SaveEvent ρ) (t : SaveState ρ) (h : s.Newest)
    (he : step contents parseROM s e = some t) : t.Newest := by
  cases e with
  | launch =>
    obtain rfl := Option.some.inj he
    exact h
  | loadROM rom =>
    obtain ⟨hfile, hwritten⟩ := step_loadROM contents parseROM he
    rw [Newest, hfile, hwritten]
    exact h
  | writeNDSSave opened savedata =>
    obtain ⟨rom, -, rfl⟩ := Option.map_eq_some_iff.mp he
    cases opened with
    | true => rfl
    | false => exact h

/-- The file has the newest save after every run. -/
theorem newest_exec {events : List (SaveEvent ρ)} {s : SaveState ρ}
    (h : exec (step contents parseROM) {} events = some s) : s.Newest :=
  exec_preserves (newest_step contents parseROM) (show Newest ({} : SaveState ρ) from rfl) h

/-- What is passed for the save is the file. -/
theorem sramData_of_loadROMCall {s : SaveState ρ} {rom : ρ} {call : LoadROMCall}
    (h : loadROMCall contents rom s = some call) : call.sramData = s.saveFile := by
  unfold loadROMCall at h
  split_ifs at h
  split at h
  · exact absurd h nofun
  · split_ifs at h
    split at h
    · rename_i sramData hfile
      split_ifs at h
      rw [hfile, ← Option.some.inj h]
    · rename_i hfile
      rw [hfile, ← Option.some.inj h]

variable [DecidableEq ρ]

/-- A save that has just been written is the last one. -/
theorem lastSave_cons_self (rom : ρ) (savedata : Data) (written : List (ρ × Data)) :
    lastSave rom ((rom, savedata) :: written) = some savedata := by
  rw [lastSave, List.find?_cons_of_pos (by simp)]
  rfl

/-- The newest save of all is the ROM's own, or has the bytes of the ROM's own last one, or there is
none. -/
def OwnNewest (rom : ρ) (written : List (ρ × Data)) : Prop :=
  ∀ save ∈ written.head?, save.1 = rom ∨ lastSave rom written = some save.2

/-- After any launches, loads and saves, a ROM that is loaded is given the save that was written
last while it was loaded exactly if the newest save of all is its own, or has the same bytes, or
there is none. -/
theorem sramData_eq_lastSave_iff {events : List (SaveEvent ρ)} {s : SaveState ρ} {rom : ρ}
    {call : LoadROMCall} (hs : exec (step contents parseROM) {} events = some s)
    (hcall : loadROMCall contents rom s = some call) :
    call.sramData = lastSave rom s.written ↔ OwnNewest rom s.written := by
  have hfile : call.sramData = s.written.head?.map Prod.snd :=
    (sramData_of_loadROMCall contents hcall).trans (newest_exec contents parseROM hs)
  rw [hfile]
  cases hwritten : s.written with
  | nil => exact iff_of_true rfl nofun
  | cons save written =>
    obtain ⟨rom', savedata⟩ := save
    have hown : OwnNewest rom ((rom', savedata) :: written) ↔
        rom' = rom ∨ lastSave rom ((rom', savedata) :: written) = some savedata := by
      simp [OwnNewest]
    rw [hown]
    constructor
    · intro h
      exact Or.inr h.symm
    · rintro (rfl | h)
      · exact (lastSave_cons_self rom' savedata written).symm
      · exact h.symm

/-- A game saves, and is loaded again after another launch: it is given its save. -/
theorem sramData_eq_lastSave_one_game :
    (⟨[1], some [7]⟩ : LoadROMCall).sramData = lastSave 1 [(1, [7])] := by
  have hs : exec (step (fun rom : ℕ => some [UInt8.ofNat rom]) fun _ _ => true) {}
      [.loadROM 1, .writeNDSSave true [7], .launch] = some ⟨some [7], none, [(1, [7])]⟩ := by decide
  have hcall : loadROMCall (fun rom : ℕ => some [UInt8.ofNat rom]) 1 ⟨some [7], none, [(1, [7])]⟩ =
      some ⟨[1], some [7]⟩ := by decide
  exact (sramData_eq_lastSave_iff _ _ hs hcall).mpr (by simp [OwnNewest])

/-- Two games save, in two launches. The first one, loaded again, is given the save of the
second. -/
theorem save_of_other_game : ¬ ∀ (events : List (SaveEvent ℕ)) (s : SaveState ℕ) (rom : ℕ)
    (call : LoadROMCall),
    exec (step (fun rom : ℕ => some [UInt8.ofNat rom]) fun _ _ => true) {} events = some s →
      loadROMCall (fun rom : ℕ => some [UInt8.ofNat rom]) rom s = some call →
        call.sramData = lastSave rom s.written := by
  intro h
  have hpassed := h
    [.loadROM 1, .writeNDSSave true [7], .launch, .loadROM 2, .writeNDSSave true [9], .launch]
    ⟨some [9], none, [(2, [9]), (1, [7])]⟩ 1 ⟨[1], some [9]⟩ (by decide) (by decide)
  exact absurd hpassed (by decide)

end SaveState

end DSEmu

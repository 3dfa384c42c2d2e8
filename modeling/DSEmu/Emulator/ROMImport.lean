import Mathlib.Logic.Function.Basic
import DSEmu.Protocol.Message

/-!
# Importing a game

The two `documentPicker(_:didPickDocumentsAt:)` that copy a picked file into the Documents
directory, of `DSEmu/ViewControllers/TwoPhoneSetupViewController.swift` and
`DSEmu/ViewControllers/BottomScreenViewController.swift`. The directory is a map from names to
contents. The picker opens files where they are, so that a picked file is outside of the directory
or is itself a file of it; two URLs of one file of the directory have one `standardizedFileURL`.

A remove or a copy may fail, also where nothing in the directory is in its way (`Outcomes`), and
then leaves the directory as it was. What a delegate does beside the files (the recent games, the
alert, the launch of the game) is left out; the game is loaded from the file and writes none.
-/

namespace DSEmu

/-- The contents of the files of the Documents directory. -/
abbrev Documents := String → Option Data

/-- A picked file, with its `lastPathComponent`. -/
inductive PickedFile where
  | outside (name : String) (contents : Data)
  | inside (name : String)

namespace PickedFile

def name : PickedFile → String
  | outside name _ => name
  | inside name => name

def isInside : PickedFile → Bool
  | outside _ _ => false
  | inside _ => true

/-- What is read from the file. -/
def contents (folder : Documents) : PickedFile → Option Data
  | outside _ contents => some contents
  | inside name => folder name

end PickedFile

/-- Whether the access to the picked file is granted, and whether a remove or a copy that can
succeed does. -/
structure Outcomes where
  access : Bool
  remove : Bool
  copy : Bool

/-- `removeItem(at:)`, of a file of the directory: `none` where it throws. -/
def removeItem (o : Outcomes) (name : String) (folder : Documents) : Option Documents :=
  if (folder name).isSome && o.remove then some (Function.update folder name none) else none

/-- `copyItem(at:to:)`, to a name in the directory: `none` where it throws, as it does where the
name is taken or there is nothing to copy. -/
def copyItem (o : Outcomes) (source : PickedFile) (name : String) (folder : Documents) :
    Option Documents :=
  match source.contents folder with
  | none => none
  | some contents =>
    if (folder name).isNone && o.copy then some (Function.update folder name (some contents))
    else none

/-- `pathExtension`: what follows the last point of a name, if something comes before it. -/
def pathExtension (name : String) : String :=
  let reversed := name.toList.reverse
  if '.' ∈ reversed ∧ (reversed.dropWhile (· != '.')).drop 1 ≠ [] then
    .ofList (reversed.takeWhile (· != '.')).reverse
  else ""

/-- The test of the extension, which ignores case. -/
def isNDS (source : PickedFile) : Bool :=
  (pathExtension source.name).toList.map Char.toLower == "nds".toList

/-- The directory after `TwoPhoneSetupViewController.documentPicker`. It asks for the access and
goes on without it. -/
def setupDocumentPicker (o : Outcomes) (source : PickedFile) (folder : Documents) : Documents :=
  if isNDS source then
    -- The URLs of the source and of the destination are different.
    if !source.isInside then
      if (folder source.name).isSome then
        match removeItem o source.name folder with
        | none => folder
        | some removed => (copyItem o source source.name removed).getD removed
      else
        (copyItem o source source.name folder).getD folder
    else folder
  else folder

/-- The directory after `BottomScreenViewController.documentPicker`. -/
def bottomScreenDocumentPicker (o : Outcomes) (source : PickedFile) (folder : Documents) :
    Documents :=
  if o.access then
    let removed := (removeItem o source.name folder).getD folder
    (copyItem o source source.name removed).getD removed
  else folder

/-- Nothing is lost: the destination holds what was picked, or the directory is as it was; a picked
file of the directory keeps its contents; and no other file changes. -/
structure LosesNothing (source : PickedFile) (folder folder' : Documents) : Prop where
  imported : (∃ contents, source.contents folder = some contents ∧
    folder' source.name = some contents) ∨ folder' = folder
  kept : source.isInside = true → folder' source.name = folder source.name
  others : ∀ name, name ≠ source.name → folder' name = folder name

namespace LosesNothing

variable {source : PickedFile} {folder : Documents}

theorem refl (source : PickedFile) (folder : Documents) : LosesNothing source folder folder :=
  ⟨.inr rfl, fun _ => rfl, fun _ _ => rfl⟩

/-- A file from outside has been copied. -/
theorem of_copied {name : String} {contents : Data} {folder folder' : Documents}
    (hothers : ∀ other, other ≠ name → folder' other = folder other) :
    LosesNothing (.outside name contents) folder
      (Function.update folder' name (some contents)) := by
  constructor
  case imported => exact .inl ⟨contents, rfl, Function.update_self _ _ _⟩
  case kept => exact nofun
  case others =>
    intro other hne
    have hne' : other ≠ name := hne
    rw [Function.update_of_ne hne']
    exact hothers other hne

/-- A file has been removed and nothing has been put in its place. -/
theorem not_removed (source : PickedFile) (hthere : (folder source.name).isSome = true) :
    ¬ LosesNothing source folder (Function.update folder source.name none) := by
  intro h
  obtain ⟨contents, hcontents⟩ := Option.isSome_iff_exists.mp hthere
  have hgone : Function.update folder source.name none source.name = none :=
    Function.update_self _ _ _
  rcases h.imported with ⟨new, -, hnew⟩ | hsame
  · exact nomatch hgone.symm.trans hnew
  · exact nomatch hgone.symm.trans ((congrFun hsame _).trans hcontents)

end LosesNothing

/-! ### What a remove and a copy do -/

theorem removeItem_eq (o : Outcomes) {name : String} {folder : Documents}
    (hthere : (folder name).isSome = true) : removeItem o name folder =
      if o.remove then some (Function.update folder name none) else none := by
  unfold removeItem
  rw [hthere, Bool.true_and]

theorem removeItem_of_absent (o : Outcomes) {name : String} {folder : Documents}
    (habsent : (folder name).isSome = false) : removeItem o name folder = none := by
  unfold removeItem
  rw [habsent, Bool.false_and, if_neg Bool.false_ne_true]

/-- A copy over a file that is there throws, from wherever. -/
theorem copyItem_of_taken (o : Outcomes) (source : PickedFile) {name : String} {folder : Documents}
    (hthere : (folder name).isSome = true) : copyItem o source name folder = none := by
  obtain ⟨taken, htaken⟩ := Option.isSome_iff_exists.mp hthere
  unfold copyItem
  cases source.contents folder with
  | none => rfl
  | some contents =>
    simp only [htaken, Option.isNone_some, Bool.false_and]
    exact if_neg Bool.false_ne_true

/-- A copy from outside to a free name. -/
theorem copyItem_outside (o : Outcomes) (name : String) (contents : Data) {folder : Documents}
    (habsent : folder name = none) : copyItem o (.outside name contents) name folder =
      if o.copy then some (Function.update folder name (some contents)) else none := by
  unfold copyItem
  simp only [PickedFile.contents, habsent, Option.isNone_none, Bool.true_and]

/-- A copy of a file of the directory that is not there. -/
theorem copyItem_inside (o : Outcomes) {name : String} {folder : Documents}
    (habsent : folder name = none) : copyItem o (.inside name) name folder = none := by
  unfold copyItem
  simp only [PickedFile.contents, habsent]

/-- A copy from outside to a free name loses nothing, whether or not it succeeds. -/
theorem losesNothing_copy (o : Outcomes) (name : String) (contents : Data) {folder : Documents}
    (habsent : folder name = none) : LosesNothing (.outside name contents) folder
      ((copyItem o (.outside name contents) name folder).getD folder) := by
  rw [copyItem_outside o name contents habsent]
  split
  · exact .of_copied fun _ _ => rfl
  · exact .refl _ _

/-- What is put in place of a removed file. -/
theorem losesNothing_replace_iff (o : Outcomes) (name : String) (contents : Data)
    {folder : Documents} (hthere : (folder name).isSome = true) :
    LosesNothing (.outside name contents) folder
        ((copyItem o (.outside name contents) name (Function.update folder name none)).getD
          (Function.update folder name none)) ↔ o.copy = true := by
  rw [copyItem_outside o name contents (Function.update_self _ _ _)]
  cases hcopy : o.copy with
  | false =>
    exact iff_of_false (LosesNothing.not_removed (.outside name contents) hthere) nofun
  | true =>
    refine iff_of_true (LosesNothing.of_copied fun other hne => ?_) rfl
    exact Function.update_of_ne hne _ _

/-! ### The two importers -/

/-- The setup screen loses something where it has removed a file and the copy fails. -/
theorem setupDocumentPicker_losesNothing_iff (o : Outcomes) (source : PickedFile)
    (folder : Documents) : LosesNothing source folder (setupDocumentPicker o source folder) ↔
      ¬ (isNDS source = true ∧ source.isInside = false ∧ (folder source.name).isSome = true ∧
        o.remove = true ∧ o.copy = false) := by
  unfold setupDocumentPicker
  cases hnds : isNDS source with
  | false => exact iff_of_true (.refl _ _) nofun
  | true =>
    cases source with
    | inside name => exact iff_of_true (.refl _ _) nofun
    | outside name contents =>
      have houtside : (!(PickedFile.outside name contents).isInside) = true := rfl
      rw [if_pos rfl, if_pos houtside]
      by_cases hthere : (folder (PickedFile.outside name contents).name).isSome = true
      case neg =>
        rw [if_neg hthere]
        refine iff_of_true ?_ fun h => hthere h.2.2.1
        exact losesNothing_copy o name contents (Option.not_isSome_iff_eq_none.mp hthere)
      case pos =>
        rw [if_pos hthere, removeItem_eq o hthere]
        cases hremove : o.remove with
        | false => exact iff_of_true (.refl _ _) fun h => Bool.false_ne_true h.2.2.2.1
        | true =>
          simp only [if_true, hthere, PickedFile.isInside, true_and, Bool.not_eq_false]
          exact losesNothing_replace_iff o name contents hthere

/-- The game screen loses something where it has removed a file and does not copy one in its place,
as it never does with a file of the directory itself. -/
theorem bottomScreenDocumentPicker_losesNothing_iff (o : Outcomes) (source : PickedFile)
    (folder : Documents) :
    LosesNothing source folder (bottomScreenDocumentPicker o source folder) ↔
      (o.access = false ∨ (folder source.name).isSome = false ∨ o.remove = false ∨
        source.isInside = false ∧ o.copy = true) := by
  unfold bottomScreenDocumentPicker
  cases haccess : o.access with
  | false => exact iff_of_true (.refl _ _) (.inl rfl)
  | true =>
    rw [if_pos rfl]
    by_cases hthere : (folder source.name).isSome = true
    case neg =>
      -- nothing is removed, so that a copy that fails loses nothing
      have habsent : folder source.name = none := Option.not_isSome_iff_eq_none.mp hthere
      simp only [removeItem_of_absent o (Bool.eq_false_iff.mpr hthere), Option.getD_none]
      refine iff_of_true ?_ (.inr (.inl (Bool.eq_false_iff.mpr hthere)))
      cases source with
      | outside name contents => exact losesNothing_copy o name contents habsent
      | inside name =>
        have hnothing : copyItem o (.inside name) name folder = none := copyItem_inside o habsent
        simp only [PickedFile.name, hnothing, Option.getD_none]
        exact .refl _ _
    case pos =>
      simp only [removeItem_eq o hthere]
      cases hremove : o.remove with
      | false =>
        simp only [Bool.false_eq_true, if_false, Option.getD_none,
          copyItem_of_taken o source hthere]
        exact iff_of_true (.refl _ _) (.inr (.inr (.inl trivial)))
      | true =>
        simp only [if_true, Option.getD_some, hthere, Bool.true_eq_false, false_or]
        cases source with
        | outside name contents =>
          simp only [PickedFile.isInside, true_and]
          exact losesNothing_replace_iff o name contents hthere
        | inside name =>
          -- the file that was picked is the one that was removed
          have hgone : copyItem o (.inside name) name (Function.update folder name none) = none :=
            copyItem_inside o (Function.update_self _ _ _)
          simp only [PickedFile.isInside, PickedFile.name, hgone, Option.getD_none,
            Bool.true_eq_false, false_and, iff_false]
          exact LosesNothing.not_removed (.inside name) hthere

/-- An import loses nothing if and only if it does not remove a file without a copy in its place. -/
theorem romImport_losesNothing_iff (o : Outcomes) (source : PickedFile) (folder : Documents) :
    (LosesNothing source folder (setupDocumentPicker o source folder) ↔
      ¬ (isNDS source = true ∧ source.isInside = false ∧ (folder source.name).isSome = true ∧
        o.remove = true ∧ o.copy = false)) ∧
    (LosesNothing source folder (bottomScreenDocumentPicker o source folder) ↔
      (o.access = false ∨ (folder source.name).isSome = false ∨ o.remove = false ∨
        source.isInside = false ∧ o.copy = true)) :=
  ⟨setupDocumentPicker_losesNothing_iff o source folder,
    bottomScreenDocumentPicker_losesNothing_iff o source folder⟩

/-- A file of the directory that is picked on the game screen is removed, and a copy that fails on
the setup screen leaves nothing of the file that it was to replace. -/
theorem romImport_loses :
    ¬ LosesNothing (.inside "game.nds") (fun _ => some [1])
        (bottomScreenDocumentPicker ⟨true, true, true⟩ (.inside "game.nds") fun _ => some [1]) ∧
      ¬ LosesNothing (.outside "game.nds" [2]) (fun _ => some [1])
        (setupDocumentPicker ⟨true, true, false⟩ (.outside "game.nds" [2]) fun _ => some [1]) := by
  constructor
  · rw [bottomScreenDocumentPicker_losesNothing_iff]
    rintro (h | h | h | h)
    · exact nomatch h
    · exact nomatch h
    · exact nomatch h
    · exact nomatch h.1
  · rw [setupDocumentPicker_losesNothing_iff]
    exact fun h => h ⟨by decide, rfl, rfl, rfl, rfl⟩

end DSEmu

import Mathlib.Algebra.Ring.Int.Defs
import Mathlib.Data.Int.Notation
import Mathlib.Data.List.Nodup
import DSEmu.Session.Session

/-!
# The launch arguments

`TwoPhoneConfiguration.init(arguments:preferences:)` of `DSEmu/TwoPhone/TwoPhoneConfiguration.swift`
and what it reads of `TwoPhonePreferences`. A string is a sequence of characters. The part of the
configuration that a session reads is `TwoPhoneConfiguration`, with the bounds of its fields; here
is the rest of it.

`init` looks for each option by itself, in the whole list, first for its inline spelling and then
for the split one. `Spells values scripted pieces` says that the list is put together from pieces
that spell an assignment of values to options, in any order and with other arguments between them.
No argument is taken for an option that it does not spell: an inline key is a prefix only of its own
option's argument, since keys have no `=` in them (`eq_of_inlinePrefix`).
-/

namespace DSEmu

/-- `TwoPhoneRole`. -/
inductive TwoPhoneRole where
  | standalone
  | controller
  | display
  deriving DecidableEq, Repr

/-- `TwoPhoneRole.init(rawValue:)`. -/
def TwoPhoneRole.ofRawValue (rawValue : String) : Option TwoPhoneRole :=
  if rawValue = "standalone" then some .standalone
  else if rawValue = "controller" then some .controller
  else if rawValue = "display" then some .display
  else none

/-- What `TwoPhonePreferences` has stored. -/
structure TwoPhonePreferences where
  /-- The string under `selectedRoleKey`. -/
  roleName : Option String := none
  selectedROMName : Option String := none

namespace TwoPhonePreferences

/-- `selectedRole`. -/
def selectedRole (preferences : TwoPhonePreferences) : Option TwoPhoneRole :=
  preferences.roleName.bind TwoPhoneRole.ofRawValue

/-- `hasCompletedSetup`. -/
def hasCompletedSetup (preferences : TwoPhonePreferences) : Bool :=
  match preferences.selectedRole with
  | none => false
  | some .standalone => false
  | some _ => preferences.selectedROMName.isSome

end TwoPhonePreferences

/-! ### Integers as strings -/

/-- The number that a sequence of digits spells. -/
def parseDigits (digits : List Char) : Option ℕ :=
  if digits ≠ [] ∧ digits.all Char.isDigit then
    some (digits.foldl (fun n digit => n * 10 + (digit.toNat - '0'.toNat)) 0)
  else none

/-- The integer that a string spells: digits after at most one sign. -/
def parseInteger (description : String) : Option ℤ :=
  match description.toList with
  | '-' :: digits => (parseDigits digits).map fun n => -(n : ℤ)
  | '+' :: digits => (parseDigits digits).map Int.ofNat
  | digits => (parseDigits digits).map Int.ofNat

/-- `UInt16.init(_:)`, of a string. -/
def parseUInt16 (description : String) : Option UInt16 :=
  (parseInteger description).bind fun n =>
    if 0 ≤ n ∧ n < 2 ^ 16 then some (.ofNat n.toNat) else none

/-- `UInt64.init(_:)`, of a string. -/
def parseUInt64 (description : String) : Option UInt64 :=
  (parseInteger description).bind fun n =>
    if 0 ≤ n ∧ n < 2 ^ 64 then some (.ofNat n.toNat) else none

/-- `Int.init(_:)`, of a string. -/
def parseInt (description : String) : Option ℤ :=
  (parseInteger description).filter fun n => -2 ^ 63 ≤ n ∧ n < 2 ^ 63

/-! ### `init` -/

/-- A `TwoPhoneConfiguration` with all that `init` sets. -/
structure LaunchConfiguration extends TwoPhoneConfiguration where
  role : TwoPhoneRole
  host : String
  port : UInt16
  autoloadROMName : Option String
  scriptedInputs : Bool
  requiresOnDeviceSetup : Bool
  usesAutomaticDiscovery : Bool

/-- `value(for:in:)`. -/
def argumentValue (key : String) (arguments : List String) : Option String :=
  match arguments.find? fun argument => (key ++ "=").toList.isPrefixOf argument.toList with
  | some inline => some (.ofList (inline.toList.drop (key.toList.length + 1)))
  | none =>
    match arguments.findIdx? (· == key) with
    | none => none
    | some index => arguments[index + 1]?

/-- `max(1, interval)` is positive. -/
theorem max_one_pos (interval : UInt64) : 0 < max 1 interval := by
  have h1 : (1 : UInt64) ≤ max 1 interval := by
    show 1 ≤ if 1 ≤ interval then interval else 1
    split
    case isTrue h => exact h
    case isFalse => decide
  exact UInt64.lt_of_lt_of_le (by decide) h1

/-- `min(8, max(1, window))`. -/
def clampWindow (window : ℤ) : ℕ := (min 8 (max 1 window)).toNat

/-- A window has a frame at least. -/
theorem clampWindow_pos (window : ℤ) : 0 < clampWindow window := by
  unfold clampWindow
  omega

/-- A window has eight frames at most. -/
theorem clampWindow_le (window : ℤ) : clampWindow window ≤ 8 := by
  unfold clampWindow
  omega

/-- `TwoPhoneConfiguration.init(arguments:preferences:)`. -/
def LaunchConfiguration.init (arguments : List String) (preferences : TwoPhonePreferences) :
    LaunchConfiguration :=
  let roleArgument := (argumentValue "--two-phone-role" arguments).bind TwoPhoneRole.ofRawValue
  { role := (roleArgument <|> preferences.selectedRole).getD .standalone
    host := (argumentValue "--two-phone-host" arguments).getD "127.0.0.1"
    port := (parseUInt16 ((argumentValue "--two-phone-port" arguments).getD "47391")).getD 47391
    autoloadROMName :=
      argumentValue "--two-phone-autoload" arguments <|> preferences.selectedROMName
    testFrameLimit := (argumentValue "--two-phone-test-frames" arguments).bind parseUInt64
    checkpointInterval := max 1
      (((argumentValue "--two-phone-checkpoint-interval" arguments).bind parseUInt64).getD 60)
    frameWindow := clampWindow
      (((argumentValue "--two-phone-frame-window" arguments).bind parseInt).getD 4)
    scriptedInputs := arguments.contains "--two-phone-scripted-inputs"
    requiresOnDeviceSetup := roleArgument.isNone
    usesAutomaticDiscovery := roleArgument.isNone && preferences.hasCompletedSetup
    checkpointInterval_pos := max_one_pos _
    frameWindow_pos := clampWindow_pos _
    frameWindow_le := clampWindow_le _ }

/-! ### What an argument list spells -/

/-- The options that have a value. -/
inductive LaunchOption where
  | role
  | host
  | port
  | autoload
  | testFrames
  | checkpointInterval
  | frameWindow
  deriving DecidableEq, Repr

namespace LaunchOption

/-- The name of an option. -/
def key : LaunchOption → String
  | role => "--two-phone-role"
  | host => "--two-phone-host"
  | port => "--two-phone-port"
  | autoload => "--two-phone-autoload"
  | testFrames => "--two-phone-test-frames"
  | checkpointInterval => "--two-phone-checkpoint-interval"
  | frameWindow => "--two-phone-frame-window"

end LaunchOption

/-- A string that begins as the options do. -/
def IsTwoPhone (s : String) : Prop := "--two-phone-".toList <+: s.toList

instance (s : String) : Decidable (IsTwoPhone s) :=
  inferInstanceAs (Decidable ("--two-phone-".toList <+: s.toList))

/-- A piece of an argument list. -/
inductive ArgumentPiece where
  /-- An option, its key and then its value. -/
  | split (option : LaunchOption) (value : String)
  /-- An option, with its value after `=`. -/
  | inline (option : LaunchOption) (value : String)
  | scriptedInputs
  | other (argument : String)

namespace ArgumentPiece

/-- The arguments of a piece. -/
def arguments : ArgumentPiece → List String
  | split option value => [option.key, value]
  | inline option value => [option.key ++ "=" ++ value]
  | scriptedInputs => ["--two-phone-scripted-inputs"]
  | other argument => [argument]

/-- The option that a piece spells. -/
def option? : ArgumentPiece → Option LaunchOption
  | split option _ => some option
  | inline option _ => some option
  | _ => none

/-- The option that a piece spells, with its value. -/
def assigns? : ArgumentPiece → Option (LaunchOption × String)
  | split option value => some (option, value)
  | inline option value => some (option, value)
  | _ => none

/-- No value and no other argument begins as the options do. -/
def Clean : ArgumentPiece → Prop
  | split _ value => ¬ IsTwoPhone value
  | inline _ value => ¬ IsTwoPhone value
  | scriptedInputs => True
  | other argument => ¬ IsTwoPhone argument

instance : (piece : ArgumentPiece) → Decidable piece.Clean
  | split _ value => inferInstanceAs (Decidable (¬ IsTwoPhone value))
  | inline _ value => inferInstanceAs (Decidable (¬ IsTwoPhone value))
  | scriptedInputs => inferInstanceAs (Decidable True)
  | other argument => inferInstanceAs (Decidable (¬ IsTwoPhone argument))

end ArgumentPiece

/-- The pieces spell an assignment: each option that has a value once, and no other. -/
structure Spells (values : LaunchOption → Option String) (scripted : Bool)
    (pieces : List ArgumentPiece) : Prop where
  clean : ∀ piece ∈ pieces, piece.Clean
  once : (pieces.filterMap ArgumentPiece.option?).Nodup
  assigns : ∀ option value,
    values option = some value ↔ (option, value) ∈ pieces.filterMap ArgumentPiece.assigns?
  scripted : scripted = true ↔ .scriptedInputs ∈ pieces

/-- The configuration of an assignment: an option without a value that can be read has its
fallback. -/
def LaunchConfiguration.ofValues (values : LaunchOption → Option String) (scripted : Bool)
    (preferences : TwoPhonePreferences) : LaunchConfiguration :=
  let role := (values .role).bind TwoPhoneRole.ofRawValue
  let interval := ((values .checkpointInterval).bind parseUInt64).getD 60
  let window := ((values .frameWindow).bind parseInt).getD 4
  { role := role.getD (preferences.selectedRole.getD .standalone)
    host := (values .host).getD "127.0.0.1"
    port := ((values .port).bind parseUInt16).getD 47391
    autoloadROMName := (values .autoload).or preferences.selectedROMName
    testFrameLimit := (values .testFrames).bind parseUInt64
    checkpointInterval := max 1 interval
    frameWindow := clampWindow window
    scriptedInputs := scripted
    requiresOnDeviceSetup := role.isNone
    usesAutomaticDiscovery := role.isNone && preferences.hasCompletedSetup
    checkpointInterval_pos := max_one_pos _
    frameWindow_pos := clampWindow_pos _
    frameWindow_le := clampWindow_le _ }

/-! ### What the scans find -/

namespace LaunchOption

/-- A key begins as the options do, and has no `=` in it. -/
theorem key_eq (option : LaunchOption) : IsTwoPhone option.key ∧ '=' ∉ option.key.toList := by
  unfold IsTwoPhone
  cases option <;> decide

/-- The options have different names. -/
theorem key_injective {option option' : LaunchOption} (h : option.key = option'.key) :
    option = option' := by
  cases option <;> cases option' <;> first | rfl | exact absurd h (by decide)

/-- The flag for scripted inputs is no option with a value. -/
theorem key_ne_scriptedInputs (option : LaunchOption) :
    option.key ≠ "--two-phone-scripted-inputs" := by
  cases option <;> decide

/-- The name with the equals sign. -/
theorem length_key_equals (option : LaunchOption) :
    (option.key ++ "=").toList.length = option.key.toList.length + 1 := by
  rw [String.toList_append, List.length_append]
  rfl

end LaunchOption

/-- What comes before the first `=`. -/
theorem eq_of_append_equals {a b v w : List Char} (ha : '=' ∉ a) (hb : '=' ∉ b)
    (h : a ++ '=' :: v = b ++ '=' :: w) : a = b := by
  induction a generalizing b with
  | nil =>
    cases b with
    | nil => rfl
    | cons x b =>
      -- one of the two would have its `=` earlier
      obtain ⟨rfl, -⟩ := List.cons.inj h
      exact absurd List.mem_cons_self hb
  | cons x a ih =>
    cases b with
    | nil =>
      obtain ⟨rfl, -⟩ := List.cons.inj h
      exact absurd List.mem_cons_self ha
    | cons y b =>
      obtain ⟨rfl, htail⟩ := List.cons.inj h
      rw [ih (fun hmem => ha (List.mem_cons_of_mem _ hmem))
        (fun hmem => hb (List.mem_cons_of_mem _ hmem)) htail]

/-- The argument begins with the key and `=`. -/
def HasInline (key argument : String) : Prop := (key ++ "=").toList <+: argument.toList

/-- An inline key is a prefix only of its own option's argument. -/
theorem eq_of_inlinePrefix {option option' : LaunchOption} {value : String}
    (h : HasInline option.key (option'.key ++ "=" ++ value)) : option = option' := by
  obtain ⟨rest, hrest⟩ := h
  apply LaunchOption.key_injective
  apply String.toList_injective
  apply eq_of_append_equals option.key_eq.2 option'.key_eq.2 (v := rest) (w := value.toList)
  rw [String.toList_append, String.toList_append, String.toList_append, List.append_assoc,
    List.append_assoc] at hrest
  exact hrest

/-- What has an inline key has a `=` and begins as the options do. -/
theorem of_hasInline {option : LaunchOption} {argument : String}
    (h : HasInline option.key argument) : '=' ∈ argument.toList ∧ IsTwoPhone argument := by
  unfold HasInline at h
  rw [String.toList_append] at h
  constructor
  · exact h.subset (List.mem_append_right _ (List.mem_singleton_self '='))
  · exact option.key_eq.1.trans ((List.prefix_append _ _).trans h)

namespace ArgumentPiece

/-- The two arguments of an option with its value behind it. -/
theorem mem_split {option : LaunchOption} {value argument : String} :
    argument ∈ (split option value).arguments ↔ argument = option.key ∨ argument = value := by
  rw [arguments, List.mem_cons, List.mem_singleton]

/-- Only an inline piece of the option begins with its inline key. -/
theorem inline_of_mem {piece : ArgumentPiece} (hclean : piece.Clean) {option : LaunchOption}
    {argument : String} (hmem : argument ∈ piece.arguments)
    (h : HasInline option.key argument) : ∃ value, piece = inline option value := by
  obtain ⟨hequals, htwoPhone⟩ := of_hasInline h
  cases piece with
  | split option' value =>
    -- a key has no `=`, and a value does not begin as the options do
    rcases mem_split.mp hmem with rfl | rfl
    · exact absurd hequals option'.key_eq.2
    · exact absurd htwoPhone hclean
  | inline option' value =>
    obtain rfl := List.mem_singleton.mp hmem
    exact ⟨value, by rw [eq_of_inlinePrefix h]⟩
  | scriptedInputs =>
    obtain rfl := List.mem_singleton.mp hmem
    exact absurd hequals (by decide)
  | other argument' =>
    obtain rfl := List.mem_singleton.mp hmem
    exact absurd htwoPhone hclean

/-- Only the first argument of a split piece of the option is its key. -/
theorem split_of_mem {piece : ArgumentPiece} (hclean : piece.Clean) {option : LaunchOption}
    (hmem : option.key ∈ piece.arguments) : ∃ value, piece = split option value := by
  cases piece with
  | split option' value =>
    rcases mem_split.mp hmem with heq | rfl
    · exact ⟨value, by rw [LaunchOption.key_injective heq]⟩
    · exact absurd option.key_eq.1 hclean
  | inline option' value =>
    -- an inline argument has a `=`, and a key has none
    have hequals : '=' ∈ (option'.key ++ "=" ++ value).toList := by
      rw [String.toList_append, String.toList_append]
      exact List.mem_append_left _ (List.mem_append_right _ (List.mem_singleton_self '='))
    rw [← List.mem_singleton.mp hmem] at hequals
    exact absurd hequals option.key_eq.2
  | scriptedInputs => exact absurd (List.mem_singleton.mp hmem) option.key_ne_scriptedInputs
  | other argument =>
    obtain rfl := List.mem_singleton.mp hmem
    exact absurd option.key_eq.1 hclean

/-- Only the flag spells the flag. -/
theorem scriptedInputs_of_mem {piece : ArgumentPiece} (hclean : piece.Clean)
    (hmem : "--two-phone-scripted-inputs" ∈ piece.arguments) : piece = scriptedInputs := by
  have htwoPhone : IsTwoPhone "--two-phone-scripted-inputs" := by
    unfold IsTwoPhone
    decide
  cases piece with
  | split option value =>
    rcases mem_split.mp hmem with heq | rfl
    · exact absurd heq.symm option.key_ne_scriptedInputs
    · exact absurd htwoPhone hclean
  | inline option value =>
    have hequals : '=' ∈ (option.key ++ "=" ++ value).toList := by
      rw [String.toList_append, String.toList_append]
      exact List.mem_append_left _ (List.mem_append_right _ (List.mem_singleton_self '='))
    rw [← List.mem_singleton.mp hmem] at hequals
    exact absurd hequals (by decide)
  | scriptedInputs => rfl
  | other argument =>
    obtain rfl := List.mem_singleton.mp hmem
    exact absurd htwoPhone hclean

end ArgumentPiece

/-! ### `value(for:in:)` of what is spelled -/

/-- The test of the scan for the inline spelling. -/
theorem isPrefixOf_iff {key argument : String} :
    (key ++ "=").toList.isPrefixOf argument.toList = true ↔ HasInline key argument :=
  List.isPrefixOf_iff_prefix

/-- The first inline value is found. -/
theorem argumentValue_of_inline {option : LaunchOption} {value : String} {pre post : List String}
    (hpre : ∀ argument ∈ pre, ¬ HasInline option.key argument) :
    argumentValue option.key (pre ++ (option.key ++ "=" ++ value) :: post) = some value := by
  have hinline : HasInline option.key (option.key ++ "=" ++ value) := by
    unfold HasInline
    rw [String.toList_append (t := value)]
    exact List.prefix_append _ _
  have hfind : (pre ++ (option.key ++ "=" ++ value) :: post).find?
      (fun argument => (option.key ++ "=").toList.isPrefixOf argument.toList) =
        some (option.key ++ "=" ++ value) := by
    -- none before it is found
    have hnone : pre.find? (fun argument =>
        (option.key ++ "=").toList.isPrefixOf argument.toList) = none :=
      List.find?_eq_none.mpr fun argument hmem => mt isPrefixOf_iff.mp (hpre argument hmem)
    rw [List.find?_append, hnone, Option.none_or]
    exact List.find?_cons_of_pos (isPrefixOf_iff.mpr hinline)
  unfold argumentValue
  rw [hfind]
  show some (String.ofList _) = some value
  rw [String.toList_append, ← option.length_key_equals, List.drop_left, String.ofList_toList]

/-- Without an inline argument, the value is what comes after the first key. -/
theorem argumentValue_of_forall {option : LaunchOption} {arguments : List String}
    (h : ∀ argument ∈ arguments, ¬ HasInline option.key argument) :
    argumentValue option.key arguments =
      (arguments.findIdx? (· == option.key)).bind fun index => arguments[index + 1]? := by
  have hfind : arguments.find?
      (fun argument => (option.key ++ "=").toList.isPrefixOf argument.toList) = none :=
    List.find?_eq_none.mpr fun argument hmem => mt isPrefixOf_iff.mp (h argument hmem)
  unfold argumentValue
  rw [hfind]
  cases arguments.findIdx? (· == option.key) with
  | none => rfl
  | some index => rfl

/-- An option that is not there. -/
theorem findIdx?_eq_none {key : String} {arguments : List String} (h : key ∉ arguments) :
    arguments.findIdx? (· == key) = none := by
  rw [List.findIdx?_eq_none_iff]
  intro argument hmem
  rw [beq_eq_false_iff_ne]
  rintro rfl
  exact h hmem

/-- Where there is no inline value the first one behind the name is found. -/
theorem argumentValue_of_split {option : LaunchOption} {value : String} {pre post : List String}
    (h : ∀ argument ∈ pre ++ option.key :: value :: post, ¬ HasInline option.key argument)
    (hpre : option.key ∉ pre) :
    argumentValue option.key (pre ++ option.key :: value :: post) = some value := by
  -- The first occurrence of the key is the one of the piece.
  have hindex : (pre ++ option.key :: value :: post).findIdx? (· == option.key) =
      some pre.length := by
    rw [List.findIdx?_append, findIdx?_eq_none hpre, List.findIdx?_cons, beq_self_eq_true,
      if_pos rfl,
      Option.none_or, Option.map_some, Nat.zero_add]
  rw [argumentValue_of_forall h, hindex, Option.bind_some,
    List.getElem?_append_right (Nat.le_add_right pre.length 1), Nat.add_sub_cancel_left]
  rfl

/-- Nothing is found where there is nothing. -/
theorem argumentValue_of_none {option : LaunchOption} {arguments : List String}
    (h : ∀ argument ∈ arguments, ¬ HasInline option.key argument)
    (hkey : option.key ∉ arguments) : argumentValue option.key arguments = none := by
  rw [argumentValue_of_forall h, findIdx?_eq_none hkey, Option.bind_none]

namespace Spells

variable {values : LaunchOption → Option String} {scripted : Bool} {pieces : List ArgumentPiece}

/-- A piece that assigns a value gives it. -/
theorem value_of_mem (h : Spells values scripted pieces) {piece : ArgumentPiece}
    {option : LaunchOption} {value : String} (hmem : piece ∈ pieces)
    (hpiece : piece.assigns? = some (option, value)) : values option = some value :=
  (h.assigns option value).mpr (List.mem_filterMap.mpr ⟨piece, hmem, hpiece⟩)

/-- A piece that spells an option assigns it a value. -/
theorem values_ne_none (h : Spells values scripted pieces) {piece : ArgumentPiece}
    {option : LaunchOption} (hmem : piece ∈ pieces) (hpiece : piece.option? = some option) :
    values option ≠ none := by
  have hassigns : ∃ value, piece.assigns? = some (option, value) := by
    cases piece with
    | split option' value => exact ⟨value, by rw [← Option.some.inj hpiece]; rfl⟩
    | inline option' value => exact ⟨value, by rw [← Option.some.inj hpiece]; rfl⟩
    | scriptedInputs => exact nomatch hpiece
    | other argument => exact nomatch hpiece
  obtain ⟨value, hassigns⟩ := hassigns
  rw [h.value_of_mem hmem hassigns]
  exact Option.some_ne_none value

/-- No other piece spells the option of a piece. -/
theorem alone {pre post : List ArgumentPiece} {piece : ArgumentPiece} {option : LaunchOption}
    (h : Spells values scripted (pre ++ piece :: post)) (hpiece : piece.option? = some option) :
    (∀ piece' ∈ pre, piece'.option? ≠ some option) ∧
      ∀ piece' ∈ post, piece'.option? ≠ some option := by
  have honce := h.once
  -- the option is not spelled twice
  rw [List.filterMap_append, List.filterMap_cons_some hpiece, List.nodup_middle, List.nodup_cons,
    List.mem_append, not_or] at honce
  obtain ⟨⟨hpre, hpost⟩, -⟩ := honce
  exact ⟨fun piece' hmem heq => hpre (List.mem_filterMap.mpr ⟨piece', hmem, heq⟩),
    fun piece' hmem heq => hpost (List.mem_filterMap.mpr ⟨piece', hmem, heq⟩)⟩

/-- Pieces that do not spell the option have no argument that its scans find. -/
theorem unfound {pieces : List ArgumentPiece} (hclean : ∀ piece ∈ pieces, piece.Clean)
    {option : LaunchOption} (hoption : ∀ piece ∈ pieces, piece.option? ≠ some option) :
    (∀ argument ∈ pieces.flatMap ArgumentPiece.arguments, ¬ HasInline option.key argument) ∧
      option.key ∉ pieces.flatMap ArgumentPiece.arguments := by
  constructor
  · intro argument hmem hinline
    obtain ⟨piece, hpiece, hargument⟩ := List.mem_flatMap.mp hmem
    obtain ⟨value, rfl⟩ := ArgumentPiece.inline_of_mem (hclean piece hpiece) hargument hinline
    exact hoption _ hpiece rfl
  · intro hmem
    obtain ⟨piece, hpiece, hargument⟩ := List.mem_flatMap.mp hmem
    obtain ⟨value, rfl⟩ := ArgumentPiece.split_of_mem (hclean piece hpiece) hargument
    exact hoption _ hpiece rfl

/-- The scans find what is spelled. -/
theorem argumentValue_eq (h : Spells values scripted pieces) (option : LaunchOption) :
    argumentValue option.key (pieces.flatMap ArgumentPiece.arguments) = values option := by
  cases hvalue : values option with
  | none =>
    -- no piece spells the option, so neither scan finds it
    have hoption : ∀ piece ∈ pieces, piece.option? ≠ some option :=
      fun piece hmem heq => h.values_ne_none hmem heq hvalue
    obtain ⟨hinline, hkey⟩ := unfound h.clean hoption
    exact argumentValue_of_none hinline hkey
  | some value =>
    obtain ⟨piece, hmem, hassigns⟩ := List.mem_filterMap.mp ((h.assigns option value).mp hvalue)
    obtain ⟨pre, post, rfl⟩ := List.append_of_mem hmem
    -- The pieces before and after this one spell other options.
    have hclean := h.clean
    have hcleanPre : ∀ piece' ∈ pre, piece'.Clean :=
      fun piece' hmem => hclean piece' (List.mem_append_left _ hmem)
    have hcleanPost : ∀ piece' ∈ post, piece'.Clean :=
      fun piece' hmem => hclean piece' (List.mem_append_right _ (List.mem_cons_of_mem _ hmem))
    rw [List.flatMap_append, List.flatMap_cons]
    cases piece with
    | split option' value' =>
      obtain ⟨rfl, rfl⟩ := Prod.mk.inj (Option.some.inj hassigns)
      have hoption : (ArgumentPiece.split option' value').option? = some option' := rfl
      obtain ⟨hpre, hpost⟩ := h.alone hoption
      obtain ⟨hinlinePre, hkeyPre⟩ := unfound hcleanPre hpre
      obtain ⟨hinlinePost, -⟩ := unfound hcleanPost hpost
      -- the key is the first one, and no argument has the inline spelling
      refine argumentValue_of_split (fun argument hargument => ?_) hkeyPre
      rcases List.mem_append.mp hargument with hmem | hmem
      · exact hinlinePre argument hmem
      · intro hinline
        have hrest : argument ∈ (ArgumentPiece.split option' value').arguments ++
          post.flatMap ArgumentPiece.arguments := hmem
        rcases List.mem_append.mp hrest with hmem | hmem
        · obtain ⟨value, heq⟩ := ArgumentPiece.inline_of_mem
            (hclean _ (List.mem_append_right _ List.mem_cons_self)) hmem hinline
          exact nomatch heq
        · exact hinlinePost argument hmem hinline
    | inline option' value' =>
      obtain ⟨rfl, rfl⟩ := Prod.mk.inj (Option.some.inj hassigns)
      have hoption : (ArgumentPiece.inline option' value').option? = some option' := rfl
      obtain ⟨hpre, -⟩ := h.alone hoption
      exact argumentValue_of_inline (unfound hcleanPre hpre).1
    | scriptedInputs => exact nomatch hassigns
    | other argument => exact nomatch hassigns

/-- The flag is found where it is spelt. -/
theorem contains_scriptedInputs (h : Spells values scripted pieces) :
    (pieces.flatMap ArgumentPiece.arguments).contains "--two-phone-scripted-inputs" = scripted := by
  rw [Bool.eq_iff_iff, List.contains_iff_mem, List.mem_flatMap, h.scripted]
  constructor
  · rintro ⟨piece, hpiece, hmem⟩
    exact ArgumentPiece.scriptedInputs_of_mem (h.clean piece hpiece) hmem ▸ hpiece
  · intro hmem
    exact ⟨.scriptedInputs, hmem, List.mem_singleton_self _⟩

/-- `init` makes the configuration of what is spelled. -/
theorem init_eq (h : Spells values scripted pieces) (preferences : TwoPhonePreferences) :
    LaunchConfiguration.init (pieces.flatMap ArgumentPiece.arguments) preferences =
      .ofValues values scripted preferences := by
  -- The default of the port is a text that is read.
  have hport : (parseUInt16 ((values .port).getD "47391")).getD 47391 =
      ((values .port).bind parseUInt16).getD 47391 := by
    cases values .port with
    | none => decide
    | some value => rfl
  have hrole : ∀ role : Option TwoPhoneRole, (role <|> preferences.selectedRole).getD .standalone =
      role.getD (preferences.selectedRole.getD .standalone) := by
    intro role
    cases role with
    | none => rfl
    | some role => rfl
  have hautoload : ∀ name : Option String, (name <|> preferences.selectedROMName) =
      name.or preferences.selectedROMName := by
    intro name
    cases name with
    | none => rfl
    | some name => rfl
  unfold LaunchConfiguration.init LaunchConfiguration.ofValues
  simp only [show "--two-phone-role" = LaunchOption.key .role from rfl,
    show "--two-phone-host" = LaunchOption.key .host from rfl,
    show "--two-phone-port" = LaunchOption.key .port from rfl,
    show "--two-phone-autoload" = LaunchOption.key .autoload from rfl,
    show "--two-phone-test-frames" = LaunchOption.key .testFrames from rfl,
    show "--two-phone-checkpoint-interval" = LaunchOption.key .checkpointInterval from rfl,
    show "--two-phone-frame-window" = LaunchOption.key .frameWindow from rfl,
    h.argumentValue_eq, h.contains_scriptedInputs, hport, hrole, hautoload]

end Spells

end DSEmu

import Mathlib.Data.List.Sort

/-!
# The list of known cartridges

`ReadROMParams` of `src/NDSCart.cpp` of melonDS, which looks a game code up in `ROMList`, a list
that is in the order of its codes. The size of its steps is halved at each entry that it looks at,
and once it is zero the search goes on entry by entry. `readROMParams_spec` says that it never looks
outside of the list, ends, and finds a code exactly where the list has it.
-/

namespace DSEmu

/-- `ROMListEntry` -/
structure ROMListEntry where
  gameCode : UInt32
  romSize : UInt32
  saveMemType : UInt32
  deriving DecidableEq, Repr

/-- How a search ends. -/
inductive ROMLookup where
  | found (entry : ROMListEntry)
  | missing
  /-- an entry behind the end of the list was looked at -/
  | outside
  deriving DecidableEq, Repr

/-- Where the search goes on behind an entry that is too small. -/
def nextOffset (offset chkSize : ℕ) : ℕ := if chkSize = 0 then offset + 1 else offset + chkSize

/-- The search goes on. -/
theorem lt_nextOffset (offset chkSize : ℕ) : offset < nextOffset offset chkSize := by
  unfold nextOffset
  split <;> omega

/-- The loop of `ReadROMParams`, over a list of any length. -/
def readROMParamsFrom (romList : List ROMListEntry) (gameCode : UInt32) (offset chkSize : ℕ) :
    ROMLookup :=
  match romList[offset + chkSize]? with
  | none => .outside
  | some curEntry =>
    if curEntry.gameCode = gameCode then .found curEntry
    else if curEntry.gameCode < gameCode then
      if romList.length ≤ nextOffset offset chkSize then .missing
      else readROMParamsFrom romList gameCode (nextOffset offset chkSize) (chkSize / 2)
    else if chkSize = 0 then .missing
    else if romList.length ≤ offset then .missing
    else readROMParamsFrom romList gameCode offset (chkSize / 2)
termination_by (chkSize, romList.length - offset)
decreasing_by
  · have hnext := lt_nextOffset offset chkSize
    obtain rfl | hchk := Nat.eq_zero_or_pos chkSize
    · exact Prod.Lex.right _ (by omega)
    · exact Prod.Lex.left _ _ (by omega)
  · exact Prod.Lex.left _ _ (by omega)

/-- `ReadROMParams`. -/
def readROMParams (romList : List ROMListEntry) (gameCode : UInt32) : ROMLookup :=
  readROMParamsFrom romList gameCode 0 (romList.length / 2)

/-- A list in the order of its codes. -/
def Ordered (romList : List ROMListEntry) : Prop :=
  romList.Pairwise fun e e' => e.gameCode < e'.gameCode

/-- Entries further behind have larger codes. -/
theorem Ordered.lt {romList : List ROMListEntry} (h : Ordered romList) {i j : ℕ}
    {e e' : ROMListEntry} (hi : romList[i]? = some e) (hj : romList[j]? = some e') (hij : i < j) :
    e.gameCode < e'.gameCode := by
  obtain ⟨hi', rfl⟩ := List.getElem?_eq_some_iff.mp hi
  obtain ⟨hj', rfl⟩ := List.getElem?_eq_some_iff.mp hj
  exact List.pairwise_iff_getElem.mp h i j hi' hj' hij

/-- A code is in the list once. -/
theorem Ordered.eq_of_gameCode {romList : List ROMListEntry} (h : Ordered romList)
    {e e' : ROMListEntry} (he : e ∈ romList) (he' : e' ∈ romList)
    (hcode : e.gameCode = e'.gameCode) :
    e = e' := by
  obtain ⟨i, hi⟩ := List.mem_iff_getElem?.mp he
  obtain ⟨j, hj⟩ := List.mem_iff_getElem?.mp he'
  obtain hlt | rfl | hgt := Nat.lt_trichotomy i j
  · exact absurd hcode (UInt32.ne_of_lt (h.lt hi hj hlt))
  · exact Option.some_inj.mp (hi.symm.trans hj)
  · exact absurd hcode.symm (UInt32.ne_of_lt (h.lt hj hi hgt))

/-- What a search is to find. -/
def ROMLookup.Correct (romList : List ROMListEntry) (gameCode : UInt32) : ROMLookup → Prop
  | .found entry => entry ∈ romList ∧ entry.gameCode = gameCode
  | .missing => ∀ entry ∈ romList, entry.gameCode ≠ gameCode
  | .outside => False

/-- The loop at `offset`: it is inside of the list, has room for its steps, and everything before it
is too small. -/
structure Searching (romList : List ROMListEntry) (gameCode : UInt32) (offset chkSize : ℕ) :
    Prop where
  inside : offset < romList.length
  room : offset + 2 * chkSize ≤ romList.length
  before : ∀ i e, romList[i]? = some e → i < offset → e.gameCode < gameCode

namespace Searching

variable {romList : List ROMListEntry} {gameCode : UInt32} {offset chkSize : ℕ}

/-- The search looks at an entry of the list. -/
theorem lt_length (h : Searching romList gameCode offset chkSize) :
    offset + chkSize < romList.length := by
  have hinside := h.inside
  have hroom := h.room
  omega

/-- Where an entry is too small, so are those before it. -/
theorem before_nextOffset (hordered : Ordered romList) {entry : ROMListEntry}
    (hentry : romList[offset + chkSize]? = some entry) (hless : entry.gameCode < gameCode) (i : ℕ)
    (e : ROMListEntry) (hi : romList[i]? = some e) (hbefore : i < nextOffset offset chkSize) :
    e.gameCode < gameCode := by
  have hle : i ≤ offset + chkSize := by
    unfold nextOffset at hbefore
    split at hbefore <;> omega
  obtain hlt | rfl := Nat.lt_or_eq_of_le hle
  · exact UInt32.lt_trans (hordered.lt hi hentry hlt) hless
  · obtain rfl : entry = e := Option.some_inj.mp (hentry.symm.trans hi)
    exact hless

/-- The step lemma for an entry whose code is too small. -/
theorem next (hordered : Ordered romList) (h : Searching romList gameCode offset chkSize)
    {entry : ROMListEntry} (hentry : romList[offset + chkSize]? = some entry)
    (hless : entry.gameCode < gameCode) (hnext : nextOffset offset chkSize < romList.length) :
    Searching romList gameCode (nextOffset offset chkSize) (chkSize / 2) := by
  refine ⟨hnext, ?_, before_nextOffset hordered hentry hless⟩
  have hroom := h.room
  unfold nextOffset at hnext ⊢
  split at hnext <;> split <;> omega

/-- The step lemma for an entry whose code is too large. -/
theorem halve (h : Searching romList gameCode offset chkSize) :
    Searching romList gameCode offset (chkSize / 2) := by
  have hroom := h.room
  exact ⟨h.inside, by omega, h.before⟩

/-- A search ends with what it is to find. -/
theorem correct (hordered : Ordered romList) (h : Searching romList gameCode offset chkSize) :
    (readROMParamsFrom romList gameCode offset chkSize).Correct romList gameCode := by
  fun_induction readROMParamsFrom romList gameCode offset chkSize with
  | case1 offset chkSize hnone =>
    have hlength := List.getElem?_eq_none_iff.mp hnone
    have hlt := h.lt_length
    omega
  | case2 offset chkSize entry hentry hcode => exact ⟨List.mem_of_getElem? hentry, hcode⟩
  | case3 offset chkSize entry hentry hne hless hend =>
    -- All entries are too small.
    intro e he
    obtain ⟨i, hi⟩ := List.mem_iff_getElem?.mp he
    have hlength : i < romList.length := (List.getElem?_eq_some_iff.mp hi).1
    exact UInt32.ne_of_lt (before_nextOffset hordered hentry hless i e hi (by omega))
  | case4 offset chkSize entry hentry hne hless hend ih =>
    exact ih (h.next hordered hentry hless (Nat.lt_of_not_le hend))
  | case5 offset entry hne hless hentry =>
    -- The first entry that is not too small is too large.
    intro e he
    obtain ⟨i, hi⟩ := List.mem_iff_getElem?.mp he
    have hgreater : gameCode < entry.gameCode :=
      UInt32.lt_of_le_of_ne (UInt32.not_lt.mp hless) (Ne.symm hne)
    obtain hlt | heq | hgt := Nat.lt_trichotomy i offset
    · exact UInt32.ne_of_lt (h.before i e hi hlt)
    · obtain rfl : e = entry := by
        rw [heq] at hi
        exact Option.some_inj.mp (hi.symm.trans hentry)
      exact hne
    · exact (UInt32.ne_of_lt (UInt32.lt_trans hgreater (hordered.lt hentry hi hgt))).symm
  | case6 offset chkSize entry hentry hne hless hchk hend =>
    have hinside := h.inside
    omega
  | case7 offset chkSize entry hentry hne hless hchk hend ih => exact ih h.halve

end Searching

section

variable {romList : List ROMListEntry} (hordered : Ordered romList)
include hordered

/-- The search is right about every code. -/
theorem readROMParams_correct (hnonempty : romList ≠ []) (gameCode : UInt32) :
    (readROMParams romList gameCode).Correct romList gameCode := by
  have hsearching : Searching romList gameCode 0 (romList.length / 2) := by
    refine ⟨List.length_pos_iff.mpr hnonempty, by omega, fun i e _ hi => ?_⟩
    exact absurd hi (Nat.not_lt_zero i)
  exact hsearching.correct hordered

/-- An entry of the list is found by its code. -/
theorem readROMParams_eq_found {entry : ROMListEntry} (hmem : entry ∈ romList) :
    readROMParams romList entry.gameCode = .found entry := by
  have hcorrect := readROMParams_correct hordered (List.ne_nil_of_mem hmem) entry.gameCode
  cases hlookup : readROMParams romList entry.gameCode with
  | found entry' =>
    rw [hlookup] at hcorrect
    rw [hordered.eq_of_gameCode hcorrect.1 hmem hcorrect.2]
  | missing =>
    rw [hlookup] at hcorrect
    exact absurd rfl (hcorrect entry hmem)
  | outside =>
    rw [hlookup] at hcorrect
    exact absurd hcorrect id

/-- A search in a list that is in order and not empty ends, inside of the list, with the entry of
the code if there is one. -/
theorem readROMParams_spec (hnonempty : romList ≠ []) (gameCode : UInt32) :
    readROMParams romList gameCode ≠ .outside ∧
      ∀ entry, readROMParams romList gameCode = .found entry ↔
        entry ∈ romList ∧ entry.gameCode = gameCode := by
  have hcorrect := readROMParams_correct hordered hnonempty gameCode
  constructor
  case left =>
    intro houtside
    rw [houtside] at hcorrect
    exact hcorrect
  case right =>
    intro entry
    constructor
    case mp =>
      intro hfound
      rw [hfound] at hcorrect
      exact hcorrect
    case mpr =>
      rintro ⟨hmem, rfl⟩
      exact readROMParams_eq_found hordered hmem

end

/-- `readROMParams_spec` on a list of three cartridges. -/
theorem readROMParams_spec_three :
    readROMParams [⟨0x41464141, 0x00800000, 4⟩, ⟨0x414D4155, 0x00800000, 8⟩,
      ⟨0x43363341, 0x02000000, 8⟩]
      0x43363341 = .found ⟨0x43363341, 0x02000000, 8⟩ := by
  have hordered : Ordered [⟨0x41464141, 0x00800000, 4⟩, ⟨0x414D4155, 0x00800000, 8⟩,
      ⟨0x43363341, 0x02000000, 8⟩] := by
    unfold Ordered
    decide
  exact ((readROMParams_spec hordered (List.cons_ne_nil _ _) _).2 _).mpr (by decide)

/-- The parameters of a cartridge as `ParseROM` gets them: those of the list, or its own. -/
def romParams (romList : List ROMListEntry) (gameCode cartROMSize : UInt32) (homebrew : Bool) :
    Option ROMListEntry :=
  match readROMParams romList gameCode with
  | .found entry => some entry
  | .missing => some ⟨gameCode, cartROMSize, if homebrew then 0 else 2⟩
  | .outside => none

/-- The parameters have the game code of the header. -/
theorem gameCode_romParams {romList : List ROMListEntry} (hordered : Ordered romList)
    {gameCode cartROMSize : UInt32} {homebrew : Bool} {params : ROMListEntry}
    (h : romParams romList gameCode cartROMSize homebrew = some params) :
    params.gameCode = gameCode := by
  unfold romParams at h
  split at h
  · rename_i entry hfound
    have hne : romList ≠ [] := by
      rintro rfl
      rw [readROMParams, readROMParamsFrom] at hfound
      contradiction
    obtain rfl : entry = params := Option.some_inj.mp h
    have hcorrect := readROMParams_correct hordered hne gameCode
    rw [hfound] at hcorrect
    exact hcorrect.2
  · exact (congrArg ROMListEntry.gameCode (Option.some_inj.mp h)).symm
  · contradiction

end DSEmu

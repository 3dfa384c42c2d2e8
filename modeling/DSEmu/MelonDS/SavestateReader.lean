import DSEmu.MelonDS.Savestate

/-!
# Reading savestates

The reading side of `src/Savestate.h` and `src/Savestate.cpp` of melonDS, over a buffer that belongs
to the caller: the check of the header, the search for a section by its name, and the reads of
variables. Offsets and lengths are `u32`, so that their sums wrap.

A part of a load returns, or it ends in one of the ways that C++ leaves open or that end the process
(`LoadOutcome`); a search gets so much fuel, one unit for each section that it looks at. The
constructor returns whatever the buffer (`new_eq`). A read of a variable does if it starts in the
buffer, and the sum of its offset and its length does not wrap (`varArray_returned`).
-/

namespace DSEmu

open FixedWidth

/-- How a load ends, or that it does not. -/
inductive LoadOutcome (α : Type) where
  | returned (a : α)
  /-- a byte outside of the buffer was examined -/
  | outside
  /-- the `assert` of `VarArray` failed -/
  | aborted
  /-- the code of a component between two calls did not return -/
  | stopped
  /-- a search has used its fuel up -/
  | unfinished
  deriving DecidableEq, Repr

namespace LoadOutcome

variable {α β : Type}

/-- A load goes on once a part of it has returned. -/
def bind (x : LoadOutcome α) (f : α → LoadOutcome β) : LoadOutcome β :=
  match x with
  | returned a => f a
  | outside => outside
  | aborted => aborted
  | stopped => stopped
  | unfinished => unfinished

instance : Monad LoadOutcome where
  pure := returned
  bind := bind

/-- A load that returns at once. -/
theorem pure_eq (a : α) : (pure a : LoadOutcome α) = returned a := rfl

/-- What a load returns at once. -/
theorem pure_eq_returned {a b : α} : (pure a : LoadOutcome α) = returned b ↔ a = b :=
  ⟨returned.inj, congrArg returned⟩

/-- The pair that a load returns at once. -/
theorem pure_pair_eq_returned {a a' : α} {b b' : β} :
    (pure (a, b) : LoadOutcome (α × β)) = returned (a', b') ↔ a = a' ∧ b = b' :=
  pure_eq_returned.trans Prod.mk_inj

/-- A load that has returned goes on. -/
@[simp] theorem returned_bind (a : α) (f : α → LoadOutcome β) : (returned a >>= f) = f a := rfl

/-- A load that has read outside of the buffer goes on no further. -/
@[simp] theorem outside_bind (f : α → LoadOutcome β) :
    ((outside : LoadOutcome α) >>= f) = outside :=
  rfl

/-- A load that an assertion has stopped goes on no further. -/
@[simp] theorem aborted_bind (f : α → LoadOutcome β) :
    ((aborted : LoadOutcome α) >>= f) = aborted :=
  rfl

/-- A load returns what its second part does, once the first has returned. -/
theorem bind_eq_returned {x : LoadOutcome α} {f : α → LoadOutcome β} {b : β} :
    (x >>= f) = returned b ↔ ∃ a, x = returned a ∧ f a = returned b := by
  cases x with
  | returned a => simp
  | _ => exact ⟨nofun, fun ⟨_, h, _⟩ => absurd h nofun⟩

end LoadOutcome

open LoadOutcome (returned outside aborted stopped unfinished)

/-- A savestate that is loading, where nothing is saved and nothing is finished. -/
structure SavestateReader where
  buffer : Data
  error : Bool := false
  bufferOffset : UInt32 := 0
  deriving DecidableEq, Repr

/-- A `memcpy` out of a buffer. -/
def copyFrom (buffer : Data) (offset length : ℕ) : LoadOutcome Data :=
  if offset + length ≤ buffer.length then returned ((buffer.drop offset).take length) else outside

/-- A copy returns where it stays in the buffer. -/
theorem copyFrom_eq_returned {buffer data : Data} {offset length : ℕ} :
    copyFrom buffer offset length = returned data ↔
      offset + length ≤ buffer.length ∧ (buffer.drop offset).take length = data := by
  unfold copyFrom
  split <;> simp_all

namespace SavestateReader

/-- `buffer_length` -/
def bufferLength (file : SavestateReader) : UInt32 := .ofNat file.buffer.length

/-- `VarArray`: what was read, and nothing where the read is skipped. -/
def varArray (length : UInt32) (file : SavestateReader) :
    LoadOutcome (Option Data × SavestateReader) :=
  if file.error then return (none, file)
  -- assert(buffer_offset <= buffer_length)
  else if file.bufferLength < file.bufferOffset then aborted
  else if file.bufferLength < file.bufferOffset + length then
    return (none, { file with error := true })
  else do
    let data ← copyFrom file.buffer file.bufferOffset.toNat length.toNat
    return (some data, { file with bufferOffset := file.bufferOffset + length })

/-- `NO_SECTION` -/
def noSection : UInt32 := 0xffffffff

/-- `FindSection`, from an offset on. -/
def findSection (magic : Magic) (file : SavestateReader) : ℕ → UInt32 → LoadOutcome UInt32
  | 0, _ => unfinished
  | fuel + 1, offset =>
    if offset < file.bufferLength then do
      let readMagic ← copyFrom file.buffer offset.toNat 4
      if readMagic = bytes magic then return offset + 16
      else
        let sectionLengthOffset := offset + 4
        if file.bufferLength ≤ sectionLengthOffset then return noSection
        else do
          let sectionLength ← copyFrom file.buffer sectionLengthOffset.toNat 4
          findSection magic file fuel (offset + ofBytes sectionLength)
    else return noSection

/-- `Section`. -/
def beginSection (fuel : ℕ) (magic : Magic) (file : SavestateReader) :
    LoadOutcome SavestateReader :=
  if file.error then return file
  else do
    let sectionOffset ← file.findSection magic fuel 0x10
    if sectionOffset ≠ noSection then return { file with bufferOffset := sectionOffset }
    else return { file with error := true }

/-- `IsAtLeastVersion`, which looks at the buffer whether there was an error or not. -/
def isAtLeastVersion (major minor : UInt32) (file : SavestateReader) : LoadOutcome Bool := do
  let majorVersion ← copyFrom file.buffer 4 2
  if major < (ofBytes majorVersion : UInt16).toUInt32 then return true
  else if (ofBytes majorVersion : UInt16).toUInt32 = major then
    let minorVersion ← copyFrom file.buffer 6 2
    return decide (minor ≤ (ofBytes minorVersion : UInt16).toUInt32)
  else return false

/-- `Finish`, which writes the offset into the header of the buffer. -/
def finish (file : SavestateReader) : LoadOutcome SavestateReader :=
  if file.error then return file
  else if 12 ≤ file.buffer.length then
    return { file with buffer := Savestate.overwrite 8 (bytes file.bufferOffset) file.buffer }
  else outside

/-- A field of the header: it is read into a variable that is zero, and checked. -/
def headerField {α : Type} [FixedWidth α] [Copied α] [OfNat α 0] (accepted : α → Bool)
    (next : SavestateReader → LoadOutcome SavestateReader) (file : SavestateReader) :
    LoadOutcome SavestateReader := do
  let (data, file) ← file.varArray (.ofNat (width α))
  if accepted ((data.map ofBytes).getD 0) then next file else return { file with error := true }

/-- The constructor of a savestate that loads. -/
def new (buffer : Data) : LoadOutcome SavestateReader :=
  headerField (fun magic : UInt32 => magic == ofBytes (bytes savestateMagic))
    (headerField (fun major : UInt16 => major == savestateMajor)
      (headerField (fun minor : UInt16 => minor ≤ savestateMinor)
        (headerField (fun length : UInt32 => length == UInt32.ofNat buffer.length) fun file =>
          -- The next 4 bytes are reserved.
          return { file with bufferOffset := file.bufferOffset + 4 })))
    { buffer := buffer }

end SavestateReader

/-- A buffer whose offsets fit a `u32`, with room for a header behind them. A snapshot message is
much shorter. -/
def Addressable (buffer : Data) : Prop := buffer.length + 16 < UInt32.size

/-- A position in the buffer is a `u32`. -/
theorem Addressable.lt {buffer : Data} (h : Addressable buffer) {n : ℕ}
    (hn : n ≤ buffer.length + 16) : n < UInt32.size :=
  Nat.lt_of_le_of_lt hn h

/-- A sum that does not wrap. -/
theorem toNat_add_of_lt {offset length : UInt32} (h : offset.toNat + length.toNat < UInt32.size) :
    (offset + length).toNat = offset.toNat + length.toNat := by
  rw [UInt32.toNat_add]
  exact Nat.mod_eq_of_lt h

namespace SavestateReader

variable {file : SavestateReader} {magic : Magic} {offset length : UInt32} {fuel k : ℕ}

/-- Where the next read is, unless there was an error. -/
def position (file : SavestateReader) : Option UInt32 :=
  if file.error then none else some file.bufferOffset

/-- A savestate in error has no position. -/
theorem position_of_error (h : file.error = true) : file.position = none := if_pos h

/-- The position of a savestate that is not in error. -/
theorem position_of_not_error (h : file.error = false) :
    file.position = some file.bufferOffset := by
  rw [position, h]
  rfl

/-- The position that is set. -/
theorem position_at (h : file.error = false) (offset : UInt32) :
    ({ file with bufferOffset := offset } : SavestateReader).position = some offset := by
  rw [position, h]
  rfl

/-- The reader after a search: at the section, or in error. -/
def moved (file : SavestateReader) : Option UInt32 → SavestateReader
  | some offset => { file with bufferOffset := offset }
  | none => { file with error := true }

/-- Moving does not change the buffer. -/
theorem moved_buffer (position : Option UInt32) : (file.moved position).buffer = file.buffer := by
  cases position <;> rfl

/-- Moving to a position, or into error. -/
theorem moved_position (h : file.error = false) (position : Option UInt32) :
    (file.moved position).position = position := by
  cases position with
  | some offset => exact position_at h offset
  | none => rfl

/-- The length of the buffer, as a number. -/
theorem toNat_bufferLength (h : Addressable file.buffer) :
    file.bufferLength.toNat = file.buffer.length := by
  rw [bufferLength, UInt32.toNat_ofNat']
  exact Nat.mod_eq_of_lt (h.lt (Nat.le_add_right _ 16))

/-- An offset in front of the end of the buffer. -/
theorem lt_bufferLength_iff (h : Addressable file.buffer) :
    offset < file.bufferLength ↔ offset.toNat < file.buffer.length := by
  rw [UInt32.lt_iff_toNat_lt, toNat_bufferLength h]

/-- An offset behind the end of the buffer. -/
theorem bufferLength_lt_iff (h : Addressable file.buffer) :
    file.bufferLength < offset ↔ file.buffer.length < offset.toNat := by
  rw [UInt32.lt_iff_toNat_lt, toNat_bufferLength h]

/-- A read after an error is skipped. -/
theorem varArray_error (h : file.error = true) : file.varArray length = returned (none, file) := by
  unfold varArray
  rw [if_pos h]
  rfl

/-- A read that the buffer has room for. -/
theorem varArray_fits (haddr : Addressable file.buffer) (h : file.error = false)
    (hfits : file.bufferOffset.toNat + length.toNat ≤ file.buffer.length) :
    file.varArray length =
      returned (some ((file.buffer.drop file.bufferOffset.toNat).take length.toNat),
        { file with bufferOffset := file.bufferOffset + length }) := by
  have hsum : (file.bufferOffset + length).toNat = file.bufferOffset.toNat + length.toNat :=
    toNat_add_of_lt (haddr.lt (by omega))
  have hinside : ¬ file.bufferLength < file.bufferOffset := by
    rw [bufferLength_lt_iff haddr]
    omega
  have hroom : ¬ file.bufferLength < file.bufferOffset + length := by
    rw [bufferLength_lt_iff haddr, hsum]
    omega
  unfold varArray
  rw [h, if_neg (by decide), if_neg hinside, if_neg hroom, copyFrom, if_pos hfits]
  rfl

/-- A read of what is next in the buffer. -/
theorem varArray_append {front data rest : Data} (haddr : Addressable (front ++ (data ++ rest)))
    (hfront : front.length = offset.toNat) (hdata : data.length = length.toNat) :
    (⟨front ++ (data ++ rest), false, offset⟩ : SavestateReader).varArray length =
      returned (some data, ⟨front ++ (data ++ rest), false, offset + length⟩) := by
  have haddr' : Addressable (⟨front ++ (data ++ rest), false, offset⟩ : SavestateReader).buffer :=
    haddr
  have hfits : offset.toNat + length.toNat ≤ (front ++ (data ++ rest)).length := by
    rw [List.length_append, List.length_append]
    omega
  have hslice : ((front ++ (data ++ rest)).drop offset.toNat).take length.toNat = data := by
    rw [List.drop_left' hfront, List.take_left' hdata]
  rw [varArray_fits haddr' rfl hfits]
  exact congrArg (fun read => returned (some read, _)) hslice

/-- A read that the buffer has no room for sets the error, where the sum does not wrap. -/
theorem varArray_short (haddr : Addressable file.buffer) (h : file.error = false)
    (hinside : file.bufferOffset.toNat ≤ file.buffer.length)
    (hshort : file.buffer.length < file.bufferOffset.toNat + length.toNat)
    (hsum : file.bufferOffset.toNat + length.toNat < UInt32.size) :
    file.varArray length = returned (none, { file with error := true }) := by
  have hinside' : ¬ file.bufferLength < file.bufferOffset := by
    rw [bufferLength_lt_iff haddr]
    omega
  have hroom : file.bufferLength < file.bufferOffset + length := by
    rw [bufferLength_lt_iff haddr, toNat_add_of_lt hsum]
    exact hshort
  unfold varArray
  rw [h, if_neg (by decide), if_neg hinside', if_pos hroom]
  rfl

/-- A read leaves the buffer alone. -/
theorem varArray_buffer {data : Option Data} {file' : SavestateReader}
    (h : file.varArray length = returned (data, file')) : file'.buffer = file.buffer := by
  unfold varArray at h
  split at h
  · exact congrArg (·.2.buffer) (LoadOutcome.returned.inj h).symm
  · split at h
    · exact absurd h nofun
    · split at h
      · exact congrArg (·.2.buffer) (LoadOutcome.returned.inj h).symm
      · rw [LoadOutcome.bind_eq_returned] at h
        obtain ⟨read, -, h⟩ := h
        exact congrArg (·.2.buffer) (LoadOutcome.returned.inj h).symm

/-- A read returns only where the offset is inside the buffer and the sum does not wrap: a sum that
wraps looks small, and the read goes on past the end. -/
theorem varArray_returned {x : Option Data × SavestateReader} (haddr : Addressable file.buffer)
    (h : file.error = false) (hx : file.varArray length = returned x) :
    file.bufferOffset.toNat ≤ file.buffer.length ∧
      file.bufferOffset.toNat + length.toNat < UInt32.size := by
  have hsize : file.buffer.length < 2 ^ 32 := haddr.lt (Nat.le_add_right _ 16)
  unfold varArray at hx
  rw [h, if_neg (by decide)] at hx
  split at hx
  · exact absurd hx nofun
  · rename_i hinside
    rw [bufferLength_lt_iff haddr, Nat.not_lt] at hinside
    refine ⟨hinside, ?_⟩
    split at hx
    · -- the read was found short, so the sum has not wrapped: else it would be below the offset
      rename_i hroom
      by_contra hnot
      have hwraps : 2 ^ 32 ≤ file.bufferOffset.toNat + length.toNat := Nat.not_lt.mp hnot
      have hlt := length.toNat_lt
      rw [bufferLength_lt_iff haddr, UInt32.toNat_add] at hroom
      have hsub : (file.bufferOffset.toNat + length.toNat) % 2 ^ 32 =
          file.bufferOffset.toNat + length.toNat - 2 ^ 32 := by
        rw [Nat.mod_eq_sub_mod hwraps]
        apply Nat.mod_eq_of_lt
        omega
      omega
    · rw [LoadOutcome.bind_eq_returned] at hx
      obtain ⟨data, hdata, -⟩ := hx
      exact Nat.lt_of_le_of_lt (copyFrom_eq_returned.mp hdata).1 hsize

end SavestateReader

/-- A header that the constructor takes. -/
structure ValidHeader (buffer : Data) : Prop where
  long : 12 ≤ buffer.length
  magic : (ofBytes (buffer.take 4) : UInt32) = ofBytes (bytes savestateMagic)
  major : (ofBytes ((buffer.drop 4).take 2) : UInt16) = savestateMajor
  minor : (ofBytes ((buffer.drop 6).take 2) : UInt16) ≤ savestateMinor
  length : (ofBytes ((buffer.drop 8).take 4) : UInt32) = UInt32.ofNat buffer.length

instance (buffer : Data) : Decidable (ValidHeader buffer) :=
  decidable_of_iff
    (12 ≤ buffer.length ∧ (ofBytes (buffer.take 4) : UInt32) = ofBytes (bytes savestateMagic) ∧
      (ofBytes ((buffer.drop 4).take 2) : UInt16) = savestateMajor ∧
      (ofBytes ((buffer.drop 6).take 2) : UInt16) ≤ savestateMinor ∧
      (ofBytes ((buffer.drop 8).take 4) : UInt32) = UInt32.ofNat buffer.length)
    ⟨fun ⟨hlong, hmagic, hmajor, hminor, hlength⟩ => ⟨hlong, hmagic, hmajor, hminor, hlength⟩,
      fun h => ⟨h.long, h.magic, h.major, h.minor, h.length⟩⟩

namespace SavestateReader

section Header

variable {α : Type} [FixedWidth α] [Copied α] [OfNat α 0] {accepted : α → Bool}
  {next : SavestateReader → LoadOutcome SavestateReader} {buffer : Data} {offset : UInt32}

/-- A field that the buffer has room for. -/
theorem headerField_fits (haddr : Addressable buffer)
    (hfits : offset.toNat + width α ≤ buffer.length) :
    headerField accepted next ⟨buffer, false, offset⟩ =
      if accepted (ofBytes ((buffer.drop offset.toNat).take (width α))) then
        next ⟨buffer, false, offset + .ofNat (width α)⟩
      else returned ⟨buffer, true, offset + .ofNat (width α)⟩ := by
  have hwidth : (UInt32.ofNat (width α)).toNat = width α := by
    rw [UInt32.toNat_ofNat']
    apply Nat.mod_eq_of_lt
    unfold Addressable at haddr
    change _ < UInt32.size
    omega
  have hread : (⟨buffer, false, offset⟩ : SavestateReader).varArray (.ofNat (width α)) =
      returned (some ((buffer.drop offset.toNat).take (width α)),
        ⟨buffer, false, offset + .ofNat (width α)⟩) := by
    have haddr' : Addressable (⟨buffer, false, offset⟩ : SavestateReader).buffer := haddr
    have hfits' : offset.toNat + (UInt32.ofNat (width α)).toNat ≤ buffer.length := by
      rw [hwidth]
      exact hfits
    have hread := varArray_fits haddr' rfl hfits'
    rwa [hwidth] at hread
  rw [headerField, hread]
  rfl

/-- A field that the buffer has no room for is zero. -/
theorem headerField_short (haddr : Addressable buffer) (hinside : offset.toNat ≤ buffer.length)
    (hwidth : width α ≤ 16) (hshort : buffer.length < offset.toNat + width α) :
    headerField accepted next ⟨buffer, false, offset⟩ =
      if accepted 0 then next ⟨buffer, true, offset⟩ else returned ⟨buffer, true, offset⟩ := by
  have hwidth' : (UInt32.ofNat (width α)).toNat = width α := by
    rw [UInt32.toNat_ofNat']
    apply Nat.mod_eq_of_lt
    exact Nat.lt_of_le_of_lt hwidth (by decide)
  have hread : (⟨buffer, false, offset⟩ : SavestateReader).varArray (.ofNat (width α)) =
      returned (none, ⟨buffer, true, offset⟩) := by
    have haddr' : Addressable (⟨buffer, false, offset⟩ : SavestateReader).buffer := haddr
    apply varArray_short haddr' rfl hinside
    · rw [hwidth']
      exact hshort
    · rw [hwidth']
      unfold Addressable at haddr
      change offset.toNat + width α < UInt32.size
      omega
  rw [headerField, hread]
  rfl

/-- After an error the field is zero. -/
theorem headerField_error : headerField accepted next ⟨buffer, true, offset⟩ =
    if accepted 0 then next ⟨buffer, true, offset⟩ else returned ⟨buffer, true, offset⟩ := rfl

end Header

/-- A buffer that is shorter than a header is refused. -/
theorem new_short {buffer : Data} (h : 0 < buffer.length) (hshort : buffer.length < 12) :
    ∃ offset, new buffer = returned ⟨buffer, true, offset⟩ := by
  have haddr : Addressable buffer := by
    have hsize : UInt32.size = 4294967296 := rfl
    unfold Addressable
    omega
  -- The length that is read as zero is not that of the buffer.
  have hlength : ((0 : UInt32) == UInt32.ofNat buffer.length) = false := by
    rw [beq_eq_false_iff_ne]
    intro hzero
    have hlen := congrArg UInt32.toNat hzero
    rw [UInt32.toNat_ofNat', Nat.mod_eq_of_lt (by omega)] at hlen
    exact absurd hlen (Nat.ne_of_lt h)
  unfold new
  by_cases h4 : 4 ≤ buffer.length
  · rw [headerField_fits haddr h4]
    split
    · by_cases h6 : 6 ≤ buffer.length
      · rw [headerField_fits haddr h6]
        split
        · by_cases h8 : 8 ≤ buffer.length
          · rw [headerField_fits haddr h8]
            split
            · rw [headerField_short haddr, hlength]
              · exact ⟨_, rfl⟩
              · exact h8
              · decide
              · exact hshort
            · exact ⟨_, rfl⟩
          · -- A minor version of zero is fine, but not the length.
            rw [headerField_short haddr, if_pos (by decide), headerField_error, hlength]
            · exact ⟨_, rfl⟩
            · exact h6
            · decide
            · exact Nat.not_le.mp h8
        · exact ⟨_, rfl⟩
      · rw [headerField_short haddr, if_neg (by decide)]
        · exact ⟨_, rfl⟩
        · exact h4
        · decide
        · exact Nat.not_le.mp h6
    · exact ⟨_, rfl⟩
  · rw [headerField_short haddr, if_neg (by decide)]
    · exact ⟨_, rfl⟩
    · exact Nat.zero_le _
    · decide
    · exact Nat.not_le.mp h4

/-- The constructor looks at nothing outside of the buffer, whatever the buffer. -/
theorem new_eq {buffer : Data} (haddr : Addressable buffer) (h : 0 < buffer.length) :
    ∃ file, new buffer = returned file ∧ file.buffer = buffer ∧
      file.position = if ValidHeader buffer then some 0x10 else none := by
  by_cases hlong : 12 ≤ buffer.length
  · -- Every field that is not taken leaves the reader in error.
    have hrefused (offset : UInt32) (hvalid : ¬ ValidHeader buffer) :
        ∃ file, returned (⟨buffer, true, offset⟩ : SavestateReader) = returned file ∧
          file.buffer = buffer ∧
            file.position = if ValidHeader buffer then some 0x10 else none :=
      ⟨_, rfl, rfl, (if_neg hvalid).symm⟩
    unfold new
    rw [headerField_fits haddr (Nat.le_trans (by decide) hlong)]
    split
    · rename_i hmagic
      rw [headerField_fits haddr (Nat.le_trans (by decide) hlong)]
      split
      · rename_i hmajor
        rw [headerField_fits haddr (Nat.le_trans (by decide) hlong)]
        split
        · rename_i hminor
          rw [headerField_fits haddr hlong]
          split
          · rename_i hlength
            have hvalid : ValidHeader buffer :=
              ⟨hlong, beq_iff_eq.mp hmagic, beq_iff_eq.mp hmajor, of_decide_eq_true hminor,
                beq_iff_eq.mp hlength⟩
            exact ⟨_, rfl, rfl, (if_pos hvalid).symm⟩
          · rename_i hlength
            exact hrefused _ fun hvalid => hlength (beq_iff_eq.mpr hvalid.length)
        · rename_i hminor
          exact hrefused _ fun hvalid => hminor (decide_eq_true hvalid.minor)
      · rename_i hmajor
        exact hrefused _ fun hvalid => hmajor (beq_iff_eq.mpr hvalid.major)
    · rename_i hmagic
      exact hrefused _ fun hvalid => hmagic (beq_iff_eq.mpr hvalid.magic)
  · obtain ⟨offset, hnew⟩ := new_short h (Nat.not_le.mp hlong)
    exact ⟨_, hnew, rfl, (if_neg fun hvalid => hlong hvalid.long).symm⟩

end SavestateReader

end DSEmu

import DSEmu.Library.FixedWidth
import DSEmu.Protocol.Message

/-!
# Savestates

The writing side of `src/Savestate.h` and `src/Savestate.cpp` of melonDS: a buffer that grows at its
end, a section that is open, whose length is written into its header when the next one begins, and
the length of the whole, which `Finish` writes into the header of the file. The buffer belongs to
the savestate, so that it is enlarged where a write does not fit, and memory does not run out here.

`buffer_sections` says what a file that is written so looks like: every length is in its place.
-/

namespace DSEmu

open FixedWidth

/-- The four characters that begin a file or a section. -/
abbrev Magic := Vector UInt8 4

/-- `SAVESTATE_MAGIC`, "MELN". -/
def savestateMagic : Magic := #v[0x4D, 0x45, 0x4C, 0x4E]

/-- `SAVESTATE_MAJOR` -/
def savestateMajor : UInt16 := 12

/-- `SAVESTATE_MINOR` -/
def savestateMinor : UInt16 := 1

/-- A savestate that is being written. `buffer` is what has been written, so that `buffer_offset` is
its length. -/
structure Savestate where
  buffer : Data := []
  curSection : Option ℕ := none
  finished : Bool := false

namespace Savestate

/-- A `memcpy` into the middle of a buffer. -/
def overwrite (offset : ℕ) (data buffer : Data) : Data :=
  buffer.take offset ++ data ++ buffer.drop (offset + data.length)

/-- `VarArray`. -/
def varArray (data : Data) (file : Savestate) : Savestate :=
  if file.finished then file else { file with buffer := file.buffer ++ data }

/-- `Var8`, `Var16`, `Var32`, `Var64`, `Bool32` and `VarArray`, each of a variable of its width. -/
def var {α : Type} [FixedWidth α] (x : α) (file : Savestate) : Savestate := file.varArray (bytes x)

/-- `WriteSavestateHeader`, where the length is filled in at the end. -/
def writeSavestateHeader (file : Savestate) : Savestate :=
  file.var savestateMagic |>.var savestateMajor |>.var savestateMinor |>.var (0 : UInt32)
    |>.var (0 : UInt32)

/-- A new savestate that is saving. -/
def new : Savestate := writeSavestateHeader {}

/-- `CloseCurrentSection`. -/
def closeCurrentSection (file : Savestate) : Savestate :=
  match file.curSection with
  | some curSection =>
    if file.finished then file
    else
      let sectionLength := UInt32.ofNat (file.buffer.length - curSection)
      { file with
        buffer := overwrite (curSection + 4) (bytes sectionLength) file.buffer
        curSection := none }
  | none => file

/-- `Section`. -/
def beginSection (magic : Magic) (file : Savestate) : Savestate :=
  if file.finished then file
  else
    let file := file.closeCurrentSection
    { file with curSection := some file.buffer.length }
      |>.var magic |>.var (0 : UInt32) |>.var (0 : UInt32) |>.var (0 : UInt32)

/-- `WriteStateLength`. -/
def writeStateLength (file : Savestate) : Savestate :=
  { file with buffer := overwrite 8 (bytes (UInt32.ofNat file.buffer.length)) file.buffer }

/-- `Finish`. -/
def finish (file : Savestate) : Savestate :=
  if file.finished then file
  else { file.closeCurrentSection.writeStateLength with finished := true }

/-- The variables of a section, one after the other. -/
def vars (fields : List Data) (file : Savestate) : Savestate :=
  fields.foldl (fun file data => file.varArray data) file

end Savestate

/-- A section of a savestate: its name, and what the variables write. -/
structure SavestateSection where
  magic : Magic
  fields : List Data

namespace SavestateSection

/-- The bytes of the variables. -/
def payload (s : SavestateSection) : Data := s.fields.flatten

/-- A section as it is in a file, under a length. -/
def framed (length : UInt32) (s : SavestateSection) : Data :=
  bytes s.magic ++ bytes length ++ bytes (0 : UInt32) ++ bytes (0 : UInt32) ++ s.payload

/-- A section as it is in a file in the end: the length counts the header. -/
def closed (s : SavestateSection) : Data := s.framed (.ofNat (16 + s.payload.length))

theorem length_framed (length : UInt32) (s : SavestateSection) :
    (s.framed length).length = 16 + s.payload.length := by
  simp only [framed, List.length_append, length_bytes]
  rfl

/-- Writes a section. -/
def write (s : SavestateSection) (file : Savestate) : Savestate :=
  (file.beginSection s.magic).vars s.fields

end SavestateSection

namespace Savestate

/-- The header of a file. -/
def header (length : UInt32) : Data :=
  bytes savestateMagic ++ bytes savestateMajor ++ bytes savestateMinor ++ bytes length ++
    bytes (0 : UInt32)

/-- A file with sections, as the comment on the format has it. -/
def format (sections : List SavestateSection) : Data :=
  let body := sections.flatMap SavestateSection.closed
  header (.ofNat (16 + body.length)) ++ body

theorem length_header (length : UInt32) : (header length).length = 16 := by
  simp only [header, List.length_append, length_bytes]
  rfl

/-- A `memcpy` over what stands between two parts of a buffer. -/
theorem overwrite_append {offset : ℕ} {front old new : Data} (rest : Data)
    (hoffset : offset = front.length) (h : new.length = old.length) :
    overwrite offset new (front ++ old ++ rest) = front ++ new ++ rest := by
  have htake : (front ++ old ++ rest).take front.length = front := by
    rw [List.append_assoc, List.take_left]
  have hdrop : (front ++ old ++ rest).drop (front.length + new.length) = rest := by
    rw [h, ← List.length_append, List.drop_left]
  rw [overwrite, hoffset, htake, hdrop]

/-- The variables of a section are written as one array. -/
theorem vars_eq {file : Savestate} (h : file.finished = false) (fields : List Data) :
    file.vars fields = { file with buffer := file.buffer ++ fields.flatten } := by
  induction fields generalizing file with
  | nil => simp only [vars, List.foldl_nil, List.flatten_nil, List.append_nil]
  | cons data fields ih =>
    have hstep : file.varArray data = { file with buffer := file.buffer ++ data } := by
      rw [varArray, h]
      rfl
    have hopen : ({ file with buffer := file.buffer ++ data } : Savestate).finished = false := h
    have htail := ih hopen
    rw [vars, List.foldl_cons, hstep]
    rw [vars] at htail
    rw [htail, List.flatten_cons, List.append_assoc]

/-- What there is of a file once the section that is open is closed. -/
def sofar (written : Data) (current : Option SavestateSection) : Data :=
  written ++ (current.map (·.closed)).getD []

/-- A file between two sections: `written` is in it, and the section that is open, if there is
one. -/
structure Between (written : Data) (current : Option SavestateSection) (file : Savestate) :
    Prop where
  finished : file.finished = false
  curSection : file.curSection = current.map fun _ => written.length
  buffer : file.buffer = written ++ (current.map (·.framed 0)).getD []

/-- Closing a section puts its length in its place. -/
theorem Between.close {written : Data} {current : Option SavestateSection} {file : Savestate}
    (h : Between written current file) :
    file.closeCurrentSection = { buffer := sofar written current } := by
  obtain ⟨buffer, curSection, finished⟩ := file
  obtain ⟨hfinished, hcur, hbuffer⟩ := h
  simp only at hfinished hcur hbuffer
  subst hfinished hcur hbuffer
  cases current with
  | none => rfl
  | some s =>
    have hlen : (written ++ s.framed 0).length - written.length = 16 + s.payload.length := by
      rw [List.length_append, s.length_framed]
      omega
    -- The length is the second field of a section, and closing overwrites this field alone.
    have hsplit (length : UInt32) : written ++ s.framed length =
        (written ++ bytes s.magic) ++ bytes length ++
          (bytes (0 : UInt32) ++ bytes (0 : UInt32) ++ s.payload) := by
      simp only [SavestateSection.framed, List.append_assoc]
    have hfront : (written ++ bytes s.magic).length = written.length + 4 := by
      rw [List.length_append, length_bytes]
      rfl
    have hpatch : overwrite (written.length + 4) (bytes (UInt32.ofNat (16 + s.payload.length)))
        (written ++ s.framed 0) = written ++ s.closed := by
      rw [hsplit, SavestateSection.closed, hsplit]
      exact overwrite_append _ hfront.symm rfl
    simp only [closeCurrentSection, sofar, Option.map_some, Option.getD_some, hlen, hpatch]
    rfl

/-- Writing a section closes the one before. -/
theorem Between.write {written : Data} {current : Option SavestateSection} {file : Savestate}
    (h : Between written current file) (s : SavestateSection) :
    Between (sofar written current) (some s) (s.write file) := by
  have hopen : file.beginSection s.magic =
      { buffer := sofar written current ++
          (bytes s.magic ++ bytes (0 : UInt32) ++ bytes (0 : UInt32) ++ bytes (0 : UInt32))
        curSection := some (sofar written current).length } := by
    rw [beginSection, h.finished, if_neg (by decide), h.close]
    simp only [var, varArray, List.append_assoc, Bool.false_eq_true, if_false]
  have hwrite : s.write file =
      { buffer := sofar written current ++ s.framed 0
        curSection := some (sofar written current).length } := by
    rw [SavestateSection.write, hopen, vars_eq rfl]
    simp only [SavestateSection.framed, SavestateSection.payload, List.append_assoc]
  rw [hwrite]
  exact ⟨rfl, rfl, rfl⟩

/-- Sections are written one after the other, and each closes the one before. -/
theorem Between.writes {written : Data} {current : Option SavestateSection} {file : Savestate}
    (h : Between written current file) (sections : List SavestateSection) :
    ∃ written' current', Between written' current'
      (sections.foldl (fun file s => s.write file) file) ∧
      sofar written' current' = sofar written current ++
        sections.flatMap SavestateSection.closed := by
  induction sections generalizing written current file with
  | nil => exact ⟨written, current, h, (List.append_nil _).symm⟩
  | cons s sections ih =>
    obtain ⟨written', current', hbetween, hsofar⟩ := ih (h.write s)
    refine ⟨written', current', hbetween, ?_⟩
    rw [hsofar, List.flatMap_cons, ← List.append_assoc]
    rfl

/-- Two files whose first sections have the same name, and variables of the same widths, are the
same file exactly if these variables are, and what the other sections write. -/
theorem format_cons_inj {magic : Magic} {fields fields' : List Data}
    (hlen : fields.map List.length = fields'.map List.length) (rest rest' : List SavestateSection) :
    format (⟨magic, fields⟩ :: rest) = format (⟨magic, fields'⟩ :: rest') ↔
      fields = fields' ∧
        rest.flatMap SavestateSection.closed = rest'.flatMap SavestateSection.closed := by
  have hclosed (fields : List Data) (rest : List SavestateSection) (length total : UInt32) :
      header total ++ (SavestateSection.framed length ⟨magic, fields⟩ ++
          rest.flatMap SavestateSection.closed) =
        (header total ++ (bytes magic ++ bytes length ++ bytes (0 : UInt32) ++
          bytes (0 : UInt32))) ++
          (fields.flatten ++ rest.flatMap SavestateSection.closed) := by
    simp only [SavestateSection.framed, SavestateSection.payload, List.append_assoc]
  constructor
  · intro h
    rw [format, format] at h
    simp only [List.flatMap_cons] at h
    rw [SavestateSection.closed, SavestateSection.closed, hclosed, hclosed] at h
    have hheaders := (List.append_inj h (by
      simp only [List.length_append, length_header, length_bytes])).2
    exact flatten_append_inj hlen hheaders
  · rintro ⟨rfl, hrest⟩
    rw [format, format]
    simp only [List.flatMap_cons, hrest]

/-- What a file looks like that is written section by section and finished. -/
theorem buffer_sections (sections : List SavestateSection) :
    (sections.foldl (fun file s => s.write file) new).finish.buffer = format sections := by
  have hnew : Between (header 0) none new := ⟨rfl, rfl, (List.append_nil _).symm⟩
  obtain ⟨written, current, hbetween, hsofar⟩ := hnew.writes sections
  have hbody : sofar written current = header 0 ++ sections.flatMap SavestateSection.closed := by
    rw [hsofar]
    exact congrArg (· ++ _) (List.append_nil _)
  have hlen : (header 0 ++ sections.flatMap SavestateSection.closed).length =
      16 + (sections.flatMap SavestateSection.closed).length := by
    rw [List.length_append, length_header]
  rw [finish, hbetween.finished, if_neg (by decide), hbetween.close, writeStateLength, hbody, hlen]
  have hsplit (length : UInt32) : header length ++ sections.flatMap SavestateSection.closed =
      (bytes savestateMagic ++ bytes savestateMajor ++ bytes savestateMinor) ++ bytes length ++
        (bytes (0 : UInt32) ++ sections.flatMap SavestateSection.closed) := by
    simp only [header, List.append_assoc]
  show overwrite 8 _ (header 0 ++ _) = header _ ++ _
  rw [hsplit, hsplit]
  exact overwrite_append _ rfl rfl

end Savestate

end DSEmu

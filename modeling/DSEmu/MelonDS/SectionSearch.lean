import DSEmu.Library.Iteration
import DSEmu.MelonDS.SavestateReader
import Mathlib.Data.FinEnum

/-!
# The search for a section

A search looks at a chain of headers, each as far behind the last as the length in it says. It ends
inside the buffer exactly if it never looks at a header that the end of the buffer cuts off, and
never comes back to one (`SearchEnds`, `searchEnds_iff`). Where it does, `Section` returns what
`beginSection_eq_returned` says.
-/

namespace DSEmu

open FixedWidth
open Iteration (Visits StopsAt NeverReturns)
open LoadOutcome (returned outside)

section Search

variable (buffer : Data) (magic : Magic)

/-- The name in a header of a section. -/
def sectionMagic (offset : UInt32) : Data := (buffer.drop offset.toNat).take 4

/-- The length in a header of a section. -/
def sectionLength (offset : UInt32) : UInt32 :=
  ofBytes ((buffer.drop (offset.toNat + 4)).take 4)

/-- The header behind a section. -/
def nextSection (offset : UInt32) : UInt32 := offset + sectionLength buffer offset

/-- The search passes a header: it is another section's, and its length is in the buffer. -/
def Passes (offset : UInt32) : Prop :=
  offset.toNat + 8 ≤ buffer.length ∧ sectionMagic buffer offset ≠ bytes magic

/-- What the search examines of a header is in the buffer: the name, and for another section the
length, unless the buffer ends with the name. -/
def HeaderFits (offset : UInt32) : Prop :=
  offset.toNat + 4 ≤ buffer.length ∧ (sectionMagic buffer offset ≠ bytes magic →
    offset.toNat + 4 < buffer.length → offset.toNat + 8 ≤ buffer.length)

/-- The header that a search looks at after `k` others. -/
def headerAt (k : ℕ) : UInt32 := (nextSection buffer)^[k] 0x10

/-- The search gets to its `k`-th header. -/
abbrev SearchVisits (k : ℕ) : Prop := Visits (nextSection buffer) (Passes buffer magic) 0x10 k

/-- The search stops at its `k`-th header. -/
abbrev SearchStops (k : ℕ) : Prop := StopsAt (nextSection buffer) (Passes buffer magic) 0x10 k

/-- A search ends, and inside the buffer: every header that it gets to is beyond the end or fits,
and it never comes back to one. -/
structure SearchEnds : Prop where
  fits : ∀ k, SearchVisits buffer magic k →
    (headerAt buffer k).toNat < buffer.length → HeaderFits buffer magic (headerAt buffer k)
  never_returns : NeverReturns (nextSection buffer) (Passes buffer magic) 0x10

instance (offset : UInt32) : Decidable (Passes buffer magic offset) :=
  inferInstanceAs (Decidable (_ ∧ _))

instance (offset : UInt32) : Decidable (HeaderFits buffer magic offset) :=
  inferInstanceAs (Decidable (_ ∧ _))

/-- What a search returns that has stopped at a header. -/
def sectionAt (offset : UInt32) : UInt32 :=
  if offset.toNat + 4 ≤ buffer.length ∧ sectionMagic buffer offset = bytes magic then offset + 16
  else SavestateReader.noSection

end Search

namespace SavestateReader

variable {file : SavestateReader} {magic : Magic} {offset start : UInt32} {fuel k : ℕ}

/-- A header that is passed. -/
theorem findSection_passes (haddr : Addressable file.buffer)
    (h : Passes file.buffer magic offset) :
    file.findSection magic (fuel + 1) offset =
      file.findSection magic fuel (nextSection file.buffer offset) := by
  obtain ⟨hfits, hother⟩ := h
  have hinside : offset < file.bufferLength := by
    rw [lt_bufferLength_iff haddr]
    omega
  have hadd : (offset + 4).toNat = offset.toNat + 4 :=
    toNat_add_of_lt (haddr.lt (Nat.add_le_add (by omega) (by decide)))
  have hlength : ¬ file.bufferLength ≤ offset + 4 := by
    rw [UInt32.not_le, lt_bufferLength_iff haddr]
    omega
  have hmagic : copyFrom file.buffer offset.toNat 4 = returned (sectionMagic file.buffer offset) :=
    copyFrom_eq_returned.mpr ⟨by omega, rfl⟩
  have hcopy : copyFrom file.buffer (offset + 4).toNat 4 =
      returned ((file.buffer.drop (offset.toNat + 4)).take 4) := by
    rw [hadd]
    exact copyFrom_eq_returned.mpr ⟨by omega, rfl⟩
  -- `nextSection` adds the length that was copied, which is the last step of an iteration
  rw [findSection, if_pos hinside, hmagic, LoadOutcome.returned_bind, if_neg hother, if_neg hlength,
    hcopy, LoadOutcome.returned_bind]
  rfl

/-- A header at which the search stops, and what it examines of it is in the buffer. -/
theorem findSection_stops (haddr : Addressable file.buffer)
    (h : ¬ Passes file.buffer magic offset)
    (hfits : offset.toNat < file.buffer.length → HeaderFits file.buffer magic offset) :
    file.findSection magic (fuel + 1) offset = returned (sectionAt file.buffer magic offset) := by
  rw [findSection]
  by_cases hinside : offset.toNat < file.buffer.length
  · obtain ⟨hmagic, hlength⟩ := hfits hinside
    have hinside' : offset < file.bufferLength := (lt_bufferLength_iff haddr).mpr hinside
    have hcopy : copyFrom file.buffer offset.toNat 4 =
        returned (sectionMagic file.buffer offset) :=
      copyFrom_eq_returned.mpr ⟨hmagic, rfl⟩
    rw [if_pos hinside', hcopy, LoadOutcome.returned_bind]
    by_cases hname : sectionMagic file.buffer offset = bytes magic
    · -- the section is found: its data begin behind the header
      rw [if_pos hname, sectionAt, if_pos ⟨hmagic, hname⟩]
      rfl
    · -- The buffer ends with the name of another section.
      have hend : ¬ offset.toNat + 4 < file.buffer.length := fun hlt => h ⟨hlength hname hlt, hname⟩
      have hadd : (offset + 4).toNat = offset.toNat + 4 :=
        toNat_add_of_lt (haddr.lt (Nat.le_trans hmagic (Nat.le_add_right _ 16)))
      have hbreak : file.bufferLength ≤ offset + 4 := by
        rw [← UInt32.not_lt, lt_bufferLength_iff haddr, hadd]
        exact hend
      rw [if_neg hname, if_pos hbreak, sectionAt, if_neg fun hfound => hname hfound.2]
      rfl
  · -- the condition of the loop is false
    have houtside : ¬ offset < file.bufferLength := by
      rw [lt_bufferLength_iff haddr]
      exact hinside
    rw [if_neg houtside, sectionAt, if_neg]
    · rfl
    · rintro ⟨hmagic, -⟩
      omega

/-- A header that the end of the buffer cuts off is examined past the end. -/
theorem findSection_cut (haddr : Addressable file.buffer)
    (hinside : offset.toNat < file.buffer.length) (hcut : ¬ HeaderFits file.buffer magic offset) :
    file.findSection magic (fuel + 1) offset = outside := by
  have hinside' : offset < file.bufferLength := (lt_bufferLength_iff haddr).mpr hinside
  have hadd : (offset + 4).toNat = offset.toNat + 4 :=
    toNat_add_of_lt (haddr.lt (Nat.add_le_add (Nat.le_of_lt hinside) (by decide)))
  rw [findSection, if_pos hinside']
  by_cases hmagic : offset.toNat + 4 ≤ file.buffer.length
  · have hcopy : copyFrom file.buffer offset.toNat 4 =
        returned (sectionMagic file.buffer offset) :=
      copyFrom_eq_returned.mpr ⟨hmagic, rfl⟩
    -- The name is whole, so it is the length that the end of the buffer cuts off, of a section with
    -- another name: the search would not have read it otherwise.
    have hparts : sectionMagic file.buffer offset ≠ bytes magic ∧
        offset.toNat + 4 < file.buffer.length ∧ ¬ offset.toNat + 8 ≤ file.buffer.length := by
      by_contra hnot
      apply hcut
      refine ⟨hmagic, fun hother hlt => ?_⟩
      by_contra hlength
      exact hnot ⟨hother, hlt, hlength⟩
    obtain ⟨hother, hlt, hlength⟩ := hparts
    have hgoesOn : ¬ file.bufferLength ≤ offset + 4 := by
      rw [UInt32.not_le, lt_bufferLength_iff haddr, hadd]
      exact hlt
    have hcopy' : copyFrom file.buffer (offset + 4).toNat 4 = outside := by
      rw [copyFrom, if_neg]
      omega
    rw [hcopy, LoadOutcome.returned_bind, if_neg hother, if_neg hgoesOn, hcopy']
    rfl
  · have hcopy : copyFrom file.buffer offset.toNat 4 = outside := if_neg hmagic
    rw [hcopy]
    rfl

/-- A search returns where it stops, if its fuel takes it there and it has looked at nothing past
the end. -/
theorem findSection_eq_returned (haddr : Addressable file.buffer) {found : UInt32} :
    file.findSection magic fuel start = returned found ↔
      ∃ k < fuel, StopsAt (nextSection file.buffer) (Passes file.buffer magic) start k ∧
        (((nextSection file.buffer)^[k] start).toNat < file.buffer.length →
          HeaderFits file.buffer magic ((nextSection file.buffer)^[k] start)) ∧
        found = sectionAt file.buffer magic ((nextSection file.buffer)^[k] start) := by
  induction fuel generalizing start with
  | zero => exact ⟨fun h => absurd h nofun, fun ⟨_, h, _⟩ => absurd h (Nat.not_lt_zero _)⟩
  | succ fuel ih =>
    by_cases hpasses : Passes file.buffer magic start
    · -- The search goes on, and stops one step earlier.
      rw [findSection_passes haddr hpasses, ih]
      constructor
      · rintro ⟨k, hk, hstops, hrest⟩
        exact ⟨k + 1, Nat.succ_lt_succ hk, Iteration.stopsAt_succ.mpr ⟨hpasses, hstops⟩, hrest⟩
      · rintro ⟨k, hk, hstops, hrest⟩
        obtain _ | k := k
        · exact absurd hpasses hstops.2
        · exact ⟨k, Nat.lt_of_succ_lt_succ hk, (Iteration.stopsAt_succ.mp hstops).2, hrest⟩
    · -- The search stops here, or reads past the end.
      have hstops : StopsAt (nextSection file.buffer) (Passes file.buffer magic) start 0 :=
        ⟨Iteration.visits_zero, hpasses⟩
      constructor
      · intro h
        have hfits : start.toNat < file.buffer.length → HeaderFits file.buffer magic start := by
          intro hinside
          by_contra hcut
          rw [findSection_cut haddr hinside hcut] at h
          exact absurd h nofun
        rw [findSection_stops haddr hpasses hfits] at h
        exact ⟨0, Nat.succ_pos fuel, hstops, hfits, (LoadOutcome.returned.inj h).symm⟩
      · rintro ⟨k, -, hk, hfits, rfl⟩
        obtain rfl := hk.unique hstops
        exact findSection_stops haddr hpasses hfits

end SavestateReader

/-- A search ends inside the buffer exactly if it stops, where it has looked at nothing past the
end. -/
theorem searchEnds_iff {buffer : Data} {magic : Magic} :
    SearchEnds buffer magic ↔ ∃ k, SearchStops buffer magic k ∧
      ((headerAt buffer k).toNat < buffer.length →
        HeaderFits buffer magic (headerAt buffer k)) := by
  constructor
  · rintro ⟨hfits, hnever⟩
    obtain ⟨k, hk⟩ := Iteration.exists_stopsAt_iff.mpr hnever
    exact ⟨k, hk, hfits k hk.1⟩
  · rintro ⟨k, hk, hfits⟩
    -- the headers visited are those up to the `k`-th
    refine ⟨fun j hj _ => ?_, hk.neverReturns⟩
    rcases Nat.lt_or_eq_of_le (hk.le hj) with hlt | rfl
    · -- A header that is passed is whole up to its length.
      have hpasses : Passes buffer magic (headerAt buffer j) := hk.1 j hlt
      exact ⟨Nat.le_trans (by omega) hpasses.1, fun _ _ => hpasses.1⟩
    · exact hfits ‹_›

/-- Where the first read of a section is, where a search has stopped at a header. -/
def sectionStart (buffer : Data) (magic : Magic) (offset : UInt32) : Option UInt32 :=
  if offset.toNat + 4 ≤ buffer.length ∧ sectionMagic buffer offset = bytes magic then
    some (offset + 16)
  else none

namespace SavestateReader

variable {file file' : SavestateReader} {magic : Magic} {fuel : ℕ}

/-- A found section does not begin where `NO_SECTION` says that there is none. -/
theorem sectionAt_eq (haddr : Addressable file.buffer) (magic : Magic) (offset : UInt32) :
    (sectionAt file.buffer magic offset = noSection ∧
        sectionStart file.buffer magic offset = none) ∨
      (sectionAt file.buffer magic offset ≠ noSection ∧
        sectionStart file.buffer magic offset = some (sectionAt file.buffer magic offset)) := by
  unfold sectionAt sectionStart
  split
  · rename_i hfound
    refine .inr ⟨?_, rfl⟩
    -- `NO_SECTION` is the largest offset, which no section of an addressable buffer has
    intro hsame
    have hadd : (offset + 16).toNat = offset.toNat + 16 :=
      toNat_add_of_lt (haddr.lt (Nat.add_le_add_right (by omega) 16))
    have hmax : noSection.toNat = 4294967295 := rfl
    rw [← hsame, hadd] at hmax
    unfold Addressable at haddr
    have hsize : UInt32.size = 4294967296 := rfl
    omega
  · exact .inl ⟨rfl, rfl⟩

/-- A section is found, or there is an error, where its search stops. -/
theorem beginSection_eq_returned (haddr : Addressable file.buffer) (h : file.error = false) :
    file.beginSection fuel magic = returned file' ↔
      ∃ k < fuel, SearchStops file.buffer magic k ∧
        ((headerAt file.buffer k).toNat < file.buffer.length →
          HeaderFits file.buffer magic (headerAt file.buffer k)) ∧
        file' = file.moved (sectionStart file.buffer magic (headerAt file.buffer k)) := by
  -- What `Section` does with an offset found.
  have hreturned (found : UInt32) :
      (if found ≠ noSection then return { file with bufferOffset := found }
        else return { file with error := true } : LoadOutcome SavestateReader) = returned file' ↔
          file' = if found ≠ noSection then { file with bufferOffset := found }
            else { file with error := true } := by
    split
    · exact ⟨fun h => (LoadOutcome.returned.inj h).symm, fun h => congrArg returned h.symm⟩
    · exact ⟨fun h => (LoadOutcome.returned.inj h).symm, fun h => congrArg returned h.symm⟩
  have hgoesOn : ¬ file.error = true := by
    rw [h]
    exact Bool.false_ne_true
  rw [beginSection, if_neg hgoesOn, LoadOutcome.bind_eq_returned]
  constructor
  · rintro ⟨found, hfound, hfile⟩
    obtain ⟨k, hk, hstops, hfits, rfl⟩ := (findSection_eq_returned haddr).mp hfound
    refine ⟨k, hk, hstops, hfits, ?_⟩
    rw [hreturned] at hfile
    change file' = if sectionAt file.buffer magic (headerAt file.buffer k) ≠ noSection
      then _ else _ at hfile
    rcases sectionAt_eq haddr magic (headerAt file.buffer k) with
      ⟨hnone, hstart⟩ | ⟨hsome, hstart⟩
    · rw [hfile, hstart, if_neg (not_not.mpr hnone)]
      rfl
    · rw [hfile, hstart, if_pos hsome]
      rfl
  · rintro ⟨k, hk, hstops, hfits, rfl⟩
    refine ⟨sectionAt file.buffer magic (headerAt file.buffer k),
      (findSection_eq_returned haddr).mpr ⟨k, hk, hstops, hfits, rfl⟩, ?_⟩
    rw [hreturned]
    rcases sectionAt_eq haddr magic (headerAt file.buffer k) with
      ⟨hnone, hstart⟩ | ⟨hsome, hstart⟩
    · rw [hstart, if_neg (not_not.mpr hnone)]
      rfl
    · rw [hstart, if_pos hsome]
      rfl

/-- A search leaves the buffer alone, and after an error nothing is searched. -/
theorem beginSection_preserves (h : file.beginSection fuel magic = returned file') :
    file'.buffer = file.buffer ∧ (file.error = true → file'.error = true) := by
  unfold beginSection at h
  split at h
  · rw [LoadOutcome.pure_eq_returned] at h
    exact h ▸ ⟨rfl, id⟩
  · rename_i herror
    rw [LoadOutcome.bind_eq_returned] at h
    obtain ⟨found, -, h⟩ := h
    refine ⟨?_, fun h => absurd h herror⟩
    split at h <;>
      rw [LoadOutcome.pure_eq_returned] at h <;>
      exact h ▸ rfl

end SavestateReader

/-- The header of a section in a buffer. -/
theorem sectionMagic_append {s : SavestateSection} {front rest : Data} {offset : UInt32}
    (hoffset : offset.toNat = front.length) :
    sectionMagic (front ++ (s.closed ++ rest)) offset = bytes s.magic := by
  rw [sectionMagic, hoffset, List.drop_left, SavestateSection.closed, SavestateSection.framed]
  simp only [List.append_assoc]
  exact List.take_left' (length_bytes s.magic)

/-- The length in the header of a section, from its offset in the file. -/
theorem sectionLength_append {s : SavestateSection} {front rest : Data} {offset : UInt32}
    (hoffset : offset.toNat = front.length) :
    sectionLength (front ++ (s.closed ++ rest)) offset = .ofNat (16 + s.payload.length) := by
  have hsplit : s.closed ++ rest = bytes s.magic ++ (bytes (UInt32.ofNat (16 + s.payload.length)) ++
      (bytes (0 : UInt32) ++ bytes (0 : UInt32) ++ s.payload ++ rest)) := by
    rw [SavestateSection.closed, SavestateSection.framed]
    simp only [List.append_assoc]
  have hdrop : (front ++ (s.closed ++ rest)).drop (offset.toNat + 4) =
      bytes (UInt32.ofNat (16 + s.payload.length)) ++
        (bytes (0 : UInt32) ++ bytes (0 : UInt32) ++ s.payload ++ rest) := by
    rw [hoffset, ← List.drop_drop, List.drop_left, hsplit]
    exact List.drop_left' (length_bytes s.magic)
  have htake : ((front ++ (s.closed ++ rest)).drop (offset.toNat + 4)).take 4 =
      bytes (UInt32.ofNat (16 + s.payload.length)) := by
    rw [hdrop]
    exact List.take_left' (length_bytes (UInt32.ofNat _))
  rw [sectionLength, htake, ofBytes_bytes]

/-- A search from where sections begin that were written: it stops at the one that it looks for,
whose header is whole, or behind the last one. -/
theorem exists_stopsAt_closed {magic : Magic} {sections : List SavestateSection}
    {buffer front : Data} {offset : UInt32}
    (hbuffer : buffer = front ++ sections.flatMap SavestateSection.closed)
    (hoffset : offset.toNat = front.length) (haddr : Addressable buffer) :
    ∃ k, StopsAt (nextSection buffer) (Passes buffer magic) offset k ∧
      (((nextSection buffer)^[k] offset).toNat < buffer.length →
        HeaderFits buffer magic ((nextSection buffer)^[k] offset)) ∧
      ∀ start, sectionStart buffer magic ((nextSection buffer)^[k] offset) = some start →
        start.toNat ≤ buffer.length := by
  induction sections generalizing front offset with
  | nil =>
    rw [List.flatMap_nil, List.append_nil] at hbuffer
    subst hbuffer
    refine ⟨0, ⟨Iteration.visits_zero, ?_⟩, ?_, ?_⟩
    · -- behind the last section there is no header
      rintro ⟨hfits, -⟩
      change offset.toNat + 8 ≤ buffer.length at hfits
      omega
    · intro hinside
      change offset.toNat < buffer.length at hinside
      omega
    · intro start hstart
      obtain ⟨⟨hname, -⟩, -⟩ := Option.ite_none_right_eq_some.mp hstart
      change offset.toNat + 4 ≤ buffer.length at hname
      omega
  | cons s rest ih =>
    rw [List.flatMap_cons] at hbuffer
    have hclosed : s.closed.length = 16 + s.payload.length := s.length_framed _
    have hlength : buffer.length = front.length + (16 + s.payload.length) +
        (rest.flatMap SavestateSection.closed).length := by
      rw [hbuffer, List.length_append, List.length_append, hclosed]
      omega
    -- the header of `s` is as it was written
    have hname : sectionMagic buffer offset = bytes s.magic := by
      rw [hbuffer]
      exact sectionMagic_append hoffset
    have hsize : sectionLength buffer offset = .ofNat (16 + s.payload.length) := by
      rw [hbuffer]
      exact sectionLength_append hoffset
    by_cases hfound : bytes s.magic = bytes magic
    · refine ⟨0, ⟨Iteration.visits_zero, fun hpasses => hpasses.2 (hname.trans hfound)⟩,
        fun _ => ?_,
        fun start hstart => ?_⟩
      · refine ⟨?_, fun hother => absurd (hname.trans hfound) hother⟩
        change offset.toNat + 4 ≤ buffer.length
        omega
      · -- its data begin behind the 16 bytes of the header
        obtain ⟨-, hbegin⟩ := Option.ite_none_right_eq_some.mp hstart
        obtain rfl : offset + 16 = start := Option.some.inj hbegin
        have hadd : (offset + 16).toNat = offset.toNat + 16 :=
          toNat_add_of_lt (haddr.lt (Nat.add_le_add (by omega) (by decide)))
        omega
    · -- `s` is another section: its length leads to the next one
      have hpasses : Passes buffer magic offset := by
        refine ⟨by omega, ?_⟩
        rw [hname]
        exact hfound
      have hlt : front.length + (16 + s.payload.length) < UInt32.size := haddr.lt (by omega)
      have hnext : (nextSection buffer offset).toNat = (front ++ s.closed).length := by
        have hpayload : (UInt32.ofNat (16 + s.payload.length)).toNat = 16 + s.payload.length := by
          rw [UInt32.toNat_ofNat']
          exact Nat.mod_eq_of_lt (Nat.lt_of_le_of_lt (Nat.le_add_left _ _) hlt)
        rw [nextSection, hsize, UInt32.toNat_add, hpayload, hoffset, List.length_append, hclosed]
        exact Nat.mod_eq_of_lt hlt
      obtain ⟨k, hstops, hfits⟩ := ih (hbuffer.trans (List.append_assoc _ _ _).symm) hnext
      exact ⟨k + 1, Iteration.stopsAt_succ.mpr ⟨hpasses, hstops⟩, hfits⟩

/-- A search in a file that was written section by section ends inside of it, and so does the header
of what it finds. -/
theorem searchEnds_format (magic : Magic) {sections : List SavestateSection}
    (haddr : Addressable (Savestate.format sections)) :
    SearchEnds (Savestate.format sections) magic ∧
      ∀ k, SearchStops (Savestate.format sections) magic k → ∀ start,
        sectionStart (Savestate.format sections) magic (headerAt (Savestate.format sections) k) =
          some start → start.toNat ≤ (Savestate.format sections).length := by
  have hheader (length : UInt32) : (0x10 : UInt32).toNat = (Savestate.header length).length :=
    (Savestate.length_header length).symm
  obtain ⟨k, hstops, hfits, hstart⟩ :=
    @exists_stopsAt_closed magic sections _ _ _ rfl (hheader _) haddr
  refine ⟨searchEnds_iff.mpr ⟨k, hstops, hfits⟩, fun k' hk' => ?_⟩
  obtain rfl := hk'.unique hstops
  exact hstart

end DSEmu

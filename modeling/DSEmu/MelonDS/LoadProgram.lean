import DSEmu.MelonDS.SectionSearch

/-!
# Programs that load

What a load does with a savestate is a `LoadProgram`: the calls that it makes, one after the other,
where each may depend on what was read before. `LoadProgram.run` runs it.

`LoadProgram.Sound` is the condition on a program and a buffer under which the run returns, and so
stays inside the buffer, once its searches have enough fuel (`run_returns_iff`).
-/

namespace DSEmu

open FixedWidth
open LoadOutcome (returned outside aborted stopped unfinished)

/-- The calls that a load makes on the savestate. The code between the calls is not looked at;
`stop` is where it does not return. -/
inductive LoadProgram (α : Type) where
  | done (a : α)
  | stop
  | beginSection (magic : Magic) (next : LoadProgram α)
  | varArray (length : UInt32) (next : Option Data → LoadProgram α)
  | isAtLeastVersion (major minor : UInt32) (next : Bool → LoadProgram α)

namespace LoadProgram

variable {α β : Type}

/-- Two programs, one after the other. -/
def bind : LoadProgram α → (α → LoadProgram β) → LoadProgram β
  | done a, f => f a
  | stop, _ => stop
  | beginSection magic next, f => beginSection magic (next.bind f)
  | varArray length next, f => varArray length fun data => (next data).bind f
  | isAtLeastVersion major minor next, f =>
    isAtLeastVersion major minor fun newer => (next newer).bind f

/-- A load, each search of which gets the same fuel. -/
def run (fuel : ℕ) : LoadProgram α → SavestateReader → LoadOutcome (α × SavestateReader)
  | done a, file => return (a, file)
  | stop, _ => stopped
  | beginSection magic next, file => do
    let file ← file.beginSection fuel magic
    next.run fuel file
  | varArray length next, file => do
    let (data, file) ← file.varArray length
    (next data).run fuel file
  | isAtLeastVersion major minor next, file => do
    let newer ← file.isAtLeastVersion major minor
    (next newer).run fuel file

/-- A run of two programs, one after the other. -/
theorem run_bind (fuel : ℕ) (p : LoadProgram α) (f : α → LoadProgram β) (file : SavestateReader) :
    (p.bind f).run fuel file = p.run fuel file >>= fun (a, file) => (f a).run fuel file := by
  induction p generalizing file with
  | done a => rfl
  | stop => rfl
  | beginSection magic next ih =>
    rw [LoadProgram.bind, run, run]
    cases file.beginSection fuel magic with
    | returned file => exact ih file
    | _ => rfl
  | varArray length next ih =>
    rw [LoadProgram.bind, run, run]
    cases file.varArray length with
    | returned read => exact ih read.1 read.2
    | _ => rfl
  | isAtLeastVersion major minor next ih =>
    rw [LoadProgram.bind, run, run]
    cases file.isAtLeastVersion major minor with
    | returned newer => exact ih newer file
    | _ => rfl

end LoadProgram

/-- `MajorVersion` -/
def majorVersion (buffer : Data) : UInt32 := (ofBytes ((buffer.drop 4).take 2) : UInt16).toUInt32

/-- `MinorVersion` -/
def minorVersion (buffer : Data) : UInt32 := (ofBytes ((buffer.drop 6).take 2) : UInt16).toUInt32

/-- What `IsAtLeastVersion` examines is in the buffer. -/
def VersionFits (buffer : Data) (major : UInt32) : Prop :=
  6 ≤ buffer.length ∧ (majorVersion buffer = major → 8 ≤ buffer.length)

/-- What `IsAtLeastVersion` compares. -/
def isNewer (buffer : Data) (major minor : UInt32) : Bool :=
  major < majorVersion buffer || (majorVersion buffer = major && minor ≤ minorVersion buffer)

/-- The condition under which a load returns and stays inside the buffer, from a position on: every
search that it makes ends (`SearchEnds`), a read starts in the buffer and ends below `2 ^ 32`, the
version is only looked at where there is one, and the code of the components returns. After an error
nothing is searched or read. -/
def LoadProgram.Sound {α : Type} (buffer : Data) : LoadProgram α → Option UInt32 → Prop
  | .done _, _ => True
  | .stop, _ => False
  | .beginSection _ next, none => next.Sound buffer none
  | .beginSection magic next, some _ =>
    SearchEnds buffer magic ∧ ∀ k, SearchStops buffer magic k →
      next.Sound buffer (sectionStart buffer magic (headerAt buffer k))
  | .varArray _ next, none => (next none).Sound buffer none
  | .varArray length next, some offset =>
    offset.toNat ≤ buffer.length ∧ offset.toNat + length.toNat < UInt32.size ∧
      if offset.toNat + length.toNat ≤ buffer.length then
        (next (some ((buffer.drop offset.toNat).take length.toNat))).Sound buffer
          (some (offset + length))
      else (next none).Sound buffer none
  | .isAtLeastVersion major minor next, position =>
    VersionFits buffer major ∧ (next (isNewer buffer major minor)).Sound buffer position

/-- The version is compared where what is looked at is in the buffer. -/
theorem SavestateReader.isAtLeastVersion_eq_returned {file : SavestateReader} {major minor : UInt32}
    {newer : Bool} :
    file.isAtLeastVersion major minor = returned newer ↔
      VersionFits file.buffer major ∧ newer = isNewer file.buffer major minor := by
  unfold isAtLeastVersion VersionFits isNewer
  by_cases hmajor : 6 ≤ file.buffer.length
  · have hcopy : copyFrom file.buffer 4 2 = returned ((file.buffer.drop 4).take 2) :=
      copyFrom_eq_returned.mpr ⟨hmajor, rfl⟩
    rw [hcopy, LoadOutcome.returned_bind]
    change (if major < majorVersion file.buffer then _ else _) = _ ↔ _
    by_cases hnewer : major < majorVersion file.buffer
    · -- a newer major version decides
      have hne : majorVersion file.buffer ≠ major := (UInt32.ne_of_lt hnewer).symm
      rw [if_pos hnewer]
      simp [hmajor, hnewer, hne, LoadOutcome.pure_eq, eq_comm]
    · rw [if_neg hnewer]
      change (if majorVersion file.buffer = major then _ else _) = _ ↔ _
      by_cases hsame : majorVersion file.buffer = major
      · -- only the same major version looks at the minor one
        rw [if_pos hsame]
        by_cases hminor : 8 ≤ file.buffer.length
        · have hcopy' : copyFrom file.buffer 6 2 = returned ((file.buffer.drop 6).take 2) :=
            copyFrom_eq_returned.mpr ⟨hminor, rfl⟩
          rw [hcopy']
          change returned (decide (minor ≤ minorVersion file.buffer)) = returned newer ↔ _
          simp [hmajor, hminor, hsame, eq_comm]
        · have hcopy' : copyFrom file.buffer 6 2 = outside := if_neg hminor
          rw [hcopy']
          simp [hminor, hsame]
      · rw [if_neg hsame]
        simp [hmajor, hnewer, hsame, LoadOutcome.pure_eq, eq_comm]
  · -- the buffer ends before the major version, which is looked at first
    have hcopy : copyFrom file.buffer 4 2 = outside := if_neg hmajor
    rw [hcopy]
    simp [hmajor]

namespace LoadProgram

variable {α : Type} {file : SavestateReader} {fuel fuel' : ℕ}

/-- More fuel does not change what a run returns. -/
theorem run_mono (haddr : Addressable file.buffer) (hle : fuel ≤ fuel') {p : LoadProgram α}
    {x : α × SavestateReader} (h : p.run fuel file = returned x) :
    p.run fuel' file = returned x := by
  induction p generalizing file with
  | done a => exact h
  | stop => exact h
  | beginSection magic next ih =>
    rw [run, LoadOutcome.bind_eq_returned] at h ⊢
    obtain ⟨file', hfile', hrun⟩ := h
    cases herror : file.error with
    | true =>
      -- after an error the search is skipped
      have hskip (fuel : ℕ) : file.beginSection fuel magic = returned file := by
        rw [SavestateReader.beginSection, herror]
        rfl
      rw [hskip, LoadOutcome.returned.injEq] at hfile'
      subst hfile'
      exact ⟨file, hskip fuel', ih haddr hrun⟩
    | false =>
      -- it stops after as many headers with more fuel
      obtain ⟨k, hk, hstops, hfits, hfound⟩ :=
        (SavestateReader.beginSection_eq_returned haddr herror).mp hfile'
      have hbuffer : file'.buffer = file.buffer := by
        rw [hfound, SavestateReader.moved_buffer]
      refine ⟨file', ?_, ih (hbuffer ▸ haddr) hrun⟩
      exact (SavestateReader.beginSection_eq_returned haddr herror).mpr
        ⟨k, Nat.lt_of_lt_of_le hk hle, hstops, hfits, hfound⟩
  | varArray length next ih =>
    rw [run, LoadOutcome.bind_eq_returned] at h ⊢
    obtain ⟨⟨data, file'⟩, hread, hrun⟩ := h
    have haddr' : Addressable file'.buffer := by
      rw [SavestateReader.varArray_buffer hread]
      exact haddr
    exact ⟨(data, file'), hread, ih data haddr' hrun⟩
  | isAtLeastVersion major minor next ih =>
    rw [run, LoadOutcome.bind_eq_returned] at h ⊢
    obtain ⟨newer, hnewer, hrun⟩ := h
    exact ⟨newer, hnewer, ih newer haddr hrun⟩

/-- A load leaves the buffer alone, and an error stays. -/
theorem run_preserves {p : LoadProgram α} {a : α} {file' : SavestateReader}
    (h : p.run fuel file = returned (a, file')) :
    file'.buffer = file.buffer ∧ (file.error = true → file'.error = true) := by
  induction p generalizing file with
  | done b =>
    rw [run, LoadOutcome.pure_pair_eq_returned] at h
    obtain ⟨-, rfl⟩ := h
    exact ⟨rfl, id⟩
  | stop => exact absurd h nofun
  | beginSection magic next ih =>
    rw [run, LoadOutcome.bind_eq_returned] at h
    obtain ⟨file₁, hbegin, hrun⟩ := h
    obtain ⟨hbuffer, herror⟩ := ih hrun
    obtain ⟨hbuffer₁, herror₁⟩ := SavestateReader.beginSection_preserves hbegin
    exact ⟨hbuffer.trans hbuffer₁, fun h => herror (herror₁ h)⟩
  | varArray length next ih =>
    rw [run, LoadOutcome.bind_eq_returned] at h
    obtain ⟨⟨data, file₁⟩, hread, hrun⟩ := h
    obtain ⟨hbuffer, herror⟩ := ih data hrun
    refine ⟨hbuffer.trans (SavestateReader.varArray_buffer hread), fun h => herror ?_⟩
    rw [SavestateReader.varArray_error h, LoadOutcome.returned.injEq, Prod.mk.injEq] at hread
    exact hread.2 ▸ h
  | isAtLeastVersion major minor next ih =>
    rw [run, LoadOutcome.bind_eq_returned] at h
    obtain ⟨newer, -, hrun⟩ := h
    exact ih newer hrun

/-- A load returns, with enough fuel for its searches, exactly under the condition. -/
theorem run_returns_iff (haddr : Addressable file.buffer) (p : LoadProgram α) :
    (∃ fuel x, p.run fuel file = returned x) ↔ p.Sound file.buffer file.position := by
  induction p generalizing file with
  | done a => exact ⟨fun _ => trivial, fun _ => ⟨0, _, rfl⟩⟩
  | stop =>
    constructor
    · rintro ⟨_, _, h⟩
      contradiction
    · exact False.elim
  | beginSection magic next ih =>
    cases herror : file.error with
    | true =>
      -- after an error the search is skipped, and the rest has no position
      have hskip (fuel : ℕ) : (beginSection magic next).run fuel file = next.run fuel file := by
        rw [run, SavestateReader.beginSection, herror]
        rfl
      simp only [hskip]
      rw [ih haddr, SavestateReader.position_of_error herror]
      rfl
    | false =>
      rw [SavestateReader.position_of_not_error herror, Sound, searchEnds_iff]
      -- The rest goes on where the search stops.
      have haddr' (position : Option UInt32) : Addressable (file.moved position).buffer := by
        rw [SavestateReader.moved_buffer]
        exact haddr
      have hrest (position : Option UInt32) :
          (∃ fuel x, next.run fuel (file.moved position) = returned x) ↔
            next.Sound file.buffer position := by
        rw [ih (haddr' position), SavestateReader.moved_position herror,
          SavestateReader.moved_buffer]
      constructor
      · rintro ⟨fuel, x, h⟩
        rw [run, LoadOutcome.bind_eq_returned] at h
        obtain ⟨file', hfile', hrun⟩ := h
        obtain ⟨k, -, hstops, hfits, rfl⟩ :=
          (SavestateReader.beginSection_eq_returned haddr herror).mp hfile'
        refine ⟨⟨k, hstops, hfits⟩, fun k' hk' => ?_⟩
        obtain rfl := hk'.unique hstops
        exact (hrest _).mp ⟨fuel, x, hrun⟩
      · rintro ⟨⟨k, hstops, hfits⟩, hnext⟩
        obtain ⟨fuel, x, hrun⟩ := (hrest _).mpr (hnext k hstops)
        -- Enough fuel for this search, and for those after it.
        refine ⟨max (k + 1) fuel, x, ?_⟩
        rw [run, LoadOutcome.bind_eq_returned]
        refine ⟨_, ?_, run_mono (haddr' _) (Nat.le_max_right _ _) hrun⟩
        exact (SavestateReader.beginSection_eq_returned haddr herror).mpr
          ⟨k, Nat.lt_of_lt_of_le (Nat.lt_succ_self k) (Nat.le_max_left _ _), hstops, hfits, rfl⟩
  | varArray length next ih =>
    cases herror : file.error with
    | true =>
      have hskip (fuel : ℕ) :
          (varArray length next).run fuel file = (next none).run fuel file := by
        rw [run, SavestateReader.varArray_error herror]
        rfl
      simp only [hskip]
      rw [ih none haddr, SavestateReader.position_of_error herror]
      rfl
    | false =>
      rw [SavestateReader.position_of_not_error herror, Sound]
      constructor
      · rintro ⟨fuel, x, h⟩
        rw [run, LoadOutcome.bind_eq_returned] at h
        obtain ⟨⟨data, file'⟩, hread, hrun⟩ := h
        obtain ⟨hinside, hsum⟩ := SavestateReader.varArray_returned haddr herror hread
        have haddr' : Addressable file'.buffer := by
          rw [SavestateReader.varArray_buffer hread]
          exact haddr
        have hsound := (ih data haddr').mp ⟨fuel, x, hrun⟩
        refine ⟨hinside, hsum, ?_⟩
        split
        · rename_i hfits
          -- the rest goes on behind what was read
          rw [SavestateReader.varArray_fits haddr herror hfits, LoadOutcome.returned.injEq,
            Prod.mk.injEq] at hread
          obtain ⟨rfl, rfl⟩ := hread
          rwa [SavestateReader.position_at herror] at hsound
        · rename_i hshort
          -- the read has set the error
          rw [SavestateReader.varArray_short haddr herror hinside (Nat.not_le.mp hshort) hsum,
            LoadOutcome.returned.injEq, Prod.mk.injEq] at hread
          obtain ⟨rfl, rfl⟩ := hread
          exact hsound
      · rintro ⟨hinside, hsum, hnext⟩
        split at hnext
        · rename_i hfits
          rw [← SavestateReader.position_at herror] at hnext
          have haddr' : Addressable
              ({ file with bufferOffset := file.bufferOffset + length } : SavestateReader).buffer :=
            haddr
          obtain ⟨fuel, x, hrun⟩ := (ih _ haddr').mpr hnext
          refine ⟨fuel, x, ?_⟩
          rw [run, SavestateReader.varArray_fits haddr herror hfits]
          exact hrun
        · rename_i hshort
          have haddr' : Addressable ({ file with error := true } : SavestateReader).buffer := haddr
          obtain ⟨fuel, x, hrun⟩ := (ih none haddr').mpr hnext
          refine ⟨fuel, x, ?_⟩
          rw [run, SavestateReader.varArray_short haddr herror hinside (Nat.not_le.mp hshort) hsum]
          exact hrun
  | isAtLeastVersion major minor next ih =>
    rw [Sound]
    constructor
    · rintro ⟨fuel, x, h⟩
      rw [run, LoadOutcome.bind_eq_returned] at h
      obtain ⟨newer, hnewer, hrun⟩ := h
      obtain ⟨hfits, rfl⟩ := SavestateReader.isAtLeastVersion_eq_returned.mp hnewer
      exact ⟨hfits, (ih _ haddr).mp ⟨fuel, x, hrun⟩⟩
    · rintro ⟨hfits, hnext⟩
      obtain ⟨fuel, x, hrun⟩ := (ih _ haddr).mpr hnext
      refine ⟨fuel, x, ?_⟩
      rw [run, LoadOutcome.bind_eq_returned]
      exact ⟨_, SavestateReader.isAtLeastVersion_eq_returned.mpr ⟨hfits, rfl⟩, hrun⟩

/-- A program that returns, each read of which is of at most `w` bytes. -/
def ReadsAtMost (w : ℕ) : LoadProgram α → Prop
  | done _ => True
  | stop => False
  | beginSection _ next => next.ReadsAtMost w
  | varArray length next => length.toNat ≤ w ∧ ∀ data, (next data).ReadsAtMost w
  | isAtLeastVersion _ _ next => ∀ newer, (next newer).ReadsAtMost w

/-- Such a program is sound for every file that was written section by section, whatever the
sections are. -/
theorem ReadsAtMost.sound {w : ℕ} {sections : List SavestateSection} {position : Option UInt32}
    {p : LoadProgram α} (h : p.ReadsAtMost w) (haddr : Addressable (Savestate.format sections))
    (hroom : (Savestate.format sections).length + w < UInt32.size)
    (hposition : ∀ offset, position = some offset →
      offset.toNat ≤ (Savestate.format sections).length) :
    p.Sound (Savestate.format sections) position := by
  induction p generalizing position with
  | done a => trivial
  | stop => exact h
  | beginSection magic next ih =>
    cases position with
    | none => exact ih h nofun
    | some offset =>
      obtain ⟨hends, hstart⟩ := searchEnds_format magic haddr
      exact ⟨hends, fun k hk => ih h (hstart k hk)⟩
  | varArray length next ih =>
    obtain ⟨hwidth, hnext⟩ := h
    cases position with
    | none => exact ih none (hnext none) nofun
    | some offset =>
      have hinside := hposition offset rfl
      refine ⟨hinside, by omega, ?_⟩
      split
      · rename_i hfits
        refine ih _ (hnext _) ?_
        rintro _ ⟨⟩
        rw [toNat_add_of_lt (by omega)]
        exact hfits
      · exact ih none (hnext none) nofun
  | isAtLeastVersion major minor next ih =>
    have hheader : 16 ≤ (Savestate.format sections).length := by
      rw [Savestate.format, List.length_append, Savestate.length_header]
      exact Nat.le_add_right _ _
    exact ⟨⟨by omega, fun _ => by omega⟩, ih _ (h _) hposition⟩

end LoadProgram

end DSEmu

import DSEmu.MelonDS.Load

/-!
# What a load that fails leaves behind

A load writes the variables as it reads them, and nothing puts them back. Where it fails before
that, because there is no data or because the console type that it compares is another one, the
console is as it was. Where it fails later, it has replaced the variables of section "NDSG" up to
the first one that the buffer has no room for, and the other components have done what they do after
an error (`FailedLoad`, `loadState_failed`).

A read that is skipped leaves a variable alone, but for the two that `Bool32` reads, which get
whatever the word on the stack was. Nothing is said about these two flags, nor about a load that
could not read the console type and found the machine's in a word that was not initialised.
-/

namespace DSEmu

open FixedWidth
open LoadOutcome (returned outside unfinished)
open LoadedVariable (array bool32 within)

section Variables

variable {ν μ α : Type}

/-- Variables that are replaced, one after the other, by the bytes that follow one another. -/
def replaceVars : List (LoadedVariable ν) → Data → ν → ν
  | [], _, n => n
  | v :: vs, data, n =>
    replaceVars vs (data.drop v.width.toNat) (v.load (some (data.take v.width.toNat)) n)

/-- Variables whose reads are skipped. -/
def skipVars (vs : List (LoadedVariable ν)) (n : ν) : ν := vs.foldl (fun n v => v.load none n) n

/-- The bytes that variables take. -/
def widths (vs : List (LoadedVariable ν)) : ℕ := (vs.map fun v => v.width.toNat).sum

/-- What a read that returns has done. -/
theorem SavestateReader.varArray_cases {file file' : SavestateReader} {length : UInt32}
    {data : Option Data} (hsize : file.buffer.length < UInt32.size)
    (h : file.varArray length = returned (data, file')) :
    (file.error = true ∧ data = none ∧ file' = file) ∨
      (file.error = false ∧ data = none ∧ file' = { file with error := true } ∧
        file.buffer.length < file.bufferOffset.toNat + length.toNat) ∨
      (file.error = false ∧ file.bufferOffset.toNat + length.toNat ≤ file.buffer.length ∧
        data = some ((file.buffer.drop file.bufferOffset.toNat).take length.toNat) ∧
        file' = { file with bufferOffset := file.bufferOffset + length }) := by
  have hlen : file.bufferLength.toNat = file.buffer.length := by
    rw [bufferLength, UInt32.toNat_ofNat']
    exact Nat.mod_eq_of_lt hsize
  unfold varArray at h
  split at h
  · rename_i herror
    rw [LoadOutcome.pure_pair_eq_returned] at h
    exact .inl ⟨herror, h.1.symm, h.2.symm⟩
  · rename_i herror
    rw [Bool.not_eq_true] at herror
    split at h
    · contradiction
    · split at h
      · rename_i hshort
        rw [LoadOutcome.pure_pair_eq_returned] at h
        refine .inr (.inl ⟨herror, h.1.symm, h.2.symm, ?_⟩)
        -- a sum that wraps is less than the sum itself
        rw [UInt32.lt_iff_toNat_lt, UInt32.toNat_add, hlen] at hshort
        exact Nat.lt_of_lt_of_le hshort (Nat.mod_le _ _)
      · rw [LoadOutcome.bind_eq_returned] at h
        obtain ⟨read, hread, h⟩ := h
        obtain ⟨hfits, rfl⟩ := copyFrom_eq_returned.mp hread
        rw [LoadOutcome.pure_pair_eq_returned] at h
        exact .inr (.inr ⟨herror, hfits, h.1.symm, h.2.symm⟩)

/-- After an error all variables are skipped. -/
theorem LoadProgram.run_vars_error {file : SavestateReader} (h : file.error = true) (fuel : ℕ)
    (vs : List (LoadedVariable ν)) (n : ν) :
    (LoadProgram.vars vs n).run fuel file = returned (skipVars vs n, file) := by
  induction vs generalizing n with
  | nil => rfl
  | cons v vs ih =>
    rw [vars, run, SavestateReader.varArray_error h]
    exact ih (v.load none n)

/-- Variables are replaced up to the first one that the buffer has no room for; the others are
skipped. -/
theorem LoadProgram.run_vars_returned {file file' : SavestateReader} {fuel : ℕ}
    {vs : List (LoadedVariable ν)} {n n' : ν} (hsize : file.buffer.length < UInt32.size)
    (herror : file.error = false) (hinside : file.bufferOffset.toNat ≤ file.buffer.length)
    (h : (LoadProgram.vars vs n).run fuel file = returned (n', file')) :
    ∃ k ≤ vs.length,
      n' = skipVars (vs.drop k)
        (replaceVars (vs.take k) (file.buffer.drop file.bufferOffset.toNat) n) ∧
      file'.error = decide (k < vs.length) ∧
      file.bufferOffset.toNat + widths (vs.take k) ≤ file.buffer.length ∧
      (k < vs.length →
        file.buffer.length < file.bufferOffset.toNat + widths (vs.take (k + 1))) := by
  induction vs generalizing n file with
  | nil =>
    rw [vars, run, LoadOutcome.pure_pair_eq_returned] at h
    obtain ⟨rfl, rfl⟩ := h
    exact ⟨0, Nat.le_refl 0, rfl, herror, hinside, fun hlt => absurd hlt (Nat.lt_irrefl 0)⟩
  | cons v vs ih =>
    rw [vars, run, LoadOutcome.bind_eq_returned] at h
    obtain ⟨⟨data, file₁⟩, hread, hrest⟩ := h
    dsimp only at hrest
    rcases SavestateReader.varArray_cases hsize hread with
      ⟨hfailed, -, -⟩ | ⟨-, rfl, rfl, hshort⟩ | ⟨-, hfits, rfl, rfl⟩
    · rw [herror] at hfailed
      exact absurd hfailed Bool.false_ne_true
    · -- The first variable that the buffer has no room for.
      rw [run_vars_error rfl, LoadOutcome.returned.injEq, Prod.mk.injEq] at hrest
      obtain ⟨rfl, rfl⟩ := hrest
      refine ⟨0, Nat.zero_le _, rfl, rfl, hinside, fun _ => ?_⟩
      simpa [widths] using hshort
    · have hoffset : (file.bufferOffset + v.width).toNat =
          file.bufferOffset.toNat + v.width.toNat :=
        toNat_add_of_lt (Nat.lt_of_le_of_lt hfits hsize)
      have hsize' : ({ file with bufferOffset := file.bufferOffset + v.width } :
          SavestateReader).buffer.length < UInt32.size := hsize
      have hinside' : ({ file with bufferOffset := file.bufferOffset + v.width } :
          SavestateReader).bufferOffset.toNat ≤ file.buffer.length := by
        change (file.bufferOffset + v.width).toNat ≤ file.buffer.length
        rw [hoffset]
        exact hfits
      have hcons (k : ℕ) : file.bufferOffset.toNat + widths ((v :: vs).take (k + 1)) =
          (file.bufferOffset + v.width).toNat + widths (vs.take k) := by
        rw [List.take_succ_cons, widths, List.map_cons, List.sum_cons, ← Nat.add_assoc, hoffset]
        rfl
      obtain ⟨k, hk, hn', herror', hroom, hmaximal⟩ := ih hsize' herror hinside' hrest
      refine ⟨k + 1, Nat.succ_le_succ hk, ?_, ?_, ?_, ?_⟩
      · rw [hn']
        dsimp only
        rw [hoffset, ← List.drop_drop]
        rfl
      · rw [herror']
        simp
      · rw [hcons]
        exact hroom
      · intro hlt
        rw [hcons]
        exact hmaximal (Nat.lt_of_succ_lt_succ hlt)

end Variables

/-- A skipped read of these variables changes nothing. -/
def LoadedVariable.Keeps {ν : Type} (v : LoadedVariable ν) : Prop := ∀ n, v.load none n = n

theorem keeps_array {ν α : Type} [FixedWidth α] [Copied α] (set : α → ν → ν) :
    (array set).Keeps :=
  fun _ => rfl

/-- Variables of a part, where a part that is put back as it was changes nothing. -/
theorem keeps_within {ν μ : Type} {get : ν → μ} {set : μ → ν → ν} (hset : ∀ n, set (get n) n = n)
    {vs : List (LoadedVariable μ)} (h : ∀ v ∈ vs, v.Keeps) :
    ∀ v ∈ vs.map (within get set), v.Keeps := by
  intro v hv n
  obtain ⟨w, hw, rfl⟩ := List.mem_map.mp hv
  change set (w.load none (get n)) n = n
  rw [h w hw, hset]

/-- The console, but for the two flags that `Bool32` reads. -/
def NDSG.withFlags (n : NDSG) (lagFrameFlag runningGame : Bool) : NDSG :=
  { n with lagFrameFlag := lagFrameFlag, runningGame := runningGame }

/-- A skipped read changes the two flags at most. -/
def KeepsButFlags (v : LoadedVariable NDSG) : Prop :=
  ∀ n, ∃ lagFrameFlag runningGame, v.load none n = n.withFlags lagFrameFlag runningGame

theorem keepsButFlags_of_keeps {vs : List (LoadedVariable NDSG)} (h : ∀ v ∈ vs, v.Keeps) :
    ∀ v ∈ vs, KeepsButFlags v :=
  fun v hv n => ⟨n.lagFrameFlag, n.runningGame, h v hv n⟩

/-- The reads of section "NDSG" are of arrays and parts of them, but for the two flags. -/
theorem NDSG.keepsButFlags (indeterminate : Indeterminate) :
    ∀ v ∈ NDSG.vars indeterminate, KeepsButFlags v := by
  have hfifo : ∀ v ∈ IPCFIFO.vars, v.Keeps := by simp [IPCFIFO.vars, keeps_array]
  have htimer : ∀ v ∈ Timer.vars, v.Keeps := by simp [Timer.vars, keeps_array]
  have hevent : ∀ v ∈ SchedEvent.vars, v.Keeps := by simp [SchedEvent.vars, keeps_array]
  unfold NDSG.vars
  simp only [List.forall_mem_append, and_assoc]
  refine ⟨?_, ?_, ?_, ?_, ?_, ?_, ?_, ?_, ?_, ?_, ?_⟩
  · exact keepsButFlags_of_keeps (by simp [keeps_array])
  · exact keepsButFlags_of_keeps (keeps_within (fun _ => rfl) hfifo)
  · exact keepsButFlags_of_keeps (keeps_within (fun _ => rfl) hfifo)
  · exact keepsButFlags_of_keeps (by simp [keeps_array])
  · apply keepsButFlags_of_keeps
    intro v hv
    obtain ⟨i, -, hv⟩ := List.mem_flatMap.mp hv
    refine keeps_within (fun n => ?_) htimer v hv
    rw [Fin.getElem_fin, Vector.set_getElem_self]
  · exact keepsButFlags_of_keeps (by simp [keeps_array])
  · apply keepsButFlags_of_keeps
    intro v hv
    obtain ⟨i, -, hv⟩ := List.mem_flatMap.mp hv
    refine keeps_within (fun n => ?_) hevent v hv
    rw [Fin.getElem_fin, Vector.set_getElem_self]
  · exact keepsButFlags_of_keeps (by simp [keeps_array])
  · -- `RunningGame` is assigned also where its read is skipped, as `LagFrameFlag` is
    exact List.forall_mem_singleton.mpr fun n => ⟨_, n.runningGame, rfl⟩
  · exact keepsButFlags_of_keeps (by simp [keeps_array])
  · exact List.forall_mem_singleton.mpr fun n => ⟨n.lagFrameFlag, _, rfl⟩

/-- Reads that are skipped change the two flags at most. -/
theorem skipVars_eq {vs : List (LoadedVariable NDSG)} (h : ∀ v ∈ vs, KeepsButFlags v) (n : NDSG) :
    ∃ lagFrameFlag runningGame, skipVars vs n = n.withFlags lagFrameFlag runningGame := by
  induction vs generalizing n with
  | nil => exact ⟨n.lagFrameFlag, n.runningGame, rfl⟩
  | cons v vs ih =>
    obtain ⟨lag, running, hv⟩ := h v List.mem_cons_self n
    obtain ⟨lag', running', hvs⟩ :=
      ih (fun w hw => h w (List.mem_cons_of_mem _ hw)) (v.load none n)
    refine ⟨lag', running', ?_⟩
    rw [skipVars, List.foldl_cons]
    rw [skipVars] at hvs
    rw [hvs, hv]
    rfl

/-- The beginning of a load, up to the read of the console type. -/
def readConsole (fuel : ℕ) (data : Data) : LoadOutcome (Option Data × SavestateReader) := do
  let state ← SavestateReader.new data
  let state ← state.beginSection fuel magicNDSG
  state.varArray 4

section

variable {κ : Type} (indeterminate : Indeterminate) (loadRest : NDS κ → LoadProgram (NDS κ))

/-- The console after a load from `data` that has returned false, where it was `n` before. -/
inductive FailedLoad (fuel : ℕ) (n : NDS κ) (data : Data) : NDS κ → Prop where
  /-- there was nothing to load -/
  | empty (nothing : data = []) : FailedLoad fuel n data n
  /-- the console type that was compared is another one -/
  | refused {console : Option Data} {state : SavestateReader}
      (read : readConsole fuel data = returned (console, state))
      (other : compared indeterminate console ≠ n.consoleType) : FailedLoad fuel n data n
  /-- the console type was read, and the `k` variables were replaced that the buffer has room for -/
  | replaced {word : Data} {state file file' : SavestateReader} {k : ℕ} {g : NDSG}
      {lagFrameFlag runningGame : Bool} {n' : NDS κ}
      (read : readConsole fuel data = returned (some word, state))
      (same : ofBytes word = n.consoleType)
      (room : state.bufferOffset.toNat + widths ((NDSG.vars indeterminate).take k) ≤ data.length)
      (maximal : k = (NDSG.vars indeterminate).length ∨
        data.length < state.bufferOffset.toNat + widths ((NDSG.vars indeterminate).take (k + 1)))
      (skipped : g = skipVars ((NDSG.vars indeterminate).drop k)
        (replaceVars ((NDSG.vars indeterminate).take k) (data.drop state.bufferOffset.toNat)
          n.toNDSG))
      (flags : g = (replaceVars ((NDSG.vars indeterminate).take k)
        (data.drop state.bufferOffset.toNat) n.toNDSG).withFlags lagFrameFlag runningGame)
      (buffer : file.buffer = data)
      (cut : file.error = decide (k < (NDSG.vars indeterminate).length))
      (rest : (loadRest { n with toNDSG := g }).run fuel file = returned (n', file'))
      (failed : file'.error = true) : FailedLoad fuel n data n'
  /-- the console type could not be read, and a word that is not initialised was the machine's: no
  variable was replaced -/
  | unread {state file file' : SavestateReader} {g : NDSG} {lagFrameFlag runningGame : Bool}
      {n' : NDS κ} (read : readConsole fuel data = returned (none, state))
      (same : indeterminate.console = n.consoleType)
      (skipped : g = skipVars (NDSG.vars indeterminate) n.toNDSG)
      (flags : g = n.toNDSG.withFlags lagFrameFlag runningGame)
      (buffer : file.buffer = data) (cut : file.error = true)
      (rest : (loadRest { n with toNDSG := g }).run fuel file = returned (n', file')) :
      FailedLoad fuel n data n'

/-- The machine after a load that has returned false. -/
def AfterFailedLoad (fuel : ℕ) (nds : Option (NDS κ)) (data : Option Data)
    (nds' : Option (NDS κ)) : Prop :=
  match nds, data with
  | some n, some data => ∃ n', nds' = some n' ∧ FailedLoad indeterminate loadRest fuel n data n'
  | _, _ => nds' = nds

variable {indeterminate loadRest}

/-- A search in a buffer leaves the buffer alone, and so does the constructor. -/
theorem SavestateReader.new_buffer {data : Data} {state : SavestateReader}
    (h : new data = returned state) : state.buffer = data := by
  have hfield {α : Type} [FixedWidth α] [Copied α] [OfNat α 0] {accepted : α → Bool}
      {next : SavestateReader → LoadOutcome SavestateReader} {file : SavestateReader}
      (hnext : ∀ file, file.buffer = data → next file = returned state → state.buffer = data)
      (hbuffer : file.buffer = data) (hfield : headerField accepted next file = returned state) :
      state.buffer = data := by
    rw [headerField, LoadOutcome.bind_eq_returned] at hfield
    obtain ⟨⟨read, file'⟩, hread, hfield⟩ := hfield
    have hbuffer' : file'.buffer = data := (varArray_buffer hread).trans hbuffer
    dsimp only at hfield
    split at hfield
    · exact hnext file' hbuffer' hfield
    · rw [LoadOutcome.pure_eq_returned] at hfield
      exact hfield ▸ hbuffer'
  unfold new at h
  refine hfield (fun file hfile h => ?_) rfl h
  refine hfield (fun file hfile h => ?_) hfile h
  refine hfield (fun file hfile h => ?_) hfile h
  refine hfield (fun file hfile h => ?_) hfile h
  rw [LoadOutcome.pure_eq_returned] at h
  exact h ▸ hfile

/-- `Finish` neither sets nor clears the error. -/
theorem SavestateReader.finish_error {file file' : SavestateReader}
    (h : file.finish = returned file') : file'.error = file.error := by
  unfold finish at h
  split at h
  · rw [LoadOutcome.pure_eq_returned] at h
    rw [h]
  · split at h
    · rw [LoadOutcome.pure_eq_returned] at h
      rw [← h]
    · exact absurd h nofun

/-- The variables of section "NDSG", and the loads of the components after them. -/
theorem NDS.loadVariables_failed {fuel : ℕ} {n n' : NDS κ} {data : Data} {console : Option Data}
    {state file : SavestateReader} {success : Bool} (hsize : data.length < UInt32.size)
    (hread : readConsole fuel data = returned (console, state)) (hbuffer : state.buffer = data)
    (hunread : console = none → state.error = true)
    (hinside : ∀ word, console = some word →
      state.error = false ∧ state.bufferOffset.toNat ≤ data.length)
    (hrun : (n.loadVariables indeterminate loadRest console).run fuel state =
      returned ((success, n'), file))
    (hfailed : success = true → file.error = true) :
    FailedLoad indeterminate loadRest fuel n data n' := by
  by_cases hsame : compared indeterminate console = n.consoleType
  · unfold loadVariables at hrun
    rw [if_neg (not_not.mpr hsame), LoadProgram.run_bind, LoadOutcome.bind_eq_returned] at hrun
    obtain ⟨⟨g, file₁⟩, hvars, hrun⟩ := hrun
    dsimp only at hrun
    rw [LoadProgram.run_bind, LoadOutcome.bind_eq_returned] at hrun
    obtain ⟨⟨n₁, file₂⟩, hrest, hrun⟩ := hrun
    dsimp only at hrun
    rw [LoadProgram.run, LoadOutcome.pure_pair_eq_returned, Prod.mk.injEq] at hrun
    obtain ⟨⟨rfl, rfl⟩, rfl⟩ := hrun
    have hbuffer₁ : file₁.buffer = data := (LoadProgram.run_preserves hvars).1.trans hbuffer
    cases console with
    | none =>
      -- The savestate is in error, so that all variables are skipped.
      have herror := hunread rfl
      obtain ⟨lagFrameFlag, runningGame, hskip⟩ :=
        skipVars_eq (NDSG.keepsButFlags indeterminate) n.toNDSG
      rw [LoadProgram.run_vars_error herror, LoadOutcome.returned.injEq, Prod.mk.injEq] at hvars
      obtain ⟨rfl, rfl⟩ := hvars
      exact .unread hread hsame rfl hskip hbuffer₁ herror hrest
    | some word =>
      obtain ⟨herror, hoffset⟩ := hinside word rfl
      obtain ⟨k, hk, hg, hcut, hroom, hmaximal⟩ := LoadProgram.run_vars_returned (hbuffer ▸ hsize)
        herror (hbuffer ▸ hoffset) hvars
      rw [hbuffer] at hg hroom hmaximal
      obtain ⟨lagFrameFlag, runningGame, hskip⟩ := skipVars_eq
        (fun v hv => NDSG.keepsButFlags indeterminate v (List.mem_of_mem_drop hv))
        (replaceVars ((NDSG.vars indeterminate).take k) (data.drop state.bufferOffset.toNat)
          n.toNDSG)
      refine .replaced hread hsame hroom ?_ hg (hg.trans hskip) hbuffer₁ hcut hrest (hfailed rfl)
      rcases Nat.lt_or_eq_of_le hk with hlt | heq
      · exact .inr (hmaximal hlt)
      · exact .inl heq
  · unfold loadVariables at hrun
    rw [if_pos hsame, LoadProgram.run, LoadOutcome.pure_pair_eq_returned, Prod.mk.injEq] at hrun
    obtain ⟨⟨-, rfl⟩, -⟩ := hrun
    exact .refused hread hsame

/-- A load from a buffer that has returned false. -/
theorem loadStateFromBuffer_failed {fuel : ℕ} {nds nds' : Option (NDS κ)} {data : Option Data}
    (hsize : ∀ bytes, data = some bytes → bytes.length < UInt32.size)
    (h : loadStateFromBuffer indeterminate loadRest fuel nds data = returned (false, nds')) :
    AfterFailedLoad indeterminate loadRest fuel nds data nds' := by
  rcases nds with _ | n
  · exact (LoadOutcome.pure_pair_eq_returned.mp h).2.symm
  rcases data with _ | data
  · exact (LoadOutcome.pure_pair_eq_returned.mp h).2.symm
  have hsize := hsize data rfl
  rw [loadStateFromBuffer] at h
  split at h
  · rename_i hempty
    exact ⟨n, (LoadOutcome.pure_pair_eq_returned.mp h).2.symm,
      .empty (List.length_eq_zero_iff.mp hempty)⟩
  · rw [LoadOutcome.bind_eq_returned] at h
    obtain ⟨state₀, hnew, h⟩ := h
    rw [LoadOutcome.bind_eq_returned] at h
    obtain ⟨⟨⟨success, n'⟩, file'⟩, hload, h⟩ := h
    dsimp only at h
    rw [LoadOutcome.pure_pair_eq_returned] at h
    obtain ⟨hsuccess, rfl⟩ := h
    refine ⟨n', rfl, ?_⟩
    rw [NDS.doSavestateLoading, LoadOutcome.bind_eq_returned] at hload
    obtain ⟨⟨⟨success₁, n₁⟩, file₁⟩, hrun, hload⟩ := hload
    dsimp only at hload
    -- A load that gets to its end fails by the error of the savestate.
    have hend : n' = n₁ ∧ (success₁ = true → file₁.error = true) := by
      cases success₁ with
      | true =>
        rw [if_pos rfl, LoadOutcome.bind_eq_returned] at hload
        obtain ⟨file₂, hfinish, hload⟩ := hload
        rw [LoadOutcome.pure_pair_eq_returned, Prod.mk.injEq] at hload
        obtain ⟨⟨rfl, rfl⟩, rfl⟩ := hload
        refine ⟨rfl, fun _ => ?_⟩
        rw [Bool.true_and, Bool.not_eq_false'] at hsuccess
        rw [← SavestateReader.finish_error hfinish]
        exact hsuccess
      | false =>
        rw [if_neg Bool.false_ne_true, LoadOutcome.pure_pair_eq_returned, Prod.mk.injEq] at hload
        exact ⟨hload.1.2.symm, by simp⟩
    obtain ⟨rfl, hfailed⟩ := hend
    rw [NDS.loadProgram, LoadProgram.run, LoadOutcome.bind_eq_returned] at hrun
    obtain ⟨state₁, hbegin, hrun⟩ := hrun
    rw [LoadProgram.run, LoadOutcome.bind_eq_returned] at hrun
    obtain ⟨⟨console, state⟩, hconsole, hrun⟩ := hrun
    have hread : readConsole fuel data = returned (console, state) := by
      rw [readConsole, hnew, LoadOutcome.returned_bind, hbegin, LoadOutcome.returned_bind, hconsole]
    have hbuffer₁ : state₁.buffer = data :=
      (SavestateReader.beginSection_preserves hbegin).1.trans (SavestateReader.new_buffer hnew)
    have hbuffer : state.buffer = data :=
      (SavestateReader.varArray_buffer hconsole).trans hbuffer₁
    refine NDS.loadVariables_failed hsize hread hbuffer ?_ ?_ hrun hfailed
    · rintro rfl
      rcases SavestateReader.varArray_cases (hbuffer₁ ▸ hsize) hconsole with
        ⟨herror, -, rfl⟩ | ⟨-, -, rfl, -⟩ | ⟨-, -, hword, -⟩
      · exact herror
      · rfl
      · contradiction
    · rintro word rfl
      rcases SavestateReader.varArray_cases (hbuffer₁ ▸ hsize) hconsole with
        ⟨-, hskipped, -⟩ | ⟨-, hskipped, -⟩ | ⟨herror, hfits, -, rfl⟩
      · contradiction
      · contradiction
      · refine ⟨herror, ?_⟩
        rw [hbuffer₁] at hfits
        change (state₁.bufferOffset + 4).toNat ≤ data.length
        rw [toNat_add_of_lt (Nat.lt_of_le_of_lt hfits hsize)]
        exact hfits

/-- What a load that returns false leaves of the machine, from a buffer, whose size is a `uint32_t`,
or from the file of a slot, the size of which is cut down to one. -/
theorem loadState_failed (fuel : ℕ) (nds nds' : Option (NDS κ)) :
    (∀ data, (∀ bytes, data = some bytes → bytes.length < UInt32.size) →
      loadStateFromBuffer indeterminate loadRest fuel nds data = returned (false, nds') →
        AfterFailedLoad indeterminate loadRest fuel nds data nds') ∧
      ∀ file, loadState indeterminate loadRest fuel nds file = returned (false, nds') →
        AfterFailedLoad indeterminate loadRest fuel nds
          (file.map fun bytes => bytes.take (UInt32.ofNat bytes.length).toNat) nds' := by
  refine ⟨fun data hsize h => loadStateFromBuffer_failed hsize h, fun file h => ?_⟩
  rcases nds with _ | n
  · exact (LoadOutcome.pure_pair_eq_returned.mp h).2.symm
  rcases file with _ | bytes
  · exact (LoadOutcome.pure_pair_eq_returned.mp h).2.symm
  rw [loadState] at h
  refine loadStateFromBuffer_failed ?_ h
  rintro _ ⟨⟩
  rw [List.length_take]
  exact Nat.lt_of_le_of_lt (Nat.min_le_left _ _) (UInt32.toNat_lt _)

end

/-- The constructor takes a valid header, and goes on behind it. -/
theorem SavestateReader.new_valid {buffer : Data} (haddr : Addressable buffer)
    (h : ValidHeader buffer) : new buffer = returned ⟨buffer, false, 0x10⟩ := by
  obtain ⟨⟨buffer', error, offset⟩, hnew, hbuffer, hposition⟩ :=
    new_eq haddr (Nat.lt_of_lt_of_le (by decide) h.long)
  obtain rfl : buffer' = buffer := hbuffer
  rw [if_pos h] at hposition
  cases error with
  | true => exact absurd hposition nofun
  | false =>
    obtain rfl : offset = 0x10 := Option.some.inj hposition
    exact hnew

/-- The header of a file that was written is valid. -/
theorem validHeader_format {sections : List SavestateSection} :
    ValidHeader (Savestate.format sections) := by
  have hlength : (Savestate.format sections).length =
      16 + (sections.flatMap SavestateSection.closed).length := by
    rw [Savestate.format, List.length_append, Savestate.length_header]
  constructor
  case long => omega
  case magic => rfl
  case major => rfl
  case minor =>
    have hminor : (ofBytes (((Savestate.format sections).drop 6).take 2) : UInt16) =
        savestateMinor := rfl
    rw [hminor]
    exact UInt16.le_refl _
  case length =>
    rw [hlength]
    exact ofBytes_bytes _

/-- A section "NDSG" that ends with the main memory. -/
def truncatedSection (mainRAM : Vector UInt8 0x1000000) : SavestateSection :=
  ⟨magicNDSG, [bytes (0 : UInt32), bytes mainRAM]⟩

/-- A file of this section alone. -/
def truncatedState (mainRAM : Vector UInt8 0x1000000) : Data :=
  Savestate.format [truncatedSection mainRAM]

/-- The file is the headers, which have 32 bytes, the console type, and the main memory. -/
theorem truncatedState_eq (mainRAM : Vector UInt8 0x1000000) :
    ∃ headers : Data, headers.length = 32 ∧
      truncatedState mainRAM = headers ++ (bytes (0 : UInt32) ++ bytes mainRAM) := by
  have hpayload : (truncatedSection mainRAM).payload = bytes (0 : UInt32) ++ bytes mainRAM := by
    rw [SavestateSection.payload, truncatedSection, List.flatten_cons, List.flatten_singleton]
  refine ⟨Savestate.header (.ofNat (16 + (truncatedSection mainRAM).closed.length)) ++
    (bytes magicNDSG ++ bytes (UInt32.ofNat (16 + (truncatedSection mainRAM).payload.length)) ++
      bytes (0 : UInt32) ++ bytes (0 : UInt32)), ?_, ?_⟩
  · rw [List.length_append, Savestate.length_header]
    rfl
  · rw [truncatedState, Savestate.format, List.flatMap_singleton, ← hpayload]
    nth_rewrite 2 [SavestateSection.closed]
    rw [SavestateSection.framed]
    simp only [List.append_assoc]
    rfl

theorem length_truncatedState (mainRAM : Vector UInt8 0x1000000) :
    (truncatedState mainRAM).length = 0x1000024 := by
  obtain ⟨headers, hheaders, hsplit⟩ := truncatedState_eq mainRAM
  have hword : (bytes (0 : UInt32)).length = 4 := length_bytes _
  have hram : (bytes mainRAM).length = 0x1000000 := length_bytes _
  rw [hsplit, List.length_append, List.length_append, hheaders, hword, hram]

/-- The main memory is the first variable of section "NDSG", and has 16 MiB. -/
theorem NDSG.vars_eq_cons (indeterminate : Indeterminate) :
    ∃ v w vs, NDSG.vars indeterminate = v :: w :: vs ∧ v.width = 0x1000000 ∧ w.width = 0x8000 ∧
      (∀ mainRAM n, v.load (some (bytes mainRAM)) n = { n with mainRAM := mainRAM }) ∧
      ∀ n, w.load none n = n := by
  refine ⟨array fun x n => { n with mainRAM := x }, array fun x n => { n with sharedWRAM := x }, _,
    rfl, rfl, rfl, fun mainRAM n => ?_, fun n => rfl⟩
  change { n with mainRAM := ofBytes (bytes mainRAM) } = _
  rw [ofBytes_bytes]

/-- The main memory of such a file is loaded, and nothing behind it. -/
theorem load_truncatedState {κ : Type} {n : NDS κ} (hconsoleType : n.consoleType = 0)
    (mainRAM : Vector UInt8 0x1000000) :
    ∃ n', loadStateFromBuffer {} (fun n => .done n) 1 (some n) (some (truncatedState mainRAM)) =
      returned (false, some n') ∧ n'.mainRAM = mainRAM := by
  obtain ⟨headers, hheaders, hsplit⟩ := truncatedState_eq mainRAM
  have hword : (bytes (0 : UInt32)).length = 4 := length_bytes _
  have hram : (bytes mainRAM).length = 0x1000000 := length_bytes _
  have hlength := length_truncatedState mainRAM
  have haddr : Addressable (truncatedState mainRAM) := by
    unfold Addressable
    rw [hlength]
    decide
  have hnew : SavestateReader.new (truncatedState mainRAM) =
      returned ⟨truncatedState mainRAM, false, 0x10⟩ :=
    SavestateReader.new_valid haddr validHeader_format
  -- The section is the first one.
  have hname : sectionMagic (truncatedState mainRAM) 0x10 = bytes magicNDSG := by
    rw [truncatedState, Savestate.format, List.flatMap_cons]
    exact sectionMagic_append (Savestate.length_header _).symm
  have hbegin : (⟨truncatedState mainRAM, false, 0x10⟩ : SavestateReader).beginSection 1 magicNDSG =
      returned ⟨truncatedState mainRAM, false, 0x20⟩ := by
    have hinside : (0x10 : UInt32).toNat + 4 ≤ (truncatedState mainRAM).length := by
      rw [hlength]
      decide
    have hsearch : (⟨truncatedState mainRAM, false, 0x10⟩ : SavestateReader).findSection magicNDSG 1
        0x10 = returned 0x20 := by
      rw [SavestateReader.findSection_stops haddr fun hpasses => hpasses.2 hname]
      · rw [sectionAt, if_pos ⟨hinside, hname⟩]
        rfl
      · exact fun _ => ⟨hinside, fun hother => absurd hname hother⟩
    rw [SavestateReader.beginSection, if_neg Bool.false_ne_true, hsearch]
    rfl
  -- The console type and the main memory are in the buffer, and nothing else.
  have hconsole : (⟨truncatedState mainRAM, false, 0x20⟩ : SavestateReader).varArray 4 =
      returned (some (bytes (0 : UInt32)), ⟨truncatedState mainRAM, false, 0x24⟩) := by
    rw [hsplit] at haddr ⊢
    exact SavestateReader.varArray_append haddr hheaders hword
  have hmainRAM : (⟨truncatedState mainRAM, false, 0x24⟩ : SavestateReader).varArray 0x1000000 =
      returned (some (bytes mainRAM), ⟨truncatedState mainRAM, false, 0x1000024⟩) := by
    have hsplit' : truncatedState mainRAM =
        (headers ++ bytes (0 : UInt32)) ++ (bytes mainRAM ++ []) := by
      rw [hsplit, List.append_nil, List.append_assoc]
    have hfront : (headers ++ bytes (0 : UInt32)).length = 0x24 := by
      rw [List.length_append, hheaders, hword]
    rw [hsplit'] at haddr ⊢
    exact SavestateReader.varArray_append haddr hfront hram
  have hshort : (⟨truncatedState mainRAM, false, 0x1000024⟩ : SavestateReader).varArray 0x8000 =
      returned (none, ⟨truncatedState mainRAM, true, 0x1000024⟩) := by
    have haddr' : Addressable
        (⟨truncatedState mainRAM, false, 0x1000024⟩ : SavestateReader).buffer := haddr
    apply SavestateReader.varArray_short haddr' rfl
    · exact Nat.le_of_eq hlength.symm
    · change (truncatedState mainRAM).length < 0x1000024 + 0x8000
      rw [hlength]
      exact Nat.lt_add_of_pos_right (by decide)
    · change 0x1000024 + 0x8000 < UInt32.size
      decide
  obtain ⟨v, w, vs, hvs, hv, hw, hload, hkeep⟩ := NDSG.vars_eq_cons {}
  -- The variables after it are skipped, and so is what is left of the load.
  have hkeeps : ∀ v ∈ vs, KeepsButFlags v := by
    intro v hv
    apply NDSG.keepsButFlags {}
    rw [hvs]
    exact List.mem_cons_of_mem _ (List.mem_cons_of_mem _ hv)
  obtain ⟨lagFrameFlag, runningGame, hskip⟩ :=
    skipVars_eq hkeeps { n.toNDSG with mainRAM := mainRAM }
  have hvars : (LoadProgram.vars (NDSG.vars {}) n.toNDSG).run 1
      ⟨truncatedState mainRAM, false, 0x24⟩ =
        returned (({ n.toNDSG with mainRAM := mainRAM }).withFlags lagFrameFlag runningGame,
          ⟨truncatedState mainRAM, true, 0x1000024⟩) := by
    rw [hvs, LoadProgram.vars, LoadProgram.run, hv, hmainRAM, LoadOutcome.returned_bind]
    dsimp only
    rw [hload, LoadProgram.vars, LoadProgram.run, hw, hshort, LoadOutcome.returned_bind]
    dsimp only
    rw [hkeep, LoadProgram.run_vars_error rfl, hskip]
  obtain ⟨n', hrun, hn'⟩ : ∃ n' : NDS κ,
      (n.loadProgram {} fun n => .done n).run 1 ⟨truncatedState mainRAM, false, 0x10⟩ =
        returned ((true, n'), ⟨truncatedState mainRAM, true, 0x1000024⟩) ∧
      n'.mainRAM = mainRAM := by
    have hsame : ¬ compared {} (some (bytes (0 : UInt32))) ≠ n.consoleType := by
      rw [hconsoleType, not_not]
      exact ofBytes_bytes _
    refine ⟨{ n with
      toNDSG := ({ n.toNDSG with mainRAM := mainRAM }).withFlags lagFrameFlag runningGame }, ?_,
        rfl⟩
    rw [NDS.loadProgram, LoadProgram.run, hbegin, LoadOutcome.returned_bind, LoadProgram.run,
      hconsole, LoadOutcome.returned_bind]
    dsimp only
    rw [NDS.loadVariables, if_neg hsame, LoadProgram.run_bind, hvars]
    rfl
  have hnonempty : (truncatedState mainRAM).length ≠ 0 := by
    rw [hlength]
    exact Nat.succ_ne_zero _
  refine ⟨n', ?_, hn'⟩
  rw [loadStateFromBuffer, if_neg hnonempty, hnew, LoadOutcome.returned_bind,
    NDS.doSavestateLoading_true hrun]
  rfl

/-- `loadState_failed` on a file that ends behind the main memory, as a buffer and in a slot. -/
theorem loadState_failed_truncatedState :
    ∃ n', AfterFailedLoad {} (fun n => .done n) 1 (some ({ components := () } : NDS Unit))
      (some (truncatedState (.replicate _ 1))) (some n') := by
  obtain ⟨n', hload, -⟩ := load_truncatedState (n := ({ components := () } : NDS Unit)) rfl
    (.replicate _ 1)
  refine ⟨n', (loadState_failed 1 _ _).1 _ ?_ hload⟩
  rintro _ ⟨⟩
  rw [length_truncatedState]
  decide

/-- A load that returns false has replaced the main memory: the file ends behind it. -/
theorem loadStateFromBuffer_failed_changes :
    ∃ n', loadStateFromBuffer {} (fun n => .done n) 1 (some ({ components := () } : NDS Unit))
      (some (truncatedState (.replicate _ 1))) = returned (false, some n') ∧
        n' ≠ { components := () } := by
  obtain ⟨n', hload, hmainRAM⟩ := load_truncatedState (n := ({ components := () } : NDS Unit)) rfl
    (.replicate _ 1)
  refine ⟨n', hload, ?_⟩
  rintro rfl
  have hfirst : (Vector.replicate 0x1000000 (0 : UInt8))[0] =
      (Vector.replicate 0x1000000 (1 : UInt8))[0] := congrArg (·[0]) hmainRAM
  rw [Vector.getElem_replicate, Vector.getElem_replicate] at hfirst
  exact absurd hfirst (by decide)

end DSEmu

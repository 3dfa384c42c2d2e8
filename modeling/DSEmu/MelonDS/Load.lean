import DSEmu.MelonDS.LoadProgram
import DSEmu.MelonDS.NDS

/-!
# Loading a state into the console

`melonds_load_state` and `melonds_load_state_from_buffer` of `DSEmu/Bridge/melonds_bridge.cpp`, and
the loading `NDS::DoSavestate` of `src/NDS.cpp` of melonDS. The variables of section "NDSG" are
replaced one by one, as they are read; a read that is skipped leaves its variable as it is. What
follows this section, from the mappings that are derived anew to the loads of the other components,
is a parameter: a program on the console, which may change all of it.

Three variables of the code have no value before a read gives them one. Their values, where the read
is skipped, are a parameter too (`Indeterminate`).

A snapshot message is at most 40 MiB long with its type and its hash. On a buffer of such a length
the load returns, and looks at nothing outside of it, exactly where the program is sound for it
(`loadStateFromBuffer_returns_iff`). A section of length zero makes the search for another one go
round for ever, and a header that the end of the buffer cuts off is read past it
(`loadStateFromBuffer_hangs`).
-/

namespace DSEmu

open FixedWidth
open LoadOutcome (returned outside unfinished)

/-- What a load does with a variable of `ν`: how many bytes it reads, and how these, or a read that
is skipped, change `ν`. -/
structure LoadedVariable (ν : Type) where
  width : UInt32
  load : Option Data → ν → ν

namespace LoadedVariable

variable {ν μ α : Type}

/-- `Var8`, `Var16`, `Var32`, `Var64` and `VarArray`: a skipped read leaves the variable alone. -/
def array [FixedWidth α] [Copied α] (set : α → ν → ν) : LoadedVariable ν where
  width := .ofNat (FixedWidth.width α)
  load data n := match data with
    | some data => set (ofBytes data) n
    | none => n

/-- `Bool32`: the word has no value where the read is skipped. -/
def bool32 (val : UInt32) (set : Bool → ν → ν) : LoadedVariable ν where
  width := 4
  load data n := set ((data.map ofBytes).getD val != 0) n

/-- A variable of a part. -/
def within (get : ν → μ) (set : μ → ν → ν) (v : LoadedVariable μ) : LoadedVariable ν where
  width := v.width
  load data n := set (v.load data (get n)) n

end LoadedVariable

open LoadedVariable (array bool32 within)

/-- The reads of variables, one after the other. -/
def LoadProgram.vars {ν : Type} : List (LoadedVariable ν) → ν → LoadProgram ν
  | [], n => .done n
  | v :: vs, n => .varArray v.width fun data => LoadProgram.vars vs (v.load data n)

/-- The values of variables that are not initialised. -/
structure Indeterminate where
  /-- `console` of `NDS::DoSavestate` -/
  console : UInt32 := 0
  /-- `val` of `Bool32`, for `LagFrameFlag` -/
  lagFrameFlag : UInt32 := 0
  /-- `val` of `Bool32`, for `RunningGame` -/
  runningGame : UInt32 := 0

/-- The reads of a timer. -/
def Timer.vars : List (LoadedVariable Timer) :=
  [array fun x t => { t with reload := x }, array fun x t => { t with cnt := x },
    array fun x t => { t with counter := x }, array fun x t => { t with cycleShift := x }]

/-- The reads of an event. -/
def SchedEvent.vars : List (LoadedVariable SchedEvent) :=
  [array fun x e => { e with timestamp := x }, array fun x e => { e with funcID := x },
    array fun x e => { e with param := x }]

/-- `FIFO::DoSavestate`. -/
def IPCFIFO.vars : List (LoadedVariable IPCFIFO) :=
  [array fun x f => { f with numOccupied := x }, array fun x f => { f with readPos := x },
    array fun x f => { f with writePos := x }, array fun x f => { f with entries := x }]

/-- The reads of section "NDSG" after the console type, as `NDS::DoSavestate` makes them. -/
def NDSG.vars (indeterminate : Indeterminate) : List (LoadedVariable NDSG) :=
  [array fun x n => { n with mainRAM := x },
    array fun x n => { n with sharedWRAM := x },
    array fun x n => { n with arm7WRAM := x },
    array fun x n => { n with exMemCnt := x },
    array fun x n => { n with romSeed0 := x },
    array fun x n => { n with romSeed1 := x },
    array fun x n => { n with wifiWaitCnt := x },
    array fun x n => { n with ime := x },
    array fun x n => { n with ie := x },
    array fun x n => { n with irf := x },
    array fun x n => { n with ie2 := x },
    array fun x n => { n with irf2 := x },
    array fun x n => { n with postFlag9 := x },
    array fun x n => { n with postFlag7 := x },
    array fun x n => { n with powerControl9 := x },
    array fun x n => { n with powerControl7 := x },
    array fun x n => { n with arm7BIOSProt := x },
    array fun x n => { n with ipcSync9 := x },
    array fun x n => { n with ipcSync7 := x },
    array fun x n => { n with ipcFIFOCnt9 := x },
    array fun x n => { n with ipcFIFOCnt7 := x }] ++
  IPCFIFO.vars.map (within (·.ipcFIFO9) fun f n => { n with ipcFIFO9 := f }) ++
  IPCFIFO.vars.map (within (·.ipcFIFO7) fun f n => { n with ipcFIFO7 := f }) ++
  [array fun x n => { n with divCnt := x },
    array fun x n => { n with sqrtCnt := x },
    array fun x n => { n with cpuStop := x }] ++
  (List.finRange 8).flatMap (fun i => Timer.vars.map
    (within (·.timers[i]) fun t n => { n with timers := n.timers.set i t })) ++
  [array fun x n => { n with timerCheckMask := x },
    array fun x n => { n with timerTimestamp := x },
    array fun x n => { n with dma9Fill := x }] ++
  (List.finRange 16).flatMap (fun i => SchedEvent.vars.map
    (within (·.schedList[i]) fun e n => { n with schedList := n.schedList.set i e })) ++
  [array fun x n => { n with schedListMask := x },
    array fun x n => { n with arm9Timestamp := x },
    array fun x n => { n with arm9Target := x },
    array fun x n => { n with arm7Timestamp := x },
    array fun x n => { n with arm7Target := x },
    array fun x n => { n with sysTimestamp := x },
    array fun x n => { n with lastSysClockCycles := x },
    array fun x n => { n with frameStartTimestamp := x },
    array fun x n => { n with numFrames := x },
    array fun x n => { n with numLagFrames := x }] ++
  [bool32 indeterminate.lagFrameFlag fun b n => { n with lagFrameFlag := b }] ++
  [array fun x n => { n with keyCnt := x },
    array fun x n => { n with rCnt := x },
    array fun x n => { n with wramCnt := x }] ++
  [bool32 indeterminate.runningGame fun b n => { n with runningGame := b }]

section

variable {κ : Type} (indeterminate : Indeterminate) (loadRest : NDS κ → LoadProgram (NDS κ))

/-- What a load compares with the console type. -/
def compared (console : Option Data) : UInt32 := (console.map ofBytes).getD indeterminate.console

/-- A loading `DoSavestate`, after the console type was read. -/
def NDS.loadVariables (n : NDS κ) (console : Option Data) : LoadProgram (Bool × NDS κ) :=
  if compared indeterminate console ≠ n.consoleType then .done (false, n)
  else
    (LoadProgram.vars (NDSG.vars indeterminate) n.toNDSG).bind fun g =>
      (loadRest { n with toNDSG := g }).bind fun n => .done (true, n)

/-- The calls of a loading `DoSavestate` on the savestate, up to `Finish`. -/
def NDS.loadProgram (n : NDS κ) : LoadProgram (Bool × NDS κ) :=
  .beginSection magicNDSG (.varArray 4 (n.loadVariables indeterminate loadRest))

/-- A loading `DoSavestate`. -/
def NDS.doSavestateLoading (fuel : ℕ) (n : NDS κ) (file : SavestateReader) :
    LoadOutcome ((Bool × NDS κ) × SavestateReader) := do
  let ((success, n), file) ← (n.loadProgram indeterminate loadRest).run fuel file
  if success then
    let file ← file.finish
    return ((true, n), file)
  else return ((false, n), file)

/-- `melonds_load_state_from_buffer`, on the `size` bytes at `data`. -/
def loadStateFromBuffer (fuel : ℕ) (nds : Option (NDS κ)) (data : Option Data) :
    LoadOutcome (Bool × Option (NDS κ)) :=
  match nds, data with
  | some n, some data =>
    if data.length = 0 then return (false, nds)
    else do
      let state ← SavestateReader.new data
      let ((success, n), state) ← n.doSavestateLoading indeterminate loadRest fuel state
      return (success && !state.error, some n)
  | _, _ => return (false, nds)

/-- `melonds_load_state`, on the bytes of the file, if it could be opened and read. The size that is
handed on is a `uint32_t`. -/
def loadState (fuel : ℕ) (nds : Option (NDS κ)) (file : Option Data) :
    LoadOutcome (Bool × Option (NDS κ)) :=
  match nds, file with
  | some _, some data =>
    loadStateFromBuffer indeterminate loadRest fuel nds
      (some (data.take (UInt32.ofNat data.length).toNat))
  | _, _ => return (false, nds)

variable {indeterminate loadRest}

/-- `Finish` writes inside the buffer, where there is a header. -/
theorem SavestateReader.finish_returns {file : SavestateReader}
    (h : file.error = false → 12 ≤ file.buffer.length) : ∃ file', file.finish = returned file' := by
  unfold finish
  cases herror : file.error with
  | true => exact ⟨_, rfl⟩
  | false =>
    rw [if_neg Bool.false_ne_true, if_pos (h herror)]
    exact ⟨_, rfl⟩

/-- A load that gets to its end finishes the savestate. -/
theorem NDS.doSavestateLoading_true {n n' : NDS κ} {fuel : ℕ} {state file : SavestateReader}
    (h : (n.loadProgram indeterminate loadRest).run fuel state = returned ((true, n'), file)) :
    n.doSavestateLoading indeterminate loadRest fuel state =
      file.finish >>= fun file => return ((true, n'), file) := by
  rw [doSavestateLoading, h]
  rfl

/-- A load of another console's state does not. -/
theorem NDS.doSavestateLoading_false {n n' : NDS κ} {fuel : ℕ} {state file : SavestateReader}
    (h : (n.loadProgram indeterminate loadRest).run fuel state = returned ((false, n'), file)) :
    n.doSavestateLoading indeterminate loadRest fuel state = returned ((false, n'), file) := by
  rw [doSavestateLoading, h]
  rfl

/-- A load of a state returns exactly where its program is sound for the buffer. -/
theorem NDS.load_returns_iff {n : NDS κ} {data : Data} (hpos : 0 < data.length)
    (haddr : Addressable data) :
    (∃ fuel result,
        loadStateFromBuffer indeterminate loadRest fuel (some n) (some data) = returned result) ↔
      (n.loadProgram indeterminate loadRest).Sound data
        (if ValidHeader data then some 0x10 else none) := by
  obtain ⟨state, hnew, hbuffer, hposition⟩ := SavestateReader.new_eq haddr hpos
  have hload (fuel : ℕ) :
      loadStateFromBuffer indeterminate loadRest fuel (some n) (some data) =
        (n.doSavestateLoading indeterminate loadRest fuel state >>= fun x =>
          return (x.1.1 && !x.2.error, some x.1.2)) := by
    rw [loadStateFromBuffer, if_neg (Nat.ne_of_gt hpos), hnew]
    rfl
  have haddr' : Addressable state.buffer := hbuffer ▸ haddr
  have hrun := LoadProgram.run_returns_iff haddr' (n.loadProgram indeterminate loadRest)
  rw [hbuffer, hposition] at hrun
  rw [← hrun]
  constructor
  · rintro ⟨fuel, result, h⟩
    rw [hload, LoadOutcome.bind_eq_returned] at h
    obtain ⟨x, hx, -⟩ := h
    rw [NDS.doSavestateLoading, LoadOutcome.bind_eq_returned] at hx
    obtain ⟨y, hy, -⟩ := hx
    exact ⟨fuel, y, hy⟩
  · rintro ⟨fuel, ⟨⟨success, n'⟩, file⟩, h⟩
    -- Without an error the header is whole, so that `Finish` has room for the length.
    have hheader : file.error = false → 12 ≤ file.buffer.length := by
      intro herror
      obtain ⟨hfile, hstays⟩ := LoadProgram.run_preserves h
      rw [hfile, hbuffer]
      by_contra hshort
      have hinvalid : ¬ ValidHeader data := fun hvalid => hshort hvalid.long
      rw [if_neg hinvalid, SavestateReader.position] at hposition
      have hstate : state.error = true := by
        by_contra hnone
        rw [if_neg hnone] at hposition
        contradiction
      rw [hstays hstate] at herror
      contradiction
    cases success with
    | true =>
      obtain ⟨file', hfinish⟩ := SavestateReader.finish_returns hheader
      refine ⟨fuel, (!file'.error, some n'), ?_⟩
      rw [hload, NDS.doSavestateLoading_true h, hfinish]
      rfl
    | false =>
      refine ⟨fuel, (false, some n'), ?_⟩
      rw [hload, NDS.doSavestateLoading_false h]
      rfl

/-- Loading a received snapshot returns true or false, and so examines no byte outside of the
buffer, exactly where every machine that there is has a program that is sound for the buffer: no
search that it makes meets a header that is cut off or returns to one, and so on
(`LoadProgram.Sound`). -/
theorem loadStateFromBuffer_returns_iff (nds : Option (NDS κ)) (data : Data)
    (hpos : 0 < data.length) (hle : data.length ≤ 40 * 2 ^ 20 - 9) :
    (∃ fuel result,
        loadStateFromBuffer indeterminate loadRest fuel nds (some data) = returned result) ↔
      ∀ n, nds = some n → (n.loadProgram indeterminate loadRest).Sound data
        (if ValidHeader data then some 0x10 else none) := by
  have haddr : Addressable data := by
    have hsize : UInt32.size = 4294967296 := rfl
    unfold Addressable
    omega
  cases nds with
  | none => exact ⟨fun _ _ h => absurd h nofun, fun _ => ⟨0, _, rfl⟩⟩
  | some n =>
    rw [NDS.load_returns_iff hpos haddr]
    constructor
    · rintro h _ ⟨⟩
      exact h
    · intro h
      exact h n rfl

end

/-- A component that loads the content of section "SPTS". -/
def loadSPTS (n : NDS (Option Data)) : LoadProgram (NDS (Option Data)) :=
  .beginSection magicSPTS (.varArray 8 fun data => .done { n with components := data })

/-- A file with a section "SPTS" of eight bytes, and behind it a section "NDSG". -/
def twoSectionState (payload : Data) : Data :=
  Savestate.format [⟨magicSPTS, [bytes (7 : UInt64)]⟩, ⟨magicNDSG, [payload]⟩]

/-- The length of the file. -/
theorem length_twoSectionState (payload : Data) :
    (twoSectionState payload).length = payload.length + 56 := by
  have hword : (bytes (7 : UInt64)).length = 8 := length_bytes _
  simp only [twoSectionState, Savestate.format, SavestateSection.closed, SavestateSection.payload,
    List.length_append, Savestate.length_header, List.flatMap_cons, List.flatMap_nil,
    SavestateSection.length_framed, List.flatten_singleton, List.length_nil, hword]
  omega

/-- Reads of variables are reads of their widths, and so is what is read behind them. -/
theorem LoadProgram.readsAtMost_vars {ν α : Type} {w : ℕ} {vs : List (LoadedVariable ν)}
    (h : ∀ v ∈ vs, v.width.toNat ≤ w) {next : ν → LoadProgram α}
    (hnext : ∀ n, (next n).ReadsAtMost w) (n : ν) : ((vars vs n).bind next).ReadsAtMost w := by
  induction vs generalizing n with
  | nil => exact hnext n
  | cons v vs ih =>
    have hrest : ∀ v' ∈ vs, v'.width.toNat ≤ w := fun v' hv' => h v' (List.mem_cons_of_mem _ hv')
    exact ⟨h v List.mem_cons_self, fun data => ih hrest _⟩

/-- No variable of section "NDSG" is wider than the main memory. -/
theorem NDSG.width_le (indeterminate : Indeterminate) :
    ∀ v ∈ NDSG.vars indeterminate, v.width.toNat ≤ 0x1000000 := by
  have hall : (NDSG.vars indeterminate).all (fun v => decide (v.width.toNat ≤ 0x1000000)) =
    true := by
    rfl
  intro v hv
  exact of_decide_eq_true (List.all_eq_true.mp hall v hv)

/-- `loadStateFromBuffer_returns_iff` on such a file with 17 MiB of variables: the search for "NDSG"
passes the other section, the variables are read, and the component looks for its own section, from
the first one on. -/
theorem loadStateFromBuffer_returns_twoSections :
    ∃ fuel result,
      loadStateFromBuffer {} loadSPTS fuel (some ({ components := none } : NDS (Option Data)))
        (some (twoSectionState (List.replicate 0x1100000 0))) = returned result := by
  have hpayload : (List.replicate 0x1100000 0 : Data).length = 0x1100000 := List.length_replicate
  generalize (List.replicate 0x1100000 0 : Data) = payload at hpayload
  have hlength : (twoSectionState payload).length = 0x1100038 := by
    rw [length_twoSectionState, hpayload]
  have hsize : UInt32.size = 4294967296 := rfl
  have haddr : Addressable (twoSectionState payload) := by
    unfold Addressable
    omega
  refine (loadStateFromBuffer_returns_iff _ (twoSectionState payload) (by omega) (by omega)).mpr ?_
  rintro n -
  unfold twoSectionState at hlength haddr ⊢
  have hreads : (n.loadProgram {} loadSPTS).ReadsAtMost 0x1000000 := by
    refine ⟨by decide, fun console => ?_⟩
    unfold NDS.loadVariables
    split
    · trivial
    · have hrest : ∀ g, ((loadSPTS { n with toNDSG := g }).bind fun n =>
        .done (true, n)).ReadsAtMost
          0x1000000 := fun g => ⟨by decide, fun data => trivial⟩
      exact LoadProgram.readsAtMost_vars (NDSG.width_le {}) hrest _
  refine hreads.sound haddr (by omega) fun offset hoffset => ?_
  have hbegin : offset = 0x10 := by
    split_ifs at hoffset
    exact (Option.some.inj hoffset).symm
  have hheader : (0x10 : UInt32).toNat = 16 := rfl
  rw [hbegin]
  omega

/-- The search for a section goes round for ever in another one whose length is zero. -/
theorem SavestateReader.findSection_unfinished {file : SavestateReader} {magic : Magic}
    {offset : UInt32} (haddr : Addressable file.buffer) (hpasses : Passes file.buffer magic offset)
    (hzero : sectionLength file.buffer offset = 0) (fuel : ℕ) :
    file.findSection magic fuel offset = unfinished := by
  induction fuel with
  | zero => rfl
  | succ fuel ih =>
    have hnext : nextSection file.buffer offset = offset := by
      rw [nextSection, hzero, UInt32.add_zero]
    rw [findSection_passes haddr hpasses, hnext, ih]

/-- A file with one section of another name than "NDSG", whose length is zero. -/
def zeroLengthSnapshot : Data := Savestate.header 32 ++ SavestateSection.framed 0 ⟨magicSPTS, []⟩

/-- A file with such a section, whose length is that of its header, and two more bytes. -/
def cutOffSnapshot : Data :=
  Savestate.header 34 ++ SavestateSection.framed 16 ⟨magicSPTS, []⟩ ++ [0, 0]

/-- A peer makes the load go round for ever, whatever the fuel, with a snapshot of 32 bytes, and
read past the end of one of 34 bytes. -/
theorem loadStateFromBuffer_hangs :
    (zeroLengthSnapshot.length = 32 ∧ ∀ fuel,
      loadStateFromBuffer {} (fun n => .done n) fuel (some ({ components := () } : NDS Unit))
        (some zeroLengthSnapshot) = unfinished) ∧
      (cutOffSnapshot.length = 34 ∧ ∀ fuel,
        loadStateFromBuffer {} (fun n => .done n) (fuel + 2)
          (some ({ components := () } : NDS Unit))
          (some cutOffSnapshot) = outside) := by
  refine ⟨⟨by decide +kernel, fun fuel => ?_⟩, ⟨by decide +kernel, fun fuel => ?_⟩⟩
  -- The first section has no length, so that the search comes back to it.
  · have hnew : SavestateReader.new zeroLengthSnapshot =
        returned ⟨zeroLengthSnapshot, false, 0x10⟩ := by
      decide +kernel
    have haddr : Addressable zeroLengthSnapshot := by
      unfold Addressable
      decide +kernel
    have hsearch : (⟨zeroLengthSnapshot, false, 0x10⟩ : SavestateReader).findSection magicNDSG fuel
        0x10 = unfinished := by
      apply SavestateReader.findSection_unfinished haddr
      · decide +kernel
      · decide +kernel
    rw [loadStateFromBuffer, if_neg (by decide +kernel), hnew, LoadOutcome.returned_bind,
      NDS.doSavestateLoading, NDS.loadProgram, LoadProgram.run, SavestateReader.beginSection,
      if_neg (by decide), hsearch]
    rfl
  -- Behind the first section there are two bytes, and the search compares four.
  · have hnew : SavestateReader.new cutOffSnapshot = returned ⟨cutOffSnapshot, false, 0x10⟩ := by
      decide +kernel
    have haddr : Addressable cutOffSnapshot := by
      unfold Addressable
      decide +kernel
    have hpasses : Passes cutOffSnapshot magicNDSG 0x10 := by decide +kernel
    have hnext : nextSection cutOffSnapshot 0x10 = 0x20 := by decide +kernel
    have hcut : ¬ HeaderFits cutOffSnapshot magicNDSG 0x20 := by decide +kernel
    have hsearch : (⟨cutOffSnapshot, false, 0x10⟩ : SavestateReader).findSection magicNDSG
        (fuel + 2) 0x10 = outside := by
      rw [SavestateReader.findSection_passes haddr hpasses]
      change SavestateReader.findSection _ _ _ (nextSection cutOffSnapshot 0x10) = _
      rw [hnext]
      exact SavestateReader.findSection_cut haddr (by decide +kernel) hcut
    rw [loadStateFromBuffer, if_neg (by decide +kernel), hnew, LoadOutcome.returned_bind,
      NDS.doSavestateLoading, NDS.loadProgram, LoadProgram.run, SavestateReader.beginSection,
      if_neg (by decide), hsearch]
    rfl

end DSEmu

import DSEmu.Library.Indexed
import DSEmu.MelonDS.FailedLoad
import DSEmu.MelonDS.Interrupts

/-!
# Savestates that are loaded again

A file that was written section by section is read back: a load finds each section by its name, in
whatever order it asks for them, and reads each variable as it was written (`load_save`). The
comment in `FindSection` gives this as the reason why a search starts at the beginning.

For the console that means that a load replaces every variable of section "NDSG" by the one that was
saved, whatever it was before, and hands the console on to the other components
(`loadStateFromBuffer_doSavestate`).
-/

namespace DSEmu

open FixedWidth
open Iteration (StopsAt)
open LoadOutcome (returned)
open LoadedVariable (array bool32 within)

section Variables

variable {ν μ : Type}

/-- Variables that are replaced, each by its own bytes. -/
def loadAll : List (LoadedVariable ν) → List Data → ν → ν
  | v :: vs, data :: rest, n => loadAll vs rest (v.load (some data) n)
  | _, _, n => n

/-- Variables are read one after the other from the bytes that follow one another. -/
theorem LoadProgram.run_vars_flatten {vs : List (LoadedVariable ν)} {datas : List Data}
    (hwidths : datas.map List.length = vs.map fun v => v.width.toNat) {front rest : Data}
    {offset : UInt32} (haddr : Addressable (front ++ (datas.flatten ++ rest)))
    (hfront : front.length = offset.toNat) (fuel : ℕ) (n : ν) :
    (LoadProgram.vars vs n).run fuel ⟨front ++ (datas.flatten ++ rest), false, offset⟩ =
      returned (loadAll vs datas n,
        ⟨front ++ (datas.flatten ++ rest), false, offset + .ofNat datas.flatten.length⟩) := by
  induction vs generalizing datas front offset n with
  | nil =>
    obtain rfl : datas = [] := List.map_eq_nil_iff.mp hwidths
    have hzero : offset + .ofNat ([] : List Data).flatten.length = offset := UInt32.add_zero offset
    rw [hzero]
    rfl
  | cons v vs ih =>
    cases datas with
    | nil => exact absurd hwidths.symm (List.cons_ne_nil _ _)
    | cons data datas =>
      rw [List.map_cons, List.map_cons, List.cons.injEq] at hwidths
      obtain ⟨hwidth, hwidths⟩ := hwidths
      have hsplit : front ++ ((data :: datas).flatten ++ rest) =
          front ++ (data ++ (datas.flatten ++ rest)) := by
        rw [List.flatten_cons, List.append_assoc]
      have hsplit' : front ++ (data ++ (datas.flatten ++ rest)) =
          (front ++ data) ++ (datas.flatten ++ rest) := (List.append_assoc _ _ _).symm
      rw [hsplit] at haddr ⊢
      have hsum : (offset + v.width).toNat = offset.toNat + v.width.toNat := by
        refine toNat_add_of_lt (haddr.lt ?_)
        simp only [List.length_append]
        omega
      have hread := SavestateReader.varArray_append haddr hfront hwidth
      have hfront' : (front ++ data).length = (offset + v.width).toNat := by
        rw [List.length_append, hsum, hfront, hwidth]
      have hrest := ih hwidths (hsplit' ▸ haddr) hfront' (v.load (some data) n)
      have hend : offset + v.width + .ofNat datas.flatten.length =
          offset + .ofNat (data :: datas).flatten.length := by
        have hv : v.width = .ofNat data.length := by rw [hwidth, UInt32.ofNat_toNat]
        rw [hv, List.flatten_cons, List.length_append, UInt32.ofNat_add, UInt32.add_assoc]
      rw [hend] at hrest
      rw [vars, run, hread, LoadOutcome.returned_bind, hsplit']
      exact hrest

/-- Loading variables one after the other. -/
theorem loadAll_append {vs ws : List (LoadedVariable ν)} {datas datas' : List Data}
    (h : datas.length = vs.length) (n : ν) :
    loadAll (vs ++ ws) (datas ++ datas') n = loadAll ws datas' (loadAll vs datas n) := by
  induction vs generalizing datas n with
  | nil =>
    obtain rfl : datas = [] := List.length_eq_zero_iff.mp h
    rfl
  | cons v vs ih =>
    cases datas with
    | nil => exact absurd h.symm (Nat.succ_ne_zero _)
    | cons data datas => exact ih (Nat.succ.inj h) _

/-- A variable of a part is as wide as in the whole. -/
theorem widths_within (get : ν → μ) (set : μ → ν → ν) (vs : List (LoadedVariable μ)) :
    (vs.map (within get set)).map (fun v => v.width.toNat) = vs.map fun v => v.width.toNat := by
  rw [List.map_map]
  rfl

/-- The variables of a part are replaced in the part. -/
theorem loadAll_within {get : ν → μ} {set : μ → ν → ν} (hget : ∀ m n, get (set m n) = m)
    (hset : ∀ m m' n, set m (set m' n) = set m n) (hself : ∀ n, set (get n) n = n)
    (vs : List (LoadedVariable μ)) (datas : List Data) (n : ν) :
    loadAll (vs.map (within get set)) datas n = set (loadAll vs datas (get n)) n := by
  induction vs generalizing datas n with
  | nil => exact (hself n).symm
  | cons v vs ih =>
    cases datas with
    | nil => exact (hself n).symm
    | cons data datas =>
      rw [List.map_cons, loadAll, ih, loadAll]
      show set (loadAll vs datas (get (set (v.load (some data) (get n)) n))) (set _ n) = _
      rw [hget, hset]

/-- The variables of several parts are replaced part by part. -/
theorem loadAll_flatMap {ι : Type} {vars : ι → List (LoadedVariable ν)} {datas : ι → List Data}
    (h : ∀ i, (datas i).length = (vars i).length) (is : List ι) (n : ν) :
    loadAll (is.flatMap vars) (is.flatMap datas) n =
      is.foldl (fun n i => loadAll (vars i) (datas i) n) n := by
  induction is generalizing n with
  | nil => rfl
  | cons i is ih =>
    rw [List.flatMap_cons, List.flatMap_cons, loadAll_append (h i), ih, List.foldl_cons]

/-- Variables that read as many bytes as these, and that change the state in this way by them. -/
def Replaces (vs : List (LoadedVariable ν)) (datas : List Data) (f : ν → ν) : Prop :=
  datas.map List.length = vs.map (fun v => v.width.toNat) ∧ ∀ n, loadAll vs datas n = f n

/-- Each variable has its data. -/
theorem Replaces.length_eq {vs : List (LoadedVariable ν)} {datas : List Data} {f : ν → ν}
    (h : Replaces vs datas f) : datas.length = vs.length := by
  have hlength := congrArg List.length h.1
  rwa [List.length_map, List.length_map] at hlength

/-- Variables that are replaced one after the other. -/
theorem Replaces.append {vs ws : List (LoadedVariable ν)} {datas datas' : List Data} {f g : ν → ν}
    (hf : Replaces vs datas f) (hg : Replaces ws datas' g) :
    Replaces (vs ++ ws) (datas ++ datas') fun n => g (f n) := by
  constructor
  · rw [List.map_append, List.map_append, hf.1, hg.1]
  · intro n
    rw [loadAll_append hf.length_eq, hf.2, hg.2]

end Variables

/-! ### Sections -/

/-- A search in a file that was written stops at the first section of its name. -/
theorem stopsAt_section {before : List SavestateSection} {s : SavestateSection}
    {buffer front rest : Data}
    {offset : UInt32} (hbuffer : buffer = front ++ (before.flatMap SavestateSection.closed ++
      (s.closed ++ rest))) (hoffset : offset.toNat = front.length) (haddr : Addressable buffer)
    (hbefore : ∀ t ∈ before, t.magic ≠ s.magic) :
    StopsAt (nextSection buffer) (Passes buffer s.magic) offset before.length ∧
      ((nextSection buffer)^[before.length] offset).toNat =
        front.length + (before.flatMap SavestateSection.closed).length := by
  induction before generalizing front offset with
  | nil =>
    have hname : sectionMagic buffer offset = bytes s.magic := by
      rw [hbuffer]
      exact sectionMagic_append hoffset
    exact ⟨⟨Iteration.visits_zero, fun hpasses => hpasses.2 hname⟩, hoffset⟩
  | cons t before ih =>
    rw [List.flatMap_cons, List.append_assoc] at hbuffer
    have hclosed : t.closed.length = 16 + t.payload.length := t.length_framed _
    have hlength : front.length + (16 + t.payload.length) ≤ buffer.length := by
      rw [hbuffer, List.length_append, List.length_append, hclosed]
      omega
    have hname : sectionMagic buffer offset = bytes t.magic := by
      rw [hbuffer]
      exact sectionMagic_append hoffset
    have hsize : sectionLength buffer offset = .ofNat (16 + t.payload.length) := by
      rw [hbuffer]
      exact sectionLength_append hoffset
    have hpasses : Passes buffer s.magic offset := by
      refine ⟨by omega, ?_⟩
      rw [hname]
      exact fun hsame => hbefore t (List.mem_cons_self) (bytes_injective hsame)
    have hlt : front.length + (16 + t.payload.length) < UInt32.size := haddr.lt (by omega)
    have hnext : (nextSection buffer offset).toNat = (front ++ t.closed).length := by
      have hpayload : (UInt32.ofNat (16 + t.payload.length)).toNat = 16 + t.payload.length := by
        rw [UInt32.toNat_ofNat']
        exact Nat.mod_eq_of_lt (Nat.lt_of_le_of_lt (Nat.le_add_left _ _) hlt)
      rw [nextSection, hsize, UInt32.toNat_add, hpayload, hoffset, List.length_append, hclosed]
      exact Nat.mod_eq_of_lt hlt
    obtain ⟨hstops, hend⟩ := ih (hbuffer.trans (List.append_assoc _ _ _).symm) hnext
      fun u hu => hbefore u (List.mem_cons_of_mem _ hu)
    refine ⟨Iteration.stopsAt_succ.mpr ⟨hpasses, hstops⟩, ?_⟩
    rw [List.length_cons, Function.iterate_succ_apply, hend, List.flatMap_cons, List.length_append,
      List.length_append]
    omega

/-- What stands before the variables of a section of a file. -/
def headersBefore (sections before : List SavestateSection) (s : SavestateSection) : Data :=
  Savestate.header (.ofNat (16 + (sections.flatMap SavestateSection.closed).length)) ++
    before.flatMap SavestateSection.closed ++
    (bytes s.magic ++ bytes (UInt32.ofNat (16 + s.payload.length)) ++ bytes (0 : UInt32) ++
      bytes (0 : UInt32))

/-- The length of what is in front of a section's fields. -/
theorem length_headersBefore (sections before : List SavestateSection) (s : SavestateSection) :
    (headersBefore sections before s).length =
      32 + (before.flatMap SavestateSection.closed).length := by
  have hmagic : (bytes s.magic).length = 4 := length_bytes _
  have hword : ∀ x : UInt32, (bytes x).length = 4 := fun x => length_bytes x
  simp only [headersBefore, List.length_append, Savestate.length_header, hmagic, hword]
  omega

variable {sections before after : List SavestateSection} {s : SavestateSection}

/-- A file, with one of its sections. -/
theorem format_eq (h : sections = before ++ s :: after) : Savestate.format sections =
    Savestate.header (.ofNat (16 + (sections.flatMap SavestateSection.closed).length)) ++
      (before.flatMap SavestateSection.closed ++
        (s.closed ++ after.flatMap SavestateSection.closed)) := by
  have hbody : sections.flatMap SavestateSection.closed = before.flatMap SavestateSection.closed ++
      (s.closed ++ after.flatMap SavestateSection.closed) := by
    rw [h, List.flatMap_append, List.flatMap_cons]
  rw [← hbody]
  rfl

/-- A file, with the fields of one of its sections. -/
theorem format_split (h : sections = before ++ s :: after) : Savestate.format sections =
    headersBefore sections before s ++ (s.fields.flatten ++
      after.flatMap SavestateSection.closed) := by
  rw [format_eq h, headersBefore, SavestateSection.closed, SavestateSection.framed,
    SavestateSection.payload]
  simp only [List.append_assoc]

/-- A section is found by its name, from wherever the savestate is read. -/
theorem SavestateReader.beginSection_format (h : sections = before ++ s :: after)
    (hbefore : ∀ t ∈ before, t.magic ≠ s.magic) (haddr : Addressable (Savestate.format sections))
    {fuel : ℕ} (hfuel : before.length < fuel) (offset : UInt32) :
    (⟨Savestate.format sections, false, offset⟩ : SavestateReader).beginSection fuel s.magic =
      returned ⟨Savestate.format sections, false,
        .ofNat (32 + (before.flatMap SavestateSection.closed).length)⟩ := by
  have hoffset : (0x10 : UInt32).toNat = (Savestate.header
      (.ofNat (16 + (sections.flatMap SavestateSection.closed).length))).length :=
    (Savestate.length_header _).symm
  obtain ⟨hstops, hend⟩ := stopsAt_section (format_eq h) hoffset haddr hbefore
  rw [Savestate.length_header] at hend
  have hheader : (headerAt (Savestate.format sections) before.length).toNat =
      16 + (before.flatMap SavestateSection.closed).length := hend
  have hlength : 32 + (before.flatMap SavestateSection.closed).length ≤
      (Savestate.format sections).length := by
    rw [format_split h, List.length_append, length_headersBefore]
    omega
  have hname : sectionMagic (Savestate.format sections)
      (headerAt (Savestate.format sections) before.length) = bytes s.magic := by
    have hsplit : Savestate.format sections =
        (Savestate.header (.ofNat (16 + (sections.flatMap SavestateSection.closed).length)) ++
          before.flatMap SavestateSection.closed) ++
          (s.closed ++ after.flatMap SavestateSection.closed) := by
      rw [format_eq h, List.append_assoc]
    rw [hsplit]
    refine sectionMagic_append ?_
    rw [← hsplit, hheader, List.length_append, Savestate.length_header]
  have hfits : HeaderFits (Savestate.format sections) s.magic
      (headerAt (Savestate.format sections) before.length) :=
    ⟨by omega, fun hother => absurd hname hother⟩
  have hstart : sectionStart (Savestate.format sections) s.magic
      (headerAt (Savestate.format sections) before.length) =
        some (.ofNat (32 + (before.flatMap SavestateSection.closed).length)) := by
    rw [sectionStart, if_pos ⟨by omega, hname⟩, Option.some_inj, ← UInt32.toNat_inj]
    have hsum : (headerAt (Savestate.format sections) before.length + 16).toNat =
        (headerAt (Savestate.format sections) before.length).toNat + (16 : UInt32).toNat :=
      toNat_add_of_lt (haddr.lt (by rw [hheader]; show _ + 16 ≤ _; omega))
    rw [hsum, hheader, UInt32.toNat_ofNat', Nat.mod_eq_of_lt (haddr.lt (by omega))]
    show _ + 16 = _
    omega
  refine (SavestateReader.beginSection_eq_returned haddr rfl).mpr
    ⟨before.length, hfuel, hstops, fun _ => hfits, ?_⟩
  rw [hstart]
  rfl

/-- A load that asks for a section by its name, and reads variables of these lengths from it. -/
def readSection (magic : Magic) (lengths : List ℕ) : LoadProgram (List Data) :=
  .beginSection magic
    (LoadProgram.vars (lengths.map fun length =>
      ⟨.ofNat length, fun data read => read ++ data.toList⟩) [])

/-- A load that asks for sections, in its own order. -/
def readSections : List (Magic × List ℕ) → LoadProgram (List (List Data))
  | [] => .done []
  | (magic, lengths) :: rest =>
    (readSection magic lengths).bind fun data =>
      (readSections rest).bind fun more => .done (data :: more)

/-- Reading fields of some lengths into a list. -/
theorem loadAll_read (lengths : List ℕ) (datas read : List Data)
    (h : datas.length = lengths.length) :
    loadAll (lengths.map fun length => ⟨.ofNat length, fun data read => read ++ data.toList⟩) datas
      read = read ++ datas := by
  induction lengths generalizing datas read with
  | nil =>
    obtain rfl : datas = [] := List.length_eq_zero_iff.mp h
    exact (List.append_nil _).symm
  | cons length lengths ih =>
    cases datas with
    | nil => exact absurd h.symm (Nat.succ_ne_zero _)
    | cons data datas =>
      rw [List.map_cons, loadAll, ih _ _ (Nat.succ.inj h)]
      simp

/-- The variables of a section are read as they were written. -/
theorem run_readSection (h : sections = before ++ s :: after)
    (hbefore : ∀ t ∈ before, t.magic ≠ s.magic)
    (haddr : Addressable (Savestate.format sections)) {fuel : ℕ} (hfuel : before.length < fuel)
    (offset : UInt32) : ∃ offset',
      (readSection s.magic (s.fields.map List.length)).run fuel
          ⟨Savestate.format sections, false, offset⟩ =
        returned (s.fields, ⟨Savestate.format sections, false, offset'⟩) := by
  have hsplit := format_split h
  have hlength : (headersBefore sections before s).length =
      (UInt32.ofNat (32 + (before.flatMap SavestateSection.closed).length)).toNat := by
    rw [length_headersBefore, UInt32.toNat_ofNat']
    refine (Nat.mod_eq_of_lt (haddr.lt ?_)).symm
    rw [hsplit, List.length_append, length_headersBefore]
    omega
  have hwidths : s.fields.map List.length =
      ((s.fields.map List.length).map fun length =>
        (⟨.ofNat length, fun data read => read ++ data.toList⟩ : LoadedVariable (List Data))).map
          fun v => v.width.toNat := by
    rw [List.map_map, List.map_map]
    refine List.map_congr_left fun data hdata => ?_
    show data.length = (UInt32.ofNat data.length).toNat
    rw [UInt32.toNat_ofNat']
    refine (Nat.mod_eq_of_lt (haddr.lt ?_)).symm
    have hle : data.length ≤ s.fields.flatten.length :=
      (List.sublist_flatten_of_mem hdata).length_le
    rw [hsplit, List.length_append, List.length_append]
    omega
  refine ⟨.ofNat (32 + (before.flatMap SavestateSection.closed).length) +
    .ofNat s.fields.flatten.length, ?_⟩
  rw [readSection, LoadProgram.run, SavestateReader.beginSection_format h hbefore haddr hfuel,
    LoadOutcome.returned_bind]
  rw [hsplit] at haddr ⊢
  rw [LoadProgram.run_vars_flatten hwidths haddr hlength, loadAll_read _ _ _ (by simp)]
  rfl

/-- Sections are read back in any order. -/
theorem run_readSections (hnames : (sections.map (·.magic)).Nodup)
    (haddr : Addressable (Savestate.format sections)) {fuel : ℕ} (hfuel : sections.length ≤ fuel)
    {asked : List SavestateSection} (hasked : ∀ s ∈ asked, s ∈ sections) (offset : UInt32) :
    ∃ offset', (readSections (asked.map fun s => (s.magic, s.fields.map List.length))).run fuel
        ⟨Savestate.format sections, false, offset⟩ =
      returned (asked.map (·.fields), ⟨Savestate.format sections, false, offset'⟩) := by
  induction asked generalizing offset with
  | nil => exact ⟨offset, rfl⟩
  | cons s asked ih =>
    obtain ⟨before, after, hsplit⟩ := List.append_of_mem (hasked s List.mem_cons_self)
    have hbefore : ∀ t ∈ before, t.magic ≠ s.magic := by
      intro t ht hsame
      rw [hsplit, List.map_append, List.map_cons, List.nodup_append] at hnames
      exact hnames.2.2 _ (List.mem_map_of_mem ht) _ List.mem_cons_self hsame
    have hlength : before.length < fuel := by
      rw [hsplit, List.length_append, List.length_cons] at hfuel
      omega
    obtain ⟨offset₁, hread⟩ := run_readSection hsplit hbefore haddr hlength offset
    obtain ⟨offset', hrest⟩ := ih (fun t ht => hasked t (List.mem_cons_of_mem _ ht)) offset₁
    refine ⟨offset', ?_⟩
    rw [List.map_cons, readSections, LoadProgram.run_bind, hread, LoadOutcome.returned_bind]
    dsimp only
    rw [LoadProgram.run_bind, hrest]
    rfl

/-- What is saved is loaded: a file of sections with different names, and a load that asks for some
of them in any order, any number of times, gets the variables that were written. -/
theorem load_save (hnames : (sections.map (·.magic)).Nodup)
    (haddr : Addressable (sections.foldl (fun file s => s.write file) Savestate.new).finish.buffer)
    {fuel : ℕ} (hfuel : sections.length ≤ fuel) {asked : List SavestateSection}
    (hasked : ∀ s ∈ asked, s ∈ sections) :
    ∃ file, (SavestateReader.new (sections.foldl
      (fun file s => s.write file) Savestate.new).finish.buffer
        >>= (readSections (asked.map fun s => (s.magic, s.fields.map List.length))).run fuel) =
      returned (asked.map (·.fields), file) ∧ file.error = false := by
  rw [Savestate.buffer_sections] at haddr ⊢
  obtain ⟨offset', hrun⟩ := run_readSections hnames haddr hfuel hasked 0x10
  refine ⟨⟨Savestate.format sections, false, offset'⟩, ?_, rfl⟩
  rw [SavestateReader.new_valid haddr validHeader_format, LoadOutcome.returned_bind]
  exact hrun

/-- `load_save` on two sections, which are asked for in the other order. -/
theorem load_save_swapped :
    ∃ file, (SavestateReader.new ([⟨magicNDSG, [[1], [2, 3]]⟩, ⟨magicSPTS, [[4, 5]]⟩].foldl
        (fun file s => SavestateSection.write s file) Savestate.new).finish.buffer
        >>= (readSections [(magicSPTS, [2]), (magicNDSG, [1, 2])]).run 2) =
      returned ([[[4, 5]], [[1], [2, 3]]], file) ∧ file.error = false :=
  @load_save [⟨magicNDSG, [[1], [2, 3]]⟩, ⟨magicSPTS, [[4, 5]]⟩] (by decide)
    (by unfold Addressable; decide +kernel) 2 (Nat.le_refl 2)
    [⟨magicSPTS, [[4, 5]]⟩, ⟨magicNDSG, [[1], [2, 3]]⟩] (by simp)

/-! ### Section "NDSG" -/

/-- The variables of a timer, each on its own. -/
def Timer.varData (t : Timer) : List Data :=
  [bytes t.reload, bytes t.cnt, bytes t.counter, bytes t.cycleShift]

/-- The variables of an event, as they are written. -/
def SchedEvent.varData (e : SchedEvent) : List Data :=
  [bytes e.timestamp, bytes e.funcID, bytes e.param]

/-- The variables of a queue, as they are written. -/
def IPCFIFO.varData (f : IPCFIFO) : List Data :=
  [bytes f.numOccupied, bytes f.readPos, bytes f.writePos, bytes f.entries]

/-- The variables behind the console type. -/
def NDSG.varData (g : NDSG) : List Data :=
  [bytes g.mainRAM, bytes g.sharedWRAM, bytes g.arm7WRAM,
    bytes g.exMemCnt, bytes g.romSeed0, bytes g.romSeed1,
    bytes g.wifiWaitCnt,
    bytes g.ime, bytes g.ie, bytes g.irf, bytes g.ie2, bytes g.irf2,
    bytes g.postFlag9, bytes g.postFlag7, bytes g.powerControl9, bytes g.powerControl7,
    bytes g.arm7BIOSProt,
    bytes g.ipcSync9, bytes g.ipcSync7, bytes g.ipcFIFOCnt9, bytes g.ipcFIFOCnt7] ++
  g.ipcFIFO9.varData ++ g.ipcFIFO7.varData ++
  [bytes g.divCnt, bytes g.sqrtCnt, bytes g.cpuStop] ++
  (List.finRange 8).flatMap (fun i => (g.timers.get i).varData) ++
  [bytes g.timerCheckMask, bytes g.timerTimestamp, bytes g.dma9Fill] ++
  (List.finRange 16).flatMap (fun i => (g.schedList.get i).varData) ++
  [bytes g.schedListMask,
    bytes g.arm9Timestamp, bytes g.arm9Target, bytes g.arm7Timestamp, bytes g.arm7Target,
    bytes g.sysTimestamp, bytes g.lastSysClockCycles, bytes g.frameStartTimestamp,
    bytes g.numFrames, bytes g.numLagFrames] ++
  [bytes g.lagFrameFlag] ++
  [bytes g.keyCnt, bytes g.rCnt, bytes g.wramCnt] ++
  [bytes g.runningGame]

section NDSG

/-- A timer is loaded as it was saved. -/
theorem Timer.replaces_vars (t : Timer) : Replaces Timer.vars t.varData fun _ => t := by
  refine ⟨rfl, fun n => ?_⟩
  simp only [Timer.vars, Timer.varData, loadAll, array, ofBytes_bytes]

/-- An event is loaded as it was saved. -/
theorem SchedEvent.replaces_vars (e : SchedEvent) :
    Replaces SchedEvent.vars e.varData fun _ => e := by
  refine ⟨rfl, fun n => ?_⟩
  simp only [SchedEvent.vars, SchedEvent.varData, loadAll, array, ofBytes_bytes]

/-- A vector that is replaced entry by entry. -/
theorem foldl_put {α : Type} {k : ℕ} (t v : Vector α k) :
    (List.finRange k).foldl (fun v i => v.put i (t.get i)) v = t := by
  have hentry : ∀ (is : List (Fin k)) (v : Vector α k) (j : Fin k),
      (is.foldl (fun v i => v.put i (t.get i)) v).get j = if j ∈ is then t.get j else v.get j := by
    intro is
    induction is with
    | nil => exact fun v j => (if_neg List.not_mem_nil).symm
    | cons i is ih =>
      intro v j
      rw [List.foldl_cons, ih]
      by_cases hj : j ∈ is
      · rw [if_pos hj, if_pos (List.mem_cons_of_mem _ hj)]
      · rw [if_neg hj]
        by_cases hij : i = j
        · subst hij
          rw [Vector.get_put_self, if_pos List.mem_cons_self]
        · rw [Vector.get_put_of_ne hij, if_neg]
          rw [List.mem_cons]
          exact fun h => h.elim (fun h => hij h.symm) hj
  refine Vector.ext fun j hj => ?_
  exact (hentry _ v ⟨j, hj⟩).trans (if_pos (List.mem_finRange _))

/-- The entries of a vector of a part are replaced one after the other. -/
theorem replaces_entries {ν α : Type} {k : ℕ} {vars : List (LoadedVariable α)}
    {datas : α → List Data}
    (hvars : ∀ a, Replaces vars (datas a) fun _ => a)
    {get : ν → Vector α k} {set : Vector α k → ν → ν} (hget : ∀ v n, get (set v n) = v)
    (hset : ∀ v v' n, set v (set v' n) = set v n) (hself : ∀ n, set (get n) n = n)
    (t : Vector α k) :
    Replaces ((List.finRange k).flatMap fun i =>
        vars.map (within (fun n => (get n).get i) fun a n => set ((get n).put i a) n))
      ((List.finRange k).flatMap fun i => datas (t.get i)) (set t) := by
  have hlength : ∀ i, (datas (t.get i)).length =
      (vars.map (within (fun n => (get n).get i) fun a n => set ((get n).put i a) n)).length :=
    fun i => (hvars _).length_eq.trans (List.length_map _).symm
  have hwidths : ∀ i, (datas (t.get i)).map List.length =
      (vars.map (within (fun n => (get n).get i) fun a n => set ((get n).put i a) n)).map
        fun v => v.width.toNat :=
    fun i => (hvars _).1.trans (widths_within _ _ _).symm
  refine ⟨by simp only [List.map_flatMap, hwidths], fun n => ?_⟩
  rw [loadAll_flatMap hlength]
  have hone : ∀ (n : ν) (i : Fin k), loadAll
      (vars.map (within (fun n => (get n).get i) fun a n => set ((get n).put i a) n))
      (datas (t.get i)) n = set ((get n).put i (t.get i)) n := by
    intro n i
    rw [loadAll_within, (hvars _).2]
    · intro a n
      rw [hget, Vector.get_put_self]
    · intro a a' n
      rw [hget, hset, Vector.put_put]
    · intro n
      rw [Vector.put_get_self, hself]
  simp only [hone]
  have hfold : ∀ (is : List (Fin k)) (n : ν),
      is.foldl (fun n i => set ((get n).put i (t.get i)) n) n =
        set (is.foldl (fun v i => v.put i (t.get i)) (get n)) n := by
    intro is
    induction is with
    | nil => exact fun n => (hself n).symm
    | cons i is ih =>
      intro n
      rw [List.foldl_cons, ih, hget, hset, List.foldl_cons]
  rw [hfold, foldl_put]

/-- A queue is replaced as a whole. -/
theorem IPCFIFO.replaces_vars {get : NDSG → IPCFIFO} {set : IPCFIFO → NDSG → NDSG}
    (hget : ∀ f n, get (set f n) = f) (hset : ∀ f f' n, set f (set f' n) = set f n)
    (hself : ∀ n, set (get n) n = n) (f : IPCFIFO) :
    Replaces (IPCFIFO.vars.map (within get set)) f.varData (set f) := by
  have hwidths : f.varData.map List.length = IPCFIFO.vars.map fun v => v.width.toNat := by
    simp only [IPCFIFO.varData, List.map_cons, length_bytes]
    rfl
  refine ⟨hwidths.trans (widths_within _ _ _).symm, fun n => ?_⟩
  rw [loadAll_within hget hset hself]
  simp only [IPCFIFO.vars, IPCFIFO.varData, loadAll, array, ofBytes_bytes]

/-- A flag is loaded as it was saved. -/
theorem replaces_bool32 (b : Bool) (val : UInt32) (set : Bool → NDSG → NDSG) :
    Replaces [bool32 val set] [bytes b] (set b) := by
  refine ⟨rfl, fun n => ?_⟩
  have hword : ((some (bytes b)).map ofBytes).getD val = (if b then 1 else 0 : UInt32) :=
    ofBytes_bytes (if b then 1 else 0 : UInt32)
  simp only [loadAll, bool32, hword]
  cases b <;> rfl

/-- The timers are loaded as they were saved. -/
theorem NDSG.replaces_timers (g : NDSG) :
    Replaces ((List.finRange 8).flatMap fun i => Timer.vars.map
        (within (·.timers.get i) fun t n => { n with timers := n.timers.put i t }))
      ((List.finRange 8).flatMap fun i => (g.timers.get i).varData)
      fun n : NDSG => { n with timers := g.timers } :=
  @replaces_entries NDSG Timer 8 Timer.vars Timer.varData Timer.replaces_vars NDSG.timers
    (fun v n => { n with timers := v }) (fun _ _ => rfl) (fun _ _ _ => rfl)
    (fun _ => rfl) g.timers

/-- The events are loaded as they were saved. -/
theorem NDSG.replaces_schedList (g : NDSG) :
    Replaces ((List.finRange 16).flatMap fun i => SchedEvent.vars.map
        (within (·.schedList.get i) fun e n => { n with schedList := n.schedList.put i e }))
      ((List.finRange 16).flatMap fun i => (g.schedList.get i).varData)
      fun n : NDSG => { n with schedList := g.schedList } :=
  @replaces_entries NDSG SchedEvent 16 SchedEvent.vars SchedEvent.varData SchedEvent.replaces_vars
    NDSG.schedList (fun v n => { n with schedList := v }) (fun _ _ => rfl)
    (fun _ _ _ => rfl) (fun _ => rfl) g.schedList

/-- The variables in front of the queues. -/
theorem NDSG.replaces_registers (g : NDSG) : Replaces
    [array fun x n => { n with mainRAM := x },
      array fun x n => { n with sharedWRAM := x },
      array fun x n => { n with arm7WRAM := x },
      array fun x n => { n with exMemCnt := x },
      array fun x n => { n with romSeed0 := x },
      array fun x n => { n with romSeed1 := x },
      array fun x n => { n with wifiWaitCnt := x },
      array fun x n => { n with ime := x },
      array fun x n => { n with ie := x },
      array fun x n => { n with irf := x },
      array fun x n => { n with ie2 := x },
      array fun x n => { n with irf2 := x },
      array fun x n => { n with postFlag9 := x },
      array fun x n => { n with postFlag7 := x },
      array fun x n => { n with powerControl9 := x },
      array fun x n => { n with powerControl7 := x },
      array fun x n => { n with arm7BIOSProt := x },
      array fun x n => { n with ipcSync9 := x },
      array fun x n => { n with ipcSync7 := x },
      array fun x n => { n with ipcFIFOCnt9 := x },
      array fun x n => { n with ipcFIFOCnt7 := x }]
    [bytes g.mainRAM, bytes g.sharedWRAM, bytes g.arm7WRAM,
      bytes g.exMemCnt, bytes g.romSeed0, bytes g.romSeed1,
      bytes g.wifiWaitCnt,
      bytes g.ime, bytes g.ie, bytes g.irf, bytes g.ie2, bytes g.irf2,
      bytes g.postFlag9, bytes g.postFlag7, bytes g.powerControl9, bytes g.powerControl7,
      bytes g.arm7BIOSProt,
      bytes g.ipcSync9, bytes g.ipcSync7, bytes g.ipcFIFOCnt9, bytes g.ipcFIFOCnt7]
    fun n : NDSG =>
      { n with
        mainRAM := g.mainRAM, sharedWRAM := g.sharedWRAM, arm7WRAM := g.arm7WRAM
        exMemCnt := g.exMemCnt, romSeed0 := g.romSeed0, romSeed1 := g.romSeed1
        wifiWaitCnt := g.wifiWaitCnt
        ime := g.ime, ie := g.ie, irf := g.irf, ie2 := g.ie2, irf2 := g.irf2
        postFlag9 := g.postFlag9, postFlag7 := g.postFlag7
        powerControl9 := g.powerControl9, powerControl7 := g.powerControl7
        arm7BIOSProt := g.arm7BIOSProt
        ipcSync9 := g.ipcSync9, ipcSync7 := g.ipcSync7
        ipcFIFOCnt9 := g.ipcFIFOCnt9, ipcFIFOCnt7 := g.ipcFIFOCnt7 } := by
  constructor
  · simp only [List.map_cons, length_bytes]
    rfl
  · intro n
    simp only [loadAll, array, ofBytes_bytes]

/-- The variables of the section are those that were saved, whatever they were before. -/
theorem NDSG.replaces_vars (indeterminate : Indeterminate) (g : NDSG) :
    Replaces (NDSG.vars indeterminate) g.varData
      fun n => { g with consoleType := n.consoleType } := by
  have hfifo9 := @IPCFIFO.replaces_vars NDSG.ipcFIFO9 (fun f n => { n with ipcFIFO9 := f })
    (fun _ _ => rfl) (fun _ _ _ => rfl) (fun _ => rfl) g.ipcFIFO9
  have hfifo7 := @IPCFIFO.replaces_vars NDSG.ipcFIFO7 (fun f n => { n with ipcFIFO7 := f })
    (fun _ _ => rfl) (fun _ _ _ => rfl) (fun _ => rfl) g.ipcFIFO7
  have hlag := replaces_bool32 g.lagFrameFlag indeterminate.lagFrameFlag
    fun b n => { n with lagFrameFlag := b }
  have hrunning := replaces_bool32 g.runningGame indeterminate.runningGame
    fun b n => { n with runningGame := b }
  have hmath : Replaces
      [array fun x n => { n with divCnt := x }, array fun x n => { n with sqrtCnt := x },
        array fun x n => { n with cpuStop := x }]
      [bytes g.divCnt, bytes g.sqrtCnt, bytes g.cpuStop]
      fun n : NDSG => { n with divCnt := g.divCnt, sqrtCnt := g.sqrtCnt, cpuStop := g.cpuStop } :=
    ⟨by simp only [List.map_cons, length_bytes]; rfl,
      fun n => by simp only [loadAll, array, ofBytes_bytes]⟩
  have htimerState : Replaces
      [array fun x n => { n with timerCheckMask := x },
        array fun x n => { n with timerTimestamp := x },
        array fun x n => { n with dma9Fill := x }]
      [bytes g.timerCheckMask, bytes g.timerTimestamp, bytes g.dma9Fill]
      fun n : NDSG =>
        { n with
          timerCheckMask := g.timerCheckMask, timerTimestamp := g.timerTimestamp
          dma9Fill := g.dma9Fill } :=
    ⟨by simp only [List.map_cons, length_bytes]; rfl,
      fun n => by simp only [loadAll, array, ofBytes_bytes]⟩
  have hclocks : Replaces
      [array fun x n => { n with schedListMask := x },
        array fun x n => { n with arm9Timestamp := x },
        array fun x n => { n with arm9Target := x }, array fun x n => { n with arm7Timestamp := x },
        array fun x n => { n with arm7Target := x }, array fun x n => { n with sysTimestamp := x },
        array fun x n => { n with lastSysClockCycles := x },
        array fun x n => { n with frameStartTimestamp := x },
        array fun x n => { n with numFrames := x }, array fun x n => { n with numLagFrames := x }]
      [bytes g.schedListMask,
        bytes g.arm9Timestamp, bytes g.arm9Target, bytes g.arm7Timestamp, bytes g.arm7Target,
        bytes g.sysTimestamp, bytes g.lastSysClockCycles, bytes g.frameStartTimestamp,
        bytes g.numFrames, bytes g.numLagFrames]
      fun n : NDSG =>
        { n with
          schedListMask := g.schedListMask
          arm9Timestamp := g.arm9Timestamp, arm9Target := g.arm9Target
          arm7Timestamp := g.arm7Timestamp, arm7Target := g.arm7Target
          sysTimestamp := g.sysTimestamp, lastSysClockCycles := g.lastSysClockCycles
          frameStartTimestamp := g.frameStartTimestamp
          numFrames := g.numFrames, numLagFrames := g.numLagFrames } :=
    ⟨by simp only [List.map_cons, length_bytes]; rfl,
      fun n => by simp only [loadAll, array, ofBytes_bytes]⟩
  have hkeys : Replaces
      [array fun x n => { n with keyCnt := x }, array fun x n => { n with rCnt := x },
        array fun x n => { n with wramCnt := x }]
      [bytes g.keyCnt, bytes g.rCnt, bytes g.wramCnt]
      fun n : NDSG => { n with keyCnt := g.keyCnt, rCnt := g.rCnt, wramCnt := g.wramCnt } :=
    ⟨by simp only [List.map_cons, length_bytes]; rfl,
      fun n => by simp only [loadAll, array, ofBytes_bytes]⟩
  exact (((((((((g.replaces_registers.append hfifo9).append hfifo7).append hmath).append
    g.replaces_timers).append htimerState).append g.replaces_schedList).append hclocks).append
    hlag).append hkeys).append hrunning

/-- The entries of a vector, by their indices. -/
theorem toList_eq_map_get {α : Type} {k : ℕ} (v : Vector α k) :
    v.toList = (List.finRange k).map v.get := by
  apply List.ext_getElem
  · rw [Vector.length_toList, List.length_map, List.length_finRange]
  · intro i h₁ h₂
    rw [List.getElem_map, List.getElem_finRange, Vector.getElem_toList]
    rfl

/-- Entries that are written variable by variable are written as one array. -/
theorem flatten_entries {α : Type} [FixedWidth α] {k : ℕ} {datas : α → List Data}
    (h : ∀ a, (datas a).flatten = bytes a) (v : Vector α k) :
    ((List.finRange k).flatMap fun i => datas (v.get i)).flatten = bytes v := by
  have hbytes : bytes v = (List.finRange k).flatMap fun i => bytes (v.get i) := by
    show v.toList.flatMap bytes = _
    rw [toList_eq_map_get, List.flatMap_map]
  have hflatten : ∀ is : List (Fin k), (is.flatMap fun i => datas (v.get i)).flatten =
      is.flatMap fun i => bytes (v.get i) := by
    intro is
    induction is with
    | nil => rfl
    | cons i is ih => rw [List.flatMap_cons, List.flatten_append, ih, h, List.flatMap_cons]
  rw [hbytes, hflatten]

/-- The section is the console type and these variables. -/
theorem NDSG.flatten_fields (g : NDSG) :
    g.fields.flatten = bytes g.consoleType ++ g.varData.flatten := by
  have htimer : ∀ t : Timer, t.varData.flatten = bytes t := by
    intro t
    simp only [Timer.varData, List.flatten_cons, List.flatten_nil, List.append_nil]
    rfl
  have hevent : ∀ e : SchedEvent, e.varData.flatten = bytes e := by
    intro e
    simp only [SchedEvent.varData, List.flatten_cons, List.flatten_nil, List.append_nil]
    rfl
  have hfifo : ∀ f : IPCFIFO, f.varData.flatten = bytes f := by
    intro f
    simp only [IPCFIFO.varData, List.flatten_cons, List.flatten_nil, List.append_nil]
    rfl
  simp only [NDSG.fields, NDSG.varData, List.flatten_append, List.flatten_cons, List.flatten_nil,
    hfifo, flatten_entries htimer, flatten_entries hevent, List.append_nil, List.append_assoc]

end NDSG

section

variable {κ : Type} {indeterminate : Indeterminate} {loadRest : NDS κ → LoadProgram (NDS κ)}

/-- A load of a state that was saved, by a console of the same type or of the other. Where the types
are the same, every variable of section "NDSG" is as it was saved, and the other components are
loaded from behind it; otherwise nothing is loaded. -/
theorem loadStateFromBuffer_doSavestate {components : Components κ} {n n' : NDS κ} {buffer : Data}
    (hbuffer : n.doSavestate components = some buffer) (haddr : Addressable buffer) {fuel : ℕ}
    (hfuel : 0 < fuel) :
    loadStateFromBuffer indeterminate loadRest fuel (some n') (some buffer) =
      if n.consoleType = n'.consoleType then do
        let (n'', file) ← (loadRest { n' with toNDSG := n.toNDSG }).run fuel
          ⟨buffer, false, .ofNat (32 + n.fields.flatten.length)⟩
        let file ← file.finish
        return (!file.error, some n'')
      else return (false, some n') := by
  obtain rfl : Savestate.format (n.sections components) = buffer :=
    Option.some_inj.mp ((n.doSavestate_eq components).symm.trans hbuffer)
  have hsections : n.sections components = [] ++ ⟨magicNDSG, n.fields⟩ ::
      (components.sectionsBeforeTSC n.components ++
        n.tsc.savestateSection :: components.sectionsAfterTSC n.components) := rfl
  obtain ⟨front, rest, hfront, hsplit⟩ : ∃ front rest : Data, front.length = (32 : UInt32).toNat ∧
      Savestate.format (n.sections components) = front ++ (n.fields.flatten ++ rest) :=
    ⟨_, _, length_headersBefore (n.sections components) [] ⟨magicNDSG, n.fields⟩,
      format_split hsections⟩
  have hnew := SavestateReader.new_valid haddr validHeader_format
  have hbegin : (⟨Savestate.format (n.sections components), false, 0x10⟩ :
      SavestateReader).beginSection fuel magicNDSG =
        returned ⟨Savestate.format (n.sections components), false, 32⟩ :=
    SavestateReader.beginSection_format hsections nofun haddr hfuel 0x10
  -- The console type, and the variables behind it.
  have hword : (bytes n.consoleType).length = (4 : UInt32).toNat := length_bytes _
  rw [NDSG.flatten_fields, List.append_assoc] at hsplit
  have hconsole : (⟨Savestate.format (n.sections components), false, 32⟩ :
      SavestateReader).varArray 4 = returned (some (bytes n.consoleType),
        ⟨Savestate.format (n.sections components), false, 36⟩) := by
    rw [hsplit] at haddr ⊢
    exact SavestateReader.varArray_append haddr hfront hword
  obtain ⟨hwidths, hloads⟩ := NDSG.replaces_vars indeterminate n.toNDSG
  have hvars : (LoadProgram.vars (NDSG.vars indeterminate) n'.toNDSG).run fuel
      ⟨Savestate.format (n.sections components), false, 36⟩ =
        returned ({ n.toNDSG with consoleType := n'.consoleType },
          ⟨Savestate.format (n.sections components), false,
            .ofNat (32 + n.fields.flatten.length)⟩) := by
    have hsplit' : Savestate.format (n.sections components) =
        (front ++ bytes n.consoleType) ++ (n.varData.flatten ++ rest) := by
      rw [hsplit, List.append_assoc]
    have hfront' : (front ++ bytes n.consoleType).length = (36 : UInt32).toNat := by
      rw [List.length_append, hfront, hword]
      rfl
    have hend : (36 : UInt32) + .ofNat n.varData.flatten.length =
        .ofNat (32 + n.fields.flatten.length) := by
      rw [NDSG.flatten_fields, List.length_append, hword, ← Nat.add_assoc, UInt32.ofNat_add]
      rfl
    rw [← hend]
    rw [hsplit'] at haddr ⊢
    rw [LoadProgram.run_vars_flatten hwidths haddr hfront', hloads]
  have hlength : (Savestate.format (n.sections components)).length ≠ 0 := by
    rw [hsplit, List.length_append, hfront]
    exact Nat.succ_ne_zero _
  rw [loadStateFromBuffer, if_neg hlength, hnew, LoadOutcome.returned_bind, NDS.doSavestateLoading,
    NDS.loadProgram, LoadProgram.run, hbegin, LoadOutcome.returned_bind, LoadProgram.run, hconsole,
    LoadOutcome.returned_bind]
  dsimp only
  have hcompared : compared indeterminate (some (bytes n.consoleType)) = n.consoleType :=
    ofBytes_bytes _
  rw [NDS.loadVariables, hcompared]
  by_cases hsame : n.consoleType = n'.consoleType
  · rw [if_pos hsame, if_neg (not_not.mpr hsame), LoadProgram.run_bind, hvars,
      LoadOutcome.returned_bind]
    dsimp only
    rw [LoadProgram.run_bind, ← hsame]
    cases (loadRest { n' with toNDSG := n.toNDSG }).run fuel
      ⟨Savestate.format (n.sections components), false, .ofNat (32 + n.fields.flatten.length)⟩ with
    | returned loaded =>
      obtain ⟨n'', file⟩ := loaded
      simp only [LoadOutcome.returned_bind, LoadProgram.run, LoadOutcome.pure_eq]
      cases file.finish with
      | returned file' => rfl
      | _ => rfl
    | _ => rfl
  · rw [if_neg hsame, if_pos hsame]
    rfl

/-- The file of a console without components has offsets that fit. -/
theorem addressable_noComponents (n : NDS Unit) :
    Addressable (Savestate.format (n.sections noComponents)) := by
  have hfields : n.fields.flatten.length = 0x10182CF := by
    rw [List.length_flatten]
    simp only [NDSG.fields, List.map_cons, List.map_nil, length_bytes]
    rfl
  have hsections : n.sections noComponents =
      [] ++ ⟨magicNDSG, n.fields⟩ :: [n.tsc.savestateSection] := rfl
  have htsc : n.tsc.savestateSection.closed.length = 24 := by
    rw [SavestateSection.closed, SavestateSection.length_framed]
    rfl
  unfold Addressable
  rw [format_split hsections, List.length_append, List.length_append, length_headersBefore, hfields,
    List.flatMap_singleton, htsc]
  decide

/-- `loadStateFromBuffer_doSavestate` on a console whose main memory is filled with other bytes than
that of the console that loads. -/
theorem loadStateFromBuffer_doSavestate_mainRAM :
    ∃ buffer, ({ mainRAM := .replicate _ 1, components := () } : NDS Unit).doSavestate
        noComponents = some buffer ∧
      loadStateFromBuffer {} (fun n => .done n) 1 (some { components := () }) (some buffer) =
        returned (true, some { mainRAM := .replicate _ 1, components := () }) := by
  -- The memory is a variable here, so that nothing looks at its bytes.
  have hload : ∀ mainRAM : Vector UInt8 0x1000000,
      ∃ buffer, ({ mainRAM := mainRAM, components := () } : NDS Unit).doSavestate noComponents =
          some buffer ∧
        loadStateFromBuffer {} (fun n => .done n) 1 (some { components := () }) (some buffer) =
          returned (true, some { mainRAM := mainRAM, components := () }) := by
    intro mainRAM
    have hsaved := NDS.doSavestate_eq noComponents
      ({ mainRAM := mainRAM, components := () } : NDS Unit)
    have hlong : 12 ≤ (Savestate.format
        (({ mainRAM := mainRAM, components := () } : NDS Unit).sections noComponents)).length := by
      rw [Savestate.format, List.length_append, Savestate.length_header]
      omega
    refine ⟨_, hsaved, ?_⟩
    rw [loadStateFromBuffer_doSavestate hsaved (addressable_noComponents _) Nat.one_pos, if_pos rfl,
      LoadProgram.run, LoadOutcome.pure_eq, LoadOutcome.returned_bind]
    dsimp only
    rw [SavestateReader.finish, if_neg Bool.false_ne_true, if_pos hlong]
    rfl
  exact hload _

end

end DSEmu

import DSEmu.MelonDS.VRAMMachine

/-!
# What video memory shows

The registers and the banks of a run are at all times those of `VideoMemory` (`run_refines`),
whatever is kept beside them: the words and the pointers of the mapping, the marks and the copies.
So the accesses of both processors are those of `VideoMemory`, and so is what a renderer sees in a
copy that it has just brought up to date, but for the bytes that are in doubt
(`rendered_of_update`).
-/

namespace DSEmu.VRAMMachine

open BitSet (hasBit)
open GPU (FlatByte Covers placement inARM7 banks tracked copySource)
open Function (update)

section Refinement

/-- The registers and the banks of a state. -/
def memory (s : VRAMMachine) : VideoMemory := ⟨s.gpu.vramCNT, s.gpu.vram⟩

/-- And those of its savestates. -/
def savedMemory (s : VRAMMachine) : List VideoMemory :=
  s.saved.map fun saved => ⟨saved.vramCNT, saved.vram⟩

variable {s : VRAMMachine}

theorem writeVRAMCNT_memory (h : s.Invariant) (bank : ℕ) (cnt : UInt8) :
    (s.gpu.writeVRAMCNT bank cnt).vramCNT = update s.gpu.vramCNT bank (cnt &&& GPU.cntMask bank) ∧
      (s.gpu.writeVRAMCNT bank cnt).vram = s.gpu.vram := by
  rcases Nat.lt_or_ge bank 9 with hbank | hbank
  · rw [GPU.writeVRAMCNT_eq cnt s.gpu hbank]
    exact ⟨GPU.assign_vramCNT _, GPU.assign_vram _⟩
  · have hsame : s.gpu.writeVRAMCNT bank cnt = s.gpu := by
      unfold GPU.writeVRAMCNT
      split <;> first | rfl | omega
    have hmask : GPU.cntMask bank = 0 := by
      unfold GPU.cntMask
      split <;> first | rfl | omega
    have hzero : s.gpu.vramCNT bank = 0 := by
      rw [← h.registers.masked bank, hmask, UInt8.and_zero]
    rw [hsame, hmask, UInt8.and_zero, ← hzero, Function.update_eq_self]
    exact ⟨rfl, rfl⟩

theorem capture_memory (h : s.Invariant) (captureCnt : UInt32) (line : ℕ) (pixel : ℕ → UInt16) :
    (s.gpu.capture captureCnt line pixel).vramCNT = s.gpu.vramCNT ∧
      (s.gpu.capture captureCnt line pixel).vram =
        (s.memory.capture captureCnt line pixel).bytes := by
  unfold GPU.capture VideoMemory.capture
  dsimp only
  split
  case isFalse => exact ⟨rfl, rfl⟩
  case isTrue =>
    rw [GPU.doCapture_eq]
    obtain ⟨hend, -⟩ := GPU.captureStart_spec captureCnt line
    have hdst : ((captureCnt >>> 16) &&& 0x3).toNat < 4 := by
      rw [GPU.toNat_and_three]
      exact Nat.mod_lt _ (by decide)
    have hlcdc : hasBit (s.gpu.vramMap .lcdc 0) ((captureCnt >>> 16) &&& 0x3).toNat = true ↔
        s.memory.Shows .lcdc 0 ((captureCnt >>> 16) &&& 0x3).toNat := by
      rw [h.registers.mapped.word]
      exact ⟨fun hword => hword.2, fun hshows => ⟨by omega, hshows⟩⟩
    have hoffset : (UInt32.ofNat (VideoMemory.captureStart captureCnt line * 2) &&&
        GPU.vramMask ((captureCnt >>> 16) &&& 0x3).toNat).toNat =
          VideoMemory.captureStart captureCnt line * 2 := by
      have hwidth : 0 < (captureSize captureCnt).1 := by
        rcases GPU.captureSize_cases captureCnt with hsize | hsize | hsize | hsize <;>
          rw [hsize] <;>
          decide
      have hbits : GPU.offsetBits ((captureCnt >>> 16) &&& 0x3).toNat = 17 := by
        unfold GPU.offsetBits
        split <;> first | rfl | omega
      rw [GPU.toNat_and_vramMask (by omega), hbits, UInt32.toNat_ofNat']
      omega
    by_cases hbit : hasBit (s.gpu.vramMap .lcdc 0) ((captureCnt >>> 16) &&& 0x3).toNat = true
    · rw [if_pos hbit]
      refine ⟨rfl, ?_⟩
      funext b o
      unfold GPU.store GPU.setDirty VideoMemory.write
      dsimp only
      by_cases hb : b = ((captureCnt >>> 16) &&& 0x3).toNat
      · subst hb
        rw [Function.update_self, hoffset]
        exact if_congr ⟨fun hin => ⟨⟨rfl, hlcdc.mp hbit⟩, hin⟩, fun hin => hin.2⟩ rfl rfl
      · rw [Function.update_of_ne hb, if_neg fun hin => hb hin.1.1]
        rfl
    · rw [if_neg hbit]
      refine ⟨rfl, ?_⟩
      funext b o
      unfold VideoMemory.write
      dsimp only
      rw [if_neg]
      · rfl
      · rintro ⟨⟨rfl, hshows⟩, -⟩
        exact hbit (hlcdc.mpr hshows)

/-- Every event does to the registers and the banks what it does to `VideoMemory`. -/
theorem step_refines (h : s.Invariant) (e : VRAMEvent) :
    (s.step e).memory = s.memory.step s.savedMemory e ∧
      (s.step e).savedMemory = s.memory.nextSaved s.savedMemory e := by
  have hmapped := h.registers.mapped
  cases e with
  | control bank cnt =>
    obtain ⟨hcnt, hvram⟩ := writeVRAMCNT_memory h bank cnt
    exact ⟨VideoMemory.ext hcnt hvram, rfl⟩
  | arm9Write16 addr val =>
    have hspec := hmapped.arm9Write_spec (addr &&& ~~~0x1) (littleEndian16 val)
    exact ⟨VideoMemory.ext hspec.only.vramCNT (funext fun b => funext (hspec.vram b)), rfl⟩
  | arm9Write32 addr val =>
    have hspec := hmapped.arm9Write_spec (addr &&& ~~~0x3) (littleEndian32 val)
    exact ⟨VideoMemory.ext hspec.only.vramCNT (funext fun b => funext (hspec.vram b)), rfl⟩
  | arm7Write8 addr val =>
    obtain ⟨honly, -, hvram⟩ := hmapped.writeVRAM_ARM7_spec addr [val]
    exact ⟨VideoMemory.ext honly.vramCNT (funext fun b => funext (hvram b)), rfl⟩
  | arm7Write16 addr val =>
    obtain ⟨honly, -, hvram⟩ := hmapped.writeVRAM_ARM7_spec (addr &&& ~~~0x1) (littleEndian16 val)
    exact ⟨VideoMemory.ext honly.vramCNT (funext fun b => funext (hvram b)), rfl⟩
  | arm7Write32 addr val =>
    obtain ⟨honly, -, hvram⟩ := hmapped.writeVRAM_ARM7_spec (addr &&& ~~~0x3) (littleEndian32 val)
    exact ⟨VideoMemory.ext honly.vramCNT (funext fun b => funext (hvram b)), rfl⟩
  | capture captureCnt line pixel =>
    obtain ⟨hcnt, hvram⟩ := capture_memory h captureCnt line pixel
    refine ⟨VideoMemory.ext (hcnt.trans ?_) hvram, rfl⟩
    unfold VideoMemory.step VideoMemory.capture
    dsimp only
    split <;> rfl
  | update r =>
    by_cases hr : tracked r = true
    · have hstep : s.step (.update r) = { s with
          gpu := s.gpu.makeVRAMFlatCoherent r
          disturbed := s.disturb r } := if_pos hr
      rw [hstep, hmapped.makeVRAMFlatCoherent_spec hr]
      exact ⟨rfl, rfl⟩
    · have hstep : s.step (.update r) = s := if_neg hr
      rw [hstep]
      exact ⟨rfl, rfl⟩
  | save => exact ⟨rfl, List.map_append⟩
  | load k =>
    unfold step VideoMemory.step VideoMemory.nextSaved
    dsimp only
    have hsame : s.savedMemory[k]? = s.saved[k]?.map fun saved => ⟨saved.vramCNT, saved.vram⟩ :=
      List.getElem?_map
    rw [hsame]
    cases s.saved[k]? with
    | none => exact ⟨rfl, rfl⟩
    | some saved => exact ⟨rfl, rfl⟩

theorem foldl_refines (h : s.Invariant) (events : List VRAMEvent) :
    ((events.foldl step s).memory, (events.foldl step s).savedMemory) =
      events.foldl (fun s e => (s.1.step s.2 e, s.1.nextSaved s.2 e))
        (s.memory, s.savedMemory) := by
  induction events generalizing s with
  | nil => rfl
  | cons e events ih =>
    obtain ⟨hmemory, hsaved⟩ := step_refines h e
    rw [List.foldl_cons, List.foldl_cons, ih (h.step e), hmemory, hsaved]

/-- A run has the registers and the banks of `VideoMemory`. -/
theorem run_refines (events : List VRAMEvent) :
    ((run events).memory, (run events).savedMemory) = VideoMemory.run events :=
  foldl_refines invariant_initial events

end Refinement

section Results

theorem memory_run (events : List VRAMEvent) : (run events).memory = (VideoMemory.run events).1 :=
  congrArg Prod.fst (run_refines events)

/-- In every run the mapping is what the registers say: each word has the bits of the banks that are
at its slot, each pointer is to the only bank of its slot, no bank is at a slot that there is not,
and the ARM7 is told only of banks that it has. -/
theorem vram_mapped (events : List VRAMEvent) :
    let g := (run events).gpu
    let m := (VideoMemory.run events).1
    (∀ r i b, hasBit (g.vramMap r i) b = true ↔ b < 9 ∧ m.Shows r i b) ∧
    (∀ r i, r.hasPtr = true →
      g.vramPtr r i = GPU.getUniqueBankPtr (g.vramMap r i) (UInt32.ofNat i <<< (14 : UInt32))) ∧
    (∀ r i b, m.Shows r i b → i < r.slots ∧ b ∈ banks r) ∧
    ∀ b, g.vramSTAT &&& GPU.statBit b ≠ 0 → inARM7 b (m.cnt b) = true := by
  have h := (invariant_run events).registers
  dsimp only
  rw [← memory_run]
  refine ⟨h.mapped.word, h.mapped.pointer, fun r i b hshows => ?_, h.stat⟩
  exact ⟨h.lt_slots hshows, GPU.mem_banks hshows⟩

/-- In every run the registers and the banks are those of `VideoMemory`, and both processors read
the bytes of the banks that the registers place at the address. -/
theorem vram_read (events : List VRAMEvent) (n : ℕ) (addr : UInt32) :
    let g := (run events).gpu
    let m := (VideoMemory.run events).1
    g.vramCNT = m.cnt ∧ g.vram = m.bytes ∧
      g.arm9Read n addr = m.read (m.Sees addr) n addr ∧
      g.readVRAM_ARM7 n addr = m.read (m.Sees7 addr) n addr := by
  have h := (invariant_run events).registers.mapped
  dsimp only
  rw [← memory_run]
  refine ⟨rfl, rfl, ?_, ?_⟩
  · exact h.arm9Read_eq
  · exact h.gather_banks (r := .arm7)

/-- In every run a value that the ARM9 writes is what it reads at the same place, if there is a
bank, and else it reads 0. No other byte of any bank changes. -/
theorem vram_readBack (events : List VRAMEvent) (addr : UInt32) (val : List UInt8) :
    let g := (run events).gpu
    let m := (VideoMemory.run events).1
    (g.arm9Write addr val).arm9Read val.length addr =
      (if ∃ b ∈ List.range 9, m.Sees addr b then val else List.replicate val.length 0) ∧
    ∀ b o, ¬ (m.Sees addr b ∧ (addr &&& GPU.vramMask b).toNat ≤ o ∧
        o < (addr &&& GPU.vramMask b).toNat + val.length) →
      (g.arm9Write addr val).vram b o = g.vram b o := by
  have h := (invariant_run events).registers.mapped
  dsimp only
  rw [← memory_run]
  constructor
  · exact h.arm9Read_arm9Write
  · intro b o hout
    rw [(h.arm9Write_spec _ _).vram]
    exact if_neg hout

/-- What a copy is made of is what is to be seen. -/
theorem view_eq_rendered {g : GPU} (h : g.Mapped) (c : FlatByte) :
    copySource.view (g.vramMap c.region c.piece) c g.vram =
      (⟨g.vramCNT, g.vram⟩ : VideoMemory).rendered c.region c.piece c.offset := by
  refine GPU.orBytes_congr (fun b hb => ?_) fun _ _ _ => rfl
  rw [GPU.visible, h.hasBit_eq (GPU.banks_lt hb), h.hasBit_eq (by decide)]
  have hshows : ∀ b, (⟨g.vramCNT, g.vram⟩ : VideoMemory).Shows c.region c.piece b ↔
      Covers (placement b (g.vramCNT b)) c.region c.piece := fun b => Iff.rfl
  simp only [hshows]
  simp [Bool.or_assoc]

/-- A copy of everything. -/
theorem copyLinearVRAM_all {g : GPU} (h : g.Mapped) (c : FlatByte) :
    (g.copyLinearVRAM c.region fun _ => true).vramFlat c.region c.offset =
      copySource.view (g.vramMap c.region c.piece) c g.vram := by
  rw [h.copyLinearVRAM_eq c.isTracked, GPU.withFlat_vramFlat, if_pos ⟨c.block_lt, rfl⟩, c.block_div]
  exact GPU.copiedByte_eq _ (fun b hb => GPU.mem_banks ((h.word _ _ _).mp hb).2) c.isTracked
    c.lt_size

/-- In every run a copy that has just been brought up to date shows what is mapped there, and is
what a copy of the whole region would be, but for bytes that are in doubt. -/
theorem rendered_of_update (events : List VRAMEvent) (c : FlatByte)
    (hdoubt : ¬ ((run events).step (.update c.region)).disturbed c) :
    let g := (run events).gpu
    let m := (VideoMemory.run events).1
    (g.makeVRAMFlatCoherent c.region).vramFlat c.region c.offset =
      m.rendered c.region c.piece c.offset ∧
    (g.makeVRAMFlatCoherent c.region).vramFlat c.region c.offset =
      (g.copyLinearVRAM c.region fun _ => true).vramFlat c.region c.offset := by
  have h := invariant_run events
  have hmapped := h.registers.mapped
  have hcopy := h.valid.copy_update (update_spec hmapped c.isTracked) (c := c) rfl hdoubt
  have hstep : (run events).step (.update c.region) = { run events with
      gpu := (run events).gpu.makeVRAMFlatCoherent c.region
      disturbed := (run events).disturb c.region } := if_pos c.isTracked
  rw [hstep] at hcopy
  have hvram : ((run events).gpu.makeVRAMFlatCoherent c.region).vram = (run events).gpu.vram := by
    rw [hmapped.makeVRAMFlatCoherent_spec c.isTracked]
  have hview : ((run events).gpu.makeVRAMFlatCoherent c.region).vramFlat c.region c.offset =
      copySource.view ((run events).gpu.vramMap c.region c.piece) c (run events).gpu.vram := by
    rw [← hvram]
    exact hcopy
  dsimp only
  rw [hview, copyLinearVRAM_all hmapped, view_eq_rendered hmapped, ← memory_run]
  exact ⟨rfl, rfl⟩

/-- The bank A is mapped to the backgrounds of the first screen, and two bytes are written to it. -/
theorem rendered_of_update_backgroundA :
    let c : FlatByte := ⟨.abg, 0x101, rfl, by decide⟩
    let events : List VRAMEvent := [.control 0 0x81, .arm9Write16 0x06000100 0x1234]
    let g := (run events).gpu
    let m := (VideoMemory.run events).1
    (g.makeVRAMFlatCoherent c.region).vramFlat c.region c.offset =
      m.rendered c.region c.piece c.offset ∧
    (g.makeVRAMFlatCoherent c.region).vramFlat c.region c.offset =
      (g.copyLinearVRAM c.region fun _ => true).vramFlat c.region c.offset :=
  rendered_of_update [.control 0 0x81, .arm9Write16 0x06000100 0x1234] ⟨.abg, 0x101, rfl, by decide⟩
    fun h => h.1

end Results

end DSEmu.VRAMMachine

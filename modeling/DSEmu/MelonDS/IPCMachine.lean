import DSEmu.Library.Automaton
import DSEmu.MelonDS.Mailboxes

/-!
# Every word once, and no interrupt lost

`IPCMachine` is the console with a record of the words that went through each queue. Its events are
the accesses of both processors in any order and of any width, acknowledged interrupts, and whatever
else the console does that leaves the mailboxes alone.

In every run from a reset, what a queue has accepted is what has left it, in the same order, and
then what it holds (`IPCMachine.Law`); no access is outside of the array. An interrupt for words
that wait is pending from the moment when there is one to the moment when the processor acknowledges
it. The interrupt for a queue that has been emptied is lost in one way, by clearing the queue with
the interrupt already enabled.
-/

namespace DSEmu

open scoped Indexed

open Automaton Function

/-- A word that has left a queue. -/
inductive Departure where
  /-- The other processor has received it. -/
  | received (word : UInt32)
  /-- It was in the queue when its sender cleared it. -/
  | discarded (word : UInt32)
  deriving DecidableEq, Repr

/-- The word that leaves. -/
def Departure.word : Departure → UInt32
  | .received word => word
  | .discarded word => word

/-- What happens to the mailboxes. -/
inductive IPCEvent (κ : Type) where
  | write (cpu : Fin 2) (w : IPCWrite)
  | receive (cpu : Fin 2)
  /-- The processor clears bits of its `IF`. -/
  | acknowledge (cpu : Fin 2) (val : UInt32)
  /-- The console goes on without its mailboxes, and may raise interrupts. -/
  | elsewhere (n : NDS κ)

/-- A console, and for each processor the words that its queue has accepted and those that have left
it. -/
structure IPCMachine (κ : Type) where
  nds : NDS κ
  accepted : Fin 2 → List UInt32 := fun _ => []
  gone : Fin 2 → List Departure := fun _ => []

/-- The console goes on without its mailboxes: no interrupt of theirs is acknowledged. -/
def NDS.KeepsIPC {κ : Type} (n n' : NDS κ) : Prop :=
  ∀ cpu, n'.ipcFIFO cpu = n.ipcFIFO cpu ∧ n'.ipcFIFOCnt cpu = n.ipcFIFOCnt cpu ∧
    n'.ipcSync cpu = n.ipcSync cpu ∧ n.irf.get cpu &&& 0x70000 &&& ~~~(n'.irf.get cpu) = 0

instance {κ : Type} (n n' : NDS κ) : Decidable (n.KeepsIPC n') :=
  inferInstanceAs (Decidable (∀ _, _ ∧ _))

/-- A word written to 0x04000214. The ARM9 then also tests the interrupt of the 3D renderer's queue,
which is none of the mailboxes. -/
def NDS.acknowledge {κ : Type} (cpu : Fin 2) (val : UInt32) (n : NDS κ) : NDS κ :=
  updateIRQ cpu { n with irf := n.irf.put cpu (n.irf.get cpu &&& ~~~val) }

namespace IPCMachine

variable {κ : Type} (components : Components κ)

/-- Empty books, from a reset on. -/
def reset (n : NDS κ) : IPCMachine κ where
  nds := n.resetIPC

/-- What an event does to the console and to the books. -/
def step (s : IPCMachine κ) : IPCEvent κ → Option (IPCMachine κ)
  | .write cpu w => do
    let n ← s.nds.writeIPC components cpu w
    return {
      nds := n
      accepted := update s.accepted cpu (s.accepted cpu ++ s.nds.mailboxes.accepted cpu w)
      gone := update s.gone cpu
        (s.gone cpu ++ (s.nds.mailboxes.discarded cpu w).map Departure.discarded) }
  | .receive cpu => do
    let (word, n) ← s.nds.receiveIPC components cpu
    return { s with
      nds := n
      gone := if s.nds.mailboxes.Takes cpu then
        update s.gone cpu.rev (s.gone cpu.rev ++ [.received word]) else s.gone }
  | .acknowledge cpu val => some { s with nds := s.nds.acknowledge cpu val }
  | .elsewhere n => if s.nds.KeepsIPC n then some { s with nds := n } else none

end IPCMachine

/-! ### What one access does to the queues -/

namespace Mailboxes

variable {m : Mailboxes} {cpu c : Fin 2}

/-- An interrupt does not touch the data. -/
@[simp] theorem sync_irq (cpu : Fin 2) (i : UInt32) (m : Mailboxes) :
    (m.irq cpu i).sync = m.sync := rfl

/-- A word that is accepted is the last one of its queue. -/
theorem queue_send (word : UInt32) : (m.send cpu word).queue =
    if m.Accepts cpu then update m.queue cpu (m.queue cpu ++ [word]) else m.queue := by
  dsimp only [send, error]
  split_ifs <;> rfl

/-- A word that is taken was the first one of the other processor's queue. -/
theorem queue_receive : (m.receive cpu).queue =
    if m.Takes cpu then update m.queue cpu.rev (m.queue cpu.rev).tail else m.queue := by
  dsimp only [receive, error]
  split_ifs <;> rfl

/-- A queue that is cleared is empty. -/
theorem queue_control (val : UInt16) : (m.control cpu val).queue =
    if val &&& 0x0008 ≠ 0 then update m.queue cpu [] else m.queue := by
  dsimp only [control]
  split_ifs <;> rfl

/-- `IPCSYNC` does not touch the queues. -/
theorem queue_synchronise (data own : UInt16) (request : Bool) :
    (m.synchronise cpu data own request).queue = m.queue := by
  dsimp only [synchronise]
  split_ifs <;> rfl

/-- A queue is changed by its own processor, but for words that are taken. -/
theorem queue_write_of_ne (h : c ≠ cpu) (w : IPCWrite) : (m.write cpu w).queue c = m.queue c := by
  have hsend (word : UInt32) : (m.send cpu word).queue c = m.queue c := by
    rw [queue_send]
    split_ifs
    · exact update_of_ne h _ _
    · rfl
  have hcontrol (val : UInt16) : (m.control cpu val).queue c = m.queue c := by
    rw [queue_control]
    split_ifs
    · exact update_of_ne h _ _
    · rfl
  cases w with
  | sync8 val => exact congrFun (queue_synchronise _ _ _) c
  | sync16 val => exact congrFun (queue_synchronise _ _ _) c
  | sync32 val => exact congrFun (queue_synchronise _ _ _) c
  | cnt16 val => exact hcontrol val
  | cnt32 val => exact hcontrol val.toUInt16
  | send8 val => exact hsend _
  | send16 val => exact hsend _
  | send32 val => exact hsend val

/-- What a write puts into the queue of its processor comes behind what is there, and what it takes
out is all of it. -/
theorem queue_write (w : IPCWrite) :
    m.queue cpu ++ m.accepted cpu w = m.discarded cpu w ++ (m.write cpu w).queue cpu := by
  have hsend {word : UInt32} (hw : w.word = some word) (hclears : w.clears = false) :
      m.queue cpu ++ m.accepted cpu w = m.discarded cpu w ++ (m.send cpu word).queue cpu := by
    have hnone : m.discarded cpu w = [] := by
      rw [discarded, hclears]
      rfl
    rw [hnone, accepted, hw, queue_send, List.nil_append]
    split_ifs with hacc
    · rw [update_self]
      rfl
    · exact List.append_nil _
  have hcontrol {val : UInt16} (hw : w.word = none)
      (hclears : w.clears = decide (val &&& 0x0008 ≠ 0)) :
      m.queue cpu ++ m.accepted cpu w = m.discarded cpu w ++ (m.control cpu val).queue cpu := by
    have hnone : m.accepted cpu w = [] := by
      rw [accepted, hw]
      exact ite_self _
    rw [hnone, discarded, hclears, queue_control, List.append_nil]
    by_cases hval : val &&& 0x0008 ≠ 0
    · rw [if_pos (decide_eq_true hval), if_pos hval, update_self, List.append_nil]
    · rw [if_neg (by rwa [decide_eq_true_eq]), if_neg hval]
      rfl
  have hsync (data own : UInt16) (request : Bool) (hw : w.word = none)
    (hclears : w.clears = false) :
      m.queue cpu ++ m.accepted cpu w =
        m.discarded cpu w ++ (m.synchronise cpu data own request).queue cpu := by
    have hnone : m.accepted cpu w = [] := by
      rw [accepted, hw]
      exact ite_self _
    rw [hnone, discarded, hclears, queue_synchronise, List.append_nil]
    rfl
  cases w with
  | sync8 val => exact hsync _ _ _ rfl rfl
  | sync16 val => exact hsync _ _ _ rfl rfl
  | sync32 val => exact hsync _ _ _ rfl rfl
  | cnt16 val => exact hcontrol rfl rfl
  | cnt32 val => exact hcontrol rfl rfl
  | send8 val => exact hsend rfl rfl
  | send16 val => exact hsend rfl rfl
  | send32 val => exact hsend rfl rfl

end Mailboxes

/-! ### Every word once -/

namespace IPCMachine

variable {κ : Type} {components : Components κ} {s t : IPCMachine κ}

/-- What a queue has accepted has left it in the same order or is in it, and there is no more of it
than there is room for. -/
structure Law (s : IPCMachine κ) : Prop where
  valid : s.nds.ValidFIFOs
  accepted_eq : ∀ cpu,
    s.accepted cpu = (s.gone cpu).map Departure.word ++ s.nds.mailboxes.queue cpu

/-- The law of the books, from a reset on. -/
theorem law_reset (n : NDS κ) : (reset n).Law where
  valid := n.validFIFOs_resetIPC
  accepted_eq cpu := by
    fin_cases cpu
    · exact (FIFO.contents_clear n.ipcFIFO9.toFIFO).symm
    · exact (FIFO.contents_clear n.ipcFIFO7.toFIFO).symm

/-- A change of the console that leaves the queues alone. -/
theorem Law.of_ipcFIFO_eq (h : s.Law) {n : NDS κ} (hn : n.ipcFIFO = s.nds.ipcFIFO) :
    ({ s with nds := n } : IPCMachine κ).Law where
  valid := by
    rw [NDS.ValidFIFOs, hn]
    exact h.valid
  accepted_eq cpu := by
    have hqueue : n.mailboxes.queue cpu = s.nds.mailboxes.queue cpu := by
      rw [NDS.mailboxes, hn]
      rfl
    rw [hqueue]
    exact h.accepted_eq cpu

/-- The step lemma. -/
theorem Law.step {e : IPCEvent κ} (h : s.Law) (hstep : step components s e = some t) : t.Law := by
  cases e with
  | write cpu w =>
    obtain ⟨n, hn, hvalid, hwrite⟩ := NDS.writeIPC_eq components cpu h.valid w
    rw [IPCMachine.step, hn] at hstep
    obtain rfl := Option.some.inj hstep
    refine ⟨hvalid, fun c => ?_⟩
    dsimp only
    by_cases hc : c = cpu
    · subst hc
      have hword : Departure.word ∘ Departure.discarded = id := rfl
      rw [update_self, update_self, hwrite, h.accepted_eq, List.map_append, List.map_map, hword,
        List.map_id, List.append_assoc, List.append_assoc, Mailboxes.queue_write]
    · rw [update_of_ne hc, update_of_ne hc, hwrite, Mailboxes.queue_write_of_ne hc]
      exact h.accepted_eq c
  | receive cpu =>
    obtain ⟨word, n, hn, hvalid, hreceive, htaken⟩ := NDS.receiveIPC_eq components cpu h.valid
    rw [IPCMachine.step, hn] at hstep
    obtain rfl := Option.some.inj hstep
    refine ⟨hvalid, fun c => ?_⟩
    dsimp only
    by_cases htakes : s.nds.mailboxes.Takes cpu
    · rw [if_pos htakes]
      by_cases hc : c = cpu.rev
      · subst hc
        rw [update_self, h.accepted_eq, htaken htakes, List.map_append, List.append_assoc]
        rfl
      · rw [update_of_ne hc, hreceive, Mailboxes.queue_receive, if_pos htakes, update_of_ne hc]
        exact h.accepted_eq c
    · rw [if_neg htakes, hreceive, Mailboxes.queue_receive, if_neg htakes]
      exact h.accepted_eq c
  | acknowledge cpu val =>
    obtain rfl := Option.some.inj hstep
    exact h.of_ipcFIFO_eq rfl
  | elsewhere n =>
    rw [IPCMachine.step] at hstep
    split_ifs at hstep with hkeeps
    obtain rfl := Option.some.inj hstep
    exact h.of_ipcFIFO_eq (funext fun cpu => (hkeeps cpu).1)

/-- The run lemma. -/
theorem law_of_exec {n : NDS κ} {es : List (IPCEvent κ)}
    (h : exec (IPCMachine.step components) (reset n) es = some s) : s.Law :=
  exec_preserves (fun _ _ _ ht hu => ht.step hu) (law_reset n) h

/-- In every run from a reset, of accesses of both processors in any order, each queue has given its
words away in the order in which it accepted them, each once, and holds the others. No access is
outside of the array. -/
theorem ipc_exactly_once (components : Components κ) (n : NDS κ) (es : List (IPCEvent κ))
    (h : exec (IPCMachine.step components) (reset n) es = some s) (cpu : Fin 2) :
    s.accepted cpu = (s.gone cpu).map Departure.word ++ (s.nds.ipcFIFO cpu).contents ∧
      (s.nds.ipcFIFO cpu).contents.length ≤ 16 ∧
      (∀ w, (s.nds.writeIPC components cpu w).isSome) ∧
      (s.nds.receiveIPC components cpu).isSome := by
  have hlaw := law_of_exec h
  refine ⟨hlaw.accepted_eq cpu, ?_, fun w => ?_, ?_⟩
  · rw [(hlaw.valid cpu).length_contents]
    exact (hlaw.valid cpu).numOccupied_le
  · obtain ⟨n', hn', -⟩ := NDS.writeIPC_eq components cpu hlaw.valid w
    rw [hn']
    rfl
  · obtain ⟨word, n', hn', -⟩ := NDS.receiveIPC_eq components cpu hlaw.valid
    rw [hn']
    rfl

/-- Both processors open their ends, the ARM9 sends two words, and the ARM7 receives one. -/
def conversation : List (IPCEvent Unit) :=
  [.write 0 (.cnt16 0x8000), .write 1 (.cnt32 0x8400), .write 0 (.send32 7), .write 0 (.send8 1),
    .receive 1]

/-- A conversation in which words are taken, refused and cleared. -/
theorem ipc_exactly_once_conversation :
    ∃ s : IPCMachine Unit,
      exec (IPCMachine.step noComponents) (reset { components := () }) conversation = some s ∧
        s.gone 0 = [.received 7] ∧
        s.accepted 0 = (s.gone 0).map Departure.word ++ (s.nds.ipcFIFO 0).contents := by
  have hrun : ∃ s : IPCMachine Unit,
      exec (IPCMachine.step noComponents) (reset { components := () }) conversation = some s ∧
        s.gone 0 = [.received 7] :=
    ⟨_, rfl, rfl⟩
  obtain ⟨s, hs, hgone⟩ := hrun
  exact ⟨s, hs, hgone, (ipc_exactly_once _ _ conversation hs 0).1⟩

end IPCMachine

end DSEmu

import DSEmu.Library.Words
import DSEmu.MelonDS.IPCMachine

/-!
# The interrupts of the mailboxes

A processor that has enabled it is interrupted when words come to wait for it, and when all that it
has sent has been taken. Each of the two interrupts is raised whenever what it is for becomes true
(`Mailboxes.Notified`, `Mailboxes.Relieved`), with one exception: a processor that clears its own
queue, with the second interrupt enabled before, is not told that the queue is empty.

The registers keep to their bits: a processor reads the four bits of data that the other one has
written, and the state of both queues (`IPCMachine.ipc_registers`).
-/

namespace DSEmu

open scoped Indexed

open Automaton Function

namespace Mailboxes

variable {m : Mailboxes} {cpu c : Fin 2} {i : UInt32}

/-- Where a processor is to be interrupted for words that wait, the interrupt is pending. -/
def Notified (m : Mailboxes) (cpu : Fin 2) : Prop := m.RecvDue cpu → m.Pending cpu irqIPCRecv

/-- Where a processor is to be interrupted for its empty queue, the interrupt is pending. -/
def Relieved (m : Mailboxes) (cpu : Fin 2) : Prop :=
  m.SendDoneDue cpu → m.Pending cpu irqIPCSendDone

/-- An interrupt is a bit of one processor's `IF`. -/
theorem irf_irq (cpu : Fin 2) (i : UInt32) (m : Mailboxes) :
    (m.irq cpu i).irf = update m.irf cpu (m.irf cpu ||| (1 : UInt32) <<< i) := rfl

/-- An interrupt that is raised is pending. -/
theorem pending_irq (cpu : Fin 2) (hi : (1 : UInt32) <<< i ≠ 0) : (m.irq cpu i).Pending cpu i := by
  rw [Pending, irf_irq, update_self]
  exact UInt32.or_and_ne_zero (Or.inr (by rwa [UInt32.and_self]))

/-- Another interrupt takes nothing away. -/
theorem Pending.irq (h : m.Pending c i) (cpu : Fin 2) (j : UInt32) : (m.irq cpu j).Pending c i := by
  rw [Pending, irf_irq]
  by_cases hc : c = cpu
  · subst hc
    rw [update_self]
    exact UInt32.or_and_ne_zero (Or.inl h)
  · rwa [update_of_ne hc]

/-! ### No access takes an interrupt back -/

/-- A word that is sent takes no interrupt away. -/
theorem Pending.send (h : m.Pending c i) (word : UInt32) : (m.send cpu word).Pending c i := by
  dsimp only [Mailboxes.send]
  split_ifs
  · exact Pending.irq h _ _
  · exact h
  · exact h
  · exact h

/-- A word that is taken takes no interrupt away. -/
theorem Pending.receive (h : m.Pending c i) : (m.receive cpu).Pending c i := by
  dsimp only [Mailboxes.receive]
  split_ifs
  · exact Pending.irq h _ _
  · exact h
  · exact h
  · exact h

/-- A write to `IPCFIFOCNT` takes no interrupt away. -/
theorem Pending.control (h : m.Pending c i) (val : UInt16) : (m.control cpu val).Pending c i := by
  have hirq {m : Mailboxes} (h : m.Pending c i) (p : Prop) [Decidable p] (j : UInt32) :
      (if p then m.irq cpu j else m).Pending c i := by
    split_ifs
    · exact h.irq cpu j
    · exact h
  dsimp only [Mailboxes.control]
  apply hirq (hirq _ _ _)
  split_ifs
  · exact h
  · exact h

/-- A write to `IPCSYNC` takes no interrupt away. -/
theorem Pending.synchronise (h : m.Pending c i) (data own : UInt16) (request : Bool) :
    (m.synchronise cpu data own request).Pending c i := by
  dsimp only [Mailboxes.synchronise]
  split_ifs
  · exact Pending.irq h _ _
  · exact h

/-! ### The control registers -/

/-- The error flag is one bit. -/
theorem cnt_error (cpu : Fin 2) (m : Mailboxes) :
    (m.error cpu).cnt = update m.cnt cpu (m.cnt cpu ||| 0x4000) := rfl

/-- An error is in a bit of its own. -/
theorem cnt_error_and {mask : UInt16} (h : 0x4000 &&& mask = 0) :
    (m.error cpu).cnt c &&& mask = m.cnt c &&& mask := by
  by_cases hc : c = cpu
  · subst hc
    rw [cnt_error, update_self]
    exact UInt16.or_and_of_and_eq_zero h
  · rw [cnt_error, update_of_ne hc]

/-- A word that is sent changes the error flag only. -/
theorem cnt_send_and {mask : UInt16} (h : 0x4000 &&& mask = 0) (word : UInt32) :
    (m.send cpu word).cnt c &&& mask = m.cnt c &&& mask := by
  dsimp only [send]
  split_ifs
  · rfl
  · rfl
  · exact cnt_error_and h
  · rfl

/-- A word that is taken changes the error flag only. -/
theorem cnt_receive_and {mask : UInt16} (h : 0x4000 &&& mask = 0) :
    (m.receive cpu).cnt c &&& mask = m.cnt c &&& mask := by
  dsimp only [receive]
  split_ifs
  · rfl
  · rfl
  · exact cnt_error_and h
  · rfl

/-- A write to the control register sets the enabling bits. -/
theorem cnt_control_self (val : UInt16) {mask : UInt16} (h : 0x4000 &&& mask = 0)
    (hmask : 0x8404 &&& mask = mask) : (m.control cpu val).cnt cpu &&& mask = val &&& mask := by
  have hcnt : ∃ error, (m.control cpu val).cnt cpu = (val &&& 0x8404) ||| (error &&& 0x4000) :=
    ⟨_, update_self _ _ _⟩
  obtain ⟨error, herror⟩ := hcnt
  have hout : error &&& 0x4000 &&& mask = 0 := by
    rw [UInt16.and_assoc, h, UInt16.and_zero]
  rw [herror, UInt16.or_and_of_and_eq_zero hout, UInt16.and_assoc, hmask]

/-- A write to `IPCFIFOCNT` leaves the other processor's alone. -/
theorem cnt_control_of_ne (hc : c ≠ cpu) (val : UInt16) : (m.control cpu val).cnt c = m.cnt c := by
  dsimp only [control]
  rw [update_of_ne hc]
  split_ifs <;> rfl

/-! ### What the interrupts are for -/

/-- A word that comes into an empty queue raises the interrupt. -/
theorem Notified.send (h : m.Notified c) (word : UInt32) : (m.send cpu word).Notified c := by
  rintro ⟨hon, hwaiting⟩
  rw [cnt_send_and (by decide)] at hon
  by_cases hsame : (m.send cpu word).queue c.rev = m.queue c.rev
  · rw [hsame] at hwaiting
    exact (h ⟨hon, hwaiting⟩).send word
  · -- the word has gone into the queue that the processor receives from
    have haccepts : m.Accepts cpu := by
      by_contra hacc
      exact hsame (by rw [queue_send, if_neg hacc])
    have hc : c.rev = cpu := by
      by_contra hne
      exact hsame (by rw [queue_send, if_pos haccepts, update_of_ne hne])
    subst hc
    by_cases hempty : m.queue c.rev = []
    · dsimp only [Mailboxes.send]
      rw [if_pos haccepts, Fin.rev_rev, if_pos ⟨hon, hempty⟩]
      exact pending_irq c (by decide)
    · exact (h ⟨hon, hempty⟩).send word

/-- A queue with a word that has just been sent is not empty. -/
theorem Relieved.send (h : m.Relieved c) (word : UInt32) : (m.send cpu word).Relieved c := by
  rintro ⟨hon, hempty⟩
  rw [cnt_send_and (by decide)] at hon
  have hbefore : m.queue c = [] := by
    rw [queue_send] at hempty
    split_ifs at hempty with haccepts
    · by_cases hc : c = cpu
      · subst hc
        rw [update_self] at hempty
        exact (List.append_eq_nil_iff.mp hempty).1
      · rwa [update_of_ne hc] at hempty
    · exact hempty
  exact (h ⟨hon, hbefore⟩).send word

/-- A queue from which a word is taken was not empty before. -/
theorem Notified.receive (h : m.Notified c) : (m.receive cpu).Notified c := by
  rintro ⟨hon, hwaiting⟩
  rw [cnt_receive_and (by decide)] at hon
  refine (h ⟨hon, fun hempty => hwaiting ?_⟩).receive
  rw [queue_receive]
  split_ifs
  · by_cases hc : c.rev = cpu.rev
    · rw [hc, update_self, ← hc, hempty]
      rfl
    · rwa [update_of_ne hc]
  · exact hempty

/-- The word that empties the queue raises the interrupt. -/
theorem Relieved.receive (h : m.Relieved c) : (m.receive cpu).Relieved c := by
  rintro ⟨hon, hempty⟩
  rw [cnt_receive_and (by decide)] at hon
  by_cases hsame : (m.receive cpu).queue c = m.queue c
  · rw [hsame] at hempty
    exact (h ⟨hon, hempty⟩).receive
  · have htakes : m.Takes cpu := by
      by_contra htakes
      exact hsame (by rw [queue_receive, if_neg htakes])
    have hc : c = cpu.rev := by
      by_contra hne
      exact hsame (by rw [queue_receive, if_pos htakes, update_of_ne hne])
    subst hc
    rw [queue_receive, if_pos htakes] at hempty
    dsimp only [Mailboxes.receive]
    rw [if_pos htakes, if_pos ⟨hon, hempty⟩]
    exact pending_irq cpu.rev (by decide)

/-- A write to `IPCFIFOCNT` clears the writer's queue only. -/
theorem queue_control_of_ne (hc : c ≠ cpu) (val : UInt16) :
    (m.control cpu val).queue c = m.queue c := by
  rw [queue_control]
  split_ifs
  · exact update_of_ne hc _ _
  · rfl

/-- Clearing a queue takes words away only. -/
theorem queue_control_eq_nil (h : m.queue c = []) (val : UInt16) :
    (m.control cpu val).queue c = [] := by
  by_cases hc : c = cpu
  · subst hc
    rw [queue_control]
    split_ifs
    · exact update_self _ _ _
    · exact h
  · rwa [queue_control_of_ne hc]

/-- Switching the interrupt on raises it where words are there already. -/
theorem Notified.control (h : m.Notified c) (val : UInt16) : (m.control cpu val).Notified c := by
  rintro ⟨hon, hwaiting⟩
  have hbefore : m.queue c.rev ≠ [] := fun hempty => hwaiting (queue_control_eq_nil hempty val)
  by_cases hc : c = cpu
  · subst hc
    rw [cnt_control_self val (by decide) (by decide)] at hon
    by_cases hoff : m.cnt c &&& 0x0400 = 0
    · -- the write enables the interrupt
      have hraised {m' : Mailboxes} (hcnt : m'.cnt = m.cnt)
        (hqueue : m'.queue c.rev = m.queue c.rev) :
          (if val &&& 0x0400 ≠ 0 ∧ m'.cnt c &&& 0x0400 = 0 ∧ m'.queue c.rev ≠ [] then
            m'.irq c irqIPCRecv else m').Pending c irqIPCRecv := by
        rw [hcnt, hqueue, if_pos ⟨hon, hoff, hbefore⟩]
        exact pending_irq c (by decide)
      apply hraised
      · split_ifs <;> rfl
      · split_ifs
        · exact update_of_ne (Fin.rev_ne_two c) _ _
        · exact update_of_ne (Fin.rev_ne_two c) _ _
        · rfl
        · rfl
    · exact (h ⟨hoff, hbefore⟩).control val
  · rw [cnt_control_of_ne hc] at hon
    exact (h ⟨hon, hbefore⟩).control val

/-- A processor that clears its queue is told that it is empty where it enables the interrupt only
then. -/
theorem Relieved.control (h : m.Relieved c) {val : UInt16}
    (hclear : c = cpu → val &&& 0x0008 ≠ 0 → m.cnt c &&& 0x0004 = 0) :
    (m.control cpu val).Relieved c := by
  rintro ⟨hon, hempty⟩
  by_cases hc : c = cpu
  · subst hc
    rw [cnt_control_self val (by decide) (by decide)] at hon
    by_cases hoff : m.cnt c &&& 0x0004 = 0
    · have hraised {m' : Mailboxes} (hcnt : m'.cnt = m.cnt) (hqueue : m'.queue c = []) :
          (if val &&& 0x0004 ≠ 0 ∧ m'.cnt c &&& 0x0004 = 0 ∧ m'.queue c = [] then
            m'.irq c irqIPCSendDone else m').Pending c irqIPCSendDone := by
        rw [hcnt, if_pos ⟨hon, hoff, hqueue⟩]
        exact pending_irq c (by decide)
      have hkept {m' : Mailboxes} (hpending : m'.Pending c irqIPCSendDone) (p : Prop)
        [Decidable p] :
          (if p then m'.irq c irqIPCRecv else m').Pending c irqIPCSendDone := by
        split_ifs
        · exact hpending.irq c irqIPCRecv
        · exact hpending
      apply hkept (hraised _ _)
      · split_ifs <;> rfl
      · rw [queue_control] at hempty
        split_ifs at hempty ⊢
        · exact update_self _ _ _
        · exact hempty
    · -- the interrupt was enabled before, so the write has not cleared the queue
      have hkeeps : ¬ val &&& 0x0008 ≠ 0 := fun hval => hoff (hclear rfl hval)
      rw [queue_control, if_neg hkeeps] at hempty
      exact (h ⟨hoff, hempty⟩).control val
  · rw [cnt_control_of_ne hc] at hon
    rw [queue_control_of_ne hc] at hempty
    exact (h ⟨hon, hempty⟩).control val

/-- `IPCSYNC` has no bit of `IPCFIFOCNT`. -/
theorem cnt_synchronise (data own : UInt16) (request : Bool) :
    (m.synchronise cpu data own request).cnt = m.cnt := by
  dsimp only [synchronise]
  split_ifs <;> rfl

/-- A write to `IPCSYNC` does not touch the queues. -/
theorem Notified.synchronise (h : m.Notified c) (data own : UInt16) (request : Bool) :
    (m.synchronise cpu data own request).Notified c := by
  intro hdue
  rw [RecvDue, cnt_synchronise, queue_synchronise] at hdue
  exact (h hdue).synchronise data own request

/-- A write to `IPCSYNC` does not touch the queues. -/
theorem Relieved.synchronise (h : m.Relieved c) (data own : UInt16) (request : Bool) :
    (m.synchronise cpu data own request).Relieved c := by
  intro hdue
  rw [SendDoneDue, cnt_synchronise, queue_synchronise] at hdue
  exact (h hdue).synchronise data own request

/-- After every write a processor is interrupted for the words that wait, if it was before. -/
theorem Notified.write (h : m.Notified c) (w : IPCWrite) : (m.write cpu w).Notified c := by
  cases w with
  | sync8 val => exact h.synchronise _ _ _
  | sync16 val => exact h.synchronise _ _ _
  | sync32 val => exact h.synchronise _ _ _
  | cnt16 val => exact h.control val
  | cnt32 val => exact h.control val.toUInt16
  | send8 val => exact h.send _
  | send16 val => exact h.send _
  | send32 val => exact h.send val

/-- Likewise for an empty queue, unless the processor clears it with the interrupt enabled. -/
theorem Relieved.write (h : m.Relieved c) {w : IPCWrite}
    (hclear : c = cpu → w.clears = true → m.cnt c &&& 0x0004 = 0) : (m.write cpu w).Relieved c := by
  cases w with
  | sync8 val => exact h.synchronise _ _ _
  | sync16 val => exact h.synchronise _ _ _
  | sync32 val => exact h.synchronise _ _ _
  | cnt16 val => exact h.control fun hc hval => hclear hc (decide_eq_true hval)
  | cnt32 val => exact h.control fun hc hval => hclear hc (decide_eq_true hval)
  | send8 val => exact h.send _
  | send16 val => exact h.send _
  | send32 val => exact h.send val

end Mailboxes

/-- A processor acknowledges an interrupt. -/
def IPCEvent.Acknowledges {κ : Type} (cpu : Fin 2) (irq : UInt32) (e : IPCEvent κ) : Prop :=
  ∃ val, e = .acknowledge cpu val ∧ val &&& (1 : UInt32) <<< irq ≠ 0

/-- A processor that clears its queue has not enabled the interrupt for it. -/
def IPCMachine.ClearsUnheard {κ : Type} (cpu : Fin 2) (s : IPCMachine κ) (e : IPCEvent κ) : Prop :=
  ∀ w, e = .write cpu w → w.clears = true → s.nds.mailboxes.cnt cpu &&& 0x0004 = 0

namespace NDS

variable {κ : Type} {n n' : NDS κ} {c : Fin 2} {i : UInt32}

/-- An acknowledgement clears bits of `IF` and nothing else. -/
theorem mailboxes_acknowledge (cpu : Fin 2) (val : UInt32) : (n.acknowledge cpu val).mailboxes =
    { n.mailboxes with
      irf := update n.mailboxes.irf cpu (n.mailboxes.irf cpu &&& ~~~val) } := by
  have hirf : (n.acknowledge cpu val).mailboxes.irf =
      update n.mailboxes.irf cpu (n.mailboxes.irf cpu &&& ~~~val) := by
    funext c
    fin_cases cpu <;> fin_cases c <;> simp [acknowledge, mailboxes, updateIRQ, Vector.get_put_of_ne]
  exact Mailboxes.ext rfl rfl rfl hirf

/-- What is not acknowledged stays pending. -/
theorem pending_acknowledge {cpu : Fin 2} {val : UInt32} (h : n.mailboxes.Pending c i)
    (hval : c = cpu → val &&& (1 : UInt32) <<< i = 0) :
    (n.acknowledge cpu val).mailboxes.Pending c i := by
  rw [mailboxes_acknowledge, Mailboxes.Pending]
  dsimp only
  by_cases hc : c = cpu
  · subst hc
    rw [update_self, UInt32.and_not_and (hval rfl)]
    exact h
  · rw [update_of_ne hc]
    exact h

/-- The rest of the console acknowledges no interrupt of the mailboxes. -/
theorem KeepsIPC.pending (h : n.KeepsIPC n')
    (hi : (1 : UInt32) <<< i &&& 0x70000 = (1 : UInt32) <<< i)
    (hpending : n.mailboxes.Pending c i) : n'.mailboxes.Pending c i :=
  UInt32.and_ne_zero_of_covers (h c).2.2.2 hi hpending

/-- The rest of the console leaves the queues alone. -/
theorem KeepsIPC.queue (h : n.KeepsIPC n') : n'.mailboxes.queue = n.mailboxes.queue :=
  funext fun cpu => congrArg FIFO.contents (h cpu).1

/-- The rest of the console leaves `IPCFIFOCNT` alone. -/
theorem KeepsIPC.cnt (h : n.KeepsIPC n') : n'.mailboxes.cnt = n.mailboxes.cnt :=
  funext fun cpu => (h cpu).2.1

end NDS

namespace IPCMachine

variable {κ : Type} {components : Components κ} {s t : IPCMachine κ} {e : IPCEvent κ} {cpu : Fin 2}

/-- The step lemma for the first interrupt. -/
theorem notified_step (hs : s.Law) (h : s.nds.mailboxes.Notified cpu)
    (hack : ¬ e.Acknowledges cpu irqIPCRecv) (hstep : IPCMachine.step components s e = some t) :
    t.nds.mailboxes.Notified cpu := by
  cases e with
  | write c w =>
    obtain ⟨n, hn, -, hwrite⟩ := NDS.writeIPC_eq components c hs.valid w
    rw [IPCMachine.step, hn] at hstep
    obtain rfl := Option.some.inj hstep
    rw [hwrite]
    exact h.write w
  | receive c =>
    obtain ⟨word, n, hn, -, hreceive, -⟩ := NDS.receiveIPC_eq components c hs.valid
    rw [IPCMachine.step, hn] at hstep
    obtain rfl := Option.some.inj hstep
    rw [hreceive]
    exact h.receive
  | acknowledge c val =>
    obtain rfl := Option.some.inj hstep
    intro hdue
    rw [NDS.mailboxes_acknowledge] at hdue
    refine NDS.pending_acknowledge (h hdue) fun hc => ?_
    by_contra hval
    exact hack ⟨val, by rw [hc], hval⟩
  | elsewhere n =>
    rw [IPCMachine.step] at hstep
    split_ifs at hstep with hkeeps
    obtain rfl := Option.some.inj hstep
    intro hdue
    rw [Mailboxes.RecvDue, hkeeps.cnt, hkeeps.queue] at hdue
    exact hkeeps.pending (by decide) (h hdue)

/-- The step lemma for the second one. -/
theorem relieved_step (hs : s.Law) (h : s.nds.mailboxes.Relieved cpu)
    (hack : ¬ e.Acknowledges cpu irqIPCSendDone) (hclears : ClearsUnheard cpu s e)
    (hstep : IPCMachine.step components s e = some t) : t.nds.mailboxes.Relieved cpu := by
  cases e with
  | write c w =>
    obtain ⟨n, hn, -, hwrite⟩ := NDS.writeIPC_eq components c hs.valid w
    rw [IPCMachine.step, hn] at hstep
    obtain rfl := Option.some.inj hstep
    rw [hwrite]
    exact h.write fun hc hw => hclears w (by rw [hc]) hw
  | receive c =>
    obtain ⟨word, n, hn, -, hreceive, -⟩ := NDS.receiveIPC_eq components c hs.valid
    rw [IPCMachine.step, hn] at hstep
    obtain rfl := Option.some.inj hstep
    rw [hreceive]
    exact h.receive
  | acknowledge c val =>
    obtain rfl := Option.some.inj hstep
    intro hdue
    rw [NDS.mailboxes_acknowledge] at hdue
    refine NDS.pending_acknowledge (h hdue) fun hc => ?_
    by_contra hval
    exact hack ⟨val, by rw [hc], hval⟩
  | elsewhere n =>
    rw [IPCMachine.step] at hstep
    split_ifs at hstep with hkeeps
    obtain rfl := Option.some.inj hstep
    intro hdue
    rw [Mailboxes.SendDoneDue, hkeeps.cnt, hkeeps.queue] at hdue
    exact hkeeps.pending (by decide) (h hdue)

/-- A run from a reset. While a processor does not acknowledge it, the interrupt for words that wait
stays pending as long as they do; and so does the interrupt for a queue that has been emptied, where
the processor does not clear its queue with that interrupt enabled. -/
theorem ipc_interrupts_kept (components : Components κ) (n : NDS κ) (pre es : List (IPCEvent κ))
    (hpre : exec (IPCMachine.step components) (reset n) pre = some s)
    (hes : exec (IPCMachine.step components) s es = some t) (cpu : Fin 2) :
    ((∀ e ∈ es, ¬ e.Acknowledges cpu irqIPCRecv) →
        s.nds.mailboxes.Notified cpu → t.nds.mailboxes.Notified cpu) ∧
      (Along (IPCMachine.step components)
          (fun u e => ClearsUnheard cpu u e ∧ ¬ e.Acknowledges cpu irqIPCSendDone) s es →
        s.nds.mailboxes.Relieved cpu → t.nds.mailboxes.Relieved cpu) := by
  have hlaw := law_of_exec hpre
  constructor
  case left =>
    intro hack hs
    have halong : Along (IPCMachine.step components) (fun _ e => ¬ e.Acknowledges cpu irqIPCRecv)
        s es := along_of_forall_mem fun e he _ => hack e he
    have hpreserved : ∀ (u : IPCMachine κ) e v, u.Law ∧ u.nds.mailboxes.Notified cpu →
        ¬ e.Acknowledges cpu irqIPCRecv → IPCMachine.step components u e = some v →
        v.Law ∧ v.nds.mailboxes.Notified cpu :=
      fun u e v hu hack hstep => ⟨hu.1.step hstep, notified_step hu.1 hu.2 hack hstep⟩
    exact (exec_preserves_along hpreserved ⟨hlaw, hs⟩ halong hes).2
  case right =>
    intro halong hs
    have hpreserved : ∀ (u : IPCMachine κ) e v, u.Law ∧ u.nds.mailboxes.Relieved cpu →
        ClearsUnheard cpu u e ∧ ¬ e.Acknowledges cpu irqIPCSendDone →
        IPCMachine.step components u e = some v → v.Law ∧ v.nds.mailboxes.Relieved cpu :=
      fun u e v hu ha hstep => ⟨hu.1.step hstep, relieved_step hu.1 hu.2 ha.2 ha.1 hstep⟩
    exact (exec_preserves_along hpreserved ⟨hlaw, hs⟩ halong hes).2

/-- The conversation, in which both interrupts are raised. -/
theorem ipc_interrupts_kept_conversation :
    ∃ s : IPCMachine Unit,
      exec (IPCMachine.step noComponents) (reset { components := () }) conversation = some s ∧
        s.nds.mailboxes.RecvDue 1 ∧ s.nds.mailboxes.Notified 1 := by
  have hrun : ∃ s : IPCMachine Unit,
      exec (IPCMachine.step noComponents) (reset { components := () }) conversation = some s ∧
        s.nds.mailboxes.RecvDue 1 :=
    ⟨_, rfl, by decide⟩
  obtain ⟨s, hs, hdue⟩ := hrun
  have hack : ∀ e ∈ conversation, ¬ e.Acknowledges 1 irqIPCRecv := by
    rintro e he ⟨val, rfl, -⟩
    simp [conversation] at he
  have hreset : (reset { components := () } : IPCMachine Unit).nds.mailboxes.Notified 1 :=
    fun hdue => absurd hdue (by decide)
  exact ⟨s, hs, hdue, (ipc_interrupts_kept _ _ [] conversation rfl hs 1).1 hack hreset⟩

end IPCMachine

/-! ### The registers -/

namespace Mailboxes

variable {m : Mailboxes} {cpu c : Fin 2}

/-- The registers have no bits but their own, and the data that a processor reads is what the other
one has written. -/
structure Registers (m : Mailboxes) : Prop where
  cnt_and : ∀ cpu : Fin 2, m.cnt cpu &&& 0x3BFB = 0
  sync_data : ∀ cpu : Fin 2, m.sync cpu &&& (0x000F : UInt16) =
    m.sync cpu.rev >>> 8 &&& (0x000F : UInt16)

/-- What a write to the synchronisation register hands to the other processor is in the bits that it
sets in its own register. -/
def SyncData (data own : UInt16) : Prop :=
  data = own >>> 8 &&& (0x000F : UInt16) ∧ own &&& 0xB0FF = 0

/-- A write of one byte to `IPCSYNC` sends its own data. -/
theorem syncData_byte (val : UInt8) :
    SyncData (val &&& 0x0F).toUInt16 ((val &&& 0x4F).toUInt16 <<< 8) := by
  have hbyte : ∀ v : BitVec 8,
      (v &&& 0x0F#8).setWidth 16 = ((v &&& 0x4F#8).setWidth 16 <<< 8) >>> 8 &&& 0x000F#16 ∧
        (v &&& 0x4F#8).setWidth 16 <<< 8 &&& 0xB0FF#16 = 0#16 := by
    set_option maxRecDepth 4000 in decide
  obtain ⟨hdata, hown⟩ := hbyte val.toBitVec
  exact ⟨UInt16.toBitVec_inj.mp hdata, UInt16.toBitVec_inj.mp hown⟩

/-- And so does a write of two. -/
theorem syncData_halfword (val : UInt16) : SyncData ((val &&& 0x0F00) >>> 8) (val &&& 0x4F00) := by
  have hdata : (0x0F00 : UInt16) >>> 8 = (0x4F00 : UInt16) >>> 8 &&& (0x000F : UInt16) := by
    decide
  refine ⟨?_, ?_⟩
  · rw [UInt16.shiftRight_and, UInt16.shiftRight_and, UInt16.and_assoc, hdata]
  · rw [UInt16.and_assoc]
    exact UInt16.and_zero

/-- The registers after a write to the synchronisation register. -/
theorem sync_synchronise (data own : UInt16) (request : Bool) :
    (m.synchronise cpu data own request).sync =
      update (update m.sync cpu.rev ((m.sync cpu.rev &&& 0xFFF0) ||| data)) cpu
        ((m.sync cpu &&& 0xB0FF) ||| own) := by
  have hne : cpu ≠ cpu.rev := (Fin.rev_ne_two cpu).symm
  dsimp only [synchronise]
  split_ifs
  · rw [sync_irq, update_of_ne hne]
  · rw [update_of_ne hne]

/-- A write to `IPCSYNC` writes the data to both registers. -/
theorem Registers.synchronise (h : m.Registers) {data own : UInt16} (hdata : SyncData data own)
    (request : Bool) : (m.synchronise cpu data own request).Registers := by
  obtain ⟨hdata, hown⟩ := hdata
  have hrev : cpu.rev ≠ cpu := Fin.rev_ne_two cpu
  -- the writer's data is the bits from 8 of its own register
  have hwritten (x y : UInt16) : (x &&& (0xFFF0 : UInt16) ||| data) &&& (0x000F : UInt16) =
      (y &&& (0xB0FF : UInt16) ||| own) >>> 8 &&& (0x000F : UInt16) := by
    have hold : x &&& 0xFFF0 &&& 0x000F = 0 := by
      rw [UInt16.and_assoc]
      exact UInt16.and_zero
    have hnew : (y &&& 0xB0FF) >>> 8 &&& (0x000F : UInt16) = 0 := by
      rw [UInt16.shiftRight_and, UInt16.and_assoc]
      exact UInt16.and_zero
    rw [UInt16.shiftRight_or, UInt16.and_or_distrib_right, UInt16.and_or_distrib_right, hold, hnew,
      hdata, UInt16.and_assoc, UInt16.and_self]
  -- what the other one has written stays
  have hkept (x y : UInt16) (h : x &&& (0x000F : UInt16) = y >>> 8 &&& (0x000F : UInt16)) :
      (x &&& (0xB0FF : UInt16) ||| own) &&& (0x000F : UInt16) =
        (y &&& (0xFFF0 : UInt16) ||| data) >>> 8 &&& (0x000F : UInt16) := by
    have hlow : own &&& 0x000F = 0 := by
      calc own &&& 0x000F = (own &&& 0xB0FF) &&& 0x000F := by
            rw [UInt16.and_assoc]
            rfl
        _ = 0 := by rw [hown, UInt16.zero_and]
    have hhigh : data >>> 8 &&& (0x000F : UInt16) = 0 := by
      rw [hdata, UInt16.shiftRight_and, UInt16.and_assoc]
      exact UInt16.and_zero
    rw [UInt16.shiftRight_or, UInt16.and_or_distrib_right, UInt16.and_or_distrib_right, hlow, hhigh,
      UInt16.or_zero, UInt16.or_zero, UInt16.and_assoc, UInt16.shiftRight_and, UInt16.and_assoc]
    exact h
  refine ⟨fun c => ?_, fun c => ?_⟩
  · rw [cnt_synchronise]
    exact h.cnt_and c
  · rw [sync_synchronise]
    by_cases hc : c = cpu
    · subst hc
      rw [update_self, update_of_ne hrev, update_self]
      exact hkept _ _ (h.sync_data c)
    · obtain rfl : c = cpu.rev := by omega
      rw [Fin.rev_rev, update_self, update_of_ne hrev, update_self]
      exact hwritten _ _

/-- `IPCFIFOCNT` has no bit of `IPCSYNC`. -/
theorem sync_control (val : UInt16) : (m.control cpu val).sync = m.sync := by
  dsimp only [control]
  split_ifs <;> rfl

/-- A write to `IPCFIFOCNT` writes the bits of that register only. -/
theorem Registers.control (h : m.Registers) (val : UInt16) : (m.control cpu val).Registers := by
  refine ⟨fun c => ?_, fun c => ?_⟩
  · by_cases hc : c = cpu
    · subst hc
      have hcnt : ∃ error, (m.control c val).cnt c = (val &&& 0x8404) ||| (error &&& 0x4000) :=
        ⟨_, update_self _ _ _⟩
      obtain ⟨error, herror⟩ := hcnt
      rw [herror, UInt16.and_or_distrib_right, UInt16.and_assoc, UInt16.and_assoc,
        UInt16.or_eq_zero_iff]
      exact ⟨UInt16.and_zero, UInt16.and_zero⟩
    · rw [cnt_control_of_ne hc]
      exact h.cnt_and c
  · rw [sync_control]
    exact h.sync_data c

/-- A word that is sent leaves the registers within their bits. -/
theorem Registers.send (h : m.Registers) (word : UInt32) : (m.send cpu word).Registers := by
  refine ⟨fun c => ?_, fun c => ?_⟩
  · rw [cnt_send_and (by decide)]
    exact h.cnt_and c
  · have hsync : (m.send cpu word).sync = m.sync := by
      dsimp only [Mailboxes.send, error]
      split_ifs <;> rfl
    rw [hsync]
    exact h.sync_data c

/-- A word that is taken leaves the registers within their bits. -/
theorem Registers.receive (h : m.Registers) : (m.receive cpu).Registers := by
  refine ⟨fun c => ?_, fun c => ?_⟩
  · rw [cnt_receive_and (by decide)]
    exact h.cnt_and c
  · have hsync : (m.receive cpu).sync = m.sync := by
      dsimp only [Mailboxes.receive, error]
      split_ifs <;> rfl
    rw [hsync]
    exact h.sync_data c

/-- Every write keeps the registers within their bits, and the data with the other processor. -/
theorem Registers.write (h : m.Registers) (w : IPCWrite) : (m.write cpu w).Registers := by
  cases w with
  | sync8 val => exact h.synchronise (syncData_byte val) _
  | sync16 val => exact h.synchronise (syncData_halfword val) _
  | sync32 val => exact h.synchronise (syncData_halfword val.toUInt16) _
  | cnt16 val => exact h.control val
  | cnt32 val => exact h.control val.toUInt16
  | send8 val => exact h.send _
  | send16 val => exact h.send _
  | send32 val => exact h.send val

end Mailboxes

/-- What a processor reads of its control register under a mask that none of its own bits is in. -/
theorem NDS.readIPCFIFOCnt_and {κ : Type} {n : NDS κ} {cpu : Fin 2} {mask : UInt16}
    (hmask : n.ipcFIFOCnt cpu &&& mask = 0) : n.readIPCFIFOCnt cpu &&& mask =
      (if (n.ipcFIFO cpu).isEmpty then 0x0001 else if (n.ipcFIFO cpu).isFull then 0x0002 else 0) &&&
          mask |||
        (if (n.ipcFIFO cpu.rev).isEmpty then 0x0100
          else if (n.ipcFIFO cpu.rev).isFull then 0x0200 else 0) &&& mask := by
  dsimp only [readIPCFIFOCnt]
  split_ifs <;> simp only [UInt16.and_or_distrib_right, hmask, UInt16.zero_or, UInt16.zero_and,
    UInt16.or_zero]

/-- The state of the queues in the control register, as a processor reads it. -/
theorem NDS.readIPCFIFOCnt_spec {κ : Type} {n : NDS κ} (h : n.ValidFIFOs)
    (hregs : n.mailboxes.Registers) (cpu : Fin 2) :
    (n.readIPCFIFOCnt cpu &&& 0x0001 ≠ 0 ↔ (n.ipcFIFO cpu).contents = []) ∧
      (n.readIPCFIFOCnt cpu &&& 0x0002 ≠ 0 ↔ (n.ipcFIFO cpu).contents.length = 16) ∧
      (n.readIPCFIFOCnt cpu &&& 0x0100 ≠ 0 ↔ (n.ipcFIFO cpu.rev).contents = []) ∧
      (n.readIPCFIFOCnt cpu &&& 0x0200 ≠ 0 ↔ (n.ipcFIFO cpu.rev).contents.length = 16) := by
  have hmask {mask : UInt16} (hin : 0x3BFB &&& mask = mask) : n.ipcFIFOCnt cpu &&& mask = 0 := by
    calc n.ipcFIFOCnt cpu &&& mask = (n.mailboxes.cnt cpu &&& 0x3BFB) &&& mask := by
          rw [UInt16.and_assoc, hin]
          rfl
      _ = 0 := by rw [hregs.cnt_and, UInt16.zero_and]
  -- a queue is not both empty and full
  have hnot {c : Fin 2} (hempty : (n.ipcFIFO c).isEmpty = true) :
    ¬ (n.ipcFIFO c).isFull = true := by
    rw [(h c).isFull_iff, (h c).isEmpty_iff.mp hempty]
    decide
  rw [← (h cpu).isEmpty_iff, ← (h cpu).isFull_iff, ← (h cpu.rev).isEmpty_iff,
    ← (h cpu.rev).isFull_iff, readIPCFIFOCnt_and (hmask (by decide)),
    readIPCFIFOCnt_and (hmask (by decide)), readIPCFIFOCnt_and (hmask (by decide)),
    readIPCFIFOCnt_and (hmask (by decide))]
  have hown := @hnot cpu
  have hother := @hnot cpu.rev
  generalize (n.ipcFIFO cpu).isEmpty = ownEmpty at *
  generalize (n.ipcFIFO cpu).isFull = ownFull at *
  generalize (n.ipcFIFO cpu.rev).isEmpty = otherEmpty at *
  generalize (n.ipcFIFO cpu.rev).isFull = otherFull at *
  revert ownEmpty ownFull otherEmpty otherFull
  decide

namespace IPCMachine

variable {κ : Type} {components : Components κ} {s t : IPCMachine κ}

/-- The step lemma. -/
theorem registers_step {e : IPCEvent κ} (hs : s.Law) (h : s.nds.mailboxes.Registers)
    (hstep : IPCMachine.step components s e = some t) : t.nds.mailboxes.Registers := by
  cases e with
  | write c w =>
    obtain ⟨n, hn, -, hwrite⟩ := NDS.writeIPC_eq components c hs.valid w
    rw [IPCMachine.step, hn] at hstep
    obtain rfl := Option.some.inj hstep
    rw [hwrite]
    exact h.write w
  | receive c =>
    obtain ⟨word, n, hn, -, hreceive, -⟩ := NDS.receiveIPC_eq components c hs.valid
    rw [IPCMachine.step, hn] at hstep
    obtain rfl := Option.some.inj hstep
    rw [hreceive]
    exact h.receive
  | acknowledge c val =>
    obtain rfl := Option.some.inj hstep
    exact ⟨h.cnt_and, h.sync_data⟩
  | elsewhere n =>
    rw [IPCMachine.step] at hstep
    split_ifs at hstep with hkeeps
    obtain rfl := Option.some.inj hstep
    have hsync : n.mailboxes.sync = s.nds.mailboxes.sync := funext fun c => (hkeeps c).2.2.1
    refine ⟨fun c => ?_, fun c => ?_⟩
    · rw [hkeeps.cnt]
      exact h.cnt_and c
    · rw [hsync]
      exact h.sync_data c

end IPCMachine

end DSEmu

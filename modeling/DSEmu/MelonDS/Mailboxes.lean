import Mathlib.Tactic.FinCases
import DSEmu.MelonDS.Interrupts
import DSEmu.MelonDS.IPC

/-!
# What the mailboxes do

`Mailboxes` is what the registers of `IPC.lean` are for: two queues of words, the control and the
synchronisation register of each processor, and the interrupts that are raised. On a console whose
queues are valid every access is the access of its mailboxes (`sendIPC_eq`, `receiveIPC_eq`,
`mailboxes_writeIPCFIFOCnt`, `mailboxes_updateIPCSync`), so what holds of a run is read off these.
-/

namespace DSEmu

open scoped Indexed

open Function

/-- The registers between the processors. -/
@[ext] structure Mailboxes where
  /-- the words that a processor has sent and the other one has not taken, the oldest first -/
  queue : Fin 2 → List UInt32
  cnt : Fin 2 → UInt16
  sync : Fin 2 → UInt16
  irf : Fin 2 → UInt32

namespace Mailboxes

/-- An interrupt of the mailboxes. -/
def irq (cpu : Fin 2) (irq : UInt32) (m : Mailboxes) : Mailboxes :=
  { m with irf := update m.irf cpu (m.irf cpu ||| (1 : UInt32) <<< irq) }

/-- A processor sees an error: it has sent to a full queue, or received from an empty one. -/
def error (cpu : Fin 2) (m : Mailboxes) : Mailboxes :=
  { m with cnt := update m.cnt cpu (m.cnt cpu ||| 0x4000) }

/-- Whether a word that a processor sends now gets into its queue. -/
def Accepts (m : Mailboxes) (cpu : Fin 2) : Prop :=
  m.cnt cpu &&& 0x8000 ≠ 0 ∧ (m.queue cpu).length ≠ 16

/-- Whether a processor takes a word when it receives now. -/
def Takes (m : Mailboxes) (cpu : Fin 2) : Prop :=
  m.cnt cpu &&& 0x8000 ≠ 0 ∧ m.queue cpu.rev ≠ []

instance (m : Mailboxes) (cpu : Fin 2) : Decidable (m.Accepts cpu) :=
  inferInstanceAs (Decidable (_ ∧ _))

instance (m : Mailboxes) (cpu : Fin 2) : Decidable (m.Takes cpu) :=
  inferInstanceAs (Decidable (_ ∧ _))

/-- A processor is to be interrupted for words that wait for it. -/
def RecvDue (m : Mailboxes) (cpu : Fin 2) : Prop := m.cnt cpu &&& 0x0400 ≠ 0 ∧ m.queue cpu.rev ≠ []

/-- A processor is to be interrupted since all that it sent has been taken. -/
def SendDoneDue (m : Mailboxes) (cpu : Fin 2) : Prop := m.cnt cpu &&& 0x0004 ≠ 0 ∧ m.queue cpu = []

/-- An interrupt waits for a processor. -/
def Pending (m : Mailboxes) (cpu : Fin 2) (irq : UInt32) : Prop :=
  m.irf cpu &&& (1 : UInt32) <<< irq ≠ 0

instance (m : Mailboxes) (cpu : Fin 2) : Decidable (m.RecvDue cpu) :=
  inferInstanceAs (Decidable (_ ∧ _))

instance (m : Mailboxes) (cpu : Fin 2) : Decidable (m.SendDoneDue cpu) :=
  inferInstanceAs (Decidable (_ ∧ _))

/-- A word that is sent. -/
def send (cpu : Fin 2) (val : UInt32) (m : Mailboxes) : Mailboxes :=
  if m.Accepts cpu then
    let sent := { m with queue := update m.queue cpu (m.queue cpu ++ [val]) }
    if m.cnt cpu.rev &&& 0x0400 ≠ 0 ∧ m.queue cpu = [] then sent.irq cpu.rev irqIPCRecv else sent
  else if m.cnt cpu &&& 0x8000 ≠ 0 then m.error cpu
  else m

/-- A word that is taken from the other processor. -/
def receive (cpu : Fin 2) (m : Mailboxes) : Mailboxes :=
  if m.Takes cpu then
    let taken := { m with queue := update m.queue cpu.rev (m.queue cpu.rev).tail }
    if taken.SendDoneDue cpu.rev then taken.irq cpu.rev irqIPCSendDone else taken
  else if m.cnt cpu &&& 0x8000 ≠ 0 then m.error cpu
  else m

/-- A write to `IPCFIFOCNT`. -/
def control (cpu : Fin 2) (val : UInt16) (m : Mailboxes) : Mailboxes :=
  let m := if val &&& 0x0008 ≠ 0 then { m with queue := update m.queue cpu [] } else m
  let m :=
    if val &&& 0x0004 ≠ 0 ∧ m.cnt cpu &&& 0x0004 = 0 ∧ m.queue cpu = [] then
      m.irq cpu irqIPCSendDone
    else m
  let m :=
    if val &&& 0x0400 ≠ 0 ∧ m.cnt cpu &&& 0x0400 = 0 ∧ m.queue cpu.rev ≠ [] then
      m.irq cpu irqIPCRecv
    else m
  let error := if val &&& 0x4000 ≠ 0 then m.cnt cpu &&& ~~~0x4000 else m.cnt cpu
  { m with cnt := update m.cnt cpu ((val &&& 0x8404) ||| (error &&& 0x4000)) }

/-- A write to `IPCSYNC`. -/
def synchronise (cpu : Fin 2) (data own : UInt16) (request : Bool) (m : Mailboxes) : Mailboxes :=
  let m := { m with sync := update m.sync cpu.rev ((m.sync cpu.rev &&& 0xFFF0) ||| data) }
  let m := { m with sync := update m.sync cpu ((m.sync cpu &&& 0xB0FF) ||| own) }
  if request ∧ m.sync cpu.rev &&& 0x4000 ≠ 0 then m.irq cpu.rev irqIPCSync else m

end Mailboxes

/-! ### The console has mailboxes -/

/-- Of two processors, the other one is another one. -/
@[simp] theorem Fin.rev_ne_two (cpu : Fin 2) : cpu.rev ≠ cpu := by
  fin_cases cpu <;> decide

namespace NDS

variable {κ : Type} (components : Components κ) (cpu : Fin 2) (n : NDS κ)

section Registers

variable (fifo : FIFO UInt32 16) (val : UInt16) (irq : UInt32)

/-- A queue that is written. -/
@[simp] theorem ipcFIFO_setIPCFIFO :
    (n.setIPCFIFO cpu fifo).ipcFIFO = update n.ipcFIFO cpu fifo := by
  funext c
  fin_cases cpu <;> fin_cases c <;> rfl

/-- Writing a queue leaves `IPCFIFOCNT` alone. -/
@[simp] theorem ipcFIFOCnt_setIPCFIFO : (n.setIPCFIFO cpu fifo).ipcFIFOCnt = n.ipcFIFOCnt := by
  fin_cases cpu <;> rfl

/-- Writing a queue leaves `IPCSYNC` alone. -/
@[simp] theorem ipcSync_setIPCFIFO : (n.setIPCFIFO cpu fifo).ipcSync = n.ipcSync := by
  fin_cases cpu <;> rfl

/-- Writing a queue raises no interrupt. -/
@[simp] theorem irf_setIPCFIFO : (n.setIPCFIFO cpu fifo).irf = n.irf := by
  fin_cases cpu <;> rfl

/-- Writing `IPCFIFOCNT` leaves the queues alone. -/
@[simp] theorem ipcFIFO_setIPCFIFOCnt : (n.setIPCFIFOCnt cpu val).ipcFIFO = n.ipcFIFO := by
  fin_cases cpu <;> rfl

/-- One processor's `IPCFIFOCNT` that is written. -/
@[simp] theorem ipcFIFOCnt_setIPCFIFOCnt :
    (n.setIPCFIFOCnt cpu val).ipcFIFOCnt = update n.ipcFIFOCnt cpu val := by
  funext c
  fin_cases cpu <;> fin_cases c <;> rfl

/-- Writing `IPCFIFOCNT` leaves `IPCSYNC` alone. -/
@[simp] theorem ipcSync_setIPCFIFOCnt : (n.setIPCFIFOCnt cpu val).ipcSync = n.ipcSync := by
  fin_cases cpu <;> rfl

/-- Writing `IPCFIFOCNT` raises no interrupt by itself. -/
@[simp] theorem irf_setIPCFIFOCnt : (n.setIPCFIFOCnt cpu val).irf = n.irf := by
  fin_cases cpu <;> rfl

/-- Writing `IPCSYNC` leaves the queues alone. -/
@[simp] theorem ipcFIFO_setIPCSync : (n.setIPCSync cpu val).ipcFIFO = n.ipcFIFO := by
  fin_cases cpu <;> rfl

/-- Writing `IPCSYNC` leaves `IPCFIFOCNT` alone. -/
@[simp] theorem ipcFIFOCnt_setIPCSync : (n.setIPCSync cpu val).ipcFIFOCnt = n.ipcFIFOCnt := by
  fin_cases cpu <;> rfl

/-- One processor's `IPCSYNC` that is written. -/
@[simp] theorem ipcSync_setIPCSync :
    (n.setIPCSync cpu val).ipcSync = update n.ipcSync cpu val := by
  funext c
  fin_cases cpu <;> fin_cases c <;> rfl

/-- Writing `IPCSYNC` raises no interrupt by itself. -/
@[simp] theorem irf_setIPCSync : (n.setIPCSync cpu val).irf = n.irf := by
  fin_cases cpu <;> rfl

/-- `SetIRQ` leaves the queues alone. -/
@[simp] theorem ipcFIFO_setIRQ : (setIRQ components cpu irq n).ipcFIFO = n.ipcFIFO := by
  dsimp only [setIRQ]
  split_ifs <;> rfl

/-- `SetIRQ` leaves `IPCFIFOCNT` alone. -/
@[simp] theorem ipcFIFOCnt_setIRQ : (setIRQ components cpu irq n).ipcFIFOCnt = n.ipcFIFOCnt := by
  dsimp only [setIRQ]
  split_ifs <;> rfl

/-- `SetIRQ` leaves `IPCSYNC` alone. -/
@[simp] theorem ipcSync_setIRQ : (setIRQ components cpu irq n).ipcSync = n.ipcSync := by
  dsimp only [setIRQ]
  split_ifs <;> rfl

end Registers

/-- The mailboxes of a console. -/
def mailboxes : Mailboxes where
  queue cpu := (n.ipcFIFO cpu).contents
  cnt := n.ipcFIFOCnt
  sync := n.ipcSync
  irf cpu := n.irf.get cpu

/-- The queues of a console have been used through their functions. -/
def ValidFIFOs : Prop := ∀ cpu, (n.ipcFIFO cpu).Valid

section Refinement

variable {n} (val : UInt16)

/-- A queue of the console is one of the mailboxes'. -/
@[simp] theorem mailboxes_setIPCFIFO (fifo : FIFO UInt32 16) : (n.setIPCFIFO cpu fifo).mailboxes =
    { n.mailboxes with queue := update n.mailboxes.queue cpu fifo.contents } := by
  have hqueue : (n.setIPCFIFO cpu fifo).mailboxes.queue =
      update n.mailboxes.queue cpu fifo.contents := by
    funext c
    rw [mailboxes, ipcFIFO_setIPCFIFO]
    exact apply_update (fun _ => FIFO.contents) n.ipcFIFO cpu fifo c
  apply Mailboxes.ext hqueue <;> simp [mailboxes]

/-- An `IPCFIFOCNT` of the console is one of the mailboxes'. -/
@[simp] theorem mailboxes_setIPCFIFOCnt : (n.setIPCFIFOCnt cpu val).mailboxes =
    { n.mailboxes with cnt := update n.mailboxes.cnt cpu val } := by
  simp [mailboxes]

/-- An `IPCSYNC` of the console is one of the mailboxes'. -/
@[simp] theorem mailboxes_setIPCSync : (n.setIPCSync cpu val).mailboxes =
    { n.mailboxes with sync := update n.mailboxes.sync cpu val } := by
  simp [mailboxes]

/-- `SetIRQ` of the console is the interrupt of the mailboxes. -/
@[simp] theorem mailboxes_setIRQ (irq : UInt32) :
    (setIRQ components cpu irq n).mailboxes = n.mailboxes.irq cpu irq := by
  have hirf : (setIRQ components cpu irq n).mailboxes.irf = (n.mailboxes.irq cpu irq).irf := by
    funext c
    rw [mailboxes, irf_setIRQ, Mailboxes.irq, mailboxes]
    fin_cases cpu <;> fin_cases c <;> simp [Vector.get_put_of_ne]
  apply Mailboxes.ext _ _ _ hirf <;> simp [mailboxes, Mailboxes.irq]

/-- An interrupt leaves the queues valid. -/
theorem ValidFIFOs.setIRQ (h : n.ValidFIFOs) (irq : UInt32) :
    (setIRQ components cpu irq n).ValidFIFOs := by
  rwa [ValidFIFOs, ipcFIFO_setIRQ]

/-- A control register leaves the queues valid. -/
theorem ValidFIFOs.setIPCFIFOCnt (h : n.ValidFIFOs) : (n.setIPCFIFOCnt cpu val).ValidFIFOs := by
  rwa [ValidFIFOs, ipcFIFO_setIPCFIFOCnt]

/-- Data leave the queues valid. -/
theorem ValidFIFOs.setIPCSync (h : n.ValidFIFOs) : (n.setIPCSync cpu val).ValidFIFOs := by
  rwa [ValidFIFOs, ipcFIFO_setIPCSync]

/-- A valid queue keeps them so. -/
theorem ValidFIFOs.setIPCFIFO (h : n.ValidFIFOs) {fifo : FIFO UInt32 16} (hfifo : fifo.Valid) :
    (n.setIPCFIFO cpu fifo).ValidFIFOs := by
  intro c
  rw [ipcFIFO_setIPCFIFO]
  by_cases hc : c = cpu
  · rwa [hc, update_self]
  · rw [update_of_ne hc]
    exact h c

/-- An interrupt that is raised under a condition. -/
theorem ValidFIFOs.setIRQ_if (h : n.ValidFIFOs) {p q : Prop} [Decidable p] [Decidable q]
    (hpq : p ↔ q) (irq : UInt32) :
    (if p then NDS.setIRQ components cpu irq n else n).ValidFIFOs ∧
      (if p then NDS.setIRQ components cpu irq n else n).mailboxes =
        if q then n.mailboxes.irq cpu irq else n.mailboxes := by
  by_cases hp : p
  · rw [if_pos hp, if_pos (hpq.mp hp)]
    exact ⟨h.setIRQ components cpu irq, mailboxes_setIRQ components cpu irq⟩
  · rw [if_neg hp, if_neg (mt hpq.mpr hp)]
    exact ⟨h, rfl⟩

/-- The queues are valid from a reset on. -/
theorem validFIFOs_resetIPC : n.resetIPC.ValidFIFOs := by
  intro cpu
  fin_cases cpu
  · exact FIFO.valid_clear (by decide) _
  · exact FIFO.valid_clear (by decide) _

/-- A word that is sent. -/
theorem sendIPC_eq (h : n.ValidFIFOs) (word : UInt32) :
    ∃ n', sendIPC components cpu word n = some n' ∧ n'.ValidFIFOs ∧
      n'.mailboxes = n.mailboxes.send cpu word := by
  by_cases hon : n.ipcFIFOCnt cpu &&& 0x8000 ≠ 0
  · by_cases hfull : (n.ipcFIFO cpu).isFull = true
    · have haccepts : ¬ n.mailboxes.Accepts cpu := fun hacc => hacc.2 ((h cpu).isFull_iff.mp hfull)
      refine ⟨_, ?_, h.setIPCFIFOCnt cpu (n.ipcFIFOCnt cpu ||| 0x4000), ?_⟩
      · rw [sendIPC, if_pos hon, if_pos hfull]
      · rw [Mailboxes.send, if_neg haccepts]
        exact (mailboxes_setIPCFIFOCnt cpu _).trans (if_pos hon).symm
    · have haccepts : n.mailboxes.Accepts cpu :=
        ⟨hon, fun hlength => hfull ((h cpu).isFull_iff.mpr hlength)⟩
      obtain ⟨fifo, hwrite, hfifo, hcontents⟩ := FIFO.write_eq (by decide) (h cpu) word
      have happend : fifo.contents = n.mailboxes.queue cpu ++ [word] :=
        hcontents.trans (if_neg haccepts.2)
      have hsent : (n.setIPCFIFO cpu fifo).mailboxes = { n.mailboxes with
          queue := update n.mailboxes.queue cpu (n.mailboxes.queue cpu ++ [word]) } := by
        rw [mailboxes_setIPCFIFO, happend]
      have hcnt : (n.setIPCFIFO cpu fifo).ipcFIFOCnt cpu.rev = n.mailboxes.cnt cpu.rev := by
        rw [ipcFIFOCnt_setIPCFIFO]
        rfl
      have hempty : (n.ipcFIFO cpu).isEmpty = true ↔ n.mailboxes.queue cpu = [] :=
        (h cpu).isEmpty_iff
      have hdue : (n.setIPCFIFO cpu fifo).ipcFIFOCnt cpu.rev &&& 0x0400 ≠ 0 ∧
            (n.ipcFIFO cpu).isEmpty = true ↔
          n.mailboxes.cnt cpu.rev &&& 0x0400 ≠ 0 ∧ n.mailboxes.queue cpu = [] := by
        rw [hcnt]
        exact and_congr_right fun _ => hempty
      obtain ⟨hvalid, hraised⟩ :=
        (h.setIPCFIFO cpu hfifo).setIRQ_if components cpu.rev hdue irqIPCRecv
      refine ⟨_, ?_, hvalid, ?_⟩
      · rw [sendIPC, if_pos hon, if_neg hfull, hwrite]
        dsimp only [Option.bind_eq_bind, Option.bind_some]
        exact (apply_ite some _ _ _).symm
      · rw [hraised, hsent, Mailboxes.send, if_pos haccepts]
  · have haccepts : ¬ n.mailboxes.Accepts cpu := fun hacc => hon hacc.1
    refine ⟨n, ?_, h, ?_⟩
    · rw [sendIPC, if_neg hon]
    · rw [Mailboxes.send, if_neg haccepts]
      exact (if_neg hon).symm

/-- A word that is received: the oldest one, where one is taken. -/
theorem receiveIPC_eq (h : n.ValidFIFOs) :
    ∃ word n', receiveIPC components cpu n = some (word, n') ∧ n'.ValidFIFOs ∧
      n'.mailboxes = n.mailboxes.receive cpu ∧
      (n.mailboxes.Takes cpu → n.mailboxes.queue cpu.rev = word :: n'.mailboxes.queue cpu.rev) := by
  have hempty : (n.ipcFIFO cpu.rev).isEmpty = true ↔ n.mailboxes.queue cpu.rev = [] :=
    (h cpu.rev).isEmpty_iff
  by_cases hon : n.ipcFIFOCnt cpu &&& 0x8000 ≠ 0
  · by_cases hqueue : n.mailboxes.queue cpu.rev = []
    · have htakes : ¬ n.mailboxes.Takes cpu := fun htakes => htakes.2 hqueue
      obtain ⟨word, hpeek⟩ := (h cpu.rev).exists_peek
      refine ⟨word, _, ?_, h.setIPCFIFOCnt cpu (n.ipcFIFOCnt cpu ||| 0x4000), ?_, fun ht =>
        absurd ht htakes⟩
      · rw [receiveIPC, if_pos hon, if_pos (hempty.mpr hqueue)]
        dsimp only
        rw [ipcFIFO_setIPCFIFOCnt, hpeek]
        rfl
      · rw [Mailboxes.receive, if_neg htakes]
        exact (mailboxes_setIPCFIFOCnt cpu _).trans (if_pos hon).symm
    · have htakes : n.mailboxes.Takes cpu := ⟨hon, hqueue⟩
      obtain ⟨word, rest, hcons⟩ := List.exists_cons_of_ne_nil hqueue
      obtain ⟨fifo, hread, hfifo, hcontents⟩ := FIFO.read_eq (by decide) (h cpu.rev) hcons
      have htaken : (n.setIPCFIFO cpu.rev fifo).mailboxes = { n.mailboxes with
          queue := update n.mailboxes.queue cpu.rev (n.mailboxes.queue cpu.rev).tail } := by
        rw [mailboxes_setIPCFIFO, hcontents, hcons]
        rfl
      have hrest : (n.setIPCFIFO cpu.rev fifo).mailboxes.queue cpu.rev = rest := by
        rw [htaken, hcons]
        exact update_self _ _ _
      have hdue : ((n.setIPCFIFO cpu.rev fifo).ipcFIFO cpu.rev).isEmpty = true ∧
            (n.setIPCFIFO cpu.rev fifo).ipcFIFOCnt cpu.rev &&& 0x0004 ≠ 0 ↔
          (n.setIPCFIFO cpu.rev fifo).mailboxes.SendDoneDue cpu.rev := by
        rw [(h.setIPCFIFO cpu.rev hfifo cpu.rev).isEmpty_iff, and_comm]
        rfl
      rw [receiveIPC, if_pos hon, if_neg (mt hempty.mp hqueue), hread, Mailboxes.receive,
        if_pos htakes]
      dsimp only [Option.bind_eq_bind, Option.bind_some]
      rw [← htaken]
      simp only [hdue]
      split_ifs
      · refine ⟨word, _, rfl, (h.setIPCFIFO cpu.rev hfifo).setIRQ components _ _,
          mailboxes_setIRQ components _ _, fun _ => ?_⟩
        rw [mailboxes_setIRQ]
        exact hcons.trans (congrArg _ hrest.symm)
      · exact ⟨word, _, rfl, h.setIPCFIFO cpu.rev hfifo, rfl, fun _ =>
          hcons.trans (congrArg _ hrest.symm)⟩
  · have htakes : ¬ n.mailboxes.Takes cpu := fun htakes => hon htakes.1
    obtain ⟨word, hpeek⟩ := (h cpu.rev).exists_peek
    refine ⟨word, n, ?_, h, ?_, fun ht => absurd ht htakes⟩
    · rw [receiveIPC, if_neg hon, hpeek]
      rfl
    · rw [Mailboxes.receive, if_neg htakes]
      exact (if_neg hon).symm

/-- The console's write to `IPCSYNC` is that of the mailboxes. -/
theorem mailboxes_updateIPCSync (data own : UInt16) (request : Bool) :
    (updateIPCSync components cpu data own request n).mailboxes =
      n.mailboxes.synchronise cpu data own request := by
  simp only [updateIPCSync, Mailboxes.synchronise, ipcSync_setIPCSync, apply_ite mailboxes,
    mailboxes_setIRQ, mailboxes_setIPCSync]
  rfl

/-- It leaves the queues valid. -/
theorem ValidFIFOs.updateIPCSync (h : n.ValidFIFOs) (data own : UInt16) (request : Bool) :
    (updateIPCSync components cpu data own request n).ValidFIFOs := by
  dsimp only [NDS.updateIPCSync]
  split_ifs
  · exact ((h.setIPCSync cpu.rev _).setIPCSync cpu _).setIRQ components _ _
  · exact (h.setIPCSync cpu.rev _).setIPCSync cpu _

/-- A write to the control register. -/
theorem writeIPCFIFOCnt_spec (h : n.ValidFIFOs) :
    (writeIPCFIFOCnt components cpu val n).ValidFIFOs ∧
      (writeIPCFIFOCnt components cpu val n).mailboxes = n.mailboxes.control cpu val := by
  dsimp only [writeIPCFIFOCnt, Mailboxes.control]
  -- the console after each of the four tests, and its mailboxes
  generalize hcleared : (if val &&& 0x0008 ≠ 0 then n.setIPCFIFO cpu (n.ipcFIFO cpu).clear else n) =
    cleared
  have hcleared : cleared.ValidFIFOs ∧ cleared.mailboxes = if val &&& 0x0008 ≠ 0 then
      { n.mailboxes with queue := update n.mailboxes.queue cpu [] } else n.mailboxes := by
    rw [← hcleared]
    split_ifs
    · refine ⟨h.setIPCFIFO cpu (FIFO.valid_clear (by decide) _), ?_⟩
      rw [mailboxes_setIPCFIFO, FIFO.contents_clear]
    · exact ⟨h, rfl⟩
  rw [← hcleared.2]
  have hvalid := hcleared.1
  have hempty (c : Fin 2) : (cleared.ipcFIFO c).isEmpty = true ↔ cleared.mailboxes.queue c = [] :=
    (hvalid c).isEmpty_iff
  have hsentDue : val &&& 0x0004 ≠ 0 ∧ cleared.ipcFIFOCnt cpu &&& 0x0004 = 0 ∧
        (cleared.ipcFIFO cpu).isEmpty = true ↔
      val &&& 0x0004 ≠ 0 ∧ cleared.mailboxes.cnt cpu &&& 0x0004 = 0 ∧
        cleared.mailboxes.queue cpu = [] :=
    and_congr_right fun _ => and_congr_right fun _ => hempty cpu
  obtain ⟨hvalid, hsent⟩ := hvalid.setIRQ_if components cpu hsentDue irqIPCSendDone
  rw [← hsent]
  generalize (if val &&& 0x0004 ≠ 0 ∧ cleared.ipcFIFOCnt cpu &&& 0x0004 = 0 ∧
    (cleared.ipcFIFO cpu).isEmpty = true then setIRQ components cpu irqIPCSendDone cleared
    else cleared) = sent at hvalid ⊢
  have hrecvDue : val &&& 0x0400 ≠ 0 ∧ sent.ipcFIFOCnt cpu &&& 0x0400 = 0 ∧
        (!(sent.ipcFIFO cpu.rev).isEmpty) = true ↔
      val &&& 0x0400 ≠ 0 ∧ sent.mailboxes.cnt cpu &&& 0x0400 = 0 ∧
        sent.mailboxes.queue cpu.rev ≠ [] := by
    rw [Bool.not_eq_true', Bool.eq_false_iff]
    exact and_congr_right fun _ => and_congr_right fun _ => (hvalid cpu.rev).isEmpty_iff.not
  obtain ⟨hvalid, hrecv⟩ := hvalid.setIRQ_if components cpu hrecvDue irqIPCRecv
  rw [← hrecv]
  generalize (if val &&& 0x0400 ≠ 0 ∧ sent.ipcFIFOCnt cpu &&& 0x0400 = 0 ∧
    (!(sent.ipcFIFO cpu.rev).isEmpty) = true then setIRQ components cpu irqIPCRecv sent
    else sent) = recv at hvalid ⊢
  split_ifs
  · refine ⟨(hvalid.setIPCFIFOCnt cpu _).setIPCFIFOCnt cpu _, ?_⟩
    simp only [mailboxes_setIPCFIFOCnt, ipcFIFOCnt_setIPCFIFOCnt, update_self, update_idem]
    rfl
  · exact ⟨hvalid.setIPCFIFOCnt cpu _, mailboxes_setIPCFIFOCnt cpu _⟩

end Refinement

end NDS

/-! ### Writes of every width -/

/-- The word that a write sends. -/
def IPCWrite.word : IPCWrite → Option UInt32
  | .send8 val =>
    some (val.toUInt32 ||| val.toUInt32 <<< 8 ||| val.toUInt32 <<< 16 ||| val.toUInt32 <<< 24)
  | .send16 val => some (val.toUInt32 ||| val.toUInt32 <<< 16)
  | .send32 val => some val
  | _ => none

/-- A write clears the queue of its processor. -/
def IPCWrite.clears : IPCWrite → Bool
  | .cnt16 val => val &&& 0x0008 ≠ 0
  | .cnt32 val => val.toUInt16 &&& 0x0008 ≠ 0
  | _ => false

namespace Mailboxes

variable (m : Mailboxes) (cpu : Fin 2)

/-- A write, to the mailboxes. -/
def write : IPCWrite → Mailboxes
  | .sync8 val =>
    m.synchronise cpu (val &&& 0x0F).toUInt16 ((val &&& 0x4F).toUInt16 <<< 8) (val &&& 0x20 ≠ 0)
  | .sync16 val =>
    m.synchronise cpu ((val &&& 0x0F00) >>> 8) (val &&& 0x4F00) (val &&& 0x2000 ≠ 0)
  | .sync32 val =>
    let val := val.toUInt16
    m.synchronise cpu ((val &&& 0x0F00) >>> 8) (val &&& 0x4F00) (val &&& 0x2000 ≠ 0)
  | .cnt16 val => m.control cpu val
  | .cnt32 val => m.control cpu val.toUInt16
  | .send8 val =>
    m.send cpu (val.toUInt32 ||| val.toUInt32 <<< 8 ||| val.toUInt32 <<< 16 ||| val.toUInt32 <<< 24)
  | .send16 val => m.send cpu (val.toUInt32 ||| val.toUInt32 <<< 16)
  | .send32 val => m.send cpu val

/-- The words that a write puts into the queue of its processor: at most one. -/
def accepted (w : IPCWrite) : List UInt32 := if m.Accepts cpu then w.word.toList else []

/-- The words that a write takes out of the queue of its processor without anybody having them. -/
def discarded (w : IPCWrite) : List UInt32 := if w.clears then m.queue cpu else []

end Mailboxes

/-- The simulation: every write of the console succeeds and is one of the mailboxes. -/
theorem NDS.writeIPC_eq {κ : Type} (components : Components κ) (cpu : Fin 2) {n : NDS κ}
    (h : n.ValidFIFOs) (w : IPCWrite) :
    ∃ n', n.writeIPC components cpu w = some n' ∧ n'.ValidFIFOs ∧
      n'.mailboxes = n.mailboxes.write cpu w := by
  cases w with
  | sync8 val =>
    exact ⟨_, rfl, h.updateIPCSync _ _ _ _ _, mailboxes_updateIPCSync _ _ _ _ _⟩
  | sync16 val =>
    exact ⟨_, rfl, h.updateIPCSync _ _ _ _ _, mailboxes_updateIPCSync _ _ _ _ _⟩
  | sync32 val =>
    exact ⟨_, rfl, h.updateIPCSync _ _ _ _ _, mailboxes_updateIPCSync _ _ _ _ _⟩
  | cnt16 val => exact ⟨_, rfl, writeIPCFIFOCnt_spec components cpu val h⟩
  | cnt32 val => exact ⟨_, rfl, writeIPCFIFOCnt_spec components cpu val.toUInt16 h⟩
  | send8 val => exact sendIPC_eq components cpu h _
  | send16 val => exact sendIPC_eq components cpu h _
  | send32 val => exact sendIPC_eq components cpu h val

end DSEmu

import DSEmu.Library.BitSet
import DSEmu.Library.Indexed
import DSEmu.MelonDS.NDS

/-!
# The scheduler

`ScheduleEvent`, `CancelEvent` and `RunSystem` of `src/NDS.cpp` of melonDS. There are sixteen
events; each waits for one time at most. `RunSystem` calls the functions of those whose time has
come, in the order of their numbers, and these may schedule and cancel events themselves: which
calls a function makes is not looked at (`calls`).

`SchedulerMachine` keeps the books. In every run what was scheduled has been run once or cancelled,
in its order, or waits, and no function is called before its time (`Law`); and what waits behind a
pass of `RunSystem` although its time has come was scheduled in this pass (`runSystem_settles`). The
pass looks at a copy of the mask: a function that cancels an event behind its own, whose time has
come as well, does not keep the function of that event from being called (`runSystem_calls`). Such
calls are in the books as `stray`.
-/

namespace DSEmu

open BitSet (hasBit bit)
open Function (update update_self update_of_ne)

/-- `Event_Div`. -/
def eventDiv : Fin 16 := ⟨8, by decide⟩

/-- `Event_Sqrt`. -/
def eventSqrt : Fin 16 := ⟨9, by decide⟩

/-- A call of `ScheduleEvent` or `CancelEvent`. -/
inductive SchedCall where
  | schedule (curCPU : Fin 2) (arm9ClockShift : UInt64) (id : Fin 16) (periodic : Bool)
    (delay : Int32)
      (funcID param : UInt32)
  | cancel (id : Fin 16)

/-- The event that is scheduled or cancelled. -/
def SchedCall.id : SchedCall → Fin 16
  | .schedule _ _ id _ _ _ _ => id
  | .cancel id => id

namespace NDSG

/-- `Reschedule`. -/
def reschedule (curCPU : Fin 2) (arm9ClockShift target : UInt64) (n : NDSG) : NDSG :=
  if curCPU.val = 0 then
    if target < n.arm9Target >>> arm9ClockShift then
      { n with arm9Target := target <<< arm9ClockShift }
    else n
  else if target < n.arm7Target then { n with arm7Target := target }
  else n

/-- The time for which `ScheduleEvent` schedules an event. -/
def eventTime (curCPU : Fin 2) (arm9ClockShift : UInt64) (id : Fin 16) (periodic : Bool)
    (delay : Int32)
    (n : NDSG) : UInt64 :=
  if periodic then (n.schedList.get id).timestamp + delay.toInt64.toUInt64
  else if curCPU.val = 0 then (n.arm9Timestamp >>> arm9ClockShift) + delay.toInt64.toUInt64
  else n.arm7Timestamp + delay.toInt64.toUInt64

/-- `ScheduleEvent`. -/
def scheduleEvent (curCPU : Fin 2) (arm9ClockShift : UInt64) (id : Fin 16) (periodic : Bool)
    (delay : Int32) (funcID param : UInt32) (n : NDSG) : NDSG :=
  if hasBit n.schedListMask id.val then n
  else
    let timestamp := n.eventTime curCPU arm9ClockShift id periodic delay
    reschedule curCPU arm9ClockShift timestamp
      { n with
        schedList := n.schedList.put id ⟨timestamp, funcID, param⟩
        schedListMask := n.schedListMask ||| bit id.val }

/-- `CancelEvent`. -/
def cancelEvent (id : Fin 16) (n : NDSG) : NDSG :=
  { n with schedListMask := n.schedListMask &&& ~~~bit id.val }

/-- A call, in the console. -/
def call (n : NDSG) : SchedCall → NDSG
  | .schedule curCPU arm9ClockShift id periodic delay funcID param =>
    n.scheduleEvent curCPU arm9ClockShift id periodic delay funcID param
  | .cancel id => n.cancelEvent id

/-- The body of the loop of `RunSystem`, where `mask` is the copy of the mask. -/
def runEvent (calls : Fin 16 → List SchedCall) (mask : UInt32) (n : NDSG) (i : Fin 16) : NDSG :=
  if hasBit mask i.val ∧ (n.schedList.get i).timestamp ≤ n.sysTimestamp then
    (calls i).foldl call (n.cancelEvent i)
  else n

/-- `RunSystem`. Its loop ends early where no bit of the mask is left. -/
def runSystem (calls : Fin 16 → List SchedCall) (timestamp : UInt64) (n : NDSG) : NDSG :=
  (List.finRange 16).foldl (runEvent calls n.schedListMask) { n with sysTimestamp := timestamp }

/-- What an event waits for. -/
def waiting (n : NDSG) (i : Fin 16) : List SchedEvent :=
  if hasBit n.schedListMask i.val then [n.schedList.get i] else []

section Waiting

variable {n : NDSG} {i j : Fin 16}

/-- `Reschedule` changes the targets of the processors only. -/
theorem reschedule_eq (curCPU : Fin 2) (arm9ClockShift target : UInt64) (n : NDSG) :
    (n.reschedule curCPU arm9ClockShift target).schedList = n.schedList ∧
      (n.reschedule curCPU arm9ClockShift target).schedListMask = n.schedListMask ∧
      (n.reschedule curCPU arm9ClockShift target).sysTimestamp = n.sysTimestamp := by
  unfold reschedule
  split <;> split <;> exact ⟨rfl, rfl, rfl⟩

/-- `CancelEvent` takes one event out of the mask. -/
theorem hasBit_cancelEvent (n : NDSG) (i j : Fin 16) :
    hasBit (n.cancelEvent i).schedListMask j.val =
      (hasBit n.schedListMask j.val && !decide (j = i)) := by
  have hi : i.val < 32 := by omega
  have hdec : decide (j.val = i.val) = decide (j = i) := decide_eq_decide.mpr Fin.val_inj
  rw [cancelEvent, BitSet.hasBit_and_not_bit _ hi, hdec]

/-- Behind `ScheduleEvent` an event is in the mask, whether it was before or not. -/
theorem hasBit_scheduleEvent (curCPU : Fin 2) (arm9ClockShift : UInt64) (i : Fin 16)
    (periodic : Bool)
    (delay : Int32) (funcID param : UInt32) (n : NDSG) (j : Fin 16) :
    hasBit (n.scheduleEvent curCPU arm9ClockShift i periodic delay funcID param).schedListMask
      j.val =
      (hasBit n.schedListMask j.val || decide (j = i)) := by
  have hi : i.val < 32 := by omega
  have hdec : decide (j.val = i.val) = decide (j = i) := decide_eq_decide.mpr Fin.val_inj
  rw [scheduleEvent]
  split
  case isTrue h =>
    by_cases hj : j = i
    · rw [hj, h, Bool.true_or]
    · rw [decide_eq_false hj, Bool.or_false]
  case isFalse =>
    rw [(reschedule_eq _ _ _ _).2.1, ← hdec]
    exact BitSet.hasBit_or_bit _ hi

/-- An event in the mask waits for what its slot says. -/
theorem waiting_of_hasBit (h : hasBit n.schedListMask i.val = true) :
    n.waiting i = [n.schedList.get i] :=
  if_pos h

/-- An event that is not in the mask waits for nothing. -/
theorem waiting_of_not_hasBit (h : hasBit n.schedListMask i.val = false) : n.waiting i = [] := by
  rw [waiting, h]
  rfl

/-- An event that waits for nothing is not in the mask. -/
theorem not_hasBit_of_waiting (h : n.waiting i = []) : hasBit n.schedListMask i.val = false := by
  cases hbit : hasBit n.schedListMask i.val with
  | true =>
    rw [waiting_of_hasBit hbit] at h
    exact absurd h (List.cons_ne_nil _ _)
  | false => rfl

/-- What an event waits for is in its slot, and the event in the mask. -/
theorem mem_waiting_iff {e : SchedEvent} :
    e ∈ n.waiting i ↔ hasBit n.schedListMask i.val = true ∧ e = n.schedList.get i := by
  cases hbit : hasBit n.schedListMask i.val with
  | true =>
    rw [waiting_of_hasBit hbit, List.mem_singleton]
    exact (and_iff_right rfl).symm
  | false =>
    rw [waiting_of_not_hasBit hbit]
    exact iff_of_false List.not_mem_nil fun h => Bool.false_ne_true h.1

/-- An event that is cancelled waits no more. -/
theorem waiting_cancelEvent_self (n : NDSG) (i : Fin 16) : (n.cancelEvent i).waiting i = [] := by
  apply waiting_of_not_hasBit
  rw [hasBit_cancelEvent, decide_eq_true rfl, Bool.not_true, Bool.and_false]

/-- The other events wait for what they did. -/
theorem waiting_cancelEvent_of_ne (h : j ≠ i) : (n.cancelEvent i).waiting j = n.waiting j := by
  have hbit : hasBit (n.cancelEvent i).schedListMask j.val = hasBit n.schedListMask j.val := by
    rw [hasBit_cancelEvent, decide_eq_false h, Bool.not_false, Bool.and_true]
  rw [waiting, waiting, hbit]
  rfl

variable (curCPU : Fin 2) (arm9ClockShift : UInt64) (periodic : Bool) (delay : Int32)
  (funcID param : UInt32)

/-- `ScheduleEvent` refuses an event that waits already. -/
theorem scheduleEvent_of_hasBit (h : hasBit n.schedListMask i.val = true) :
    n.scheduleEvent curCPU arm9ClockShift i periodic delay funcID param = n := if_pos h

/-- An event that is scheduled while it does not wait. -/
theorem waiting_scheduleEvent (h : hasBit n.schedListMask i.val = false) (j : Fin 16) :
    (n.scheduleEvent curCPU arm9ClockShift i periodic delay funcID param).waiting j =
      if j = i then [⟨n.eventTime curCPU arm9ClockShift i periodic delay, funcID, param⟩]
      else n.waiting j := by
  have hnot : ¬ hasBit n.schedListMask i.val = true := by
    rw [h]
    exact Bool.false_ne_true
  have hlist : (n.scheduleEvent curCPU arm9ClockShift i periodic delay funcID param).schedList =
      n.schedList.put i ⟨n.eventTime curCPU arm9ClockShift i periodic delay, funcID, param⟩ := by
    rw [scheduleEvent, if_neg hnot]
    exact (reschedule_eq _ _ _ _).1
  rw [waiting, hasBit_scheduleEvent, hlist]
  by_cases hj : j = i
  · subst hj
    rw [decide_eq_true rfl, Bool.or_true, if_pos rfl, if_pos rfl, Vector.get_put_self]
  · rw [decide_eq_false hj, Bool.or_false, if_neg hj, waiting, Vector.get_put_of_ne (Ne.symm hj)]

/-- The slots of the other events are left alone. -/
theorem get_scheduleEvent_of_ne (h : j ≠ i) :
    (n.scheduleEvent curCPU arm9ClockShift i periodic delay funcID param).schedList.get j =
      n.schedList.get j := by
  rw [scheduleEvent]
  split
  · rfl
  · rw [(reschedule_eq _ _ _ _).1]
    exact Vector.get_put_of_ne (Ne.symm h) _

/-- The calls of the scheduler do not move its time. -/
theorem sysTimestamp_call (n : NDSG) (c : SchedCall) :
    (n.call c).sysTimestamp = n.sysTimestamp := by
  cases c with
  | schedule curCPU arm9ClockShift id periodic delay funcID param =>
    rw [call, scheduleEvent]
    split
    · rfl
    · exact (reschedule_eq _ _ _ _).2.2
  | cancel id => rfl

/-- Nor does an event of a pass. -/
theorem sysTimestamp_runEvent (calls : Fin 16 → List SchedCall) (mask : UInt32) (n : NDSG)
    (i : Fin 16) :
    (n.runEvent calls mask i).sysTimestamp = n.sysTimestamp := by
  unfold runEvent
  split
  · refine List.foldlRecOn (motive := fun t => t.sysTimestamp = n.sysTimestamp) (calls i) call
      (b := n.cancelEvent i) rfl fun t ht c _ => ?_
    rw [sysTimestamp_call, ht]
  · rfl

/-- Only `CancelEvent` takes an event out of the mask. -/
theorem hasBit_call {c : SchedCall} (hc : c ≠ .cancel j)
    (hj : hasBit n.schedListMask j.val = true) :
    hasBit (n.call c).schedListMask j.val = true := by
  cases c with
  | schedule => rw [call, hasBit_scheduleEvent, hj, Bool.true_or]
  | cancel id =>
    have hne : j ≠ id := fun heq => hc (by rw [heq])
    rw [call, hasBit_cancelEvent, hj, decide_eq_false hne]
    rfl

end Waiting

end NDSG

/-! ### The books -/

/-- How the wait for an event ends. -/
inductive EventEnd where
  /-- `RunSystem` has called the function of the event, at this time. -/
  | ran (event : SchedEvent) (timestamp : UInt64)
  | cancelled (event : SchedEvent)

/-- What has ended. -/
def EventEnd.event : EventEnd → SchedEvent
  | ran event _ => event
  | cancelled event => event

/-- A call of the function of an event that no longer waited, and when it was made. -/
structure StrayCall where
  id : Fin 16
  event : SchedEvent
  timestamp : UInt64

/-- A console, with what it was to wait for, how these waits have ended, and the calls of functions
whose events no longer waited. -/
structure SchedulerMachine where
  nds : NDSG
  accepted : Fin 16 → List SchedEvent
  ended : Fin 16 → List EventEnd := fun _ => []
  stray : List StrayCall := []

/-- What happens to the scheduler between a reset and the next: a call from anywhere in the console,
the clocks of the processors, or a pass. -/
inductive SchedulerEvent where
  | call (c : SchedCall)
  | clock (arm9Timestamp arm9Target arm7Timestamp arm7Target : UInt64)
  | runSystem (calls : Fin 16 → List SchedCall) (timestamp : UInt64)

namespace SchedulerMachine

/-- Empty books, over a console in which events may wait already. -/
def start (n : NDSG) : SchedulerMachine := { nds := n, accepted := n.waiting }

/-- An event waits no longer. -/
def finish (m : SchedulerMachine) (i : Fin 16) (how : SchedEvent → EventEnd) : SchedulerMachine :=
  { m with
    nds := m.nds.cancelEvent i
    ended := update m.ended i (m.ended i ++ (m.nds.waiting i).map how) }

/-- A call, in the books: it is entered there if it is accepted. -/
def call (m : SchedulerMachine) : SchedCall → SchedulerMachine
  | .schedule curCPU arm9ClockShift id periodic delay funcID param =>
    { m with
      nds := m.nds.scheduleEvent curCPU arm9ClockShift id periodic delay funcID param
      accepted :=
        if hasBit m.nds.schedListMask id.val then m.accepted
        else
          let timestamp := m.nds.eventTime curCPU arm9ClockShift id periodic delay
          update m.accepted id (m.accepted id ++ [⟨timestamp, funcID, param⟩]) }
  | .cancel id => m.finish id .cancelled

/-- A pass takes up an event, which may be one that waits no longer. -/
def take (m : SchedulerMachine) (i : Fin 16) : SchedulerMachine :=
  { m.finish i (.ran · m.nds.sysTimestamp) with
    stray :=
      if hasBit m.nds.schedListMask i.val then m.stray
      else m.stray ++ [⟨i, m.nds.schedList.get i, m.nds.sysTimestamp⟩] }

/-- The body of the loop of `RunSystem`, in the books. -/
def runEvent (calls : Fin 16 → List SchedCall) (mask : UInt32) (m : SchedulerMachine) (i : Fin 16) :
    SchedulerMachine :=
  if hasBit mask i.val ∧ (m.nds.schedList.get i).timestamp ≤ m.nds.sysTimestamp then
    (calls i).foldl call (m.take i)
  else m

/-- `RunSystem`, in the books. -/
def runSystem (calls : Fin 16 → List SchedCall) (timestamp : UInt64) (m : SchedulerMachine) :
    SchedulerMachine :=
  (List.finRange 16).foldl (runEvent calls m.nds.schedListMask)
    { m with nds := { m.nds with sysTimestamp := timestamp } }

/-- A call from elsewhere, or a pass. -/
def step (m : SchedulerMachine) : SchedulerEvent → SchedulerMachine
  | .call c => m.call c
  | .clock arm9Timestamp arm9Target arm7Timestamp arm7Target =>
    { m with
      nds := { m.nds with
        arm9Timestamp := arm9Timestamp
        arm9Target := arm9Target
        arm7Timestamp := arm7Timestamp
        arm7Target := arm7Target } }
  | .runSystem calls timestamp => m.runSystem calls timestamp

/-- A run. -/
def exec (n : NDSG) (events : List SchedulerEvent) : SchedulerMachine := events.foldl step (start n)

variable {m m' : SchedulerMachine} {calls : Fin 16 → List SchedCall} {mask : UInt32} {i j : Fin 16}

/-! The books leave the console alone. -/

/-- The books do not matter to the console. -/
theorem nds_call (m : SchedulerMachine) (c : SchedCall) : (m.call c).nds = m.nds.call c := by
  cases c <;> rfl

/-- Nor in an event of a pass. -/
theorem nds_runEvent (calls : Fin 16 → List SchedCall) (mask : UInt32) (m : SchedulerMachine)
    (i : Fin 16) : (m.runEvent calls mask i).nds = m.nds.runEvent calls mask i := by
  unfold runEvent NDSG.runEvent
  split
  · exact (List.foldl_hom SchedulerMachine.nds fun m c => (nds_call m c).symm).symm
  · rfl

/-- Nor in a whole pass. -/
theorem nds_runSystem (calls : Fin 16 → List SchedCall) (timestamp : UInt64)
    (m : SchedulerMachine) :
    (m.runSystem calls timestamp).nds = m.nds.runSystem calls timestamp :=
  (List.foldl_hom SchedulerMachine.nds fun m i => (nds_runEvent calls _ m i).symm).symm

/-! ### What was scheduled has been run once or cancelled, or waits -/

/-- The waits for an event have ended in the order in which they began, all but the last one; and no
function was called before the time of its event. -/
structure Law (m : SchedulerMachine) : Prop where
  accepted_eq : ∀ i, m.accepted i = (m.ended i).map EventEnd.event ++ m.nds.waiting i
  due : ∀ i e t, EventEnd.ran e t ∈ m.ended i → e.timestamp ≤ t
  stray_due : ∀ c ∈ m.stray, c.event.timestamp ≤ c.timestamp

/-- The law holds where the books are opened. -/
theorem law_start (n : NDSG) : (start n).Law where
  accepted_eq _ := rfl
  due _ _ _ h := absurd h List.not_mem_nil
  stray_due _ h := absurd h List.not_mem_nil

/-- A change of the console that leaves the events alone. -/
theorem Law.of_waiting_eq (h : m.Law) {n : NDSG} (hn : n.waiting = m.nds.waiting) :
    ({ m with nds := n } : SchedulerMachine).Law where
  accepted_eq i := by
    rw [hn]
    exact h.accepted_eq i
  due := h.due
  stray_due := h.stray_due

/-- What ends is entered behind what ended before. -/
theorem ended_finish_self (m : SchedulerMachine) (i : Fin 16) (how : SchedEvent → EventEnd) :
    (m.finish i how).ended i = m.ended i ++ (m.nds.waiting i).map how := update_self _ _ _

/-- The books of the other events stay. -/
theorem ended_finish_of_ne (m : SchedulerMachine) (h : j ≠ i) (how : SchedEvent → EventEnd) :
    (m.finish i how).ended j = m.ended j := update_of_ne h _ _

/-- An event that ends, in one way or the other, was waiting. -/
theorem Law.finish (h : m.Law) {how : SchedEvent → EventEnd} (hevent : ∀ e, (how e).event = e)
    (hdue : ∀ e ∈ m.nds.waiting i, ∀ t, how e = .ran e t → e.timestamp ≤ t) :
    (m.finish i how).Law where
  accepted_eq j := by
    by_cases hj : j = i
    · subst hj
      have hid : EventEnd.event ∘ how = id := funext hevent
      have hnone : (m.finish j how).nds.waiting j = [] := m.nds.waiting_cancelEvent_self j
      rw [hnone, ended_finish_self, List.append_nil, List.map_append, List.map_map, hid,
        List.map_id]
      exact h.accepted_eq j
    · have hsame : (m.finish i how).nds.waiting j = m.nds.waiting j :=
        NDSG.waiting_cancelEvent_of_ne hj
      rw [hsame, ended_finish_of_ne m hj]
      exact h.accepted_eq j
  due j e t hran := by
    by_cases hj : j = i
    · subst hj
      rw [ended_finish_self] at hran
      obtain hold | hnew := List.mem_append.mp hran
      · exact h.due j e t hold
      · obtain ⟨e', hwait, heq⟩ := List.mem_map.mp hnew
        have hsame : e' = e := by
          rw [← hevent e', heq]
          rfl
        subst hsame
        exact hdue e' hwait t heq
    · rw [ended_finish_of_ne m hj] at hran
      exact h.due j e t hran
  stray_due := h.stray_due

/-- A call from anywhere keeps the law. -/
theorem Law.call (h : m.Law) (c : SchedCall) : (m.call c).Law := by
  cases c with
  | schedule curCPU arm9ClockShift id periodic delay funcID param =>
    refine ⟨fun j => ?_, h.due, h.stray_due⟩
    dsimp only [SchedulerMachine.call]
    cases hbit : hasBit m.nds.schedListMask id.val with
    | true =>
      rw [if_pos rfl, NDSG.scheduleEvent_of_hasBit _ _ _ _ _ _ hbit]
      exact h.accepted_eq j
    | false =>
      rw [if_neg Bool.false_ne_true, NDSG.waiting_scheduleEvent _ _ _ _ _ _ hbit]
      by_cases hj : j = id
      · subst hj
        rw [update_self, if_pos rfl, h.accepted_eq, NDSG.waiting_of_not_hasBit hbit,
          List.append_nil]
      · rw [update_of_ne hj, if_neg hj]
        exact h.accepted_eq j
  | cancel id => exact h.finish (fun _ => rfl) fun _ _ _ hran => EventEnd.noConfusion hran

/-- An event that waits is taken up as it should be. -/
theorem stray_take_of_hasBit (h : hasBit m.nds.schedListMask i.val = true) :
    (m.take i).stray = m.stray := if_pos h

/-- An event that waits no longer is taken up all the same. -/
theorem stray_take (h : hasBit m.nds.schedListMask i.val = false) :
    (m.take i).stray = m.stray ++ [⟨i, m.nds.schedList.get i, m.nds.sysTimestamp⟩] := by
  rw [take, h]
  rfl

/-- So does an event of a pass. -/
theorem Law.runEvent (h : m.Law) (calls : Fin 16 → List SchedCall) (mask : UInt32) (i : Fin 16) :
    (m.runEvent calls mask i).Law := by
  unfold SchedulerMachine.runEvent
  split
  case isTrue hrun =>
    have hfinish : (m.finish i (.ran · m.nds.sysTimestamp)).Law := by
      refine h.finish (fun _ => rfl) fun e he t ht => ?_
      obtain ⟨-, rfl⟩ := EventEnd.ran.inj ht
      rw [(NDSG.mem_waiting_iff.mp he).2]
      exact hrun.2
    have htake : (m.take i).Law := by
      refine ⟨hfinish.accepted_eq, hfinish.due, fun c hc => ?_⟩
      cases hbit : hasBit m.nds.schedListMask i.val with
      | true =>
        rw [stray_take_of_hasBit hbit] at hc
        exact h.stray_due c hc
      | false =>
        rw [stray_take hbit, List.mem_append, List.mem_singleton] at hc
        obtain hc | rfl := hc
        · exact h.stray_due c hc
        · exact hrun.2
    exact List.foldlRecOn (motive := Law) (calls i) SchedulerMachine.call htake fun _ ht c _ =>
      ht.call c
  case isFalse => exact h

/-- The step lemma. -/
theorem Law.step (h : m.Law) (e : SchedulerEvent) : (m.step e).Law := by
  cases e with
  | call c => exact h.call c
  | clock => exact h.of_waiting_eq rfl
  | runSystem calls timestamp =>
    have hstart := h.of_waiting_eq (n := { m.nds with sysTimestamp := timestamp }) rfl
    exact List.foldlRecOn (motive := Law) _ _ hstart fun _ ht i _ => ht.runEvent calls _ i

/-- The run lemma. -/
theorem law_exec (n : NDSG) (events : List SchedulerEvent) : (exec n events).Law :=
  List.foldlRecOn (motive := Law) events step (law_start n) fun _ h e _ => h.step e

/-! ### What is due does not wait behind a pass -/

/-- The books only grow. Where nothing new is scheduled for an event, its slot is as before, and it
waits as before or no longer. -/
structure Grows (i : Fin 16) (m m' : SchedulerMachine) : Prop where
  accepted : ∃ new, m'.accepted i = m.accepted i ++ new ∧
    (new = [] → m'.nds.schedList.get i = m.nds.schedList.get i ∧
      (m'.nds.waiting i = m.nds.waiting i ∨ m'.nds.waiting i = []))
  ended : m.ended i <+: m'.ended i
  stray : m.stray <+: m'.stray

namespace Grows

variable {m'' : SchedulerMachine}

/-- Nothing happens. -/
theorem refl (i : Fin 16) (m : SchedulerMachine) : Grows i m m :=
  ⟨⟨[], (List.append_nil _).symm, fun _ => ⟨rfl, Or.inl rfl⟩⟩, List.prefix_refl _,
    List.prefix_refl _⟩

/-- One thing after another. -/
theorem trans (h : Grows i m m') (h' : Grows i m' m'') : Grows i m m'' := by
  refine ⟨?_, h.ended.trans h'.ended, h.stray.trans h'.stray⟩
  obtain ⟨new, haccepted, hwaiting⟩ := h.accepted
  obtain ⟨new', haccepted', hwaiting'⟩ := h'.accepted
  refine ⟨new ++ new', by rw [haccepted', haccepted, List.append_assoc], fun hnil => ?_⟩
  obtain ⟨hnew, hnew'⟩ := List.append_eq_nil_iff.mp hnil
  obtain ⟨hslot, hbefore⟩ := hwaiting hnew
  obtain ⟨hslot', hsame | hnone⟩ := hwaiting' hnew'
  · rw [hslot', hsame]
    exact ⟨hslot, hbefore⟩
  · exact ⟨hslot'.trans hslot, Or.inr hnone⟩

/-- A wait that ends is one more in the books. -/
theorem finish (m : SchedulerMachine) (i j : Fin 16) (how : SchedEvent → EventEnd) :
    Grows i m (m.finish j how) := by
  refine ⟨⟨[], (List.append_nil _).symm, fun _ => ⟨rfl, ?_⟩⟩, ?_, List.prefix_refl _⟩
  · by_cases hi : i = j
    · subst hi
      exact Or.inr (m.nds.waiting_cancelEvent_self i)
    · exact Or.inl (NDSG.waiting_cancelEvent_of_ne hi)
  · by_cases hi : i = j
    · subst hi
      rw [ended_finish_self]
      exact List.prefix_append _ _
    · rw [ended_finish_of_ne m hi]

/-- A call is accepted, or changes nothing, or cancels. -/
theorem call (i : Fin 16) (m : SchedulerMachine) (c : SchedCall) : Grows i m (m.call c) := by
  cases c with
  | schedule curCPU arm9ClockShift id periodic delay funcID param =>
    refine ⟨?_, List.prefix_refl _, List.prefix_refl _⟩
    dsimp only [SchedulerMachine.call]
    cases hbit : hasBit m.nds.schedListMask id.val with
    | true =>
      rw [if_pos rfl, NDSG.scheduleEvent_of_hasBit _ _ _ _ _ _ hbit]
      exact (refl i m).accepted
    | false =>
      rw [if_neg Bool.false_ne_true, NDSG.waiting_scheduleEvent _ _ _ _ _ _ hbit]
      by_cases hi : i = id
      · subst hi
        rw [update_self]
        exact ⟨_, rfl, fun hnil => absurd hnil (List.cons_ne_nil _ _)⟩
      · rw [update_of_ne hi, if_neg hi, NDSG.get_scheduleEvent_of_ne _ _ _ _ _ _ hi]
        exact (refl i m).accepted
  | cancel id => exact finish m i id _

/-- The calls of a function. -/
theorem foldl_call (i : Fin 16) (m : SchedulerMachine) (cs : List SchedCall) :
    Grows i m (cs.foldl SchedulerMachine.call m) :=
  List.foldlRecOn (motive := Grows i m) cs SchedulerMachine.call (refl i m) fun m' h c _ =>
    h.trans (call i m' c)

/-- An event that is taken up is one more that has run, or one more stray call. -/
theorem take (i : Fin 16) (m : SchedulerMachine) (j : Fin 16) : Grows i m (m.take j) := by
  have hfinish : Grows i m (m.finish j (.ran · m.nds.sysTimestamp)) := finish m i j _
  refine ⟨hfinish.accepted, hfinish.ended, ?_⟩
  cases hbit : hasBit m.nds.schedListMask j.val with
  | true => rw [stray_take_of_hasBit hbit]
  | false =>
    rw [stray_take hbit]
    exact List.prefix_append _ _

/-- One event of a pass. -/
theorem runEvent (i : Fin 16) (calls : Fin 16 → List SchedCall) (mask : UInt32)
    (m : SchedulerMachine)
    (j : Fin 16) : Grows i m (m.runEvent calls mask j) := by
  unfold SchedulerMachine.runEvent
  split
  · exact (take i m j).trans (foldl_call i (m.take j) (calls j))
  · exact refl i m

/-- Some of the events of a pass. -/
theorem foldl_runEvent (i : Fin 16) (calls : Fin 16 → List SchedCall) (mask : UInt32)
    (m : SchedulerMachine) (js : List (Fin 16)) :
    Grows i m (js.foldl (SchedulerMachine.runEvent calls mask) m) :=
  List.foldlRecOn (motive := Grows i m) js (SchedulerMachine.runEvent calls mask) (refl i m)
    fun m' h j _ => h.trans (runEvent i calls mask m' j)

end Grows

/-- What an event waits for that waits for no more than before. -/
theorem mem_of_waiting {e : SchedEvent}
    (h : m'.nds.waiting i = m.nds.waiting i ∨ m'.nds.waiting i = []) (he : e ∈ m'.nds.waiting i) :
    e ∈ m.nds.waiting i := by
  obtain hsame | hnone := h
  · rwa [hsame] at he
  · rw [hnone] at he
    exact absurd he List.not_mem_nil

/-- An event that is run waits no more. -/
theorem waiting_take_self (m : SchedulerMachine) (i : Fin 16) : (m.take i).nds.waiting i = [] :=
  m.nds.waiting_cancelEvent_self i

/-- A pass reaches an event that waits since before it and whose time has come. -/
theorem waiting_runEvent_self {e : SchedEvent} (calls : Fin 16 → List SchedCall)
    (hmask : hasBit mask i.val = true) (hwait : e ∈ m.nds.waiting i)
    (hdue : e.timestamp ≤ m.nds.sysTimestamp) :
    ∃ new, (m.runEvent calls mask i).accepted i = m.accepted i ++ new ∧
      (new = [] → (m.runEvent calls mask i).nds.waiting i = []) := by
  rw [(NDSG.mem_waiting_iff.mp hwait).2] at hdue
  rw [runEvent, if_pos ⟨hmask, hdue⟩]
  obtain ⟨new, haccepted, hwaiting⟩ := (Grows.foldl_call i (m.take i) (calls i)).accepted
  refine ⟨new, haccepted, fun hnew => ?_⟩
  rw [waiting_take_self, or_self] at hwaiting
  exact (hwaiting hnew).2

/-- All events of a pass are compared with one time. -/
theorem sysTimestamp_foldl_runEvent (calls : Fin 16 → List SchedCall) (mask : UInt32)
    (m : SchedulerMachine) (js : List (Fin 16)) :
    (js.foldl (runEvent calls mask) m).nds.sysTimestamp = m.nds.sysTimestamp := by
  refine List.foldlRecOn
    (motive := fun t : SchedulerMachine => t.nds.sysTimestamp = m.nds.sysTimestamp)
    js (runEvent calls mask) rfl fun t ht j _ => ?_
  rw [nds_runEvent, NDSG.sysTimestamp_runEvent, ht]

/-- What waits behind a pass although its time has come was scheduled in the pass. -/
theorem runSystem_settles {e : SchedEvent} {timestamp : UInt64}
    (hwait : e ∈ (m.runSystem calls timestamp).nds.waiting i) (hdue : e.timestamp ≤ timestamp) :
    ∃ new, new ≠ [] ∧ (m.runSystem calls timestamp).accepted i = m.accepted i ++ new := by
  obtain ⟨before, after, hsplit⟩ := List.append_of_mem (List.mem_finRange i)
  rw [runSystem, hsplit, List.foldl_append, List.foldl_cons] at hwait ⊢
  -- The events before this one, this one, and those behind it.
  set m₀ : SchedulerMachine := { m with nds := { m.nds with sysTimestamp := timestamp } }
  set mask := m.nds.schedListMask
  set m₁ := before.foldl (runEvent calls mask) m₀ with hm₁
  set m₂ := m₁.runEvent calls mask i
  obtain ⟨new₁, haccepted₁, hwaiting₁⟩ := (Grows.foldl_runEvent i calls mask m₀ before).accepted
  obtain ⟨new₂, haccepted₂, hwaiting₂⟩ := (Grows.runEvent i calls mask m₁ i).accepted
  obtain ⟨new₃, haccepted₃, hwaiting₃⟩ := (Grows.foldl_runEvent i calls mask m₂ after).accepted
  refine ⟨new₁ ++ (new₂ ++ new₃), fun hnil => ?_, ?_⟩
  · simp only [List.append_eq_nil_iff] at hnil
    obtain ⟨hnew₁, hnew₂, hnew₃⟩ := hnil
    -- Since nothing is new, it has waited all along.
    have hwait₂ : e ∈ m₂.nds.waiting i := mem_of_waiting (hwaiting₃ hnew₃).2 hwait
    have hwait₁ : e ∈ m₁.nds.waiting i := mem_of_waiting (hwaiting₂ hnew₂).2 hwait₂
    have hwait₀ : e ∈ m₀.nds.waiting i := mem_of_waiting (hwaiting₁ hnew₁).2 hwait₁
    have hnow : m₁.nds.sysTimestamp = timestamp := sysTimestamp_foldl_runEvent calls mask m₀ before
    rw [← hnow] at hdue
    obtain ⟨new, haccepted, hwaiting⟩ := waiting_runEvent_self calls
      (NDSG.mem_waiting_iff.mp hwait₀).1 hwait₁ hdue
    have hnew : new = [] := by
      rw [← hnew₂]
      exact List.append_cancel_left (haccepted.symm.trans haccepted₂)
    rw [show m₂.nds.waiting i = [] from hwaiting hnew] at hwait₂
    exact List.not_mem_nil hwait₂
  · rw [haccepted₃, haccepted₂, haccepted₁, List.append_assoc, List.append_assoc]

/-! ### What is due is called in the pass -/

/-- The waits for an event that end are cancelled. -/
def Cancels (i : Fin 16) (m m' : SchedulerMachine) : Prop :=
  ∃ new, m'.ended i = m.ended i ++ new ∧ ∀ how ∈ new, how = .cancelled how.event

namespace Cancels

/-- Nothing happens. -/
theorem refl (i : Fin 16) (m : SchedulerMachine) : Cancels i m m :=
  ⟨[], (List.append_nil _).symm, nofun⟩

/-- One thing after another. -/
theorem trans {m'' : SchedulerMachine} (h : Cancels i m m') (h' : Cancels i m' m'') :
    Cancels i m m'' := by
  obtain ⟨new, hended, hcancelled⟩ := h
  obtain ⟨new', hended', hcancelled'⟩ := h'
  refine ⟨new ++ new', by rw [hended', hended, List.append_assoc], fun how hhow => ?_⟩
  exact (List.mem_append.mp hhow).elim (hcancelled how) (hcancelled' how)

/-- A call cancels the event, or leaves it alone. -/
theorem call (i : Fin 16) (m : SchedulerMachine) (c : SchedCall) : Cancels i m (m.call c) := by
  cases c with
  | schedule => exact refl i m
  | cancel id =>
    by_cases hi : i = id
    · subst hi
      refine ⟨_, ended_finish_self m i _, fun how hhow => ?_⟩
      obtain ⟨e, -, rfl⟩ := List.mem_map.mp hhow
      rfl
    · exact ⟨[], (ended_finish_of_ne m hi _).trans (List.append_nil _).symm, nofun⟩

/-- The function of another event only cancels. -/
theorem runEvent (calls : Fin 16 → List SchedCall) (mask : UInt32) (m : SchedulerMachine)
    (hij : i ≠ j) : Cancels i m (m.runEvent calls mask j) := by
  unfold SchedulerMachine.runEvent
  split
  · have htake : Cancels i m (m.take j) :=
      ⟨[], (ended_finish_of_ne m hij _).trans (List.append_nil _).symm, nofun⟩
    exact List.foldlRecOn (motive := Cancels i m) (calls j) SchedulerMachine.call htake
      fun m' h c _ => h.trans (call i m' c)
  · exact refl i m

/-- The events of a pass other than this one. -/
theorem foldl_runEvent (calls : Fin 16 → List SchedCall) (mask : UInt32) (m : SchedulerMachine)
    {js : List (Fin 16)} (hjs : i ∉ js) :
    Cancels i m (js.foldl (SchedulerMachine.runEvent calls mask) m) :=
  List.foldlRecOn (motive := Cancels i m) js (SchedulerMachine.runEvent calls mask) (refl i m)
    fun m' h _ hj => h.trans (runEvent calls mask m' fun heq => hjs (heq ▸ hj))

end Cancels

/-- The wait for an event that nothing new was scheduled for has ended, and once. -/
theorem Law.ended_of_waiting {e : SchedEvent} (h : m.Law) (h' : m'.Law)
    (hwait : m.nds.waiting i = [e]) (hsame : m'.accepted i = m.accepted i) :
    (m'.ended i).length + (m'.nds.waiting i).length = (m.ended i).length + 1 := by
  have hlength :=
    congrArg List.length ((h'.accepted_eq i).symm.trans (hsame.trans (h.accepted_eq i)))
  rw [hwait, List.length_append, List.length_append, List.length_map, List.length_map] at hlength
  exact hlength

/-- A pass from `m` to `m'` that schedules nothing for an event, at the turn `m₁` of the event: up
to it the event has been cancelled at most, and from the call of its function on the books only
grow. -/
structure Turn (i : Fin 16) (timestamp : UInt64) (m m₁ m' : SchedulerMachine) : Prop where
  law : m₁.Law
  now : m₁.nds.sysTimestamp = timestamp
  accepted : m₁.accepted i = m.accepted i
  slot : m₁.nds.schedList.get i = m.nds.schedList.get i
  waiting : m₁.nds.waiting i = m.nds.waiting i ∨ m₁.nds.waiting i = []
  grows : Grows i m m₁
  cancels : Cancels i m m₁
  rest : Grows i (m₁.take i) m'

/-- Each event that waits and whose time has come has its turn. -/
theorem exists_turn {timestamp : UInt64} (h : m.Law)
    (hbit : hasBit m.nds.schedListMask i.val = true)
    (hdue : (m.nds.schedList.get i).timestamp ≤ timestamp)
    (hsame : (m.runSystem calls timestamp).accepted i = m.accepted i) :
    ∃ m₁, Turn i timestamp m m₁ (m.runSystem calls timestamp) := by
  obtain ⟨before, after, hsplit⟩ := List.append_of_mem (List.mem_finRange i)
  have hbefore : i ∉ before := by
    have hnodup := List.nodup_finRange 16
    rw [hsplit] at hnodup
    exact fun hmem => (List.disjoint_of_nodup_append hnodup) hmem List.mem_cons_self
  rw [runSystem, hsplit, List.foldl_append, List.foldl_cons] at hsame ⊢
  set m₀ : SchedulerMachine := { m with nds := { m.nds with sysTimestamp := timestamp } }
  set mask := m.nds.schedListMask
  have hlaw₀ : m₀.Law := h.of_waiting_eq rfl
  have hlaw₁ : (before.foldl (runEvent calls mask) m₀).Law :=
    List.foldlRecOn (motive := Law) before _ hlaw₀ fun _ ht _ _ => ht.runEvent calls mask _
  have hgrows₁ := Grows.foldl_runEvent i calls mask m₀ before
  have hcancels := Cancels.foldl_runEvent calls mask m₀ hbefore
  have hnow : (before.foldl (runEvent calls mask) m₀).nds.sysTimestamp = timestamp :=
    sysTimestamp_foldl_runEvent calls mask m₀ before
  generalize before.foldl (runEvent calls mask) m₀ = m₁ at *
  have hgrows₂ := Grows.runEvent i calls mask m₁ i
  have hgrows₃ := Grows.foldl_runEvent i calls mask (m₁.runEvent calls mask i) after
  -- Nothing is scheduled for the event before its turn, as nothing is in the whole pass.
  have hturn : m₁.accepted i = m.accepted i ∧ m₁.nds.schedList.get i = m.nds.schedList.get i ∧
      (m₁.nds.waiting i = m.nds.waiting i ∨ m₁.nds.waiting i = []) := by
    obtain ⟨new₁, haccepted₁, hwaiting₁⟩ := hgrows₁.accepted
    obtain ⟨new₂, haccepted₂, -⟩ := hgrows₂.accepted
    obtain ⟨new₃, haccepted₃, -⟩ := hgrows₃.accepted
    have hnil : new₁ ++ (new₂ ++ new₃) = [] := by
      rw [haccepted₃, haccepted₂, haccepted₁, List.append_assoc, List.append_assoc] at hsame
      exact List.append_right_eq_self.mp hsame
    have hnew := (List.append_eq_nil_iff.mp hnil).1
    refine ⟨?_, hwaiting₁ hnew⟩
    rw [haccepted₁, hnew, List.append_nil]
  obtain ⟨haccepted, hslot, hwaiting⟩ := hturn
  have hrun : m₁.runEvent calls mask i = (calls i).foldl call (m₁.take i) := by
    refine if_pos ⟨hbit, ?_⟩
    rw [hslot, hnow]
    exact hdue
  have hrest := (Grows.foldl_call i (m₁.take i) (calls i)).trans (hrun ▸ hgrows₃)
  rw [← hrun] at hrest
  have hgrows : Grows i m m₁ := ⟨hgrows₁.accepted, hgrows₁.ended, hgrows₁.stray⟩
  exact ⟨m₁, hlaw₁, hnow, haccepted, hslot, hwaiting, hgrows, hcancels, hrest⟩

namespace Turn

variable {m₁ : SchedulerMachine} {timestamp : UInt64} {e : SchedEvent}

/-- An event that waits until its turn is run. -/
theorem ended_of_waiting (ht : Turn i timestamp m m₁ m') (h : m.Law)
    (hwait : m.nds.waiting i = [e]) (hstill : m₁.nds.waiting i = [e])
    (hlength : (m'.ended i).length ≤ (m.ended i).length + 1) :
    m'.ended i = m.ended i ++ [.ran e timestamp] := by
  have hended : m₁.ended i = m.ended i := by
    have hlength₁ := h.ended_of_waiting ht.law hwait ht.accepted
    rw [hstill] at hlength₁
    exact (ht.grows.ended.eq_of_length (Nat.add_right_cancel hlength₁).symm).symm
  have htake : (m₁.take i).ended i = m.ended i ++ [.ran e timestamp] := by
    refine (ended_finish_self m₁ i _).trans ?_
    rw [hended, hstill, ht.now]
    rfl
  have hentries := ht.rest.ended
  rw [htake] at hentries
  refine (hentries.eq_of_length_le ?_).symm
  rw [List.length_append, List.length_singleton]
  exact hlength

/-- An event that waits no more at its turn has been cancelled, once. -/
theorem ended_of_cancelled (ht : Turn i timestamp m m₁ m') (h : m.Law)
    (hwait : m.nds.waiting i = [e]) (hnone : m₁.nds.waiting i = [])
    (hlength : (m'.ended i).length ≤ (m.ended i).length + 1) :
    m'.ended i = m.ended i ++ [.cancelled e] := by
  obtain ⟨new, hended, hcancelled⟩ := ht.cancels
  have hnew : new = [.cancelled e] := by
    have hevents : new.map EventEnd.event = [e] := by
      have haccepted := (ht.law.accepted_eq i).symm.trans (ht.accepted.trans (h.accepted_eq i))
      rw [hnone, hwait, List.append_nil, hended, List.map_append] at haccepted
      exact List.append_cancel_left haccepted
    obtain ⟨how, rfl, hevent⟩ := List.map_eq_singleton_iff.mp hevents
    rw [hcancelled how (List.mem_singleton_self how), hevent]
  have hentries := ((Grows.take i m₁ i).trans ht.rest).ended
  rw [hended, hnew] at hentries
  refine (hentries.eq_of_length_le ?_).symm
  rw [List.length_append, List.length_singleton]
  exact hlength

/-- Its function is called all the same. -/
theorem stray_of_cancelled (ht : Turn i timestamp m m₁ m') (hnone : m₁.nds.waiting i = []) :
    ∃ new, m'.stray = m.stray ++ new ∧ ⟨i, m.nds.schedList.get i, timestamp⟩ ∈ new := by
  have hstray : (m₁.take i).stray = m₁.stray ++ [⟨i, m.nds.schedList.get i, timestamp⟩] := by
    rw [stray_take (NDSG.not_hasBit_of_waiting hnone), ht.slot, ht.now]
  obtain ⟨front, hfront⟩ := ht.grows.stray
  obtain ⟨back, hback⟩ := ht.rest.stray
  refine ⟨front ++ ([⟨i, m.nds.schedList.get i, timestamp⟩] ++ back), ?_,
    List.mem_append_right _ (List.mem_append_left _ (List.mem_singleton_self _))⟩
  rw [← hback, hstray, ← hfront]
  simp only [List.append_assoc]

end Turn

/-- In a pass the function of each event is called that waits and whose time has come, unless it is
scheduled anew: also of one that the function of another event has cancelled before. -/
theorem runSystem_calls {e : SchedEvent} {timestamp : UInt64} (h : m.Law)
    (hwait : e ∈ m.nds.waiting i) (hdue : e.timestamp ≤ timestamp)
    (hsame : (m.runSystem calls timestamp).accepted i = m.accepted i) :
    (m.runSystem calls timestamp).ended i = m.ended i ++ [.ran e timestamp] ∨
      (m.runSystem calls timestamp).ended i = m.ended i ++ [.cancelled e] ∧
        ∃ new, (m.runSystem calls timestamp).stray = m.stray ++ new ∧ ⟨i, e, timestamp⟩ ∈ new := by
  obtain ⟨hbit, rfl⟩ := NDSG.mem_waiting_iff.mp hwait
  have hone : m.nds.waiting i = [m.nds.schedList.get i] := NDSG.waiting_of_hasBit hbit
  have hlength : ((m.runSystem calls timestamp).ended i).length ≤ (m.ended i).length + 1 :=
    Nat.le_of_add_right_le
      (h.ended_of_waiting (h.step (.runSystem calls timestamp)) hone hsame).le
  obtain ⟨m₁, ht⟩ := exists_turn h hbit hdue hsame
  obtain hstill | hnone := ht.waiting
  · exact .inl (ht.ended_of_waiting h hone (hstill.trans hone) hlength)
  · exact .inr ⟨ht.ended_of_cancelled h hone hnone hlength, ht.stray_of_cancelled hnone⟩

/-- A call for another event is no entry for this one. -/
theorem accepted_call {c : SchedCall} (hc : c.id ≠ i) : (m.call c).accepted i = m.accepted i := by
  cases c with
  | schedule curCPU arm9ClockShift id periodic delay funcID param =>
    dsimp only [call]
    split
    · rfl
    · exact update_of_ne (Ne.symm hc) _ _
  | cancel id => rfl

/-- A pass in which no function calls for the event has no entry for it. -/
theorem accepted_runSystem {timestamp : UInt64} (hcalls : ∀ j, ∀ c ∈ calls j, c.id ≠ i) :
    (m.runSystem calls timestamp).accepted i = m.accepted i := by
  refine List.foldlRecOn (motive := fun t : SchedulerMachine => t.accepted i = m.accepted i)
    (List.finRange 16) (runEvent calls m.nds.schedListMask)
    (b := { m with nds := { m.nds with sysTimestamp := timestamp } }) rfl fun t ht j _ => ?_
  unfold runEvent
  split
  · refine List.foldlRecOn (motive := fun t : SchedulerMachine => t.accepted i = m.accepted i)
      (calls j) call (b := t.take j) ht fun t ht c hc => ?_
    rw [accepted_call (hcalls j c hc), ht]
  · exact ht

/-! ### Cancelled events whose functions are called -/

/-- The functions cancel no event that comes after their own. -/
def CancelsBackwards (calls : Fin 16 → List SchedCall) : Prop :=
  ∀ i j, SchedCall.cancel j ∈ calls i → j ≤ i

/-- No call is astray. -/
theorem stray_call (m : SchedulerMachine) (c : SchedCall) : (m.call c).stray = m.stray := by
  cases c <;> rfl

/-- An event of the copy that is in the mask still is not run astray. -/
theorem stray_runEvent (h : hasBit mask i.val = true → hasBit m.nds.schedListMask i.val = true) :
    (m.runEvent calls mask i).stray = m.stray := by
  unfold runEvent
  split
  case isTrue hrun =>
    have htake : (m.take i).stray = m.stray := stray_take_of_hasBit (h hrun.1)
    refine List.foldlRecOn (motive := fun t => t.stray = m.stray)
      (calls i) call htake fun t ht c _ => ?_
    rw [stray_call, ht]
  case isFalse => rfl

/-- A function that cancels backwards leaves the events behind its own in the mask. -/
theorem hasBit_runEvent (hcalls : CancelsBackwards calls) (hij : i < j)
    (hj : hasBit m.nds.schedListMask j.val = true) :
    hasBit (m.runEvent calls mask i).nds.schedListMask j.val = true := by
  rw [nds_runEvent]
  unfold NDSG.runEvent
  split
  · refine List.foldlRecOn (motive := fun t => hasBit t.schedListMask j.val = true)
      (calls i) NDSG.call
      ?_ fun t ht c hc => ?_
    · have hne : SchedCall.cancel i ≠ .cancel j :=
        fun heq => absurd (SchedCall.cancel.inj heq) hij.ne
      exact NDSG.hasBit_call hne hj
    · refine NDSG.hasBit_call (fun heq => ?_) ht
      subst heq
      exact absurd (hcalls i j hc) (Nat.not_le.mpr hij)
  · exact hj

/-- Over the events that a pass has still to come to. -/
theorem stray_foldl_runEvent (hcalls : CancelsBackwards calls) {js : List (Fin 16)}
    (hjs : js.Pairwise (· < ·))
    (h : ∀ j ∈ js, hasBit mask j.val = true → hasBit m.nds.schedListMask j.val = true) :
    (js.foldl (runEvent calls mask) m).stray = m.stray := by
  induction js generalizing m with
  | nil => rfl
  | cons i js ih =>
    obtain ⟨hi, hjs⟩ := List.pairwise_cons.mp hjs
    have hlater : ∀ j ∈ js, hasBit mask j.val = true →
        hasBit (m.runEvent calls mask i).nds.schedListMask j.val = true := fun j hj hmask =>
      hasBit_runEvent hcalls (hi j hj) (h j (List.mem_cons_of_mem i hj) hmask)
    rw [List.foldl_cons, ih hjs hlater, stray_runEvent (h i List.mem_cons_self)]

/-- So no function is called astray in a pass. -/
theorem stray_runSystem (hcalls : CancelsBackwards calls) (timestamp : UInt64)
    (m : SchedulerMachine) :
    (m.runSystem calls timestamp).stray = m.stray :=
  stray_foldl_runEvent (m := { m with nds := { m.nds with sysTimestamp := timestamp } }) hcalls
    (List.pairwise_lt_finRange 16) fun _ _ hmask => hmask

/-- Nor in a run. -/
theorem stray_exec (n : NDSG) {events : List SchedulerEvent}
    (hcalls : ∀ calls timestamp, .runSystem calls timestamp ∈ events → CancelsBackwards calls) :
    (exec n events).stray = [] := by
  have hstart : (start n).stray = [] := rfl
  refine List.foldlRecOn (motive := fun m => m.stray = []) events step hstart fun m hm e he => ?_
  cases e with
  | call c => rw [step, stray_call, hm]
  | clock => exact hm
  | runSystem calls timestamp =>
    rw [step, stray_runSystem (hcalls calls timestamp he), hm]

/-- In every run: the books add up; what waits behind the next pass although its time has come was
scheduled in this pass; the function of an event that waits for it, and that nothing new is
scheduled for, is called in it even where the event is cancelled before; and no function is called
for an event that waits no longer, if the functions cancel no event behind their own. -/
theorem scheduler_spec (n : NDSG) (events : List SchedulerEvent) :
    (exec n events).Law ∧
      (∀ calls timestamp i e, e ∈ ((exec n events).nds.runSystem calls timestamp).waiting i →
        e.timestamp ≤ timestamp →
          ∃ new, new ≠ [] ∧
            ((exec n events).runSystem calls timestamp).accepted i =
              (exec n events).accepted i ++ new) ∧
      (∀ calls timestamp i e, e ∈ (exec n events).nds.waiting i → e.timestamp ≤ timestamp →
        ((exec n events).runSystem calls timestamp).accepted i = (exec n events).accepted i →
          ((exec n events).runSystem calls timestamp).ended i =
            (exec n events).ended i ++ [.ran e timestamp] ∨
          ((exec n events).runSystem calls timestamp).ended i =
              (exec n events).ended i ++ [.cancelled e] ∧
            ∃ new, ((exec n events).runSystem calls timestamp).stray =
                (exec n events).stray ++ new ∧
              ⟨i, e, timestamp⟩ ∈ new) ∧
      ((∀ calls timestamp, .runSystem calls timestamp ∈ events → CancelsBackwards calls) →
        (exec n events).stray = []) := by
  refine ⟨law_exec n events, fun calls timestamp i e hwait hdue => ?_,
    fun calls timestamp i e hwait hdue hsame => ?_, stray_exec n⟩
  · rw [← nds_runSystem] at hwait
    exact runSystem_settles hwait hdue
  · exact runSystem_calls (law_exec n events) hwait hdue hsame

/-- The function of the event 0 cancels the event 1, which is due as well. -/
example :
    (exec {}
      [.call (.schedule 0 0 0 false 5 0 0), .call (.schedule 0 0 1 false 5 0 0),
        .runSystem (fun i => if i.val = 0 then [.cancel 1] else []) 5]).stray.map
          (fun c => (c.id, c.event.timestamp, c.timestamp)) = [(1, 5, 5)] := by
  decide

end SchedulerMachine

end DSEmu

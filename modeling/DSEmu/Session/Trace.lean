import Mathlib.Algebra.Ring.Nat
import Mathlib.Data.List.Basic
import DSEmu.Session.Session

/-!
# What a trace of a session's main thread says

The lists that the statements about runs speak of: the messages sent and received, the messages
taken from the inbox, the inputs asked for, and the frames stepped. Each is a `filterMap` of the
trace, so it grows at the end as the trace does.

`Scheduled` says that a list of stepped frames is the frames 1, 2, …, n, each stepped with a digest
asked for exactly when the schedule asks for it.
-/

namespace DSEmu

open Duplex (Operation sentMessages receivedMessages attemptedMessages)

/-- A call of `stepFrame`, with the role's number of the frame. -/
structure SteppedFrame where
  frame : UInt64
  input : DSInputFrame
  needsDigest : Bool
  digest : Option EmulatorDigest
  deriving DecidableEq, Repr

namespace SessionEvent

/-- The frame that an event has stepped. -/
def stepped? : SessionEvent → Option SteppedFrame
  | stepped frame input needsDigest digest => some ⟨frame, input, needsDigest, digest⟩
  | _ => none

/-- The message that an event has taken from the inbox. -/
def next? : SessionEvent → Option TwoPhoneMessage
  | next m => some m
  | _ => none

/-- The frame number and the input of a call of `inputProvider`. -/
def provided? : SessionEvent → Option (UInt64 × DSInputFrame)
  | provided frame input => some (frame, input)
  | _ => none

end SessionEvent

/-- The transport operations of a trace. -/
def operations (es : List SessionEvent) : List (Operation TwoPhoneMessage) :=
  es.filterMap SessionEvent.operation?

/-- The messages sent. -/
def sent (es : List SessionEvent) : List TwoPhoneMessage := sentMessages (operations es)

/-- The messages that `send` was called with. -/
def attempted (es : List SessionEvent) : List TwoPhoneMessage := attemptedMessages (operations es)

/-- The messages that the thread itself received from the transport. -/
def received (es : List SessionEvent) : List TwoPhoneMessage := receivedMessages (operations es)

/-- The messages taken from the inbox. -/
def consumed (es : List SessionEvent) : List TwoPhoneMessage := es.filterMap SessionEvent.next?

/-- The inputs asked for, with the frame number that each was asked for. -/
def provided (es : List SessionEvent) : List (UInt64 × DSInputFrame) :=
  es.filterMap SessionEvent.provided?

/-- The frames stepped. -/
def steps (es : List SessionEvent) : List SteppedFrame := es.filterMap SessionEvent.stepped?

section Append

variable (es fs : List SessionEvent)

/-- The operations of two parts of a trace. -/
@[simp] theorem operations_append : operations (es ++ fs) = operations es ++ operations fs :=
  List.filterMap_append

/-- The messages sent in two parts of a trace. -/
@[simp] theorem sent_append : sent (es ++ fs) = sent es ++ sent fs := by
  simp [sent]

/-- The sends attempted in two parts of a trace. -/
@[simp] theorem attempted_append : attempted (es ++ fs) = attempted es ++ attempted fs := by
  simp [attempted]

/-- The messages received in two parts of a trace. -/
@[simp] theorem received_append : received (es ++ fs) = received es ++ received fs := by
  simp [received]

/-- The messages taken from the inbox in two parts of a trace. -/
@[simp] theorem consumed_append : consumed (es ++ fs) = consumed es ++ consumed fs :=
  List.filterMap_append

/-- The inputs provided in two parts of a trace. -/
@[simp] theorem provided_append : provided (es ++ fs) = provided es ++ provided fs :=
  List.filterMap_append

/-- The frames stepped in two parts of a trace. -/
@[simp] theorem steps_append : steps (es ++ fs) = steps es ++ steps fs :=
  List.filterMap_append

end Append

/-- What a single call sends. -/
theorem sent_singleton (e : SessionEvent) :
    sent [e] = (e.operation?.bind Operation.sent?).toList := by
  unfold sent sentMessages operations
  cases ho : e.operation? with
  | none => rw [List.filterMap_cons_none ho]; rfl
  | some o =>
    rw [List.filterMap_cons_some ho]
    cases o <;> rfl

/-- What a single call receives. -/
theorem received_singleton (e : SessionEvent) :
    received [e] = (e.operation?.bind Operation.received?).toList := by
  unfold received receivedMessages operations
  cases ho : e.operation? with
  | none => rw [List.filterMap_cons_none ho]; rfl
  | some o =>
    rw [List.filterMap_cons_some ho]
    cases o <;> rfl

/-- A message that was to be sent was so by a call of `send` in the trace. -/
theorem mem_attempted {m : TwoPhoneMessage} {es : List SessionEvent} (h : m ∈ attempted es) :
    ∃ pre e post, es = pre ++ e :: post ∧
      (e = .operation (.sent m) ∨ e = .operation (.sendFailed m)) := by
  unfold attempted attemptedMessages operations at h
  rw [List.mem_filterMap] at h
  obtain ⟨o, ho, hm⟩ := h
  rw [List.mem_filterMap] at ho
  obtain ⟨e, he, heo⟩ := ho
  obtain ⟨pre, post, rfl⟩ := List.append_of_mem he
  refine ⟨pre, e, post, rfl, ?_⟩
  cases e with
  | operation o' =>
    rw [SessionEvent.operation?, Option.some.injEq] at heo
    subst heo
    cases o' <;> simp_all [Operation.attempted?]
  | _ => exact absurd heo nofun

/-- A message that was sent was so by a call of `send` in the trace. -/
theorem mem_sent {m : TwoPhoneMessage} {es : List SessionEvent} (h : m ∈ sent es) :
    .operation (.sent m) ∈ es := by
  unfold sent sentMessages operations at h
  rw [List.mem_filterMap] at h
  obtain ⟨o, ho, hm⟩ := h
  rw [List.mem_filterMap] at ho
  obtain ⟨e, he, heo⟩ := ho
  cases e with
  | operation o' =>
    rw [SessionEvent.operation?, Option.some.injEq] at heo
    subst heo
    cases o' <;> simp_all [Operation.sent?]
  | _ => contradiction

/-- An input that was asked for was so by a call of `inputProvider` in the trace. -/
theorem mem_provided {frame : UInt64} {input : DSInputFrame} {es : List SessionEvent} :
    (frame, input) ∈ provided es ↔ .provided frame input ∈ es := by
  unfold provided
  rw [List.mem_filterMap]
  constructor
  · rintro ⟨e, he, hmatch⟩
    cases e with
    | provided f i =>
      rw [SessionEvent.provided?, Option.some.injEq, Prod.mk.injEq] at hmatch
      obtain ⟨rfl, rfl⟩ := hmatch
      exact he
    | _ => exact absurd hmatch nofun
  · exact fun he => ⟨_, he, rfl⟩

/-- The start of a session, up to its active transport. -/
def opened : List SessionEvent := [.prepared, .connected, .activated]

/-- An event that can end a handshake early: a send or a receive that fails, a message received, or
a snapshot callback that throws. -/
def SessionEvent.Interrupts : SessionEvent → Prop
  | .operation (.sendFailed _) => True
  | .operation (.received _) => True
  | .operation .receiveFailed => True
  | .madeSnapshot (.error _) => True
  | .loadedSnapshot _ (.error _) => True
  | _ => False

/-- The trace breaks off inside of `gate`, and what it has tried to send is a part of `messages`. -/
def Interrupted (gate : List SessionEvent) (messages : List TwoPhoneMessage)
    (es : List SessionEvent) : Prop :=
  ∃ pre e, es = pre ++ [e] ∧ pre <+: gate ∧ e.Interrupts ∧ attempted es <+: messages

/-- A part of a list without a resume or a step has none, and neither has an event that
interrupts. -/
theorem Interrupted.unresumed {gate : List SessionEvent} {messages : List TwoPhoneMessage}
    {es : List SessionEvent} (h : Interrupted gate messages es) (hgate : .resumed ∉ gate)
    (hsteps : steps gate = []) :
    .resumed ∉ es ∧ steps es = [] := by
  obtain ⟨pre, e, rfl, ⟨post, rfl⟩, hint, -⟩ := h
  rw [steps_append, List.append_eq_nil_iff] at hsteps
  rw [List.mem_append, not_or] at hgate
  rw [steps_append, hsteps.1, List.mem_append, List.mem_singleton]
  refine ⟨?_, ?_⟩
  · rintro (hmem | rfl)
    · exact hgate.1 hmem
    · exact hint.elim
  · cases e <;> first | rfl | exact hint.elim

/-- A list of stepped frames is the frames 1, 2, …, n, with digests asked for on schedule. -/
structure Scheduled (c : TwoPhoneConfiguration) (sts : List SteppedFrame) : Prop where
  numbered : sts.map (fun st => st.frame.toNat) = List.range' 1 sts.length
  asked : ∀ st ∈ sts, st.needsDigest = c.shouldCreateDigest st.frame

/-- How many of the frames were checkpoints. -/
def checkpointCount (sts : List SteppedFrame) : ℕ := sts.countP SteppedFrame.needsDigest

/-- The digest of the last checkpoint. -/
def lastCheckpointDigest (sts : List SteppedFrame) : Option EmulatorDigest :=
  (sts.filter SteppedFrame.needsDigest).getLast?.bind SteppedFrame.digest

section Scheduled

variable {c : TwoPhoneConfiguration} {sts : List SteppedFrame} {st : SteppedFrame}

/-- No frame has been stepped. -/
theorem Scheduled.nil : Scheduled c [] := ⟨rfl, nofun⟩

/-- The next frame, stepped on schedule, extends the list. -/
theorem Scheduled.concat (h : Scheduled c sts) (hf : st.frame.toNat = sts.length + 1)
    (hd : st.needsDigest = c.shouldCreateDigest st.frame) : Scheduled c (sts ++ [st]) := by
  refine ⟨?_, ?_⟩
  · rw [List.map_append, h.numbered, List.length_append, List.length_singleton,
      List.range'_1_concat, List.map_singleton, hf, Nat.add_comm 1]
  · intro st' hst'
    rcases List.mem_append.mp hst' with hmem | hmem
    · exact h.asked st' hmem
    · rw [List.mem_singleton.mp hmem]
      exact hd

/-- The frames up to any point are on schedule. -/
theorem Scheduled.of_append {tail : List SteppedFrame} (h : Scheduled c (sts ++ tail)) :
    Scheduled c sts := by
  refine ⟨?_, fun st hst => h.asked st (List.mem_append_left _ hst)⟩
  have := congrArg (List.take sts.length) h.numbered
  rwa [List.map_append, List.take_left' (List.length_map _), List.length_append,
    ← List.range'_append_1, List.take_left' List.length_range'] at this

/-- The frame at a position of the list. -/
theorem Scheduled.getElem (h : Scheduled c sts) {i : ℕ} (hi : i < sts.length) :
    sts[i].frame.toNat = i + 1 := by
  have := congrArg (fun l => l[i]?) h.numbered
  simpa [List.getElem?_range', hi, Nat.add_comm] using this

/-- One more frame. -/
@[simp] theorem checkpointCount_concat :
    checkpointCount (sts ++ [st]) = checkpointCount sts + if st.needsDigest then 1 else 0 := by
  simp [checkpointCount, List.countP_append, List.countP_singleton]

/-- One more frame. -/
@[simp] theorem lastCheckpointDigest_concat :
    lastCheckpointDigest (sts ++ [st]) =
      if st.needsDigest then st.digest else lastCheckpointDigest sts := by
  unfold lastCheckpointDigest
  rw [List.filter_append]
  cases h : st.needsDigest <;> simp [h]

/-- The checkpoints are counted by the schedule alone. -/
theorem Scheduled.checkpointCount_eq (h : Scheduled c sts) :
    checkpointCount sts =
      (List.range' 1 sts.length).countP fun f => c.shouldCreateDigest (UInt64.ofNat f) := by
  rw [← h.numbered, List.countP_map, checkpointCount]
  apply List.countP_congr
  intro st hst
  simp [h.asked st hst]

end Scheduled

end DSEmu

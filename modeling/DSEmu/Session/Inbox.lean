import DSEmu.Session.Controller

/-!
# The controller with its inbox

`ControllerMessageInbox` of `DSEmu/TwoPhone/TwoPhoneSession.swift`: the reader thread receives from
the transport and queues what it gets, and the main thread takes the messages out with `next()`.
Both work on the inbox in sections that hold its lock, so a section is one step. `next()` waits on
the condition until there is something to return or to throw; a thread that waits is one whose step
is not enabled.

`ControllerState` is the main thread, the inbox, and the reader thread, and `ControllerState.step`
interleaves the two threads freely. The transport is the environment of both.
-/

namespace DSEmu

open Duplex (Operation)

/-- `ControllerMessageInbox`. -/
structure ControllerMessageInbox where
  messages : List TwoPhoneMessage := []
  terminalError : Option SessionError := none
  isStopped : Bool := false
  deriving DecidableEq, Repr

/-- Where `readLoop` is: not started, at the check of `isStopped`, in `transport.receive()`, about
to lock with what it received, about to lock after `receive()` threw, or done. -/
inductive ReaderPhase where
  | idle
  | checking
  | receiving
  | queueing (message : TwoPhoneMessage)
  | failing
  | exited
  deriving DecidableEq, Repr

/-- A step of the reader thread. -/
inductive ReaderEvent where
  /-- the lock section that reads `isStopped` -/
  | checked
  /-- `transport.receive()` -/
  | operation (operation : Operation TwoPhoneMessage)
  /-- the lock section that queues a message -/
  | queued
  /-- the lock section of the `catch` -/
  | recorded
  deriving DecidableEq, Repr

namespace ControllerMessageInbox

/-- `next()` when it does not wait: the message that it returns or the error that it throws, with
the inbox after it. -/
def next (b : ControllerMessageInbox) :
    Option (Except SessionError TwoPhoneMessage × ControllerMessageInbox) :=
  match b.messages, b.terminalError with
  | m :: rest, _ => some (.ok m, { b with messages := rest })
  | [], some error => some (.error error, b)
  | [], none => if b.isStopped then some (.error .inboxStopped, b) else none

/-- A message that `next()` returns is the oldest in the inbox, and is taken out. -/
theorem next_ok {b b' : ControllerMessageInbox} {m : TwoPhoneMessage}
    (h : b.next = some (.ok m, b')) :
    b.messages = m :: b'.messages ∧ b'.terminalError = b.terminalError ∧
      b'.isStopped = b.isStopped := by
  unfold next at h
  split at h
  · rename_i m' rest _ hmessages
    simp only [Option.some.injEq, Prod.mk.injEq, Except.ok.injEq] at h
    obtain ⟨rfl, rfl⟩ := h
    exact ⟨hmessages, rfl, rfl⟩
  · simp at h
  · split at h <;> simp at h

/-- `next()` throws only where the inbox is empty, and has failed or stopped. -/
theorem next_error {b b' : ControllerMessageInbox} {error : SessionError}
    (h : b.next = some (.error error, b')) :
    b' = b ∧ b.messages = [] ∧ (b.terminalError ≠ none ∨ b.isStopped = true) := by
  unfold next at h
  split at h
  · simp at h
  · rename_i hmessages hfailed
    simp only [Option.some.injEq, Prod.mk.injEq] at h
    refine ⟨h.2.symm, hmessages, .inl ?_⟩
    rw [hfailed]
    exact nofun
  · rename_i hmessages _
    rw [Option.ite_none_right_eq_some, Option.some.injEq, Prod.mk.injEq] at h
    exact ⟨h.2.2.symm, hmessages, .inr h.1⟩

/-- `next()` waits only where the inbox is empty, and has neither failed nor stopped. -/
theorem next_eq_none {b : ControllerMessageInbox} (h : b.next = none) :
    b.messages = [] ∧ b.terminalError = none ∧ b.isStopped = false := by
  unfold next at h
  split at h
  · simp at h
  · simp at h
  · rename_i hmessages hfailed
    rw [ite_eq_right_iff] at h
    exact ⟨hmessages, hfailed, Bool.eq_false_iff.mpr fun hst => Option.some_ne_none _ (h hst)⟩

/-- The lock section of `stop()`; the transport is closed after it. -/
def stop (b : ControllerMessageInbox) : ControllerMessageInbox :=
  { b with isStopped := true }

/-- The lock section of `readLoop` that queues a message, and whether the loop goes on. -/
def queue (b : ControllerMessageInbox) (m : TwoPhoneMessage) : ControllerMessageInbox × Bool :=
  if b.isStopped then (b, false)
  else if m = .finishAcknowledgement then
    ({ b with messages := b.messages ++ [m], isStopped := true }, false)
  else ({ b with messages := b.messages ++ [m] }, true)

/-- The lock section of the `catch` of `readLoop`. -/
def record (b : ControllerMessageInbox) (error : SessionError) : ControllerMessageInbox :=
  if b.isStopped then b else { b with terminalError := some error }

@[simp] theorem messages_record (b : ControllerMessageInbox) (error : SessionError) :
    (b.record error).messages = b.messages := by
  unfold record
  split <;> rfl

@[simp] theorem isStopped_record (b : ControllerMessageInbox) (error : SessionError) :
    (b.record error).isStopped = b.isStopped := by
  unfold record
  split <;> rfl

end ControllerMessageInbox

/-- The controller: its main thread, its inbox, and its reader thread. -/
structure ControllerState (σ : Type) where
  thread : ControllerThread σ
  inbox : ControllerMessageInbox := {}
  reader : ReaderPhase := .idle

/-- A step of one of the controller's two threads. -/
inductive ControllerEvent where
  | main (event : SessionEvent)
  | reader (event : ReaderEvent)
  deriving DecidableEq, Repr

namespace ControllerEvent

/-- The step of the main thread. -/
def main? : ControllerEvent → Option SessionEvent
  | main e => some e
  | reader _ => none

/-- The transport operation of a step, by either thread. -/
def operation? : ControllerEvent → Option (Operation TwoPhoneMessage)
  | main e => e.operation?
  | reader (.operation o) => some o
  | reader _ => none

end ControllerEvent

namespace ControllerState

variable {σ : Type}

/-- What a step of the main thread does to the inbox and to the reader thread: `none` where the step
waits or reports another result than the inbox has. -/
def inboxStep (s : ControllerState σ) :
    SessionEvent → Option (ControllerMessageInbox × ReaderPhase)
  | .next m => do
    let (result, inbox) ← s.inbox.next
    if result = .ok m then some (inbox, s.reader) else none
  | .nextFailed error => do
    let (result, inbox) ← s.inbox.next
    if result = .error error then some (inbox, s.reader) else none
  | .inboxStarted => some (s.inbox, .checking)
  | .inboxStopped => some (s.inbox.stop, s.reader)
  | _ => some (s.inbox, s.reader)

/-- One step of the reader thread, which leaves the main thread alone. -/
def readerStep (s : ControllerState σ) (e : ReaderEvent) : Option (ControllerState σ) :=
  match s.reader, e with
  | .checking, .checked =>
    some { s with reader := if s.inbox.isStopped then .exited else .receiving }
  | .receiving, .operation (.received m) => some { s with reader := .queueing m }
  | .receiving, .operation .receiveFailed => some { s with reader := .failing }
  | .queueing m, .queued =>
    let (inbox, goesOn) := s.inbox.queue m
    some { s with inbox := inbox, reader := if goesOn then .checking else .exited }
  | .failing, .recorded =>
    some { s with inbox := s.inbox.record .transport, reader := .exited }
  | _, _ => none

/-- The cases of a step of the reader thread. -/
theorem readerStep_cases {s t : ControllerState σ} {e : ReaderEvent}
    (h : s.readerStep e = some t) :
    (e = .checked ∧ s.reader = .checking ∧
        t = { s with reader := if s.inbox.isStopped then .exited else .receiving }) ∨
      (∃ m, e = .operation (.received m) ∧ s.reader = .receiving ∧
        t = { s with reader := .queueing m }) ∨
      (e = .operation .receiveFailed ∧ s.reader = .receiving ∧ t = { s with reader := .failing }) ∨
      (∃ m, e = .queued ∧ s.reader = .queueing m ∧ s.inbox.isStopped = true ∧
        t = { s with reader := .exited }) ∨
      (e = .queued ∧ s.reader = .queueing .finishAcknowledgement ∧
        t = { s with
          inbox := { s.inbox with
            messages := s.inbox.messages ++ [.finishAcknowledgement]
            isStopped := true }
          reader := .exited }) ∨
      (∃ m, e = .queued ∧ s.reader = .queueing m ∧ m ≠ .finishAcknowledgement ∧
        s.inbox.isStopped = false ∧
        t = { s with
          inbox := { s.inbox with messages := s.inbox.messages ++ [m] }
          reader := .checking }) ∨
      (e = .recorded ∧ s.reader = .failing ∧
        t = { s with inbox := s.inbox.record .transport, reader := .exited }) := by
  unfold readerStep at h
  split at h
  case h_1 hr =>
    exact .inl ⟨rfl, hr, (Option.some.inj h).symm⟩
  case h_2 m hr =>
    exact .inr (.inl ⟨m, rfl, hr, (Option.some.inj h).symm⟩)
  case h_3 hr =>
    exact .inr (.inr (.inl ⟨rfl, hr, (Option.some.inj h).symm⟩))
  case h_4 m hr =>
    right; right; right
    unfold ControllerMessageInbox.queue at h
    split_ifs at h with hst hm
    · exact .inl ⟨m, rfl, hr, hst, (Option.some.inj h).symm⟩
    · subst hm
      exact .inr (.inl ⟨rfl, hr, (Option.some.inj h).symm⟩)
    · exact .inr (.inr (.inl ⟨m, rfl, hr, hm, Bool.eq_false_iff.mpr hst,
        (Option.some.inj h).symm⟩))
  case h_5 hr =>
    exact .inr (.inr (.inr (.inr (.inr (.inr ⟨rfl, hr, (Option.some.inj h).symm⟩)))))
  case h_6 => exact absurd h (Option.some_ne_none _).symm

/-- A message that the main thread takes is the oldest in the inbox. -/
theorem inboxStep_next {s : ControllerState σ} {m : TwoPhoneMessage}
    {inbox : ControllerMessageInbox}
    {reader : ReaderPhase} (h : s.inboxStep (.next m) = some (inbox, reader)) :
    reader = s.reader ∧ s.inbox.messages = m :: inbox.messages ∧
      inbox.terminalError = s.inbox.terminalError ∧ inbox.isStopped = s.inbox.isStopped := by
  simp only [inboxStep, Option.bind_eq_bind, Option.bind_eq_some_iff, Prod.exists,
    Option.ite_none_right_eq_some, Option.some.injEq, Prod.mk.injEq] at h
  obtain ⟨_, _, hnext, rfl, rfl, rfl⟩ := h
  exact ⟨rfl, ControllerMessageInbox.next_ok hnext⟩

/-- Where the inbox throws, it is left as it is. -/
theorem inboxStep_nextFailed {s : ControllerState σ} {error : SessionError}
    {inbox : ControllerMessageInbox} {reader : ReaderPhase}
    (h : s.inboxStep (.nextFailed error) = some (inbox, reader)) :
    reader = s.reader ∧ inbox = s.inbox ∧ s.inbox.messages = [] ∧
      (s.inbox.terminalError ≠ none ∨ s.inbox.isStopped = true) := by
  simp only [inboxStep, Option.bind_eq_bind, Option.bind_eq_some_iff, Prod.exists,
    Option.ite_none_right_eq_some, Option.some.injEq, Prod.mk.injEq] at h
  obtain ⟨_, _, hnext, rfl, rfl, rfl⟩ := h
  exact ⟨rfl, ControllerMessageInbox.next_error hnext⟩

/-- A step of the main thread leaves an error of the inbox as it is, and the reader thread where it
is unless it starts it. -/
theorem inboxStep_frame {s : ControllerState σ} {e : SessionEvent} {inbox : ControllerMessageInbox}
    {reader : ReaderPhase} (h : s.inboxStep e = some (inbox, reader)) :
    inbox.terminalError = s.inbox.terminalError ∧
      (reader = s.reader ∨ e = .inboxStarted ∧ reader = .checking) := by
  cases e with
  | next m =>
    obtain ⟨hreader, -, herror, -⟩ := inboxStep_next h
    exact ⟨herror, .inl hreader⟩
  | nextFailed error =>
    obtain ⟨hreader, hinbox, -⟩ := inboxStep_nextFailed h
    exact ⟨congrArg _ hinbox, .inl hreader⟩
  | inboxStarted =>
    obtain ⟨rfl, rfl⟩ := Prod.mk.inj (Option.some.inj h)
    exact ⟨rfl, .inr ⟨rfl, rfl⟩⟩
  | inboxStopped =>
    obtain ⟨rfl, rfl⟩ := Prod.mk.inj (Option.some.inj h)
    exact ⟨rfl, .inl rfl⟩
  | _ =>
    obtain ⟨rfl, rfl⟩ := Prod.mk.inj (Option.some.inj h)
    exact ⟨rfl, .inl rfl⟩

/-- One step of the controller, by either thread. -/
def step (S : TwoPhoneSession σ) (s : ControllerState σ) :
    ControllerEvent → Option (ControllerState σ)
  | .main e => do
    let thread ← s.thread.step S e
    let (inbox, reader) ← s.inboxStep e
    some { thread := thread, inbox := inbox, reader := reader }
  | .reader e =>
    -- A trap of the main thread ends the process.
    match s.thread.phase with
    | .trapped => none
    | _ => if s.thread.checkpoints < 2 ^ 63 then s.readerStep e else none

/-- A step of the main thread is a step of `ControllerThread` together with its effect on the
inbox. -/
theorem step_main {S : TwoPhoneSession σ} {s s' : ControllerState σ} {e : SessionEvent} :
    s.step S (.main e) = some s' ↔
      s.thread.step S e = some s'.thread ∧ s.inboxStep e = some (s'.inbox, s'.reader) := by
  obtain ⟨thread', inbox', reader'⟩ := s'
  simp only [step, Option.bind_eq_bind, Option.bind_eq_some_iff, Option.some.injEq,
    ControllerState.mk.injEq]
  grind

/-- A step of the reader thread is one of `readLoop`, in a process that has not trapped. -/
theorem step_reader {S : TwoPhoneSession σ} {s s' : ControllerState σ} {e : ReaderEvent} :
    s.step S (.reader e) = some s' ↔
      s.thread.phase ≠ .trapped ∧ s.thread.checkpoints < 2 ^ 63 ∧ s.readerStep e = some s' := by
  unfold step
  cases hp : s.thread.phase <;> simp

/-- A step of the reader thread leaves the main thread alone. -/
theorem readerStep_thread {s s' : ControllerState σ} {e : ReaderEvent}
    (h : s.readerStep e = some s') : s'.thread = s.thread := by
  unfold readerStep at h
  split at h <;> simp_all <;> subst h <;> rfl

/-- A run of the controller is a run of its main thread. -/
theorem exec_thread {S : TwoPhoneSession σ} {s t : ControllerState σ} {es : List ControllerEvent}
    (h : Automaton.exec (step S) s es = some t) :
    Automaton.exec (ControllerThread.step S) s.thread (es.filterMap ControllerEvent.main?) =
      some t.thread := by
  refine Automaton.exec_project ControllerState.thread ControllerEvent.main? ?_ h
  intro s e t ht
  cases e with
  | main e => exact (step_main.mp ht).1
  | reader e => exact readerStep_thread (step_reader.mp ht).2.2

end ControllerState

end DSEmu

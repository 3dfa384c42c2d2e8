import DSEmu.Session.ControllerTrace
import DSEmu.Session.Inbox

/-!
# The law of the controller's inbox

In every run of the controller, with its two threads interleaved in any way, the messages from the
transport are, in order: those that the main thread received during the handshake, those that it has
taken from the inbox, those in the inbox, and the one that the reader thread holds. A message is
dropped only once the main thread is on its way out (`inboxLaw_of_exec`).
-/

namespace DSEmu

open Automaton (exec exec_invariant)
open Duplex (Operation receivedMessages sentMessages receivedMessages_append
  sentMessages_append)

/-- The message that the reader thread has received and not queued yet. -/
def ReaderPhase.held : ReaderPhase → List TwoPhoneMessage
  | .queueing m => [m]
  | _ => []

/-- The trace of the main thread. -/
def mainTrace (ces : List ControllerEvent) : List SessionEvent :=
  ces.filterMap ControllerEvent.main?

/-- The transport operations of a controller, by either thread. -/
def controllerOperations (ces : List ControllerEvent) : List (Operation TwoPhoneMessage) :=
  ces.filterMap ControllerEvent.operation?

section Concat

variable (ces : List ControllerEvent)

@[simp] theorem mainTrace_main (e : SessionEvent) :
    mainTrace (ces ++ [.main e]) = mainTrace ces ++ [e] := by
  simp [mainTrace, ControllerEvent.main?]

@[simp] theorem mainTrace_reader (e : ReaderEvent) :
    mainTrace (ces ++ [.reader e]) = mainTrace ces := by
  simp [mainTrace, ControllerEvent.main?]

theorem controllerOperations_concat (e : ControllerEvent) :
    controllerOperations (ces ++ [e]) = controllerOperations ces ++ e.operation?.toList := by
  unfold controllerOperations
  rw [List.filterMap_append]
  cases h : e.operation? <;> simp [h]

end Concat

/-- The law of the inbox, for a trace `ces` of the controller that leads to the state `s`, with the
messages `dropped`. -/
structure InboxLaw {σ : Type} (ces : List ControllerEvent) (s : ControllerState σ)
    (dropped : List TwoPhoneMessage) : Prop where
  received : receivedMessages (controllerOperations ces) =
    received (mainTrace ces) ++ (consumed (mainTrace ces) ++ s.inbox.messages ++ s.reader.held ++
      dropped)
  sent : sentMessages (controllerOperations ces) = sent (mainTrace ces)
  /-- the reader thread never closes the transport -/
  closed : .closed ∈ controllerOperations ces ↔ .operation .closed ∈ mainTrace ces
  /-- nothing happens to the inbox before it is started -/
  idle : .inboxStarted ∉ mainTrace ces →
    s.reader = .idle ∧ s.inbox.messages = [] ∧ consumed (mainTrace ces) = [] ∧ dropped = []
  started : .inboxStarted ∈ mainTrace ces → s.reader ≠ .idle
  /-- a message is dropped only by a reader that found the inbox stopped -/
  dropped : dropped ≠ [] → s.reader = .exited ∧ .inboxStopped ∈ mainTrace ces
  /-- the inbox stops on the way out, or at the finish acknowledgement -/
  stopped : s.inbox.isStopped = true → .inboxStopped ∈ mainTrace ces ∨
    .finishAcknowledgement ∈ consumed (mainTrace ces) ++ s.inbox.messages
  /-- the finish acknowledgement is the last message that the reader queues -/
  finished : .finishAcknowledgement ∈ consumed (mainTrace ces) ++ s.inbox.messages →
    s.reader = .exited ∧ s.inbox.isStopped = true
  exited : s.reader = .exited → s.inbox.isStopped = true ∨ s.inbox.terminalError ≠ none
  /-- the inbox fails only if a receive has failed -/
  failed : s.reader = .failing ∨ s.inbox.terminalError ≠ none →
    .reader (.operation .receiveFailed) ∈ ces

section

variable {σ : Type} {S : TwoPhoneSession σ} {ces : List ControllerEvent} {s t : ControllerState σ}
  {dropped : List TwoPhoneMessage}

/-- The main thread receives, and starts the inbox, only before the inbox is started. -/
theorem ControllerTrace.inboxStarted_notMem {es : List SessionEvent} {s t : ControllerThread σ}
    {e : SessionEvent} (h : ControllerTrace S es s) (hs : s.step S e = some t)
    (he : e = .inboxStarted ∨ ∃ m, e = .operation (.received m)) : .inboxStarted ∉ es := by
  unfold ControllerTrace at h
  rcases he with rfl | ⟨m, rfl⟩
  · have hp : s.phase = .startingInbox := by
      replace hs := ControllerThread.call_of_step hs
      unfold ControllerThread.call at hs
      cases hp : s.phase <;> rw [hp] at hs <;>
        simp_all [SessionEvent.on, SessionEvent.onSend, SessionEvent.onReceive, SessionEvent.onNext]
    rw [hp] at h
    obtain ⟨stateHash, -, rfl⟩ := h
    simp [controllerHandshake, controllerOffered, opened]
  · rcases ControllerThread.step_received hs with ⟨hp, -⟩ | ⟨hp, -⟩ <;> rw [hp] at h
    · obtain ⟨-, rfl⟩ := h
      simp [controllerHandshake, controllerOffered, opened]
    · obtain ⟨stateHash, -, rfl⟩ := h
      simp [controllerHandshake, controllerOffered, opened]

/-- A call of the main thread that neither takes a message nor starts the inbox leaves the law as it
is. -/
theorem InboxLaw.main {e : SessionEvent} (h : InboxLaw ces s dropped)
    (hmessages : t.inbox.messages = s.inbox.messages)
    (herror : t.inbox.terminalError = s.inbox.terminalError)
    (hstopped : t.inbox.isStopped = true ↔ s.inbox.isStopped = true ∨ e = .inboxStopped)
    (hreader : t.reader = s.reader) (hreceived : DSEmu.received [e] = [])
    (hconsumed : consumed [e] = []) (hstart : e ≠ .inboxStarted) :
    InboxLaw (ces ++ [.main e]) t dropped := by
  have hops : operations [e] = e.operation?.toList := by
    cases ho : e.operation? <;> simp [operations, ho]
  have hreceived' : receivedMessages e.operation?.toList = [] := by
    rw [← hops]
    exact hreceived
  constructor
  case received =>
    rw [controllerOperations_concat, receivedMessages_append, mainTrace_main, received_append,
      consumed_append, hreceived, hconsumed, hmessages, hreader, List.append_nil, List.append_nil,
      ← h.received]
    exact (congrArg _ hreceived').trans (List.append_nil _)
  case sent =>
    rw [controllerOperations_concat, sentMessages_append, mainTrace_main, sent_append, h.sent]
    exact congrArg _ (congrArg sentMessages hops.symm)
  case closed =>
    rw [controllerOperations_concat, mainTrace_main, List.mem_append, List.mem_append, h.closed]
    refine or_congr_right ?_
    cases e <;> simp [ControllerEvent.operation?, SessionEvent.operation?]
  case idle =>
    intro hidle
    rw [mainTrace_main, List.mem_append, not_or] at hidle
    rw [mainTrace_main, consumed_append, hconsumed, List.append_nil, hreader, hmessages]
    exact h.idle hidle.1
  case started =>
    intro hstarted
    rw [mainTrace_main, List.mem_append, List.mem_singleton] at hstarted
    rw [hreader]
    exact h.started (hstarted.resolve_right hstart.symm)
  case dropped =>
    intro hne
    rw [hreader, mainTrace_main]
    exact (h.dropped hne).imp_right (List.mem_append_left _)
  case stopped =>
    intro hst
    rw [mainTrace_main, consumed_append, hconsumed, List.append_nil, hmessages]
    rcases hstopped.mp hst with hst | rfl
    · exact (h.stopped hst).imp_left (List.mem_append_left _)
    · exact .inl (List.mem_append_right _ (List.mem_singleton_self _))
  case finished =>
    rw [mainTrace_main, consumed_append, hconsumed, List.append_nil, hmessages, hreader]
    intro hmem
    exact (h.finished hmem).imp_right fun hst => hstopped.mpr (.inl hst)
  case exited =>
    intro hex
    rw [hreader] at hex
    rw [herror]
    exact (h.exited hex).imp_left fun hst => hstopped.mpr (.inl hst)
  case failed =>
    rw [herror, hreader]
    intro hfail
    exact List.mem_append_left _ (h.failed hfail)

/-- A message that the main thread takes from the inbox. -/
theorem InboxLaw.next {m : TwoPhoneMessage} (h : InboxLaw ces s dropped)
    (hmessages : s.inbox.messages = m :: t.inbox.messages)
    (herror : t.inbox.terminalError = s.inbox.terminalError)
    (hstopped : t.inbox.isStopped = s.inbox.isStopped) (hreader : t.reader = s.reader) :
    InboxLaw (ces ++ [.main (.next m)]) t dropped := by
  have hconsumed : consumed (mainTrace (ces ++ [.main (.next m)])) ++ t.inbox.messages =
      consumed (mainTrace ces) ++ s.inbox.messages := by
    rw [mainTrace_main, consumed_append, hmessages, List.append_assoc]
    rfl
  -- The queue is empty until the inbox is started.
  have hstarted : .inboxStarted ∈ mainTrace ces := by
    by_contra hnot
    obtain ⟨-, hnil, -⟩ := h.idle hnot
    rw [hmessages] at hnil
    exact List.cons_ne_nil _ _ hnil
  constructor
  case received =>
    rw [hconsumed, hreader, controllerOperations_concat, receivedMessages_append, mainTrace_main,
      received_append, h.received]
    simp [ControllerEvent.operation?, SessionEvent.operation?, DSEmu.received, operations,
      receivedMessages]
  case sent =>
    rw [controllerOperations_concat, sentMessages_append, mainTrace_main, sent_append, h.sent]
    rfl
  case closed =>
    rw [controllerOperations_concat, mainTrace_main, List.mem_append, List.mem_append, h.closed]
    simp [ControllerEvent.operation?, SessionEvent.operation?]
  case idle =>
    intro hidle
    rw [mainTrace_main] at hidle
    exact absurd (List.mem_append_left _ hstarted) hidle
  case started =>
    intro _
    rw [hreader]
    exact h.started hstarted
  case dropped =>
    intro hne
    rw [hreader, mainTrace_main]
    exact (h.dropped hne).imp_right (List.mem_append_left _)
  case stopped =>
    rw [hconsumed, hstopped, mainTrace_main]
    exact fun hst => (h.stopped hst).imp_left (List.mem_append_left _)
  case finished =>
    rw [hconsumed, hreader, hstopped]
    exact h.finished
  case exited =>
    rw [hreader, hstopped, herror]
    exact h.exited
  case failed =>
    rw [hreader, herror]
    exact fun hfail => List.mem_append_left _ (h.failed hfail)

/-- A message that the main thread receives itself, before the inbox is started. -/
theorem InboxLaw.receive {m : TwoPhoneMessage} (h : InboxLaw ces s dropped)
    (hstarted : .inboxStarted ∉ mainTrace ces) (hinbox : t.inbox = s.inbox)
    (hreader : t.reader = s.reader) :
    InboxLaw (ces ++ [.main (.operation (.received m))]) t dropped := by
  obtain ⟨hidle, hmessages, hconsumed, rfl⟩ := h.idle hstarted
  have hconsumed' : consumed (mainTrace (ces ++ [.main (.operation (.received m))])) = [] := by
    rw [mainTrace_main, consumed_append, hconsumed]
    rfl
  have hempty : consumed (mainTrace ces) ++ s.inbox.messages ++ s.reader.held ++ [] = [] := by
    rw [hconsumed, hmessages, hidle]
    rfl
  constructor
  case received =>
    rw [hconsumed', hinbox, hreader, hmessages, hidle, controllerOperations_concat,
      receivedMessages_append, h.received, hempty, mainTrace_main, received_append]
    simp [ReaderPhase.held, ControllerEvent.operation?, SessionEvent.operation?, DSEmu.received,
      operations]
  case sent =>
    rw [controllerOperations_concat, sentMessages_append, mainTrace_main, sent_append, h.sent]
    rfl
  case closed =>
    rw [controllerOperations_concat, mainTrace_main, List.mem_append, List.mem_append, h.closed]
    simp [ControllerEvent.operation?, SessionEvent.operation?]
  case idle =>
    intro _
    rw [hreader, hinbox]
    exact ⟨hidle, hmessages, hconsumed', rfl⟩
  case started =>
    intro hmem
    rw [mainTrace_main, List.mem_append, List.mem_singleton] at hmem
    exact absurd hmem (not_or.mpr ⟨hstarted, by simp⟩)
  case dropped => exact fun hne => absurd rfl hne
  case stopped =>
    rw [hconsumed', hinbox, mainTrace_main, ← hconsumed]
    exact fun hst => (h.stopped hst).imp_left (List.mem_append_left _)
  case finished =>
    rw [hconsumed', hinbox, hmessages]
    exact fun hmem => absurd hmem List.not_mem_nil
  case exited =>
    rw [hreader, hinbox]
    exact h.exited
  case failed =>
    rw [hreader, hinbox]
    exact fun hfail => List.mem_append_left _ (h.failed hfail)

/-- The start of the inbox. -/
theorem InboxLaw.start (h : InboxLaw ces s dropped) (hstarted : .inboxStarted ∉ mainTrace ces)
    (hinbox : t.inbox = s.inbox) (hreader : t.reader = .checking) :
    InboxLaw (ces ++ [.main .inboxStarted]) t dropped := by
  obtain ⟨hidle, hmessages, hconsumed, rfl⟩ := h.idle hstarted
  have hconsumed' : consumed (mainTrace (ces ++ [.main .inboxStarted])) = [] := by
    rw [mainTrace_main, consumed_append, hconsumed]
    rfl
  constructor
  case received =>
    rw [hconsumed', hinbox, hreader, hmessages, controllerOperations_concat,
      receivedMessages_append, h.received, hconsumed, hmessages, hidle, mainTrace_main,
      received_append]
    rfl
  case sent =>
    rw [controllerOperations_concat, sentMessages_append, mainTrace_main, sent_append, h.sent]
    rfl
  case closed =>
    rw [controllerOperations_concat, mainTrace_main, List.mem_append, List.mem_append, h.closed]
    simp [ControllerEvent.operation?, SessionEvent.operation?]
  case idle =>
    intro hnot
    rw [mainTrace_main] at hnot
    exact absurd (List.mem_append_right _ (List.mem_singleton_self _)) hnot
  case started =>
    rw [hreader]
    simp
  case dropped => exact fun hne => absurd rfl hne
  case stopped =>
    rw [hconsumed', hinbox, mainTrace_main, ← hconsumed]
    exact fun hst => (h.stopped hst).imp_left (List.mem_append_left _)
  case finished =>
    rw [hconsumed', hinbox, hmessages]
    exact fun hmem => absurd hmem List.not_mem_nil
  case exited =>
    rw [hreader]
    simp
  case failed =>
    rw [hreader, hinbox]
    exact fun hfail => List.mem_append_left _ (h.failed (.inr (hfail.resolve_left (by simp))))

/-- A reader thread that has not exited has dropped nothing, and the inbox has no finish
acknowledgement yet. -/
theorem InboxLaw.reading (h : InboxLaw ces s dropped) (hreader : s.reader ≠ .exited) :
    dropped = [] ∧ .finishAcknowledgement ∉ consumed (mainTrace ces) ++ s.inbox.messages := by
  refine ⟨?_, fun hmem => hreader (h.finished hmem).1⟩
  by_contra hne
  exact hreader (h.dropped hne).1

/-- The reader thread has been started, and only receives. -/
theorem readerStep_silent {e : ReaderEvent} (h : s.readerStep e = some t) :
    s.reader ≠ .idle ∧ sentMessages (ControllerEvent.operation? (.reader e)).toList = [] ∧
      .closed ∉ (ControllerEvent.operation? (.reader e)).toList := by
  rcases ControllerState.readerStep_cases h with ⟨rfl, hr, -⟩ | ⟨m, rfl, hr, -⟩ | ⟨rfl, hr, -⟩ |
    ⟨m, rfl, hr, -⟩ | ⟨rfl, hr, -⟩ | ⟨m, rfl, hr, -⟩ | ⟨rfl, hr, -⟩ <;> rw [hr] <;>
    simp [ControllerEvent.operation?, sentMessages, Operation.sent?]

/-- A step of the reader thread, which moves messages from the transport to the inbox or drops
them. -/
theorem InboxLaw.reader {e : ReaderEvent} {dropped' : List TwoPhoneMessage}
    (h : InboxLaw ces s dropped) (hstep : s.readerStep e = some t)
    (hflow : t.inbox.messages ++ t.reader.held ++ dropped' =
      s.inbox.messages ++ s.reader.held ++ dropped ++
        receivedMessages (ControllerEvent.operation? (.reader e)).toList)
    (hafter : t.reader ≠ .idle)
    (hdropped : dropped' ≠ [] → t.reader = .exited ∧ .inboxStopped ∈ mainTrace ces)
    (hstopped : t.inbox.isStopped = true → .inboxStopped ∈ mainTrace ces ∨
      .finishAcknowledgement ∈ consumed (mainTrace ces) ++ t.inbox.messages)
    (hfinished : .finishAcknowledgement ∈ consumed (mainTrace ces) ++ t.inbox.messages →
      t.reader = .exited ∧ t.inbox.isStopped = true)
    (hexited : t.reader = .exited → t.inbox.isStopped = true ∨ t.inbox.terminalError ≠ none)
    (hfailed : t.reader = .failing ∨ t.inbox.terminalError ≠ none →
      .reader (.operation .receiveFailed) ∈ ces ++ [.reader e]) :
    InboxLaw (ces ++ [.reader e]) t dropped' := by
  obtain ⟨hbefore, hsent, hopen⟩ := readerStep_silent hstep
  have hstarted : .inboxStarted ∈ mainTrace ces := by
    by_contra hnot
    exact hbefore (h.idle hnot).1
  have hmain := mainTrace_reader ces e
  constructor
  case received =>
    rw [controllerOperations_concat, receivedMessages_append, h.received, hmain]
    simp only [List.append_assoc] at hflow ⊢
    rw [hflow]
  case sent =>
    rw [controllerOperations_concat, sentMessages_append, h.sent, hsent, hmain, List.append_nil]
  case closed =>
    rw [controllerOperations_concat, List.mem_append, hmain, h.closed]
    exact or_iff_left hopen
  case idle =>
    intro hnot
    rw [hmain] at hnot
    exact absurd hstarted hnot
  case started => exact fun _ => hafter
  case dropped =>
    rw [hmain]
    exact hdropped
  case stopped =>
    rw [hmain]
    exact hstopped
  case finished =>
    rw [hmain]
    exact hfinished
  case exited => exact hexited
  case failed => exact hfailed

open ControllerState in
/-- A step of the main thread keeps the law. -/
theorem InboxLaw.mainStep {e : SessionEvent} (htrace : ControllerTrace S (mainTrace ces) s.thread)
    (h : InboxLaw ces s dropped) (hs : s.step S (.main e) = some t) :
    InboxLaw (ces ++ [.main e]) t dropped := by
  obtain ⟨hthread, hinbox⟩ := step_main.mp hs
  -- an event of the main thread alone leaves the inbox and the reader as they were
  have hsame : some (s.inbox, s.reader) = some (t.inbox, t.reader) →
      DSEmu.received [e] = [] → consumed [e] = [] → e ≠ .inboxStarted → e ≠ .inboxStopped →
      InboxLaw (ces ++ [.main e]) t dropped := by
    intro heq hreceived hconsumed hstart hstop
    obtain ⟨hin, hre⟩ := Prod.mk.inj (Option.some.inj heq)
    exact h.main (by rw [hin]) (by rw [hin]) (by simp [← hin, hstop]) hre.symm hreceived hconsumed
      hstart
  cases e with
  | next m =>
    obtain ⟨hreader, hmessages, herror, hstopped⟩ := inboxStep_next hinbox
    exact h.next hmessages herror hstopped hreader
  | nextFailed error =>
    obtain ⟨hreader, hin, -⟩ := inboxStep_nextFailed hinbox
    exact h.main (by rw [hin]) (by rw [hin]) (by simp [hin]) hreader rfl rfl (by simp)
  | inboxStarted =>
    have hnot := htrace.inboxStarted_notMem hthread (.inl rfl)
    obtain ⟨hin, hre⟩ := Prod.mk.inj (Option.some.inj hinbox)
    exact h.start hnot hin.symm hre.symm
  | inboxStopped =>
    obtain ⟨hin, hre⟩ := Prod.mk.inj (Option.some.inj hinbox)
    refine h.main ?_ ?_ ?_ hre.symm rfl rfl (by simp) <;> rw [← hin]
    · rfl
    · rfl
    · simp [ControllerMessageInbox.stop]
  | operation o =>
    cases o with
    | received m =>
      have hnot := htrace.inboxStarted_notMem hthread (.inr ⟨m, rfl⟩)
      obtain ⟨hin, hre⟩ := Prod.mk.inj (Option.some.inj hinbox)
      exact h.receive hnot hin.symm hre.symm
    | _ => exact hsame hinbox rfl rfl (by simp) (by simp)
  | _ => exact hsame hinbox rfl rfl (by simp) (by simp)

open ControllerState in
/-- A step of the reader thread keeps it; it may drop the message that the reader holds. -/
theorem InboxLaw.readerStep {e : ReaderEvent} (h : InboxLaw ces s dropped)
    (hs : s.step S (.reader e) = some t) :
    ∃ dropped', InboxLaw (ces ++ [.reader e]) t dropped' := by
  obtain ⟨-, -, hreader⟩ := step_reader.mp hs
  have hlast : ControllerEvent.reader e ∈ ces ++ [.reader e] :=
    List.mem_append_right _ (List.mem_singleton_self _)
  have hkept (r : ReaderPhase) (hr : r ≠ .failing)
      (hfail : r = .failing ∨ s.inbox.terminalError ≠ none) :
      .reader (.operation .receiveFailed) ∈ ces ++ [.reader e] :=
    List.mem_append_left _ (h.failed (.inr (hfail.resolve_left hr)))
  rcases readerStep_cases hreader with ⟨rfl, hr, rfl⟩ | ⟨m, rfl, hr, rfl⟩ | ⟨rfl, hr, rfl⟩ |
    ⟨m, rfl, hr, hst, rfl⟩ | ⟨rfl, hr, rfl⟩ | ⟨m, rfl, hr, hm, hst, rfl⟩ | ⟨rfl, hr, rfl⟩ <;>
    obtain ⟨rfl, hfinish⟩ := h.reading (by rw [hr]; simp)
  · -- the check of `isStopped`
    refine ⟨[], h.reader hreader ?_ ?_ (absurd rfl) h.stopped (fun hmem => absurd hmem hfinish)
      ?_ ?_⟩
    · dsimp only
      rw [hr]
      split <;> simp [ReaderPhase.held, receivedMessages, ControllerEvent.operation?]
    · dsimp only
      split <;> simp
    · dsimp only
      split
      · exact fun _ => .inl ‹_›
      · simp
    · refine hkept _ ?_
      split <;> simp
  · -- a message received
    refine ⟨[], h.reader hreader ?_ (by simp) (absurd rfl) h.stopped
      (fun hmem => absurd hmem hfinish) (by simp) ?_⟩
    · rw [hr]
      simp [ReaderPhase.held, receivedMessages, ControllerEvent.operation?, Operation.received?]
    · exact hkept _ (by simp)
  · -- a receive that failed
    refine ⟨[], h.reader hreader ?_ (by simp) (absurd rfl) h.stopped
      (fun hmem => absurd hmem hfinish) (by simp) fun _ => hlast⟩
    · rw [hr]
      simp [ReaderPhase.held, receivedMessages, ControllerEvent.operation?, Operation.received?]
  · -- a message dropped by an inbox that was stopped
    refine ⟨[m], h.reader hreader ?_ (by simp) ?_ h.stopped (fun hmem => absurd hmem hfinish)
      (fun _ => .inl hst) ?_⟩
    · rw [hr]
      simp [ReaderPhase.held, receivedMessages, ControllerEvent.operation?]
    · exact fun _ => ⟨rfl, (h.stopped hst).resolve_right hfinish⟩
    · exact hkept _ (by simp)
  · -- the finish acknowledgement queued
    refine ⟨[], h.reader hreader ?_ (by simp) (absurd rfl) ?_ (fun _ => ⟨rfl, rfl⟩)
      (fun _ => .inl rfl) ?_⟩
    · rw [hr]
      simp [ReaderPhase.held, receivedMessages, ControllerEvent.operation?]
    · exact fun _ => .inr (by simp)
    · exact hkept _ (by simp)
  · -- another message queued
    refine ⟨[], h.reader hreader ?_ (by simp) (absurd rfl) ?_ ?_ (by simp) ?_⟩
    · rw [hr]
      simp [ReaderPhase.held, receivedMessages, ControllerEvent.operation?]
    · exact fun hst' => absurd (hst.symm.trans hst') (by decide)
    · intro hmem
      rw [← List.append_assoc, List.mem_append, List.mem_singleton] at hmem
      exact absurd hmem (not_or.mpr ⟨hfinish, hm.symm⟩)
    · exact hkept _ (by simp)
  · -- the failure recorded
    refine ⟨[], h.reader hreader ?_ (by simp) (absurd rfl) ?_ ?_ ?_
      fun _ => List.mem_append_left _ (h.failed (.inl hr))⟩
    · rw [ControllerMessageInbox.messages_record, hr]
      simp [ReaderPhase.held, receivedMessages, ControllerEvent.operation?]
    · rw [ControllerMessageInbox.messages_record, ControllerMessageInbox.isStopped_record]
      exact h.stopped
    · rw [ControllerMessageInbox.messages_record]
      exact fun hmem => absurd hmem hfinish
    · intro _
      unfold ControllerMessageInbox.record
      split
      · exact .inl ‹_›
      · exact .inr (Option.some_ne_none _)

/-- The law of the inbox, along every run of the controller. -/
theorem inboxLaw_of_exec {host : σ}
    (h : exec (ControllerState.step S) { thread := { host := host } } ces = some s) :
    ∃ dropped, InboxLaw ces s dropped := by
  have hinv : ControllerTrace S (mainTrace ces) s.thread ∧ ∃ dropped, InboxLaw ces s dropped := by
    refine exec_invariant (I := fun ces s =>
      ControllerTrace S (mainTrace ces) s.thread ∧ ∃ dropped, InboxLaw ces s dropped) ?_ ?_ h
    · refine ⟨⟨⟨rfl, rfl, rfl, rfl, rfl⟩, rfl⟩, [], ?_⟩
      constructor <;> simp [controllerOperations, mainTrace, consumed, DSEmu.received, operations,
        DSEmu.sent, receivedMessages, sentMessages, ReaderPhase.held]
    · rintro ces s e t ⟨htrace, dropped, hlaw⟩ hstep
      cases e with
      | main e =>
        rw [mainTrace_main]
        exact ⟨htrace.step (ControllerState.step_main.mp hstep).1, dropped,
          hlaw.mainStep htrace hstep⟩
      | reader e =>
        rw [mainTrace_reader,
          ControllerState.readerStep_thread (ControllerState.step_reader.mp hstep).2.2]
        exact ⟨htrace, hlaw.readerStep hstep⟩
  exact hinv.2

end

end DSEmu

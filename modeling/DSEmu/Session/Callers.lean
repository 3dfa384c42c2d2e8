import DSEmu.Library.Monitor
import DSEmu.Session.Inbox

/-!
# The inbox with any number of callers

`ControllerState` has one caller of `next()`, the main thread, and a caller that waits is a step
that is not enabled. Here are any number of callers, and the condition of the inbox as it is: a
caller that finds nothing gives the lock away and is parked until a broadcast, or nothing at all,
wakes it. Each section that holds the lock is one step; `stop()` may be called at any time, and the
transport, which `stop()` closes after its section, returns any messages and throws whenever it
likes.

`inbox_delivers` is what holds along every run of this machine.
-/

namespace DSEmu

open Automaton (exec exec_split exec_concat_eq_some exec_invariant)

/-- The inbox after `start()`, its reader thread, and the threads that may call `next()`. -/
structure InboxState (τ : Type) where
  inbox : ControllerMessageInbox := {}
  reader : ReaderPhase := .checking
  callers : τ → Waiter := fun _ => .away

/-- A step of a caller, of the reader thread, or of a thread that calls `stop()`. -/
inductive InboxEvent (τ : Type) where
  /-- `next()` is called. -/
  | called (caller : τ)
  /-- The test of `next()` holds: `condition.wait()`. -/
  | parked (caller : τ)
  /-- A wake-up for no reason. -/
  | woken (caller : τ)
  | returned (caller : τ) (message : TwoPhoneMessage)
  | threw (caller : τ) (error : SessionError)
  /-- The lock section of `stop()`. -/
  | stopped
  /-- The lock section of `readLoop` that reads `isStopped`. -/
  | checked
  /-- `transport.receive()` returns, or throws. -/
  | received (message : TwoPhoneMessage)
  | receiveFailed
  /-- The lock section after it, where the inbox has not been stopped, and where it has. -/
  | queued (message : TwoPhoneMessage)
  | dropped (message : TwoPhoneMessage)
  /-- The lock section of the `catch`. -/
  | recorded

namespace InboxEvent

variable {τ : Type}

/-- The message that `next()` returns. -/
def returned? : InboxEvent τ → Option TwoPhoneMessage
  | returned _ m => some m
  | _ => none

/-- The message that the transport returns. -/
def received? : InboxEvent τ → Option TwoPhoneMessage
  | received m => some m
  | _ => none

/-- The message that is queued. -/
def queued? : InboxEvent τ → Option TwoPhoneMessage
  | queued m => some m
  | _ => none

/-- The step of the reader thread, as `ControllerState` has it. -/
def reader? : InboxEvent τ → Option ReaderEvent
  | checked => some .checked
  | received m => some (.operation (.received m))
  | receiveFailed => some (.operation .receiveFailed)
  | queued _ => some .queued
  | dropped _ => some .queued
  | recorded => some .recorded
  | _ => none

/-- The step is the end of a `transport.receive()`. -/
def reads : InboxEvent τ → Bool
  | received _ => true
  | receiveFailed => true
  | _ => false

end InboxEvent

namespace InboxState

variable {τ : Type}

/-- `condition.broadcast()`. -/
def broadcast (s : InboxState τ) : InboxState τ := { s with callers := fun c => (s.callers c).wake }

variable [DecidableEq τ]

/-- One step. -/
def step (s : InboxState τ) : InboxEvent τ → Option (InboxState τ)
  | .called c =>
    if s.callers c = .away then some { s with callers := Function.update s.callers c .awake }
      else none
  | .parked c =>
    if s.callers c = .awake ∧ s.inbox.next = none then
      some { s with callers := Function.update s.callers c .parked }
    else none
  | .woken c =>
    if s.callers c = .parked then some { s with callers := Function.update s.callers c .awake }
    else none
  | .returned c m =>
    match s.inbox.next with
    | some (.ok m', inbox) =>
      if s.callers c = .awake ∧ m' = m then
        some { s with inbox := inbox, callers := Function.update s.callers c .away }
      else none
    | _ => none
  | .threw c error =>
    match s.inbox.next with
    | some (.error error', inbox) =>
      if s.callers c = .awake ∧ error' = error then
        some { s with inbox := inbox, callers := Function.update s.callers c .away }
      else none
    | _ => none
  | .stopped => some { s with inbox := s.inbox.stop }.broadcast
  | .checked =>
    if s.reader = .checking then
      some { s with reader := if s.inbox.isStopped then .exited else .receiving }
    else none
  | .received m => if s.reader = .receiving then some { s with reader := .queueing m } else none
  | .receiveFailed => if s.reader = .receiving then some { s with reader := .failing } else none
  | .queued m =>
    if s.reader = .queueing m ∧ s.inbox.isStopped = false then
      let (inbox, goesOn) := s.inbox.queue m
      some { s with inbox := inbox, reader := if goesOn then .checking else .exited }.broadcast
    else none
  | .dropped m =>
    if s.reader = .queueing m ∧ s.inbox.isStopped = true then some { s with reader := .exited }
    else none
  | .recorded =>
    if s.reader = .failing then
      let s' := { s with inbox := s.inbox.record .transport, reader := .exited }
      some (if s.inbox.isStopped then s' else s'.broadcast)
    else none

/-- Everything that a step can do. -/
inductive Step (s : InboxState τ) : InboxEvent τ → InboxState τ → Prop
  | called (c : τ) (hc : s.callers c = .away) :
    Step s (.called c) { s with callers := Function.update s.callers c .awake }
  | parked (c : τ) (hc : s.callers c = .awake) (hnext : s.inbox.next = none) :
    Step s (.parked c) { s with callers := Function.update s.callers c .parked }
  | woken (c : τ) (hc : s.callers c = .parked) :
    Step s (.woken c) { s with callers := Function.update s.callers c .awake }
  | returned (c : τ) (m : TwoPhoneMessage) (inbox : ControllerMessageInbox)
    (hc : s.callers c = .awake) (hnext : s.inbox.next = some (.ok m, inbox)) :
    Step s (.returned c m)
      { s with inbox := inbox, callers := Function.update s.callers c .away }
  | threw (c : τ) (error : SessionError) (hc : s.callers c = .awake)
    (hnext : s.inbox.next = some (.error error, s.inbox)) :
    Step s (.threw c error) { s with callers := Function.update s.callers c .away }
  | stopped : Step s .stopped { s with inbox := s.inbox.stop }.broadcast
  | checked (hreader : s.reader = .checking) (hopen : s.inbox.isStopped = false) :
    Step s .checked { s with reader := .receiving }
  | checkedStopped (hreader : s.reader = .checking) (hstopped : s.inbox.isStopped = true) :
    Step s .checked { s with reader := .exited }
  | received (m : TwoPhoneMessage) (hreader : s.reader = .receiving) :
    Step s (.received m) { s with reader := .queueing m }
  | receiveFailed (hreader : s.reader = .receiving) :
    Step s .receiveFailed { s with reader := .failing }
  | queued (m : TwoPhoneMessage) (hreader : s.reader = .queueing m)
    (hopen : s.inbox.isStopped = false)
    (hm : m ≠ .finishAcknowledgement) :
    Step s (.queued m) { s with
      inbox := { s.inbox with messages := s.inbox.messages ++ [m] }
      reader := .checking }.broadcast
  | queuedLast (hreader : s.reader = .queueing .finishAcknowledgement)
    (hopen : s.inbox.isStopped = false) :
    Step s (.queued .finishAcknowledgement) { s with
      inbox := { s.inbox with
        messages := s.inbox.messages ++ [TwoPhoneMessage.finishAcknowledgement]
        isStopped := true }
      reader := .exited }.broadcast
  | dropped (m : TwoPhoneMessage) (hreader : s.reader = .queueing m)
    (hstopped : s.inbox.isStopped = true) : Step s (.dropped m) { s with reader := .exited }
  | recorded (hreader : s.reader = .failing) (hopen : s.inbox.isStopped = false) :
    Step s .recorded { s with
      inbox := { s.inbox with terminalError := some .transport }
      reader := .exited }.broadcast
  | recordedStopped (hreader : s.reader = .failing) (hstopped : s.inbox.isStopped = true) :
    Step s .recorded { s with reader := .exited }

theorem Step.of_eq_some {s t : InboxState τ} {e : InboxEvent τ} (h : s.step e = some t) :
    Step s e t := by
  cases e with
  | called c =>
    obtain ⟨hc, h⟩ := Option.ite_none_right_eq_some.mp h
    exact Option.some.inj h ▸ .called c hc
  | parked c =>
    obtain ⟨hc, h⟩ := Option.ite_none_right_eq_some.mp h
    exact Option.some.inj h ▸ .parked c hc.1 hc.2
  | woken c =>
    obtain ⟨hc, h⟩ := Option.ite_none_right_eq_some.mp h
    exact Option.some.inj h ▸ .woken c hc
  -- Where `next` returns or throws, the event carries what it gives.
  | returned c m =>
    unfold step at h
    dsimp only at h
    split at h
    · rename_i m' inbox hnext
      obtain ⟨hc, h⟩ := Option.ite_none_right_eq_some.mp h
      exact Option.some.inj h ▸ .returned c m inbox hc.1 (hc.2 ▸ hnext)
    · exact absurd h nofun
  | threw c error =>
    unfold step at h
    dsimp only at h
    split at h
    · rename_i error' inbox hnext
      obtain ⟨hc, h⟩ := Option.ite_none_right_eq_some.mp h
      obtain ⟨rfl, -⟩ := ControllerMessageInbox.next_error hnext
      exact Option.some.inj h ▸ .threw c error hc.1 (hc.2 ▸ hnext)
    · exact absurd h nofun
  | stopped => exact Option.some.inj h ▸ .stopped
  | checked =>
    obtain ⟨hreader, h⟩ := Option.ite_none_right_eq_some.mp h
    cases hstopped : s.inbox.isStopped with
    | false =>
      rw [hstopped] at h
      exact Option.some.inj h ▸ .checked hreader hstopped
    | true =>
      rw [hstopped] at h
      exact Option.some.inj h ▸ .checkedStopped hreader hstopped
  | received m =>
    obtain ⟨hreader, h⟩ := Option.ite_none_right_eq_some.mp h
    exact Option.some.inj h ▸ .received m hreader
  | receiveFailed =>
    obtain ⟨hreader, h⟩ := Option.ite_none_right_eq_some.mp h
    exact Option.some.inj h ▸ .receiveFailed hreader
  -- The last message of a session stops the inbox with it.
  | queued m =>
    obtain ⟨⟨hreader, hopen⟩, h⟩ := Option.ite_none_right_eq_some.mp h
    have hstopped : ¬s.inbox.isStopped = true := by rw [hopen]; nofun
    change some (broadcast { s with
      inbox := (s.inbox.queue m).1
      reader := if (s.inbox.queue m).2 then .checking else .exited }) = some t at h
    unfold ControllerMessageInbox.queue at h
    by_cases hm : m = .finishAcknowledgement
    · subst hm
      rw [if_neg hstopped, if_pos rfl] at h
      exact Option.some.inj h ▸ .queuedLast hreader hopen
    · rw [if_neg hstopped, if_neg hm] at h
      exact Option.some.inj h ▸ .queued m hreader hopen hm
  | dropped m =>
    obtain ⟨⟨hreader, hstopped⟩, h⟩ := Option.ite_none_right_eq_some.mp h
    exact Option.some.inj h ▸ .dropped m hreader hstopped
  | recorded =>
    obtain ⟨hreader, h⟩ := Option.ite_none_right_eq_some.mp h
    unfold ControllerMessageInbox.record at h
    by_cases hstopped : s.inbox.isStopped = true
    · rw [if_pos hstopped, if_pos hstopped] at h
      exact Option.some.inj h ▸ .recordedStopped hreader hstopped
    · rw [if_neg hstopped, if_neg hstopped] at h
      exact Option.some.inj h ▸ .recorded hreader (Bool.eq_false_iff.mpr hstopped)

end InboxState

/-- What the reader thread has received and not queued: a message in its hand, or one that it has
dropped on its way out. -/
def ReaderPhase.Holds : ReaderPhase → List TwoPhoneMessage → Prop
  | .queueing m, rest => rest = [m]
  | .exited, _ => True
  | _, rest => rest = []

section Runs

open InboxEvent (returned? received? queued?)

variable {τ : Type} [DecidableEq τ] {es : List (InboxEvent τ)} {s t : InboxState τ}
  {e : InboxEvent τ}

/-- What a step takes out of the inbox and puts into it. -/
theorem InboxState.Step.messages (h : InboxState.Step s e t) :
    [e].filterMap returned? ++ t.inbox.messages = s.inbox.messages ++ [e].filterMap queued? := by
  cases h with
  | returned c m inbox hc hnext =>
    rw [(ControllerMessageInbox.next_ok hnext).1]
    exact (List.append_nil _).symm
  | queued => rfl
  | queuedLast => rfl
  | _ => exact (List.append_nil _).symm

/-- What a step puts into the reader thread's hand and takes out of it. -/
theorem InboxState.Step.holds (h : InboxState.Step s e t) {rest : List TwoPhoneMessage}
    (hrest : s.reader.Holds rest) :
    ∃ rest', rest ++ [e].filterMap received? = [e].filterMap queued? ++ rest' ∧
      t.reader.Holds rest' := by
  cases h with
  | received m hreader =>
    rw [hreader] at hrest
    obtain rfl : rest = [] := hrest
    exact ⟨[m], rfl, rfl⟩
  | queued m hreader =>
    rw [hreader] at hrest
    obtain rfl : rest = [m] := hrest
    exact ⟨[], rfl, rfl⟩
  | queuedLast hreader =>
    rw [hreader] at hrest
    obtain rfl : rest = [.finishAcknowledgement] := hrest
    exact ⟨[], rfl, trivial⟩
  | checked hreader =>
    rw [hreader] at hrest
    obtain rfl : rest = [] := hrest
    exact ⟨[], rfl, rfl⟩
  | receiveFailed hreader =>
    rw [hreader] at hrest
    obtain rfl : rest = [] := hrest
    exact ⟨[], rfl, rfl⟩
  | checkedStopped => exact ⟨rest, List.append_nil _, trivial⟩
  | dropped => exact ⟨rest, List.append_nil _, trivial⟩
  | recorded => exact ⟨rest, List.append_nil _, trivial⟩
  | recordedStopped => exact ⟨rest, List.append_nil _, trivial⟩
  | _ => exact ⟨rest, List.append_nil _, hrest⟩

/-- The reader thread is the one of `ControllerState`. -/
theorem InboxState.Step.readerStep {σ : Type} (h : InboxState.Step s e t) {e' : ReaderEvent}
    (he : e.reader? = some e') (thread : ControllerThread σ) :
    (ControllerState.mk thread s.inbox s.reader).readerStep e' =
      some (ControllerState.mk thread t.inbox t.reader) := by
  cases h with
  | called => exact absurd he nofun
  | parked => exact absurd he nofun
  | woken => exact absurd he nofun
  | returned => exact absurd he nofun
  | threw => exact absurd he nofun
  | stopped => exact absurd he nofun
  | checked hreader hopen =>
    -- the check of `isStopped`, and so on in the order of `readLoop`
    obtain rfl := Option.some.inj he
    simp [ControllerState.readerStep, hreader, hopen]
  | checkedStopped hreader hstopped =>
    obtain rfl := Option.some.inj he
    simp [ControllerState.readerStep, hreader, hstopped]
  | received m hreader =>
    obtain rfl := Option.some.inj he
    simp [ControllerState.readerStep, hreader]
  | receiveFailed hreader =>
    obtain rfl := Option.some.inj he
    simp [ControllerState.readerStep, hreader]
  | queued m hreader hopen hm =>
    obtain rfl := Option.some.inj he
    simp [ControllerState.readerStep, ControllerMessageInbox.queue, InboxState.broadcast, hreader,
      hopen, hm]
  | queuedLast hreader hopen =>
    obtain rfl := Option.some.inj he
    simp [ControllerState.readerStep, ControllerMessageInbox.queue, InboxState.broadcast, hreader,
      hopen]
  | dropped m hreader hstopped =>
    obtain rfl := Option.some.inj he
    simp [ControllerState.readerStep, ControllerMessageInbox.queue, hreader, hstopped]
  | recorded hreader hopen =>
    obtain rfl := Option.some.inj he
    simp [ControllerState.readerStep, ControllerMessageInbox.record, InboxState.broadcast, hreader,
      hopen]
  | recordedStopped hreader hstopped =>
    obtain rfl := Option.some.inj he
    simp [ControllerState.readerStep, ControllerMessageInbox.record, hreader, hstopped]

/-- The messages that are queued are those that `next()` has returned and those in the inbox. -/
theorem queued_of_exec (h : exec InboxState.step {} es = some s) :
    es.filterMap queued? = es.filterMap returned? ++ s.inbox.messages := by
  refine exec_invariant (I := fun es (s : InboxState τ) =>
    es.filterMap queued? = es.filterMap returned? ++ s.inbox.messages) rfl ?_ h
  intro es s e t hes ht
  rw [List.filterMap_append, List.filterMap_append, hes, List.append_assoc, List.append_assoc,
    (InboxState.Step.of_eq_some ht).messages]

/-- The messages of the transport are those that are queued and what the reader thread holds. -/
theorem received_of_exec (h : exec InboxState.step {} es = some s) :
    ∃ rest, es.filterMap received? = es.filterMap queued? ++ rest ∧ s.reader.Holds rest := by
  refine exec_invariant (I := fun es (s : InboxState τ) =>
    ∃ rest, es.filterMap received? = es.filterMap queued? ++ rest ∧ s.reader.Holds rest)
    (s := {}) ⟨[], rfl, rfl⟩ ?_ h
  rintro es s e t ⟨rest, hes, hrest⟩ ht
  obtain ⟨rest', hrest', hholds⟩ := (InboxState.Step.of_eq_some ht).holds hrest
  refine ⟨rest', ?_, hholds⟩
  rw [List.filterMap_append, List.filterMap_append, hes, List.append_assoc, hrest',
    List.append_assoc]

/-- Why a caller is parked, and how the reader thread has ended. -/
structure InboxWaits (s : InboxState τ) : Prop where
  justified : Justified (fun _ (b : ControllerMessageInbox) => b.next = none) s.inbox s.callers
  exited : s.reader = .exited → s.inbox.isStopped = true ∨ s.inbox.terminalError ≠ none
  started : s.reader ≠ .idle

theorem inboxWaits_step (hs : InboxWaits s) (h : InboxState.Step s e t) : InboxWaits t := by
  obtain ⟨hjustified, hexited, hstarted⟩ := hs
  cases h with
  | called c hc => exact ⟨hjustified.update c .awake nofun, hexited, hstarted⟩
  | parked c hc hnext => exact ⟨hjustified.update c .parked fun _ => hnext, hexited, hstarted⟩
  | woken c hc => exact ⟨hjustified.update c .awake nofun, hexited, hstarted⟩
  | returned c m inbox hc hnext =>
    obtain ⟨-, herror, hstopped⟩ := ControllerMessageInbox.next_ok hnext
    -- nobody is parked beside a message
    have hnone : Justified (fun _ (b : ControllerMessageInbox) => b.next = none) inbox s.callers :=
      hjustified.mono fun _ h => absurd (hnext.symm.trans h) nofun
    refine ⟨hnone.update c .away nofun, ?_, hstarted⟩
    show s.reader = .exited → inbox.isStopped = true ∨ inbox.terminalError ≠ none
    rw [herror, hstopped]
    exact hexited
  | threw c error hc hnext => exact ⟨hjustified.update c .away nofun, hexited, hstarted⟩
  | stopped => exact ⟨Justified.broadcast _ _, fun _ => .inl rfl, hstarted⟩
  | checked hreader hopen => exact ⟨hjustified, nofun, nofun⟩
  | checkedStopped hreader hstopped => exact ⟨hjustified, fun _ => .inl hstopped, nofun⟩
  | received m hreader => exact ⟨hjustified, nofun, nofun⟩
  | receiveFailed hreader => exact ⟨hjustified, nofun, nofun⟩
  | queued m hreader hopen hm => exact ⟨Justified.broadcast _ _, nofun, nofun⟩
  | queuedLast hreader hopen => exact ⟨Justified.broadcast _ _, fun _ => .inl rfl, nofun⟩
  | dropped m hreader hstopped => exact ⟨hjustified, fun _ => .inl hstopped, nofun⟩
  | recorded hreader hopen => exact ⟨Justified.broadcast _ _, fun _ => .inr nofun, nofun⟩
  | recordedStopped hreader hstopped => exact ⟨hjustified, fun _ => .inl hstopped, nofun⟩

theorem inboxWaits_of_exec (h : exec InboxState.step {} es = some s) : InboxWaits s :=
  Automaton.exec_preserves (s := {})
    (fun _ _ _ hs ht => inboxWaits_step hs (InboxState.Step.of_eq_some ht))
    ⟨fun _ h => absurd h nofun, nofun, nofun⟩ h

/-- The reader thread has received a `finishAcknowledgement`, and will receive nothing more. -/
def ReaderPhase.Last (reader : ReaderPhase) : Prop :=
  reader = .queueing .finishAcknowledgement ∨ reader = .exited

theorem InboxState.Step.last (h : InboxState.Step s e t) (hs : s.reader.Last) :
    e.reads = false ∧ t.reader.Last := by
  have hnot : ∀ reader : ReaderPhase, s.reader = reader → reader.Last := fun _ h => h ▸ hs
  cases h with
  | received m hreader => exact absurd (hnot _ hreader) (by simp [ReaderPhase.Last])
  | receiveFailed hreader => exact absurd (hnot _ hreader) (by simp [ReaderPhase.Last])
  | checked hreader => exact absurd (hnot _ hreader) (by simp [ReaderPhase.Last])
  | queued m hreader hopen hm => exact absurd (hnot _ hreader) (by simp [ReaderPhase.Last, hm])
  | queuedLast => exact ⟨rfl, .inr rfl⟩
  | checkedStopped => exact ⟨rfl, .inr rfl⟩
  | dropped => exact ⟨rfl, .inr rfl⟩
  | recorded => exact ⟨rfl, .inr rfl⟩
  | recordedStopped => exact ⟨rfl, .inr rfl⟩
  | _ => exact ⟨rfl, hs⟩

/-- From there on, no step reads. -/
theorem reads_of_last {es : List (InboxEvent τ)} (h : exec InboxState.step s es = some t)
    (hs : s.reader.Last) : (∀ e ∈ es, e.reads = false) ∧ t.reader.Last := by
  induction es generalizing s with
  | nil => exact ⟨nofun, Option.some.inj h ▸ hs⟩
  | cons e es ih =>
    rw [Automaton.exec_cons, Option.bind_eq_some_iff] at h
    obtain ⟨u, hu, ht⟩ := h
    obtain ⟨he, hlast⟩ := (InboxState.Step.of_eq_some hu).last hs
    obtain ⟨hes, ht⟩ := ih ht hlast
    exact ⟨List.forall_mem_cons.mpr ⟨he, hes⟩, ht⟩

end Runs

/-- What holds after a run `es` of the inbox that ends in `s`. -/
structure InboxDelivers {τ : Type} [DecidableEq τ] (es : List (InboxEvent τ)) (s : InboxState τ) :
    Prop where
  /-- What `next()` has returned is the front of what the transport has returned. -/
  delivered : es.filterMap InboxEvent.returned? <+: es.filterMap InboxEvent.received?
  /-- Where `next()` throws, everything that is queued has been returned. -/
  drained : ∀ pre c error post, es = pre ++ .threw c error :: post →
    pre.filterMap InboxEvent.returned? = pre.filterMap InboxEvent.queued?
  /-- After a `finishAcknowledgement` the reader thread does not call `receive()` again. -/
  last : ∀ pre post, es = pre ++ .received .finishAcknowledgement :: post →
    (∀ e ∈ post, e.reads = false) ∧ s.reader ≠ .receiving
  /-- Beside a parked caller the reader thread is running, and nothing is there to return or to
  throw. -/
  parked : ∀ c, s.callers c = .parked →
    s.reader ≠ .idle ∧ s.reader ≠ .exited ∧ s.inbox.isStopped = false
  /-- A caller that takes the lock after the reader thread has ended or `stop()` was called returns
  or throws. -/
  ends : s.reader = .exited ∨ s.inbox.isStopped = true → ∀ c, s.callers c = .awake →
    s.step (.parked c) = none ∧
      ((∃ m t, s.step (.returned c m) = some t) ∨ ∃ error t, s.step (.threw c error) = some t)

/-- In every run, the callers of `next()` get the messages of the transport, each once and in order,
none gets an error before everything queued has been returned, and none is left parked. -/
theorem inbox_delivers {τ : Type} [DecidableEq τ] {es : List (InboxEvent τ)} {s : InboxState τ}
    (h : exec InboxState.step {} es = some s) : InboxDelivers es s := by
  have hwaits := inboxWaits_of_exec h
  refine ⟨?_, ?_, ?_, ?_, ?_⟩
  -- What was returned and what is queued is a prefix of what was received.
  · obtain ⟨rest, hreceived, -⟩ := received_of_exec h
    rw [hreceived, queued_of_exec h, List.append_assoc]
    exact List.prefix_append _ _
  -- An error is thrown only where the queue is empty.
  · rintro pre c error post rfl
    obtain ⟨t, u, ht, hu, -⟩ := exec_split h
    cases InboxState.Step.of_eq_some hu with
    | threw c error hc hnext =>
      rw [queued_of_exec ht, (ControllerMessageInbox.next_error hnext).2.1, List.append_nil]
  -- Nothing is read after the finish acknowledgement.
  · rintro pre post rfl
    obtain ⟨t, u, ht, hu, hpost⟩ := exec_split h
    cases InboxState.Step.of_eq_some hu with
    | received m hreader =>
      obtain ⟨hpost, hlast⟩ := reads_of_last hpost (.inl rfl)
      refine ⟨hpost, fun hreceiving => ?_⟩
      rw [hreceiving] at hlast
      exact absurd hlast (by simp [ReaderPhase.Last])
  -- Beside a parked caller `next` has nothing to give, so the reader thread has not ended.
  · intro c hc
    obtain ⟨hmessages, herror, hstopped⟩ :=
      ControllerMessageInbox.next_eq_none (hwaits.justified c hc)
    refine ⟨hwaits.started, fun hexited => ?_, hstopped⟩
    rcases hwaits.exited hexited with h' | h'
    · exact absurd (hstopped.symm.trans h') nofun
    · exact h' herror
  -- After the end `next` gives a message or an error, so a caller does not park again.
  · intro hended c hc
    have hnext : s.inbox.next ≠ none := by
      intro hnone
      obtain ⟨-, herror, hstopped⟩ := ControllerMessageInbox.next_eq_none hnone
      have hopen : ¬s.inbox.isStopped = true := by rw [hstopped]; nofun
      rcases hended with hexited | h'
      · exact (hwaits.exited hexited).elim hopen fun h' => h' herror
      · exact hopen h'
    refine ⟨if_neg fun h' => hnext h'.2, ?_⟩
    obtain ⟨⟨result, inbox⟩, hresult⟩ := Option.ne_none_iff_exists'.mp hnext
    cases result with
    | ok m =>
      refine .inl ⟨m, { s with inbox := inbox, callers := Function.update s.callers c .away }, ?_⟩
      rw [InboxState.step, hresult]
      exact if_pos ⟨hc, rfl⟩
    | error error =>
      refine .inr ⟨error, { s with inbox := inbox, callers := Function.update s.callers c .away },
        ?_⟩
      rw [InboxState.step, hresult]
      exact if_pos ⟨hc, rfl⟩

/-- Two callers and two messages, with the inbox stopped in between: the second caller gets the
message that is still queued. -/
theorem inbox_delivers_two_callers : ∃ s : InboxState Bool,
    InboxDelivers [.called true, .parked true, .checked, .received .ready, .queued .ready,
      .called false,
      .returned false .ready, .checked, .parked true, .received .start, .queued .start, .stopped,
      .returned true .start, .checked, .called false, .threw false .inboxStopped] s :=
  ⟨_, inbox_delivers rfl⟩

end DSEmu

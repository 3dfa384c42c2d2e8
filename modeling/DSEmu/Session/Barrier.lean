import DSEmu.Session.ControllerTrace
import DSEmu.Session.Inbox

/-!
# The controller's window and its checkpoint barrier

Against an arbitrary peer, the controller sends the input of frame n only after it has consumed the
acknowledgements of all frames up to n minus the window, and of all frames up to every checkpoint
before n, with the controller's own digest at the checkpoint. A checkpoint that does not match is
the last frame: one finish is sent and nothing else. Anything but the acknowledgement of the oldest
pending frame makes `run()` throw (`controller_barrier`).

The peer reports how long it took for each frame, and the controller adds the times up between
checkpoints in a `UInt64`, before it compares the digests. A peer whose times do not fit makes that
sum trap, and the checkpoint is never answered (`controller_traps_on_durations`). `TimesFit` is the
condition under which this does not happen. It is needed for the answer to a checkpoint only: the
window (`WindowLaw`) holds without it.
-/

namespace DSEmu

open Automaton (exec)

/-- The acknowledgements that a trace has taken from the inbox. -/
def consumedAcks (es : List SessionEvent) : List FrameAcknowledgement :=
  (consumed es).filterMap TwoPhoneMessage.acknowledgement?

/-- The oldest frame that is stepped and not acknowledged. -/
def oldestPending (es : List SessionEvent) : Option SteppedFrame :=
  (steps es)[(consumed es).length]?

/-- At every acknowledgement of the oldest pending frame, the durations reported since the last
checkpoint, with its own, sum to a `UInt64`. -/
def TimesFit (c : TwoPhoneConfiguration) (es : List SessionEvent) : Prop :=
  ∀ pre a post st, es = pre ++ .next (.acknowledgement a) :: post → oldestPending pre = some st →
    a.frame = st.frame →
      durationSinceCheckpoint c (consumedAcks pre) + a.processingNanoseconds.toNat < UInt64.size

/-- Times fit when all of them together do. -/
theorem timesFit_of_sum {c : TwoPhoneConfiguration} {es : List SessionEvent}
    (h : ((consumedAcks es).map fun a => a.processingNanoseconds.toNat).sum < UInt64.size) :
    TimesFit c es := by
  intro pre a post st hes _ _
  have hle := durationSinceCheckpoint_le c (consumedAcks pre)
  have hacks : consumedAcks es = consumedAcks pre ++ a :: consumedAcks post := by
    rw [hes]
    simp [consumedAcks, consumed, SessionEvent.next?, TwoPhoneMessage.acknowledgement?]
  rw [hacks, List.map_append, List.sum_append, List.map_cons, List.sum_cons] at h
  omega

/-- An acknowledgement confirms a frame stepped when both sides have a digest, and the same one. -/
def FrameAcknowledgement.Confirms (a : FrameAcknowledgement) (st : SteppedFrame) : Prop :=
  a.frame = st.frame ∧ st.digest.isSome ∧ a.digest = st.digest

section

variable {σ : Type} (S : TwoPhoneSession σ)

/-- What a trace `es` of the controller's main thread that leads to the state `s` says about its
window. -/
structure WindowLaw (es : List SessionEvent) (s : ControllerThread σ) : Prop where
  /-- the frames stepped are 1, 2, …, on schedule -/
  scheduled : Scheduled S.configuration (steps es)
  /-- when the input of a frame is sent, the acknowledgements of all frames up to the window before
  it have been consumed, in order and once each, and those of all checkpoints, which match -/
  window : ∀ pre e post input, es = pre ++ e :: post →
    e = .operation (.sent (.input input)) ∨ e = .operation (.sendFailed (.input input)) →
      ∃ (frame : UInt64) (acks : List FrameAcknowledgement),
        (provided pre).getLast? = some (frame, input) ∧
        frame.toNat = (steps pre).length + 1 ∧
        consumed pre = acks.map .acknowledgement ∧
        acks.map (fun a => a.frame.toNat) = List.range' 1 acks.length ∧
        frame.toNat ≤ acks.length + S.configuration.frameWindow ∧
        ∀ st ∈ steps pre, st.needsDigest = true → ∃ a ∈ acks, a.Confirms st
  /-- anything but the acknowledgement of the oldest pending frame is thrown at, without a finish -/
  unexpected : ∀ pre m post st, es = pre ++ .next m :: post → oldestPending pre = some st →
    (∀ a, m = .acknowledgement a → a.frame ≠ st.frame) →
      (∃ error, ControllerThread.LeavingInbox (.error error) post s) ∧
        ∀ frame success detail, .finish frame success detail ∉ attempted es

/-- What a trace `es` of the controller's main thread that leads to the state `s` says about its
window and its checkpoints. -/
structure CheckpointBarrier (es : List SessionEvent) (s : ControllerThread σ) : Prop
    extends WindowLaw S es s where
  /-- a checkpoint that is not confirmed is answered by one finish, and by nothing else: until it
  is sent, the thread is about to send it, and its counter of checkpoints is an `Int` -/
  mismatch : ∀ pre a post st, es = pre ++ .next (.acknowledgement a) :: post →
    oldestPending pre = some st → a.frame = st.frame → st.needsDigest = true → ¬ a.Confirms st →
      ∃ detail, steps post = [] ∧ provided post = [] ∧
        attempted post <+: [.finish st.frame false detail] ∧
        (post = [] → s.phase = .sendingFinish false detail ∧ s.checkpoints < 2 ^ 63) ∧
        (post ≠ [] → attempted post = [.finish st.frame false detail])

variable {S} {s t : ControllerThread σ} {es : List SessionEvent} {done : List AcknowledgedFrame}
  {pending : List SteppedFrame}

/-- The acknowledgements of the frames done. -/
theorem ControllerIdle.consumedAcks_eq {k : ℕ} (h : ControllerIdle S k es done pending s) :
    consumedAcks es = done.map AcknowledgedFrame.acknowledgement := by
  unfold consumedAcks
  rw [h.consumed_eq, List.filterMap_map]
  exact congrFun List.filterMap_eq_map done

/-- The frames acknowledged are the first ones. -/
theorem ControllerIdle.acks_numbered {k : ℕ} (h : ControllerIdle S k es done pending s) :
    (done.map AcknowledgedFrame.acknowledgement).map (fun a => a.frame.toNat) =
      List.range' 1 (done.map AcknowledgedFrame.acknowledgement).length := by
  have hnumbered := (Scheduled.of_append h.scheduled).numbered
  rw [List.length_map] at hnumbered ⊢
  rw [← hnumbered, List.map_map, List.map_map]
  apply List.map_congr_left
  intro p hp
  change p.acknowledgement.frame.toNat = p.step.frame.toNat
  rw [h.matched p hp]

/-- Where no pending frame is a checkpoint, every checkpoint is confirmed. -/
theorem ControllerIdle.confirmed {k : ℕ} (h : ControllerIdle S k es done pending s)
    (hverified : ∀ p ∈ done, p.Verified) (hrelaxed : Relaxed pending) {st : SteppedFrame}
    (hst : st ∈ steps es) (hneeds : st.needsDigest = true) :
    ∃ a ∈ done.map AcknowledgedFrame.acknowledgement, a.Confirms st := by
  rw [h.steps_eq, ledgerSteps, List.mem_append, List.mem_map] at hst
  rcases hst with ⟨p, hp, rfl⟩ | hpending
  · obtain ⟨hsome, hequal⟩ := hverified p hp hneeds
    exact ⟨p.acknowledgement, List.mem_map_of_mem hp, h.matched p hp, hsome, hequal⟩
  · rw [hrelaxed st hpending] at hneeds
    exact absurd hneeds (by decide)

/-- The oldest pending frame, where a loop waits for its acknowledgement. -/
theorem ControllerIdle.oldestPending_eq {k : ℕ} {st : SteppedFrame}
    (h : ControllerIdle S k es done (st :: pending) s) : oldestPending es = some st := by
  unfold oldestPending
  rw [h.steps_eq, h.consumed_eq, ledgerSteps, List.length_map,
    List.getElem?_append_right (Nat.le_of_eq (List.length_map _))]
  simp

/-- No frame is pending once the session is to finish. -/
theorem ControllerIdle.oldestPending_none {k : ℕ} (h : ControllerIdle S k es done [] s) :
    oldestPending es = none := by
  unfold oldestPending
  rw [h.steps_eq, h.consumed_eq, ledgerSteps, List.length_map, List.append_nil]
  exact List.getElem?_eq_none (Nat.le_of_eq (List.length_map _))

/-- A thread on its way out past the inbox sends, steps, and asks for nothing. -/
theorem ControllerThread.Leaving.silent {result : SessionResult} {post : List SessionEvent}
    (h : ControllerThread.Leaving result post s) :
    attempted post = [] ∧ steps post = [] ∧ provided post = [] := by
  rcases h with ⟨rfl, -⟩ | ⟨rfl, -⟩ | ⟨rfl, -⟩ <;> exact ⟨rfl, rfl, rfl⟩

/-- Nor does a thread on its way out that stops the inbox. -/
theorem ControllerThread.LeavingInbox.silent {result : SessionResult} {post : List SessionEvent}
    (h : ControllerThread.LeavingInbox result post s) :
    attempted post = [] ∧ steps post = [] ∧ provided post = [] := by
  rcases h with ⟨rfl, -⟩ | ⟨rfl, -⟩ | ⟨rest, rfl, h⟩
  · exact ⟨rfl, rfl, rfl⟩
  · exact ⟨rfl, rfl, rfl⟩
  · exact h.silent

/-- What a thread does once the session is to finish: one finish, and nothing else. -/
theorem ControllerThread.finishing_of_exec {success : Bool} {detail : String}
    {post : List SessionEvent} (hs : s.phase = .sendingFinish success detail)
    (h : exec (ControllerThread.step S) s post = some t) :
    steps post = [] ∧ provided post = [] ∧
      ((post = [] ∧ t.phase = .sendingFinish success detail) ∨
        (post ≠ [] ∧ attempted post = [.finish s.frame success detail])) := by
  rcases ControllerThread.exec_sendingFinish hs h with ⟨rfl, hp⟩ |
    ⟨e, rest, rfl, ⟨rfl, u, hu, hrest⟩ | ⟨rfl, error, hleaving⟩⟩
  · exact ⟨rfl, rfl, .inl ⟨rfl, hp⟩⟩
  · have hsilent : attempted rest = [] ∧ steps rest = [] ∧ provided rest = [] := by
      rcases ControllerThread.exec_awaitingFinish hu hrest with ⟨rfl, -⟩ |
        ⟨e, rest', result, rfl, he, hleaving⟩
      · exact ⟨rfl, rfl, rfl⟩
      · have hsilent := hleaving.silent
        rcases he with ⟨m, rfl⟩ | ⟨error, rfl⟩ <;> exact hsilent
    obtain ⟨hattempted, hsteps, hprovided⟩ := hsilent
    refine ⟨hsteps, hprovided, .inr ⟨List.cons_ne_nil _ _, ?_⟩⟩
    rw [← List.singleton_append, attempted_append, hattempted]
    rfl
  · obtain ⟨hattempted, hsteps, hprovided⟩ := hleaving.silent
    refine ⟨hsteps, hprovided, .inr ⟨List.cons_ne_nil _ _, ?_⟩⟩
    rw [← List.singleton_append, attempted_append, hattempted]
    rfl

/-- The window and the barrier, at the call that sends an input. -/
theorem ControllerTrace.window {input : DSInputFrame} (h : ControllerTrace S es s)
    (hp : s.phase = .sendingInput input) :
    ∃ (frame : UInt64) (acks : List FrameAcknowledgement),
      (provided es).getLast? = some (frame, input) ∧ frame.toNat = (steps es).length + 1 ∧
        consumed es = acks.map .acknowledgement ∧
        acks.map (fun a => a.frame.toNat) = List.range' 1 acks.length ∧
        frame.toNat ≤ acks.length + S.configuration.frameWindow ∧
        ∀ st ∈ steps es, st.needsDigest = true → ∃ a ∈ acks, a.Confirms st := by
  unfold ControllerTrace at h
  rw [hp] at h
  obtain ⟨pre, done, pending, idle, hverified, hrelaxed, rfl⟩ := h
  have hsteps : steps (pre ++ [.provided s.frame input]) = ledgerSteps done pending := by
    rw [steps_append, idle.steps_eq]
    exact List.append_nil _
  have hlength : (ledgerSteps done pending).length = done.length + pending.length := by
    rw [ledgerSteps, List.length_append, List.length_map]
  have hframe := idle.frame
  have hshort := idle.short
  refine ⟨s.frame, done.map AcknowledgedFrame.acknowledgement, ?_, ?_, ?_, idle.acks_numbered, ?_,
    ?_⟩
  · rw [provided_append, List.getLast?_append]
    rfl
  · rw [hsteps, hlength, hframe]
  · rw [consumed_append, idle.consumed_eq, List.map_map]
    exact List.append_nil _
  · rw [List.length_map, hframe]
    omega
  · intro st hst hneeds
    rw [hsteps, ← idle.steps_eq] at hst
    exact idle.confirmed hverified hrelaxed hst hneeds

/-- The acknowledgement of a checkpoint that does not confirm it, at the call that waits for it: the
next call sends the finish, unless the durations have overflowed. -/
theorem ControllerTrace.mismatch {a : FrameAcknowledgement} {st : SteppedFrame}
    {loop : AcknowledgementLoop} (h : ControllerTrace S es s)
    (hp : s.phase = .awaitingAcknowledgement loop) (holdest : oldestPending es = some st)
    (hframe : a.frame = st.frame) (hneeds : st.needsDigest = true) (hconfirms : ¬ a.Confirms st)
    (hfit : durationSinceCheckpoint S.configuration (consumedAcks es) +
      a.processingNanoseconds.toNat < UInt64.size) :
    ∃ detail, (s.acknowledged S loop (.acknowledgement a)).phase = .sendingFinish false detail ∧
      (s.acknowledged S loop (.acknowledgement a)).frame = st.frame ∧
      (s.acknowledged S loop (.acknowledgement a)).checkpoints = checkpointCount (steps es) := by
  unfold ControllerTrace at h
  rw [hp] at h
  obtain ⟨done, st', pending, idle, hverified, hpending⟩ := h
  have hst : st' = st := by
    rw [idle.oldestPending_eq, Option.some.injEq] at holdest
    exact holdest
  subst hst
  -- a frame that needs a digest is the last one that is pending
  obtain ⟨rfl, rfl⟩ := hpending.head hneeds
  have hlast : st'.frame = s.frame := ControllerIdle.getLast_frame [] idle
  have hrecord : s.displayFrameTiming.record a.processingNanoseconds ≠ none := by
    rw [Ne, DisplayFrameTiming.record_eq_none idle.count_lt, idle.total hverified,
      ← idle.consumedAcks_eq]
    omega
  rcases ControllerThread.acknowledged_cases S idle.pendingFrames .checkpoint (.acknowledgement a)
    with ⟨_, ⟨⟩, -, hout⟩ | ⟨hwrong, -⟩
  · rcases hout with ⟨hnone, -⟩ | ⟨timing, -, hout⟩
    · exact absurd hnone hrecord
    · rcases hout with ⟨hfree, -⟩ | ⟨-, hequal, -⟩ | ⟨-, failure, -, hout⟩
      · exact absurd (hneeds.symm.trans hfree) (by decide)
      · exact absurd ⟨hframe, ControllerThread.digestFailure_eq_none.mp hequal⟩ hconfirms
      · -- it is the last checkpoint that the thread counts
        have hcount : checkpointCount (steps es) = s.checkpoints + 1 := by
          rw [idle.steps_eq, ledgerSteps, checkpointCount_concat, hneeds, idle.checkpoints]
          rfl
        rw [hout, hcount]
        exact ⟨failure, rfl, hlast.symm, rfl⟩
  · exact absurd hframe (hwrong a rfl)

/-- No finish has been sent while the controller waits for an acknowledgement. -/
theorem ControllerIdle.not_mem_attempted {k : ℕ} (h : ControllerIdle S k es done pending s)
    (frame : UInt64) (success : Bool) (detail : String) :
    .finish frame success detail ∉ attempted es := by
  obtain ⟨stateHash, -, hsent, hattempted⟩ := h.messages_eq
  rw [hattempted, hsent]
  simp [TwoPhoneSession.hello]

/-- While the controller waits for the acknowledgement of its finish, no frame is pending. -/
theorem ControllerTrace.oldestPending_finish {success : Bool} {detail : String}
    (h : ControllerTrace S es s) (hp : s.phase = .awaitingFinish success detail) :
    oldestPending es = none := by
  unfold ControllerTrace at h
  rw [hp] at h
  obtain ⟨pre, done, idle, -, rfl⟩ := h
  have hnone := idle.oldestPending_none
  unfold oldestPending at hnone ⊢
  rw [steps_append, consumed_append]
  exact (congrArg₂ (fun (a : List SteppedFrame) (b : List TwoPhoneMessage) => a[b.length]?)
    (List.append_nil _) (List.append_nil _)).trans hnone

/-- A message that is not the acknowledgement of the oldest pending frame, at the call that waits
for it: the thread throws, and it has sent no finish. -/
theorem ControllerTrace.unexpected {m : TwoPhoneMessage} {st : SteppedFrame}
    {loop : AcknowledgementLoop} (h : ControllerTrace S es s)
    (hp : s.phase = .awaitingAcknowledgement loop) (holdest : oldestPending es = some st)
    (hwrong : ∀ a, m = .acknowledgement a → a.frame ≠ st.frame) :
    (∃ error, s.acknowledged S loop m = s.throwLate error) ∧
      ∀ frame success detail, .finish frame success detail ∉ attempted es := by
  unfold ControllerTrace at h
  rw [hp] at h
  obtain ⟨done, st', pending, idle, -, -⟩ := h
  have hst : st' = st := by
    rw [idle.oldestPending_eq, Option.some.injEq] at holdest
    exact holdest
  subst hst
  refine ⟨?_, idle.not_mem_attempted⟩
  rcases ControllerThread.acknowledged_cases S idle.pendingFrames loop m with
    ⟨a, rfl, hf, -⟩ | ⟨-, hout⟩
  · exact absurd hf (hwrong a rfl)
  · exact hout

/-- The controller's window holds in every run, against an arbitrary peer. -/
theorem windowLaw_of_exec {host : σ}
    (h : exec (ControllerThread.step S) { host := host } es = some s) : WindowLaw S es s := by
  have htrace : ControllerTrace S es s := controllerTrace_of_exec h
  refine ⟨htrace.scheduled, ?_, ?_⟩
  -- The window, at the step that asks for an input or sends it.
  · intro pre e post input hes he
    subst hes
    obtain ⟨t, t', ht, hstep, -⟩ := Automaton.exec_split h
    exact ControllerTrace.window (controllerTrace_of_exec ht) (ControllerThread.step_input he hstep)
  -- Any other message throws, and no finish is sent at all.
  · intro pre m post st hes holdest hwrong
    subst hes
    obtain ⟨t, t', ht, hstep, hpost⟩ := Automaton.exec_split h
    have hpre : ControllerTrace S pre t := controllerTrace_of_exec ht
    rcases ControllerThread.step_next hstep with ⟨loop, hp, rfl⟩ | ⟨success, detail, hp⟩
    · obtain ⟨⟨error, hthrow⟩, hnone⟩ := hpre.unexpected hp holdest hwrong
      rw [hthrow] at hpost
      have hleaving := ControllerThread.leavingInbox_of_exec rfl hpost
      refine ⟨⟨error, hleaving⟩, fun frame success detail => ?_⟩
      have hnext : attempted [.next m] = [] := rfl
      rw [attempted_append, ← List.singleton_append, attempted_append, hleaving.silent.1, hnext,
        List.append_nil, List.append_nil]
      exact hnone frame success detail
    · rw [hpre.oldestPending_finish hp] at holdest
      exact absurd holdest nofun

/-- The controller's window holds in every run, against an arbitrary peer, and its checkpoint
barrier in every run where the durations that the peer reports fit and the checkpoints can be
counted. -/
theorem controller_barrier {host : σ} {events : List ControllerEvent} {u : ControllerState σ}
    (h : exec (ControllerState.step S) { thread := { host := host } } events = some u) :
    WindowLaw S (events.filterMap ControllerEvent.main?) u.thread ∧
      (TimesFit S.configuration (events.filterMap ControllerEvent.main?) →
        checkpointCount (steps (events.filterMap ControllerEvent.main?)) < 2 ^ 63 →
          CheckpointBarrier S (events.filterMap ControllerEvent.main?) u.thread) := by
  have hrun := ControllerState.exec_thread h
  generalize events.filterMap ControllerEvent.main? = es at hrun ⊢
  have hwindow : WindowLaw S es u.thread := windowLaw_of_exec hrun
  refine ⟨hwindow, fun hfit hfew => ⟨hwindow, ?_⟩⟩
  -- A checkpoint that is not confirmed: the finish of the mismatch is the last message.
  intro pre a post st hes holdest hframe hneeds hconfirms
  have hsum := hfit pre a post st hes holdest hframe
  subst hes
  obtain ⟨t, t', ht, hstep, hpost⟩ := Automaton.exec_split hrun
  have hpre : ControllerTrace S pre t := controllerTrace_of_exec ht
  rcases ControllerThread.step_next hstep with ⟨loop, hp, rfl⟩ | ⟨success, detail, hp⟩
  · obtain ⟨detail, hphase, hfinish, hcount⟩ :=
      hpre.mismatch hp holdest hframe hneeds hconfirms hsum
    obtain ⟨hsteps, hprovided, hsends⟩ := ControllerThread.finishing_of_exec hphase hpost
    rw [hfinish] at hsends
    refine ⟨detail, hsteps, hprovided, ?_, ?_, ?_⟩
    · rcases hsends with ⟨rfl, -⟩ | ⟨-, hattempted⟩
      · exact List.nil_prefix
      · exact hattempted ▸ List.prefix_refl _
    · rintro rfl
      rcases hsends with ⟨-, hstill⟩ | ⟨hne, -⟩
      · have hlast : u.thread.checkpoints = checkpointCount (steps pre) := by
          rw [← Option.some.inj hpost]
          exact hcount
        have hsame : steps (pre ++ [.next (.acknowledgement a)]) = steps pre := by
          rw [steps_append]
          exact List.append_nil _
        rw [hsame] at hfew
        exact ⟨hstill, hlast ▸ hfew⟩
      · exact absurd rfl hne
    · intro hne
      rcases hsends with ⟨hnil, -⟩ | ⟨-, hattempted⟩
      · exact absurd hnil hne
      · exact hattempted
  · rw [hpre.oldestPending_finish hp] at holdest
    exact absurd holdest nofun

end

/-- A run of it through its first two frames, whose acknowledgements report the given durations, and
the second one no digest. -/
def twoFrameRun (first second : UInt64) : List ControllerEvent :=
  let input (frame : UInt64) : DSInputFrame := ⟨frame, 0, 0, 0, false⟩
  let frame (n : UInt64) (needsDigest : Bool) : List ControllerEvent :=
    [.main (.provided n (input n)), .main (.operation (.sent (.input (input n)))),
      .main (.stepped n (input n) needsDigest (some ⟨0, 0, 0, 0⟩))]
  let acknowledgement (n duration : UInt64) : TwoPhoneMessage :=
    .acknowledgement ⟨n, none, duration⟩
  let queued (n duration : UInt64) : List ControllerEvent :=
    [.reader .checked, .reader (.operation (.received (acknowledgement n duration))),
      .reader .queued]
  (controllerHandshake alternateSession [] 0).map .main ++ frame 1 false ++ frame 2 true ++
    queued 1 first ++ queued 2 second ++
    [.main (.next (acknowledgement 1 first)), .main (.next (acknowledgement 2 second))]

/-- The barrier fails on a peer whose durations do not fit: a checkpoint without a digest is not
answered by a finish, because the sum of the durations traps before. -/
theorem controller_traps_on_durations :
    ∃ u, exec (ControllerState.step alternateSession) { thread := { host := () } }
        (twoFrameRun 18446744073709551615 1) = some u ∧ u.thread.phase = .trapped ∧
      ¬ CheckpointBarrier alternateSession
        ((twoFrameRun 18446744073709551615 1).filterMap ControllerEvent.main?) u.thread := by
  have hrun : (exec (ControllerState.step alternateSession) { thread := { host := () } }
      (twoFrameRun 18446744073709551615 1)).map
        (fun u => u.thread.phase.hasTrapped) = some true := by
    decide +kernel
  obtain ⟨u, hu, hphase⟩ := Option.map_eq_some_iff.mp hrun
  have htrapped : u.thread.phase = .trapped := ControllerPhase.hasTrapped_iff.mp hphase
  refine ⟨u, hu, htrapped, fun hbarrier => ?_⟩
  obtain ⟨detail, -, -, -, hfinish, -⟩ := hbarrier.mismatch
    ((twoFrameRun 18446744073709551615 1).filterMap ControllerEvent.main?).dropLast ⟨2, none, 1⟩ []
    ⟨2, ⟨2, 0, 0, 0, false⟩, true, some ⟨0, 0, 0, 0⟩⟩ (by decide +kernel)
      (by decide +kernel) rfl rfl
    (fun hconfirms => absurd hconfirms.2.2 (by simp))
  rw [htrapped] at hfinish
  exact absurd (hfinish rfl).1 (by simp)

/-- `controller_barrier` on the same run with durations that fit: the next call is the finish. -/
theorem controller_barrier_two_frames :
    ∃ u detail, CheckpointBarrier alternateSession
        ((twoFrameRun 7 1).filterMap ControllerEvent.main?) (u : ControllerState Unit).thread ∧
      u.thread.phase = .sendingFinish false detail := by
  have hrun : (exec (ControllerState.step alternateSession) { thread := { host := () } }
      (twoFrameRun 7 1)).isSome = true := by
    decide +kernel
  obtain ⟨u, hu⟩ := Option.isSome_iff_exists.mp hrun
  have hbarrier :=
    (controller_barrier hu).2 (timesFit_of_sum (by decide +kernel)) (by decide +kernel)
  obtain ⟨detail, -, -, -, hfinish, -⟩ := hbarrier.mismatch
    ((twoFrameRun 7 1).filterMap ControllerEvent.main?).dropLast ⟨2, none, 1⟩ []
    ⟨2, ⟨2, 0, 0, 0, false⟩, true, some ⟨0, 0, 0, 0⟩⟩ (by decide +kernel)
      (by decide +kernel) rfl rfl
    (fun hconfirms => absurd hconfirms.2.2 nofun)
  exact ⟨u, detail, hbarrier, (hfinish rfl).1⟩

end DSEmu

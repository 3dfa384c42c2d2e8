import DSEmu.Lockstep.Failures
import DSEmu.Lockstep.System

/-!
# Over a reliable link nobody fails after the handshake

Where the link is reliable and the input provider tags its inputs, the only failures are refusals of
the handshake (`Refused`): different hellos, a snapshot that cannot be made or loaded, or a loaded
state with another hash. Without one, neither party throws, no acknowledgement is unexpected, and
the inbox does not fail (`Healthy`). The display's durations are spans of one clock, so the
controller's sum of them does not overflow; a controller without a frame limit traps once its frame
counter is at its limit.
-/

namespace DSEmu

open Automaton (exec exec_invariant exec_concat_eq_some)
open Duplex (Link Medium Operation Side)

section

variable {σ τ : Type} (C : TwoPhoneSession σ) (D : TwoPhoneSession τ)

/-- What a party has refused during the handshake. -/
inductive Refused (es : List LockstepEvent) : Prop
  /-- the hellos differ -/
  | hello (differs : C.hello ≠ D.hello)
  /-- the controller's snapshot could not be made -/
  | make (error : SessionError)
      (trace : opened ++ [.operation (.received C.hello), .operation (.sent C.hello),
        .madeSnapshot (.error error)] <+: mainEvents es)
  /-- the display could not load it -/
  | load (snapshot : Data) (stateHash : UInt64) (error : SessionError)
      (trace : displayGreeted D ++ [.operation (.received (.snapshot snapshot stateHash)),
        .loadedSnapshot snapshot (.error error)] <+: displayEvents es)
  /-- the state that it loaded has another hash -/
  | state (snapshot : Data) (expected stateHash : UInt64) (differs : stateHash ≠ expected)
      (trace : displayLoaded D snapshot expected ++ [.hashed stateHash] <+: displayEvents es)

/-- Neither party has failed, nor has the inbox, and a trap is that of the frame counter. -/
structure Healthy (es : List LockstepEvent) (s : LockstepState σ τ) : Prop where
  display : ¬ s.display.Failed
  controller : ¬ s.controller.thread.Failed
  trapped : s.controller.thread.phase = .trapped → ∃ done pending,
    ControllerIdle C 0 (mainEvents es) done pending s.controller.thread ∧
      (∀ p ∈ done, p.Verified) ∧ s.controller.thread.frame.toNat + 1 = UInt64.size ∧
      C.configuration.testFrameLimit = none
  reader : s.controller.reader ≠ .failing
  inbox : s.controller.inbox.terminalError = none

variable {C D} {M : Medium} {es : List LockstepEvent} {s t : LockstepState σ τ}
  {dropped : List TwoPhoneMessage}

/-- What was refused stays refused. -/
theorem Refused.concat (e : LockstepEvent) (h : Refused C D es) : Refused C D (es ++ [e]) := by
  have hmain : mainEvents es <+: mainEvents (es ++ [e]) := by
    rw [mainEvents_append]
    exact List.prefix_append _ _
  have hdisplay : displayEvents es <+: displayEvents (es ++ [e]) := by
    rw [displayEvents_append]
    exact List.prefix_append _ _
  cases h with
  | hello differs => exact .hello differs
  | make error trace => exact .make error (trace.trans hmain)
  | load snapshot stateHash error trace =>
    exact .load snapshot stateHash error (trace.trans hdisplay)
  | state snapshot expected stateHash differs trace =>
    exact .state snapshot expected stateHash differs (trace.trans hdisplay)

/-- An operation of the display over a reliable link fails only where an end has been closed. -/
theorem closed_of_display_fails {e : SessionEvent} (hM : M.faulty = false) (he : e.Fails)
    (h : s.linkStep M (.display e) = some t.link) :
    s.link.closed .right = true ∨ s.link.closed .left = true := by
  unfold SessionEvent.Fails at he
  split at he
  · change s.link.step M .right .receiveFailed = _ at h
    exact ((Link.step_receiveFailed h).2.resolve_left (by simp [hM])).imp_right And.right
  · rename_i m
    change s.link.step M .right (.sendFailed m) = _ at h
    exact (Link.step_sendFailed h).2.resolve_left (by simp [hM])
  · exact he.elim

/-- So does one of the controller's main thread. -/
theorem closed_of_main_fails {e : SessionEvent} (hM : M.faulty = false) (he : e.Fails)
    (h : s.linkStep M (.controller (.main e)) = some t.link) :
    s.link.closed .left = true ∨ s.link.closed .right = true := by
  unfold SessionEvent.Fails at he
  split at he
  · change s.link.step M .left .receiveFailed = _ at h
    exact ((Link.step_receiveFailed h).2.resolve_left (by simp [hM])).imp_right And.right
  · rename_i m
    change s.link.step M .left (.sendFailed m) = _ at h
    exact (Link.step_sendFailed h).2.resolve_left (by simp [hM])
  · exact he.elim

/-- A message that the display receives is the oldest on its way to it. -/
theorem incoming_of_display {m : TwoPhoneMessage} {l : Link TwoPhoneMessage}
    (h : s.linkStep M (.display (.operation (.received m))) = some l) :
    s.link.incoming .right = m :: l.incoming .right := by
  change s.link.step M .right (.received m) = some l at h
  exact (Link.step_received h).2.2.1

/-- A message that the controller receives is the oldest on its way to it. -/
theorem incoming_of_controller {m : TwoPhoneMessage} {l : Link TwoPhoneMessage}
    {e : ControllerEvent}
    (he : e.operation? = some (.received m)) (h : s.linkStep M (.controller e) = some l) :
    s.link.incoming .left = m :: l.incoming .left := by
  unfold LockstepState.linkStep at h
  rw [LockstepEvent.operation?, he] at h
  change s.link.step M .left (.received m) = some l at h
  exact (Link.step_received h).2.2.1

/-- Over a reliable link every session gets its transport. -/
theorem connected_of_linkStep {e : LockstepEvent} (hM : M.faulty = false)
    (h : s.linkStep M e = some t.link) : ¬ e.Unconnected := by
  intro he
  have ho : e.operation? = none := by
    unfold LockstepEvent.Unconnected at he
    split at he <;> first | rfl | exact he.elim
  unfold LockstepState.linkStep at h
  rw [ho] at h
  dsimp only at h
  rw [if_pos ⟨he, hM⟩] at h
  contradiction

section Laws

variable {hostC : σ} {hostD : τ}

/-- A display that has not failed and has closed its end returns an outcome. -/
theorem Healthy.ended_of_closed (h : Healthy C es s)
    (hexec : exec (LockstepState.step M C D) (.initial hostC hostD) es = some s)
    (hlaws : LockstepLaws C D es s dropped) (hclosed : s.link.closed .right = true) :
    ∃ o, s.display.phase = .ended (.ok o) := by
  obtain ⟨result, hp⟩ :=
    DisplayThread.ended_of_closed (exec_display hexec) (hlaws.closedRight.mp hclosed)
  cases result with
  | ok o => exact ⟨o, hp⟩
  | error error =>
    refine absurd ?_ h.display
    unfold DisplayThread.Failed
    rw [hp]
    trivial

/-- A controller that has not failed and has closed its end has consumed the finish
acknowledgement. -/
theorem Healthy.consumed_of_closed (h : Healthy C es s)
    (hexec : exec (LockstepState.step M C D) (.initial hostC hostD) es = some s)
    (hlaws : LockstepLaws C D es s dropped) (hclosed : s.link.closed .left = true) :
    .finishAcknowledgement ∈ consumed (mainEvents es) := by
  have hmain := ControllerState.exec_thread (exec_controller hexec)
  obtain ⟨result, hp⟩ := ControllerThread.leaving_of_closed hmain (hlaws.closedLeft.mp hclosed)
  cases result with
  | ok o =>
    refine hlaws.controller.consumed_finish (o := o) ?_
    rcases hp with hp | hp | hp
    · exact .inr (.inr (.inl hp))
    · exact .inr (.inr (.inr (.inl hp)))
    · exact .inr (.inr (.inr (.inr hp)))
  | error error =>
    refine absurd ?_ h.controller
    unfold ControllerThread.Failed
    rcases hp with hp | hp | hp <;> rw [hp] <;> trivial

/-- Before the inbox is started, the controller receives its messages itself. -/
theorem LockstepLaws.early (hlaws : LockstepLaws C D es s dropped)
    (hnot : .inboxStarted ∉ mainEvents es) :
    sent (displayEvents es) = received (mainEvents es) ++ s.link.incoming .left := by
  obtain ⟨hreader, hmessages, hconsumed, hdropped⟩ := hlaws.inbox.idle hnot
  change consumed (mainEvents es) = [] at hconsumed
  rw [hlaws.toController, hreader, hmessages, hconsumed, hdropped]
  simp [ReaderPhase.held]

/-- What the controller has consumed, the display has sent. -/
theorem LockstepLaws.sent_of_consumed (hlaws : LockstepLaws C D es s dropped) {m : TwoPhoneMessage}
    (hm : m ∈ consumed (mainEvents es)) : m ∈ sent (displayEvents es) := by
  rw [hlaws.toController]
  simp [hm]

/-- Where either end is closed, the display is on its way out with an outcome. -/
theorem Healthy.returns_of_closed (h : Healthy C es s)
    (hexec : exec (LockstepState.step M C D) (.initial hostC hostD) es = some s)
    (hlaws : LockstepLaws C D es s dropped)
    (hclosed : s.link.closed .right = true ∨ s.link.closed .left = true) :
    ∃ o, s.display.Returns o := by
  rcases hclosed with hclosed | hclosed
  · obtain ⟨o, hp⟩ := h.ended_of_closed hexec hlaws hclosed
    exact ⟨o, .inr (.inr hp)⟩
  · have hconsumed := h.consumed_of_closed hexec hlaws hclosed
    obtain ⟨_, _, _, _, -, -, -, hreturns⟩ :=
      DisplayThread.finished_of_sent (exec_display hexec) (hlaws.sent_of_consumed hconsumed)
    exact ⟨_, hreturns⟩

/-- What a display between two rounds receives next: the input that the controller has sent after
those of the rounds, or a finish at the display's own frame. -/
theorem LockstepLaws.next_message (hlaws : LockstepLaws C D es s dropped)
    (hp : s.display.phase = .receiving) {m : TwoPhoneMessage} {rest : List TwoPhoneMessage}
    (hin : s.link.incoming .right = m :: rest) :
    (∃ done pending before input later fin tail,
      ControllerLog C (mainEvents es) s.controller.thread done pending
        (before ++ input :: later) fin
        tail ∧ s.display.framesCompleted.toNat = before.length ∧ m = .input input) ∨
      ∃ success detail, m = .finish s.display.framesCompleted success detail := by
  have hdisplay := hlaws.display
  unfold DisplayTrace at hdisplay
  rw [hp] at hdisplay
  obtain ⟨stateHash, rs, idle, hdes⟩ := hdisplay
  have hreceived : received (displayEvents es) =
      [D.hello, .snapshot s.display.snapshot stateHash, .start] ++
        (rs.map DisplayRound.input).map .input := by
    rw [hdes, received_append, received_roundEvents, List.map_map]
    rfl
  have hsent := hlaws.toDisplay
  rw [hreceived, hin] at hsent
  have hstart : .start ∈ sent (mainEvents es) := by
    rw [hsent]
    simp
  obtain ⟨done, pending, inputs, fin, tail, hlog⟩ := hlaws.controller.log hstart
  obtain ⟨stateHash', hlogSent⟩ := hlog.sent_eq
  rw [hlogSent] at hsent
  -- What the display has taken is a prefix of the inputs and the finish that were sent.
  have hcut : (rs.map DisplayRound.input).map TwoPhoneMessage.input ++ m :: rest =
      inputs.map .input ++ fin := by
    simp only [List.cons_append, List.nil_append, List.cons.injEq] at hsent
    exact hsent.2.2.2.symm
  have hframes := idle.framesCompleted
  rcases map_append_cons_eq (fun _ _ => TwoPhoneMessage.input.inj) hlog.fin_ne hcut with
    ⟨input, l₃, rfl, rfl⟩ | ⟨rfl, rfl⟩
  · left
    exact ⟨done, pending, _, input, l₃, fin, tail, hlog, by rw [hframes, List.length_map], rfl⟩
  · right
    rcases hlog.finished with hnil | ⟨rfl, hunappended, _, success, detail, idle', -, heq⟩
    · exact absurd hnil (List.cons_ne_nil _ _)
    · obtain ⟨rfl, -⟩ := List.cons.inj heq
      have hlen := congrArg List.length hlog.inputs_eq
      rw [hunappended] at hlen
      simp [ledgerSteps] at hlen
      have hframe := idle'.frame
      have heq : s.controller.thread.frame = s.display.framesCompleted := by
        apply UInt64.toNat_inj.mp
        rw [hframe, hframes, hlen]
        rfl
      exact ⟨success, detail, by rw [heq]⟩

/-- With inputs that are tagged, the display takes it. -/
theorem LockstepLaws.accepts (hlaws : LockstepLaws C D es s dropped)
    (htagged : ∀ frame input, .provided frame input ∈ mainEvents es → input.frame = frame)
    (hp : s.display.phase = .receiving) {m : TwoPhoneMessage} {rest : List TwoPhoneMessage}
    (hin : s.link.incoming .right = m :: rest) : s.display.Accepts m := by
  rcases hlaws.next_message hp hin with
    ⟨done, pending, before, input, later, fin, tail, hlog, hframes, rfl⟩ | ⟨success, detail, rfl⟩
  · have hnumber := number_eq (hlog.numbered htagged)
    rw [DisplayThread.Accepts, hnumber, hframes]
  · rfl

/-- The acknowledgements that a controller in its loop has consumed are the first of those that the
display has sent; what it has consumed after them, and what is on its way to it, goes on from
there. -/
theorem LockstepLaws.acknowledgements {done : List AcknowledgedFrame} {tail : List TwoPhoneMessage}
    (hlaws : LockstepLaws C D es s dropped)
    (hreceived : received (mainEvents es) = [C.hello, .ready])
    (hconsumed : consumed (mainEvents es) =
      done.map (fun p => .acknowledgement p.acknowledgement) ++ tail) :
    ∃ rs extra others, DisplayLog D (displayEvents es) s.display rs extra others ∧
      (done.map AcknowledgedFrame.acknowledgement).map TwoPhoneMessage.acknowledgement ++
        (tail ++ s.controller.inbox.messages ++ s.controller.reader.held ++ dropped ++
          s.link.incoming .left) =
      (rs.map DisplayRound.acknowledgement).map TwoPhoneMessage.acknowledgement ++ others := by
  have hsent := hlaws.toController
  rw [hreceived, hconsumed] at hsent
  have hready : .ready ∈ sent (displayEvents es) := by
    rw [hsent]
    simp
  obtain ⟨rs, extra, others, hlog⟩ := hlaws.display.log hready
  refine ⟨rs, extra, others, hlog, ?_⟩
  rw [hlog.sent_eq] at hsent
  simp only [List.append_assoc, List.cons_append, List.nil_append, List.cons.injEq,
    true_and] at hsent
  simp only [List.map_map, List.append_assoc]
  exact hsent.2.symm

/-- The rounds that the display has completed are of inputs that the controller has sent. -/
theorem LockstepLaws.rounds_le {rs : List DisplayRound} {extra others : List TwoPhoneMessage}
    {done : List AcknowledgedFrame} {pending : List SteppedFrame} {inputs : List DSInputFrame}
    {fin tail : List TwoPhoneMessage} (hlaws : LockstepLaws C D es s dropped)
    (hdisplay : DisplayLog D (displayEvents es) s.display rs extra others)
    (hcontroller : ControllerLog C (mainEvents es) s.controller.thread done pending inputs fin
      tail) :
    rs.length ≤ inputs.length := by
  obtain ⟨stateHash, hsent⟩ := hcontroller.sent_eq
  obtain ⟨snapshot, stateHash', hreceived | ⟨-, rfl, -⟩⟩ := hdisplay.received_eq
  · have hlink := hlaws.toDisplay
    rw [hsent, hreceived] at hlink
    have hcut : (rs.map DisplayRound.input).map TwoPhoneMessage.input ++
        (extra ++ s.link.incoming .right) = inputs.map .input ++ fin := by
      simp only [List.append_assoc, List.cons_append, List.nil_append, List.cons.injEq,
        true_and] at hlink
      simp only [List.map_map]
      exact hlink.2.2.symm
    have hle := map_append_le hcontroller.fin_ne hcut
    rwa [List.length_map] at hle
  · exact Nat.zero_le _

/-- A controller that waits for an acknowledgement finds that of the oldest pending frame. -/
theorem LockstepLaws.next_acknowledgement (hlaws : LockstepLaws C D es s dropped)
    {loop : AcknowledgementLoop} {m : TwoPhoneMessage} {rest : List TwoPhoneMessage}
    {pending : PendingFrame} {later : List PendingFrame}
    (hp : s.controller.thread.phase = .awaitingAcknowledgement loop)
    (hmessages : s.controller.inbox.messages = m :: rest)
    (hpending : s.controller.thread.pendingFrames = pending :: later) :
    ∃ a, m = .acknowledgement a ∧ a.frame = pending.frame := by
  have htrace := hlaws.controller
  unfold ControllerTrace at htrace
  rw [hp] at htrace
  obtain ⟨done, st, pending', idle, -⟩ := htrace
  obtain ⟨stateHash, hreceived, hsent, -⟩ := idle.messages_eq
  obtain ⟨rs, extra, others, hlog, hcut⟩ := hlaws.acknowledgements hreceived
    (idle.consumed_eq.trans (List.append_nil _).symm)
  rw [hmessages] at hcut
  simp only [List.nil_append, List.cons_append, List.append_assoc] at hcut
  rcases map_append_cons_eq (fun _ _ => TwoPhoneMessage.acknowledgement.inj) hlog.others_ne
    hcut with
    ⟨a, l₃, hrs, rfl⟩ | ⟨-, hothers⟩
  · refine ⟨a, rfl, ?_⟩
    have hnumbered := hlog.numbered
    rw [hrs] at hnumbered
    have hframe := number_eq hnumbered
    have hledger := number_eq idle.scheduled.numbered
    rw [List.length_map] at hframe hledger
    have hhead : pending = st.pending := by
      rw [idle.pendingFrames, List.map_cons] at hpending
      exact (List.cons.inj hpending).1.symm
    rw [hhead]
    apply UInt64.toNat_inj.mp
    rw [hframe]
    exact hledger.symm
  · rcases hlog.finished with rfl | ⟨rfl, stateHash', success, detail, hreceived', -, -⟩
    · exact absurd hothers nofun
    · -- the display has received a finish, which the controller has not sent
      have hmem : .finish s.display.framesCompleted success detail ∈ sent (mainEvents es) := by
        rw [hlaws.toDisplay, hreceived']
        simp
      rw [hsent] at hmem
      simp [TwoPhoneSession.hello] at hmem

/-- A controller that waits for the answer to its finish finds the finish acknowledgement. -/
theorem LockstepLaws.next_finish (hlaws : LockstepLaws C D es s dropped) {success : Bool}
    {detail : String} {m : TwoPhoneMessage} {rest : List TwoPhoneMessage}
    (hp : s.controller.thread.phase = .awaitingFinish success detail)
    (hmessages : s.controller.inbox.messages = m :: rest) : m = .finishAcknowledgement := by
  have htrace := hlaws.controller
  unfold ControllerTrace at htrace
  rw [hp] at htrace
  obtain ⟨pre, done, idle, concluded, hmain⟩ := htrace
  have hcontroller : ControllerLog C (mainEvents es) s.controller.thread done []
      ((ledgerSteps done []).map SteppedFrame.input ++ s.controller.thread.phase.unappended)
      [.finish s.controller.thread.frame success detail] [] := by
    rw [hmain]
    refine idle.log ?_ rfl rfl (.inl ?_) (.inr
      ⟨rfl, ?_, pre, success, detail, idle, concluded, rfl⟩)
      fun _ _ => .inl rfl <;> rw [hp] <;> rfl
  obtain ⟨rs, extra, others, hlog, hcut⟩ := hlaws.acknowledgements
    hcontroller.received_eq hcontroller.consumed_eq
  -- The display has completed no more rounds than there were inputs, and all of them are
  -- acknowledged.
  have hle := hlaws.rounds_le hlog hcontroller
  rw [hp] at hle
  simp [ledgerSteps, ControllerPhase.unappended] at hle
  rw [hmessages] at hcut
  simp only [List.nil_append, List.cons_append, List.append_assoc] at hcut
  rcases map_append_cons_eq (fun _ _ => TwoPhoneMessage.acknowledgement.inj) hlog.others_ne
    hcut with
    ⟨a, l₃, hrs, -⟩ | ⟨-, hothers⟩
  · have hlen := congrArg List.length hrs
    simp at hlen
    omega
  · rcases hlog.finished with rfl | ⟨rfl, -⟩
    · contradiction
    · exact (List.cons.inj hothers).1.symm

/-- No operation of the display fails: an end is closed only where the display is on its way out. -/
theorem Healthy.display_not_fails {e : SessionEvent} (hM : M.faulty = false) (h : Healthy C es s)
    (hexec : exec (LockstepState.step M C D) (.initial hostC hostD) es = some s)
    (hlaws : LockstepLaws C D es s dropped) (hdisplay : s.display.step D e = some t.display)
    (hlink : s.linkStep M (.display e) = some t.link) : ¬ e.Fails := by
  intro hf
  obtain ⟨o, ho⟩ := h.returns_of_closed hexec hlaws (closed_of_display_fails hM hf hlink)
  replace hdisplay := DisplayThread.call_of_step hdisplay
  unfold DisplayThread.call at hdisplay
  unfold SessionEvent.Fails at hf
  rcases ho with hp | hp | hp <;> rw [hp] at hdisplay <;> dsimp only at hdisplay
  · -- it deactivates the transport
    obtain ⟨rfl, -⟩ := SessionEvent.on_eq_some.mp hdisplay
    exact hf.elim
  · -- it closes it
    obtain ⟨rfl, -⟩ := SessionEvent.on_eq_some.mp hdisplay
    exact hf.elim
  · -- it has returned
    exact absurd hdisplay (Option.some_ne_none _).symm

/-- What the display refuses is a part of the handshake: the messages that it gets are those of the
controller's offer, in its order, and those of the rounds it accepts. -/
theorem LockstepLaws.refused_of_display {e : SessionEvent} (hlaws : LockstepLaws C D es s dropped)
    (htagged : ∀ frame input, .provided frame input ∈ mainEvents es → input.frame = frame)
    (hdisplay : s.display.step D e = some t.display)
    (hlink : s.linkStep M (.display e) = some t.link) (hf : s.display.Refuses D e) :
    Refused C D (es ++ [.display e]) := by
  have htrace := hlaws.display
  obtain ⟨snapshot, stateHash, rest, hoffer⟩ := hlaws.controller.sent_offer
  unfold DisplayTrace at htrace
  cases hf with
  | hello m hp wrong =>
    rw [hp] at htrace
    obtain ⟨-, hdes⟩ := htrace
    rw [hlaws.toDisplay, hdes, incoming_of_display hlink] at hoffer
    have hm : m = C.hello := (List.cons_prefix_cons.mp hoffer).1
    exact .hello fun hhello => wrong (hm.trans hhello)
  | snapshot m hp wrong =>
    rw [hp] at htrace
    obtain ⟨-, hdes⟩ := htrace
    rw [hlaws.toDisplay, hdes, incoming_of_display hlink] at hoffer
    have htail := (List.cons_prefix_cons.mp hoffer).2
    exact absurd (List.cons_prefix_cons.mp htail).1 (wrong _ _)
  | start m hp wrong =>
    rw [hp] at htrace
    obtain ⟨-, _, hdes⟩ := htrace
    rw [hlaws.toDisplay, hdes, incoming_of_display hlink] at hoffer
    have htail := (List.cons_prefix_cons.mp (List.cons_prefix_cons.mp hoffer).2).2
    exact absurd (List.cons_prefix_cons.mp htail).1 wrong
  | message m hp wrong =>
    exact absurd (hlaws.accepts htagged hp (incoming_of_display hlink)) wrong
  | load loaded expected error hp =>
    rw [hp] at htrace
    obtain ⟨-, hdes⟩ := htrace
    -- what was loaded is the snapshot that was received
    replace hdisplay := DisplayThread.call_of_step hdisplay
    unfold DisplayThread.call at hdisplay
    rw [hp] at hdisplay
    obtain ⟨heq, -⟩ := SessionEvent.on_eq_some.mp hdisplay
    obtain ⟨rfl, -⟩ := SessionEvent.loadedSnapshot.inj heq
    refine .load s.display.snapshot expected error ⟨[], ?_⟩
    rw [displayEvents_display, hdes, List.append_assoc, List.append_nil]
    rfl
  | state expected loaded hp wrong =>
    rw [hp] at htrace
    obtain ⟨-, hdes⟩ := htrace
    refine .state s.display.snapshot expected loaded wrong ⟨[], ?_⟩
    rw [displayEvents_display, hdes, List.append_nil]

/-- A step of the display keeps both parties from failing. -/
theorem Healthy.display_step {e : SessionEvent} (hM : M.faulty = false) (h : Healthy C es s)
    (hexec : exec (LockstepState.step M C D) (.initial hostC hostD) es = some s)
    (htagged : ∀ frame input, .provided frame input ∈ mainEvents es → input.frame = frame)
    (hs : s.step M C D (.display e) = some t) (hrefused : ¬ Refused C D (es ++ [.display e])) :
    Healthy C (es ++ [.display e]) t := by
  obtain ⟨dropped, hlaws⟩ := lockstepLaws_of_exec hexec
  obtain ⟨hlink, hdisplay, hsame⟩ := LockstepState.step_display.mp hs
  constructor
  case display =>
    intro hfailed
    rcases hlaws.display.fails hdisplay h.display hfailed with hf | rfl | rfl | hf
    · exact h.display_not_fails hM hexec hlaws hdisplay hlink hf
    · exact connected_of_linkStep hM hlink trivial
    · exact connected_of_linkStep hM hlink trivial
    · exact hrefused (hlaws.refused_of_display htagged hdisplay hlink hf)
  case controller =>
    rw [hsame]
    exact h.controller
  case trapped =>
    rw [hsame, mainEvents_display]
    exact h.trapped
  case reader =>
    rw [hsame]
    exact h.reader
  case inbox =>
    rw [hsame]
    exact h.inbox

/-- The durations that the display reports are spans of its clock, so their sum does not
overflow. -/
theorem LockstepLaws.durations (hlaws : LockstepLaws C D es s dropped)
    {pre : List SessionEvent} {done : List AcknowledgedFrame} {pending : List SteppedFrame}
    {a : FrameAcknowledgement} (idle : ControllerIdle C 0 pre done pending s.controller.thread)
    (hverified : ∀ p ∈ done, p.Verified)
    (hmain : mainEvents es = pre ++ [.next (.acknowledgement a)]) :
    s.controller.thread.displayFrameTiming.totalNanoseconds.toNat + a.processingNanoseconds.toNat <
      UInt64.size := by
  obtain ⟨stateHash, hreceived, -, -⟩ := idle.messages_eq
  have hreceived' : received (mainEvents es) = [C.hello, .ready] := by
    rw [hmain, received_append, hreceived]
    rfl
  have hconsumed : consumed (mainEvents es) =
      done.map (fun p => .acknowledgement p.acknowledgement) ++ [.acknowledgement a] := by
    rw [hmain, consumed_append, idle.consumed_eq]
    rfl
  obtain ⟨rs, extra, others, hlog, hcut⟩ := hlaws.acknowledgements hreceived' hconsumed
  simp only [List.cons_append, List.nil_append, List.append_assoc] at hcut
  rcases map_append_cons_eq (fun _ _ => TwoPhoneMessage.acknowledgement.inj) hlog.others_ne
    hcut with
    ⟨b, l₃, hrs, hab⟩ | ⟨-, hothers⟩
  · obtain rfl := TwoPhoneMessage.acknowledgement.inj hab
    -- the display adds the durations to the clock that it reads
    have hsum := hlog.uptime
    have hmap : (rs.map fun r => r.acknowledgement.processingNanoseconds.toNat) =
        (rs.map DisplayRound.acknowledgement).map fun a => a.processingNanoseconds.toNat := by
      rw [List.map_map]
      rfl
    rw [hmap, hrs, List.map_append, List.map_cons, List.sum_append, List.sum_cons] at hsum
    have hle := durationSinceCheckpoint_le C.configuration
      (done.map AcknowledgedFrame.acknowledgement)
    have htotal := idle.total hverified
    have hlt : s.display.uptime.toNat < UInt64.size := s.display.uptime.toNat_lt
    omega
  · exact absurd rfl (hlog.others_ne _ (hothers ▸ List.mem_cons_self ..) a)

/-- No operation of the controller's main thread fails: an end is closed only where the display has
its finish, which the main thread sends last. -/
theorem Healthy.main_not_fails {e : SessionEvent} (hM : M.faulty = false) (h : Healthy C es s)
    (hexec : exec (LockstepState.step M C D) (.initial hostC hostD) es = some s)
    (hlaws : LockstepLaws C D es s dropped)
    (hthread : s.controller.thread.step C e = some t.controller.thread)
    (hlink : s.linkStep M (.controller (.main e)) = some t.link) : ¬ e.Fails := by
  intro hf
  rcases closed_of_main_fails hM hf hlink with hclosed | hclosed
  · -- its own end is closed: it is on its way out
    obtain ⟨result, hp⟩ := ControllerThread.leaving_of_closed
      (ControllerState.exec_thread (exec_controller hexec)) (hlaws.closedLeft.mp hclosed)
    exact ControllerThread.not_fails hthread (.inr (.inr ⟨result, hp⟩)) hf
  · -- the display's end is closed: the display has returned, so it has received the finish
    obtain ⟨o, hp⟩ := h.ended_of_closed hexec hlaws hclosed
    have hfinish := hlaws.display.sent_finish (.inr (.inr hp))
    obtain ⟨_, _, success, detail, -, -, hreceived, -⟩ :=
      DisplayThread.finished_of_sent (exec_display hexec) hfinish
    have hsent : .finish s.display.framesCompleted success detail ∈ sent (mainEvents es) := by
      rw [hlaws.toDisplay, hreceived]
      exact List.mem_append_left _ (List.mem_append_right _ (List.mem_singleton_self _))
    rcases hlaws.controller.finishing h.controller hsent with hp | hp
    · exact ControllerThread.not_fails hthread (.inl hp) hf
    · exact ControllerThread.not_fails hthread (.inr (.inl hp)) hf

/-- While the main thread waits for a message, its inbox is not stopped and has not delivered the
finish acknowledgement, so it does not fail. -/
theorem Healthy.next_not_failed {error : SessionError} (h : Healthy C es s)
    (hlaws : LockstepLaws C D es s dropped)
    (hinbox : s.controller.inboxStep (.nextFailed error) =
      some (t.controller.inbox, t.controller.reader))
    (hp : (∃ loop, s.controller.thread.phase = .awaitingAcknowledgement loop) ∨
      ∃ success detail, s.controller.thread.phase = .awaitingFinish success detail) : False := by
  obtain ⟨-, -, hmessages, hfail⟩ := ControllerState.inboxStep_nextFailed hinbox
  have hopen : .inboxStopped ∉ mainEvents es ∧
      .finishAcknowledgement ∉ consumed (mainEvents es) := by
    have htrace := hlaws.controller
    unfold ControllerTrace at htrace
    rcases hp with ⟨loop, hp⟩ | ⟨success, detail, hp⟩ <;> rw [hp] at htrace
    · obtain ⟨done, st, pending, idle, -⟩ := htrace
      exact idle.open_inbox
    · obtain ⟨pre, done, idle, -, hmes⟩ := htrace
      rw [hmes, consumed_append, List.mem_append, List.mem_append]
      exact ⟨not_or.mpr ⟨idle.open_inbox.1, by simp⟩,
        not_or.mpr ⟨idle.open_inbox.2, List.not_mem_nil⟩⟩
  rcases hfail with hfail | hfail
  · exact hfail h.inbox
  · have hstopped := hlaws.inbox.stopped hfail
    rw [hmessages, List.append_nil] at hstopped
    exact hstopped.elim hopen.1 hopen.2

/-- What the controller refuses is a part of the handshake: before the inbox is started it gets the
display's greeting, and from then on the acknowledgements in the order of its frames. -/
theorem Healthy.refused_of_main {e : SessionEvent} (h : Healthy C es s)
    (hlaws : LockstepLaws C D es s dropped)
    (hinbox : s.controller.inboxStep e = some (t.controller.inbox, t.controller.reader))
    (hlink : s.linkStep M (.controller (.main e)) = some t.link)
    (hf : s.controller.thread.Refuses C e) : Refused C D (es ++ [.controller (.main e)]) := by
  have htrace := hlaws.controller
  unfold ControllerTrace at htrace
  cases hf with
  | hello m hp wrong =>
    rw [hp] at htrace
    obtain ⟨-, hmes⟩ := htrace
    have hsent := hlaws.early (by simp [hmes, controllerHandshake, controllerOffered, opened])
    rw [hmes, incoming_of_controller rfl hlink] at hsent
    have hm : m = D.hello := by
      rcases hlaws.display.greeting h.display with hnone | hone | hready
      · exact absurd (hsent.symm.trans hnone) (List.cons_ne_nil _ _)
      · exact (List.cons.inj (hsent.symm.trans hone)).1
      · obtain ⟨rs, extra, others, hlog⟩ := hlaws.display.log hready
        exact (List.cons.inj (hsent.symm.trans hlog.sent_eq)).1
    exact .hello fun hhello => wrong (hm.trans hhello.symm)
  | ready m hp wrong =>
    rw [hp] at htrace
    obtain ⟨stateHash, -, hmes⟩ := htrace
    have hsent := hlaws.early (by simp [hmes, controllerHandshake, controllerOffered, opened])
    rw [hmes, incoming_of_controller rfl hlink] at hsent
    rcases hlaws.display.greeting h.display with hnone | hone | hready
    · exact absurd (hsent.symm.trans hnone) (List.cons_ne_nil _ _)
    · exact absurd (List.cons.inj (hsent.symm.trans hone)).2 (List.cons_ne_nil _ _)
    · obtain ⟨rs, extra, others, hlog⟩ := hlaws.display.log hready
      have htail := (List.cons.inj (hsent.symm.trans hlog.sent_eq)).2
      exact absurd (List.cons.inj htail).1 wrong
  | snapshot error hp =>
    rw [hp] at htrace
    obtain ⟨-, hmes⟩ := htrace
    refine .make error ⟨[], ?_⟩
    rw [mainEvents_main, hmes]
    rfl
  | acknowledgement m loop hp wrong =>
    obtain ⟨-, hmessages, -⟩ := ControllerState.inboxStep_next hinbox
    rw [hp] at htrace
    obtain ⟨done, st, pending, idle, -⟩ := htrace
    obtain ⟨a, ha, hframe⟩ := hlaws.next_acknowledgement hp hmessages idle.pendingFrames
    exact absurd hframe (wrong _ _ a idle.pendingFrames ha)
  | finish m success detail hp wrong =>
    obtain ⟨-, hmessages, -⟩ := ControllerState.inboxStep_next hinbox
    exact absurd (hlaws.next_finish hp hmessages) wrong
  | inbox error hp => exact (h.next_not_failed hlaws hinbox hp).elim

/-- A controller traps at the limit of its frame counter, not in the sum of the durations. -/
theorem LockstepLaws.trapped (hlaws : LockstepLaws C D es s dropped)
    (hp : s.controller.thread.phase = .trapped) : ∃ done pending,
    ControllerIdle C 0 (mainEvents es) done pending s.controller.thread ∧
      (∀ p ∈ done, p.Verified) ∧ s.controller.thread.frame.toNat + 1 = UInt64.size ∧
      C.configuration.testFrameLimit = none := by
  have htrace := hlaws.controller
  unfold ControllerTrace at htrace
  rw [hp] at htrace
  obtain ⟨pre, done, pending, idle, hverified, ⟨hpre, hmax, hlimit⟩ |
    ⟨st, rest, a, rfl, hpre, -, hoverflow⟩⟩ := htrace
  · exact ⟨done, pending, hpre ▸ idle, hverified, hmax, hlimit⟩
  · have hlt := hlaws.durations idle hverified hpre
    omega

/-- A step of the controller's main thread keeps both parties from failing. -/
theorem Healthy.main_step {e : SessionEvent} (hM : M.faulty = false) (h : Healthy C es s)
    (hexec : exec (LockstepState.step M C D) (.initial hostC hostD) es = some s)
    (hs : s.step M C D (.controller (.main e)) = some t)
    (hrefused : ¬ Refused C D (es ++ [.controller (.main e)])) :
    Healthy C (es ++ [.controller (.main e)]) t := by
  obtain ⟨dropped, hlaws⟩ := lockstepLaws_of_exec hexec
  obtain ⟨hlink, hcontroller, hsame⟩ := LockstepState.step_controller.mp hs
  obtain ⟨hthread, hinbox⟩ := ControllerState.step_main.mp hcontroller
  obtain ⟨herror, hreader⟩ := ControllerState.inboxStep_frame hinbox
  constructor
  case display =>
    rw [hsame]
    exact h.display
  case controller =>
    intro hfailed
    rcases hlaws.controller.fails hthread h.controller hfailed with hf | rfl | rfl | hf
    · exact h.main_not_fails hM hexec hlaws hthread hlink hf
    · exact connected_of_linkStep hM hlink trivial
    · exact connected_of_linkStep hM hlink trivial
    · exact hrefused (h.refused_of_main hlaws hinbox hlink hf)
  case trapped =>
    obtain ⟨dropped', hlaws'⟩ := lockstepLaws_of_exec (exec_concat_eq_some.mpr ⟨s, hexec, hs⟩)
    exact hlaws'.trapped
  case reader =>
    rcases hreader with hreader | ⟨-, hreader⟩
    · rw [hreader]
      exact h.reader
    · rw [hreader]
      simp
  case inbox =>
    rw [herror]
    exact h.inbox

/-- The reader thread's receive does not fail: it is closed only where the reader has received the
finish acknowledgement, after which it receives no more. -/
theorem Healthy.reader_not_fails (hM : M.faulty = false) (h : Healthy C es s)
    (hexec : exec (LockstepState.step M C D) (.initial hostC hostD) es = some s)
    (hlaws : LockstepLaws C D es s dropped) (hr : s.controller.reader = .receiving)
    (hlink : s.link.step M .left .receiveFailed = some t.link) : False := by
  have hlive : dropped = [] ∧ .finishAcknowledgement ∉
      consumed (mainEvents es) ++ s.controller.inbox.messages :=
    hlaws.inbox.reading (by rw [hr]; simp)
  rcases (Link.step_receiveFailed hlink).2.resolve_left (by simp [hM]) with
    hclosed | ⟨hempty, hclosed⟩
  · -- the controller has closed its own end
    exact hlive.2 (List.mem_append_left _ (h.consumed_of_closed hexec hlaws hclosed))
  · -- the display has closed its end, so the finish acknowledgement that it sent has been received
    obtain ⟨o, hp⟩ := h.ended_of_closed hexec hlaws hclosed
    have hfinish := hlaws.display.sent_finish (.inr (.inr hp))
    have hstarted : .inboxStarted ∈ mainEvents es := by
      by_contra hnot
      have hidle := (hlaws.inbox.idle hnot).1
      rw [hr] at hidle
      contradiction
    have hmain := ControllerState.exec_thread (exec_controller hexec)
    obtain ⟨_, _, _, _, _, hlog⟩ :=
      hlaws.controller.log (ControllerThread.start_of_inboxStarted hmain hstarted)
    rw [hlaws.toController, hlog.received_eq, hempty, hr, hlive.1] at hfinish
    have hheld : ReaderPhase.receiving.held = [] := rfl
    rw [hheld, List.append_nil, List.append_nil, List.append_nil, List.mem_append] at hfinish
    rcases hfinish with hfinish | hfinish
    · simp [TwoPhoneSession.hello] at hfinish
    · exact hlive.2 hfinish

/-- A step of the reader thread keeps the inbox from failing. -/
theorem Healthy.reader_step {e : ReaderEvent} (hM : M.faulty = false) (h : Healthy C es s)
    (hexec : exec (LockstepState.step M C D) (.initial hostC hostD) es = some s)
    (hs : s.step M C D (.controller (.reader e)) = some t) :
    Healthy C (es ++ [.controller (.reader e)]) t := by
  obtain ⟨dropped, hlaws⟩ := lockstepLaws_of_exec hexec
  obtain ⟨hlink, hcontroller, hsame⟩ := LockstepState.step_controller.mp hs
  obtain ⟨-, -, hreader⟩ := ControllerState.step_reader.mp hcontroller
  have hthread := ControllerState.readerStep_thread hreader
  have hframe : t.controller.reader ≠ .failing ∧ t.controller.inbox.terminalError = none := by
    have hrecv := h.reader
    have hnone := h.inbox
    rcases ControllerState.readerStep_cases hreader with ⟨rfl, hr, heq⟩ | ⟨m, rfl, hr, heq⟩ |
      ⟨rfl, hr, heq⟩ | ⟨m, rfl, hr, -, heq⟩ | ⟨rfl, hr, heq⟩ | ⟨m, rfl, hr, -, -, heq⟩ |
      ⟨rfl, hr, heq⟩
    · rw [heq]
      refine ⟨?_, hnone⟩
      dsimp only
      split <;> simp
    · rw [heq]
      exact ⟨by simp, hnone⟩
    · exact (h.reader_not_fails hM hexec hlaws hr hlink).elim
    · rw [heq]
      exact ⟨by simp, hnone⟩
    · rw [heq]
      exact ⟨by simp, hnone⟩
    · rw [heq]
      exact ⟨by simp, hnone⟩
    · exact absurd hr hrecv
  refine ⟨?_, ?_, ?_, hframe.1, hframe.2⟩
  · rw [hsame]
    exact h.display
  · rw [hthread]
    exact h.controller
  · rw [hthread, mainEvents_reader]
    exact h.trapped

/-- Over a reliable link, with inputs that are tagged, nobody fails but by a refusal. -/
theorem healthy_of_exec (hM : M.faulty = false) (htag : C.Tagged)
    (hexec : exec (LockstepState.step M C D) (.initial hostC hostD) es = some s)
    (hrefused : ¬ Refused C D es) : Healthy C es s := by
  have hinv : exec (LockstepState.step M C D) (.initial hostC hostD) es = some s ∧
      (¬ Refused C D es → Healthy C es s) := by
    refine exec_invariant (I := fun es s =>
      exec (LockstepState.step M C D) (.initial hostC hostD) es = some s ∧
        (¬ Refused C D es → Healthy C es s)) ?_ ?_ hexec
    · exact ⟨rfl, fun _ => ⟨id, id, nofun, nofun, rfl⟩⟩
    · rintro es s e t ⟨hexec, ih⟩ hs
      refine ⟨exec_concat_eq_some.mpr ⟨s, hexec, hs⟩, fun hrefused => ?_⟩
      have h : Healthy C es s := ih fun hr => hrefused (hr.concat e)
      cases e with
      | controller e =>
        cases e with
        | main e => exact h.main_step hM hexec hs hrefused
        | reader e => exact h.reader_step hM hexec hs
      | display e =>
        refine h.display_step hM hexec ?_ hs hrefused
        exact ControllerThread.tagged htag (ControllerState.exec_thread (exec_controller hexec))
  exact hinv.2 hrefused

/-- The log of a controller that has not failed: it has consumed nothing else than acknowledgements,
or the finish acknowledgement last. -/
theorem Healthy.controller_log {dropped : List TwoPhoneMessage} (h : Healthy C es s)
    (hlaws : LockstepLaws C D es s dropped) (hstart : .start ∈ sent (mainEvents es)) :
    ∃ done pending inputs fin tail,
      ControllerLog C (mainEvents es) s.controller.thread done pending inputs fin tail ∧
        (tail = [] ∨ (tail = [.finishAcknowledgement] ∧ fin ≠ [] ∧
          ∃ o, s.controller.thread.Returns o)) := by
  by_cases htrapped : s.controller.thread.phase = .trapped
  · obtain ⟨done, pending, idle, -⟩ := h.trapped htrapped
    have hlog : ControllerLog C (mainEvents es ++ []) s.controller.thread done pending _ [] [] :=
      idle.log (by rw [htrapped]; rfl) rfl rfl (.inl (by rw [htrapped]; rfl)) (.inl rfl)
        fun _ _ => .inl rfl
    rw [List.append_nil] at hlog
    exact ⟨done, pending, _, [], [], hlog, .inl rfl⟩
  · obtain ⟨done, pending, inputs, fin, tail, hlog⟩ := hlaws.controller.log hstart
    exact ⟨done, pending, inputs, fin, tail, hlog, hlog.returned h.controller htrapped⟩

/-- A reader thread drops no message of a healthy run. -/
theorem Healthy.dropped_eq_nil {dropped : List TwoPhoneMessage} (h : Healthy C es s)
    (hexec : exec (LockstepState.step M C D) (.initial hostC hostD) es = some s)
    (hlaws : LockstepLaws C D es s dropped) : dropped = [] := by
  by_contra hne
  have hmain := ControllerState.exec_thread (exec_controller hexec)
  obtain ⟨-, hstopped⟩ := hlaws.inbox.dropped hne
  obtain ⟨result, hp⟩ := ControllerThread.leaving_of_stopped hmain hstopped
  cases result with
  | error error =>
    refine h.controller ?_
    unfold ControllerThread.Failed
    rcases hp with hp | hp | hp | hp <;> rw [hp] <;> trivial
  | ok o =>
    -- it returns: the finish acknowledgement, which is the last message, has been consumed
    have hreturns : s.controller.thread.Returns o := .inr hp
    have hfinish := hlaws.controller.consumed_finish hreturns
    have hstart : .start ∈ sent (mainEvents es) := by
      refine ControllerThread.start_of_inboxStarted hmain ?_
      by_contra hnot
      exact hne (hlaws.inbox.idle hnot).2.2.2
    obtain ⟨done, pending, inputs, fin, tail, hlog, rfl | ⟨rfl, -⟩⟩ := h.controller_log hlaws hstart
    · rw [hlog.consumed_eq] at hfinish
      simp at hfinish
    · obtain ⟨rs, extra, others, hdisplay, hcut⟩ :=
        hlaws.acknowledgements hlog.received_eq hlog.consumed_eq
      simp only [List.cons_append, List.nil_append, List.append_assoc] at hcut
      rcases map_append_cons_eq (fun _ _ => TwoPhoneMessage.acknowledgement.inj)
        hdisplay.others_ne hcut with ⟨a, l₃, -, ha⟩ | ⟨-, hothers⟩
      · exact absurd ha nofun
      · rcases hdisplay.finished with rfl | ⟨rfl, -⟩
        · exact absurd hothers nofun
        · have hnil := (List.cons.inj hothers).2
          simp only [List.nil_eq, List.append_eq_nil_iff] at hnil
          exact hne hnil.2.2.1

end Laws

end

end DSEmu

import DSEmu.Session.ControllerTrace
import DSEmu.Session.DisplayTrace
import DSEmu.Session.Inbox

/-!
# No emulator runs before the handshake has passed

Against an arbitrary peer, a role resumes its emulator and steps it only after every gate of the
handshake: the peer's hello with the same protocol version and ROM hash; on the controller the
display's ready, on the display a snapshot that was loaded and whose state hashes to the
controller's hash, and the controller's start. At a wrong message or a failed operation before that,
`run()` throws and does nothing else but close the transport.
-/

namespace DSEmu

open Automaton (exec)

section

variable {σ : Type} (S : TwoPhoneSession σ)

/-- What a trace `es` of the controller's main thread that leads to the state `s` says about the
handshake. -/
structure ControllerHandshakeSafe (es : List SessionEvent) (s : ControllerThread σ) : Prop where
  /-- the emulator is resumed and stepped only after the peer's hello and ready, when exactly the
  hello, the snapshot with its hash, and the start have been sent -/
  gated : .resumed ∈ es ∨ steps es ≠ [] → ∃ snapshot stateHash pre post,
    es = pre ++ .resumed :: post ∧ .resumed ∉ pre ∧ steps pre = [] ∧
      received pre = [S.hello, .ready] ∧
      sent pre = [S.hello, .snapshot snapshot stateHash, .start] ∧
      attempted pre = sent pre ∧
      [.madeSnapshot (.ok snapshot), .hashed stateHash] <:+: pre
  /-- a first message that is not the hello, or a second one that is not the ready, ends the session
  with an error -/
  rejected : ∀ pre m post, es = pre ++ .operation (.received m) :: post →
    (received pre = [] ∧ m ≠ S.hello) ∨ ((received pre).length = 1 ∧ m ≠ .ready) →
      ∃ error, ControllerThread.Leaving (.error error) post s
  /-- so does a failed operation of the transport -/
  failed : ∀ pre e post, es = pre ++ e :: post → .resumed ∉ pre → e.Fails →
    ∃ error, ControllerThread.Leaving (.error error) post s
  /-- without the handshake there is no outcome -/
  unresumed : .resumed ∉ es → ∀ o, s.phase ≠ .ended (.ok o)
  /-- the emulator is prepared before anything else -/
  prepared : ∀ e fs, es = e :: fs → e = .prepared
  /-- at every exit an activated transport has been closed -/
  closed : ∀ result, s.phase = .ended result → .activated ∈ es →
    [.deactivated, .operation .closed] <:+ es

/-- What a trace `es` of the display's thread that leads to the state `s` says about the
handshake. -/
structure DisplayHandshakeSafe (es : List SessionEvent) (s : DisplayThread σ) : Prop where
  /-- the emulator is resumed and stepped only after the peer's hello, a snapshot that was loaded
  and hashes to the peer's hash, and the start, when exactly the hello and the ready have been
  sent -/
  gated : .resumed ∈ es ∨ steps es ≠ [] → ∃ snapshot stateHash pre post,
    es = pre ++ .resumed :: post ∧ .resumed ∉ pre ∧ steps pre = [] ∧
      received pre = [S.hello, .snapshot snapshot stateHash, .start] ∧
      sent pre = [S.hello, .ready] ∧
      attempted pre = sent pre ∧
      [.loadedSnapshot snapshot (.ok ()), .hashed stateHash] <:+: pre
  /-- a wrong message ends the session with an error -/
  rejected : ∀ pre m post, es = pre ++ .operation (.received m) :: post →
    (received pre = [] ∧ m ≠ S.hello) ∨
      ((received pre).length = 1 ∧ ∀ snapshot stateHash, m ≠ .snapshot snapshot stateHash) ∨
      ((received pre).length = 2 ∧ m ≠ .start) →
      ∃ error, DisplayThread.Leaving (.error error) post s
  /-- so does a failed operation of the transport -/
  failed : ∀ pre e post, es = pre ++ e :: post → e.Fails →
    ∃ error, DisplayThread.Leaving (.error error) post s
  /-- and a snapshot that does not load -/
  unloaded : ∀ pre snapshot error post, es = pre ++
    .loadedSnapshot snapshot (.error error) :: post →
    DisplayThread.Leaving (.error error) post s
  /-- when the loaded state has another hash, the display's last message is a failure -/
  mismatched : ∀ pre snapshot expected stateHash post, es = pre ++ .hashed stateHash :: post →
    received pre = [S.hello, .snapshot snapshot expected] → stateHash ≠ expected →
      attempted post <+: [.failure DisplayThread.hashMismatchDetail] ∧
        ∀ result, s.phase = .ended result →
          attempted post = [.failure DisplayThread.hashMismatchDetail] ∧
            ∃ error, result = .error error
  /-- without the handshake there is no outcome -/
  unresumed : .resumed ∉ es → ∀ o, s.phase ≠ .ended (.ok o)
  /-- the emulator is prepared before anything else -/
  prepared : ∀ e fs, es = e :: fs → e = .prepared
  /-- at every exit an activated transport has been closed -/
  closed : ∀ result, s.phase = .ended result → .activated ∈ es →
    [.deactivated, .operation .closed] <:+ es

variable {S} {es : List SessionEvent}

/-- The calls behind an exit neither resume nor step. -/
theorem passed_or_unresumed_append {Passed : List SessionEvent → Prop} {result : SessionResult}
    (happend : ∀ gs, Passed es → Passed (es ++ gs))
    (h : Passed es ∨ ((.resumed ∉ es ∧ steps es = []) ∧ ∃ error, result = .error error))
    (gs : List SessionEvent) (hgs : .resumed ∉ gs) (hsteps : steps gs = []) :
    Passed (es ++ gs) ∨
      ((.resumed ∉ es ++ gs ∧ steps (es ++ gs) = []) ∧ ∀ o, result ≠ .ok o) := by
  rcases h with hpassed | ⟨⟨hno, hst⟩, error, rfl⟩
  · exact .inl (happend gs hpassed)
  · refine .inr ⟨⟨?_, ?_⟩, by simp⟩
    · rw [List.mem_append, not_or]
      exact ⟨hno, hgs⟩
    · rw [steps_append, hst, hsteps, List.append_nil]

section Controller

variable {s s' : ControllerThread σ} {done : List AcknowledgedFrame} {pending : List SteppedFrame}

variable (S) in
/-- The trace starts with the controller's handshake, up to the resume. -/
def ControllerPassed (es : List SessionEvent) : Prop :=
  ∃ snapshot stateHash,
    controllerOffered S snapshot stateHash ++ [.operation (.sent .start), .resumed] <+: es

/-- A handshake that has been passed stays so. -/
theorem ControllerPassed.append (h : ControllerPassed S es) (fs : List SessionEvent) :
    ControllerPassed S (es ++ fs) := by
  obtain ⟨snapshot, stateHash, h⟩ := h
  exact ⟨snapshot, stateHash, h.trans (List.prefix_append _ _)⟩

/-- A controller in its loop has passed the handshake. -/
theorem ControllerIdle.passed {k : ℕ} (h : ControllerIdle S k es done pending s) :
    ControllerPassed S es := by
  obtain ⟨stateHash, ls, rfl, -⟩ := h.trace
  refine ⟨s.snapshot, stateHash, .inboxStarted :: ls, ?_⟩
  unfold controllerHandshake
  rw [List.append_assoc, List.append_assoc]
  rfl

/-- A controller that leaves its loop has passed the handshake. -/
theorem ControllerExit.passed {result : SessionResult} (h : ControllerExit S s es result) :
    ControllerPassed S es := by
  cases h with
  | unsent idle _ => exact idle.passed.append _
  | unreceived idle _ _ => exact idle.passed.append _
  | unexpected idle _ _ => exact idle.passed.append _
  | unfinished idle _ => exact idle.passed.append _
  | unacknowledged idle _ _ => exact idle.passed.append _
  | finished idle _ => exact idle.passed.append _

/-- A controller that has left has passed the handshake, or has not resumed. -/
theorem ControllerLeft.passed {result : SessionResult} (h : ControllerLeft S s es result) :
    ControllerPassed S es ∨ ((.resumed ∉ es ∧ steps es = []) ∧ ∃ error, result = .error error) := by
  rcases h with ⟨⟨snapshot, stateHash, hbreaks⟩, herror⟩ | ⟨pre, hexit, rfl⟩
  · right
    exact ⟨hbreaks.unresumed (by simp [controllerOffered, opened]) rfl, herror⟩
  · left
    exact hexit.passed.append _

/-- A controller is past its handshake, or it has neither resumed nor stepped its emulator, and its
`run()` has not returned an outcome. -/
theorem ControllerTrace.passed (h : ControllerTrace S es s) :
    ControllerPassed S es ∨
      ((.resumed ∉ es ∧ steps es = []) ∧ ∀ o, s.phase ≠ .ended (.ok o)) := by
  unfold ControllerTrace at h
  cases hp : s.phase <;> rw [hp] at h <;> dsimp only at h
  case preparing | connecting | activating | receivingHello | sendingHello | makingSnapshot |
      hashingState | sendingSnapshot =>
    obtain ⟨-, rfl⟩ := h
    exact .inr ⟨⟨by simp [controllerHandshake, controllerOffered, opened], rfl⟩, by simp⟩
  case receivingReady | sendingStart | resuming =>
    obtain ⟨stateHash, -, rfl⟩ := h
    exact .inr ⟨⟨by simp [controllerHandshake, controllerOffered, opened], rfl⟩, by simp⟩
  -- From here on the handshake is complete.
  case startingInbox =>
    obtain ⟨stateHash, -, rfl⟩ := h
    exact .inl ⟨s.snapshot, stateHash, List.prefix_refl _⟩
  case awaitingAcknowledgement =>
    obtain ⟨_, _, _, idle, -⟩ := h
    exact .inl idle.passed
  case providingInput =>
    obtain ⟨_, _, idle, -⟩ := h
    exact .inl idle.passed
  case sendingInput | steppingFrame =>
    obtain ⟨_, _, _, idle, -, -, rfl⟩ := h
    exact .inl (idle.passed.append _)
  case sendingFinish =>
    obtain ⟨_, idle, -⟩ := h
    exact .inl idle.passed
  case awaitingFinish =>
    obtain ⟨_, _, idle, -, rfl⟩ := h
    exact .inl (idle.passed.append _)
  case stoppingInbox => exact .inl h.passed
  case closingInbox =>
    obtain ⟨_, hexit, rfl⟩ := h
    exact .inl (hexit.passed.append _)
  -- The deferred blocks are run behind an interrupted handshake too.
  case deactivating =>
    rcases h.passed with hpassed | ⟨hnone, -⟩
    · exact .inl hpassed
    · exact .inr ⟨hnone, by simp⟩
  case closing =>
    rcases h with ⟨_, hl, rfl⟩ | ⟨rfl, rfl⟩
    · rcases passed_or_unresumed_append (fun gs h => h.append gs) hl.passed
        [.deactivated] (by simp) rfl with hpassed | ⟨hnone, -⟩
      · exact .inl hpassed
      · exact .inr ⟨hnone, by simp⟩
    · exact .inr ⟨⟨by simp, rfl⟩, by simp⟩
  case ended =>
    rcases h with ⟨_, hl, rfl⟩ | ⟨rfl, rfl⟩ | ⟨rfl, rfl⟩
    · rcases passed_or_unresumed_append (fun gs h => h.append gs) hl.passed
        [.deactivated, .operation .closed] (by simp) rfl with hpassed | ⟨hnone, hok⟩
      · exact .inl hpassed
      · exact .inr ⟨hnone, fun o ho => hok o (ControllerPhase.ended.inj ho)⟩
    · exact .inr ⟨⟨by simp, rfl⟩, by simp⟩
    · exact .inr ⟨⟨by simp, rfl⟩, by simp⟩
  case trapped =>
    obtain ⟨_, _, _, idle, -, ⟨rfl, -⟩ | ⟨_, _, _, -, rfl, -⟩⟩ := h
    · exact .inl idle.passed
    · exact .inl (idle.passed.append _)

/-- In every run of its main thread, the controller's handshake is safe. -/
theorem ControllerHandshakeSafe.of_exec {host : σ}
    (h : exec (ControllerThread.step S) { host := host } es = some s) :
    ControllerHandshakeSafe S es s := by
  have htrace : ControllerTrace S es s := controllerTrace_of_exec h
  refine ⟨?_, ?_, ?_, ?_, ?_, ?_⟩
  · intro hran
    rcases htrace.passed with ⟨snapshot, stateHash, rest, hrest⟩ | ⟨⟨hno, hst⟩, -⟩
    · refine ⟨snapshot, stateHash,
        controllerOffered S snapshot stateHash ++ [.operation (.sent .start)], rest, ?_, ?_,
          rfl, rfl,
        rfl, rfl, ?_⟩
      · rw [← hrest, List.append_assoc, List.append_assoc]
        rfl
      · simp [controllerOffered, opened]
      · exact ⟨opened ++ [.operation (.received S.hello), .operation (.sent S.hello)], _, rfl⟩
    · rcases hran with hmem | hne
      · exact absurd hmem hno
      · exact absurd hst hne
  -- A message is received before the loop in two phases only, and the wrong one throws in each.
  · intro pre m post hes hm
    subst hes
    obtain ⟨t, t', ht, hstep, hpost⟩ := Automaton.exec_split h
    have hpre : ControllerTrace S pre t := controllerTrace_of_exec ht
    unfold ControllerTrace at hpre
    rcases ControllerThread.step_received hstep with ⟨hp, hthrow⟩ | ⟨hp, hthrow⟩ <;>
      rw [hp] at hpre <;> dsimp only at hpre
    · obtain ⟨-, rfl⟩ := hpre
      rcases hm with ⟨-, hm⟩ | ⟨hlen, -⟩
      · obtain ⟨error, rfl⟩ := hthrow hm
        exact ⟨error, ControllerThread.leaving_of_exec rfl hpost⟩
      · exact absurd hlen Nat.zero_ne_one
    · obtain ⟨stateHash, -, rfl⟩ := hpre
      rcases hm with ⟨hnil, -⟩ | ⟨-, hm⟩
      · exact absurd hnil (List.cons_ne_nil S.hello [])
      · obtain ⟨error, rfl⟩ := hthrow hm
        exact ⟨error, ControllerThread.leaving_of_exec rfl hpost⟩
  -- A failed call throws, but for those of the loop, where the handshake is already passed.
  · intro pre e post hes hno hfails
    subst hes
    obtain ⟨t, t', ht, hstep, hpost⟩ := Automaton.exec_split h
    have hpre : ControllerTrace S pre t := controllerTrace_of_exec ht
    have hnot : ¬ ControllerPassed S pre := by
      rintro ⟨snapshot, stateHash, rest, rfl⟩
      exact hno (by simp)
    unfold ControllerTrace at hpre
    rcases ControllerThread.step_fails hfails hstep with ⟨error, rfl⟩ | ⟨input, hp⟩ |
      ⟨success, detail, hp⟩
    · exact ⟨error, ControllerThread.leaving_of_exec rfl hpost⟩
    · rw [hp] at hpre
      obtain ⟨_, _, _, idle, -, -, rfl⟩ := hpre
      exact absurd (idle.passed.append _) hnot
    · rw [hp] at hpre
      obtain ⟨_, idle, -⟩ := hpre
      exact absurd idle.passed hnot
  · intro hno
    rcases htrace.passed with ⟨snapshot, stateHash, rest, rfl⟩ | ⟨-, hok⟩
    · exact absurd (by simp) hno
    · exact hok
  · rintro e fs rfl
    rw [Automaton.exec_cons, Option.bind_eq_some_iff] at h
    obtain ⟨t, ht, -⟩ := h
    exact (SessionEvent.on_eq_some.mp ht).1
  · intro result hp hactivated
    unfold ControllerTrace at htrace
    rw [hp] at htrace
    rcases htrace with ⟨pre, -, rfl⟩ | ⟨-, rfl⟩ | ⟨-, rfl⟩
    · exact List.suffix_append _ _
    · exact absurd hactivated (by decide)
    · exact absurd hactivated (by decide)

end Controller

section Display

variable {s : DisplayThread σ} {rs : List DisplayRound}

variable (S) in
/-- The trace starts with the display's handshake, up to the resume. -/
def DisplayPassed (es : List SessionEvent) : Prop :=
  ∃ snapshot stateHash, displayHandshake S snapshot stateHash <+: es

/-- A display behind the handshake has passed it. -/
theorem displayPassed (snapshot : Data) (stateHash : UInt64) (fs gs : List SessionEvent) :
    DisplayPassed S (displayHandshake S snapshot stateHash ++ fs ++ gs) := by
  rw [List.append_assoc]
  exact ⟨snapshot, stateHash, List.prefix_append _ _⟩

/-- A handshake that has been passed stays so. -/
theorem DisplayPassed.append (h : DisplayPassed S es) (fs : List SessionEvent) :
    DisplayPassed S (es ++ fs) := by
  obtain ⟨snapshot, stateHash, h⟩ := h
  exact ⟨snapshot, stateHash, h.trans (List.prefix_append _ _)⟩

/-- A display that leaves has passed the handshake, or has not resumed. -/
theorem DisplayExit.passed {result : SessionResult} (h : DisplayExit S s es result) :
    DisplayPassed S es ∨ ((.resumed ∉ es ∧ steps es = []) ∧ ∃ error, result = .error error) := by
  cases h with
  | interrupted snapshot stateHash breaks =>
    right
    exact ⟨breaks.unresumed
      (by simp [displayReady, displayLoaded, displayGreeted, opened]) rfl, _, rfl⟩
  | mismatched differs fails =>
    right
    rcases fails with rfl | rfl <;>
      exact ⟨⟨by simp [displayLoaded, displayGreeted, opened], rfl⟩, _, rfl⟩
  | refused idle refuses => exact .inl (displayPassed _ _ _ _)
  | unacknowledged idle =>
    rw [List.append_assoc]
    exact .inl (displayPassed _ _ _ _)
  | unfinished idle => exact .inl (displayPassed _ _ _ _)
  | finished idle => exact .inl (displayPassed _ _ _ _)

/-- A display is past its handshake, or it has neither resumed nor stepped its emulator, and its
`run()` has not returned an outcome. -/
theorem DisplayTrace.passed (h : DisplayTrace S es s) :
    DisplayPassed S es ∨ ((.resumed ∉ es ∧ steps es = []) ∧ ∀ o, s.phase ≠ .ended (.ok o)) := by
  unfold DisplayTrace at h
  cases hp : s.phase <;> rw [hp] at h <;> dsimp only at h
  case preparing | connecting | activating | sendingHello | receivingHello | receivingSnapshot |
      loadingSnapshot | hashingState =>
    obtain ⟨-, rfl⟩ := h
    exact .inr ⟨⟨by simp [displayLoaded, displayGreeted, opened], rfl⟩, by simp⟩
  case sendingFailure =>
    obtain ⟨-, _, _, -, rfl⟩ := h
    exact .inr ⟨⟨by simp [displayLoaded, displayGreeted, opened], rfl⟩, by simp⟩
  case sendingReady | receivingStart | resuming =>
    obtain ⟨-, _, rfl⟩ := h
    exact .inr ⟨⟨by simp [displayReady, displayLoaded, displayGreeted, opened], rfl⟩, by simp⟩
  -- From here on the handshake is complete.
  case receiving =>
    obtain ⟨stateHash, rs, -, rfl⟩ := h
    exact .inl ⟨s.snapshot, stateHash, List.prefix_append _ _⟩
  case startingClock =>
    obtain ⟨_, _, -, -, rfl⟩ := h
    exact .inl (displayPassed _ _ _ _)
  case steppingFrame | stoppingClock =>
    obtain ⟨_, _, -, -, -, rfl⟩ := h
    exact .inl (displayPassed _ _ _ _)
  case acknowledging =>
    obtain ⟨_, _, _, -, -, rfl⟩ := h
    exact .inl (displayPassed _ _ _ _)
  case sendingFinishAcknowledgement =>
    obtain ⟨_, _, -, rfl⟩ := h
    exact .inl (displayPassed _ _ _ _)
  -- The deferred blocks are run behind an interrupted handshake too.
  case deactivating =>
    rcases h.passed with hpassed | ⟨hnone, -⟩
    · exact .inl hpassed
    · exact .inr ⟨hnone, by simp⟩
  case closing =>
    rcases h with ⟨_, hl, rfl⟩ | ⟨rfl, rfl⟩
    · rcases passed_or_unresumed_append (fun gs h => h.append gs) hl.passed
        [.deactivated] (by simp) rfl with hpassed | ⟨hnone, -⟩
      · exact .inl hpassed
      · exact .inr ⟨hnone, by simp⟩
    · exact .inr ⟨⟨by simp, rfl⟩, by simp⟩
  case ended =>
    rcases h with ⟨_, hl, rfl⟩ | ⟨rfl, rfl⟩ | ⟨rfl, rfl⟩
    · rcases passed_or_unresumed_append (fun gs h => h.append gs) hl.passed
        [.deactivated, .operation .closed] (by simp) rfl with hpassed | ⟨hnone, hok⟩
      · exact .inl hpassed
      · exact .inr ⟨hnone, fun o ho => hok o (DisplayPhase.ended.inj ho)⟩
    · exact .inr ⟨⟨by simp, rfl⟩, by simp⟩
    · exact .inr ⟨⟨by simp, rfl⟩, by simp⟩
  case trapped =>
    obtain ⟨_, _, _, -, -, rfl⟩ := h
    exact .inl (displayPassed _ _ _ _)

/-- In every run, the display's handshake is safe. -/
theorem DisplayHandshakeSafe.of_exec {host : σ}
    (h : exec (DisplayThread.step S) { host := host } es = some s) :
    DisplayHandshakeSafe S es s := by
  have htrace : DisplayTrace S es s := displayTrace_of_exec h
  refine ⟨?_, ?_, ?_, ?_, ?_, ?_, ?_, ?_⟩
  · intro hran
    rcases htrace.passed with ⟨snapshot, stateHash, rest, hrest⟩ | ⟨⟨hno, hst⟩, -⟩
    · refine ⟨snapshot, stateHash,
        displayReady S snapshot stateHash ++ [.operation (.received .start)], rest, ?_, ?_,
          rfl, rfl,
        rfl, rfl, ?_⟩
      · unfold displayHandshake at hrest
        rw [← hrest, List.append_assoc, List.append_assoc]
        rfl
      · simp [displayReady, displayLoaded, displayGreeted, opened]
      · exact ⟨displayGreeted S ++ [.operation (.received (.snapshot snapshot stateHash))], _, rfl⟩
    · rcases hran with hmem | hne
      · exact absurd hmem hno
      · exact absurd hst hne
  · intro pre m post hes hm
    subst hes
    obtain ⟨t, t', ht, hstep, hpost⟩ := Automaton.exec_split h
    have hpre : DisplayTrace S pre t := displayTrace_of_exec ht
    have hthrown : ∀ {error : SessionError}, t' = t.throwing error →
        ∃ error, DisplayThread.Leaving (.error error) post s := by
      rintro error rfl
      exact ⟨error, DisplayThread.leaving_of_exec rfl hpost⟩
    -- The number of messages received so far tells the gates apart.
    unfold DisplayTrace at hpre
    rcases DisplayThread.step_received hstep with ⟨hp, hthrow⟩ | ⟨hp, hthrow⟩ | ⟨hp, hthrow⟩ |
      ⟨hp, -⟩ <;> rw [hp] at hpre <;> dsimp only at hpre
    · obtain ⟨-, rfl⟩ := hpre
      rcases hm with ⟨-, hm⟩ | ⟨hlen, -⟩ | ⟨hlen, -⟩
      · exact hthrown (hthrow hm).choose_spec
      · exact absurd hlen Nat.zero_ne_one
      · exact absurd hlen (Nat.zero_ne_add_one 1)
    · obtain ⟨-, rfl⟩ := hpre
      rcases hm with ⟨hnil, -⟩ | ⟨-, hm⟩ | ⟨hlen, -⟩
      · exact absurd hnil (List.cons_ne_nil S.hello [])
      · exact hthrown (hthrow hm).choose_spec
      · exact absurd (Nat.succ.inj hlen) Nat.zero_ne_one
    · obtain ⟨-, stateHash, rfl⟩ := hpre
      rcases hm with ⟨hnil, -⟩ | ⟨hlen, -⟩ | ⟨-, hm⟩
      · exact absurd hnil (List.cons_ne_nil S.hello _)
      · exact absurd (Nat.succ.inj hlen) (Nat.succ_ne_zero 0)
      · exact hthrown (hthrow hm).choose_spec
    · obtain ⟨stateHash, rs, -, rfl⟩ := hpre
      have hlen : 3 ≤ (received (displayHandshake S t.snapshot stateHash ++
          roundEvents S rs)).length := by
        rw [received_append, List.length_append]
        exact Nat.le_add_right 3 _
      rcases hm with ⟨hnil, -⟩ | ⟨hone, -⟩ | ⟨htwo, -⟩
      · rw [hnil] at hlen
        exact absurd hlen (by decide)
      · omega
      · omega
  · intro pre e post hes hfails
    subst hes
    obtain ⟨t, t', ht, hstep, hpost⟩ := Automaton.exec_split h
    obtain ⟨error, rfl⟩ := DisplayThread.step_fails hfails hstep
    exact ⟨error, DisplayThread.leaving_of_exec rfl hpost⟩
  · intro pre snapshot error post hes
    subst hes
    obtain ⟨t, t', ht, hstep, hpost⟩ := Automaton.exec_split h
    obtain ⟨host', rfl⟩ := DisplayThread.step_loadedSnapshot hstep
    exact DisplayThread.leaving_of_exec rfl hpost
  · intro pre snapshot expected stateHash post hes hreceived hne
    subst hes
    obtain ⟨t, t', ht, hstep, hpost⟩ := Automaton.exec_split h
    have hpre : DisplayTrace S pre t := displayTrace_of_exec ht
    obtain ⟨expected', hp, hfail⟩ := DisplayThread.step_hashed hstep
    unfold DisplayTrace at hpre
    rw [hp] at hpre
    obtain ⟨-, rfl⟩ := hpre
    have hexpected : expected' = expected := by
      have heq : [S.hello, TwoPhoneMessage.snapshot t.snapshot expected'] =
          [S.hello, .snapshot snapshot expected] := hreceived
      simp only [List.cons.injEq, TwoPhoneMessage.snapshot.injEq, true_and, and_true] at heq
      exact heq.2
    rw [hexpected] at hfail
    rcases DisplayThread.exec_sendingFailure (hfail hne) hpost with ⟨rfl, hphase⟩ |
      ⟨e, rest, error, rfl, he, hleaving⟩
    · refine ⟨List.nil_prefix, fun result hended => ?_⟩
      rw [hphase] at hended
      contradiction
    · have hattempted : attempted (e :: rest) = [.failure DisplayThread.hashMismatchDetail] := by
        have hsilent := hleaving.silent.2.1
        rw [← List.singleton_append, attempted_append, hsilent]
        rcases he with rfl | rfl <;> rfl
      refine ⟨hattempted ▸ List.prefix_refl _, fun result hended => ⟨hattempted, error, ?_⟩⟩
      rcases hleaving with ⟨-, hphase⟩ | ⟨-, hphase⟩ | ⟨-, hphase⟩ <;> rw [hphase] at hended
      · contradiction
      · contradiction
      · exact (DisplayPhase.ended.inj hended).symm
  · intro hno
    rcases htrace.passed with ⟨snapshot, stateHash, rest, rfl⟩ | ⟨-, hok⟩
    · exact absurd (by simp [displayHandshake]) hno
    · exact hok
  · rintro e fs rfl
    rw [Automaton.exec_cons, Option.bind_eq_some_iff] at h
    obtain ⟨t, ht, -⟩ := h
    exact (SessionEvent.on_eq_some.mp ht).1
  · intro result hp hactivated
    unfold DisplayTrace at htrace
    rw [hp] at htrace
    rcases htrace with ⟨pre, -, rfl⟩ | ⟨-, rfl⟩ | ⟨-, rfl⟩
    · exact List.suffix_append _ _
    · exact absurd hactivated (by decide)
    · exact absurd hactivated (by decide)

end Display

end

/-- No emulator runs before the handshake has passed: in every run of a controller, with its inbox
and its reader thread, and in every run of a display, each against an arbitrary peer. -/
theorem handshake_safety {σ : Type} (S : TwoPhoneSession σ) (host : σ) :
    (∀ es s, exec (ControllerState.step S) { thread := { host := host } } es = some s →
      ControllerHandshakeSafe S (es.filterMap ControllerEvent.main?) s.thread) ∧
    (∀ es s, exec (DisplayThread.step S) { host := host } es = some s →
      DisplayHandshakeSafe S es s) := by
  constructor
  · intro es s h
    exact ControllerHandshakeSafe.of_exec (ControllerState.exec_thread h)
  · intro es s h
    exact DisplayHandshakeSafe.of_exec h

/-- `handshake_safety` on runs through the handshake of both roles. -/
theorem handshake_safety_passed :
    (∃ s, ControllerHandshakeSafe fixedDigestSession
      (controllerHandshake fixedDigestSession [] 0) s) ∧
    (∃ s, DisplayHandshakeSafe fixedDigestSession
      (displayHandshake fixedDigestSession [] 0) s) := by
  have hcontroller : (exec (ControllerState.step fixedDigestSession) { thread := { host := () } }
      ((controllerHandshake fixedDigestSession [] 0).map .main)).isSome = true := by
    decide +kernel
  have hdisplay : (exec (DisplayThread.step fixedDigestSession) { host := () }
      (displayHandshake fixedDigestSession [] 0)).isSome = true := by
    decide +kernel
  obtain ⟨s, hs⟩ := Option.isSome_iff_exists.mp hcontroller
  obtain ⟨t, ht⟩ := Option.isSome_iff_exists.mp hdisplay
  exact ⟨⟨s.thread, (handshake_safety fixedDigestSession ()).1 _ s hs⟩,
    ⟨t, (handshake_safety fixedDigestSession ()).2 _ t ht⟩⟩

end DSEmu

import Mathlib.Data.List.Forall2
import DSEmu.Session.DisplayTrace

/-!
# The display processes each frame exactly once

Against an arbitrary controller, the display steps the frames 1, 2, …, k in order, it acknowledges
each of them once and after stepping it, and it finishes only at its own frame; every other message
makes `run()` throw, with nothing stepped or sent after it (`display_exactlyOnce`).

The acknowledgement carries whatever digest `stepFrame` returned. The schedule decides what
`stepFrame` is asked for, and nothing checks that it returns a digest only when asked
(`display_sends_unasked_digest`). A display that has completed 2^64 - 1 frames traps at the next
input, in `framesCompleted + 1`.
-/

namespace DSEmu

open Automaton (exec)

/-- The acknowledgements that a trace has tried to send. -/
def acknowledged (es : List SessionEvent) : List FrameAcknowledgement :=
  (attempted es).filterMap TwoPhoneMessage.acknowledgement?

/-- The inputs that a trace has received. -/
def receivedInputs (es : List SessionEvent) : List DSInputFrame :=
  (received es).filterMap TwoPhoneMessage.input?

@[simp] theorem acknowledged_append (es fs : List SessionEvent) :
    acknowledged (es ++ fs) = acknowledged es ++ acknowledged fs := by
  unfold acknowledged
  rw [attempted_append, List.filterMap_append]

@[simp] theorem receivedInputs_append (es fs : List SessionEvent) :
    receivedInputs (es ++ fs) = receivedInputs es ++ receivedInputs fs := by
  unfold receivedInputs
  rw [received_append, List.filterMap_append]

/-- The acknowledgement is of the frame stepped, with the digest that the step returned. -/
def FrameAcknowledgement.Reports (a : FrameAcknowledgement) (st : SteppedFrame) : Prop :=
  a.frame = st.frame ∧ a.digest = st.digest

section

variable {σ : Type} (S : TwoPhoneSession σ)

/-- The trace accounts for the rounds `rs`, all acknowledged, and for at most one more that is
stepped and not acknowledged yet. -/
structure DisplayAccount (es : List SessionEvent) (rs current : List DisplayRound) : Prop where
  scheduled : Scheduled S.configuration (roundSteps S (rs ++ current))
  steps : steps es = roundSteps S (rs ++ current)
  acknowledged : acknowledged es = rs.map DisplayRound.acknowledgement
  atMostOne : current.length ≤ 1
  inputs : (rs ++ current).map DisplayRound.input <+: receivedInputs es

variable {S} {s s' : DisplayThread σ} {es : List SessionEvent} {rs : List DisplayRound}

/-- A trace with no step and no acknowledgement. -/
theorem DisplayAccount.of_nil (hsteps : DSEmu.steps es = []) (hacks : DSEmu.acknowledged es = []) :
    DisplayAccount S es [] [] :=
  ⟨.nil, hsteps, hacks, Nat.zero_le _, List.nil_prefix⟩

/-- Events that neither step, nor acknowledge, nor receive an input. -/
theorem DisplayAccount.append {current : List DisplayRound} {fs : List SessionEvent}
    (h : DisplayAccount S es rs current) (hsteps : DSEmu.steps fs = [])
    (hacks : DSEmu.acknowledged fs = []) : DisplayAccount S (es ++ fs) rs current := by
  refine ⟨h.scheduled, ?_, ?_, h.atMostOne, ?_⟩
  · rw [steps_append, hsteps, List.append_nil]
    exact h.steps
  · rw [acknowledged_append, hacks, List.append_nil]
    exact h.acknowledged
  · rw [receivedInputs_append]
    exact h.inputs.trans (List.prefix_append _ _)

/-- The handshake and complete rounds. -/
theorem DisplayAccount.rounds (h : Scheduled S.configuration (roundSteps S rs)) (snapshot : Data)
    (stateHash : UInt64) :
    DisplayAccount S (displayHandshake S snapshot stateHash ++ roundEvents S rs) rs [] := by
  refine ⟨?_, ?_, ?_, Nat.zero_le _, ?_⟩
  · rw [List.append_nil]
    exact h
  · rw [steps_append, steps_roundEvents, List.append_nil]
    rfl
  · have hmap : DSEmu.acknowledged (roundEvents S rs) = rs.map DisplayRound.acknowledgement := by
      rw [DSEmu.acknowledged, attempted_roundEvents, List.filterMap_map]
      exact congrFun List.filterMap_eq_map rs
    rw [acknowledged_append, hmap]
    rfl
  · have hmap : receivedInputs (roundEvents S rs) = rs.map DisplayRound.input := by
      rw [receivedInputs, received_roundEvents, List.filterMap_map]
      exact congrFun List.filterMap_eq_map rs
    rw [receivedInputs_append, hmap, List.append_nil]
    exact List.prefix_refl _

/-- The handshake, complete rounds, and a round that is stepped and not acknowledged yet. -/
theorem DisplayAccount.stepped {r : DisplayRound} {fs : List SessionEvent}
    (h : Scheduled S.configuration (roundSteps S (rs ++ [r]))) (snapshot : Data)
    (stateHash : UInt64) (hsteps : DSEmu.steps fs = [r.step S])
    (hacks : DSEmu.acknowledged fs = []) (hinputs : receivedInputs fs = [r.input]) :
    DisplayAccount S (displayHandshake S snapshot stateHash ++ roundEvents S rs ++ fs) rs [r] := by
  have hrs : Scheduled S.configuration (roundSteps S rs) := by
    rw [roundSteps_concat] at h
    exact h.of_append
  obtain ⟨-, hst, hac, -, -⟩ := DisplayAccount.rounds hrs snapshot stateHash
  refine ⟨h, ?_, ?_, Nat.le_refl _, ?_⟩
  · rw [steps_append, hsteps, hst, List.append_nil, roundSteps_concat]
  · rw [acknowledged_append, hacks, List.append_nil]
    exact hac
  · have hmap : receivedInputs (roundEvents S rs) = rs.map DisplayRound.input := by
      rw [receivedInputs, received_roundEvents, List.filterMap_map]
      exact congrFun List.filterMap_eq_map rs
    rw [receivedInputs_append, receivedInputs_append, hmap, hinputs, List.map_append]
    exact List.prefix_refl _

/-- The acknowledgement of the round that was open. -/
theorem DisplayAccount.acknowledge {r : DisplayRound} {fs : List SessionEvent}
    (h : DisplayAccount S es rs [r]) (hsteps : DSEmu.steps fs = [])
    (hacks : DSEmu.acknowledged fs = [r.acknowledgement]) :
    DisplayAccount S (es ++ fs) (rs ++ [r]) [] := by
  refine ⟨?_, ?_, ?_, Nat.zero_le _, ?_⟩
  · rw [List.append_nil]
    exact h.scheduled
  · rw [steps_append, hsteps, List.append_nil, List.append_nil]
    exact h.steps
  · rw [acknowledged_append, hacks, h.acknowledged, List.map_append]
    rfl
  · rw [receivedInputs_append, List.append_nil]
    exact h.inputs.trans (List.prefix_append _ _)

/-- A trace that breaks off inside of the handshake accounts for no frame. -/
theorem Interrupted.account {snapshot : Data} {stateHash : UInt64}
    (h : Interrupted (displayReady S snapshot stateHash) [S.hello, .ready] es) :
    DisplayAccount S es [] [] := by
  obtain ⟨pre, e, rfl, ⟨post, hpre⟩, hint, hatt⟩ := h
  refine .of_nil ?_ ?_
  · have hnone : steps (pre ++ post) = [] := by
      rw [hpre]
      rfl
    rw [steps_append, List.append_eq_nil_iff] at hnone
    rw [steps_append, hnone.1]
    cases e <;> first | rfl | exact hint.elim
  · obtain ⟨rest, hrest⟩ := hatt
    have hnone := congrArg (List.filterMap TwoPhoneMessage.acknowledgement?) hrest
    rw [List.filterMap_append] at hnone
    exact (List.append_eq_nil_iff.mp hnone).1

/-- The account of a display that is on its way out. -/
theorem DisplayExit.account {result : SessionResult} (h : DisplayExit S s es result) :
    ∃ rs current, DisplayAccount S es rs current := by
  cases h with
  | interrupted snapshot stateHash breaks => exact ⟨[], [], breaks.account⟩
  | mismatched differs fails =>
    refine ⟨[], [], .of_nil ?_ ?_⟩
    · rcases fails with rfl | rfl <;> rfl
    · rcases fails with rfl | rfl <;> rfl
  | @refused stateHash rs e error idle refuses =>
    refine ⟨rs, [], (DisplayAccount.rounds idle.scheduled _ _).append ?_ ?_⟩
    · rcases refuses with rfl | ⟨m, rfl, -⟩ <;> rfl
    · rcases refuses with rfl | ⟨m, rfl, -⟩ <;> rfl
  | @unacknowledged stateHash rs r error idle =>
    have hstepped : DisplayAccount S
        (displayHandshake S s.snapshot stateHash ++ roundEvents S rs ++ r.work S) rs [r] :=
      .stepped idle.scheduled _ _ rfl rfl rfl
    exact ⟨rs ++ [r], [], hstepped.acknowledge rfl rfl⟩
  | @unfinished stateHash rs _ _ _ idle =>
    exact ⟨rs, [], (DisplayAccount.rounds idle.scheduled _ _).append rfl rfl⟩
  | @finished stateHash rs _ _ idle =>
    exact ⟨rs, [], (DisplayAccount.rounds idle.scheduled _ _).append rfl rfl⟩

/-- Every trace of the display has an account. -/
theorem DisplayTrace.account (h : DisplayTrace S es s) :
    ∃ rs current, DisplayAccount S es rs current := by
  unfold DisplayTrace at h
  cases hp : s.phase <;> rw [hp] at h <;> dsimp only at h
  case preparing | connecting | activating | sendingHello | receivingHello | receivingSnapshot =>
    obtain ⟨-, rfl⟩ := h
    exact ⟨[], [], .of_nil rfl rfl⟩
  case loadingSnapshot | hashingState =>
    obtain ⟨-, rfl⟩ := h
    exact ⟨[], [], .of_nil rfl rfl⟩
  case sendingFailure =>
    obtain ⟨-, _, _, -, rfl⟩ := h
    exact ⟨[], [], .of_nil rfl rfl⟩
  case sendingReady | receivingStart | resuming =>
    obtain ⟨-, _, rfl⟩ := h
    exact ⟨[], [], .of_nil rfl rfl⟩
  case receiving =>
    obtain ⟨stateHash, rs, idle, rfl⟩ := h
    exact ⟨rs, [], .rounds idle.scheduled _ _⟩
  case startingClock =>
    obtain ⟨stateHash, rs, idle, -, rfl⟩ := h
    exact ⟨rs, [], (DisplayAccount.rounds idle.scheduled _ _).append rfl rfl⟩
  case steppingFrame =>
    obtain ⟨stateHash, rs, idle, -, -, rfl⟩ := h
    exact ⟨rs, [], (DisplayAccount.rounds idle.scheduled _ _).append rfl rfl⟩
  case stoppingClock input digest processingStarted =>
    obtain ⟨stateHash, rs, idle, hframe, -, rfl⟩ := h
    -- The round is open: its second reading of the clock is still to come.
    let r : DisplayRound := ⟨input, digest, processingStarted, processingStarted⟩
    refine ⟨rs, [r], .stepped ?_ _ _ rfl rfl rfl⟩
    rw [roundSteps_concat]
    refine idle.scheduled.concat ?_ rfl
    rw [roundSteps_length]
    exact hframe
  case acknowledging =>
    obtain ⟨stateHash, rs, r, idle, -, rfl⟩ := h
    exact ⟨rs, [r], .stepped idle.scheduled _ _ rfl rfl rfl⟩
  case sendingFinishAcknowledgement =>
    obtain ⟨stateHash, rs, idle, rfl⟩ := h
    exact ⟨rs, [], (DisplayAccount.rounds idle.scheduled _ _).append rfl rfl⟩
  case deactivating => exact h.account
  case closing =>
    rcases h with ⟨pre, hexit, rfl⟩ | ⟨-, rfl⟩
    · obtain ⟨rs, current, haccount⟩ := hexit.account
      exact ⟨rs, current, haccount.append rfl rfl⟩
    · exact ⟨[], [], .of_nil rfl rfl⟩
  case ended =>
    rcases h with ⟨pre, hexit, rfl⟩ | ⟨-, rfl⟩ | ⟨-, rfl⟩
    · obtain ⟨rs, current, haccount⟩ := hexit.account
      exact ⟨rs, current, haccount.append rfl rfl⟩
    · exact ⟨[], [], .of_nil rfl rfl⟩
    · exact ⟨[], [], .of_nil rfl rfl⟩
  case trapped =>
    obtain ⟨stateHash, rs, input, idle, -, rfl⟩ := h
    exact ⟨rs, [], (DisplayAccount.rounds idle.scheduled _ _).append rfl rfl⟩

/-- The messages that the loop takes after `k` frames. -/
def ExpectedAfter (k : ℕ) : TwoPhoneMessage → Prop
  | .input input => input.frame.toNat = k + 1
  | .finish frame _ _ => frame.toNat = k
  | _ => False

variable (S) in
/-- What a trace `es` of a display that leads to the state `s` says about its frames. -/
structure DisplayExactlyOnce (es : List SessionEvent) (s : DisplayThread σ) : Prop where
  /-- the frames stepped are 1, 2, …, k, with a digest asked for on the display's own schedule -/
  scheduled : Scheduled S.configuration (steps es)
  /-- each is stepped with the input received for it -/
  inputs : (steps es).map SteppedFrame.input <+: receivedInputs es
  numbered : ∀ st ∈ steps es, st.input.frame = st.frame
  /-- the acknowledgements are those of the frames stepped, in order, each after its step and before
  the next one -/
  acknowledgements :
    List.Forall₂ FrameAcknowledgement.Reports (acknowledged es)
      ((steps es).take (acknowledged es).length)
  prompt : (steps es).length ≤ (acknowledged es).length + 1
  /-- the finish acknowledgement answers a finish at the frame `k` -/
  finishes : .finishAcknowledgement ∈ attempted es → ∃ frame success detail,
    (received es).getLast? = some (.finish frame success detail) ∧
      frame.toNat = (steps es).length ∧ (acknowledged es).length = (steps es).length
  /-- an outcome is that of the finish received -/
  outcome : ∀ o, s.phase = .ended (.ok o) → .finishAcknowledgement ∈ sent es ∧
    (received es).getLast? = some (.finish o.framesCompleted o.success o.detail) ∧
      o.framesCompleted.toNat = (steps es).length ∧
      o.checkpointsCompared = (List.range' 1 (steps es).length).countP
        (fun f => S.shouldCreateDigest (UInt64.ofNat f)) ∧
      o.finalDigest = lastCheckpointDigest (steps es)
  /-- every other message ends the session, without a further step or send: `run()` throws, unless
  the message is an input and the frame counter cannot go on -/
  refuses : ∀ snapshot stateHash pre m post, displayHandshake S snapshot stateHash <+: pre →
    es = pre ++ .operation (.received m) :: post → ¬ ExpectedAfter (steps pre).length m →
      steps post = [] ∧ attempted post = [] ∧
        ((∃ error, DisplayThread.Leaving (.error error) post s) ∨
          ((∃ input, m = .input input) ∧ (steps pre).length + 1 = UInt64.size ∧
            s.phase = .trapped))

/-- The acknowledgements of rounds report their steps. -/
theorem forall₂_reports (rs : List DisplayRound) :
    List.Forall₂ FrameAcknowledgement.Reports (rs.map DisplayRound.acknowledgement)
      (roundSteps S rs) := by
  unfold roundSteps
  rw [List.forall₂_map_left_iff, List.forall₂_map_right_iff, List.forall₂_same]
  exact fun r _ => ⟨rfl, rfl⟩

/-- A trace past the handshake at which the display receives is a trace between two rounds. -/
theorem DisplayTrace.at_receive {snapshot : Data} {stateHash : UInt64} {m : TwoPhoneMessage}
    (h : DisplayTrace S es s) (hes : displayHandshake S snapshot stateHash <+: es)
    (hs : s.step S (.operation (.received m)) = some s') :
    ∃ rs, DisplayIdle S rs s ∧ steps es = roundSteps S rs ∧ s' = s.handle m := by
  have hresumed : SessionEvent.resumed ∈ es := by
    obtain ⟨rest, rfl⟩ := hes
    simp [displayHandshake]
  unfold DisplayTrace at h
  rcases DisplayThread.step_received hs with ⟨hp, -⟩ | ⟨hp, -⟩ | ⟨hp, -⟩ | ⟨hp, rfl⟩ <;>
    rw [hp] at h <;>
    dsimp only at h
  · obtain ⟨-, rfl⟩ := h
    exact absurd hresumed (by simp [opened])
  · obtain ⟨-, rfl⟩ := h
    exact absurd hresumed (by simp [displayGreeted, opened])
  · obtain ⟨-, _, rfl⟩ := h
    exact absurd hresumed (by simp [displayReady, displayLoaded, displayGreeted, opened])
  · obtain ⟨stateHash, rs, idle, rfl⟩ := h
    refine ⟨rs, idle, ?_, rfl⟩
    rw [steps_append, steps_roundEvents]
    rfl

/-- A trace that has received a finish at the display's own frame, and has neither stepped, nor
acknowledged, nor received anything since. -/
theorem DisplayIdle.finishing (snapshot : Data) (stateHash : UInt64) (success : Bool)
    (detail : String) (fs : List SessionEvent) (h : DisplayIdle S rs s)
    (hes : es = displayHandshake S snapshot stateHash ++ roundEvents S rs ++
      .operation (.received (.finish s.framesCompleted success detail)) :: fs)
    (hsteps : steps fs = []) (hacks : acknowledged fs = []) (hreceived : received fs = []) :
    (received es).getLast? = some (.finish s.framesCompleted success detail) ∧
      steps es = roundSteps S rs ∧ acknowledged es = rs.map DisplayRound.acknowledgement := by
  subst hes
  have haccount : DisplayAccount S (displayHandshake S snapshot stateHash ++ roundEvents S rs ++
      .operation (.received (.finish s.framesCompleted success detail)) :: fs) rs [] :=
    (DisplayAccount.rounds h.scheduled snapshot stateHash).append hsteps hacks
  refine ⟨?_, ?_, haccount.acknowledged⟩
  · have hlast : received (.operation (.received
      (.finish s.framesCompleted success detail)) :: fs) =
        [.finish s.framesCompleted success detail] := by
      rw [← hreceived]
      rfl
    rw [received_append, hlast, List.getLast?_append]
    rfl
  · rw [haccount.steps, List.append_nil]

/-- The finish acknowledgement is the answer to a finish at the display's own frame. -/
theorem finish_of_attempted {host : σ}
    (h : exec (DisplayThread.step S) { host := host } es = some s)
    (hfinish : .finishAcknowledgement ∈ attempted es) :
    ∃ frame success detail, (received es).getLast? = some (.finish frame success detail) ∧
      frame.toNat = (steps es).length ∧ (acknowledged es).length = (steps es).length := by
  obtain ⟨pre, e, post, rfl, he⟩ := mem_attempted hfinish
  obtain ⟨t, t', ht, hstep, hpost⟩ := Automaton.exec_split h
  have hpre : DisplayTrace S pre t := displayTrace_of_exec ht
  obtain ⟨success, detail, result, hp, rfl⟩ := DisplayThread.step_finishAcknowledgement he hstep
  obtain ⟨hsteps, hattempted, hreceived⟩ := (DisplayThread.leaving_of_exec rfl hpost).silent
  have hacks : acknowledged post = [] := by
    rw [acknowledged, hattempted]
    rfl
  unfold DisplayTrace at hpre
  rw [hp] at hpre
  obtain ⟨stateHash, rs, hidle, rfl⟩ := hpre
  rw [List.append_assoc, List.singleton_append]
  obtain ⟨hlast, hst, hac⟩ :=
    hidle.finishing t.snapshot stateHash success detail (e :: post) rfl
      (by rcases he with rfl | rfl <;> exact hsteps)
      (by rcases he with rfl | rfl <;> exact hacks)
      (by rcases he with rfl | rfl <;> exact hreceived)
  refine ⟨t.framesCompleted, success, detail, hlast, ?_, ?_⟩
  · rw [hst, roundSteps_length]
    exact hidle.framesCompleted
  · rw [hst, hac, roundSteps_length, List.length_map]

/-- An outcome is that of the finish that the display received last. -/
theorem DisplayTrace.outcome {o : TwoPhoneSessionOutcome} (h : DisplayTrace S es s)
    (ho : s.phase = .ended (.ok o)) :
    .finishAcknowledgement ∈ sent es ∧
      (received es).getLast? = some (.finish o.framesCompleted o.success o.detail) ∧
      o.framesCompleted.toNat = (steps es).length ∧
      o.checkpointsCompared = checkpointCount (steps es) ∧
      o.finalDigest = lastCheckpointDigest (steps es) ∧
      Scheduled S.configuration (steps es) := by
  unfold DisplayTrace at h
  rw [ho] at h
  rcases h with ⟨pre, hexit, rfl⟩ | ⟨hcancelled, -⟩ | ⟨hrefused, -⟩
  · cases hexit with
    | @finished stateHash rs success detail hidle =>
      rw [List.append_assoc, List.cons_append, List.cons_append, List.nil_append]
      obtain ⟨hlast, hst, -⟩ := hidle.finishing s.snapshot stateHash success detail
        [.operation (.sent .finishAcknowledgement), .deactivated, .operation .closed] rfl rfl
          rfl rfl
      rw [hlast, hst, roundSteps_length]
      refine ⟨?_, rfl, hidle.framesCompleted, hidle.checkpoints, hidle.lastDigest, hidle.scheduled⟩
      rw [sent_append]
      exact List.mem_append_right _ (List.mem_singleton.mpr rfl)
  · exact absurd hcancelled nofun
  · exact absurd hrefused nofun

/-- What the loop refuses: it throws, or it traps at an input once the counter is at its limit. -/
theorem DisplayIdle.refused {m : TwoPhoneMessage} {t : DisplayThread σ} {post : List SessionEvent}
    (h : DisplayIdle S rs s) (hm : ¬ ExpectedAfter rs.length m)
    (hpost : exec (DisplayThread.step S) (s.handle m) post = some t) :
    (∃ error, DisplayThread.Leaving (.error error) post t) ∨
      ((∃ input, m = .input input) ∧ rs.length + 1 = UInt64.size ∧ post = [] ∧
        t.phase = .trapped) := by
  have hframes := h.framesCompleted
  rcases s.handle_cases m with ⟨input, rfl, hacc, -⟩ | ⟨success, detail, rfl, -⟩ |
    ⟨error, -, hh⟩ | ⟨input, rfl, hmax, hh⟩
  · rw [← hframes] at hm
    exact absurd hacc hm
  · exact absurd hframes hm
  · left
    rw [hh] at hpost
    exact ⟨error, DisplayThread.leaving_of_exec rfl hpost⟩
  · right
    rw [hh] at hpost
    rw [hframes] at hmax
    cases post with
    | nil =>
      rw [Automaton.exec_nil, Option.some.injEq] at hpost
      subst hpost
      exact ⟨⟨input, rfl⟩, hmax, rfl, rfl⟩
    | cons e post =>
      rw [Automaton.exec_cons, Option.bind_eq_some_iff] at hpost
      obtain ⟨u, hu, -⟩ := hpost
      exact absurd (DisplayThread.call_of_step hu) (Option.some_ne_none u).symm

/-- The display processes each frame exactly once: in every run of it against an arbitrary peer. -/
theorem display_exactlyOnce {host : σ}
    (h : exec (DisplayThread.step S) { host := host } es = some s) :
    DisplayExactlyOnce S es s := by
  have htrace : DisplayTrace S es s := displayTrace_of_exec h
  obtain ⟨rs, current, haccount⟩ := htrace.account
  have hsteps := haccount.steps
  have hacks := haccount.acknowledged
  have htake : (roundSteps S (rs ++ current)).take (acknowledged es).length = roundSteps S rs := by
    rw [hacks, List.length_map, roundSteps, roundSteps, List.map_append]
    exact List.take_left' (List.length_map _)
  constructor
  case scheduled =>
    rw [hsteps]
    exact haccount.scheduled
  case inputs =>
    have hinputs := haccount.inputs
    rw [hsteps, roundSteps, List.map_map]
    exact hinputs
  case numbered =>
    intro st hst
    rw [hsteps, roundSteps, List.mem_map] at hst
    obtain ⟨r, -, rfl⟩ := hst
    rfl
  case acknowledgements =>
    rw [hsteps, htake, hacks]
    exact forall₂_reports rs
  case prompt =>
    have hone := haccount.atMostOne
    rw [hsteps, hacks, roundSteps_length, List.length_append, List.length_map]
    omega
  case finishes => exact finish_of_attempted h
  case outcome =>
    intro o ho
    obtain ⟨hsent, hlast, hframes, hcheckpoints, hdigest, hscheduled⟩ := htrace.outcome ho
    exact ⟨hsent, hlast, hframes, hcheckpoints.trans hscheduled.checkpointCount_eq, hdigest⟩
  case refuses =>
    -- a message that the display refuses, received where the steps are those of the rounds
    intro snapshot stateHash pre m post hgate hes hm
    subst hes
    obtain ⟨t, t', ht, hstep, hpost⟩ := Automaton.exec_split h
    have hpre : DisplayTrace S pre t := displayTrace_of_exec ht
    obtain ⟨rs', hidle, hst, rfl⟩ := hpre.at_receive hgate hstep
    rw [hst, roundSteps_length] at hm ⊢
    rcases hidle.refused hm hpost with ⟨error, hleaving⟩ | ⟨hinput, hmax, rfl, htrapped⟩
    · obtain ⟨hsilent, hquiet, -⟩ := hleaving.silent
      exact ⟨hsilent, hquiet, .inl ⟨error, hleaving⟩⟩
    · exact ⟨rfl, rfl, .inr ⟨hinput, hmax, htrapped⟩⟩

/-- A display that waits for a message can complete a round with the next input, as long as there
is room for another checkpoint. -/
theorem DisplayThread.exec_round {input : DSInputFrame} (hp : s.phase = .receiving)
    (hacc : s.Accepts (.input input)) (hroom : s.checkpoints + 1 < 2 ^ 63) :
    ∃ (r : DisplayRound) (t : DisplayThread σ),
      exec (DisplayThread.step S) s (r.events S) = some t ∧
      r.input = input ∧ t.phase = .receiving ∧ t.framesCompleted = input.frame ∧
      t.checkpoints = s.checkpoints + if S.shouldCreateDigest input.frame then 1 else 0 := by
  have hh : s.handle (.input input) = s.goto (.startingClock input) := by
    rcases s.handle_cases (.input input) with ⟨i, hi, -, hh⟩ | ⟨_, _, hm, -⟩ | ⟨_, hno, -⟩ |
      ⟨i, hi, hmax, -⟩
    · rw [hh, TwoPhoneMessage.input.inj hi]
    · exact absurd hm nofun
    · exact absurd hacc hno
    · have hframe : input.frame.toNat = s.framesCompleted.toNat + 1 := hacc
      have hlt : input.frame.toNat < UInt64.size := input.frame.toNat_lt
      omega
  obtain ⟨digest, host, hstep⟩ : ∃ digest host,
      S.stepFrame input (S.shouldCreateDigest input.frame) s.host = (digest, host) := ⟨_, _, rfl⟩
  have hrun : exec (step S) s (DisplayRound.events S ⟨input, digest, s.uptime, s.uptime⟩) =
      some (({ s with
        phase := .stoppingClock input digest s.uptime
        host := host }.counted S input digest).goto .receiving) := by
    have hcounted : s.checkpoints < 2 ^ 63 := Nat.lt_of_succ_lt hroom
    have hlast : s.checkpoints + (if S.shouldCreateDigest input.frame then 1 else 0) < 2 ^ 63 := by
      split <;> omega
    simp [-Nat.reducePow, DisplayRound.events, DisplayRound.work, DisplayRound.acknowledgement,
      step, call, hp, hh, hstep, hcounted, hlast, SessionEvent.onReceive, onClock, SessionEvent.on,
      SessionEvent.onSend, measured, checkedSub]
    rfl
  exact ⟨_, _, hrun, rfl, rfl, counted_framesCompleted .., counted_checkpoints ..⟩

end

/-- After its handshake the display can complete any number of frames that its counter holds. -/
theorem fixedDigestSession_frames (n : ℕ) (hn : n < UInt64.size) :
    ∃ rs s, exec (DisplayThread.step fixedDigestSession) { host := () }
        (displayHandshake fixedDigestSession [] 0 ++ roundEvents fixedDigestSession rs) = some s ∧
      rs.length = n ∧ s.phase = .receiving ∧ s.framesCompleted.toNat = n ∧
        s.checkpoints = n / 60 := by
  induction n with
  | zero => exact ⟨[], _, rfl, rfl, rfl, rfl, rfl⟩
  | succ n ih =>
    obtain ⟨rs, s, hs, hlen, hp, hframes, hcheckpoints⟩ := ih (Nat.lt_of_succ_lt hn)
    have hsize : UInt64.size = 2 ^ 64 := rfl
    have hframe : (UInt64.ofNat (n + 1)).toNat = n + 1 := UInt64.toNat_ofNat_of_lt' hn
    have hacc : s.Accepts (.input ⟨UInt64.ofNat (n + 1), 0, 0, 0, false⟩) := by
      change (UInt64.ofNat (n + 1)).toNat = s.framesCompleted.toNat + 1
      rw [hframe, hframes]
    -- One frame in 60 is a checkpoint, so that the counter has room for all of them.
    obtain ⟨r, t, ht, -, htp, htframes, htcheckpoints⟩ :=
      DisplayThread.exec_round (S := fixedDigestSession) hp hacc (by omega)
    refine ⟨rs ++ [r], t, ?_, ?_, htp, ?_, ?_⟩
    · rw [roundEvents_concat, ← List.append_assoc, Automaton.exec_append_eq_some]
      exact ⟨s, hs, ht⟩
    · rw [List.length_append, hlen, List.length_singleton]
    · rw [htframes]
      exact hframe
    · have hdigest : fixedDigestSession.shouldCreateDigest (UInt64.ofNat (n + 1)) = true ↔
          (n + 1) % 60 = 0 := by
        have hiff := fixedDigestSession.configuration.shouldCreateDigest_iff (UInt64.ofNat (n + 1))
        rw [hframe] at hiff
        exact hiff.trans (or_iff_left nofun)
      rw [htcheckpoints, hcheckpoints]
      by_cases hmod : (n + 1) % 60 = 0
      · rw [if_pos (hdigest.mpr hmod)]
        omega
      · rw [if_neg (hdigest.not.mpr hmod)]
        omega

/-- `display_exactlyOnce` on a run that completes two frames. -/
theorem display_exactlyOnce_two_frames :
    ∃ es s, (steps es).length = 2 ∧ DisplayExactlyOnce fixedDigestSession es s := by
  obtain ⟨rs, s, hs, hlen, -⟩ := fixedDigestSession_frames 2 (by decide)
  refine ⟨_, s, ?_, display_exactlyOnce hs⟩
  rw [steps_append, List.length_append, steps_roundEvents, roundSteps_length, hlen]
  rfl

/-- It is not the schedule that decides whether an acknowledgement carries a digest: a display can
acknowledge frame 1 of a schedule with an interval of 60 with the digest that `stepFrame` returned.
And not every message is stepped, answered, or thrown at: after 2^64 - 1 frames an input traps. -/
theorem display_sends_unasked_digest :
    (∃ es s, exec (DisplayThread.step fixedDigestSession) { host := () } es = some s ∧
      ∃ a ∈ acknowledged es, a.digest.isSome = true ∧
        fixedDigestSession.shouldCreateDigest a.frame = false) ∧
    (∃ pre input s, exec (DisplayThread.step fixedDigestSession) { host := () }
        (pre ++ [.operation (.received (.input input))]) = some s ∧
      displayHandshake fixedDigestSession [] 0 <+: pre ∧
      ¬ ExpectedAfter (steps pre).length (.input input) ∧ s.phase = .trapped) := by
  constructor
  · let r : DisplayRound := ⟨⟨1, 0, 0, 0, false⟩, some ⟨0, 0, 0, 0⟩, 0, 0⟩
    have hrun : (exec (DisplayThread.step fixedDigestSession) { host := () }
        (displayHandshake fixedDigestSession [] 0 ++
          roundEvents fixedDigestSession [r])).isSome = true := by
      decide +kernel
    obtain ⟨s, hs⟩ := Option.isSome_iff_exists.mp hrun
    exact ⟨_, s, hs, r.acknowledgement, List.mem_singleton.mpr rfl, rfl, by decide⟩
  · obtain ⟨rs, s, hs, hlen, hp, hframes, hcheckpoints⟩ :=
      fixedDigestSession_frames (UInt64.size - 1) (by decide)
    have hcounted : s.checkpoints < 2 ^ 63 := by
      rw [hcheckpoints]
      decide
    have hsteps : (steps (displayHandshake fixedDigestSession [] 0 ++
        roundEvents fixedDigestSession rs)).length = UInt64.size - 1 := by
      rw [steps_append, List.length_append, steps_roundEvents, roundSteps_length, hlen]
      rfl
    have hnext : checkedAdd s.framesCompleted 1 = none := by
      rw [checkedAdd_eq_none, hframes]
      decide
    have hstep : s.step fixedDigestSession (.operation (.received (.input ⟨0, 0, 0, 0, false⟩))) =
        some (s.goto .trapped) := by
      rw [DisplayThread.step_eq_call _ hcounted]
      simp [DisplayThread.call, hp, SessionEvent.onReceive, DisplayThread.handle, hnext]
    refine ⟨_, ⟨0, 0, 0, 0, false⟩, s.goto .trapped,
      Automaton.exec_concat_eq_some.mpr ⟨s, hs, hstep⟩, List.prefix_append _ _, ?_, rfl⟩
    rw [hsteps]
    exact Nat.zero_ne_add_one _

end DSEmu

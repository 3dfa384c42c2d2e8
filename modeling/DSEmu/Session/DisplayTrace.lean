import DSEmu.Session.Display
import DSEmu.Session.Trace

/-!
# The traces of the display's thread

`DisplayTrace` says, phase by phase, what the trace of the display's thread looks like: a part of
the handshake (`displayHandshake`), or the handshake followed by complete rounds of the loop
(`DisplayRound`) and a part of one more. `DisplayExit` says the same of a trace at which `run()`
starts on its way out. The environment is arbitrary: any message may be received at any time, and
any transport operation may fail.

One step preserves `DisplayTrace` (`DisplayTrace.step`), so it holds after every run
(`displayTrace_of_exec`); the statements about the display read off it what they need.
-/

namespace DSEmu

open Automaton (exec exec_invariant)

section

variable {σ : Type} (S : TwoPhoneSession σ)

/-- The display's handshake up to the peer's hello. -/
def displayGreeted : List SessionEvent :=
  opened ++ [.operation (.sent S.hello), .operation (.received S.hello)]

/-- The display's handshake up to the loaded snapshot. -/
def displayLoaded (snapshot : Data) (stateHash : UInt64) : List SessionEvent :=
  displayGreeted S ++ [.operation (.received (.snapshot snapshot stateHash)),
    .loadedSnapshot snapshot (.ok ())]

/-- The display's handshake up to its ready. -/
def displayReady (snapshot : Data) (stateHash : UInt64) : List SessionEvent :=
  displayLoaded S snapshot stateHash ++ [.hashed stateHash, .operation (.sent .ready)]

/-- The display's whole handshake. -/
def displayHandshake (snapshot : Data) (stateHash : UInt64) : List SessionEvent :=
  displayReady S snapshot stateHash ++ [.operation (.received .start), .resumed]

/-- A complete round of the display's loop: an input received, stepped between two readings of the
clock, and acknowledged. -/
structure DisplayRound where
  input : DSInputFrame
  digest : Option EmulatorDigest
  processingStarted : UInt64
  processingFinished : UInt64

namespace DisplayRound

/-- The frame that a round steps. -/
def step (r : DisplayRound) : SteppedFrame :=
  ⟨r.input.frame, r.input, S.shouldCreateDigest r.input.frame, r.digest⟩

/-- The acknowledgement that a round sends. -/
def acknowledgement (r : DisplayRound) : FrameAcknowledgement :=
  ⟨r.input.frame, r.digest, r.processingFinished - r.processingStarted⟩

/-- The events of a round before the acknowledgement is sent. -/
def work (r : DisplayRound) : List SessionEvent :=
  [.operation (.received (.input r.input)), .clockRead r.processingStarted,
    .stepped r.input.frame r.input (S.shouldCreateDigest r.input.frame) r.digest,
    .clockRead r.processingFinished]

/-- The events of a round. -/
def events (r : DisplayRound) : List SessionEvent :=
  r.work S ++ [.operation (.sent (.acknowledgement r.acknowledgement))]

end DisplayRound

/-- The events of a list of rounds. -/
def roundEvents (rs : List DisplayRound) : List SessionEvent := rs.flatMap (DisplayRound.events S)

/-- One more round. -/
theorem roundEvents_concat (rs : List DisplayRound) (r : DisplayRound) :
    roundEvents S (rs ++ [r]) = roundEvents S rs ++ r.events S := by
  simp [roundEvents]

/-- The steps of a list of rounds. -/
def roundSteps (rs : List DisplayRound) : List SteppedFrame := rs.map (DisplayRound.step S)

/-- A round steps one frame. -/
@[simp] theorem roundSteps_length (rs : List DisplayRound) :
    (roundSteps S rs).length = rs.length := List.length_map _

/-- One more round. -/
theorem roundSteps_concat (rs : List DisplayRound) (r : DisplayRound) :
    roundSteps S (rs ++ [r]) = roundSteps S rs ++ [r.step S] := by
  simp [roundSteps]

/-- The frames stepped in the rounds. -/
@[simp] theorem steps_roundEvents (rs : List DisplayRound) :
    steps (roundEvents S rs) = roundSteps S rs := by
  induction rs with
  | nil => rfl
  | cons r rs ih =>
    rw [roundEvents, List.flatMap_cons, steps_append]
    exact congrArg (_ :: ·) ih

/-- The inputs received in the rounds. -/
@[simp] theorem received_roundEvents (rs : List DisplayRound) :
    received (roundEvents S rs) = rs.map fun r => .input r.input := by
  induction rs with
  | nil => rfl
  | cons r rs ih =>
    rw [roundEvents, List.flatMap_cons, received_append]
    exact congrArg (_ :: ·) ih

/-- The acknowledgements attempted in the rounds. -/
@[simp] theorem attempted_roundEvents (rs : List DisplayRound) :
    attempted (roundEvents S rs) = rs.map fun r => .acknowledgement r.acknowledgement := by
  induction rs with
  | nil => rfl
  | cons r rs ih =>
    rw [roundEvents, List.flatMap_cons, attempted_append]
    exact congrArg (_ :: ·) ih

/-- The acknowledgements sent in the rounds. -/
@[simp] theorem sent_roundEvents (rs : List DisplayRound) :
    sent (roundEvents S rs) = rs.map fun r => .acknowledgement r.acknowledgement := by
  induction rs with
  | nil => rfl
  | cons r rs ih =>
    rw [roundEvents, List.flatMap_cons, sent_append]
    exact congrArg (_ :: ·) ih

/-- What the display's variables say after the rounds `rs`. -/
structure DisplayIdle (rs : List DisplayRound) (s : DisplayThread σ) : Prop where
  scheduled : Scheduled S.configuration (roundSteps S rs)
  framesCompleted : s.framesCompleted.toNat = rs.length
  checkpoints : s.checkpoints = checkpointCount (roundSteps S rs)
  lastDigest : s.lastDigest = lastCheckpointDigest (roundSteps S rs)
  uptime : (rs.map fun r => r.acknowledgement.processingNanoseconds.toNat).sum ≤ s.uptime.toNat

/-- The trace of a display at which `run()` starts on its way out. -/
inductive DisplayExit (s : DisplayThread σ) : List SessionEvent → SessionResult → Prop
  /-- the handshake ended early -/
  | interrupted (snapshot : Data) (stateHash : UInt64) {es : List SessionEvent}
      {error : SessionError}
      (breaks : Interrupted (displayReady S snapshot stateHash) [S.hello, .ready] es) :
      DisplayExit s es (.error error)
  /-- the loaded state was not the controller's -/
  | mismatched {snapshot : Data} {expected stateHash : UInt64} {e : SessionEvent}
      {error : SessionError} (differs : stateHash ≠ expected)
      (fails : e = .operation (.sent (.failure DisplayThread.hashMismatchDetail)) ∨
        e = .operation (.sendFailed (.failure DisplayThread.hashMismatchDetail))) :
      DisplayExit s (displayLoaded S snapshot expected ++ [.hashed stateHash, e]) (.error error)
  /-- the loop received something else than the next input or a finish at the current frame, or its
  receive failed -/
  | refused {stateHash : UInt64} {rs : List DisplayRound} {e : SessionEvent}
      {error : SessionError} (idle : DisplayIdle S rs s)
      (refuses : e = .operation .receiveFailed ∨
        ∃ m, e = .operation (.received m) ∧ ¬ s.Accepts m) :
      DisplayExit s (displayHandshake S s.snapshot stateHash ++ roundEvents S rs ++ [e])
        (.error error)
  /-- the send of an acknowledgement failed -/
  | unacknowledged {stateHash : UInt64} {rs : List DisplayRound} {r : DisplayRound}
      {error : SessionError} (idle : DisplayIdle S (rs ++ [r]) s) :
      DisplayExit s (displayHandshake S s.snapshot stateHash ++ roundEvents S rs ++ r.work S ++
        [.operation (.sendFailed (.acknowledgement r.acknowledgement))]) (.error error)
  /-- the send of the finish acknowledgement failed -/
  | unfinished {stateHash : UInt64} {rs : List DisplayRound} {success : Bool} {detail : String}
      {error : SessionError} (idle : DisplayIdle S rs s) :
      DisplayExit s (displayHandshake S s.snapshot stateHash ++ roundEvents S rs ++
        [.operation (.received (.finish s.framesCompleted success detail)),
          .operation (.sendFailed .finishAcknowledgement)]) (.error error)
  /-- the session finished -/
  | finished {stateHash : UInt64} {rs : List DisplayRound} {success : Bool} {detail : String}
      (idle : DisplayIdle S rs s) :
      DisplayExit s (displayHandshake S s.snapshot stateHash ++ roundEvents S rs ++
        [.operation (.received (.finish s.framesCompleted success detail)),
          .operation (.sent .finishAcknowledgement)]) (.ok (s.outcome success detail))

/-- The variables of the loop before its first round. -/
def DisplayThread.Fresh (s : DisplayThread σ) : Prop :=
  s.framesCompleted = 0 ∧ s.checkpoints = 0 ∧ s.lastDigest = none

/-- The trace of the display's thread, by the call that the thread is in. -/
def DisplayTrace (es : List SessionEvent) (s : DisplayThread σ) : Prop :=
  match s.phase with
  | .preparing => s.Fresh ∧ es = []
  | .connecting => s.Fresh ∧ es = [.prepared]
  | .activating => s.Fresh ∧ es = [.prepared, .connected]
  | .sendingHello => s.Fresh ∧ es = opened
  | .receivingHello => s.Fresh ∧ es = opened ++ [.operation (.sent S.hello)]
  | .receivingSnapshot => s.Fresh ∧ es = displayGreeted S
  | .loadingSnapshot stateHash =>
    s.Fresh ∧ es = displayGreeted S ++ [.operation (.received (.snapshot s.snapshot stateHash))]
  | .hashingState stateHash => s.Fresh ∧ es = displayLoaded S s.snapshot stateHash
  | .sendingFailure detail =>
    detail = DisplayThread.hashMismatchDetail ∧ ∃ expected stateHash, stateHash ≠ expected ∧
      es = displayLoaded S s.snapshot expected ++ [.hashed stateHash]
  | .sendingReady =>
    s.Fresh ∧ ∃ stateHash, es = displayLoaded S s.snapshot stateHash ++ [.hashed stateHash]
  | .receivingStart =>
    s.Fresh ∧ ∃ stateHash, es = displayReady S s.snapshot stateHash
  | .resuming =>
    s.Fresh ∧ ∃ stateHash, es = displayReady S s.snapshot stateHash ++
      [.operation (.received .start)]
  | .receiving =>
    ∃ stateHash rs, DisplayIdle S rs s ∧
      es = displayHandshake S s.snapshot stateHash ++ roundEvents S rs
  | .startingClock input =>
    ∃ stateHash rs, DisplayIdle S rs s ∧ input.frame.toNat = rs.length + 1 ∧
      es = displayHandshake S s.snapshot stateHash ++ roundEvents S rs ++
        [.operation (.received (.input input))]
  | .steppingFrame input processingStarted =>
    ∃ stateHash rs, DisplayIdle S rs s ∧ input.frame.toNat = rs.length + 1 ∧
      processingStarted = s.uptime ∧
      es = displayHandshake S s.snapshot stateHash ++ roundEvents S rs ++
        [.operation (.received (.input input)), .clockRead processingStarted]
  | .stoppingClock input digest processingStarted =>
    ∃ stateHash rs, DisplayIdle S rs s ∧ input.frame.toNat = rs.length + 1 ∧
      processingStarted = s.uptime ∧
      es = displayHandshake S s.snapshot stateHash ++ roundEvents S rs ++
        [.operation (.received (.input input)), .clockRead processingStarted,
          .stepped input.frame input (S.shouldCreateDigest input.frame) digest]
  | .acknowledging acknowledgement =>
    ∃ stateHash rs r, DisplayIdle S (rs ++ [r]) s ∧ acknowledgement = r.acknowledgement ∧
      es = displayHandshake S s.snapshot stateHash ++ roundEvents S rs ++ r.work S
  | .sendingFinishAcknowledgement success detail =>
    ∃ stateHash rs, DisplayIdle S rs s ∧
      es = displayHandshake S s.snapshot stateHash ++ roundEvents S rs ++
        [.operation (.received (.finish s.framesCompleted success detail))]
  | .deactivating result => DisplayExit S s es result
  | .closing result =>
    (∃ pre, DisplayExit S s pre result ∧ es = pre ++ [.deactivated]) ∨
      (result = .error .cancelled ∧ es = [.prepared, .connected, .activationRefused])
  | .ended result =>
    (∃ pre, DisplayExit S s pre result ∧ es = pre ++ [.deactivated, .operation .closed]) ∨
      (result = .error .cancelled ∧
        es = [.prepared, .connected, .activationRefused, .operation .closed]) ∨
      (result = .error .transport ∧ es = [.prepared, .connectFailed])
  | .trapped =>
    ∃ stateHash rs input, DisplayIdle S rs s ∧ rs.length + 1 = UInt64.size ∧
      es = displayHandshake S s.snapshot stateHash ++ roundEvents S rs ++
        [.operation (.received (.input input))]

variable {S} {s s' : DisplayThread σ} {es : List SessionEvent} {e : SessionEvent}

/-- A thread on its way out steps, sends, and receives nothing. -/
theorem DisplayThread.Leaving.silent {result : SessionResult} {post : List SessionEvent}
    (h : DisplayThread.Leaving result post s) :
    steps post = [] ∧ attempted post = [] ∧ received post = [] := by
  rcases h with ⟨rfl, -⟩ | ⟨rfl, -⟩ | ⟨rfl, -⟩ <;> exact ⟨rfl, rfl, rfl⟩

namespace DisplayIdle

variable {rs : List DisplayRound}

/-- The phase is not among the variables of the loop. -/
theorem goto {p : DisplayPhase} (h : DisplayIdle S rs s) : DisplayIdle S rs (s.goto p) :=
  ⟨h.scheduled, h.framesCompleted, h.checkpoints, h.lastDigest, h.uptime⟩

/-- The state of the phone is not among the variables of the loop. -/
theorem host {p : DisplayPhase} {host : σ} (h : DisplayIdle S rs s) :
    DisplayIdle S rs { s with phase := p, host := host } :=
  ⟨h.scheduled, h.framesCompleted, h.checkpoints, h.lastDigest, h.uptime⟩

/-- A later reading of the clock. -/
theorem clock {p : DisplayPhase} {t : UInt64} (h : DisplayIdle S rs s) (ht : s.uptime ≤ t) :
    DisplayIdle S rs { s with phase := p, uptime := t } :=
  ⟨h.scheduled, h.framesCompleted, h.checkpoints, h.lastDigest,
    Nat.le_trans h.uptime (UInt64.le_iff_toNat_le.mp ht)⟩

/-- A frame stepped and counted is a round more. -/
theorem round {p q : DisplayPhase} {input : DSInputFrame} {digest : Option EmulatorDigest}
    {t : UInt64} (h : DisplayIdle S rs s) (hf : input.frame.toNat = rs.length + 1)
    (ht : s.uptime ≤ t) :
    DisplayIdle S (rs ++ [⟨input, digest, s.uptime, t⟩])
      (({ s with phase := q, uptime := t }.counted S input digest).goto p) := by
  have hle : s.uptime.toNat ≤ t.toNat := UInt64.le_iff_toNat_le.mp ht
  constructor
  case scheduled =>
    rw [roundSteps_concat]
    refine h.scheduled.concat ?_ rfl
    rw [roundSteps_length]
    exact hf
  case framesCompleted =>
    rw [DisplayThread.goto_framesCompleted, DisplayThread.counted_framesCompleted, hf,
      List.length_append, List.length_singleton]
  case checkpoints =>
    rw [DisplayThread.goto_checkpoints, DisplayThread.counted_checkpoints, roundSteps_concat,
      checkpointCount_concat, ← h.checkpoints]
    rfl
  case lastDigest =>
    rw [DisplayThread.goto_lastDigest, DisplayThread.counted_lastDigest, roundSteps_concat,
      lastCheckpointDigest_concat, ← h.lastDigest]
    rfl
  case uptime =>
    have hsum := h.uptime
    have hspan : (t - s.uptime).toNat = t.toNat - s.uptime.toNat := UInt64.toNat_sub_of_le _ _ ht
    rw [DisplayThread.goto_uptime, DisplayThread.counted_uptime, List.map_append, List.sum_append,
      List.map_singleton, List.sum_singleton]
    change _ + (t - s.uptime).toNat ≤ t.toNat
    omega

end DisplayIdle

/-- The phase is not among the variables that an exit speaks of. -/
theorem DisplayExit.goto {p : DisplayPhase} {result : SessionResult}
    (h : DisplayExit S s es result) : DisplayExit S (s.goto p) es result := by
  cases h with
  | interrupted snapshot stateHash breaks => exact .interrupted snapshot stateHash breaks
  | mismatched differs fails => exact .mismatched differs fails
  | refused idle refuses => exact .refused idle.goto refuses
  | unacknowledged idle => exact .unacknowledged idle.goto
  | unfinished idle => exact .unfinished idle.goto
  | finished idle => exact .finished idle.goto

open DisplayThread in
/-- One step keeps the shape of the trace. -/
theorem DisplayTrace.step (h : DisplayTrace S es s) (hs : s.step S e = some s') :
    DisplayTrace S (es ++ [e]) s' := by
  unfold DisplayTrace at h
  replace hs := DisplayThread.call_of_step hs
  unfold DisplayThread.call at hs
  cases hp : s.phase <;> rw [hp] at h hs <;> dsimp only at h hs
  case preparing =>
    obtain ⟨rfl, rfl⟩ := SessionEvent.on_eq_some.mp hs
    obtain ⟨hf, rfl⟩ := h
    exact ⟨hf, rfl⟩
  case connecting =>
    obtain ⟨hf, rfl⟩ := h
    rcases SessionEvent.on_or_on_eq_some hs with ⟨rfl, rfl⟩ | ⟨rfl, rfl⟩
    · exact ⟨hf, rfl⟩
    · exact .inr (.inr ⟨rfl, rfl⟩)
  case activating =>
    obtain ⟨hf, rfl⟩ := h
    rcases SessionEvent.on_or_on_eq_some hs with ⟨rfl, rfl⟩ | ⟨rfl, rfl⟩
    · exact ⟨hf, rfl⟩
    · exact .inr ⟨rfl, rfl⟩
  -- The handshake: a call that fails, and a message that is refused, interrupt it where it stands.
  case sendingHello =>
    obtain ⟨hf, rfl⟩ := h
    rcases SessionEvent.onSend_eq_some.mp hs with ⟨rfl, rfl⟩ | ⟨rfl, rfl⟩
    · exact ⟨hf, rfl⟩
    · exact .interrupted s.snapshot 0 ⟨_, _, rfl, ⟨_, rfl⟩, trivial, ⟨_, rfl⟩⟩
  case receivingHello =>
    obtain ⟨hf, rfl⟩ := h
    rcases SessionEvent.onReceive_eq_some.mp hs with ⟨m, rfl, rfl⟩ | ⟨rfl, rfl⟩
    · cases hv : S.validateHello m with
      | ok u =>
        rw [(S.validateHello_eq_ok m).mp hv]
        exact ⟨hf, rfl⟩
      | error error => exact .interrupted s.snapshot 0 ⟨_, _, rfl, ⟨_, rfl⟩, trivial, ⟨_, rfl⟩⟩
    · exact .interrupted s.snapshot 0 ⟨_, _, rfl, ⟨_, rfl⟩, trivial, ⟨_, rfl⟩⟩
  case receivingSnapshot =>
    obtain ⟨hf, rfl⟩ := h
    rcases SessionEvent.onReceive_eq_some.mp hs with ⟨m, rfl, rfl⟩ | ⟨rfl, rfl⟩
    · split
      · exact ⟨hf, rfl⟩
      · exact .interrupted s.snapshot 0 ⟨_, _, rfl, ⟨_, rfl⟩, trivial, ⟨_, rfl⟩⟩
    · exact .interrupted s.snapshot 0 ⟨_, _, rfl, ⟨_, rfl⟩, trivial, ⟨_, rfl⟩⟩
  case loadingSnapshot stateHash =>
    obtain ⟨hf, rfl⟩ := h
    obtain ⟨rfl, rfl⟩ := SessionEvent.on_eq_some.mp hs
    cases hl : (S.loadSnapshot s.snapshot s.host).1 with
    | ok u => exact ⟨hf, rfl⟩
    | error error =>
      exact .interrupted s.snapshot stateHash ⟨_, _, rfl, ⟨_, rfl⟩, trivial, ⟨_, rfl⟩⟩
  -- A state hash that differs is not thrown but sent as a failure, and then thrown.
  case hashingState expected =>
    obtain ⟨hf, rfl⟩ := h
    obtain ⟨rfl, rfl⟩ := SessionEvent.on_eq_some.mp hs
    split
    · rename_i hne
      exact ⟨rfl, _, _, hne, rfl⟩
    · rename_i heq
      rw [not_not.mp heq]
      exact ⟨hf, _, rfl⟩
  case sendingFailure detail =>
    obtain ⟨rfl, expected, stateHash, hne, rfl⟩ := h
    rw [List.append_assoc]
    rcases SessionEvent.onSend_eq_some.mp hs with ⟨rfl, rfl⟩ | ⟨rfl, rfl⟩
    · exact .mismatched hne (.inl rfl)
    · exact .mismatched hne (.inr rfl)
  case sendingReady =>
    obtain ⟨hf, stateHash, rfl⟩ := h
    rcases SessionEvent.onSend_eq_some.mp hs with ⟨rfl, rfl⟩ | ⟨rfl, rfl⟩
    · exact ⟨hf, stateHash, rfl⟩
    · exact .interrupted s.snapshot stateHash ⟨_, _, rfl, ⟨_, rfl⟩, trivial, ⟨_, rfl⟩⟩
  case receivingStart =>
    obtain ⟨hf, stateHash, rfl⟩ := h
    rcases SessionEvent.onReceive_eq_some.mp hs with ⟨m, rfl, rfl⟩ | ⟨rfl, rfl⟩
    · split
      · rename_i hm
        subst hm
        exact ⟨hf, stateHash, rfl⟩
      · exact .interrupted s.snapshot stateHash ⟨_, _, rfl, ⟨_, rfl⟩, trivial, ⟨_, rfl⟩⟩
    · exact .interrupted s.snapshot stateHash ⟨_, _, rfl, ⟨_, rfl⟩, trivial, ⟨_, rfl⟩⟩
  case resuming =>
    obtain ⟨⟨hframes, hcheckpoints, hdigest⟩, stateHash, rfl⟩ := h
    obtain ⟨rfl, rfl⟩ := SessionEvent.on_eq_some.mp hs
    refine ⟨stateHash, [], ⟨.nil, ?_, hcheckpoints, hdigest, Nat.zero_le _⟩, rfl⟩
    change s.framesCompleted.toNat = 0
    rw [hframes]
    rfl
  -- The loop: a round is opened by its input, and closed by the acknowledgement of it.
  case receiving =>
    obtain ⟨stateHash, rs, hidle, rfl⟩ := h
    rcases SessionEvent.onReceive_eq_some.mp hs with ⟨m, rfl, rfl⟩ | ⟨rfl, rfl⟩
    · rcases s.handle_cases m with ⟨input, rfl, hacc, hh⟩ | ⟨success, detail, rfl, hh⟩ |
        ⟨error, hacc, hh⟩ | ⟨input, rfl, hmax, hh⟩ <;> rw [hh]
      · refine ⟨stateHash, rs, hidle.goto, ?_, rfl⟩
        rw [← hidle.framesCompleted]
        exact hacc
      · exact ⟨stateHash, rs, hidle.goto, rfl⟩
      · exact .refused hidle.goto (.inr ⟨m, rfl, hacc⟩)
      · refine ⟨stateHash, rs, input, hidle.goto, ?_, rfl⟩
        rw [← hidle.framesCompleted]
        exact hmax
    · exact .refused hidle.goto (.inl rfl)
  case startingClock input =>
    obtain ⟨stateHash, rs, hidle, hf, rfl⟩ := h
    obtain ⟨t, rfl, hle, rfl⟩ := onClock_eq_some.mp hs
    refine ⟨stateHash, rs, hidle.clock hle, hf, rfl, ?_⟩
    rw [List.append_assoc]
    rfl
  case steppingFrame input processingStarted =>
    obtain ⟨stateHash, rs, hidle, hf, ht, rfl⟩ := h
    obtain ⟨rfl, rfl⟩ := SessionEvent.on_eq_some.mp hs
    refine ⟨stateHash, rs, hidle.host, hf, ht, ?_⟩
    rw [List.append_assoc]
    rfl
  case stoppingClock input digest processingStarted =>
    obtain ⟨stateHash, rs, hidle, hf, rfl, rfl⟩ := h
    obtain ⟨t, rfl, hle, rfl⟩ := onClock_eq_some.mp hs
    rw [measured_eq hle]
    refine ⟨stateHash, rs, ⟨input, digest, s.uptime, t⟩, hidle.round hf hle, rfl, ?_⟩
    rw [List.append_assoc, goto_snapshot, counted_snapshot]
    rfl
  case acknowledging acknowledgement =>
    obtain ⟨stateHash, rs, r, hidle, rfl, rfl⟩ := h
    rcases SessionEvent.onSend_eq_some.mp hs with ⟨rfl, rfl⟩ | ⟨rfl, rfl⟩
    · refine ⟨stateHash, rs ++ [r], hidle.goto, ?_⟩
      rw [roundEvents_concat, DisplayRound.events, ← List.append_assoc, ← List.append_assoc]
      rfl
    · exact .unacknowledged hidle.goto
  case sendingFinishAcknowledgement success detail =>
    obtain ⟨stateHash, rs, hidle, rfl⟩ := h
    rw [List.append_assoc]
    rcases SessionEvent.onSend_eq_some.mp hs with ⟨rfl, rfl⟩ | ⟨rfl, rfl⟩
    · exact .finished hidle.goto
    · exact .unfinished hidle.goto
  -- The way out.
  case deactivating result =>
    obtain ⟨rfl, rfl⟩ := SessionEvent.on_eq_some.mp hs
    exact .inl ⟨es, h.goto, rfl⟩
  case closing result =>
    obtain ⟨rfl, rfl⟩ := SessionEvent.on_eq_some.mp hs
    rcases h with ⟨pre, hexit, rfl⟩ | ⟨rfl, rfl⟩
    · exact .inl ⟨pre, hexit.goto, List.append_assoc _ _ _⟩
    · exact .inr (.inl ⟨rfl, rfl⟩)
  case ended result =>
    exact absurd hs (Option.some_ne_none _).symm
  case trapped =>
    exact absurd hs (Option.some_ne_none _).symm

/-- Every run of the display's thread has the trace that its phase says. -/
theorem displayTrace_of_exec {host : σ}
    (h : exec (DisplayThread.step S) { host := host } es = some s) :
    DisplayTrace S es s := by
  refine exec_invariant (I := DisplayTrace S) ?_ ?_ h
  · exact ⟨⟨rfl, rfl, rfl⟩, rfl⟩
  · intro es t e u ht hstep
    exact ht.step hstep

end

end DSEmu

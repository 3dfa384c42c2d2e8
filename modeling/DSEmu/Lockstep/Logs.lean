import DSEmu.Session.ControllerTrace
import DSEmu.Session.DisplayTrace

/-!
# What either party has sent and received

The messages of a display that has announced its ready, and those of a controller that has sent its
start, read off the shapes of their traces. `DisplayLog` and `ControllerLog` hold for arbitrary
peers; the two are put together in the modules on the whole system.
-/

namespace DSEmu

/-- Messages of other kinds do not begin with one of this kind. -/
theorem ne_cons_of_others {α β : Type*} {f : α → β} {others rest : List β}
    (hothers : ∀ x ∈ others, ∀ a, x ≠ f a) (a : α) : f a :: rest ≠ others := by
  rintro rfl
  exact hothers (f a) List.mem_cons_self a rfl

/-- Two lists of messages, each of one kind followed by others: where the first goes on with a
message `m`, the second has one of the kind there, or it ends there and `m` is the first of its
others. -/
theorem map_append_cons_eq {α β : Type*} {f : α → β} (hf : f.Injective) {others : List β}
    (hothers : ∀ x ∈ others, ∀ a, x ≠ f a) {l₁ l₂ : List α} {m : β} {rest : List β}
    (h : l₁.map f ++ m :: rest = l₂.map f ++ others) :
    (∃ a l₃, l₂ = l₁ ++ a :: l₃ ∧ m = f a) ∨ (l₂ = l₁ ∧ others = m :: rest) := by
  induction l₁ generalizing l₂ with
  | nil =>
    cases l₂ with
    | nil => exact .inr ⟨rfl, h.symm⟩
    | cons b l₂ => exact .inl ⟨b, l₂, rfl, (List.cons.inj h).1⟩
  | cons a l₁ ih =>
    cases l₂ with
    | nil => exact absurd h (ne_cons_of_others hothers a)
    | cons b l₂ =>
      obtain ⟨hab, htail⟩ := List.cons.inj h
      obtain rfl := hf hab
      rcases ih htail with ⟨c, l₃, rfl, hm⟩ | ⟨rfl, ho⟩
      · exact .inl ⟨c, l₃, rfl, hm⟩
      · exact .inr ⟨rfl, ho⟩

/-- Of two such lists the first has no more messages of that kind than the second. -/
theorem map_append_le {α β : Type*} {f : α → β} {others : List β}
    (hothers : ∀ x ∈ others, ∀ a, x ≠ f a) {l₁ l₂ : List α} {rest : List β}
    (h : l₁.map f ++ rest = l₂.map f ++ others) : l₁.length ≤ l₂.length := by
  induction l₁ generalizing l₂ with
  | nil => exact Nat.zero_le _
  | cons a l₁ ih =>
    cases l₂ with
    | nil => exact absurd h (ne_cons_of_others hothers a)
    | cons b l₂ => exact Nat.succ_le_succ (ih (List.cons.inj h).2)

/-- The number at a position of a list that is numbered from 1. -/
theorem number_eq {α : Type*} {f : α → ℕ} {l₁ l₂ : List α} {a : α} {n : ℕ}
    (h : (l₁ ++ a :: l₂).map f = List.range' 1 n) : f a = l₁.length + 1 := by
  have hlen := congrArg List.length h
  have hget := congrArg (fun l => l[l₁.length]?) h
  rw [List.length_map, List.length_append, List.length_cons, List.length_range'] at hlen
  have hlt : l₁.length < n := by omega
  simpa [List.getElem?_range', hlt, Nat.add_comm] using hget

section Display

variable {τ : Type} {D : TwoPhoneSession τ} {es : List SessionEvent} {s : DisplayThread τ}

/-- A display that has thrown, that is about to, or that has trapped. -/
def DisplayThread.Failed (s : DisplayThread τ) : Prop :=
  match s.phase with
  | .sendingFailure _ => True
  | .deactivating (.error _) => True
  | .closing (.error _) => True
  | .ended (.error _) => True
  | .trapped => True
  | _ => False

/-- A display on its way out with the outcome `o`. -/
def DisplayThread.Returns (s : DisplayThread τ) (o : TwoPhoneSessionOutcome) : Prop :=
  s.phase = .deactivating (.ok o) ∨ s.phase = .closing (.ok o) ∨ s.phase = .ended (.ok o)

/-- A display that leaves with a result has returned its outcome or thrown its error. -/
theorem DisplayThread.leaves {result : SessionResult}
    (h : s.phase = .deactivating result ∨ s.phase = .closing result ∨ s.phase = .ended result) :
    (∀ o, result = .ok o → s.Returns o) ∧ ∀ error, result = .error error → s.Failed := by
  constructor
  · rintro o rfl
    exact h
  · rintro error rfl
    unfold DisplayThread.Failed
    obtain h | h | h := h
    all_goals
      rw [h]
      trivial

/-- The frame that a display is working on: its input was received, and its acknowledgement is not
sent. -/
def DisplayPhase.workingFrames : DisplayPhase → List UInt64
  | .startingClock input => [input.frame]
  | .steppingFrame input _ => [input.frame]
  | .stoppingClock input _ _ => [input.frame]
  | .acknowledging acknowledgement => [acknowledgement.frame]
  | _ => []

/-- The messages of a display that has sent its ready: it has completed the rounds `rs`, has
received `extra` after their inputs, and has sent `tail` after their acknowledgements. -/
structure DisplayLog (D : TwoPhoneSession τ) (es : List SessionEvent) (s : DisplayThread τ)
    (rs : List DisplayRound) (extra tail : List TwoPhoneMessage) : Prop where
  sent_eq : sent es = [D.hello, .ready] ++ rs.map
    (fun r => .acknowledgement r.acknowledgement) ++ tail
  received_eq : ∃ snapshot stateHash, received es =
      [D.hello, .snapshot snapshot stateHash, .start] ++ rs.map (fun r => .input r.input) ++ extra ∨
    (received es = [D.hello, .snapshot snapshot stateHash] ++ extra ∧ rs = [] ∧ tail = [])
  single : extra.length ≤ 1
  scheduled : Scheduled D.configuration (roundSteps D rs)
  uptime : (rs.map fun r => r.acknowledgement.processingNanoseconds.toNat).sum ≤ s.uptime.toNat
  working : ¬ s.Failed →
    (extra.filterMap TwoPhoneMessage.input?).map DSInputFrame.frame = s.phase.workingFrames
  finished : tail = [] ∨ (tail = [.finishAcknowledgement] ∧ ∃ stateHash success detail,
    received es = [D.hello, .snapshot s.snapshot stateHash, .start] ++
      rs.map (fun r => .input r.input) ++ [.finish s.framesCompleted success detail] ∧
    DisplayIdle D rs s ∧ s.Returns (s.outcome success detail))

variable {rs : List DisplayRound} {extra tail : List TwoPhoneMessage}

/-- What the display has sent after its acknowledgements is no acknowledgement. -/
theorem DisplayLog.others_ne (h : DisplayLog D es s rs extra tail) :
    ∀ x ∈ tail, ∀ a, x ≠ TwoPhoneMessage.acknowledgement a := by
  intro x hx a
  rcases h.finished with rfl | ⟨rfl, -⟩
  · exact absurd hx List.not_mem_nil
  · rw [List.mem_singleton.mp hx]
    exact nofun

/-- The acknowledgements of the display's rounds are numbered from 1. -/
theorem DisplayLog.numbered (h : DisplayLog D es s rs extra tail) :
    (rs.map DisplayRound.acknowledgement).map (fun a => a.frame.toNat) =
      List.range' 1 rs.length := by
  have hnumbered := h.scheduled.numbered
  rw [roundSteps, List.map_map, List.length_map] at hnumbered
  rw [List.map_map]
  exact hnumbered

/-- The log of a trace of complete rounds and a part of one more. -/
theorem DisplayLog.rounds {snapshot : Data} {stateHash : UInt64} {fs : List SessionEvent}
    (hscheduled : Scheduled D.configuration (roundSteps D rs))
    (huptime : (rs.map fun r => r.acknowledgement.processingNanoseconds.toNat).sum ≤ s.uptime.toNat)
    (hreceived : received fs = extra) (hsingle : extra.length ≤ 1) (hsent : sent fs = [])
    (hworking : ¬ s.Failed →
      (extra.filterMap TwoPhoneMessage.input?).map DSInputFrame.frame = s.phase.workingFrames) :
    DisplayLog D (displayHandshake D snapshot stateHash ++ roundEvents D rs ++ fs) s rs extra
      [] := by
  refine ⟨?_, ⟨snapshot, stateHash, .inl ?_⟩, hsingle, hscheduled, huptime, hworking, .inl rfl⟩
  · rw [sent_append, sent_append, sent_roundEvents, hsent]
    rfl
  · rw [received_append, received_append, received_roundEvents, hreceived]
    rfl

/-- The log of a trace at which `run()` starts on its way out. -/
theorem DisplayExit.log {result : SessionResult} {pre gs : List SessionEvent}
    (h : DisplayExit D s pre result) (hready : .ready ∈ sent pre) (hsent : sent gs = [])
    (hreceived : received gs = []) (hok : ∀ o, result = .ok o → s.Returns o)
    (herror : ∀ error, result = .error error → s.Failed) :
    ∃ rs extra tail, DisplayLog D (pre ++ gs) s rs extra tail := by
  cases h with
  | interrupted snapshot stateHash breaks =>
    obtain ⟨pre', e, rfl, ⟨post, hgate⟩, hint, -⟩ := breaks
    have hfailed : s.Failed := herror _ rfl
    have he : sent [e] = [] := by
      cases e with
      | operation o => cases o <;> first | rfl | exact hint.elim
      | _ => rfl
    have hone : (received [e]).length ≤ 1 := by
      cases e with
      | operation o => cases o <;> first | exact Nat.le_refl 1 | exact Nat.zero_le 1
      | _ => exact Nat.zero_le 1
    -- The ready is the last event of the gate, so the gate was passed as a whole.
    have hpost : post = [] := by
      rcases List.eq_nil_or_concat post with rfl | ⟨init, last, rfl⟩
      · rfl
      · have hinit : pre' ++ init = displayLoaded D snapshot stateHash ++ [.hashed stateHash] := by
          have hlast : (pre' ++ init) ++ [last] = (displayLoaded D snapshot stateHash ++
              [.hashed stateHash]) ++ [.operation (.sent .ready)] := by
            rw [List.append_assoc, List.append_assoc, ← List.concat_eq_append]
            exact hgate
          exact (List.append_inj' hlast rfl).1
        have hsent' : sent pre' ++ sent init = [D.hello] := by
          rw [← sent_append, hinit]
          rfl
        rw [sent_append, he, List.append_nil] at hready
        have hmem : .ready ∈ [D.hello] := hsent' ▸ List.mem_append_left _ hready
        exact absurd (List.mem_singleton.mp hmem) nofun
    subst hpost
    rw [List.append_nil] at hgate
    subst hgate
    refine ⟨[], received [e], [], ?_, ⟨snapshot, stateHash, .inr ⟨?_, rfl, rfl⟩⟩, hone, .nil,
      Nat.zero_le _, absurd hfailed, .inl rfl⟩
    · rw [sent_append, sent_append, he, hsent]
      rfl
    · rw [received_append, received_append, hreceived, List.append_nil]
      rfl
  | mismatched differs fails =>
    rcases fails with rfl | rfl <;>
      exact absurd hready (by simp [displayLoaded, displayGreeted, opened, sent, operations,
        Duplex.sentMessages, SessionEvent.operation?, Duplex.Operation.sent?,
          TwoPhoneSession.hello])
  | @refused stateHash rs e error idle refuses =>
    have hone : (received [e]).length ≤ 1 := by
      rcases refuses with rfl | ⟨m, rfl, -⟩
      · exact Nat.zero_le 1
      · exact Nat.le_refl 1
    have he : sent [e] = [] := by
      rcases refuses with rfl | ⟨m, rfl, -⟩ <;> rfl
    rw [List.append_assoc]
    refine ⟨rs, received [e], [], .rounds idle.scheduled idle.uptime ?_ hone ?_
      (absurd (herror _ rfl))⟩
    · rw [received_append, hreceived, List.append_nil]
    · rw [sent_append, hsent, he]
      rfl
  | @unacknowledged stateHash rs r error idle =>
    have hscheduled := idle.scheduled
    have huptime := idle.uptime
    rw [roundSteps_concat] at hscheduled
    rw [List.map_append, List.sum_append] at huptime
    rw [List.append_assoc, List.append_assoc]
    refine ⟨rs, [.input r.input], [], .rounds hscheduled.of_append
      (Nat.le_trans (Nat.le_add_right _ _) huptime) ?_ (Nat.le_refl 1) ?_ (absurd (herror _ rfl))⟩
    · rw [received_append, received_append, hreceived]
      rfl
    · rw [sent_append, sent_append, hsent]
      rfl
  | @unfinished stateHash rs success detail error idle =>
    rw [List.append_assoc]
    refine ⟨rs, [.finish s.framesCompleted success detail], [], .rounds idle.scheduled idle.uptime
      ?_ (Nat.le_refl 1) ?_ (absurd (herror _ rfl))⟩
    · rw [received_append, hreceived]
      rfl
    · rw [sent_append, hsent]
      rfl
  | @finished stateHash rs success detail idle =>
    have hworking : s.phase.workingFrames = [] := by
      rcases hok _ rfl with hp | hp | hp <;> rw [hp] <;> rfl
    have heq : received (displayHandshake D s.snapshot stateHash ++ roundEvents D rs ++
        [.operation (.received (.finish s.framesCompleted success detail)),
          .operation (.sent .finishAcknowledgement)] ++ gs) =
        [D.hello, .snapshot s.snapshot stateHash, .start] ++ rs.map (fun r => .input r.input) ++
          [.finish s.framesCompleted success detail] := by
      rw [received_append, received_append, received_append, received_roundEvents, hreceived,
        List.append_nil]
      rfl
    refine ⟨rs, [.finish s.framesCompleted success detail], [.finishAcknowledgement], ?_,
      ⟨s.snapshot, stateHash, .inl heq⟩, Nat.le_refl 1, idle.scheduled, idle.uptime,
      fun _ => hworking.symm, .inr ⟨rfl, stateHash, success, detail, heq, idle, hok _ rfl⟩⟩
    rw [sent_append, sent_append, sent_append, sent_roundEvents, hsent, List.append_nil]
    rfl

/-- A display that has announced its ready has a log. -/
theorem DisplayTrace.log (h : DisplayTrace D es s) (hready : .ready ∈ sent es) :
    ∃ rs extra tail, DisplayLog D es s rs extra tail := by
  -- Before its ready a display has sent its hello at most.
  have hnot : ∀ {fs : List SessionEvent}, sent fs = [] ∨ sent fs = [D.hello] →
      TwoPhoneMessage.ready ∉ sent fs := by
    rintro fs (hfs | hfs) <;> rw [hfs] <;> simp [TwoPhoneSession.hello]
  unfold DisplayTrace at h
  cases hp : s.phase <;> rw [hp] at h <;> dsimp only at h
  case preparing | connecting | activating | sendingHello =>
    obtain ⟨-, rfl⟩ := h
    exact absurd hready (hnot (.inl rfl))
  case receivingHello | receivingSnapshot | loadingSnapshot | hashingState =>
    obtain ⟨-, rfl⟩ := h
    exact absurd hready (hnot (.inr rfl))
  case sendingFailure =>
    obtain ⟨-, _, _, -, rfl⟩ := h
    exact absurd hready (hnot (.inr rfl))
  case sendingReady =>
    obtain ⟨-, _, rfl⟩ := h
    exact absurd hready (hnot (.inr rfl))
  case receivingStart =>
    obtain ⟨-, stateHash, rfl⟩ := h
    refine ⟨[], [], [], rfl, ⟨s.snapshot, stateHash, .inr ⟨rfl, rfl, rfl⟩⟩, Nat.zero_le 1, .nil,
      Nat.zero_le _, fun _ => ?_, .inl rfl⟩
    rw [hp]
    rfl
  case resuming =>
    obtain ⟨-, stateHash, rfl⟩ := h
    refine ⟨[], [], [], rfl, ⟨s.snapshot, stateHash, .inl rfl⟩, Nat.zero_le 1, .nil,
      Nat.zero_le _, fun _ => ?_, .inl rfl⟩
    rw [hp]
    rfl
  -- In the loop the log is that of the rounds, with the input of an open round as the extra one.
  case receiving =>
    obtain ⟨stateHash, rs, idle, rfl⟩ := h
    rw [← List.append_nil (_ ++ _)]
    refine ⟨rs, [], [], .rounds idle.scheduled idle.uptime rfl (Nat.zero_le 1) rfl fun _ => ?_⟩
    rw [hp]
    rfl
  case startingClock =>
    obtain ⟨stateHash, rs, idle, -, rfl⟩ := h
    refine ⟨rs, _, [], .rounds idle.scheduled idle.uptime rfl (Nat.le_refl 1) rfl fun _ => ?_⟩
    rw [hp]
    rfl
  case steppingFrame | stoppingClock =>
    obtain ⟨stateHash, rs, idle, -, -, rfl⟩ := h
    refine ⟨rs, _, [], .rounds idle.scheduled idle.uptime rfl (Nat.le_refl 1) rfl fun _ => ?_⟩
    rw [hp]
    rfl
  -- The last round is measured but not acknowledged, so it is the open one.
  case acknowledging =>
    obtain ⟨stateHash, rs, r, idle, rfl, rfl⟩ := h
    have hscheduled := idle.scheduled
    have huptime := idle.uptime
    rw [roundSteps_concat] at hscheduled
    rw [List.map_append, List.sum_append] at huptime
    refine ⟨rs, _, [], .rounds hscheduled.of_append
      (Nat.le_trans (Nat.le_add_right _ _) huptime) rfl
      (Nat.le_refl 1) rfl fun _ => ?_⟩
    rw [hp]
    rfl
  case sendingFinishAcknowledgement =>
    obtain ⟨stateHash, rs, idle, rfl⟩ := h
    refine ⟨rs, _, [], .rounds idle.scheduled idle.uptime rfl (Nat.le_refl 1) rfl fun _ => ?_⟩
    rw [hp]
    rfl
  -- On the way out the log is that of the exit.
  case deactivating result =>
    obtain ⟨hok, herror⟩ := DisplayThread.leaves (.inl hp)
    rw [← List.append_nil es]
    exact h.log hready rfl rfl hok herror
  case closing =>
    rcases h with ⟨pre, hexit, rfl⟩ | ⟨-, rfl⟩
    · obtain ⟨hok, herror⟩ := DisplayThread.leaves (.inr (.inl hp))
      rw [sent_append] at hready
      exact hexit.log ((List.mem_append.mp hready).resolve_right (by rintro ⟨⟩)) rfl rfl hok herror
    · exact absurd hready (hnot (.inl rfl))
  case ended =>
    rcases h with ⟨pre, hexit, rfl⟩ | ⟨-, rfl⟩ | ⟨-, rfl⟩
    · obtain ⟨hok, herror⟩ := DisplayThread.leaves (.inr (.inr hp))
      rw [sent_append] at hready
      exact hexit.log ((List.mem_append.mp hready).resolve_right (by rintro ⟨⟩)) rfl rfl hok herror
    · exact absurd hready (hnot (.inl rfl))
    · exact absurd hready (hnot (.inl rfl))
  case trapped =>
    obtain ⟨stateHash, rs, input, idle, -, rfl⟩ := h
    refine ⟨rs, _, [], .rounds idle.scheduled idle.uptime rfl (Nat.le_refl 1) rfl (absurd ?_)⟩
    unfold DisplayThread.Failed
    rw [hp]
    trivial

/-- A display that has sent its finish acknowledgement has received a finish at its own frame, and
returns the outcome of it. -/
theorem DisplayThread.finished_of_sent {host : τ}
    (h : Automaton.exec (DisplayThread.step D) { host := host } es = some s)
    (hfinish : .finishAcknowledgement ∈ sent es) :
    ∃ rs stateHash success detail, DisplayIdle D rs s ∧
      sent es = [D.hello, .ready] ++ rs.map (fun r => .acknowledgement r.acknowledgement) ++
        [.finishAcknowledgement] ∧
      received es = [D.hello, .snapshot s.snapshot stateHash, .start] ++
        rs.map (fun r => .input r.input) ++ [.finish s.framesCompleted success detail] ∧
      s.Returns (s.outcome success detail) := by
  -- The handshake comes before the finish acknowledgement.
  have hready : .ready ∈ sent es := by
    have hattempted : .finishAcknowledgement ∈ attempted es := by
      unfold sent Duplex.sentMessages at hfinish
      unfold attempted Duplex.attemptedMessages
      rw [List.mem_filterMap] at hfinish ⊢
      obtain ⟨o, ho, hm⟩ := hfinish
      refine ⟨o, ho, ?_⟩
      cases o <;> first | exact hm | exact absurd hm nofun
    obtain ⟨pre, e, post, rfl, he⟩ := mem_attempted hattempted
    obtain ⟨t, t', ht, hstep, -⟩ := Automaton.exec_split h
    have hpre : DisplayTrace D pre t := displayTrace_of_exec ht
    obtain ⟨success, detail, result, hp, -⟩ := DisplayThread.step_finishAcknowledgement he hstep
    unfold DisplayTrace at hpre
    rw [hp] at hpre
    obtain ⟨stateHash, rs, -, rfl⟩ := hpre
    rw [sent_append, sent_append, sent_append]
    refine List.mem_append_left _ (List.mem_append_left _ (List.mem_append_left _ ?_))
    exact List.mem_cons_of_mem _ (List.mem_singleton_self _)
  obtain ⟨rs, extra, tail, hlog⟩ := (displayTrace_of_exec h).log hready
  rcases hlog.finished with rfl | ⟨rfl, stateHash, success, detail, hreceived, idle, hreturns⟩
  · rw [hlog.sent_eq] at hfinish
    simp [TwoPhoneSession.hello] at hfinish
  · exact ⟨rs, stateHash, success, detail, idle, hlog.sent_eq, hreceived, hreturns⟩

/-- An outcome of the display is that of its rounds: the finish was received last, and its
acknowledgement was sent last. -/
theorem DisplayTrace.returned {o : TwoPhoneSessionOutcome} (h : DisplayTrace D es s)
    (ho : s.Returns o) :
    ∃ rs stateHash success detail, DisplayIdle D rs s ∧ o = s.outcome success detail ∧
      sent es = [D.hello, .ready] ++ rs.map (fun r => .acknowledgement r.acknowledgement) ++
        [.finishAcknowledgement] ∧
      received es = [D.hello, .snapshot s.snapshot stateHash, .start] ++
        rs.map (fun r => .input r.input) ++ [.finish s.framesCompleted success detail] ∧
      steps es = roundSteps D rs := by
  -- The way out after the finish sends, receives and steps nothing more.
  have hexit : ∀ {pre : List SessionEvent}, DisplayExit D s pre (.ok o) →
      ∀ gs, sent gs = [] → received gs = [] → steps gs = [] →
      ∃ rs stateHash success detail, DisplayIdle D rs s ∧ o = s.outcome success detail ∧
        sent (pre ++ gs) = [D.hello, .ready] ++
          rs.map (fun r => .acknowledgement r.acknowledgement) ++ [.finishAcknowledgement] ∧
        received (pre ++ gs) = [D.hello, .snapshot s.snapshot stateHash, .start] ++
          rs.map (fun r => .input r.input) ++ [.finish s.framesCompleted success detail] ∧
        steps (pre ++ gs) = roundSteps D rs := by
    intro pre hexit gs hsent hreceived hsteps
    cases hexit with
    | @finished stateHash rs success detail idle =>
      refine ⟨rs, stateHash, success, detail, idle, rfl, ?_, ?_, ?_⟩
      · rw [sent_append, sent_append, sent_append, sent_roundEvents, hsent, List.append_nil]
        rfl
      · rw [received_append, received_append, received_append, received_roundEvents, hreceived,
          List.append_nil]
        rfl
      · rw [steps_append, steps_append, steps_append, steps_roundEvents, hsteps, List.append_nil]
        exact List.append_nil _
  unfold DisplayTrace at h
  rcases ho with hp | hp | hp <;> rw [hp] at h <;> dsimp only at h
  · exact List.append_nil es ▸ hexit h [] rfl rfl rfl
  · rcases h with ⟨_, hl, rfl⟩ | ⟨hcancelled, -⟩
    · exact hexit hl _ rfl rfl rfl
    · exact absurd hcancelled nofun
  · rcases h with ⟨_, hl, rfl⟩ | ⟨hcancelled, -⟩ | ⟨hrefused, -⟩
    · exact hexit hl _ rfl rfl rfl
    · exact absurd hcancelled nofun
    · exact absurd hrefused nofun

/-- A display that returns an outcome has sent its finish acknowledgement. -/
theorem DisplayTrace.sent_finish {o : TwoPhoneSessionOutcome} (h : DisplayTrace D es s)
    (ho : s.Returns o) : .finishAcknowledgement ∈ sent es := by
  obtain ⟨rs, _, _, _, -, -, hsent, -⟩ := h.returned ho
  rw [hsent]
  exact List.mem_append_right _ (List.mem_singleton_self _)

end Display

section Controller

variable {σ : Type} {C : TwoPhoneSession σ} {es pre fs : List SessionEvent} {s : ControllerThread σ}
  {done : List AcknowledgedFrame} {pending : List SteppedFrame}

/-- A controller that has thrown. -/
def ControllerThread.Failed (s : ControllerThread σ) : Prop :=
  match s.phase with
  | .stoppingInbox (.error _) => True
  | .closingInbox (.error _) => True
  | .deactivating (.error _) => True
  | .closing (.error _) => True
  | .ended (.error _) => True
  | _ => False

/-- A controller on its way out with the outcome `o`. -/
def ControllerThread.Returns (s : ControllerThread σ) (o : TwoPhoneSessionOutcome) : Prop :=
  s.phase = .stoppingInbox (.ok o) ∨ s.phase = .closingInbox (.ok o) ∨
    s.phase = .deactivating (.ok o) ∨ s.phase = .closing (.ok o) ∨ s.phase = .ended (.ok o)

/-- A controller that leaves with a result has returned its outcome or thrown its error. -/
theorem ControllerThread.leaves {result : SessionResult}
    (h : s.phase = .stoppingInbox result ∨ s.phase = .closingInbox result ∨
      s.phase = .deactivating result ∨ s.phase = .closing result ∨ s.phase = .ended result) :
    (∀ o, result = .ok o → s.Returns o) ∧ ∀ error, result = .error error → s.Failed := by
  constructor
  · rintro o rfl
    exact h
  · rintro error rfl
    unfold ControllerThread.Failed
    obtain h | h | h | h | h := h
    all_goals
      rw [h]
      trivial

/-- The input that a controller has sent and whose frame it has not appended to `pendingFrames`. -/
def ControllerPhase.unappended : ControllerPhase → List DSInputFrame
  | .steppingFrame input => [input]
  | _ => []

/-- The messages of a controller that has sent its start: it has sent the `inputs`, and then `fin`,
and it has consumed `tail` after the acknowledgements of the frames `done`. -/
structure ControllerLog (C : TwoPhoneSession σ) (es : List SessionEvent) (s : ControllerThread σ)
    (done : List AcknowledgedFrame) (pending : List SteppedFrame) (inputs : List DSInputFrame)
    (fin tail : List TwoPhoneMessage) : Prop where
  sent_eq : ∃ stateHash, sent es =
    [C.hello, .snapshot s.snapshot stateHash, .start] ++ inputs.map .input ++ fin
  received_eq : received es = [C.hello, .ready]
  consumed_eq : consumed es = done.map (fun p => .acknowledgement p.acknowledgement) ++ tail
  inputs_eq : inputs = (ledgerSteps done pending).map SteppedFrame.input ++ s.phase.unappended
  numbered : (∀ frame input, .provided frame input ∈ es → input.frame = frame) →
    inputs.map (fun i => i.frame.toNat) = List.range' 1 inputs.length
  matched : ∀ p ∈ done, p.acknowledgement.frame = p.step.frame
  scheduled : Scheduled C.configuration (ledgerSteps done pending)
  pendingFrames : s.pendingFrames = pending.map SteppedFrame.pending
  short : pending.length + s.phase.unappended.length ≤ C.configuration.frameWindow
  finished : fin = [] ∨ (pending = [] ∧ s.phase.unappended = [] ∧ ∃ idleEvents success detail,
    ControllerIdle C 0 idleEvents done [] s ∧ ControllerConcluded C s done success detail ∧
      fin = [.finish s.frame success detail])
  returned : ¬ s.Failed → s.phase ≠ .trapped →
    tail = [] ∨ (tail = [.finishAcknowledgement] ∧ fin ≠ [] ∧ ∃ o, s.Returns o)

/-- What the controller has sent after its inputs is no input. -/
theorem ControllerLog.fin_ne {inputs : List DSInputFrame} {fin tail : List TwoPhoneMessage}
    (h : ControllerLog C es s done pending inputs fin tail) :
    ∀ x ∈ fin, ∀ input, x ≠ TwoPhoneMessage.input input := by
  intro x hx input
  rcases h.finished with rfl | ⟨-, -, _, _, _, -, -, rfl⟩
  · exact absurd hx List.not_mem_nil
  · rw [List.mem_singleton.mp hx]
    exact nofun

/-- The log of a trace of the loop. -/
theorem ControllerIdle.log {k : ℕ} {fin tail : List TwoPhoneMessage}
    (h : ControllerIdle C k pre done pending s)
    (hsent : sent fs = s.phase.unappended.map .input ++ fin) (hreceived : received fs = [])
    (hconsumed : consumed fs = tail)
    (hunappended : s.phase.unappended = [] ∨
      (k = 1 ∧ ∃ input, s.phase.unappended = [input] ∧ .provided s.frame input ∈ fs))
    (hfinished : fin = [] ∨ (pending = [] ∧ s.phase.unappended = [] ∧ ∃ idleEvents success detail,
      ControllerIdle C 0 idleEvents done [] s ∧ ControllerConcluded C s done success detail ∧
        fin = [.finish s.frame success detail]))
    (hreturned : ¬ s.Failed → s.phase ≠ .trapped →
      tail = [] ∨ (tail = [.finishAcknowledgement] ∧ fin ≠ [] ∧ ∃ o, s.Returns o)) :
    ControllerLog C (pre ++ fs) s done pending
      ((ledgerSteps done pending).map SteppedFrame.input ++ s.phase.unappended) fin tail := by
  obtain ⟨stateHash, hrec, hsnt, -⟩ := h.messages_eq
  refine ⟨⟨stateHash, ?_⟩, ?_, ?_, rfl, ?_, h.matched, h.scheduled, h.pendingFrames, ?_, hfinished,
    hreturned⟩
  · rw [sent_append, hsnt, hsent, List.map_append, List.map_map]
    simp only [List.append_assoc]
    rfl
  · rw [received_append, hrec, hreceived]
    rfl
  · rw [consumed_append, h.consumed_eq, hconsumed]
  · intro htagged
    -- The steps are numbered from one, and so are their tagged inputs.
    have hledger : (ledgerSteps done pending).map (fun st => st.input.frame.toNat) =
        List.range' 1 (ledgerSteps done pending).length := by
      rw [← h.scheduled.numbered]
      refine List.map_congr_left fun st hst => ?_
      have hmem : (st.frame, st.input) ∈ provided (pre ++ fs) := by
        rw [provided_append, h.provided_eq]
        exact List.mem_append_left _ (List.mem_map_of_mem hst)
      rw [htagged _ _ (mem_provided.mp hmem)]
    rw [List.map_append, List.map_map, List.length_append, List.length_map]
    rcases hunappended with hnil | ⟨rfl, input, hone, hasked⟩
    · rw [hnil, List.map_nil, List.append_nil, List.length_nil, Nat.add_zero]
      exact hledger
    · have hframe := h.frame
      -- the input that was asked for and is not sent yet has the next number
      have hinput : input.frame = s.frame := htagged _ _ (List.mem_append_right _ hasked)
      have hlen : (ledgerSteps done pending).length = done.length + pending.length := by
        rw [ledgerSteps, List.length_append, List.length_map]
      rw [hone, List.length_singleton, List.range'_1_concat, List.map_singleton, hinput, hframe,
        hlen, Nat.add_comm 1]
      rw [hlen] at hledger
      exact congrArg (· ++ _) hledger
  · have hshort := h.short
    rcases hunappended with hnil | ⟨rfl, input, hone, -⟩
    · rw [hnil]
      exact Nat.le_trans (Nat.le_add_right _ _) hshort
    · rw [hone]
      exact hshort

/-- A thread on its way out has no input in hand. -/
theorem ControllerThread.unappended_of_leaving
    (h : s.Failed ∨ (∃ o, s.Returns o)) : s.phase.unappended = [] := by
  rcases h with h | ⟨o, h⟩
  · unfold ControllerThread.Failed at h
    cases hp : s.phase <;> rw [hp] at h <;> first | rfl | exact h.elim
  · rcases h with h | h | h | h | h <;> rw [h] <;> rfl

/-- The log of a trace of the loop, of the calls `fs` after which `run()` throws, and of its way
out: neither of these has sent or received a message. -/
theorem ControllerIdle.log_of_failed {k : ℕ} {gs : List SessionEvent}
    (h : ControllerIdle C k pre done pending s) (hfailed : s.Failed) (hsent : sent fs = [])
    (hreceived : received fs = []) (hsent' : sent gs = []) (hreceived' : received gs = [])
    (hconsumed' : consumed gs = []) :
    ControllerLog C (pre ++ (fs ++ gs)) s done pending
      ((ledgerSteps done pending).map SteppedFrame.input ++ s.phase.unappended) []
        (consumed fs) := by
  have hnone : s.phase.unappended = [] := ControllerThread.unappended_of_leaving (.inl hfailed)
  refine h.log ?_ ?_ ?_ (.inl hnone) (.inl rfl) (absurd hfailed)
  · rw [sent_append, hsent, hsent', hnone]
    rfl
  · rw [received_append, hreceived, hreceived']
    rfl
  · rw [consumed_append, hconsumed', List.append_nil]

/-- The log of a trace at which `run()` starts on its way out. -/
theorem ControllerExit.log {result : SessionResult} {gs : List SessionEvent}
    (h : ControllerExit C s pre result) (hsent : sent gs = []) (hreceived : received gs = [])
    (hconsumed : consumed gs = []) (hok : ∀ o, result = .ok o → s.Returns o)
    (herror : ∀ error, result = .error error → s.Failed) :
    ∃ done pending inputs fin tail, ControllerLog C (pre ++ gs) s done pending inputs fin tail := by
  cases h with
  | unsent idle _ =>
    rw [List.append_assoc]
    exact ⟨_, _, _, _, _, idle.log_of_failed (herror _ rfl) rfl rfl hsent hreceived hconsumed⟩
  | unreceived idle _ _ =>
    rw [List.append_assoc]
    exact ⟨_, _, _, _, _, idle.log_of_failed (herror _ rfl) rfl rfl hsent hreceived hconsumed⟩
  | unexpected idle _ _ =>
    rw [List.append_assoc]
    exact ⟨_, _, _, _, _, idle.log_of_failed (herror _ rfl) rfl rfl hsent hreceived hconsumed⟩
  | unfinished idle _ =>
    rw [List.append_assoc]
    exact ⟨_, _, _, _, _, idle.log_of_failed (herror _ rfl) rfl rfl hsent hreceived hconsumed⟩
  | @unacknowledged es done success detail e error idle concluded wrong =>
    -- the finish has been sent, and whatever came for an answer is at the end of the log
    have hnone := ControllerThread.unappended_of_leaving (.inl (herror _ rfl))
    rw [List.append_assoc]
    refine ⟨done, [], _, [.finish s.frame success detail], consumed [e], idle.log ?_ ?_ ?_
      (.inl hnone) (.inr ⟨rfl, hnone, es, success, detail, idle, concluded, rfl⟩)
      (absurd (herror _ rfl))⟩
    · rw [sent_append, hsent, hnone]
      rcases wrong with ⟨failure, rfl⟩ | ⟨m, rfl, -⟩ <;> rfl
    · rw [received_append, hreceived]
      rcases wrong with ⟨failure, rfl⟩ | ⟨m, rfl, -⟩ <;> rfl
    · rw [consumed_append, hconsumed, List.append_nil]
      rfl
  | @finished es done success detail idle concluded =>
    have hreturns : s.Returns (s.outcome success detail) := hok _ rfl
    have hunappended := ControllerThread.unappended_of_leaving (.inr ⟨_, hreturns⟩)
    rw [List.append_assoc]
    refine ⟨done, [], _, [.finish s.frame success detail], [.finishAcknowledgement], idle.log ?_ ?_
      ?_ (.inl hunappended) (.inr ⟨rfl, hunappended, es, success, detail, idle, concluded, rfl⟩)
      fun _ _ => .inr ⟨rfl, List.cons_ne_nil _ _, _, hreturns⟩⟩
    · rw [sent_append, hsent, hunappended]
      rfl
    · rw [received_append, hreceived]
      rfl
    · rw [consumed_append, hconsumed]
      rfl

/-- A controller that was interrupted in its handshake has not sent its start. -/
theorem ControllerInterrupted.start_notMem (h : ControllerInterrupted C es) : .start ∉ sent es := by
  obtain ⟨snapshot, stateHash, pre, e, rfl, ⟨post, hgate⟩, hint, -⟩ := h
  have he : sent [e] = [] := by
    cases e with
    | operation o => cases o <;> first | rfl | exact hint.elim
    | _ => rfl
  intro hmem
  rw [sent_append, he, List.append_nil] at hmem
  have hgate' : .start ∈ sent (controllerOffered C snapshot stateHash) := by
    rw [← hgate, sent_append]
    exact List.mem_append_left _ hmem
  have hoffered : sent (controllerOffered C snapshot stateHash) =
      [C.hello, .snapshot snapshot stateHash] := rfl
  rw [hoffered] at hgate'
  simp [TwoPhoneSession.hello] at hgate'

/-- A controller that has sent its start has a log. -/
theorem ControllerTrace.log (h : ControllerTrace C es s) (hstart : .start ∈ sent es) :
    ∃ done pending inputs fin tail, ControllerLog C es s done pending inputs fin tail := by
  -- Before the start a controller has sent a part of its offer at most.
  have hnot : ∀ {fs : List SessionEvent}, sent fs = [] ∨ sent fs = [C.hello] ∨
      (∃ snapshot stateHash, sent fs = [C.hello, .snapshot snapshot stateHash]) →
      TwoPhoneMessage.start ∉ sent fs := by
    rintro fs (hfs | hfs | ⟨snapshot, stateHash, hfs⟩) <;> rw [hfs] <;> simp [TwoPhoneSession.hello]
  -- A run that has left the loop has the log of its exit; the calls of the way out add nothing.
  have hleft : ∀ {pre gs : List SessionEvent} {result : SessionResult},
      ControllerLeft C s pre result → .start ∈ sent (pre ++ gs) → sent gs = [] →
      received gs = [] → consumed gs = [] → (∀ o, result = .ok o → s.Returns o) →
      (∀ error, result = .error error → s.Failed) →
      ∃ done pending inputs fin tail,
        ControllerLog C (pre ++ gs) s done pending inputs fin tail := by
    rintro pre gs result (⟨hint, -⟩ | ⟨pre, hexit, rfl⟩) hstart hsent hreceived hconsumed hok herror
    · rw [sent_append, hsent, List.append_nil] at hstart
      exact absurd hstart hint.start_notMem
    · rw [List.append_assoc]
      refine hexit.log ?_ ?_ ?_ hok herror
      · rw [sent_append, hsent]
        rfl
      · rw [received_append, hreceived]
        rfl
      · rw [consumed_append, hconsumed]
        rfl
  unfold ControllerTrace at h
  cases hp : s.phase <;> rw [hp] at h <;> dsimp only at h
  case preparing | connecting | activating | receivingHello | sendingHello =>
    obtain ⟨-, rfl⟩ := h
    exact absurd hstart (hnot (.inl rfl))
  case makingSnapshot | hashingState | sendingSnapshot =>
    obtain ⟨-, rfl⟩ := h
    exact absurd hstart (hnot (.inr (.inl rfl)))
  case receivingReady | sendingStart =>
    obtain ⟨stateHash, -, rfl⟩ := h
    exact absurd hstart (hnot (.inr (.inr ⟨_, stateHash, rfl⟩)))
  case resuming | startingInbox =>
    obtain ⟨stateHash, hfresh, rfl⟩ := h
    refine ⟨[], [], [], [], [], ⟨stateHash, rfl⟩, rfl, rfl, ?_, fun _ => rfl, (by simp), .nil,
      hfresh.2.2.2.1, ?_, .inl rfl, fun _ _ => .inl rfl⟩
    · rw [hp]
      rfl
    · rw [hp]
      exact Nat.zero_le _
  -- In the loop the log is that of the ledger, with the input in the hand of the thread, if any.
  case awaitingAcknowledgement =>
    obtain ⟨done, st, pending, idle, -⟩ := h
    rw [← List.append_nil es]
    refine ⟨done, st :: pending, _, [], [], idle.log ?_ rfl rfl (.inl ?_) (.inl rfl)
      fun _ _ => .inl rfl⟩ <;> rw [hp] <;> rfl
  case providingInput =>
    obtain ⟨done, pending, idle, -⟩ := h
    rw [← List.append_nil es]
    refine ⟨done, pending, _, [], [], idle.log ?_ rfl rfl (.inl ?_) (.inl rfl)
      fun _ _ => .inl rfl⟩ <;> rw [hp] <;> rfl
  case sendingInput input =>
    obtain ⟨pre, done, pending, idle, -, -, rfl⟩ := h
    refine ⟨done, pending, _, [], [], idle.log ?_ rfl rfl (.inl ?_) (.inl rfl)
      fun _ _ => .inl rfl⟩ <;> rw [hp] <;> rfl
  case steppingFrame input =>
    obtain ⟨pre, done, pending, idle, -, -, rfl⟩ := h
    refine ⟨done, pending, _, [], [], idle.log ?_ rfl rfl (.inr ⟨rfl, input, ?_, ?_⟩) (.inl rfl)
      fun _ _ => .inl rfl⟩
    · rw [hp]
      rfl
    · rw [hp]
      rfl
    · exact List.mem_cons_self ..
  case sendingFinish =>
    obtain ⟨done, idle, -⟩ := h
    rw [← List.append_nil es]
    refine ⟨done, [], _, [], [], idle.log ?_ rfl rfl (.inl ?_) (.inl rfl)
      fun _ _ => .inl rfl⟩ <;> rw [hp] <;> rfl
  case awaitingFinish success detail =>
    obtain ⟨pre, done, idle, concluded, rfl⟩ := h
    refine ⟨done, [], _, [.finish s.frame success detail], [], idle.log ?_ rfl rfl (.inl ?_)
      (.inr ⟨rfl, ?_, pre, success, detail, idle, concluded, rfl⟩) fun _ _ => .inl rfl⟩ <;>
      rw [hp] <;> rfl
  case stoppingInbox result =>
    obtain ⟨hok, herror⟩ := ControllerThread.leaves (.inl hp)
    rw [← List.append_nil es]
    exact h.log rfl rfl rfl hok herror
  case closingInbox result =>
    obtain ⟨hok, herror⟩ := ControllerThread.leaves (.inr (.inl hp))
    obtain ⟨pre, hexit, rfl⟩ := h
    exact hexit.log rfl rfl rfl hok herror
  case deactivating result =>
    obtain ⟨hok, herror⟩ := ControllerThread.leaves (.inr (.inr (.inl hp)))
    rw [← List.append_nil es] at hstart ⊢
    exact hleft h hstart rfl rfl rfl hok herror
  case closing result =>
    rcases h with ⟨pre, hl, rfl⟩ | ⟨-, rfl⟩
    · obtain ⟨hok, herror⟩ := ControllerThread.leaves (.inr (.inr (.inr (.inl hp))))
      exact hleft hl hstart rfl rfl rfl hok herror
    · exact absurd hstart (hnot (.inl rfl))
  case ended result =>
    rcases h with ⟨pre, hl, rfl⟩ | ⟨-, rfl⟩ | ⟨-, rfl⟩
    · obtain ⟨hok, herror⟩ := ControllerThread.leaves (.inr (.inr (.inr (.inr hp))))
      exact hleft hl hstart rfl rfl rfl hok herror
    · exact absurd hstart (hnot (.inl rfl))
    · exact absurd hstart (hnot (.inl rfl))
  -- Trapped by the counter of the frames, or by a duration whose message is already taken.
  case trapped =>
    obtain ⟨pre, done, pending, idle, -, ⟨rfl, -⟩ | ⟨_, _, a, -, rfl, -⟩⟩ := h
    · rw [← List.append_nil es]
      refine ⟨done, pending, _, [], [], idle.log ?_ rfl rfl (.inl ?_) (.inl rfl)
        fun _ hne => absurd hp hne⟩ <;> rw [hp] <;> rfl
    · refine ⟨done, pending, _, [], [.acknowledgement a], idle.log ?_ rfl rfl (.inl ?_) (.inl rfl)
        fun _ hne => absurd hp hne⟩ <;> rw [hp] <;> rfl

end Controller

end DSEmu

import DSEmu.Session.RunStage

/-!
# Cancelling a session

`cancel()` against `run()`: `cancel`, `activate`, `deactivateTransport` and the `close()` calls of
`DSEmu/TwoPhone/TwoPhoneSession.swift`, where any number of threads call `cancel()` any number of
times, and `run()` is that of either role. A section that holds `transportLock` is one step, and so
is a call of `close()`. What the transport returns is the environment's, whether it is closed or
not.

`cancel_closes` is what holds along every run. A `cancel()` that falls between the two calls of the
`defer` block finds no transport and returns, and the transport is closed by the second call:
`cancel_between_deactivate_and_close`.
-/

namespace DSEmu

open Automaton (exec exec_cons exec_append_eq_some exec_concat_eq_some exec_split exec_invariant
  exec_preserves)

/-- Where a thread is in `cancel()`: between its section and the end, it has read
`activeTransport`. -/
inductive CancelPhase where
  | away
  | holding (transport : Bool)
  deriving DecidableEq, Repr

/-- A session in `run()`: its thread, the two fields under `transportLock`, whether `run()` has
obtained a transport and that is closed, and the threads that may cancel. -/
structure SessionState (ρ τ : Type) where
  run : ρ
  isCancelled : Bool := false
  /-- `activeTransport` is the transport that `run()` has obtained. -/
  activeTransport : Bool := false
  obtained : Bool := false
  /-- `activate` has stored it. -/
  activated : Bool := false
  closed : Bool := false
  cancels : τ → CancelPhase := fun _ => .away

/-- A step of `run()`, or of a `cancel()`. -/
inductive SessionCall (τ : Type) where
  | run (event : SessionEvent)
  /-- The lock section of `cancel()`. -/
  | cancelLocked (caller : τ)
  /-- `transport?.close()`, and the end of `cancel()`. -/
  | cancelReturned (caller : τ)
  deriving DecidableEq

namespace SessionCall

variable {τ : Type} {es : List (SessionCall τ)} {e : SessionEvent}

/-- A call of `run()` among the calls so far and one more. -/
theorem mem_concat_run {e' : SessionEvent} : run e ∈ es ++ [run e'] ↔ run e ∈ es ∨ e = e' := by
  rw [List.mem_append, List.mem_singleton, run.injEq]

/-- A step of `cancel()` is no call of `run()`. -/
theorem mem_concat_cancel {e' : SessionCall τ} (he' : ∀ event, e' ≠ run event) :
    run e ∈ es ++ [e'] ↔ run e ∈ es := by
  rw [List.mem_append, List.mem_singleton, or_iff_left (he' e).symm]

end SessionCall

/-- A call before `activate`. -/
def SessionEvent.connects : SessionEvent → Bool
  | prepared => true
  | connected => true
  | connectFailed => true
  | _ => false

/-- Connecting does not use the transport. -/
theorem SessionEvent.not_uses_of_connects {e : SessionEvent} (h : e.connects = true) :
    e.uses ≠ true := by
  cases e with
  | prepared => exact nofun
  | connected => exact nofun
  | connectFailed => exact nofun
  | _ => exact absurd h nofun

namespace SessionState

open SessionCall (mem_concat_run mem_concat_cancel)

variable {ρ τ : Type}

/-- What a call of `run()` does to the transport and to the fields: `none` where the fields do not
let it end so. -/
def called (s : SessionState ρ τ) : SessionEvent → Option (SessionState ρ τ)
  | .connected => some { s with obtained := true }
  | .activated =>
    if s.isCancelled then none else some { s with activeTransport := true, activated := true }
  | .activationRefused => if s.isCancelled then some s else none
  | .deactivated => some { s with activeTransport := false }
  | .operation .closed => some { s with closed := true }
  | _ => some s

/-- `cancel()` up to the end of its section: `none` where the thread is in one already. -/
def lockCancel [DecidableEq τ] (s : SessionState ρ τ) (c : τ) : Option (SessionState ρ τ) :=
  match s.cancels c with
  | .away =>
    some { s with
      isCancelled := true
      cancels := Function.update s.cancels c (.holding s.activeTransport) }
  | .holding _ => none

/-- The rest of `cancel()`. -/
def returnCancel [DecidableEq τ] (s : SessionState ρ τ) (c : τ) : Option (SessionState ρ τ) :=
  match s.cancels c with
  | .away => none
  | .holding transport =>
    some { s with
      closed := s.closed || transport
      cancels := Function.update s.cancels c .away }

/-- One step. -/
def step [DecidableEq τ] (R : Runner ρ) (s : SessionState ρ τ) :
    SessionCall τ → Option (SessionState ρ τ)
  | .run e => (R.step s.run e).bind fun run => called { s with run } e
  | .cancelLocked c => s.lockCancel c
  | .cancelReturned c => s.returnCancel c

/-- What a call of `run()` changes. -/
structure Moves (R : Runner ρ) (s t : SessionState ρ τ) (e : SessionEvent) : Prop where
  run : R.step s.run e = some t.run
  isCancelled : t.isCancelled = s.isCancelled
  cancels : t.cancels = s.cancels
  activeTransport : t.activeTransport =
    if e = .activated then true else if e = .deactivated then false else s.activeTransport
  obtained : t.obtained = (s.obtained || decide (e = .connected))
  activated : t.activated = (s.activated || decide (e = .activated))
  closed : t.closed = (s.closed || decide (e = .operation .closed))
  notCancelled : e = .activated → s.isCancelled = false

variable {R : Runner ρ} {s t : SessionState ρ τ}

/-- The inversion lemma for a call of `run()`. -/
theorem moves_of_step [DecidableEq τ] {e : SessionEvent} (h : s.step R (.run e) = some t) :
    Moves R s t e := by
  obtain ⟨run, hrun, hcalled⟩ := Option.bind_eq_some_iff.mp h
  unfold called at hcalled
  split at hcalled
  case h_2 =>
    rw [Option.ite_none_left_eq_some, Option.some.injEq] at hcalled
    obtain ⟨hc, rfl⟩ := hcalled
    exact ⟨hrun, rfl, rfl, rfl, by simp, by simp, by simp, fun _ => Bool.eq_false_iff.mpr hc⟩
  case h_3 =>
    rw [Option.ite_none_right_eq_some, Option.some.injEq] at hcalled
    obtain ⟨hc, rfl⟩ := hcalled
    exact ⟨hrun, rfl, rfl, rfl, by simp, by simp, by simp, nofun⟩
  case h_6 hconnected hactivated hrefused hdeactivated hclosed =>
    obtain rfl := Option.some.inj hcalled
    refine ⟨hrun, rfl, rfl, ?_, ?_, ?_, ?_, fun he => absurd he hactivated⟩
    · rw [if_neg hactivated, if_neg hdeactivated]
    · rw [decide_eq_false hconnected, Bool.or_false]
    · rw [decide_eq_false hactivated, Bool.or_false]
    · rw [decide_eq_false hclosed, Bool.or_false]
  all_goals
    obtain rfl := Option.some.inj hcalled
    exact ⟨hrun, rfl, rfl, rfl, by simp, by simp, by simp, nofun⟩

/-- A lock section of `cancel()`, or its end, leaves `run()` and what it reads under the lock. -/
structure Cancels (s t : SessionState ρ τ) : Prop where
  run : t.run = s.run
  isCancelled : s.isCancelled = true → t.isCancelled = true
  activeTransport : t.activeTransport = s.activeTransport
  obtained : t.obtained = s.obtained
  activated : t.activated = s.activated
  closed : s.closed = true → t.closed = true

/-- The inversion lemma for the lock section of `cancel()`. -/
theorem cancels_of_locked [DecidableEq τ] {c : τ} (h : s.step R (.cancelLocked c) = some t) :
    Cancels s t ∧ s.cancels c = .away ∧ t.isCancelled = true ∧
      t.cancels = Function.update s.cancels c (.holding s.activeTransport) := by
  change s.lockCancel c = some t at h
  unfold lockCancel at h
  cases hc : s.cancels c with
  | away =>
    rw [hc] at h
    obtain rfl := Option.some.inj h
    exact ⟨⟨rfl, fun _ => rfl, rfl, rfl, rfl, id⟩, rfl, rfl, rfl⟩
  | holding transport =>
    rw [hc] at h
    exact absurd h nofun

/-- The inversion lemma for the end of `cancel()`. -/
theorem cancels_of_returned [DecidableEq τ] {c : τ}
    (h : s.step R (.cancelReturned c) = some t) :
    Cancels s t ∧ ∃ transport, s.cancels c = .holding transport ∧
      t.closed = (s.closed || transport) ∧ t.cancels = Function.update s.cancels c .away := by
  change s.returnCancel c = some t at h
  unfold returnCancel at h
  cases hc : s.cancels c with
  | away =>
    rw [hc] at h
    exact absurd h nofun
  | holding transport =>
    rw [hc] at h
    obtain rfl := Option.some.inj h
    refine ⟨⟨rfl, id, rfl, rfl, rfl, ?_⟩, transport, rfl, rfl, rfl⟩
    intro hs
    show (s.closed || transport) = true
    rw [hs, Bool.true_or]

/-- A step is one of `run()`, or one of a `cancel()`. -/
theorem moves_or_cancels [DecidableEq τ] {e : SessionCall τ} (h : s.step R e = some t) :
    (∃ event, e = .run event ∧ Moves R s t event) ∨ ((∀ event, e ≠ .run event) ∧ Cancels s t) := by
  cases e with
  | run event => exact .inl ⟨event, rfl, moves_of_step h⟩
  | cancelLocked c => exact .inr ⟨nofun, (cancels_of_locked h).1⟩
  | cancelReturned c => exact .inr ⟨nofun, (cancels_of_returned h).1⟩

/-- What the fields say in a stage of `run()`. -/
def Books (s : SessionState ρ τ) : RunStage → Prop
  | .connecting => s.activeTransport = false ∧ s.activated = false ∧ s.obtained = false
  | .activating => s.activeTransport = false ∧ s.activated = false ∧ s.obtained = true
  | .active => s.activeTransport = true
  | .closing _ => s.activeTransport = false
  | .ended _ => s.activeTransport = false ∧ (s.obtained = true → s.closed = true)

/-- The books do not depend on `cancel()`. -/
theorem Books.cancels {stage : RunStage} (h : Books s stage) (hst : Cancels s t) :
    Books t stage := by
  cases stage <;> simp only [Books, hst.activeTransport, hst.activated, hst.obtained] at h ⊢
  case ended => exact ⟨h.1, fun hobtained => hst.closed (h.2 hobtained)⟩
  all_goals exact h

/-- The books under a call of `run()`. -/
theorem Books.moves {e : SessionEvent} (h : Books s (R.stage s.run)) (hst : Moves R s t e) :
    Books t (R.stage t.run) := by
  have hstep := R.step_stage hst.run
  generalize R.stage s.run = p at h hstep
  generalize R.stage t.run = q at hstep ⊢
  have hactive := hst.activeTransport
  have hactivated := hst.activated
  have hobtained := hst.obtained
  cases hstep with
  | prepared =>
    exact ⟨hactive.trans h.1, hactivated.trans (by simp [h.2.1]), hobtained.trans (by simp [h.2.2])⟩
  | connected =>
    exact ⟨hactive.trans h.1, hactivated.trans (by simp [h.2.1]), hobtained.trans (by simp)⟩
  | connectFailed =>
    refine ⟨hactive.trans h.1, fun ho => ?_⟩
    rw [hobtained, h.2.2] at ho
    exact absurd ho nofun
  | activated => exact hactive
  | activationRefused => exact hactive.trans h.1
  | used e he =>
    have hne : e ≠ .activated ∧ e ≠ .deactivated := by
      constructor <;> rintro rfl <;> exact absurd he nofun
    rw [if_neg hne.1, if_neg hne.2] at hactive
    exact hactive.trans h
  | deactivated result => exact hactive
  | closed result => exact ⟨hactive.trans h, fun _ => hst.closed.trans (by simp)⟩

/-- What the calls that `run()` has made say in a stage. -/
def Calls (es : List (SessionCall τ)) : RunStage → Prop
  | .connecting => ∀ e, .run e ∈ es → e.connects = true
  | .activating => ∀ e, .run e ∈ es → e.connects = true
  | .active => .run .deactivated ∉ es
  | .closing _ => .run .activated ∈ es → .run .deactivated ∈ es
  | .ended _ => .run .activated ∈ es → .run .deactivated ∈ es

section Calls

variable {es : List (SessionCall τ)}

/-- The calls so far, with one more of `run()`. -/
theorem Calls.moves {e : SessionEvent} (h : Calls es (R.stage s.run)) (hst : Moves R s t e) :
    Calls (es ++ [.run e]) (R.stage t.run) := by
  have hstep := R.step_stage hst.run
  generalize R.stage s.run = p at h hstep
  generalize R.stage t.run = q at hstep ⊢
  have hconnects (hes : ∀ e', .run e' ∈ es → e'.connects = true) (he : e.connects = true) :
      ∀ e', .run e' ∈ es ++ [.run e] → e'.connects = true := by
    intro e' he'
    obtain hmem | rfl := mem_concat_run.mp he'
    · exact hes e' hmem
    · exact he
  -- Before the transport is used only the events of connecting have happened.
  have hnot (hes : ∀ e', .run e' ∈ es → e'.connects = true) {e' : SessionEvent}
      (hmem : .run e' ∈ es ++ [.run e]) (he' : e'.connects = false) : e' = e := by
    obtain hmem | rfl := mem_concat_run.mp hmem
    · exact absurd (he'.symm.trans (hes e' hmem)) nofun
    · rfl
  cases hstep with
  | prepared => exact hconnects h rfl
  | connected => exact hconnects h rfl
  | connectFailed => exact fun hmem => absurd (hnot h hmem rfl) nofun
  | activated => exact fun hmem => absurd (hnot h hmem rfl) nofun
  | activationRefused => exact fun hmem => absurd (hnot h hmem rfl) nofun
  | used e he =>
    intro hmem
    obtain hmem | rfl := mem_concat_run.mp hmem
    · exact h hmem
    · exact absurd he nofun
  | deactivated result => exact fun _ => mem_concat_run.mpr (.inr rfl)
  | closed result =>
    intro hmem
    obtain hmem | hfalse := mem_concat_run.mp hmem
    · exact mem_concat_run.mpr (.inl (h hmem))
    · exact absurd hfalse nofun

/-- The calls so far, with a step of `cancel()`. -/
theorem Calls.cancels {e : SessionCall τ} {stage : RunStage} (h : Calls es stage)
    (he : ∀ event, e ≠ .run event) : Calls (es ++ [e]) stage := by
  cases stage <;> simp only [Calls, mem_concat_cancel he] at h ⊢ <;> exact h

/-- The fields, the calls and the stage agree along every run. -/
theorem accounts_of_exec [DecidableEq τ] {r : ρ} (hr : R.stage r = .connecting)
    (h : exec (step R) { run := r } es = some t) :
    Books t (R.stage t.run) ∧ Calls es (R.stage t.run) := by
  refine exec_invariant
    (I := fun es t => Books t (R.stage t.run) ∧ Calls es (R.stage t.run)) ?_ ?_ h
  · rw [hr]
    exact ⟨⟨rfl, rfl, rfl⟩, fun e he => absurd he List.not_mem_nil⟩
  · rintro es u e v ⟨hbooks, hcalls⟩ hstep
    obtain ⟨event, rfl, hmoves⟩ | ⟨hcancel, hcancels⟩ := moves_or_cancels hstep
    · exact ⟨hbooks.moves hmoves, hcalls.moves hmoves⟩
    · rw [hcancels.run]
      exact ⟨hbooks.cancels hcancels, hcalls.cancels hcancel⟩

end Calls

/-- A session that a `cancel()` has reached before `activate`: it will not be active, and the calls
it makes from there on. -/
def Refused (es : List (SessionCall τ)) (s : SessionState ρ τ) : RunStage → Prop
  | .connecting => s.isCancelled = true ∧ s.obtained = false ∧
      ∀ e, .run e ∈ es → e.connects = true
  | .activating => s.isCancelled = true ∧ s.obtained = true ∧
      ∀ e, .run e ∈ es → e.connects = true
  | .active => False
  | .closing result => result = .error .cancelled ∧ s.obtained = true ∧
      ∀ e, .run e ∈ es → e.connects = true ∨ e = .activationRefused
  | .ended result => (s.obtained = true → result = .error .cancelled) ∧
      ∀ e, .run e ∈ es → e.connects = true ∨ e = .activationRefused ∨ e = .operation .closed

section Refused

variable {es : List (SessionCall τ)} {stage : RunStage}

/-- A session that is refused stays so under `cancel()`. -/
theorem Refused.cancels {e : SessionCall τ} (h : Refused es s stage) (hst : Cancels s t)
    (he : ∀ event, e ≠ .run event) : Refused (es ++ [e]) t stage := by
  cases stage <;> simp only [Refused, mem_concat_cancel he, hst.obtained] at h ⊢
  case connecting => exact ⟨hst.isCancelled h.1, h.2⟩
  case activating => exact ⟨hst.isCancelled h.1, h.2⟩
  all_goals exact h

/-- A session that is refused goes on to its end. -/
theorem Refused.moves {e : SessionEvent} (h : Refused es s (R.stage s.run)) (hst : Moves R s t e) :
    Refused (es ++ [.run e]) t (R.stage t.run) := by
  have hstep := R.step_stage hst.run
  generalize R.stage s.run = p at h hstep
  generalize R.stage t.run = q at hstep ⊢
  have hcancelled := hst.isCancelled
  have hobtained := hst.obtained
  cases hstep with
  | prepared =>
    refine ⟨hcancelled.trans h.1, hobtained.trans (by simp [h.2.1]), fun e he => ?_⟩
    obtain hmem | rfl := mem_concat_run.mp he
    · exact h.2.2 e hmem
    · rfl
  | connected =>
    refine ⟨hcancelled.trans h.1, hobtained.trans (by simp), fun e he => ?_⟩
    obtain hmem | rfl := mem_concat_run.mp he
    · exact h.2.2 e hmem
    · rfl
  | connectFailed =>
    refine ⟨fun ho => ?_, fun e he => ?_⟩
    · rw [hobtained, h.2.1] at ho
      exact absurd ho nofun
    · obtain hmem | rfl := mem_concat_run.mp he
      · exact .inl (h.2.2 e hmem)
      · exact .inl rfl
  -- a cancelled session is not activated
  | activated => exact absurd (h.1.symm.trans (hst.notCancelled rfl)) nofun
  | activationRefused =>
    refine ⟨rfl, hobtained.trans (by simp [h.2.1]), fun e he => ?_⟩
    obtain hmem | rfl := mem_concat_run.mp he
    · exact .inl (h.2.2 e hmem)
    · exact .inr rfl
  | used e he => exact h.elim
  | deactivated result => exact h.elim
  | closed result =>
    refine ⟨fun _ => h.1, fun e he => ?_⟩
    obtain hmem | rfl := mem_concat_run.mp he
    · obtain hconnects | rfl := h.2.2 e hmem
      · exact .inl hconnects
      · exact .inr (.inl rfl)
    · exact .inr (.inr rfl)

/-- A session that is refused, along a run. -/
theorem refused_of_exec [DecidableEq τ] (hs : Refused [] s (R.stage s.run))
    (h : exec (step R) s es = some t) :
    Refused es t (R.stage t.run) := by
  refine exec_invariant (I := fun es t => Refused es t (R.stage t.run)) hs ?_ h
  intro es u e v hu hstep
  obtain ⟨event, rfl, hmoves⟩ | ⟨hcancel, hcancels⟩ := moves_or_cancels hstep
  · exact hu.moves hmoves
  · rw [hcancels.run]
    exact hu.cancels hcancels hcancel

/-- A refused session has made none of the calls of an active one. -/
theorem Refused.not_uses (h : Refused es s stage) {e : SessionEvent} (he : .run e ∈ es)
    (huses : e.uses = true) : e = .operation .closed := by
  have hconnects : e.connects ≠ true := fun hc => SessionEvent.not_uses_of_connects hc huses
  have hrefused : e ≠ .activationRefused := by
    rintro rfl
    exact absurd huses nofun
  cases stage with
  | connecting => exact absurd (h.2.2 e he) hconnects
  | activating => exact absurd (h.2.2 e he) hconnects
  | active => exact h.elim
  | closing result => exact ((h.2.2 e he).elim hconnects hrefused).elim
  | ended result => exact (h.2 e he).elim (absurd · hconnects) (·.resolve_left hrefused)

/-- A refused session is never activated. -/
theorem Refused.not_activated (h : Refused es s stage) : .run .activated ∉ es := by
  intro he
  cases stage with
  | connecting => exact absurd (h.2.2 _ he) nofun
  | activating => exact absurd (h.2.2 _ he) nofun
  | active => exact h.elim
  | closing result => exact (h.2.2 _ he).elim nofun nofun
  | ended result => exact (h.2 _ he).elim nofun (·.elim nofun nofun)

end Refused

section Laws

variable [DecidableEq τ] {es : List (SessionCall τ)}

/-- A transport that is closed stays closed. -/
theorem closed_of_step {e : SessionCall τ} (hs : s.closed = true) (h : s.step R e = some t) :
    t.closed = true := by
  obtain ⟨event, -, hmoves⟩ | ⟨-, hcancels⟩ := moves_or_cancels h
  · rw [hmoves.closed, hs, Bool.true_or]
  · exact hcancels.closed hs

/-- A `cancel()` that has read the transport has it until it has closed it. -/
theorem holding_of_step {c : τ} {e : SessionCall τ} (hs : s.cancels c = .holding true)
    (h : s.step R e = some t) : t.cancels c = .holding true ∨ t.closed = true := by
  cases e with
  | run event =>
    rw [(moves_of_step h).cancels]
    exact .inl hs
  | cancelLocked c' =>
    obtain ⟨-, haway, -, hcancels⟩ := cancels_of_locked h
    have hne : c ≠ c' := by
      rintro rfl
      exact absurd (haway.symm.trans hs) nofun
    rw [hcancels, Function.update_of_ne hne]
    exact .inl hs
  | cancelReturned c' =>
    obtain ⟨-, transport, hholding, hclosed, hcancels⟩ := cancels_of_returned h
    by_cases hc : c = c'
    · subst hc
      obtain rfl : true = transport := CancelPhase.holding.inj (hs.symm.trans hholding)
      right
      rw [hclosed, Bool.or_true]
    · rw [hcancels, Function.update_of_ne hc]
      exact .inl hs

/-- A transport that is closed stays closed along a run. -/
theorem closed_of_exec (hs : s.closed = true) (h : exec (step R) s es = some t) :
    t.closed = true :=
  exec_preserves (P := fun s => s.closed = true) (fun _ _ _ => closed_of_step) hs h

/-- A transport that `run()` has closed is closed. -/
theorem closed_of_mem (hmem : .run (.operation .closed) ∈ es) (h : exec (step R) s es = some t) :
    t.closed = true := by
  obtain ⟨pre, post, rfl⟩ := List.append_of_mem hmem
  obtain ⟨u, v, -, hv, hrest⟩ := exec_split h
  refine closed_of_exec ?_ hrest
  rw [(moves_of_step hv).closed, decide_eq_true rfl, Bool.or_true]

/-- A transport that has been obtained stays so along a run. -/
theorem obtained_of_exec (hs : s.obtained = true) (h : exec (step R) s es = some t) :
    t.obtained = true := by
  refine exec_preserves (P := fun s => s.obtained = true) ?_ hs h
  intro s e u hobtained hstep
  obtain ⟨event, -, hmoves⟩ | ⟨-, hcancels⟩ := moves_or_cancels hstep
  · rw [hmoves.obtained, hobtained, Bool.true_or]
  · exact hcancels.obtained.trans hobtained

/-- A `cancel()` that has read the transport, along a run. -/
theorem holding_of_exec {c : τ} (hs : s.cancels c = .holding true)
    (h : exec (step R) s es = some t) : t.cancels c = .holding true ∨ t.closed = true := by
  refine exec_preserves (P := fun s => s.cancels c = .holding true ∨ s.closed = true) ?_ (.inl hs) h
  rintro s e u (hholding | hclosed) hstep
  · exact holding_of_step hholding hstep
  · exact .inr (closed_of_step hclosed hstep)

/-- A `cancel()` whose section finds the transport active has closed it when it returns. -/
theorem closed_of_returned {c : τ} {mid post : List (SessionCall τ)} (hs : s.activeTransport = true)
    (h : exec (step R) s (.cancelLocked c :: (mid ++ .cancelReturned c :: post)) = some t) :
    t.closed = true := by
  obtain ⟨u, hu, h⟩ := Option.bind_eq_some_iff.mp h
  obtain ⟨v, w, hv, hw, hpost⟩ := exec_split h
  obtain ⟨-, -, -, hcancels⟩ := cancels_of_locked hu
  have hholding : u.cancels c = .holding true := by rw [hcancels, Function.update_self, hs]
  refine closed_of_exec ?_ hpost
  obtain ⟨-, transport, hc, hclosed, -⟩ := cancels_of_returned hw
  obtain hv' | hv' := holding_of_exec hholding hv
  · obtain rfl : true = transport := CancelPhase.holding.inj (hv'.symm.trans hc)
    rw [hclosed, Bool.or_true]
  · rw [hclosed, hv', Bool.true_or]

/-- Once the section of a `cancel()` has run, the session is cancelled. -/
theorem isCancelled_of_mem {c : τ} (hc : .cancelLocked c ∈ es) (h : exec (step R) s es = some t) :
    t.isCancelled = true := by
  obtain ⟨pre, post, rfl⟩ := List.append_of_mem hc
  obtain ⟨u, v, -, hv, hpost⟩ := exec_split h
  refine exec_preserves (P := fun s => s.isCancelled = true) ?_ (cancels_of_locked hv).2.2.1 hpost
  intro s e u hs hstep
  obtain ⟨event, -, hmoves⟩ | ⟨-, hcancels⟩ := moves_or_cancels hstep
  · exact hmoves.isCancelled.trans hs
  · exact hcancels.isCancelled hs

/-- At its last `close()`, `run()` can make that call and no other. -/
theorem step_closing {result : SessionResult} (hs : R.stage s.run = .closing result) :
    (∃ t, s.step R (.run (.operation .closed)) = some t ∧ R.stage t.run = .ended result) ∧
      ∀ e t, s.step R (.run e) = some t → e = .operation .closed := by
  constructor
  · obtain ⟨run, hrun⟩ := R.closes hs
    refine ⟨{ s with run, closed := true }, ?_, ?_⟩
    · show (R.step s.run _).bind _ = _
      rw [hrun]
      rfl
    · have hstep := R.step_stage hrun
      rw [hs] at hstep
      show R.stage run = .ended result
      generalize R.stage run = q at hstep
      cases hstep
      rfl
  · intro e t ht
    have hstep := R.step_stage (moves_of_step ht).run
    rw [hs] at hstep
    generalize R.stage t.run = q at hstep
    cases hstep
    rfl

/-- From its last `close()` on, `run()` makes no other call, and its result stands. -/
theorem leaving_of_exec {result : SessionResult}
    (hs : R.stage s.run = .closing result ∨ R.stage s.run = .ended result)
    (h : exec (step R) s es = some t) :
    (R.stage t.run = .closing result ∨ R.stage t.run = .ended result) ∧
      ∀ e, .run e ∈ es → e = .operation .closed := by
  refine exec_invariant (I := fun es t =>
    (R.stage t.run = .closing result ∨ R.stage t.run = .ended result) ∧
      ∀ e, .run e ∈ es → e = .operation .closed) ⟨hs, fun e he => absurd he List.not_mem_nil⟩ ?_ h
  rintro es u e v ⟨hu, hes⟩ hstep
  obtain ⟨event, rfl, hmoves⟩ | ⟨hcancel, hcancels⟩ := moves_or_cancels hstep
  · have hrun := R.step_stage hmoves.run
    generalize R.stage v.run = q at hrun ⊢
    obtain hu | hu := hu
    · rw [hu] at hrun
      cases hrun
      refine ⟨.inr rfl, fun e he => ?_⟩
      obtain hmem | rfl := mem_concat_run.mp he
      · exact hes e hmem
      · rfl
    · rw [hu] at hrun
      cases hrun
  · rw [hcancels.run]
    exact ⟨hu, fun e he => hes e ((mem_concat_cancel hcancel).mp he)⟩

/-- A cancelled session at `activate` throws, after it has closed its transport. -/
theorem throws_of_cancelled (hs : R.stage s.run = .activating) (hcancelled : s.isCancelled = true) :
    ∃ t, exec (step R) s [.run .activationRefused, .run (.operation .closed)] = some t ∧
      R.stage t.run = .ended (.error .cancelled) := by
  obtain ⟨run, hrun⟩ := R.refuses hs
  have hstep := R.step_stage hrun
  have hclosing : R.stage run = .closing (.error .cancelled) := by
    rw [hs] at hstep
    generalize R.stage run = q at hstep
    cases hstep with
    | activationRefused => rfl
  have hrefused : s.step R (.run .activationRefused) = some { s with run } := by
    show (R.step s.run _).bind _ = _
    rw [hrun]
    exact if_pos hcancelled
  obtain ⟨t, ht, hended⟩ := (step_closing (s := { s with run }) hclosing).1
  refine ⟨t, ?_, hended⟩
  rw [exec_cons, hrefused, Option.bind_some, exec_cons, ht]
  rfl

/-- What holds of cancelling after a run over `es` from `start` to `t`. -/
structure CancelLaw (R : Runner ρ) (start : SessionState ρ τ) (es : List (SessionCall τ))
    (t : SessionState ρ τ) : Prop where
  /-- Once a `cancel()` has returned and `run()` has passed `activate` or returned, the transport is
  closed, except between the two calls of the `defer` block where this `cancel()` came after the
  first and `run()` has not closed the transport before it, as it does where it stops the inbox. -/
  closed : ∀ pre c mid post, es = pre ++ .cancelLocked c :: (mid ++ .cancelReturned c :: post) →
    (.run .activated ∈ es ∨ ∃ result, R.stage t.run = .ended result) → t.obtained = true →
    t.closed = true ∨ .run .deactivated ∈ pre ∧ .run (.operation .closed) ∉ es ∧
      ∃ result, R.stage t.run = .closing result
  /-- There the only call of `run()` is the second one. -/
  closing : ∀ result, R.stage t.run = .closing result →
    (∃ u, t.step R (.run (.operation .closed)) = some u ∧ R.stage u.run = .ended result) ∧
      ∀ e u, t.step R (.run e) = some u → e = .operation .closed
  /-- A `run()` that reaches `activate` after a `cancel()` has set the flag throws, and has used its
  transport for nothing. -/
  refused : ∀ pre post c u, es = pre ++ post → .cancelLocked c ∈ pre →
    exec (step R) start pre = some u → R.stage u.run = .activating →
    (∃ v, exec (step R) u [.run .activationRefused, .run (.operation .closed)] = some v ∧
      R.stage v.run = .ended (.error .cancelled)) ∧
    (∀ result, R.stage t.run = .ended result → result = .error .cancelled) ∧
    ∀ e, .run e ∈ es → e.uses = true → e = .operation .closed
  /-- When `run()` has returned, the transport that it obtained is closed. -/
  ended : ∀ result, R.stage t.run = .ended result → t.obtained = true → t.closed = true

section Start

variable {r : ρ} (hr : R.stage r = .connecting)

include hr

/-- A session that has returned has closed the transport that it obtained. -/
theorem closed_of_ended {result : SessionResult} (h : exec (step R) { run := r } es = some t)
    (ht : R.stage t.run = .ended result) (hobtained : t.obtained = true) : t.closed = true := by
  have hbooks := (accounts_of_exec hr h).1
  rw [ht] at hbooks
  exact hbooks.2 hobtained

/-- A session that is cancelled before or at `activate` is refused. -/
theorem refused_of_cancelled {u : SessionState ρ τ} {pre post : List (SessionCall τ)}
    (hu : exec (step R) { run := r } pre = some u)
    (hstage : R.stage u.run = .connecting ∨ R.stage u.run = .activating)
    (hcancelled : u.isCancelled = true) (hpost : exec (step R) u post = some t) :
    Refused post t (R.stage t.run) ∧ ∀ e, .run e ∈ pre → e.connects = true := by
  obtain ⟨hbooks, hcalls⟩ := accounts_of_exec hr hu
  have hnil : ∀ e : SessionEvent, SessionCall.run (τ := τ) e ∈ [] → e.connects = true :=
    fun e he => absurd he List.not_mem_nil
  obtain hstage | hstage := hstage
  · rw [hstage] at hbooks hcalls
    refine ⟨refused_of_exec ?_ hpost, hcalls⟩
    rw [hstage]
    exact ⟨hcancelled, hbooks.2.2, hnil⟩
  · rw [hstage] at hbooks hcalls
    refine ⟨refused_of_exec ?_ hpost, hcalls⟩
    rw [hstage]
    exact ⟨hcancelled, hbooks.2.2, hnil⟩

/-- Where the section of a `cancel()` that has returned fell, and what that means for the
transport. -/
theorem closed_or_closing {c : τ} {pre mid post : List (SessionCall τ)}
    (h : exec (step R) { run := r }
      (pre ++ .cancelLocked c :: (mid ++ .cancelReturned c :: post)) = some t)
    (hpassed : .run .activated ∈ pre ++ .cancelLocked c :: (mid ++ .cancelReturned c :: post) ∨
      ∃ result, R.stage t.run = .ended result) (hobtained : t.obtained = true) :
    t.closed = true ∨ .run .deactivated ∈ pre ∧ ∃ result, R.stage t.run = .closing result := by
  obtain hactivated | ⟨result, hended⟩ := hpassed
  case inr => exact .inl (closed_of_ended hr h hended hobtained)
  obtain ⟨u, v, hu, hv, hrest⟩ := exec_split h
  have hlocked := cancels_of_locked hv
  obtain ⟨hbooks, hcalls⟩ := accounts_of_exec hr hu
  have hmem : SessionCall.run .activated ∈ pre ∨
      SessionCall.run .activated ∈ mid ++ .cancelReturned c :: post := by
    obtain hmem | hmem := List.mem_append.mp hactivated
    · exact .inl hmem
    · exact .inr ((List.mem_cons.mp hmem).resolve_left nofun)
  -- Before the activation the cancellation makes it refuse.
  have hbefore (hstage : R.stage u.run = .connecting ∨ R.stage u.run = .activating) : False := by
    rw [← hlocked.1.run] at hstage
    obtain ⟨hrefused, hpre⟩ := refused_of_cancelled hr
      (exec_concat_eq_some.mpr ⟨u, hu, hv⟩) hstage hlocked.2.2.1 hrest
    obtain hmem | hmem := hmem
    · exact absurd (hpre _ (List.mem_append_left _ hmem)) nofun
    · exact hrefused.not_activated hmem
  -- After the deactivation the thread itself closes the transport.
  have hafter (result : SessionResult)
      (hstage : R.stage u.run = .closing result ∨ R.stage u.run = .ended result)
      (hdeactivated : .run .activated ∈ pre → .run .deactivated ∈ pre) :
      t.closed = true ∨ .run .deactivated ∈ pre ∧ ∃ result, R.stage t.run = .closing result := by
    rw [← hlocked.1.run] at hstage
    obtain ⟨hleft, hlast⟩ := leaving_of_exec hstage hrest
    have hpre := hdeactivated (hmem.resolve_right fun hmem => absurd (hlast _ hmem) nofun)
    obtain hleft | hleft := hleft
    · exact .inr ⟨hpre, result, hleft⟩
    · exact .inl (closed_of_ended hr h hleft hobtained)
  cases hstage : R.stage u.run with
  | connecting => exact (hbefore (.inl hstage)).elim
  | activating => exact (hbefore (.inr hstage)).elim
  | active =>
    rw [hstage] at hbooks
    obtain ⟨u', hu', hrun⟩ := exec_append_eq_some.mp h
    obtain rfl := Option.some.inj (hu.symm.trans hu')
    exact .inl (closed_of_returned hbooks hrun)
  | closing result =>
    rw [hstage] at hcalls
    exact hafter result (.inl hstage) hcalls
  | ended result =>
    rw [hstage] at hcalls
    exact hafter result (.inr hstage) hcalls

/-- The law holds along every run. -/
theorem cancelLaw_of_exec (h : exec (step R) { run := r } es = some t) :
    CancelLaw R { run := r } es t where
  closed := by
    rintro pre c mid post rfl hpassed hobtained
    by_cases hmem : .run (.operation .closed) ∈ pre ++ .cancelLocked c ::
      (mid ++ .cancelReturned c :: post)
    · exact .inl (closed_of_mem hmem h)
    · obtain hclosed | ⟨hdeactivated, hclosing⟩ := closed_or_closing hr h hpassed hobtained
      · exact .inl hclosed
      · exact .inr ⟨hdeactivated, hmem, hclosing⟩
  closing result hresult := step_closing hresult
  refused := by
    rintro pre post c u rfl hc hu hstage
    have hcancelled : u.isCancelled = true := isCancelled_of_mem hc hu
    obtain ⟨u', hu', hpost⟩ := exec_append_eq_some.mp h
    obtain rfl := Option.some.inj (hu.symm.trans hu')
    obtain ⟨hrefused, hpre⟩ := refused_of_cancelled hr hu (.inr hstage) hcancelled hpost
    refine ⟨throws_of_cancelled hstage hcancelled, fun result hresult => ?_, fun e he huses => ?_⟩
    · have hbooks := (accounts_of_exec hr hu).1
      rw [hstage] at hbooks
      rw [hresult] at hrefused
      exact hrefused.1 (obtained_of_exec hbooks.2.2 hpost)
    · obtain hmem | hmem := List.mem_append.mp he
      · exact absurd huses (SessionEvent.not_uses_of_connects (hpre e hmem))
      · exact hrefused.not_uses hmem huses
  ended result hresult hobtained := closed_of_ended hr h hresult hobtained

end Start

end Laws

end SessionState

open SessionState (CancelLaw cancelLaw_of_exec)

/-- Cancelling closes the transport, in both roles, with any number of threads that cancel, along
every run. -/
theorem cancel_closes {σ τ : Type} [DecidableEq τ] (S : TwoPhoneSession σ) (host : σ)
    (es : List (SessionCall τ)) :
    (∀ t, exec (SessionState.step (controllerRunner S)) { run := { host } } es = some t →
      CancelLaw (controllerRunner S) { run := { host } } es t) ∧
    (∀ t, exec (SessionState.step (displayRunner S)) { run := { host } } es = some t →
      CancelLaw (displayRunner S) { run := { host } } es t) :=
  ⟨fun _ h => cancelLaw_of_exec rfl h, fun _ h => cancelLaw_of_exec rfl h⟩

section Instances

/-- A display whose hello fails to be sent because `cancel()` has closed the transport. -/
def cancelledWhileActive : List (SessionCall Unit) :=
  [.run .prepared, .run .connected, .run .activated, .cancelLocked (), .cancelReturned (),
    .run (.operation (.sendFailed fixedDigestSession.hello)), .run .deactivated]

/-- A display that `cancel()` has reached while it was looking for the controller. -/
def cancelledWhileConnecting : List (SessionCall Unit) :=
  [.run .prepared, .cancelLocked (), .cancelReturned (), .run .connected]

/-- In the first run the transport is closed before the `defer` block closes it, and in the second
`activate` throws. -/
theorem cancel_closes_display :
    (∃ t, exec (SessionState.step (displayRunner fixedDigestSession)) { run := { host := () } }
      cancelledWhileActive = some t ∧ t.closed = true) ∧
    ∃ t, exec (SessionState.step (displayRunner fixedDigestSession)) { run := { host := () } }
      cancelledWhileConnecting = some t ∧
        ∃ v, exec (SessionState.step (displayRunner fixedDigestSession)) t
            [.run .activationRefused, .run (.operation .closed)] = some v ∧
          (displayRunner fixedDigestSession).stage v.run = .ended (.error .cancelled) := by
  constructor
  · obtain ⟨t, ht, hobtained⟩ : ∃ t,
        exec (SessionState.step (displayRunner fixedDigestSession)) { run := { host := () } }
          cancelledWhileActive = some t ∧ t.obtained = true := ⟨_, rfl, rfl⟩
    have hlaw := (cancel_closes fixedDigestSession () cancelledWhileActive).2 t ht
    obtain h | ⟨hmem, -⟩ := hlaw.closed [.run .prepared, .run .connected, .run .activated] () []
      [.run (.operation (.sendFailed fixedDigestSession.hello)), .run .deactivated] rfl
      (.inl (by decide)) hobtained
    · exact ⟨t, ht, h⟩
    · exact absurd hmem (by decide)
  · obtain ⟨t, ht, hstage⟩ : ∃ t,
        exec (SessionState.step (displayRunner fixedDigestSession)) { run := { host := () } }
          cancelledWhileConnecting = some t ∧
        (displayRunner fixedDigestSession).stage t.run = .activating := ⟨_, rfl, rfl⟩
    have hlaw := (cancel_closes fixedDigestSession () cancelledWhileConnecting).2 t ht
    exact ⟨t, ht, (hlaw.refused cancelledWhileConnecting [] () t rfl (by decide) ht hstage).1⟩

/-- A display whose hello fails to be sent, and a `cancel()` between the two calls of the `defer`
block. -/
def cancelledWhileLeaving : List (SessionCall Unit) :=
  [.run .prepared, .run .connected, .run .activated,
    .run (.operation (.sendFailed fixedDigestSession.hello)), .run .deactivated,
    .cancelLocked (), .cancelReturned ()]

/-- This `cancel()` returns after `run()` has passed `activate`, and the transport is not closed. -/
theorem cancel_between_deactivate_and_close :
    ¬ ∀ (es : List (SessionCall Unit)) t,
      exec (SessionState.step (displayRunner fixedDigestSession)) { run := { host := () } } es =
        some t →
      .cancelReturned () ∈ es → .run .activated ∈ es → t.obtained = true → t.closed = true := by
  intro h
  obtain ⟨t, ht, hobtained, hopen⟩ : ∃ t,
      exec (SessionState.step (displayRunner fixedDigestSession)) { run := { host := () } }
        cancelledWhileLeaving = some t ∧ t.obtained = true ∧ t.closed = false :=
    ⟨_, rfl, rfl, rfl⟩
  have hclosed := h cancelledWhileLeaving t ht (by decide) (by decide) hobtained
  exact absurd (hopen.symm.trans hclosed) nofun

end Instances

end DSEmu

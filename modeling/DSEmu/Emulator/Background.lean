import DSEmu.Emulator.Lifecycle
import DSEmu.Emulator.Reconnect

/-!
# In the background

What `appDidEnterBackground` leaves behind. It tells the loop that no attempt may start, and cancels
the session that it finds in `activeTwoPhoneSession`. So a session is missed that the emulation
thread is about to register when this field is read, and a transport may still be open that `run()`
is about to close itself. Where neither is the case, every session that is in `run()` while the app
is in the background has been cancelled, and its transport is closed or will be refused
(`background_quiet`).
-/

namespace DSEmu

open Automaton (exec exec_split exec_preserves_along Along along_append along_cons
  along_of_forall_mem)
open SessionState (Moves Cancels Books)

namespace SessionState

variable {ρ τ : Type} (R : Runner ρ)

/-- A session that a `cancel()` has reached, or that has ended. -/
def Cancelled (x : SessionState ρ τ) : Prop :=
  x.isCancelled = true ∨ ∃ result, R.stage x.run = .ended result

/-- A session with which `cancel()` is done: what it has activated is closed. -/
structure Silenced (x : SessionState ρ τ) : Prop where
  cancelled : Cancelled R x
  transport : x.closed = true ∨ x.activated = false ∨ ∃ result, R.stage x.run = .ended result

/-- A session that `cancel()` has reached: what it has activated is closed, or `cancel()` or the
`defer` block is about to close it. -/
structure Silencing (c : τ) (x : SessionState ρ τ) : Prop where
  cancelled : Cancelled R x
  transport : x.closed = true ∨ x.activated = false ∨ (∃ result, R.stage x.run = .ended result) ∨
    (∃ result, R.stage x.run = .closing result) ∨ x.cancels c = .holding true

variable {R} {x y : SessionState ρ τ} {e : SessionEvent} {c : τ}

/-- A session that has ended makes no call. -/
theorem Moves.not_ended (h : Moves R x y e) : ¬∃ result, R.stage x.run = .ended result := by
  rintro ⟨result, hx⟩
  have hstep := R.step_stage h.run
  rw [hx] at hstep
  generalize R.stage y.run = q at hstep
  cases hstep

/-- A session that is cancelled stays so under a call of `run()`. -/
theorem Cancelled.moves (hx : Cancelled R x) (h : Moves R x y e) : y.isCancelled = true :=
  h.isCancelled.trans (hx.resolve_right h.not_ended)

/-- A session that is cancelled stays so under another `cancel()`. -/
theorem Cancelled.cancels (hx : Cancelled R x) (h : Cancels x y) : Cancelled R y := by
  obtain hx | ⟨result, hx⟩ := hx
  · exact .inl (h.isCancelled hx)
  · exact .inr ⟨result, h.run ▸ hx⟩

/-- A session that is cancelled is not activated any more. -/
theorem Cancelled.activated_moves (hx : Cancelled R x) (h : Moves R x y e)
    (hactivated : x.activated = false) : y.activated = false := by
  have hne : e ≠ .activated := by
    intro he
    exact absurd ((hx.resolve_right h.not_ended).symm.trans (h.notCancelled he)) nofun
  rw [h.activated, hactivated, decide_eq_false hne]
  rfl

/-- A silenced session stays so under a call of `run()`. -/
theorem Silenced.moves (hx : Silenced R x) (h : Moves R x y e) : Silenced R y := by
  refine ⟨.inl (hx.cancelled.moves h), ?_⟩
  obtain hclosed | hactivated | hended := hx.transport
  · exact .inl (by rw [h.closed, hclosed, Bool.true_or])
  · exact .inr (.inl (hx.cancelled.activated_moves h hactivated))
  · exact absurd hended h.not_ended

/-- A silenced session stays so under another `cancel()`. -/
theorem Silenced.cancels (hx : Silenced R x) (h : Cancels x y) : Silenced R y := by
  refine ⟨hx.cancelled.cancels h, ?_⟩
  obtain hclosed | hactivated | ⟨result, hended⟩ := hx.transport
  · exact .inl (h.closed hclosed)
  · exact .inr (.inl (h.activated.trans hactivated))
  · exact .inr (.inr ⟨result, h.run ▸ hended⟩)

/-- A `cancel()` on its way is not lost under a call of `run()`. -/
theorem Silencing.moves (hx : Silencing R c x) (h : Moves R x y e) : Silencing R c y := by
  refine ⟨.inl (hx.cancelled.moves h), ?_⟩
  obtain hclosed | hactivated | hended | ⟨result, hclosing⟩ | hholding := hx.transport
  · exact .inl (by rw [h.closed, hclosed, Bool.true_or])
  · exact .inr (.inl (hx.cancelled.activated_moves h hactivated))
  · exact absurd hended h.not_ended
  · -- the call of the `defer` block
    have hstep := R.step_stage h.run
    rw [hclosing] at hstep
    generalize R.stage y.run = q at hstep
    cases hstep
    exact .inl (by rw [h.closed]; simp)
  · exact .inr (.inr (.inr (.inr (h.cancels ▸ hholding))))

/-- A `cancel()` on its way gets there. -/
theorem Silencing.cancels [DecidableEq τ] (hx : Silencing R c x) {e : SessionCall τ}
    (he : ∀ event, e ≠ .run event) (h : x.step R e = some y) : Silencing R c y := by
  have hcancels : Cancels x y := by
    obtain ⟨event, rfl, -⟩ | ⟨-, hcancels⟩ := moves_or_cancels h
    · exact absurd rfl (he event)
    · exact hcancels
  refine ⟨hx.cancelled.cancels hcancels, ?_⟩
  obtain hclosed | hactivated | ⟨result, hended⟩ | ⟨result, hclosing⟩ | hholding := hx.transport
  · exact .inl (hcancels.closed hclosed)
  · exact .inr (.inl (hcancels.activated.trans hactivated))
  · exact .inr (.inr (.inl ⟨result, hcancels.run ▸ hended⟩))
  · exact .inr (.inr (.inr (.inl ⟨result, hcancels.run ▸ hclosing⟩)))
  · obtain hholding | hclosed := holding_of_step hholding h
    · exact .inr (.inr (.inr (.inr hholding)))
    · exact .inl hclosed

/-- The section of `cancel()` reaches a session at every stage. -/
theorem silencing_of_locked [DecidableEq τ] (hx : Books x (R.stage x.run))
    (h : x.step R (.cancelLocked c) = some y) : Silencing R c y := by
  obtain ⟨hcancels, -, hcancelled, hholding⟩ := cancels_of_locked h
  refine ⟨.inl hcancelled, ?_⟩
  rw [hcancels.run, hcancels.activated]
  cases hstage : R.stage x.run with
  | connecting =>
    rw [hstage] at hx
    exact .inr (.inl hx.2.1)
  | activating =>
    rw [hstage] at hx
    exact .inr (.inl hx.2.1)
  | active =>
    rw [hstage] at hx
    right; right; right; right
    rw [hholding, Function.update_self, hx]
  | closing result => exact .inr (.inr (.inr (.inl ⟨result, rfl⟩)))
  | ended result => exact .inr (.inr (.inl ⟨result, rfl⟩))

/-- A session that has returned needs no `cancel()`. -/
theorem silencing_of_ended (hx : ∃ result, R.stage x.run = .ended result) : Silencing R c x :=
  ⟨.inr hx, .inr (.inr (.inl hx))⟩

/-- Once `cancel()` has returned, the `defer` block is all that can be left to do. -/
theorem Silencing.silenced (hx : Silencing R c x) (hc : x.cancels c = .away)
    (hclosing : (∃ result, R.stage x.run = .closing result) → x.activated = true →
      x.closed = true) : Silenced R x := by
  refine ⟨hx.cancelled, ?_⟩
  obtain hclosed | hactivated | hended | hstage | hholding := hx.transport
  · exact .inl hclosed
  · exact .inr (.inl hactivated)
  · exact .inr (.inr hended)
  · cases hactivated : x.activated with
    | true => exact .inl (hclosing hstage hactivated)
    | false => exact .inr (.inl rfl)
  · exact absurd (hc.symm.trans hholding) nofun

end SessionState

open SessionState (Silenced Silencing)

namespace AppState

variable {ρ σ : Type} {retryDelay : ℕ} {R : Role ρ σ} {pause : σ → σ} {s t : AppState ρ σ}
  {e : AppEvent}

/-- The emulation thread makes no session and is admitted to no attempt. -/
structure Shut (s : AppState ρ σ) : Prop where
  background : s.loop.isForeground = false
  admitted : s.loop.phase ≠ .admitted
  started : s.attempt ≠ .started
  created : ∀ k, s.attempt ≠ .created k

/-- Only `willEnterForeground` opens what is shut. -/
theorem Shut.step (hs : s.Shut) (h : Step retryDelay R pause s e t)
    (he : e ≠ .willEnterForeground) :
    t.Shut := by
  cases h with
  | loop e loop attempt hloop hforeground hattempt =>
    have hadmitted : loop.phase ≠ .admitted := by
      intro hphase
      cases hruns : e.runs with
      | true =>
        obtain ⟨-, -, -, hfalse⟩ := LoopState.step_admitted hloop hruns hphase
        exact absurd (hs.background.symm.trans hfalse) nofun
      | false => exact hs.admitted ((LoopState.step_phase hloop hruns).symm.trans hphase)
    obtain rfl | ⟨-, rfl⟩ := hattempt
    · exact ⟨hforeground.trans hs.background, hadmitted, hs.started, hs.created⟩
    · exact ⟨hforeground.trans hs.background, hadmitted, nofun, nofun⟩
  | attemptStarted _ hadmitted => exact absurd hadmitted hs.admitted
  | created hstarted => exact absurd hstarted hs.started
  | registered k hcreated => exact absurd hcreated (hs.created k)
  | session => exact ⟨hs.background, hs.admitted, hs.started, hs.created⟩
  | unregistered => exact ⟨hs.background, hs.admitted, nofun, nofun⟩
  | didEnterBackground => exact ⟨rfl, hs.admitted, hs.started, hs.created⟩
  | willEnterForeground => exact absurd rfl he
  | _ => exact ⟨hs.background, hs.admitted, hs.started, hs.created⟩

/-- What a call of `run()` keeps, whatever the phone is then, and a step of `cancel()` keeps as
well, holds of every session as long as none is made. -/
theorem forall_sessions {P : SessionState ρ Unit → Prop}
    (hhost : ∀ host x, P x → P { x with run := R.withHost host x.run })
    (hmoves : ∀ x y e, P x → Moves R.toRunner x y e → P y)
    (hcancels : ∀ x y e, P x → (∀ event, e ≠ .run event) → x.step R.toRunner e = some y → P y)
    (hs : ∀ x ∈ s.sessions, P x) (h : Step retryDelay R pause s e t) (he : e ≠ .created) :
    ∀ x ∈ t.sessions, P x := by
  have hset (k : ℕ) (y : SessionState ρ Unit) (hy : P y) : ∀ x ∈ s.sessions.set k y, P x := by
    intro x hx
    obtain hx | rfl := List.mem_or_eq_of_mem_set hx
    · exact hs x hx
    · exact hy
  cases h with
  | created => exact absurd rfl he
  | session k e x y _ hx hmove =>
    exact hset k y (hmoves _ y e (hhost _ x (hs x (List.mem_of_getElem? hx))) hmove)
  | cancelLocked k x y _ hx hy =>
    exact hset k y (hcancels x y (.cancelLocked ()) (hs x (List.mem_of_getElem? hx)) nofun hy)
  | cancelReturned k x y _ hx hy =>
    exact hset k y (hcancels x y (.cancelReturned ()) (hs x (List.mem_of_getElem? hx)) nofun hy)
  | _ => exact hs

/-- The session that an attempt has registered. -/
def registered? : AttemptPhase → Option ℕ
  | .running k => some k
  | _ => none

/-- An attempt has registered a session or not. -/
theorem registered?_cases (p : AttemptPhase) :
    (∃ k, p = .running k ∧ registered? p = some k) ∨
      (∀ k, p ≠ .running k) ∧ registered? p = none := by
  cases p with
  | running k => exact .inl ⟨k, rfl, rfl⟩
  | _ => exact .inr ⟨nofun, rfl⟩

/-- What the sessions are, as far as the attempt and the main thread say. -/
structure Orderly (R : Role ρ σ) (s : AppState ρ σ) : Prop where
  active : s.activeTwoPhoneSession = registered? s.attempt
  ended : ∀ (k : ℕ) (x : SessionState ρ Unit), s.sessions[k]? = some x → s.attempt ≠ .created k →
    s.attempt ≠ .running k → ∃ result, R.stage x.run = .ended result
  books : ∀ x ∈ s.sessions, Books x (R.stage x.run)
  cancels : ∀ (k : ℕ) (x : SessionState ρ Unit), s.sessions[k]? = some x → s.main ≠ .closing k →
    x.cancels () = .away

/-- The app when it is launched. -/
theorem orderly_initial (host : σ) : Orderly R ({ host } : AppState ρ σ) :=
  ⟨rfl, fun _ _ hx => absurd hx nofun, fun _ hx => absurd hx List.not_mem_nil,
    fun _ _ hx => absurd hx nofun⟩

/-- An entry of a list of which one is set. -/
theorem getElem?_set_cases {α : Type} {l : List α} {k j : ℕ} {x y : α}
    (h : (l.set k y)[j]? = some x) : j = k ∧ x = y ∨ j ≠ k ∧ l[j]? = some x := by
  by_cases hjk : j = k
  · subst hjk
    rw [List.getElem?_set, if_pos rfl, Option.ite_none_right_eq_some] at h
    exact .inl ⟨rfl, (Option.some.inj h.2).symm⟩
  · rw [List.getElem?_set_ne (Ne.symm hjk)] at h
    exact .inr ⟨hjk, h⟩

/-- The registered session is that of the attempt. -/
theorem Orderly.active_step (hs : s.Orderly R) (h : Step retryDelay R pause s e t) :
    t.activeTwoPhoneSession = registered? t.attempt := by
  have hactive := hs.active
  cases h with
  | loop e loop attempt hloop hforeground hattempt =>
    obtain rfl | ⟨⟨result, hleft⟩, rfl⟩ := hattempt
    · exact hactive
    · rw [hleft] at hactive
      exact hactive
  | attemptStarted hidle =>
    rw [hidle] at hactive
    exact hactive
  | created hstarted =>
    rw [hstarted] at hactive
    exact hactive
  | registered k hcreated => rfl
  | unregistered k x result hrunning =>
    rw [hrunning] at hactive
    exact if_pos hactive
  | _ => exact hactive

/-- Every session keeps its books. -/
theorem Orderly.books_step (hs : s.Orderly R) (h : Step retryDelay R pause s e t) :
    ∀ x ∈ t.sessions, Books x (R.stage x.run) := by
  by_cases he : e = .created
  · subst he
    cases h with
    | created hstarted =>
      intro x hx
      obtain hx | hx := List.mem_append.mp hx
      · exact hs.books x hx
      · obtain rfl := List.mem_singleton.mp hx
        rw [R.stage_start]
        exact ⟨rfl, rfl, rfl⟩
  · refine forall_sessions (P := fun x => Books x (R.stage x.run)) ?_ ?_ ?_ hs.books h he
    · intro host x hx
      rw [R.stage_withHost]
      exact hx
    · exact fun x y e hx hmoves => hx.moves hmoves
    · intro x y e hx he hstep
      obtain ⟨event, rfl, -⟩ | ⟨-, hcancels⟩ := SessionState.moves_or_cancels hstep
      · exact absurd rfl (he event)
      · rw [hcancels.run]
        exact hx.cancels hcancels

/-- Every session but that of the attempt has returned. -/
theorem Orderly.ended_step (hs : s.Orderly R) (h : Step retryDelay R pause s e t) (k : ℕ)
    (x : SessionState ρ Unit) (hx : t.sessions[k]? = some x) (hcreated : t.attempt ≠ .created k)
    (hrunning : t.attempt ≠ .running k) : ∃ result, R.stage x.run = .ended result := by
  -- An update that leaves the run of a session as it is.
  have hkept (k' : ℕ) (x' y : SessionState ρ Unit) (hx' : s.sessions[k']? = some x')
      (hy : y.run = x'.run) (hset : (s.sessions.set k' y)[k]? = some x)
      (hcreated : s.attempt ≠ .created k) (hrunning : s.attempt ≠ .running k) :
      ∃ result, R.stage x.run = .ended result := by
    obtain ⟨rfl, rfl⟩ | ⟨-, hx⟩ := getElem?_set_cases hset
    · rw [hy]
      exact hs.ended k x' hx' hcreated hrunning
    · exact hs.ended k x hx hcreated hrunning
  cases h with
  | loop e loop attempt hloop hforeground hattempt =>
    obtain rfl | ⟨⟨result, hleft⟩, rfl⟩ := hattempt
    · exact hs.ended k x hx hcreated hrunning
    · exact hs.ended k x hx (by rw [hleft]; nofun) (by rw [hleft]; nofun)
  | attemptStarted hidle => exact hs.ended k x hx (by rw [hidle]; nofun) (by rw [hidle]; nofun)
  | created hstarted =>
    have hlt : k < s.sessions.length := by
      have hlength := (List.getElem?_eq_some_iff.mp hx).1
      rw [List.length_append, List.length_singleton] at hlength
      have hne : k ≠ s.sessions.length := fun hk => hcreated (by rw [hk])
      omega
    rw [List.getElem?_append_left hlt] at hx
    exact hs.ended k x hx (by rw [hstarted]; nofun) (by rw [hstarted]; nofun)
  | registered k' hcreated' =>
    refine hs.ended k x hx ?_ (by rw [hcreated']; nofun)
    rw [hcreated']
    rintro ⟨⟩
    exact hrunning rfl
  | session k' e x' y hrunning' hx' hmoves =>
    obtain ⟨rfl, -⟩ | ⟨-, hx⟩ := getElem?_set_cases hx
    · exact absurd hrunning' hrunning
    · exact hs.ended k x hx hcreated hrunning
  | unregistered k' x' result hrunning' hx' hended =>
    by_cases hk : k = k'
    · subst hk
      obtain rfl := Option.some.inj (hx.symm.trans hx')
      exact ⟨result, hended⟩
    · refine hs.ended k x hx (by rw [hrunning']; nofun) ?_
      rw [hrunning']
      rintro ⟨⟩
      exact hk rfl
  | cancelLocked k' x' y _ hx' hy =>
    exact hkept k' x' y hx' (SessionState.cancels_of_locked hy).1.run hx hcreated hrunning
  | cancelReturned k' x' y _ hx' hy =>
    exact hkept k' x' y hx' (SessionState.cancels_of_returned hy).1.run hx hcreated hrunning
  | _ => exact hs.ended k x hx hcreated hrunning

/-- Only the main thread cancels, one session at a time. -/
theorem Orderly.cancels_step (hs : s.Orderly R) (h : Step retryDelay R pause s e t) (k : ℕ)
    (x : SessionState ρ Unit) (hx : t.sessions[k]? = some x) (hmain : t.main ≠ .closing k) :
    x.cancels () = .away := by
  cases h with
  | created hstarted =>
    -- the session that is created is the last one, and nothing has cancelled it
    obtain hlt | hge := Nat.lt_or_ge k s.sessions.length
    · rw [List.getElem?_append_left hlt] at hx
      exact hs.cancels k x hx hmain
    · rw [List.getElem?_append_right hge, List.getElem?_singleton,
        Option.ite_none_right_eq_some] at hx
      obtain rfl := Option.some.inj hx.2
      rfl
  | session k' e x' y _ hx' hmoves =>
    obtain ⟨rfl, rfl⟩ | ⟨-, hx⟩ := getElem?_set_cases hx
    · rw [hmoves.cancels]
      exact hs.cancels k x' hx' hmain
    · exact hs.cancels k x hx hmain
  | cancelLocked k' x' y hcancelling hx' hy =>
    obtain ⟨rfl, -⟩ | ⟨-, hx⟩ := getElem?_set_cases hx
    · exact absurd rfl hmain
    · exact hs.cancels k x hx (by rw [hcancelling]; nofun)
  | cancelReturned k' x' y hclosing hx' hy =>
    obtain ⟨rfl, rfl⟩ | ⟨hne, hx⟩ := getElem?_set_cases hx
    · -- the cancel that was closing this session is over
      obtain ⟨-, _, -, -, hcancels⟩ := SessionState.cancels_of_returned hy
      rw [hcancels, Function.update_self]
    · refine hs.cancels k x hx ?_
      rw [hclosing]
      rintro ⟨⟩
      exact hne rfl
  | backgroundStarted hidle => exact hs.cancels k x hx (by rw [hidle]; nofun)
  | didEnterBackground hbackgrounded => exact hs.cancels k x hx (by rw [hbackgrounded]; nofun)
  | emulationPaused hnotified => exact hs.cancels k x hx (by rw [hnotified]; nofun)
  | activeRead hpaused => exact hs.cancels k x hx (by rw [hpaused]; nofun)
  | backgroundReturned hcancelled => exact hs.cancels k x hx (by rw [hcancelled]; nofun)
  | foregroundStarted hidle => exact hs.cancels k x hx (by rw [hidle]; nofun)
  | willEnterForeground hforegrounding => exact hs.cancels k x hx (by rw [hforegrounding]; nofun)
  | _ => exact hs.cancels k x hx hmain

/-- The step lemma. -/
theorem Orderly.step (hs : s.Orderly R) (h : Step retryDelay R pause s e t) : t.Orderly R :=
  ⟨hs.active_step h, hs.ended_step h, hs.books_step h, hs.cancels_step h⟩

/-- What `appDidEnterBackground` has done at a point of it. -/
def Cancelling (R : Role ρ σ) (s : AppState ρ σ) : MainPhase → Prop
  | .notified => s.loop.isForeground = false
  | .paused => s.loop.isForeground = false
  | .cancelling k => s.Shut ∧ ∀ (j : ℕ) (x : SessionState ρ Unit), s.sessions[j]? = some x → j ≠ k →
      ∃ result, R.stage x.run = .ended result
  | .closing _ => s.Shut ∧ ∀ x ∈ s.sessions, Silencing R.toRunner () x
  | .cancelled => s.Shut ∧ ∀ x ∈ s.sessions, Silencing R.toRunner () x
  | _ => True

/-- The points of a run at which the two threads must not meet: `activeTwoPhoneSession` is not read
between the foreground check of an attempt and the registration of its session, and
`appDidEnterBackground` does not return before the close of a transport that `run()` has
deactivated. -/
def Timely (R : Role ρ σ) (s : AppState ρ σ) : AppEvent → Prop
  | .activeRead => s.loop.phase ≠ .admitted ∧ s.attempt ≠ .started ∧ ∀ k, s.attempt ≠ .created k
  | .backgroundReturned => ∀ x ∈ s.sessions, (∃ result, R.stage x.run = .closing result) →
      x.activated = true → x.closed = true
  | _ => True

/-- While it is shut, the emulation thread makes no session. -/
theorem Shut.not_created (hs : s.Shut) (h : Step retryDelay R pause s e t) : e ≠ .created := by
  rintro rfl
  cases h with
  | created hstarted => exact hs.started hstarted

/-- While no session is created, all of them are being silenced. -/
theorem silencing_step (hs : ∀ x ∈ s.sessions, Silencing R.toRunner () x)
    (h : Step retryDelay R pause s e t) (he : e ≠ .created) :
    ∀ x ∈ t.sessions, Silencing R.toRunner () x := by
  refine forall_sessions (P := Silencing R.toRunner ()) ?_ ?_ ?_ hs h he
  · rintro host x ⟨hcancelled, htransport⟩
    refine ⟨?_, ?_⟩
    · unfold SessionState.Cancelled
      rw [R.stage_withHost]
      exact hcancelled
    · rw [R.stage_withHost]
      exact htransport
  · exact fun x y e hx hmoves => hx.moves hmoves
  · exact fun x y e hx he hstep => hx.cancels he hstep

/-- While no session is created, all of them stay silenced. -/
theorem silenced_step (hs : ∀ x ∈ s.sessions, Silenced R.toRunner x)
    (h : Step retryDelay R pause s e t) (he : e ≠ .created) :
    ∀ x ∈ t.sessions, Silenced R.toRunner x := by
  refine forall_sessions (P := Silenced R.toRunner) ?_ ?_ ?_ hs h he
  · rintro host x ⟨hcancelled, htransport⟩
    refine ⟨?_, ?_⟩
    · unfold SessionState.Cancelled
      rw [R.stage_withHost]
      exact hcancelled
    · rw [R.stage_withHost]
      exact htransport
  · exact fun x y e hx hmoves => hx.moves hmoves
  · intro x y e hx he hstep
    obtain ⟨event, rfl, -⟩ | ⟨-, hcancels⟩ := SessionState.moves_or_cancels hstep
    · exact absurd rfl (he event)
    · exact hx.cancels hcancels

/-- A session that has ended stays as it is. -/
theorem ended_step {k : ℕ} {x : SessionState ρ Unit}
    (hs : ∀ x, s.sessions[k]? = some x → ∃ result, R.stage x.run = .ended result)
    (h : Step retryDelay R pause s e t) (he : e ≠ .created) (hx : t.sessions[k]? = some x) :
    ∃ result, R.stage x.run = .ended result := by
  cases h with
  | created => exact absurd rfl he
  | session k' e x' y _ hx' hmoves =>
    obtain ⟨rfl, -⟩ | ⟨-, hx⟩ := getElem?_set_cases hx
    · refine absurd ?_ hmoves.not_ended
      rw [R.stage_withHost]
      exact hs x' hx'
    · exact hs x hx
  | cancelLocked k' x' y _ hx' hy =>
    obtain ⟨rfl, rfl⟩ | ⟨-, hx⟩ := getElem?_set_cases hx
    · rw [(SessionState.cancels_of_locked hy).1.run]
      exact hs x' hx'
    · exact hs x hx
  | cancelReturned k' x' y _ hx' hy =>
    obtain ⟨rfl, rfl⟩ | ⟨-, hx⟩ := getElem?_set_cases hx
    · rw [(SessionState.cancels_of_returned hy).1.run]
      exact hs x' hx'
    · exact hs x hx
  | _ => exact hs x hx

/-- Where `activeTwoPhoneSession` is read in time, it is the only session that has not ended. -/
theorem cancelling_of_read (hs : s.Orderly R) (hbackground : s.loop.isForeground = false)
    (htimely : s.Timely R .activeRead) (main : MainPhase) :
    Cancelling R { s with main }
      ((s.activeTwoPhoneSession.map MainPhase.cancelling).getD .cancelled) := by
  obtain ⟨hadmitted, hstarted, hcreated⟩ := htimely
  have hshut : Shut { s with main } := ⟨hbackground, hadmitted, hstarted, hcreated⟩
  obtain ⟨k, hrunning, hread⟩ | ⟨hrunning, hread⟩ := registered?_cases s.attempt
  · have hactive := hs.active.trans hread
    have hmain : (s.activeTwoPhoneSession.map MainPhase.cancelling).getD .cancelled =
        .cancelling k := by rw [hactive]; rfl
    rw [hmain]
    refine ⟨hshut, fun j x hx hj => hs.ended j x hx (hcreated j) ?_⟩
    rw [hrunning]
    rintro ⟨⟩
    exact hj rfl
  · have hactive := hs.active.trans hread
    have hmain : (s.activeTwoPhoneSession.map MainPhase.cancelling).getD .cancelled =
        .cancelled := by rw [hactive]; rfl
    rw [hmain]
    refine ⟨hshut, fun x hx => ?_⟩
    obtain ⟨k, hk⟩ := List.mem_iff_getElem?.mp hx
    exact SessionState.silencing_of_ended (hs.ended k x hk (hcreated k) (hrunning k))

/-- The emulation thread leaves what `appDidEnterBackground` has done. -/
theorem Cancelling.thread (hmain : s.Cancelling R s.main) (h : Step retryDelay R pause s e t)
    (hsame : t.main = s.main) (hforeground : t.loop.isForeground = s.loop.isForeground)
    (he : e ≠ .willEnterForeground) : t.Cancelling R t.main := by
  rw [hsame]
  cases hphase : s.main with
  | notified =>
    rw [hphase] at hmain
    exact hforeground.trans hmain
  | paused =>
    rw [hphase] at hmain
    exact hforeground.trans hmain
  | cancelling k =>
    rw [hphase] at hmain
    refine ⟨hmain.1.step h he, fun j x hx hj => ?_⟩
    exact ended_step (fun x hx => hmain.2 j x hx hj) h (hmain.1.not_created h) hx
  | closing k =>
    rw [hphase] at hmain
    exact ⟨hmain.1.step h he, silencing_step hmain.2 h (hmain.1.not_created h)⟩
  | cancelled =>
    rw [hphase] at hmain
    exact ⟨hmain.1.step h he, silencing_step hmain.2 h (hmain.1.not_created h)⟩
  | _ => trivial

/-- The main thread on its way through `cancelActiveTwoPhoneSession()`. -/
theorem cancelling_step (hs : s.Orderly R) (hmain : s.Cancelling R s.main)
    (htimely : s.Timely R e) (h : Step retryDelay R pause s e t) : t.Cancelling R t.main := by
  have hstep := h
  cases h with
  | loop e loop attempt hloop hforeground hattempt => exact hmain.thread hstep rfl hforeground nofun
  | attemptStarted => exact hmain.thread hstep rfl rfl nofun
  | created => exact hmain.thread hstep rfl rfl nofun
  | registered => exact hmain.thread hstep rfl rfl nofun
  | session => exact hmain.thread hstep rfl rfl nofun
  | unregistered => exact hmain.thread hstep rfl rfl nofun
  | backgroundStarted => trivial
  | didEnterBackground => rfl
  | emulationPaused hnotified =>
    rw [hnotified] at hmain
    exact hmain
  | activeRead hpaused =>
    rw [hpaused] at hmain
    -- the snapshot of the registered session is read here, and only one that was made in time is in
    -- it
    exact cancelling_of_read hs hmain htimely _
  | cancelLocked k x y hcancelling hx hy =>
    rw [hcancelling] at hmain
    refine ⟨⟨hmain.1.background, hmain.1.admitted, hmain.1.started, hmain.1.created⟩, ?_⟩
    intro x' hx'
    obtain ⟨j, hj⟩ := List.mem_iff_getElem?.mp hx'
    obtain ⟨rfl, rfl⟩ | ⟨hne, hj⟩ := getElem?_set_cases hj
    · exact SessionState.silencing_of_locked (hs.books x (List.mem_of_getElem? hx)) hy
    · exact SessionState.silencing_of_ended (hmain.2 j x' hj hne)
  | cancelReturned k x y hclosing hx hy =>
    rw [hclosing] at hmain
    exact ⟨hmain.1.step hstep nofun, silencing_step hmain.2 hstep nofun⟩
  | backgroundReturned => trivial
  | foregroundStarted => trivial
  | willEnterForeground => trivial

/-- The app in the background: nothing is on the way to start, and `cancel()` is done with every
session. -/
structure InBackground (R : Role ρ σ) (s : AppState ρ σ) : Prop where
  main : s.main ≠ .foregrounding
  shut : s.Shut
  silenced : ∀ x ∈ s.sessions, Silenced R.toRunner x

/-- `appDidEnterBackground` returns in time. -/
theorem inBackground_of_returned (hs : s.Orderly R) (hmain : s.Cancelling R s.main)
    (htimely : s.Timely R .backgroundReturned)
    (h : Step retryDelay R pause s .backgroundReturned t) : t.InBackground R := by
  cases h with
  | backgroundReturned hcancelled =>
    rw [hcancelled] at hmain
    obtain ⟨hshut, hsilencing⟩ := hmain
    refine ⟨nofun, ⟨hshut.background, hshut.admitted, hshut.started, hshut.created⟩, ?_⟩
    intro x hx
    obtain ⟨k, hk⟩ := List.mem_iff_getElem?.mp hx
    have haway := hs.cancels k x hk (by rw [hcancelled]; nofun)
    exact (hsilencing x hx).silenced haway (htimely x hx)

/-- The app stays in the background until it returns. -/
theorem InBackground.step (hs : s.InBackground R) (h : Step retryDelay R pause s e t)
    (he : e ≠ .foregroundStarted) : t.InBackground R := by
  have hforeground : e ≠ .willEnterForeground := by
    rintro rfl
    cases h with
    | willEnterForeground hforegrounding => exact hs.main hforegrounding
  refine ⟨?_, hs.shut.step h hforeground, silenced_step hs.silenced h (hs.shut.not_created h)⟩
  cases h with
  | foregroundStarted => exact absurd rfl he
  | activeRead =>
    show (s.activeTwoPhoneSession.map MainPhase.cancelling).getD .cancelled ≠ .foregrounding
    cases s.activeTwoPhoneSession with
    | none => exact nofun
    | some k => exact nofun
  | loop => exact hs.main
  | attemptStarted => exact hs.main
  | created => exact hs.main
  | registered => exact hs.main
  | session => exact hs.main
  | unregistered => exact hs.main
  | _ => exact nofun

/-- What the app is to be in the background: every session whose `run()` has not ended is cancelled,
and every transport that one has obtained is closed, or will be refused by `activate`. -/
structure Quiet (R : Role ρ σ) (s : AppState ρ σ) : Prop where
  cancelled : ∀ x ∈ s.sessions, x.isCancelled = true ∨ ∃ result, R.stage x.run = .ended result
  closed : ∀ x ∈ s.sessions, x.obtained = true →
    x.closed = true ∨ x.isCancelled = true ∧ x.activated = false

/-- In the background every session is quiet. -/
theorem InBackground.quiet (hs : s.InBackground R) (horderly : s.Orderly R) : s.Quiet R := by
  have hended (x : SessionState ρ Unit) (hx : x ∈ s.sessions)
      (hresult : ∃ result, R.stage x.run = .ended result) (hobtained : x.obtained = true) :
      x.closed = true := by
    obtain ⟨result, hstage⟩ := hresult
    have hbooks := horderly.books x hx
    rw [hstage] at hbooks
    exact hbooks.2 hobtained
  refine ⟨fun x hx => (hs.silenced x hx).cancelled, fun x hx hobtained => ?_⟩
  obtain hclosed | hactivated | hresult := (hs.silenced x hx).transport
  · exact .inl hclosed
  · obtain hcancelled | hresult := (hs.silenced x hx).cancelled
    · exact .inr ⟨hcancelled, hactivated⟩
    · exact .inl (hended x hx hresult hobtained)
  · exact .inl (hended x hx hresult hobtained)

/-- In a run whose steps are timely, the app is quiet from the return of `appDidEnterBackground` to
the next call of `appWillEnterForeground`. -/
theorem quiet_of_exec {host : σ} {pre post : List AppEvent}
    (h : exec (step retryDelay R pause) { host } (pre ++ .backgroundReturned :: post) = some t)
    (htimely : Along (step retryDelay R pause) (Timely R) { host }
      (pre ++ .backgroundReturned :: post))
    (hpost : .foregroundStarted ∉ post) : t.Quiet R := by
  obtain ⟨u, v, hu, hv, ht⟩ := exec_split h
  obtain ⟨hpre, hreturned⟩ := along_append htimely hu
  have hbefore : u.Orderly R ∧ u.Cancelling R u.main := by
    refine exec_preserves_along (P := fun s => s.Orderly R ∧ s.Cancelling R s.main) ?_
      ⟨orderly_initial host, trivial⟩ hpre hu
    rintro s e t ⟨hs, hmain⟩ htimely hstep
    have hstep := step_of_step hstep
    exact ⟨hs.step hstep, cancelling_step hs hmain htimely hstep⟩
  have hv := step_of_step hv
  have halong : Along (step retryDelay R pause) (fun _ e => e ≠ .foregroundStarted) v post :=
    along_of_forall_mem fun e he s hfalse => hpost (hfalse ▸ he)
  have hafter : t.Orderly R ∧ t.InBackground R := by
    refine exec_preserves_along (P := fun s => s.Orderly R ∧ s.InBackground R) ?_
      ⟨hbefore.1.step hv, inBackground_of_returned hbefore.1 hbefore.2 hreturned.1 hv⟩ halong ht
    rintro s e t ⟨hs, hbackground⟩ he hstep
    have hstep := step_of_step hstep
    exact ⟨hs.step hstep, hbackground.step hstep he⟩
  exact hafter.2.quiet hafter.1

/-- Where the steps of a run are timely, the app is quiet while it is in the background. -/
def BackgroundLaw (retryDelay : ℕ) (R : Role ρ σ) (pause : σ → σ) (host : σ) : Prop :=
  ∀ (pre post : List AppEvent) (t : AppState ρ σ),
    exec (step retryDelay R pause) { host } (pre ++ .backgroundReturned :: post) = some t →
    Along (step retryDelay R pause) (Timely R) { host } (pre ++ .backgroundReturned :: post) →
    .foregroundStarted ∉ post → t.Quiet R

end AppState

open AppState (BackgroundLaw Timely Quiet)
open EmulatorCore (pauseEmulation Phone)

section Instances

/-- The display of a phone with the frame counter. -/
abbrev frameCounterDisplay : Role (DisplayThread (Phone ℕ Unit)) (Phone ℕ Unit) :=
  displayRole (frameCounterCore.twoPhoneSession frameCounter)

/-- A step of the app on this phone. -/
abbrev frameCounterStep : AppState (DisplayThread (Phone ℕ Unit)) (Phone ℕ Unit) → AppEvent →
    Option (AppState (DisplayThread (Phone ℕ Unit)) (Phone ℕ Unit)) :=
  AppState.step 1 frameCounterDisplay pauseEmulation

/-- The emulation thread is admitted to an attempt and makes its session. -/
def attemptBegins : List AppEvent := [.loop (.locked 0), .loop .attemptStarted, .created]

/-- It registers the session and activates a transport. -/
def sessionBegins : List AppEvent :=
  [.registered, .session .prepared, .session .connected, .session .activated]

/-- `appDidEnterBackground` up to the section that reads `activeTwoPhoneSession`. -/
def backgroundBegins : List AppEvent :=
  [.backgroundStarted, .didEnterBackground, .emulationPaused, .activeRead]

end Instances

end DSEmu

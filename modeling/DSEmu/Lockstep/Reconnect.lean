import DSEmu.Lockstep.System

/-!
# Attempt after attempt

Outside of automated proofs, `EmulatorCore.runTwoPhoneSession` runs a session attempt, whether it
returns or throws, and then the next one (`TwoPhoneReconnectLoop.run`), on the phone as the last
attempt has left it. Each phone runs its attempts on its own: one may still be in an attempt while
the other is already in a later one. The two ends of a connection are attempts of the two phones;
here they have the same number, and a phone that fails to connect leaves numbers out. A connection
is not used again, so each attempt has a link of its own.

`attempt_of_exec` says that the events of one attempt, taken out of a run, are a run of a lockstep
session (`Lockstep/System.lean`) from the states in which the two phones have entered the attempt.
-/

namespace DSEmu

open Automaton (exec statesAfter)
open Duplex (Link Medium)

/-- The state of two phones that reconnect: the attempt that each is in, and the link of each
attempt. -/
structure ReconnectState (σ τ : Type) where
  controllerAttempt : ℕ := 0
  displayAttempt : ℕ := 0
  controller : ControllerState σ
  display : DisplayThread τ
  links : ℕ → Link TwoPhoneMessage := fun _ => {}

/-- A step of a phone in an attempt, or its next attempt. -/
inductive ReconnectEvent where
  | controller (attempt : ℕ) (event : ControllerEvent)
  | display (attempt : ℕ) (event : SessionEvent)
  | controllerRetries (attempt : ℕ)
  | displayRetries (attempt : ℕ)
  deriving DecidableEq, Repr

/-- `run()` has returned or thrown. -/
def ControllerPhase.hasEnded : ControllerPhase → Bool
  | .ended _ => true
  | _ => false

/-- `run()` has returned or thrown. -/
def DisplayPhase.hasEnded : DisplayPhase → Bool
  | .ended _ => true
  | _ => false

namespace ReconnectEvent

/-- The step of an event in the attempt `n`. -/
def lockstep? (n : ℕ) : ReconnectEvent → Option LockstepEvent
  | controller attempt e => if attempt = n then some (.controller e) else none
  | display attempt e => if attempt = n then some (.display e) else none
  | _ => none

end ReconnectEvent

/-- The events of the attempt `n`. -/
def attemptEvents (n : ℕ) (es : List ReconnectEvent) : List LockstepEvent :=
  es.filterMap (ReconnectEvent.lockstep? n)

/-- The events of the attempt `n` that `select` selects. -/
def inAttempt (n : ℕ) (select : LockstepEvent → Bool) (e : ReconnectEvent) : Bool :=
  (e.lockstep? n).any select

namespace ReconnectState

variable {σ τ : Type}

/-- The phones before their first attempt. -/
def initial (hostC : σ) (hostD : τ) : ReconnectState σ τ where
  controller := { thread := { host := hostC } }
  display := { host := hostD }

/-- The two phones on the link of the attempt `n`. -/
def onLink (s : ReconnectState σ τ) (n : ℕ) : LockstepState σ τ :=
  ⟨s.controller, s.display, s.links n⟩

/-- The phones after a step in the attempt `n`. -/
def afterLink (s : ReconnectState σ τ) (n : ℕ) (t : LockstepState σ τ) : ReconnectState σ τ :=
  { s with
    controller := t.controller
    display := t.display
    links := Function.update s.links n t.link }

/-- One step of two phones that reconnect. -/
def step (M : Medium) (C : TwoPhoneSession σ) (D : TwoPhoneSession τ) (s : ReconnectState σ τ) :
    ReconnectEvent → Option (ReconnectState σ τ)
  | .controller n e =>
    if s.controllerAttempt = n then
      ((s.onLink n).step M C D (.controller e)).map (s.afterLink n)
    else none
  | .display n e =>
    if s.displayAttempt = n then
      ((s.onLink n).step M C D (.display e)).map (s.afterLink n)
    else none
  | .controllerRetries n =>
    if s.controller.thread.phase.hasEnded ∧ s.controllerAttempt < n then
      some { s with
        controllerAttempt := n
        controller := { thread := { host := s.controller.thread.host } } }
    else none
  | .displayRetries n =>
    if s.display.phase.hasEnded ∧ s.displayAttempt < n then
      some { s with
        displayAttempt := n
        display := { host := s.display.host } }
    else none

end ReconnectState

section

variable {σ τ : Type} {M : Medium} {C : TwoPhoneSession σ} {D : TwoPhoneSession τ}

/-- What a phone that is in the attempt `m` with the state `current` starts the rest of the attempt
`n` with: that state, a fresh one if it is still to enter the attempt, or whatever state `left` if
it has left the attempt. -/
def Enters {T H : Type} (fresh : H → T) (n m : ℕ) (current left t : T) : Prop :=
  (m = n → t = current) ∧ (m < n → ∃ host, t = fresh host) ∧ (n < m → t = left)

/-- In the attempt itself a phone starts with the state that it has. -/
theorem Enters.self {T H : Type} {fresh : H → T} {n m : ℕ} {current left : T} (hm : m = n) :
    Enters fresh n m current left current :=
  ⟨fun _ => rfl, fun _ => by omega, fun _ => by omega⟩

theorem Enters.exists {T H : Type} (fresh : H → T) (n m : ℕ) (current left : T) (host : H) :
    ∃ t, Enters fresh n m current left t := by
  rcases Nat.lt_trichotomy m n with hlt | rfl | hgt
  · exact ⟨fresh host, fun _ => by omega, fun _ => ⟨host, rfl⟩, fun _ => by omega⟩
  · exact ⟨current, .self rfl⟩
  · exact ⟨left, fun _ => by omega, fun _ => by omega, fun _ => rfl⟩

/-- In another attempt the current state does not matter. -/
theorem Enters.of_ne {T H : Type} {fresh : H → T} {n m : ℕ} {current current' left t : T}
    (hm : m ≠ n) (h : Enters fresh n m current left t) : Enters fresh n m current' left t :=
  ⟨fun hn => absurd hn hm, h.2⟩

/-- Before a phone goes on to a later attempt, the state that it had is what it is left with. -/
theorem Enters.retry {T H : Type} {fresh : H → T} {n m m' : ℕ} {current left t : T} {host : H}
    (hm : m < m') (h : Enters fresh n m' (fresh host)
      (if m = n then current else if m < n then fresh host else left) t) :
    Enters fresh n m current left t := by
  obtain ⟨hnow, hlater, hleft⟩ := h
  refine ⟨?_, ?_, ?_⟩
  · rintro rfl
    rw [hleft hm, if_pos rfl]
  · intro hn
    rcases Nat.lt_trichotomy m' n with hlt | rfl | hgt
    · exact hlater hlt
    · exact ⟨host, hnow rfl⟩
    · rw [hleft hgt, if_neg (by omega), if_pos hn]
      exact ⟨host, rfl⟩
  · intro hn
    rw [hleft (Nat.lt_trans hn hm), if_neg (by omega), if_neg (by omega)]

/-- The state from which the rest of the attempt `n` runs, in a state `s` of the two phones. -/
structure InAttempt (n : ℕ) (leftC : ControllerState σ) (leftD : DisplayThread τ)
    (s : ReconnectState σ τ) (t : LockstepState σ τ) : Prop where
  link : t.link = s.links n
  controller : Enters (fun host => { thread := { host := host } }) n s.controllerAttempt
    s.controller leftC t.controller
  display : Enters (fun host => { host := host }) n s.displayAttempt s.display leftD t.display

variable (M C D) in
/-- The rest of the attempt `n` in a run over `es` from `s` is a run from `t`, with the same states
of the phones after their steps. -/
structure AttemptRun (n : ℕ) (s : ReconnectState σ τ) (es : List ReconnectEvent)
    (t : LockstepState σ τ) : Prop where
  run : ∃ u, exec (LockstepState.step M C D) t (attemptEvents n es) = some u
  controller : ∀ select, (∀ e, select (.display e) = false) →
    (statesAfter (ReconnectState.step M C D) (inAttempt n select) s es).map
        ReconnectState.controller =
      (statesAfter (LockstepState.step M C D) select t (attemptEvents n es)).map
        LockstepState.controller
  display : ∀ select, (∀ e, select (.controller e) = false) →
    (statesAfter (ReconnectState.step M C D) (inAttempt n select) s es).map
        ReconnectState.display =
      (statesAfter (LockstepState.step M C D) select t (attemptEvents n es)).map
        LockstepState.display

/-- An event of another attempt, or a retry, is no part of the attempt. -/
theorem AttemptRun.skip {n : ℕ} {s s' : ReconnectState σ τ} {e : ReconnectEvent}
    {es : List ReconnectEvent} {t : LockstepState σ τ} (he : e.lockstep? n = none)
    (hs : s.step M C D e = some s') (h : AttemptRun M C D n s' es t) :
    AttemptRun M C D n s (e :: es) t := by
  have hevents : attemptEvents n (e :: es) = attemptEvents n es :=
    List.filterMap_cons_none he
  have hselect : ∀ select, inAttempt n select e = false := fun select => by
    rw [inAttempt, he]
    rfl
  refine ⟨hevents ▸ h.run, fun select hsel => ?_, fun select hsel => ?_⟩
  · rw [hevents, statesAfter, hs]
    simp only [hselect, Bool.false_eq_true, if_false]
    exact h.controller select hsel
  · rw [hevents, statesAfter, hs]
    simp only [hselect, Bool.false_eq_true, if_false]
    exact h.display select hsel

/-- An event of the attempt is a step of it. -/
theorem AttemptRun.step {n : ℕ} {s s' : ReconnectState σ τ} {e : ReconnectEvent}
    {e' : LockstepEvent}
    {es : List ReconnectEvent} {t t' : LockstepState σ τ} (he : e.lockstep? n = some e')
    (hs : s.step M C D e = some s') (ht : t.step M C D e' = some t')
    (hcontroller : (∃ ce, e' = .controller ce) → s'.controller = t'.controller)
    (hdisplay : (∃ de, e' = .display de) → s'.display = t'.display)
    (h : AttemptRun M C D n s' es t') : AttemptRun M C D n s (e :: es) t := by
  have hevents : attemptEvents n (e :: es) = e' :: attemptEvents n es :=
    List.filterMap_cons_some he
  have hselect : ∀ select, inAttempt n select e = select e' := fun select => by
    rw [inAttempt, he]
    rfl
  refine ⟨?_, fun select hsel => ?_, fun select hsel => ?_⟩
  · obtain ⟨u, hu⟩ := h.run
    exact ⟨u, by rw [hevents, Automaton.exec_cons, ht]; exact hu⟩
  · rw [hevents, statesAfter, statesAfter, hs, ht]
    simp only [hselect]
    cases he' : e' with
    | controller ce =>
      split
      · rw [List.map_cons, List.map_cons, h.controller select hsel, hcontroller ⟨ce, he'⟩]
      · exact h.controller select hsel
    | display de =>
      -- a step of the other party moves no state of this one
      rw [if_neg (by rw [hsel]; decide), if_neg (by rw [hsel]; decide)]
      exact h.controller select hsel
  · rw [hevents, statesAfter, statesAfter, hs, ht]
    simp only [hselect]
    cases he' : e' with
    | controller ce =>
      rw [if_neg (by rw [hsel]; decide), if_neg (by rw [hsel]; decide)]
      exact h.display select hsel
    | display de =>
      split
      · rw [List.map_cons, List.map_cons, h.display select hsel, hdisplay ⟨de, he'⟩]
      · exact h.display select hsel

/-- The events of an attempt, taken out of a run, are a run of the attempt. -/
theorem attempt_of_exec {n : ℕ} {s u : ReconnectState σ τ} {es : List ReconnectEvent}
    (hexec : exec (ReconnectState.step M C D) s es = some u) (leftC : ControllerState σ)
    (leftD : DisplayThread τ) :
    ∃ t, InAttempt n leftC leftD s t ∧ AttemptRun M C D n s es t := by
  -- By induction from the end of the run: an attempt that is not current is in the state that
  -- it will start from, or in the one that it was left in.
  induction es generalizing s leftC leftD with
  | nil =>
    obtain ⟨c, hc⟩ :=
      Enters.exists (fun host => ({ thread := { host := host } } : ControllerState σ))
      n s.controllerAttempt s.controller leftC s.controller.thread.host
    obtain ⟨d, hd⟩ := Enters.exists (fun host => ({ host := host } : DisplayThread τ))
      n s.displayAttempt s.display leftD s.display.host
    exact ⟨⟨c, d, s.links n⟩, ⟨rfl, hc, hd⟩, ⟨_, rfl⟩, fun _ _ => rfl, fun _ _ => rfl⟩
  | cons e es ih =>
    rw [Automaton.exec_cons, Option.bind_eq_some_iff] at hexec
    obtain ⟨s', hs, hu⟩ := hexec
    have hstep := hs
    cases e with
    | controller m e =>
      rw [ReconnectState.step, Option.ite_none_right_eq_some, Option.map_eq_some_iff] at hstep
      obtain ⟨hm, v, hv, rfl⟩ := hstep
      obtain ⟨hlink, hcontroller, hdisplay⟩ := LockstepState.step_controller.mp hv
      obtain ⟨t, hin, hrun⟩ := ih hu leftC leftD
      by_cases hmn : m = n
      · subst hmn
        -- A step of this attempt is one of its run: link and controller are the current ones.
        have hcurrent : t.controller = v.controller := hin.controller.1 hm
        have hnext : t.link = v.link := hin.link.trans (Function.update_self ..)
        have hfirst : LockstepState.step M C D ⟨s.controller, t.display, s.links m⟩
          (.controller e) =
            some t :=
          LockstepState.step_controller.mpr ⟨hlink.trans (congrArg some hnext.symm),
            hcontroller.trans (congrArg some hcurrent.symm), rfl⟩
        have hsame := hin.display
        rw [show (s.afterLink m v).display = s.display from hdisplay] at hsame
        exact ⟨⟨s.controller, t.display, s.links m⟩,
          ⟨rfl, .self hm, hsame⟩,
          hrun.step (if_pos rfl) hs hfirst (fun _ => hcurrent.symm) nofun⟩
      -- A step of another attempt leaves this one as it is.
      · refine ⟨t, ⟨?_, ?_, ?_⟩, hrun.skip (if_neg hmn) hs⟩
        · exact hin.link.trans (Function.update_of_ne (fun h => hmn h.symm) ..)
        · exact hin.controller.of_ne (hm ▸ hmn)
        · have hsame := hin.display
          rwa [show (s.afterLink m v).display = s.display from hdisplay] at hsame
    | display m e =>
      rw [ReconnectState.step, Option.ite_none_right_eq_some, Option.map_eq_some_iff] at hstep
      obtain ⟨hm, v, hv, rfl⟩ := hstep
      obtain ⟨hlink, hdisplay, hcontroller⟩ := LockstepState.step_display.mp hv
      obtain ⟨t, hin, hrun⟩ := ih hu leftC leftD
      by_cases hmn : m = n
      · subst hmn
        have hcurrent : t.display = v.display := hin.display.1 hm
        have hnext : t.link = v.link := hin.link.trans (Function.update_self ..)
        have hfirst : LockstepState.step M C D ⟨t.controller, s.display, s.links m⟩ (.display e) =
            some t :=
          LockstepState.step_display.mpr ⟨hlink.trans (congrArg some hnext.symm),
            hdisplay.trans (congrArg some hcurrent.symm), rfl⟩
        have hsame := hin.controller
        rw [show (s.afterLink m v).controller = s.controller from hcontroller] at hsame
        exact ⟨⟨t.controller, s.display, s.links m⟩,
          ⟨rfl, hsame, .self hm⟩,
          hrun.step (if_pos rfl) hs hfirst nofun (fun _ => hcurrent.symm)⟩
      · refine ⟨t, ⟨?_, ?_, ?_⟩, hrun.skip (if_neg hmn) hs⟩
        · exact hin.link.trans (Function.update_of_ne (fun h => hmn h.symm) ..)
        · have hsame := hin.controller
          rwa [show (s.afterLink m v).controller = s.controller from hcontroller] at hsame
        · exact hin.display.of_ne (hm ▸ hmn)
    -- A retry takes the phone from one attempt into the next.
    | controllerRetries m =>
      rw [ReconnectState.step, Option.ite_none_right_eq_some, Option.some.injEq] at hstep
      obtain ⟨⟨-, hm⟩, rfl⟩ := hstep
      obtain ⟨t, hin, hrun⟩ := ih hu (if s.controllerAttempt = n then s.controller else
        if s.controllerAttempt < n then { thread := { host := s.controller.thread.host } }
          else leftC)
        leftD
      exact ⟨t, ⟨hin.link, hin.controller.retry hm, hin.display⟩, hrun.skip rfl hs⟩
    | displayRetries m =>
      rw [ReconnectState.step, Option.ite_none_right_eq_some, Option.some.injEq] at hstep
      obtain ⟨⟨-, hm⟩, rfl⟩ := hstep
      obtain ⟨t, hin, hrun⟩ := ih hu leftC (if s.displayAttempt = n then s.display else
        if s.displayAttempt < n then { host := s.display.host } else leftD)
      exact ⟨t, ⟨hin.link, hin.controller, hin.display.retry hm⟩, hrun.skip rfl hs⟩

end

end DSEmu

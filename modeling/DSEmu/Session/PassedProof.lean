import DSEmu.Session.Barrier

/-!
# What a passed proof proves

If the controller's `run()` returns `success = true`, it has stepped the frames 1 to n of its limit,
the peer has acknowledged each of them, and at every checkpoint with the controller's own digest,
also against a peer that would like it to believe so (`passedProof_sound`). The number of
checkpoints has a closed form (`TwoPhoneConfiguration.countP_shouldCreateDigest`).
-/

namespace DSEmu

open Automaton (exec)

/-- The multiples of `k` from 1 to `n`. -/
theorem countP_multiples (k n : ℕ) :
    (List.range' 1 n).countP (fun f => decide (f % k = 0)) = n / k := by
  induction n with
  | zero => simp
  | succ n ih =>
    rw [List.range'_1_concat, List.countP_append, ih, List.countP_singleton, Nat.succ_div,
      Nat.add_comm 1 n]
    simp only [decide_eq_true_eq, Nat.dvd_iff_mod_eq_zero]

/-- The number of checkpoints of a session with a frame limit. -/
theorem TwoPhoneConfiguration.countP_shouldCreateDigest (c : TwoPhoneConfiguration) {n : UInt64}
    (hn : c.testFrameLimit = some n) :
    (List.range' 1 n.toNat).countP (fun f => c.shouldCreateDigest (UInt64.ofNat f)) =
      n.toNat / c.checkpointInterval.toNat +
        if n.toNat % c.checkpointInterval.toNat = 0 then 0 else 1 := by
  have hlt : n.toNat < UInt64.size := n.toNat_lt
  have hdue : ∀ f, f ≤ n.toNat → (c.shouldCreateDigest (UInt64.ofNat f) = true ↔
      f % c.checkpointInterval.toNat = 0 ∨ n.toNat = f) := by
    intro f hf
    have hval : (UInt64.ofNat f).toNat = f := UInt64.toNat_ofNat_of_lt' (by omega)
    rw [c.shouldCreateDigest_iff, hval, hn, Option.some.injEq, ← UInt64.toNat_inj, hval]
  generalize n.toNat = m at hdue
  cases m with
  | zero => simp
  | succ m =>
    -- The frames below the limit are due at the multiples of the interval, the limit is always due.
    have hbelow : (List.range' 1 m).countP (fun f => c.shouldCreateDigest (UInt64.ofNat f)) =
        m / c.checkpointInterval.toNat := by
      rw [← countP_multiples]
      apply List.countP_congr
      intro f hf
      have hmem := List.mem_range'_1.mp hf
      rw [hdue f (by omega), decide_eq_true_eq]
      omega
    have hlast : c.shouldCreateDigest (UInt64.ofNat (m + 1)) = true :=
      (hdue (m + 1) (Nat.le_refl _)).mpr (.inr rfl)
    rw [List.range'_1_concat, List.countP_append, hbelow, List.countP_singleton, Nat.add_comm 1 m,
      if_pos hlast, Nat.succ_div]
    simp only [Nat.dvd_iff_mod_eq_zero]
    split <;> omega

section

variable {σ : Type} (S : TwoPhoneSession σ)

/-- What an outcome of the controller with `success = true` says about the trace `es` that led to
it. -/
structure PassedProof (es : List SessionEvent) (o : TwoPhoneSessionOutcome) : Prop where
  /-- the frames stepped are those up to the frame limit -/
  limit : S.configuration.testFrameLimit = some o.framesCompleted
  scheduled : Scheduled S.configuration (steps es)
  stepped : (steps es).length = o.framesCompleted.toNat
  /-- each is acknowledged, in order -/
  acknowledged : (consumedAcks es).map FrameAcknowledgement.frame =
    (steps es).map SteppedFrame.frame
  /-- at every checkpoint the acknowledgement has the digest of the step -/
  confirmed : ∀ st ∈ steps es,
    st.frame.toNat % S.configuration.checkpointInterval.toNat = 0 ∨ st.frame = o.framesCompleted →
      ∃ a ∈ consumedAcks es, a.Confirms st
  checkpoints : o.checkpointsCompared =
    o.framesCompleted.toNat / S.configuration.checkpointInterval.toNat +
      if o.framesCompleted.toNat % S.configuration.checkpointInterval.toNat = 0 then 0 else 1
  /-- the final digest is that of the last frame -/
  finalDigest : ∀ st, (steps es).getLast? = some st → o.finalDigest = st.digest ∧ st.digest.isSome
  noDigest : o.framesCompleted = 0 → o.finalDigest = none

variable {S} {s : ControllerThread σ} {es : List SessionEvent} {done : List AcknowledgedFrame}

/-- A session that concluded with success at its limit. -/
theorem ControllerIdle.passed_proof (idle : ControllerIdle S 0 es done [] s)
    (hverified : ∀ p ∈ done, p.Verified)
    (hlimit : S.configuration.testFrameLimit = some s.frame) (detail : String) :
    PassedProof S es (s.outcome true detail) := by
  have hsteps : steps es = done.map AcknowledgedFrame.step := by
    rw [idle.steps_eq, ledgerSteps, List.append_nil]
  have hscheduled : Scheduled S.configuration (steps es) := by
    rw [idle.steps_eq]
    exact idle.scheduled
  have hlength : (steps es).length = s.frame.toNat := by
    rw [hsteps, List.length_map, idle.frame]
    rfl
  refine ⟨hlimit, hscheduled, hlength, ?_, ?_, ?_, ?_, ?_⟩
  · rw [idle.consumedAcks_eq, hsteps, List.map_map, List.map_map]
    exact List.map_congr_left idle.matched
  · intro st hst hdue
    rw [idle.consumedAcks_eq]
    refine idle.confirmed hverified (List.forall_mem_nil _) hst ?_
    rw [hscheduled.asked st hst, S.configuration.shouldCreateDigest_iff, hlimit,
      Option.some.injEq, eq_comm (a := s.frame)]
    exact hdue
  · have hcount := hscheduled.checkpointCount_eq
    rw [hlength, S.configuration.countP_shouldCreateDigest hlimit, hsteps] at hcount
    exact idle.checkpoints.trans hcount
  -- The last frame is the limit, where a digest is always asked for.
  · intro st hlast
    obtain ⟨init, hinit⟩ := List.getLast?_eq_some_iff.mp hlast
    have hmem : st ∈ steps es := by simp [hinit]
    have hframe : st.frame = s.frame := by
      rw [hinit] at hscheduled hlength
      have hnumber := hscheduled.getElem (i := init.length) (by simp)
      rw [List.getElem_concat_length rfl] at hnumber
      rw [List.length_append, List.length_singleton] at hlength
      exact UInt64.toNat_inj.mp (hnumber.trans hlength)
    have hneeds : st.needsDigest = true := by
      rw [hscheduled.asked st hmem, S.configuration.shouldCreateDigest_iff, hlimit, hframe]
      exact .inr rfl
    obtain ⟨a, -, -, hsome, -⟩ := idle.confirmed hverified (List.forall_mem_nil _) hmem hneeds
    refine ⟨?_, hsome⟩
    change s.lastDigest = st.digest
    rw [idle.lastDigest, ← hsteps, hinit, lastCheckpointDigest_concat, if_pos hneeds]
  · intro hzero
    have hframe : s.frame = 0 := hzero
    have hnone : done = [] := by
      rw [hsteps, List.length_map, hframe] at hlength
      exact List.length_eq_zero_iff.mp hlength
    change s.lastDigest = none
    rw [idle.lastDigest, hnone]
    rfl

/-- Events without a step and without an acknowledgement add nothing. -/
theorem PassedProof.append {o : TwoPhoneSessionOutcome} {fs : List SessionEvent}
    (h : PassedProof S es o) (hsteps : steps fs = []) (hacks : consumedAcks fs = []) :
    PassedProof S (es ++ fs) o := by
  have hsteps' : steps (es ++ fs) = steps es := by
    rw [steps_append, hsteps, List.append_nil]
  have hacks' : consumedAcks (es ++ fs) = consumedAcks es := by
    unfold consumedAcks at hacks ⊢
    rw [consumed_append, List.filterMap_append, hacks, List.append_nil]
  refine ⟨h.limit, ?_, ?_, ?_, ?_, h.checkpoints, ?_, h.noDigest⟩
  · rw [hsteps']
    exact h.scheduled
  · rw [hsteps']
    exact h.stepped
  · rw [hsteps', hacks']
    exact h.acknowledged
  · rw [hsteps', hacks']
    exact h.confirmed
  · rw [hsteps']
    exact h.finalDigest

end

/-- A passed proof is sound: if the controller's `run()` returns `success = true`, whatever the peer
sent, then every frame up to the limit was stepped and acknowledged, with matching digests at every
checkpoint. -/
theorem passedProof_sound {σ : Type} {S : TwoPhoneSession σ} {host : σ}
    {events : List ControllerEvent} {u : ControllerState σ} {o : TwoPhoneSessionOutcome}
    (h : exec (ControllerState.step S) { thread := { host := host } } events = some u)
    (hended : u.thread.phase = .ended (.ok o)) (hsuccess : o.success = true) :
    PassedProof S (events.filterMap ControllerEvent.main?) o := by
  have htrace : ControllerTrace S (events.filterMap ControllerEvent.main?) u.thread :=
    controllerTrace_of_exec (ControllerState.exec_thread h)
  obtain ⟨pre, done, success, detail, idle, hconcluded, rfl, hes⟩ := htrace.outcome hended
  have hpassed : success = true := hsuccess
  subst hpassed
  rcases hconcluded with ⟨-, hverified, -, hlimit⟩ | ⟨hfailed, -⟩
  · rw [hes]
    exact (idle.passed_proof hverified hlimit detail).append rfl rfl
  · exact absurd hfailed (by decide)

/-- A run of it from the start to its outcome. -/
def oneFrameRun : List ControllerEvent :=
  let input : DSInputFrame := ⟨1, 0, 0, 0, false⟩
  let acknowledgement : TwoPhoneMessage := .acknowledgement ⟨1, some ⟨0, 0, 0, 0⟩, 5⟩
  let queued (m : TwoPhoneMessage) : List ControllerEvent :=
    [.reader .checked, .reader (.operation (.received m)), .reader .queued, .main (.next m)]
  (controllerHandshake oneFrameSession [] 0).map .main ++
    [.main (.provided 1 input), .main (.operation (.sent (.input input))),
      .main (.stepped 1 input true (some ⟨0, 0, 0, 0⟩))] ++
    queued acknowledgement ++
    [.main (.operation (.sent (.finish 1 true (ControllerThread.passedDetail 1))))] ++
    queued .finishAcknowledgement ++
    [.main .inboxStopped, .main (.operation .closed), .main .deactivated,
      .main (.operation .closed)]

/-- `passedProof_sound` on a run of one frame. -/
theorem passedProof_sound_one_frame :
    ∃ o, o.checkpointsCompared = 1 ∧ o.finalDigest = some ⟨0, 0, 0, 0⟩ ∧
      PassedProof oneFrameSession (oneFrameRun.filterMap ControllerEvent.main?) o := by
  have hrun : (exec (ControllerState.step oneFrameSession) { thread := { host := () } }
      oneFrameRun).bind (fun u => u.thread.phase.outcome?) =
        some ⟨true, 1, some ⟨0, 0, 0, 0⟩, 1, 0, ControllerThread.passedDetail 1⟩ := by
    decide +kernel
  obtain ⟨u, hu, hphase⟩ := Option.bind_eq_some_iff.mp hrun
  have hended : u.thread.phase =
      .ended (.ok ⟨true, 1, some ⟨0, 0, 0, 0⟩, 1, 0, ControllerThread.passedDetail 1⟩) :=
    ControllerPhase.outcome?_eq_some.mp hphase
  exact ⟨_, rfl, rfl, passedProof_sound hu hended rfl⟩

end DSEmu

import DSEmu.Lockstep.Health
import DSEmu.Session.Host

/-!
# Sessions whose snapshot the display accepts

Two phones with the same ROM, where the snapshot that the controller makes (`Offers`) is one that
the display loads, and comes out with the same hash (`Takes`). Whether they accept each other is
decided by the callbacks on the states that the phones start in; no run of two such phones refuses
anything (`not_refused_of_accepts`).
-/

namespace DSEmu

open Automaton (exec exec_append_eq_some exec_split)
open SessionEvent (on onSend onReceive onNext)
open Duplex (Medium)

section

variable {σ τ : Type}

/-- From `host` the controller makes this snapshot, and this is the hash of its state. -/
def TwoPhoneSession.Offers (C : TwoPhoneSession σ) (host : σ) (snapshot : Data)
    (stateHash : UInt64) : Prop :=
  ∃ made hashed, C.makeSnapshot (C.prepareForSynchronization host) = (.ok snapshot, made) ∧
    C.snapshotStateHash made = (stateHash, hashed)

/-- From `host` the display loads this snapshot, and this is the hash of the state it loads. -/
def TwoPhoneSession.Takes (D : TwoPhoneSession τ) (host : τ) (snapshot : Data)
    (stateHash : UInt64) : Prop :=
  ∃ loaded hashed, D.loadSnapshot snapshot (D.prepareForSynchronization host) = (.ok (), loaded) ∧
    D.snapshotStateHash loaded = (stateHash, hashed)

/-- The phones have the same ROM, and the display accepts the controller's snapshot. -/
def Accepts (C : TwoPhoneSession σ) (D : TwoPhoneSession τ) (hostC : σ) (hostD : τ) : Prop :=
  C.romSHA256 = D.romSHA256 ∧
    ∃ snapshot stateHash, C.Offers hostC snapshot stateHash ∧ D.Takes hostD snapshot stateHash

variable {C : TwoPhoneSession σ} {D : TwoPhoneSession τ} {M : Medium} {hostC : σ} {hostD : τ}

/-- The state of a phone in a run that starts with the controller's calls up to the hash. -/
theorem offers_of_hostStep {snapshot : Data} {stateHash : UInt64} {host : σ}
    (h : exec C.hostStep hostC (opened ++ [.operation (.received C.hello),
      .operation (.sent C.hello), .madeSnapshot (.ok snapshot), .hashed stateHash]) = some host) :
    C.Offers hostC snapshot stateHash := by
  change ((C.hostStep (C.prepareForSynchronization hostC) (.madeSnapshot (.ok snapshot))).bind
    fun made => (C.hostStep made (.hashed stateHash)).bind some) = some host at h
  obtain ⟨made, hmade, h⟩ := Option.bind_eq_some_iff.mp h
  obtain ⟨hashed, hhashed, -⟩ := Option.bind_eq_some_iff.mp h
  exact ⟨made, hashed, hostStep_madeSnapshot.mp hmade, hostStep_hashed.mp hhashed⟩

/-- The snapshot that a controller sends is the one that it offers. -/
theorem ControllerThread.offers_of_sent {es : List SessionEvent} {s : ControllerThread σ}
    {snapshot : Data} {stateHash : UInt64}
    (h : exec (ControllerThread.step C) { host := hostC } es = some s)
    (hmem : .snapshot snapshot stateHash ∈ sent es) : C.Offers hostC snapshot stateHash := by
  obtain ⟨pre, post, rfl⟩ := List.append_of_mem (mem_sent hmem)
  obtain ⟨t, t', ht, hstep, -⟩ := exec_split h
  have htrace := controllerTrace_of_exec ht
  have hhost := ControllerThread.exec_host ht
  replace hstep := ControllerThread.call_of_step hstep
  unfold ControllerThread.call at hstep
  unfold ControllerTrace at htrace
  cases hp : t.phase <;> rw [hp] at hstep htrace <;> dsimp only at hstep htrace
  case sendingSnapshot expected =>
    obtain ⟨-, rfl⟩ := htrace
    rcases SessionEvent.onSend_eq_some.mp hstep with ⟨heq, -⟩ | ⟨heq, -⟩
    · simp only [SessionEvent.operation.injEq, Duplex.Operation.sent.injEq,
        TwoPhoneMessage.snapshot.injEq] at heq
      obtain ⟨rfl, rfl⟩ := heq
      exact offers_of_hostStep hhost
    · exact absurd heq nofun
  all_goals simp_all [on, onSend, onReceive, onNext, TwoPhoneSession.hello]

/-- Two phones that accept each other refuse nothing. -/
theorem not_refused_of_accepts {es : List LockstepEvent} {s : LockstepState σ τ}
    (haccepts : Accepts C D hostC hostD)
    (hexec : exec (LockstepState.step M C D) (.initial hostC hostD) es = some s) :
    ¬ Refused C D es := by
  obtain ⟨hrom, snapshot, stateHash, ⟨made, hashedC, hmake, hhashC⟩, loaded, hashedD, hload,
    hhashD⟩ := haccepts
  obtain ⟨dropped, hlaws⟩ := lockstepLaws_of_exec hexec
  have hmain := ControllerState.exec_thread (exec_controller hexec)
  have hhostC : exec C.hostStep hostC (mainEvents es) = some s.controller.thread.host :=
    ControllerThread.exec_host hmain
  have hhostD : exec D.hostStep hostD (displayEvents es) = some s.display.host :=
    DisplayThread.exec_host (exec_display hexec)
  -- what the display has received is what the controller offers
  have hoffer : ∀ snapshot' stateHash', .snapshot snapshot' stateHash' ∈
    received (displayEvents es) →
      snapshot' = snapshot ∧ stateHash' = stateHash := by
    intro snapshot' stateHash' hmem
    have hsent : .snapshot snapshot' stateHash' ∈ sent (mainEvents es) := by
      rw [hlaws.toDisplay]
      exact List.mem_append_left _ hmem
    obtain ⟨made', hashed', hmake', hhash'⟩ := ControllerThread.offers_of_sent hmain hsent
    change C.makeSnapshot (C.prepareForSynchronization hostC) = _ at hmake'
    rw [hmake, Prod.mk.injEq, Except.ok.injEq] at hmake'
    obtain ⟨rfl, rfl⟩ := hmake'
    rw [hhashC, Prod.mk.injEq] at hhash'
    exact ⟨rfl, hhash'.1.symm⟩
  rintro (differs | ⟨error, post, htrace⟩ | ⟨snapshot', stateHash', error, post, htrace⟩ |
    ⟨snapshot', expected, stateHash', differs, post, htrace⟩)
  · exact differs (congrArg (TwoPhoneMessage.hello TwoPhoneMessage.protocolVersion) hrom)
  · rw [← htrace] at hhostC
    obtain ⟨host, hpre, -⟩ := exec_append_eq_some.mp hhostC
    change ((C.hostStep (C.prepareForSynchronization hostC) (.madeSnapshot (.error error))).bind
      some) = some host at hpre
    obtain ⟨made', hmade, -⟩ := Option.bind_eq_some_iff.mp hpre
    rw [hostStep_madeSnapshot, hmake] at hmade
    exact absurd hmade nofun
  · obtain ⟨rfl, rfl⟩ := hoffer snapshot' stateHash' (by
      rw [← htrace, received_append]
      exact List.mem_append_left _ (List.mem_cons_of_mem _ (List.mem_singleton_self _)))
    rw [← htrace] at hhostD
    obtain ⟨host, hpre, -⟩ := exec_append_eq_some.mp hhostD
    change ((D.hostStep (D.prepareForSynchronization hostD)
      (.loadedSnapshot snapshot' (.error error))).bind some) = some host at hpre
    obtain ⟨loaded', hloaded, -⟩ := Option.bind_eq_some_iff.mp hpre
    rw [hostStep_loadedSnapshot, hload] at hloaded
    exact absurd hloaded nofun
  · obtain ⟨rfl, rfl⟩ := hoffer snapshot' expected (by
      rw [← htrace, received_append]
      exact List.mem_append_left _ (List.mem_cons_of_mem _ (List.mem_singleton_self _)))
    rw [← htrace] at hhostD
    obtain ⟨host, hpre, -⟩ := exec_append_eq_some.mp hhostD
    change ((D.hostStep (D.prepareForSynchronization hostD)
      (.loadedSnapshot snapshot' (.ok ()))).bind
      fun loaded => (D.hostStep loaded (.hashed stateHash')).bind some) = some host at hpre
    obtain ⟨loaded', hloaded, hpre⟩ := Option.bind_eq_some_iff.mp hpre
    obtain ⟨hashed', hhashed, -⟩ := Option.bind_eq_some_iff.mp hpre
    rw [hostStep_loadedSnapshot, hload, Prod.mk.injEq] at hloaded
    obtain ⟨-, rfl⟩ := hloaded
    rw [hostStep_hashed, hhashD, Prod.mk.injEq] at hhashed
    exact differs hhashed.1.symm

end

end DSEmu

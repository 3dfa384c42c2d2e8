import Mathlib.Algebra.Ring.Nat
import DSEmu.Library.Duplex
import DSEmu.Protocol.Message

/-!
# A two-phone session: its parameters and its events

`TwoPhoneSession` holds what `TwoPhoneSession.init` of `DSEmu/TwoPhone/TwoPhoneSession.swift` takes:
the configuration, the ROM hash, and the callbacks into the emulator. A callback reads and changes
the phone's own state `σ` (the emulated machine, the player's pending input), so it is a function on
`σ`; a callback that may throw returns an `Except`. The `status` texts, which no code reads back,
and the pacing of the main loop (`Date`, `Thread.sleep`) are left out.

A role's main thread is a machine over `SessionEvent`: one event for each call that can be observed
outside the thread, with its result. The result of a transport operation, of a clock reading, and of
`inbox.next()` is the environment's; the result of a callback is the callback's.
-/

namespace DSEmu

open Duplex (Operation)

/-- What `run()` can throw: a protocol error, an error of the transport or of its factory, an error
of a snapshot callback, `ControlError.cancelled`, or `InboxError.stopped`. -/
inductive SessionError where
  | protocolError (error : TwoPhoneProtocolError)
  | transport
  | snapshot
  | cancelled
  | inboxStopped
  deriving DecidableEq, Repr

/-- `TwoPhoneProtocolError.malformed`, as the session throws it. -/
def malformed (detail : String) : SessionError := .protocolError (.malformed detail)

/-- What `run()` returns. -/
structure TwoPhoneSessionOutcome where
  success : Bool
  framesCompleted : UInt64
  finalDigest : Option EmulatorDigest
  checkpointsCompared : ℕ
  snapshotBytes : ℕ
  detail : String
  deriving DecidableEq, Repr

/-- How `run()` ends when the process lives on. -/
abbrev SessionResult := Except SessionError TwoPhoneSessionOutcome

/-- The part of `TwoPhoneConfiguration` that a session reads. `TwoPhoneConfiguration.init` clamps
the interval to at least 1 and the window to 1 through 8. -/
structure TwoPhoneConfiguration where
  testFrameLimit : Option UInt64 := none
  checkpointInterval : UInt64 := 60
  frameWindow : ℕ := 4
  checkpointInterval_pos : 0 < checkpointInterval := by decide
  frameWindow_pos : 0 < frameWindow := by decide
  frameWindow_le : frameWindow ≤ 8 := by decide

/-- `shouldCreateDigest(frame:)`: the frames at which a digest is due. -/
def TwoPhoneConfiguration.shouldCreateDigest (c : TwoPhoneConfiguration) (frame : UInt64) : Bool :=
  frame % c.checkpointInterval == 0 || c.testFrameLimit == some frame

/-- The frames at which a digest is due, as numbers. -/
theorem TwoPhoneConfiguration.shouldCreateDigest_iff (c : TwoPhoneConfiguration) (f : UInt64) :
    c.shouldCreateDigest f = true ↔
      f.toNat % c.checkpointInterval.toNat = 0 ∨ c.testFrameLimit = some f := by
  unfold shouldCreateDigest
  rw [Bool.or_eq_true, beq_iff_eq, beq_iff_eq, ← UInt64.toNat_inj, UInt64.toNat_mod]
  rfl

/-- The parameters of a session on a phone with state `σ`. -/
structure TwoPhoneSession (σ : Type) where
  configuration : TwoPhoneConfiguration
  romSHA256 : Data
  makeSnapshot : σ → Except SessionError Data × σ
  loadSnapshot : Data → σ → Except SessionError Unit × σ
  inputProvider : UInt64 → σ → DSInputFrame × σ
  stepFrame : DSInputFrame → Bool → σ → Option EmulatorDigest × σ
  prepareForSynchronization : σ → σ := id
  snapshotStateHash : σ → UInt64 × σ := fun s => (0, s)
  resumeAfterSynchronization : σ → σ := id

namespace TwoPhoneSession

variable {σ : Type}

/-- `shouldCreateDigest(frame:)` of the session. -/
def shouldCreateDigest (S : TwoPhoneSession σ) (frame : UInt64) : Bool :=
  S.configuration.shouldCreateDigest frame

/-- The hello that both roles send. -/
def hello (S : TwoPhoneSession σ) : TwoPhoneMessage :=
  .hello TwoPhoneMessage.protocolVersion S.romSHA256

/-- `validateHello`. -/
def validateHello (S : TwoPhoneSession σ) : TwoPhoneMessage → Except SessionError Unit
  | .hello version peerROMHash =>
    if version ≠ TwoPhoneMessage.protocolVersion then
      .error (malformed
        s!"protocol version mismatch: local {TwoPhoneMessage.protocolVersion}, peer {version}")
    else if peerROMHash ≠ S.romSHA256 then
      .error (malformed "ROM SHA-256 mismatch")
    else .ok ()
  | _ => .error (malformed "expected peer hello")

/-- `validateHello` accepts exactly the hello that the session itself sends. -/
theorem validateHello_eq_ok (S : TwoPhoneSession σ) (m : TwoPhoneMessage) :
    S.validateHello m = .ok () ↔ m = S.hello := by
  cases m with
  | hello version peerROMHash =>
    simp only [validateHello, hello]
    split_ifs with hv hr
    · simp [hv]
    · simp [hr]
    · push Not at hv hr
      simp [hv, hr]
  | _ => simp [validateHello, hello]

end TwoPhoneSession

/-- A session whose `stepFrame` returns the same digest for every frame, asked or not, on the
default schedule. The runs that show a statement to have instances are runs of it. -/
def fixedDigestSession : TwoPhoneSession Unit where
  configuration := {}
  romSHA256 := []
  makeSnapshot := fun s => (.ok [], s)
  loadSnapshot := fun _ s => (.ok (), s)
  inputProvider := fun frame s => (⟨frame, 0, 0, 0, false⟩, s)
  stepFrame := fun _ _ s => (some ⟨0, 0, 0, 0⟩, s)

/-- A controller with a limit of one frame. -/
def oneFrameSession : TwoPhoneSession Unit :=
  { fixedDigestSession with configuration := { testFrameLimit := some 1 } }

/-- A controller with a checkpoint at every second frame. -/
def alternateSession : TwoPhoneSession Unit :=
  { fixedDigestSession with configuration := { checkpointInterval := 2 } }

/-- Swift's `+` on `UInt64`: `none` is the runtime trap on overflow. -/
def checkedAdd (a b : UInt64) : Option UInt64 :=
  if a.toNat + b.toNat < UInt64.size then some (a + b) else none

/-- Swift's `-` on `UInt64`: `none` is the runtime trap below zero. -/
def checkedSub (a b : UInt64) : Option UInt64 :=
  if b ≤ a then some (a - b) else none

/-- A checked sum that does not trap is the sum of the values. -/
theorem checkedAdd_eq_some {a b c : UInt64} (h : checkedAdd a b = some c) :
    c.toNat = a.toNat + b.toNat := by
  rw [checkedAdd, Option.ite_none_right_eq_some, Option.some.injEq] at h
  obtain ⟨hlt, rfl⟩ := h
  rw [UInt64.toNat_add]
  exact Nat.mod_eq_of_lt hlt

/-- A checked sum traps exactly when the sum of the values does not fit. -/
theorem checkedAdd_eq_none {a b : UInt64} :
    checkedAdd a b = none ↔ UInt64.size ≤ a.toNat + b.toNat := by
  rw [checkedAdd, ite_eq_right_iff]
  simp

/-- A call of a session's main thread that can be observed, with its result. -/
inductive SessionEvent where
  /-- `prepareForSynchronization()` -/
  | prepared
  /-- `makeControllerTransport()` or `makeDisplayTransport()` returned -/
  | connected
  /-- it threw -/
  | connectFailed
  /-- `activate` stored the transport -/
  | activated
  /-- `activate` found that the session was cancelled -/
  | activationRefused
  /-- `transport.send`, `transport.receive`, or `transport.close` -/
  | operation (operation : Operation TwoPhoneMessage)
  /-- `makeSnapshot()` -/
  | madeSnapshot (result : Except SessionError Data)
  /-- `loadSnapshot(snapshot)` -/
  | loadedSnapshot (snapshot : Data) (result : Except SessionError Unit)
  /-- `snapshotStateHash()` -/
  | hashed (stateHash : UInt64)
  /-- `resumeAfterSynchronization()` -/
  | resumed
  /-- `inbox.start()` -/
  | inboxStarted
  /-- `inbox.next()` returned -/
  | next (message : TwoPhoneMessage)
  /-- `inbox.next()` threw -/
  | nextFailed (error : SessionError)
  /-- `inputProvider(frame)` -/
  | provided (frame : UInt64) (input : DSInputFrame)
  /-- a reading of `DispatchTime.now().uptimeNanoseconds` -/
  | clockRead (uptime : UInt64)
  /-- `stepFrame(input, needsDigest)`, called for the role's frame `frame` -/
  | stepped (frame : UInt64) (input : DSInputFrame) (needsDigest : Bool)
      (digest : Option EmulatorDigest)
  /-- the lock section of `inbox.stop()` -/
  | inboxStopped
  /-- `deactivateTransport()` -/
  | deactivated
  deriving DecidableEq, Repr

namespace SessionEvent

variable {T : Type*}

/-- The transport operation of an event. -/
def operation? : SessionEvent → Option (Operation TwoPhoneMessage)
  | operation o => some o
  | _ => none

/-- An operation of the transport that failed. -/
def Fails : SessionEvent → Prop
  | operation .receiveFailed => True
  | operation (.sendFailed _) => True
  | _ => False

/-- A thread in a call that the event `e₀` reports: it goes on to `done`. -/
def on (e₀ : SessionEvent) (done : T) (e : SessionEvent) : Option T :=
  if e = e₀ then some done else none

/-- A thread in `transport.send(m)`: it goes on to `done`, or to `failed` if the send throws. -/
def onSend (m : TwoPhoneMessage) (done failed : T) : SessionEvent → Option T
  | operation (.sent m') => if m' = m then some done else none
  | operation (.sendFailed m') => if m' = m then some failed else none
  | _ => none

/-- A thread in `transport.receive()`: it goes on with the message, or to `failed`. -/
def onReceive (done : TwoPhoneMessage → T) (failed : T) : SessionEvent → Option T
  | operation (.received m) => some (done m)
  | operation .receiveFailed => some failed
  | _ => none

/-- A thread in `inbox.next()`: it goes on with the message, or with the error that it throws. -/
def onNext (done : TwoPhoneMessage → T) (failed : SessionError → T) : SessionEvent → Option T
  | next m => some (done m)
  | nextFailed error => some (failed error)
  | _ => none

/-- A call that ends in one way. -/
theorem on_eq_some {e₀ e : SessionEvent} {done t : T} :
    on e₀ done e = some t ↔ e = e₀ ∧ t = done := by
  rw [on, Option.ite_none_right_eq_some, Option.some.injEq, eq_comm (a := t)]

/-- A call that ends in two ways. -/
theorem on_or_on_eq_some {e₀ e₁ e : SessionEvent} {done₀ done₁ t : T} :
    (on e₀ done₀ e <|> on e₁ done₁ e) = some t →
      (e = e₀ ∧ t = done₀) ∨ (e = e₁ ∧ t = done₁) := by
  intro h
  rw [Option.orElse_eq_orElse, Option.orElse_eq_or] at h
  rcases Option.or_eq_some_iff.mp h with h | ⟨-, h⟩
  · exact .inl (on_eq_some.mp h)
  · exact .inr (on_eq_some.mp h)

/-- A send ends or fails. -/
theorem onSend_eq_some {m : TwoPhoneMessage} {done failed t : T} {e : SessionEvent} :
    onSend m done failed e = some t ↔
      (e = .operation (.sent m) ∧ t = done) ∨ (e = .operation (.sendFailed m) ∧ t = failed) := by
  cases e with
  | operation o =>
    cases o <;> simp only [onSend, Option.ite_none_right_eq_some, Option.some.injEq] <;> grind
  | _ => simp [onSend]

/-- A receive ends with a message or fails. -/
theorem onReceive_eq_some {done : TwoPhoneMessage → T} {failed t : T} {e : SessionEvent} :
    onReceive done failed e = some t ↔
      (∃ m, e = .operation (.received m) ∧ t = done m) ∨
        (e = .operation .receiveFailed ∧ t = failed) := by
  cases e with
  | operation o => cases o <;> simp only [onReceive, Option.some.injEq] <;> grind
  | _ => simp [onReceive]

/-- Taking from the inbox ends with a message or throws. -/
theorem onNext_eq_some {done : TwoPhoneMessage → T} {failed : SessionError → T} {t : T}
    {e : SessionEvent} :
    onNext done failed e = some t ↔
      (∃ m, e = .next m ∧ t = done m) ∨ (∃ err, e = .nextFailed err ∧ t = failed err) := by
  cases e <;> simp only [onNext, Option.some.injEq] <;> grind

end SessionEvent

end DSEmu

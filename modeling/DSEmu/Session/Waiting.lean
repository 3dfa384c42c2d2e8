import DSEmu.Session.Controller
import DSEmu.Session.Display

/-!
# What a thread waits for

A main thread does its own work without waiting: a callback returns, a clock is read, a transport is
closed. It waits in a send, until the transport has room, in a receive, until there is a message,
and the controller also in `inbox.next()`. `waitsFor` says which it is, by the call that the thread
is in, and `enabled` that the thread goes on from that call with every result that the call can
have.
-/

namespace DSEmu

open SessionEvent (on onSend onReceive onNext)

/-- What a call waits for. -/
inductive Waits where
  /-- the call returns by itself -/
  | nothing
  /-- room for a message on the transport -/
  | room
  /-- a message on the transport -/
  | message
  /-- a message in the inbox -/
  | inbox
  /-- the thread makes no more calls -/
  | never
  deriving DecidableEq, Repr

/-- A call that returns by itself, over a transport that can be had. -/
def SessionEvent.Unhindered : SessionEvent → Prop
  | .operation .closed => True
  | .operation _ => False
  | .next _ => False
  | .nextFailed _ => False
  | .connectFailed => False
  | .activationRefused => False
  | _ => True

/-- What the controller's main thread waits for. -/
def ControllerPhase.waitsFor : ControllerPhase → Waits
  | .receivingHello => .message
  | .receivingReady => .message
  | .sendingHello => .room
  | .sendingSnapshot _ => .room
  | .sendingStart => .room
  | .sendingInput _ => .room
  | .sendingFinish _ _ => .room
  | .awaitingAcknowledgement _ => .inbox
  | .awaitingFinish _ _ => .inbox
  | .ended _ => .never
  | .trapped => .never
  | _ => .nothing

/-- What the display's thread waits for. -/
def DisplayPhase.waitsFor : DisplayPhase → Waits
  | .receivingHello => .message
  | .receivingSnapshot => .message
  | .receivingStart => .message
  | .receiving => .message
  | .sendingHello => .room
  | .sendingFailure _ => .room
  | .sendingReady => .room
  | .acknowledging _ => .room
  | .sendingFinishAcknowledgement _ _ => .room
  | .ended _ => .never
  | .trapped => .never
  | _ => .nothing

section

variable {σ : Type} (S : TwoPhoneSession σ)

/-- The steps of a thread with the step function `step` that waits for `w`. -/
def Continues {T : Type} (step : SessionEvent → Option T) : Waits → Prop
  | .nothing => ∃ e t, step e = some t ∧ e.Unhindered
  | .room => ∃ m t u, step (.operation (.sent m)) = some t ∧
      step (.operation (.sendFailed m)) = some u
  | .message => (∀ m, ∃ t, step (.operation (.received m)) = some t) ∧
      ∃ t, step (.operation .receiveFailed) = some t
  | .inbox => (∀ m, ∃ t, step (.next m) = some t) ∧ ∀ error, ∃ t, step (.nextFailed error) = some t
  | .never => True

/-- A thread in a call with one result. -/
theorem continues_on {T : Type} {e₀ : SessionEvent} {done : T} (he : e₀.Unhindered) :
    Continues (on e₀ done) .nothing :=
  ⟨e₀, done, if_pos rfl, he⟩

/-- A thread in a call that can also be refused a transport. -/
theorem continues_on_or_on {T : Type} {e₀ e₁ : SessionEvent} {done failed : T}
    (he : e₀.Unhindered) : Continues (fun e => on e₀ done e <|> on e₁ failed e) .nothing := by
  refine ⟨e₀, done, ?_, he⟩
  show (on e₀ done e₀ <|> on e₁ failed e₀) = some done
  rw [on, if_pos rfl]
  rfl

/-- A thread in a send. -/
theorem continues_onSend {T : Type} {m : TwoPhoneMessage} {done failed : T} :
    Continues (onSend m done failed) .room :=
  ⟨m, done, failed, if_pos rfl, if_pos rfl⟩

/-- A thread in a receive. -/
theorem continues_onReceive {T : Type} {done : TwoPhoneMessage → T} {failed : T} :
    Continues (onReceive done failed) .message :=
  ⟨fun m => ⟨done m, rfl⟩, failed, rfl⟩

/-- The controller's main thread goes on from its call, as long as it can count its checkpoints. -/
theorem ControllerThread.enabled {s : ControllerThread σ} (hcounted : s.checkpoints < 2 ^ 63) :
    Continues (s.step S) s.phase.waitsFor := by
  have hcall : s.step S = s.call S := funext (step_eq_call S hcounted)
  rw [hcall]
  unfold ControllerThread.call
  cases hp : s.phase with
  | connecting => exact continues_on_or_on trivial
  | activating => exact continues_on_or_on trivial
  | receivingHello => exact continues_onReceive
  | receivingReady => exact continues_onReceive
  | sendingHello => exact continues_onSend
  | sendingSnapshot stateHash => exact continues_onSend
  | sendingStart => exact continues_onSend
  | sendingInput input => exact continues_onSend
  | sendingFinish success detail => exact continues_onSend
  | awaitingAcknowledgement loop => exact ⟨fun m => ⟨_, rfl⟩, fun error => ⟨_, rfl⟩⟩
  | awaitingFinish success detail => exact ⟨fun m => ⟨_, rfl⟩, fun error => ⟨_, rfl⟩⟩
  | ended result => trivial
  | trapped => trivial
  | _ => exact continues_on trivial

/-- So does the display's thread; a clock can always be read again. -/
theorem DisplayThread.enabled {s : DisplayThread σ} (hcounted : s.checkpoints < 2 ^ 63) :
    Continues (s.step S) s.phase.waitsFor := by
  have hclock : ∀ done : UInt64 → DisplayThread σ, Continues (s.onClock done) .nothing :=
    fun done => ⟨.clockRead s.uptime, done s.uptime, if_pos (UInt64.le_refl _), trivial⟩
  have hcall : s.step S = s.call S := funext (step_eq_call S hcounted)
  rw [hcall]
  unfold DisplayThread.call
  cases hp : s.phase with
  | connecting => exact continues_on_or_on trivial
  | activating => exact continues_on_or_on trivial
  | receivingHello => exact continues_onReceive
  | receivingSnapshot => exact continues_onReceive
  | receivingStart => exact continues_onReceive
  | receiving => exact continues_onReceive
  | sendingHello => exact continues_onSend
  | sendingFailure detail => exact continues_onSend
  | sendingReady => exact continues_onSend
  | acknowledging acknowledgement => exact continues_onSend
  | sendingFinishAcknowledgement success detail => exact continues_onSend
  | startingClock input => exact hclock _
  | stoppingClock input digest processingStarted => exact hclock _
  | ended result => trivial
  | trapped => trivial
  | _ => exact continues_on trivial

end

end DSEmu

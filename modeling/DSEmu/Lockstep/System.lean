import DSEmu.Session.DisplayTrace
import DSEmu.Session.InboxLaw

/-!
# The two phones over a link

A controller and a display joined by a link (`Library/Duplex.lean`): the controller holds its left
end and the display its right end. A step of the whole is a step of one of the three threads,
together with the transport operation that it performs on the link. Any interleaving is a run.

Over a link that may fail, connecting may fail too, and a session may be cancelled before it has
activated its transport; over a reliable link neither happens.

`LockstepLaws` collects what every run says about the two traces and about the messages between
them.
-/

namespace DSEmu

open Automaton (exec exec_invariant exec_project)
open Duplex (Link Medium Operation Side operationsOf sentMessages receivedMessages)

/-- The state of the two phones and of the link between them. -/
structure LockstepState (σ τ : Type) where
  controller : ControllerState σ
  display : DisplayThread τ
  link : Link TwoPhoneMessage := {}

/-- A step of one of the two phones. -/
inductive LockstepEvent where
  | controller (event : ControllerEvent)
  | display (event : SessionEvent)
  deriving DecidableEq, Repr

namespace LockstepEvent

/-- The step of the controller. -/
def controller? : LockstepEvent → Option ControllerEvent
  | controller e => some e
  | display _ => none

/-- The step of the display. -/
def display? : LockstepEvent → Option SessionEvent
  | controller _ => none
  | display e => some e

/-- The transport operation of a step, with the end that performs it. -/
def operation? : LockstepEvent → Option (Side × Operation TwoPhoneMessage)
  | controller e => e.operation?.map fun o => (.left, o)
  | display e => e.operation?.map fun o => (.right, o)

/-- A session that does not get its transport. -/
def Unconnected : LockstepEvent → Prop
  | controller (.main .connectFailed) => True
  | controller (.main .activationRefused) => True
  | display .connectFailed => True
  | display .activationRefused => True
  | _ => False

instance : DecidablePred Unconnected := fun e => by
  unfold Unconnected
  split <;> infer_instance

end LockstepEvent

namespace LockstepState

variable {σ τ : Type}

/-- The two phones before a session, in the states `hostC` and `hostD`. -/
def initial (hostC : σ) (hostD : τ) : LockstepState σ τ where
  controller := { thread := { host := hostC } }
  display := { host := hostD }

/-- What a step does to the link. -/
def linkStep (M : Medium) (s : LockstepState σ τ) (e : LockstepEvent) :
    Option (Link TwoPhoneMessage) :=
  match e.operation? with
  | some (x, o) => s.link.step M x o
  | none => if e.Unconnected ∧ M.faulty = false then none else some s.link

/-- A step performs its operation on the link, or leaves the link alone. -/
theorem linkStep_eq_some {M : Medium} {s : LockstepState σ τ} {e : LockstepEvent}
    {l : Link TwoPhoneMessage} (h : s.linkStep M e = some l) :
    match e.operation? with
    | some xo => s.link.act M xo = some l
    | none => l = s.link := by
  unfold linkStep at h
  cases ho : e.operation? with
  | none =>
    rw [ho] at h
    dsimp only at h
    split at h
    · exact absurd h nofun
    · exact (Option.some.inj h).symm
  | some xo =>
    rw [ho] at h
    exact h

/-- One step of a controller with the session `C` and a display with the session `D` over a link. -/
def step (M : Medium) (C : TwoPhoneSession σ) (D : TwoPhoneSession τ) (s : LockstepState σ τ)
    (e : LockstepEvent) : Option (LockstepState σ τ) := do
  let link ← s.linkStep M e
  match e with
  | .controller e => do
    let controller ← s.controller.step C e
    return { s with controller := controller, link := link }
  | .display e => do
    let display ← s.display.step D e
    return { s with display := display, link := link }

section Step

variable {M : Medium} {C : TwoPhoneSession σ} {D : TwoPhoneSession τ} {s t : LockstepState σ τ}

/-- A step of the controller leaves the display alone. -/
theorem step_controller {e : ControllerEvent} :
    s.step M C D (.controller e) = some t ↔
      s.linkStep M (.controller e) = some t.link ∧
        s.controller.step C e = some t.controller ∧ t.display = s.display := by
  obtain ⟨controller', display', link'⟩ := t
  simp only [step, Option.bind_eq_bind, Option.bind_eq_some_iff, Option.pure_def,
    Option.some.injEq, LockstepState.mk.injEq]
  grind

/-- A step of the display leaves the controller alone. -/
theorem step_display {e : SessionEvent} :
    s.step M C D (.display e) = some t ↔
      s.linkStep M (.display e) = some t.link ∧
        s.display.step D e = some t.display ∧ t.controller = s.controller := by
  obtain ⟨controller', display', link'⟩ := t
  simp only [step, Option.bind_eq_bind, Option.bind_eq_some_iff, Option.pure_def,
    Option.some.injEq, LockstepState.mk.injEq]
  grind

end Step

end LockstepState

/-- The steps of the controller in a run. -/
def controllerEvents (es : List LockstepEvent) : List ControllerEvent :=
  es.filterMap LockstepEvent.controller?

/-- The trace of the controller's main thread in a run. -/
def mainEvents (es : List LockstepEvent) : List SessionEvent := mainTrace (controllerEvents es)

/-- The trace of the display in a run. -/
def displayEvents (es : List LockstepEvent) : List SessionEvent :=
  es.filterMap LockstepEvent.display?

/-- The transport operations of a run. -/
def linkEvents (es : List LockstepEvent) : List (Side × Operation TwoPhoneMessage) :=
  es.filterMap LockstepEvent.operation?

/-- One interleaving of the handshake, up to the display's resume. -/
def lockstepHandshake {σ τ : Type} (C : TwoPhoneSession σ) (D : TwoPhoneSession τ) (snapshot : Data)
    (stateHash : UInt64) : List LockstepEvent :=
  let controller := (controllerHandshake C snapshot stateHash).map fun e =>
    LockstepEvent.controller (.main e)
  let display := (displayHandshake D snapshot stateHash).map LockstepEvent.display
  display.take 4 ++ controller.take 8 ++ (display.drop 4).take 5 ++ controller.drop 8 ++
    display.drop 9

section Events

variable (es : List LockstepEvent)

/-- The controller's main thread in two parts of a run. -/
theorem mainEvents_append (fs : List LockstepEvent) :
    mainEvents (es ++ fs) = mainEvents es ++ mainEvents fs := by
  unfold mainEvents controllerEvents mainTrace
  rw [List.filterMap_append, List.filterMap_append]

/-- The display in two parts of a run. -/
theorem displayEvents_append (fs : List LockstepEvent) :
    displayEvents (es ++ fs) = displayEvents es ++ displayEvents fs :=
  List.filterMap_append

/-- One more event of the controller. -/
theorem controllerEvents_controller (e : ControllerEvent) :
    controllerEvents (es ++ [.controller e]) = controllerEvents es ++ [e] := by
  simp [controllerEvents, LockstepEvent.controller?]

/-- An event of the display is none of the controller. -/
@[simp] theorem controllerEvents_display (e : SessionEvent) :
    controllerEvents (es ++ [.display e]) = controllerEvents es := by
  simp [controllerEvents, LockstepEvent.controller?]

/-- One more event of the main thread. -/
@[simp] theorem mainEvents_main (e : SessionEvent) :
    mainEvents (es ++ [.controller (.main e)]) = mainEvents es ++ [e] := by
  rw [mainEvents, controllerEvents_controller, mainTrace_main]
  rfl

/-- An event of the reader is none of the main thread. -/
@[simp] theorem mainEvents_reader (e : ReaderEvent) :
    mainEvents (es ++ [.controller (.reader e)]) = mainEvents es := by
  rw [mainEvents, controllerEvents_controller, mainTrace_reader]
  rfl

/-- An event of the display is none of the main thread. -/
@[simp] theorem mainEvents_display (e : SessionEvent) :
    mainEvents (es ++ [.display e]) = mainEvents es := by
  rw [mainEvents, controllerEvents_display]
  rfl

/-- An event of the controller is none of the display. -/
@[simp] theorem displayEvents_controller (e : ControllerEvent) :
    displayEvents (es ++ [.controller e]) = displayEvents es := by
  simp [displayEvents, LockstepEvent.display?]

/-- One more event of the display. -/
@[simp] theorem displayEvents_display (e : SessionEvent) :
    displayEvents (es ++ [.display e]) = displayEvents es ++ [e] := by
  simp [displayEvents, LockstepEvent.display?]

/-- The controller's operations on the link are those of its steps. -/
theorem operationsOf_left : operationsOf .left (linkEvents es) =
    controllerOperations (controllerEvents es) := by
  unfold operationsOf linkEvents controllerOperations controllerEvents
  rw [List.filterMap_filterMap, List.filterMap_filterMap]
  congr 1
  funext e
  cases e with
  | controller e =>
    cases ho : e.operation? <;> simp [LockstepEvent.operation?, LockstepEvent.controller?, ho]
  | display e =>
    cases ho : e.operation? <;> simp [LockstepEvent.operation?, LockstepEvent.controller?, ho]

/-- The display's operations on the link are those of its trace. -/
theorem operationsOf_right : operationsOf .right (linkEvents es) =
    operations (displayEvents es) := by
  unfold operationsOf linkEvents operations displayEvents
  rw [List.filterMap_filterMap, List.filterMap_filterMap]
  congr 1
  funext e
  cases e with
  | controller e =>
    cases ho : e.operation? <;> simp [LockstepEvent.operation?, LockstepEvent.display?, ho]
  | display e =>
    cases ho : e.operation? <;> simp [LockstepEvent.operation?, LockstepEvent.display?, ho]

end Events

/-- What every run says: the traces of the two main threads have their shapes, and each message is
where it has been delivered to. -/
structure LockstepLaws {σ τ : Type} (C : TwoPhoneSession σ) (D : TwoPhoneSession τ)
    (es : List LockstepEvent) (s : LockstepState σ τ) (dropped : List TwoPhoneMessage) : Prop where
  controller : ControllerTrace C (mainEvents es) s.controller.thread
  display : DisplayTrace D (displayEvents es) s.display
  inbox : InboxLaw (controllerEvents es) s.controller dropped
  toDisplay : sent (mainEvents es) = received (displayEvents es) ++ s.link.incoming .right
  toController : sent (displayEvents es) = received (mainEvents es) ++
    (consumed (mainEvents es) ++ s.controller.inbox.messages ++ s.controller.reader.held ++
      dropped) ++ s.link.incoming .left
  closedLeft : s.link.closed .left = true ↔ .operation .closed ∈ mainEvents es
  closedRight : s.link.closed .right = true ↔ .operation .closed ∈ displayEvents es

section

variable {σ τ : Type} {M : Medium} {C : TwoPhoneSession σ} {D : TwoPhoneSession τ}
  {s t : LockstepState σ τ} {es : List LockstepEvent}

/-- A run of the two phones is a run of the controller. -/
theorem exec_controller (h : exec (LockstepState.step M C D) s es = some t) :
    exec (ControllerState.step C) s.controller (controllerEvents es) = some t.controller := by
  refine exec_project LockstepState.controller LockstepEvent.controller? ?_ h
  intro s e t ht
  cases e with
  | controller e => exact (LockstepState.step_controller.mp ht).2.1
  | display e => exact (LockstepState.step_display.mp ht).2.2

/-- A run of the two phones is a run of the controller's main thread. -/
theorem exec_main (h : exec (LockstepState.step M C D) s es = some t) :
    exec (ControllerThread.step C) s.controller.thread (mainEvents es) =
      some t.controller.thread :=
  ControllerState.exec_thread (exec_controller h)

/-- A run of the two phones is a run of the display. -/
theorem exec_display (h : exec (LockstepState.step M C D) s es = some t) :
    exec (DisplayThread.step D) s.display (displayEvents es) = some t.display := by
  refine exec_project LockstepState.display LockstepEvent.display? ?_ h
  intro s e t ht
  cases e with
  | controller e => exact (LockstepState.step_controller.mp ht).2.2
  | display e => exact (LockstepState.step_display.mp ht).2.1

/-- What a step does to the link: its operation, or nothing. -/
theorem linkStep_of_step {e : LockstepEvent} (h : s.step M C D e = some t) :
    s.linkStep M e = some t.link := by
  cases e with
  | controller e => exact (LockstepState.step_controller.mp h).1
  | display e => exact (LockstepState.step_display.mp h).1

/-- A run of the two phones is a run of the link. -/
theorem exec_link (h : exec (LockstepState.step M C D) s es = some t) :
    exec (Link.act M) s.link (linkEvents es) = some t.link := by
  refine exec_project LockstepState.link LockstepEvent.operation? ?_ h
  intro s e t ht
  have hlink := LockstepState.linkStep_eq_some (linkStep_of_step ht)
  cases ho : e.operation? with
  | none =>
    rw [ho] at hlink
    exact hlink
  | some xo =>
    rw [ho] at hlink
    exact hlink

/-- The laws hold along every run, over any link. -/
theorem lockstepLaws_of_exec {hostC : σ} {hostD : τ}
    (h : exec (LockstepState.step M C D) (.initial hostC hostD) es = some s) :
    ∃ dropped, LockstepLaws C D es s dropped := by
  have hcontroller := exec_controller h
  obtain ⟨dropped, hinbox⟩ := inboxLaw_of_exec hcontroller
  have hlink := exec_link h
  obtain ⟨hright, hclosedRight⟩ := Duplex.delivered hlink .right
  obtain ⟨hleft, hclosedLeft⟩ := Duplex.delivered hlink .left
  refine ⟨dropped, controllerTrace_of_exec (ControllerState.exec_thread hcontroller),
    displayTrace_of_exec (exec_display h), hinbox, ?_, ?_, ?_, ?_⟩
  · change sentMessages (operationsOf .left _) = _ at hright
    rw [operationsOf_left, operationsOf_right, hinbox.sent] at hright
    exact hright
  · change sentMessages (operationsOf .right _) = _ at hleft
    rw [operationsOf_left, operationsOf_right, hinbox.received] at hleft
    exact hleft
  · rw [hclosedLeft, operationsOf_left, hinbox.closed]
    rfl
  · rw [hclosedRight, operationsOf_right]
    unfold operations
    rw [List.mem_filterMap]
    constructor
    · rintro ⟨e, he, ho⟩
      cases e <;> simp_all [SessionEvent.operation?]
    · exact fun hmem => ⟨_, hmem, rfl⟩

end

end DSEmu

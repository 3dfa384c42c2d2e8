import DSEmu.Emulator.WireCodec
import DSEmu.Library.FramedLink
import DSEmu.Lockstep.System
import DSEmu.Session.AfterFailure
import DSEmu.Transport.TCPSocketTransport

/-!
# The two phones over two byte streams

`LockstepState` joins the two phones by a link that carries messages. What `TCPSocketTransport`
gives them is a pair of byte streams: `send` writes a frame, which the socket takes in pieces
(`writeAll`), and `receive` reads four bytes and then as many as these say (`readExactly`).
`FramedState` joins the same two phones by a `ByteLink`. The peer may act between two pieces of a
frame, so may the reader thread of the sender, and any of the operations may fail, a send in the
middle of its frame.

`lockstep_of_framed` is the refinement: the phones cannot tell the difference. A run over the
streams is a run of `LockstepState` over a link that may fail, by the same steps of the threads, and
the bytes in the streams are the frames of the messages that are on their way there. What carries
the proof is that a session neither sends after a send that failed nor receives after a receive that
failed (`Orderly`), as it would then be out of step with the frames.
-/

namespace DSEmu

open Automaton (exec exec_invariant)
open Duplex (ByteLink ByteOperation Link Operation Side unreliable)
open Duplex.ByteLink (Carries)
open Function (update)

/-- The frame that `send` writes, where it does not throw before it writes anything. -/
def TCPSocketTransport.frame? (m : TwoPhoneMessage) : Option Data :=
  (Frame.frame SocketTransportError.invalidFrameLength m).toOption

open TCPSocketTransport (frame?)

/-- What is written for a message that the codec brings across is a frame of it. -/
theorem TCPSocketTransport.isFrame_of_hasFramedDigest {m : TwoPhoneMessage} (hm : m.HasFramedDigest)
    {bytes : Data} (h : frame? m = some bytes) : Frame.wire.IsFrame bytes m := by
  cases hframe : Frame.frame SocketTransportError.invalidFrameLength m with
  | error error =>
    rw [frame?, hframe] at h
    contradiction
  | ok written =>
    rw [frame?, hframe] at h
    have hbytes : written = bytes := Option.some.inj h
    obtain ⟨hfits, rfl⟩ := (Frame.frame_eq_ok _ m written).mp hframe
    have hsame : m.framed = m := m.framed_eq_iff.mpr hm
    have hwhole := Frame.isFrame_frameBytes hfits
    rw [hsame, hbytes] at hwhole
    exact hwhole

/-- The two phones, and the byte streams between them. -/
structure FramedState (σ τ : Type) where
  controller : ControllerState σ
  display : DisplayThread τ
  link : ByteLink UInt8 := {}

/-- A step of one of the phones, or some bytes of the frame that it is sending. -/
inductive FramedEvent where
  /-- `lost` is the number of bytes that a receive has read that fails -/
  | phone (event : LockstepEvent) (lost : ℕ)
  | wrote (x : Side) (m : TwoPhoneMessage) (piece : Data)
  deriving DecidableEq, Repr

/-- The step of a phone. -/
def FramedEvent.phone? : FramedEvent → Option LockstepEvent
  | .phone e _ => some e
  | .wrote _ _ _ => none

namespace FramedState

variable {σ τ : Type}

/-- The two phones before a session. -/
def initial (hostC : σ) (hostD : τ) : FramedState σ τ where
  controller := { thread := { host := hostC } }
  display := { host := hostD }

/-- What a step of a phone does to the streams. -/
def linkStep (s : FramedState σ τ) (e : LockstepEvent) (lost : ℕ) : Option (ByteLink UInt8) :=
  match e.operation? with
  | some (x, o) => s.link.step Frame.wire frame? x (.finished o lost)
  | none => some s.link

/-- One step of the two phones over the streams. -/
def step (C : TwoPhoneSession σ) (D : TwoPhoneSession τ) (s : FramedState σ τ) :
    FramedEvent → Option (FramedState σ τ)
  | .phone (.controller e) lost => do
    let link ← s.linkStep (.controller e) lost
    let controller ← s.controller.step C e
    return { s with controller := controller, link := link }
  | .phone (.display e) lost => do
    let link ← s.linkStep (.display e) lost
    let display ← s.display.step D e
    return { s with display := display, link := link }
  | .wrote .left m piece => do
    -- the main thread is in its `send`
    let _ ← s.controller.step C (.main (.operation (.sent m)))
    let link ← s.link.step Frame.wire frame? .left (.wrote m piece)
    return { s with link := link }
  | .wrote .right m piece => do
    let _ ← s.display.step D (.operation (.sent m))
    let link ← s.link.step Frame.wire frame? .right (.wrote m piece)
    return { s with link := link }

/-- The threads do nothing more where an operation of theirs has failed, and send what the codec
brings across. -/
structure Orderly (s : FramedState σ τ) : Prop where
  named : s.display.phase.Named
  reader : s.controller.ReaderAfterInbox
  sendLeft : s.link.sendFailed .left = true → s.controller.thread.phase.Over
  sendRight : s.link.sendFailed .right = true → s.display.phase.Over
  receiveLeft : s.link.receiveFailed .left = true → s.controller.Deaf
  receiveRight : s.link.receiveFailed .right = true → s.display.phase.Over

/-- At first both threads are orderly. -/
theorem orderly_initial (hostC : σ) (hostD : τ) : (initial hostC hostD).Orderly where
  named := trivial
  reader h := absurd rfl h
  sendLeft h := absurd h Bool.noConfusion
  sendRight h := absurd h Bool.noConfusion
  receiveLeft h := absurd h Bool.noConfusion
  receiveRight h := absurd h Bool.noConfusion

section Step

variable {C : TwoPhoneSession σ} {D : TwoPhoneSession τ} {s t : FramedState σ τ} {lost : ℕ}

/-- The inversion lemma for a step of the controller. -/
theorem step_controller {e : ControllerEvent} :
    s.step C D (.phone (.controller e) lost) = some t ↔
      s.linkStep (.controller e) lost = some t.link ∧
        s.controller.step C e = some t.controller ∧ t.display = s.display := by
  obtain ⟨controller', display', link'⟩ := t
  simp only [step, Option.bind_eq_bind, Option.bind_eq_some_iff, Option.pure_def,
    Option.some.injEq, FramedState.mk.injEq]
  grind

/-- The inversion lemma for a step of the display. -/
theorem step_display {e : SessionEvent} :
    s.step C D (.phone (.display e) lost) = some t ↔
      s.linkStep (.display e) lost = some t.link ∧
        s.display.step D e = some t.display ∧ t.controller = s.controller := by
  obtain ⟨controller', display', link'⟩ := t
  simp only [step, Option.bind_eq_bind, Option.bind_eq_some_iff, Option.pure_def,
    Option.some.injEq, FramedState.mk.injEq]
  grind

/-- A phone takes no step by a piece, which is of a message that it is about to have sent. -/
theorem step_wrote {x : Side} {m : TwoPhoneMessage} {piece : Data}
    (h : s.step C D (.wrote x m piece) = some t) :
    t.controller = s.controller ∧ t.display = s.display ∧
      s.link.step Frame.wire frame? x (.wrote m piece) = some t.link ∧
      match x with
      | .left => ∃ c, s.controller.step C (.main (.operation (.sent m))) = some c
      | .right => ∃ d, s.display.step D (.operation (.sent m)) = some d := by
  cases x <;>
  · simp only [step, Option.bind_eq_bind, Option.bind_eq_some_iff, Option.pure_def,
      Option.some.injEq] at h
    obtain ⟨u, hu, link, hlink, rfl⟩ := h
    exact ⟨rfl, rfl, hlink, u, hu⟩

/-- An end that has failed to send has failed before, or does so now. -/
theorem sendFailed_of_linkStep {e : LockstepEvent} {b : ByteLink UInt8}
    (h : s.linkStep e lost = some b) {y : Side} (hy : b.sendFailed y = true) :
    s.link.sendFailed y = true ∨ ∃ m, e.operation? = some (y, .sendFailed m) := by
  unfold linkStep at h
  cases ho : e.operation? with
  | none =>
    rw [ho] at h
    exact Or.inl (Option.some.inj h ▸ hy)
  | some xo =>
    obtain ⟨x, o⟩ := xo
    rw [ho] at h
    rcases Duplex.ByteLink.sendFailed_step h with hsame | ⟨m, k, hevent, hupdate⟩
    · exact Or.inl (hsame ▸ hy)
    · by_cases hyx : y = x
      · subst hyx
        have hfailed : o = .sendFailed m := (ByteOperation.finished.inj hevent).1
        exact Or.inr ⟨m, by rw [hfailed]⟩
      · have hsame : b.sendFailed y = s.link.sendFailed y := by
          rw [hupdate]
          exact Function.update_of_ne hyx _ _
        exact Or.inl (hsame ▸ hy)

/-- An end that has failed to receive has failed before, or does so now. -/
theorem receiveFailed_of_linkStep {e : LockstepEvent} {b : ByteLink UInt8}
    (h : s.linkStep e lost = some b) {y : Side} (hy : b.receiveFailed y = true) :
    s.link.receiveFailed y = true ∨ e.operation? = some (y, .receiveFailed) := by
  unfold linkStep at h
  cases ho : e.operation? with
  | none =>
    rw [ho] at h
    exact Or.inl (Option.some.inj h ▸ hy)
  | some xo =>
    obtain ⟨x, o⟩ := xo
    rw [ho] at h
    rcases Duplex.ByteLink.receiveFailed_step h with hsame | ⟨k, hevent, hupdate⟩
    · exact Or.inl (hsame ▸ hy)
    · by_cases hyx : y = x
      · subst hyx
        have hfailed : o = .receiveFailed := (ByteOperation.finished.inj hevent).1
        exact Or.inr (by rw [hfailed])
      · have hsame : b.receiveFailed y = s.link.receiveFailed y := by
          rw [hupdate]
          exact Function.update_of_ne hyx _ _
        exact Or.inl (hsame ▸ hy)

/-- The controller stays orderly. -/
theorem orderly_controller {e : ControllerEvent} (hs : s.Orderly)
    (h : s.step C D (.phone (.controller e) lost) = some t) : t.Orderly := by
  obtain ⟨hlink, hcontroller, hdisplay⟩ := step_controller.mp h
  -- the operation of a step of the controller is one of the left end
  have hleft : ∀ o, (LockstepEvent.controller e).operation? ≠ some (.right, o) := by
    intro o ho
    obtain ⟨o', -, hside⟩ := Option.map_eq_some_iff.mp ho
    exact absurd (Prod.mk.inj hside).1 (by decide)
  have hoperation : ∀ o, (LockstepEvent.controller e).operation? = some (.left, o) →
      e.operation? = some o := by
    intro o ho
    obtain ⟨o', ho', hside⟩ := Option.map_eq_some_iff.mp ho
    exact (Prod.mk.inj hside).2 ▸ ho'
  constructor
  case named => exact hdisplay ▸ hs.named
  case reader => exact ControllerState.readerAfterInbox_step hs.reader hcontroller
  case sendLeft =>
    intro hfailed
    rcases sendFailed_of_linkStep hlink hfailed with hbefore | ⟨m, ho⟩
    · exact ControllerState.over_step (hs.sendLeft hbefore) hcontroller
    · exact ControllerState.over_of_sendFailed hcontroller (hoperation _ ho)
  case sendRight =>
    intro hfailed
    rcases sendFailed_of_linkStep hlink hfailed with hbefore | ⟨m, ho⟩
    · exact hdisplay ▸ hs.sendRight hbefore
    · exact absurd ho (hleft _)
  case receiveLeft =>
    intro hfailed
    rcases receiveFailed_of_linkStep hlink hfailed with hbefore | ho
    · exact (ControllerState.deaf_step (hs.receiveLeft hbefore) hcontroller).1
    · exact ControllerState.deaf_of_receiveFailed hs.reader hcontroller (hoperation _ ho)
  case receiveRight =>
    intro hfailed
    rcases receiveFailed_of_linkStep hlink hfailed with hbefore | ho
    · exact hdisplay ▸ hs.receiveRight hbefore
    · exact absurd ho (hleft _)

/-- The display stays orderly. -/
theorem orderly_display {e : SessionEvent} (hD : D.NamesFrames) (hs : s.Orderly)
    (h : s.step C D (.phone (.display e) lost) = some t) : t.Orderly := by
  obtain ⟨hlink, hdisplay, hcontroller⟩ := step_display.mp h
  have hright : ∀ o, (LockstepEvent.display e).operation? ≠ some (.left, o) := by
    intro o ho
    obtain ⟨o', -, hside⟩ := Option.map_eq_some_iff.mp ho
    exact absurd (Prod.mk.inj hside).1 (by decide)
  have hoperation : ∀ o, (LockstepEvent.display e).operation? = some (.right, o) →
      e = .operation o := by
    intro o ho
    obtain ⟨o', ho', hside⟩ := Option.map_eq_some_iff.mp ho
    have ho : e.operation? = some o := (Prod.mk.inj hside).2 ▸ ho'
    cases e with
    | operation o'' => exact congrArg _ (Option.some.inj ho)
    | _ => contradiction
  constructor
  case named => exact DisplayThread.named_step hD hs.named hdisplay
  case reader => exact hcontroller ▸ hs.reader
  case sendLeft =>
    intro hfailed
    rcases sendFailed_of_linkStep hlink hfailed with hbefore | ⟨m, ho⟩
    · exact hcontroller ▸ hs.sendLeft hbefore
    · exact absurd ho (hright _)
  case sendRight =>
    intro hfailed
    rcases sendFailed_of_linkStep hlink hfailed with hbefore | ⟨m, ho⟩
    · exact (DisplayThread.over_step (hs.sendRight hbefore) hdisplay).1
    · obtain rfl := hoperation _ ho
      have hfails : (SessionEvent.operation (.sendFailed m)).Fails := trivial
      exact DisplayThread.over_of_fails hfails hdisplay
  case receiveLeft =>
    intro hfailed
    rcases receiveFailed_of_linkStep hlink hfailed with hbefore | ho
    · exact hcontroller ▸ hs.receiveLeft hbefore
    · exact absurd ho (hright _)
  case receiveRight =>
    intro hfailed
    rcases receiveFailed_of_linkStep hlink hfailed with hbefore | ho
    · exact (DisplayThread.over_step (hs.receiveRight hbefore) hdisplay).1
    · obtain rfl := hoperation _ ho
      have hfails : (SessionEvent.operation .receiveFailed).Fails := trivial
      exact DisplayThread.over_of_fails hfails hdisplay

/-- A piece of a frame is none of the failures. -/
theorem orderly_wrote {x : Side} {m : TwoPhoneMessage} {piece : Data} (hs : s.Orderly)
    (h : s.step C D (.wrote x m piece) = some t) : t.Orderly := by
  obtain ⟨hcontroller, hdisplay, hlink, -⟩ := step_wrote h
  have hsend : t.link.sendFailed = s.link.sendFailed :=
    (Duplex.ByteLink.sendFailed_step hlink).resolve_right fun ⟨_, _, h, _⟩ => by contradiction
  have hreceive : t.link.receiveFailed = s.link.receiveFailed :=
    (Duplex.ByteLink.receiveFailed_step hlink).resolve_right fun ⟨_, h, _⟩ => by contradiction
  constructor
  case named => exact hdisplay ▸ hs.named
  case reader => exact hcontroller ▸ hs.reader
  case sendLeft => exact fun h => hcontroller ▸ hs.sendLeft (hsend ▸ h)
  case sendRight => exact fun h => hdisplay ▸ hs.sendRight (hsend ▸ h)
  case receiveLeft => exact fun h => hcontroller ▸ hs.receiveLeft (hreceive ▸ h)
  case receiveRight => exact fun h => hdisplay ▸ hs.receiveRight (hreceive ▸ h)

/-- The step lemma. -/
theorem orderly_step {e : FramedEvent} (hD : D.NamesFrames) (hs : s.Orderly)
    (h : s.step C D e = some t) : t.Orderly := by
  cases e with
  | phone e lost =>
    cases e with
    | controller e => exact orderly_controller hs h
    | display e => exact orderly_display hD hs h
  | wrote x m piece => exact orderly_wrote hs h

end Step

section Refinement

variable {C : TwoPhoneSession σ} {D : TwoPhoneSession τ} {s t : FramedState σ τ}
  {l : Link TwoPhoneMessage} {lost : ℕ}

/-- What an orderly state sends is a frame behind whole frames, and what it receives is a frame. -/
theorem Orderly.permits {e : LockstepEvent} (hs : s.Orderly)
    (h : s.step C D (.phone e lost) = some t) :
    (∀ x m, e.operation? = some (x, .sent m) →
      s.link.sendFailed x = false ∧ m.HasFramedDigest) ∧
    ∀ x m, e.operation? = some (x, .received m) → s.link.receiveFailed x = false := by
  cases e with
  | controller e =>
    obtain ⟨-, hcontroller, -⟩ := step_controller.mp h
    constructor
    · intro x m ho
      obtain ⟨o, ho, hside⟩ := Option.map_eq_some_iff.mp ho
      obtain ⟨rfl, rfl⟩ := Prod.mk.inj hside
      obtain rfl := ControllerState.main_of_attempted hcontroller ho rfl
      have hthread := (ControllerState.step_main.mp hcontroller).1
      refine ⟨Bool.eq_false_iff.mpr fun hfailed => ?_,
        ControllerThread.hasFramedDigest_of_sent hthread⟩
      have hclosed := (ControllerThread.over_step (hs.sendLeft hfailed) hthread).2 _ rfl
      contradiction
    · intro x m ho
      obtain ⟨o, ho, hside⟩ := Option.map_eq_some_iff.mp ho
      obtain ⟨rfl, rfl⟩ := Prod.mk.inj hside
      refine Bool.eq_false_iff.mpr fun hfailed => ?_
      exact (ControllerState.deaf_step (hs.receiveLeft hfailed) hcontroller).2 m ho
  | display e =>
    obtain ⟨-, hdisplay, -⟩ := step_display.mp h
    have hoperation : ∀ x o, (LockstepEvent.display e).operation? = some (x, o) →
        x = .right ∧ e = .operation o := by
      intro x o ho
      obtain ⟨o', ho', hside⟩ := Option.map_eq_some_iff.mp ho
      obtain ⟨rfl, rfl⟩ := Prod.mk.inj hside
      cases e with
      | operation o'' => exact ⟨rfl, congrArg _ (Option.some.inj ho')⟩
      | _ => contradiction
    constructor
    · intro x m ho
      obtain ⟨rfl, rfl⟩ := hoperation x _ ho
      refine ⟨Bool.eq_false_iff.mpr fun hfailed => ?_,
        DisplayThread.hasFramedDigest_of_sent hs.named hdisplay⟩
      have hclosed := (DisplayThread.over_step (hs.sendRight hfailed) hdisplay).2 _ rfl
      contradiction
    · intro x m ho
      obtain ⟨rfl, rfl⟩ := hoperation x _ ho
      refine Bool.eq_false_iff.mpr fun hfailed => ?_
      have hclosed := (DisplayThread.over_step (hs.receiveRight hfailed) hdisplay).2 _ rfl
      contradiction

/-- The streams take the operation of a step as the link does. -/
theorem carries_linkStep {e : LockstepEvent} (hs : s.Orderly)
    (hlink : Carries Frame.wire frame? s.link l) (h : s.step C D (.phone e lost) = some t)
    (hstep : s.linkStep e lost = some t.link) :
    ∃ l', (⟨s.controller, s.display, l⟩ : LockstepState σ τ).linkStep unreliable e = some l' ∧
      Carries Frame.wire frame? t.link l' := by
  obtain ⟨hsend, hreceive⟩ := hs.permits h
  unfold linkStep at hstep
  unfold LockstepState.linkStep
  cases ho : e.operation? with
  | none =>
    rw [ho] at hstep
    refine ⟨l, if_neg fun hfaulty => ?_, Option.some.inj hstep ▸ hlink⟩
    exact absurd (Duplex.faulty_unreliable.symm.trans hfaulty.2) (by decide)
  | some xo =>
    obtain ⟨x, o⟩ := xo
    rw [ho] at hstep
    refine hlink.finished (fun m hm => ?_) (fun m hm => ?_) hstep
    · subst hm
      obtain ⟨hopen, hdigest⟩ := hsend x m ho
      exact ⟨hopen, fun _ => TCPSocketTransport.isFrame_of_hasFramedDigest hdigest⟩
    · subst hm
      exact hreceive x m ho

/-- A step over the streams is the same step over the link, or none. -/
theorem refine_step {e : FramedEvent} (hs : s.Orderly)
    (hlink : Carries Frame.wire frame? s.link l) (h : s.step C D e = some t) :
    ∃ l', exec (LockstepState.step unreliable C D) ⟨s.controller, s.display, l⟩ e.phone?.toList =
        some ⟨t.controller, t.display, l'⟩ ∧ Carries Frame.wire frame? t.link l' := by
  cases e with
  | phone e lost =>
    cases e with
    | controller e =>
      obtain ⟨hstep, hcontroller, hdisplay⟩ := step_controller.mp h
      obtain ⟨l', hl', hcarries⟩ := carries_linkStep hs hlink h hstep
      refine ⟨l', ?_, hcarries⟩
      have hlockstep : LockstepState.step unreliable C D ⟨s.controller, s.display, l⟩
        (.controller e) =
          some ⟨t.controller, t.display, l'⟩ :=
        LockstepState.step_controller.mpr ⟨hl', hcontroller, hdisplay⟩
      exact Option.bind_eq_some_iff.mpr ⟨_, hlockstep, rfl⟩
    | display e =>
      obtain ⟨hstep, hdisplay, hcontroller⟩ := step_display.mp h
      obtain ⟨l', hl', hcarries⟩ := carries_linkStep hs hlink h hstep
      refine ⟨l', ?_, hcarries⟩
      have hlockstep : LockstepState.step unreliable C D ⟨s.controller, s.display, l⟩ (.display e) =
          some ⟨t.controller, t.display, l'⟩ :=
        LockstepState.step_display.mpr ⟨hl', hdisplay, hcontroller⟩
      exact Option.bind_eq_some_iff.mpr ⟨_, hlockstep, rfl⟩
  | wrote x m piece =>
    -- the phone could also have sent all of the message
    obtain ⟨hcontroller, hdisplay, hstep, hsends⟩ := step_wrote h
    have hpermits : s.link.sendFailed x = false ∧ m.HasFramedDigest := by
      cases x with
      | left =>
        obtain ⟨c, hc⟩ := hsends
        have hthread := (ControllerState.step_main.mp hc).1
        refine ⟨Bool.eq_false_iff.mpr fun hfailed => ?_,
          ControllerThread.hasFramedDigest_of_sent hthread⟩
        have hclosed := (ControllerThread.over_step (hs.sendLeft hfailed) hthread).2 _ rfl
        contradiction
      | right =>
        obtain ⟨d, hd⟩ := hsends
        refine ⟨Bool.eq_false_iff.mpr fun hfailed => ?_,
          DisplayThread.hasFramedDigest_of_sent hs.named hd⟩
        have hclosed := (DisplayThread.over_step (hs.sendRight hfailed) hd).2 _ rfl
        contradiction
    refine ⟨l, ?_, ?_⟩
    · rw [hcontroller, hdisplay]
      rfl
    · exact hlink.wrote hpermits.1
        (fun _ => TCPSocketTransport.isFrame_of_hasFramedDigest hpermits.2) hstep

end Refinement

end FramedState

/-- The steps of the phones in a run over the streams. -/
def phoneEvents (es : List FramedEvent) : List LockstepEvent := es.filterMap FramedEvent.phone?

/-- Every run over the streams is a run over a link that may fail, and the bytes in the streams are
the frames of the messages on the link. -/
theorem lockstep_of_framed {σ τ : Type} {C : TwoPhoneSession σ} {D : TwoPhoneSession τ}
    (hD : D.NamesFrames) {hostC : σ} {hostD : τ} {es : List FramedEvent} {s : FramedState σ τ}
    (h : exec (FramedState.step C D) (.initial hostC hostD) es = some s) :
    ∃ l, exec (LockstepState.step unreliable C D) (.initial hostC hostD) (phoneEvents es) =
        some ⟨s.controller, s.display, l⟩ ∧
      Carries Frame.wire frame? s.link l := by
  -- the threads are orderly in every state of the run
  refine (exec_invariant (I := fun es s => s.Orderly ∧
    ∃ l, exec (LockstepState.step unreliable C D) (.initial hostC hostD) (phoneEvents es) =
        some ⟨s.controller, s.display, l⟩ ∧
      Carries Frame.wire frame? s.link l) ?_ ?_ h).2
  · exact ⟨FramedState.orderly_initial hostC hostD, {}, rfl, Duplex.ByteLink.carries_initial⟩
  · intro es s e t hinvariant hstep
    obtain ⟨hs, l, hexec, hcarries⟩ := hinvariant
    obtain ⟨l', hrefined, hcarries'⟩ := FramedState.refine_step hs hcarries hstep
    refine ⟨FramedState.orderly_step hD hs hstep, l', ?_, hcarries'⟩
    have hevents : phoneEvents (es ++ [e]) = phoneEvents es ++ e.phone?.toList := by
      rw [phoneEvents, List.filterMap_append]
      cases e <;> rfl
    rw [hevents]
    exact Automaton.exec_append_eq_some.mpr ⟨_, hexec, hrefined⟩

/-- The digests of the emulator name the frames that they are of. -/
theorem EmulatorCore.namesFrames {ν ι : Type} (melonDS : MelonDS ν) (core : EmulatorCore ι) :
    (core.twoPhoneSession melonDS).NamesFrames :=
  fun _ _ _ _ h => step_digest_frame h

/-- A display with a ROM, whose digests name their frames. -/
def namedDigestSession : TwoPhoneSession Unit :=
  { fixedDigestSession with
    romSHA256 := List.replicate 32 7
    stepFrame := fun input _ s => (some ⟨input.frame, 0, 0, 0⟩, s) }

/-- The controller takes its steps while the display's hello arrives in three pieces, and fails to
send its own behind nine bytes of it. -/
def brokenHello : List FramedEvent :=
  let hello := namedDigestSession.hello
  let bytes := Frame.frameBytes hello
  let main e := FramedEvent.phone (.controller (.main e)) 0
  let display e := FramedEvent.phone (.display e) 0
  [display .prepared, display .connected, display .activated, .wrote .right hello (bytes.take 3),
    main .prepared, main .connected, .wrote .right hello ((bytes.drop 3).take 20), main .activated,
    display (.operation (.sent hello)), main (.operation (.received hello)),
    .wrote .left hello (bytes.take 9), main (.operation (.sendFailed hello)),
    main .deactivated, main (.operation .closed)]

/-- `lockstep_of_framed` where the controller gives up in the middle of a frame. -/
theorem lockstep_of_framed_brokenHello :
    ∃ (s : FramedState Unit Unit) (l : Link TwoPhoneMessage),
      exec (LockstepState.step unreliable namedDigestSession namedDigestSession)
        (.initial () ()) (phoneEvents brokenHello) =
          some ⟨s.controller, s.display, l⟩ ∧
      Carries Frame.wire frame? s.link l ∧
      s.link.incoming .right = (Frame.frameBytes namedDigestSession.hello).take 9 := by
  have hrun : (exec (FramedState.step namedDigestSession namedDigestSession) (.initial () ())
      brokenHello).map (fun s => s.link.incoming .right) =
        some ((Frame.frameBytes namedDigestSession.hello).take 9) := by
    decide +kernel
  obtain ⟨s, hs, hbytes⟩ := Option.map_eq_some_iff.mp hrun
  have hnames : namedDigestSession.NamesFrames := fun _ _ _ _ h => by cases h; rfl
  obtain ⟨l, hl, hcarries⟩ := lockstep_of_framed hnames hs
  exact ⟨s, l, hl, hcarries, hbytes⟩

end DSEmu

import DSEmu.Protocol.RoundTrip
import DSEmu.Session.Display
import DSEmu.Session.Inbox

/-!
# What a session still does once an operation has failed

A send or a receive that fails is the end of a session: its thread throws, and on its way out it
does nothing with the transport but close it (`ControllerPhase.Over`, `DisplayPhase.Over`). The
reader thread of the controller may be the one that fails; then the main thread does not receive
either, as it takes messages from the inbox only (`ControllerState.Deaf`).

An acknowledgement has a digest that names the frame which it acknowledges, if the digests of
`stepFrame` name the frame that was stepped (`DisplayPhase.Named`).
-/

namespace DSEmu

open SessionEvent (on onSend onReceive onNext)

/-- `stepFrame` returns digests of the frame that it has stepped, as `EmulatorCore.step` does. -/
def TwoPhoneSession.NamesFrames {σ : Type} (S : TwoPhoneSession σ) : Prop :=
  ∀ input needsDigest host d, (S.stepFrame input needsDigest host).1 = some d →
    d.frame = input.frame

/-! ### The display -/

namespace DisplayPhase

/-- On the way out of `run()`. -/
def Over : DisplayPhase → Prop
  | deactivating _ => True
  | closing _ => True
  | ended _ => True
  | _ => False

/-- A digest that is going to be sent names the frame. -/
def Named : DisplayPhase → Prop
  | stoppingClock input digest _ => ∀ d, digest = some d → d.frame = input.frame
  | acknowledging a => a.HasFramedDigest
  | _ => True

end DisplayPhase

namespace DisplayThread

variable {τ : Type} {D : TwoPhoneSession τ} {s t : DisplayThread τ} {e : SessionEvent}

/-- A display whose transport fails receives nothing more. -/
theorem over_of_fails (he : e.Fails) (h : s.step D e = some t) : t.phase.Over := by
  obtain ⟨error, rfl⟩ := step_fails he h
  exact trivial

/-- On its way out the thread only closes the transport. -/
theorem over_step (hover : s.phase.Over) (h : s.step D e = some t) :
    t.phase.Over ∧ ∀ o, e = .operation o → o = .closed := by
  replace h := call_of_step h
  unfold call at h
  cases hp : s.phase <;> rw [hp] at hover h <;> try exact absurd hover id
  case deactivating result =>
    obtain ⟨rfl, rfl⟩ := SessionEvent.on_eq_some.mp h
    exact ⟨trivial, fun o ho => by contradiction⟩
  case closing result =>
    obtain ⟨rfl, rfl⟩ := SessionEvent.on_eq_some.mp h
    exact ⟨trivial, fun o ho => (SessionEvent.operation.inj ho).symm⟩
  case ended result => contradiction

/-- The frame that the display acknowledges is that of its input. -/
theorem named_handle (m : TwoPhoneMessage) : (s.handle m).phase.Named := by
  rcases s.handle_cases m with ⟨_, _, _, h⟩ | ⟨_, _, _, h⟩ | ⟨_, _, h⟩ | ⟨_, _, _, h⟩ <;> rw [h] <;>
    exact trivial

/-- The step lemma. -/
theorem named_step (hD : D.NamesFrames) (hnamed : s.phase.Named) (h : s.step D e = some t) :
    t.phase.Named := by
  replace h := call_of_step h
  unfold call at h
  cases hp : s.phase <;> rw [hp] at hnamed h
  case steppingFrame input started =>
    -- the digest is that of `stepFrame`
    obtain ⟨-, rfl⟩ := SessionEvent.on_eq_some.mp h
    exact fun d hd => hD _ _ _ d hd
  case stoppingClock input digest started =>
    obtain ⟨u, -, -, rfl⟩ := onClock_eq_some.mp h
    dsimp only [measured]
    split
    · exact trivial
    · exact hnamed
  case receiving =>
    rcases SessionEvent.onReceive_eq_some.mp h with ⟨m, -, rfl⟩ | ⟨-, rfl⟩
    · exact named_handle m
    · exact trivial
  case receivingHello =>
    rcases SessionEvent.onReceive_eq_some.mp h with ⟨m, -, rfl⟩ | ⟨-, rfl⟩
    · split <;> exact trivial
    · exact trivial
  case receivingSnapshot =>
    rcases SessionEvent.onReceive_eq_some.mp h with ⟨m, -, rfl⟩ | ⟨-, rfl⟩
    · split <;> exact trivial
    · exact trivial
  case loadingSnapshot expected =>
    obtain ⟨-, rfl⟩ := SessionEvent.on_eq_some.mp h
    split <;> exact trivial
  case hashingState expected =>
    obtain ⟨-, rfl⟩ := SessionEvent.on_eq_some.mp h
    split <;> exact trivial
  case receivingStart =>
    rcases SessionEvent.onReceive_eq_some.mp h with ⟨m, -, rfl⟩ | ⟨-, rfl⟩
    · split <;> exact trivial
    · exact trivial
  case startingClock input =>
    obtain ⟨u, -, -, rfl⟩ := onClock_eq_some.mp h
    exact trivial
  case connecting =>
    rcases SessionEvent.on_or_on_eq_some h with ⟨-, rfl⟩ | ⟨-, rfl⟩ <;> exact trivial
  case activating =>
    rcases SessionEvent.on_or_on_eq_some h with ⟨-, rfl⟩ | ⟨-, rfl⟩ <;> exact trivial
  case sendingHello =>
    rcases SessionEvent.onSend_eq_some.mp h with ⟨-, rfl⟩ | ⟨-, rfl⟩ <;> exact trivial
  case sendingFailure detail =>
    rcases SessionEvent.onSend_eq_some.mp h with ⟨-, rfl⟩ | ⟨-, rfl⟩ <;> exact trivial
  case sendingReady =>
    rcases SessionEvent.onSend_eq_some.mp h with ⟨-, rfl⟩ | ⟨-, rfl⟩ <;> exact trivial
  case acknowledging a =>
    rcases SessionEvent.onSend_eq_some.mp h with ⟨-, rfl⟩ | ⟨-, rfl⟩ <;> exact trivial
  case sendingFinishAcknowledgement success detail =>
    rcases SessionEvent.onSend_eq_some.mp h with ⟨-, rfl⟩ | ⟨-, rfl⟩ <;> exact trivial
  case ended => contradiction
  case trapped => contradiction
  all_goals
    obtain ⟨-, rfl⟩ := SessionEvent.on_eq_some.mp h
    exact trivial

/-- What the display sends comes out of the codec as it is. -/
theorem hasFramedDigest_of_sent (hnamed : s.phase.Named) {m : TwoPhoneMessage}
    (h : s.step D (.operation (.sent m)) = some t) : m.HasFramedDigest := by
  replace h := call_of_step h
  unfold call at h
  cases hp : s.phase <;> rw [hp] at hnamed h
  case acknowledging a =>
    rcases SessionEvent.onSend_eq_some.mp h with ⟨hm, -⟩ | ⟨hm, -⟩
    · obtain rfl := Duplex.Operation.sent.inj (SessionEvent.operation.inj hm)
      intro a' ha'
      obtain rfl := TwoPhoneMessage.acknowledgement.inj ha'
      exact hnamed
    · exact absurd (SessionEvent.operation.inj hm) (by simp)
  all_goals
    intro a ha
    subst ha
    simp_all [on, onSend, onReceive, onClock, TwoPhoneSession.hello]

end DisplayThread

/-! ### The controller -/

namespace ControllerPhase

/-- On the way out of `run()`. -/
def Over : ControllerPhase → Prop
  | stoppingInbox _ => True
  | closingInbox _ => True
  | deactivating _ => True
  | closing _ => True
  | ended _ => True
  | _ => False

/-- The main thread does not receive from the transport any more, nor start the inbox. -/
def PastInbox : ControllerPhase → Prop
  | awaitingAcknowledgement _ => True
  | providingInput => True
  | sendingInput _ => True
  | steppingFrame _ => True
  | sendingFinish _ _ => True
  | awaitingFinish _ _ => True
  | trapped => True
  | p => p.Over

/-- A controller that is over is past its inbox. -/
theorem Over.pastInbox {p : ControllerPhase} (h : p.Over) : p.PastInbox := by
  cases p <;> first | exact trivial | exact absurd h id

end ControllerPhase

namespace ControllerThread

variable {σ : Type} {C : TwoPhoneSession σ} {s t : ControllerThread σ} {e : SessionEvent}

/-- A controller whose transport fails sends nothing more. -/
theorem over_of_fails (he : e.Fails) (h : s.step C e = some t) : t.phase.Over := by
  rcases step_fails he h with ⟨error, rfl⟩ | ⟨input, hp⟩ | ⟨success, detail, hp⟩
  · exact trivial
  all_goals
    replace h := call_of_step h
    unfold call at h
    rw [hp] at h
    rcases SessionEvent.onSend_eq_some.mp h with ⟨rfl, -⟩ | ⟨-, rfl⟩
    · exact absurd he id
    · exact trivial

/-- On its way out the thread only closes the transport. -/
theorem over_step (hover : s.phase.Over) (h : s.step C e = some t) :
    t.phase.Over ∧ ∀ o, e = .operation o → o = .closed := by
  replace h := call_of_step h
  unfold call at h
  cases hp : s.phase <;> rw [hp] at hover h <;> try exact absurd hover id
  case ended result => contradiction
  all_goals
    obtain ⟨rfl, rfl⟩ := SessionEvent.on_eq_some.mp h
    refine ⟨trivial, fun o ho => ?_⟩
    simp_all

/-- Waiting for an acknowledgement, the inbox has been started. -/
theorem pastInbox_awaitAcknowledgement (loop : AcknowledgementLoop) :
    (s.awaitAcknowledgement loop).phase.PastInbox := by
  unfold awaitAcknowledgement
  split <;> exact trivial

/-- Filling the window, the inbox has been started. -/
theorem pastInbox_fillWindow : (s.fillWindow C).phase.PastInbox := by
  unfold fillWindow
  split
  · exact pastInbox_awaitAcknowledgement .window
  · unfold beginFrame
    split <;> exact trivial

/-- In the main loop, the inbox has been started. -/
theorem pastInbox_mainLoop : (s.mainLoop C).phase.PastInbox := by
  unfold mainLoop
  split
  · exact pastInbox_fillWindow
  · exact trivial

/-- Draining for a checkpoint, the inbox has been started. -/
theorem pastInbox_drainCheckpoint : (s.drainCheckpoint C).phase.PastInbox := by
  unfold drainCheckpoint
  split
  · exact pastInbox_mainLoop
  · exact pastInbox_awaitAcknowledgement .checkpoint

/-- After an acknowledgement, the inbox has been started. -/
theorem pastInbox_acknowledged (loop : AcknowledgementLoop) (m : TwoPhoneMessage) :
    (s.acknowledged C loop m).phase.PastInbox := by
  unfold acknowledged
  split
  · cases loop with
    | window => exact pastInbox_fillWindow
    | checkpoint => exact pastInbox_drainCheckpoint
  all_goals exact trivial

/-- The main thread stays past the inbox, and receives nothing there. -/
theorem pastInbox_step (hpast : s.phase.PastInbox) (h : s.step C e = some t) :
    t.phase.PastInbox ∧ (∀ m, e ≠ .operation (.received m)) ∧ e ≠ .operation .receiveFailed ∧
      e ≠ .inboxStarted := by
  have hover : s.phase.Over → t.phase.PastInbox ∧ (∀ m, e ≠ .operation (.received m)) ∧
      e ≠ .operation .receiveFailed ∧ e ≠ .inboxStarted := by
    intro hover
    obtain ⟨hafter, hclosed⟩ := over_step hover h
    refine ⟨hafter.pastInbox, fun m hm => ?_, fun hm => ?_, fun hm => ?_⟩
    · exact absurd (hclosed _ hm) (by simp)
    · exact absurd (hclosed _ hm) (by simp)
    · subst hm
      replace h := call_of_step h
      unfold call at h
      cases hp : s.phase <;> rw [hp] at hover h <;> simp_all [on, ControllerPhase.Over]
  replace h := call_of_step h
  unfold call at h
  cases hp : s.phase <;> rw [hp] at hpast h hover <;>
    first | exact absurd hpast id | exact hover trivial | skip
  case awaitingAcknowledgement loop =>
    rcases SessionEvent.onNext_eq_some.mp h with ⟨m, rfl, rfl⟩ | ⟨error, rfl, rfl⟩
    · exact ⟨pastInbox_acknowledged loop m, by simp⟩
    · exact ⟨trivial, by simp⟩
  case providingInput =>
    obtain ⟨rfl, rfl⟩ := SessionEvent.on_eq_some.mp h
    exact ⟨trivial, by simp⟩
  case sendingInput input =>
    rcases SessionEvent.onSend_eq_some.mp h with ⟨rfl, rfl⟩ | ⟨rfl, rfl⟩ <;>
      exact ⟨trivial, by simp⟩
  case steppingFrame input =>
    obtain ⟨rfl, rfl⟩ := SessionEvent.on_eq_some.mp h
    refine ⟨?_, by simp⟩
    split
    · exact pastInbox_drainCheckpoint
    · exact pastInbox_mainLoop
  case sendingFinish success detail =>
    rcases SessionEvent.onSend_eq_some.mp h with ⟨rfl, rfl⟩ | ⟨rfl, rfl⟩ <;>
      exact ⟨trivial, by simp⟩
  case awaitingFinish success detail =>
    rcases SessionEvent.onNext_eq_some.mp h with ⟨m, rfl, rfl⟩ | ⟨error, rfl, rfl⟩
    · unfold finished
      split <;> exact ⟨trivial, by simp⟩
    · exact ⟨trivial, by simp⟩
  case trapped => contradiction

/-- Starting the inbox is the last that the main thread does before it. -/
theorem pastInbox_of_inboxStarted (h : s.step C .inboxStarted = some t) : t.phase.PastInbox := by
  replace h := call_of_step h
  unfold call at h
  cases hp : s.phase <;> rw [hp] at h
  case startingInbox =>
    obtain ⟨-, rfl⟩ := SessionEvent.on_eq_some.mp h
    exact pastInbox_mainLoop
  all_goals simp_all [on, onSend, onReceive, onNext]

/-- Where the main thread receives in vain, it leaves without the inbox. -/
theorem over_of_receiveFailed (h : s.step C (.operation .receiveFailed) = some t) :
    ¬ s.phase.PastInbox ∧ ∃ error, t.phase = .deactivating error := by
  have hpast : ¬ s.phase.PastInbox := fun hpast => (pastInbox_step hpast h).2.2.1 rfl
  refine ⟨hpast, ?_⟩
  have hfails : (SessionEvent.operation .receiveFailed).Fails := trivial
  rcases step_fails hfails h with ⟨error, rfl⟩ | ⟨input, hp⟩ | ⟨success, detail, hp⟩
  · exact ⟨_, rfl⟩
  · exact absurd (hp ▸ trivial) hpast
  · exact absurd (hp ▸ trivial) hpast

/-- The controller sends no acknowledgements. -/
theorem hasFramedDigest_of_sent {m : TwoPhoneMessage}
    (h : s.step C (.operation (.sent m)) = some t) : m.HasFramedDigest := by
  intro a ha
  subst ha
  replace h := call_of_step h
  unfold call at h
  cases hp : s.phase <;> rw [hp] at h <;>
    simp_all [on, onSend, onReceive, onNext, TwoPhoneSession.hello]

end ControllerThread

namespace ControllerState

variable {σ : Type} {C : TwoPhoneSession σ} {s t : ControllerState σ} {e : ControllerEvent}

/-- The reader thread runs only once the main thread has started the inbox. -/
def ReaderAfterInbox (s : ControllerState σ) : Prop := s.reader ≠ .idle → s.thread.phase.PastInbox

/-- Neither of the threads receives any more. -/
structure Deaf (s : ControllerState σ) : Prop where
  main : s.reader = .idle → ∃ result, s.thread.phase = .deactivating result ∨
    s.thread.phase = .closing result ∨ s.thread.phase = .ended result
  reader : s.reader = .idle ∨ s.reader = .failing ∨ s.reader = .exited
  pastInbox : s.thread.phase.PastInbox

/-- The reader runs only once the inbox has been started. -/
theorem readerAfterInbox_step (hs : s.ReaderAfterInbox) (h : s.step C e = some t) :
    t.ReaderAfterInbox := by
  intro hreader
  cases e with
  | main e =>
    obtain ⟨hthread, hinbox⟩ := step_main.mp h
    rcases (inboxStep_frame hinbox).2 with hsame | ⟨rfl, -⟩
    · rw [hsame] at hreader
      exact (ControllerThread.pastInbox_step (hs hreader) hthread).1
    · exact ControllerThread.pastInbox_of_inboxStarted hthread
  | reader e =>
    have hstep := (step_reader.mp h).2.2
    have hstarted : s.reader ≠ .idle := by
      intro hidle
      unfold readerStep at hstep
      simp [hidle] at hstep
    rw [readerStep_thread hstep]
    exact hs hstarted

/-- A receive that fails is the last one, of either thread. -/
theorem deaf_of_receiveFailed (hs : s.ReaderAfterInbox) (h : s.step C e = some t)
    (he : e.operation? = some .receiveFailed) : t.Deaf := by
  cases e with
  | main e =>
    obtain ⟨hthread, hinbox⟩ := step_main.mp h
    have hevent : e = .operation .receiveFailed := by
      cases e with
      | operation o => exact congrArg _ (Option.some.inj he)
      | _ => exact absurd he (by simp [ControllerEvent.operation?, SessionEvent.operation?])
    subst hevent
    obtain ⟨hbefore, result, hafter⟩ := ControllerThread.over_of_receiveFailed hthread
    have hidle : s.reader = .idle := by
      by_contra hne
      exact hbefore (hs hne)
    have hreader : t.reader = s.reader := (Prod.mk.inj (Option.some.inj hinbox)).2.symm
    refine ⟨fun _ => ⟨result, Or.inl hafter⟩, Or.inl (hreader.trans hidle), ?_⟩
    rw [hafter]
    exact trivial
  | reader e =>
    have hstep := (step_reader.mp h).2.2
    have hevent : e = .operation .receiveFailed := by
      cases e with
      | operation o => exact congrArg _ (Option.some.inj he)
      | _ => exact absurd he (by simp [ControllerEvent.operation?])
    subst hevent
    rcases readerStep_cases hstep with ⟨h', -⟩ | ⟨m, h', -⟩ | ⟨-, hreader, rfl⟩ | ⟨m, h', -⟩ |
      ⟨h', -⟩ |
      ⟨m, h', -⟩ | ⟨h', -⟩ <;> try exact absurd h' (by simp)
    refine ⟨fun hidle => absurd hidle (by simp), Or.inr (Or.inl rfl), ?_⟩
    exact hs (by rw [hreader]; simp)

/-- Only the main thread sends. -/
theorem main_of_attempted {o : Duplex.Operation TwoPhoneMessage} {m : TwoPhoneMessage}
    (h : s.step C e = some t) (he : e.operation? = some o) (ho : o.attempted? = some m) :
    e = .main (.operation o) := by
  cases e with
  | main e =>
    cases e with
    | operation o' =>
      obtain rfl : o' = o := Option.some.inj he
      rfl
    | _ => contradiction
  | reader e =>
    have hstep := (step_reader.mp h).2.2
    cases e with
    | operation o' =>
      obtain rfl : o' = o := Option.some.inj he
      rcases readerStep_cases hstep with ⟨h', -⟩ | ⟨m, h', -⟩ | ⟨h', -⟩ | ⟨m, h', -⟩ | ⟨h', -⟩ |
        ⟨m, h', -⟩ | ⟨h', -⟩ <;> cases h' <;> contradiction
    | _ => contradiction

/-- A send that fails ends the session. -/
theorem over_of_sendFailed {m : TwoPhoneMessage} (h : s.step C e = some t)
    (he : e.operation? = some (.sendFailed m)) : t.thread.phase.Over := by
  obtain rfl := main_of_attempted h he rfl
  have hfails : (SessionEvent.operation (.sendFailed m)).Fails := trivial
  exact ControllerThread.over_of_fails hfails (step_main.mp h).1

/-- A controller that is over stays so. -/
theorem over_step (hover : s.thread.phase.Over) (h : s.step C e = some t) :
    t.thread.phase.Over := by
  cases e with
  | main e => exact (ControllerThread.over_step hover (step_main.mp h).1).1
  | reader e =>
    rw [readerStep_thread (step_reader.mp h).2.2]
    exact hover

/-- Deaf threads stay deaf. -/
theorem deaf_step (hs : s.Deaf) (h : s.step C e = some t) :
    t.Deaf ∧ ∀ m, e.operation? ≠ some (.received m) := by
  cases e with
  | main e =>
    obtain ⟨hthread, hinbox⟩ := step_main.mp h
    obtain ⟨hpast, hreceived, -, hstarted⟩ := ControllerThread.pastInbox_step hs.pastInbox hthread
    have hreader : t.reader = s.reader :=
      (inboxStep_frame hinbox).2.resolve_right fun h => hstarted h.1
    refine ⟨⟨fun hidle => ?_, hreader ▸ hs.reader, hpast⟩, fun m hm => ?_⟩
    · obtain ⟨result, hphase⟩ := hs.main (hreader.symm.trans hidle)
      refine ⟨result, ?_⟩
      replace hthread := ControllerThread.call_of_step hthread
      unfold ControllerThread.call at hthread
      rcases hphase with hp | hp | hp <;> rw [hp] at hthread
      · obtain ⟨-, hphase⟩ := SessionEvent.on_eq_some.mp hthread
        exact Or.inr (Or.inl (by rw [hphase]; rfl))
      · obtain ⟨-, hphase⟩ := SessionEvent.on_eq_some.mp hthread
        exact Or.inr (Or.inr (by rw [hphase]; rfl))
      · contradiction
    · cases e with
      | operation o => exact hreceived m (congrArg _ (Option.some.inj hm))
      | _ => exact absurd hm (by simp [ControllerEvent.operation?, SessionEvent.operation?])
  | reader e =>
    have hstep := (step_reader.mp h).2.2
    have hsame := readerStep_thread hstep
    rcases hs.reader with hreader | hreader | hreader
    · unfold readerStep at hstep
      simp [hreader] at hstep
    · rcases readerStep_cases hstep with ⟨-, h', -⟩ | ⟨m, -, h', -⟩ | ⟨-, h', -⟩ | ⟨m, -, h', -⟩ |
        ⟨-, h', -⟩ | ⟨m, -, h', -⟩ | ⟨rfl, -, rfl⟩ <;>
        try exact absurd (hreader.symm.trans h') (by simp)
      refine ⟨⟨fun hidle => absurd hidle (by simp), Or.inr (Or.inr rfl), hs.pastInbox⟩, ?_⟩
      exact fun m hm => absurd hm (by simp [ControllerEvent.operation?])
    · unfold readerStep at hstep
      simp [hreader] at hstep

end ControllerState

end DSEmu

import DSEmu.Emulator.EmulatorCore
import DSEmu.Protocol.RoundTrip
import DSEmu.Session.Host
import DSEmu.Session.DisplayTrace

/-!
# The messages on the wire

The codec gives back every message that fits into a payload, up to the frame of an acknowledged
digest (`codec_roundTrip`). That exception never shows in a session of two emulators: the digest
that `EmulatorCore.step` returns carries the frame of its input, which is the frame that the display
acknowledges (`display_framed`).
-/

namespace DSEmu

open Automaton (exec exec_split)
open SessionEvent (on onSend onReceive)

section

variable {ν ι : Type} {melonDS : MelonDS ν} {core : EmulatorCore ι} {host : EmulatorCore.Phone ν ι}
  {es : List SessionEvent} {s : DisplayThread (EmulatorCore.Phone ν ι)}

/-- A digest of the emulator names the frame of the input that was stepped. -/
theorem step_digest_frame {input : DSInputFrame} {createDigest : Bool} {b : Bridge ν}
    {d : EmulatorDigest} (h : (EmulatorCore.step melonDS input createDigest b).1 = some d) :
    d.frame = input.frame := by
  unfold EmulatorCore.step at h
  dsimp only at h
  rw [Option.ite_none_right_eq_some, Option.some.injEq] at h
  rw [← h.2]
  rfl

/-- The digests that a display's frames have returned. -/
theorem stepped_digest_frame
    (hexec : exec (DisplayThread.step (core.twoPhoneSession melonDS)) { host := host } es = some s)
    {frame : UInt64} {input : DSInputFrame} {needsDigest : Bool} {d : EmulatorDigest}
    (hmem : .stepped frame input needsDigest (some d) ∈ es) : d.frame = input.frame := by
  obtain ⟨pre, post, rfl⟩ := List.append_of_mem hmem
  obtain ⟨t, t', -, hstep, -⟩ := exec_split hexec
  have hdigest := (Prod.mk.inj (hostStep_stepped.mp (DisplayThread.step_host hstep))).1
  exact step_digest_frame hdigest

/-- Every message of a display that runs the emulator is one that the codec gives back as it is. -/
theorem display_framed
    (hexec : exec (DisplayThread.step (core.twoPhoneSession melonDS)) { host := host } es = some s)
    {m : TwoPhoneMessage} (hmem : m ∈ sent es) : m.HasFramedDigest := by
  rintro a rfl d hd
  obtain ⟨pre, post, rfl⟩ := List.append_of_mem (mem_sent hmem)
  obtain ⟨t, t', ht, hstep, -⟩ := exec_split hexec
  have htrace := displayTrace_of_exec ht
  replace hstep := DisplayThread.call_of_step hstep
  unfold DisplayThread.call at hstep
  unfold DisplayTrace at htrace
  cases hp : t.phase <;> rw [hp] at hstep htrace <;> dsimp only at hstep htrace
  case acknowledging acknowledgement =>
    -- the acknowledgement that is sent is that of the round, whose digest the step made
    obtain ⟨stateHash, rs, r, -, rfl, rfl⟩ := htrace
    rcases SessionEvent.onSend_eq_some.mp hstep with ⟨heq, -⟩ | ⟨heq, -⟩
    · obtain rfl := TwoPhoneMessage.acknowledgement.inj
        (Duplex.Operation.sent.inj (SessionEvent.operation.inj heq))
      change r.digest = some d at hd
      have hstepped : .stepped r.input.frame r.input
          ((core.twoPhoneSession melonDS).shouldCreateDigest r.input.frame) (some d) ∈
            DisplayRound.work (core.twoPhoneSession melonDS) r := by
        rw [DisplayRound.work, hd]
        simp
      exact stepped_digest_frame ht (List.mem_append_right _ hstepped)
    · exact absurd heq nofun
  all_goals simp_all [on, onSend, onReceive, DisplayThread.onClock, TwoPhoneSession.hello]

end

/-- The codec on every message: which are encoded, what is decoded from the payload of one, that
this is the message itself exactly when its digest names the acknowledged frame, that two such
messages do not share a payload, and that a display that runs the emulator sends only such
messages. -/
theorem codec_roundTrip :
    (∀ m : TwoPhoneMessage, (∃ bytes, m.encodedPayload = .ok bytes) ↔ m.Fits) ∧
    (∀ (m : TwoPhoneMessage) (bytes : Data), m.encodedPayload = .ok bytes →
      TwoPhoneMessage.decode bytes = .ok m.framed ∧
        (TwoPhoneMessage.decode bytes = .ok m ↔ m.HasFramedDigest)) ∧
    (∀ (m m' : TwoPhoneMessage) (bytes : Data), m.HasFramedDigest → m'.HasFramedDigest →
      m.encodedPayload = .ok bytes → m'.encodedPayload = .ok bytes → m = m') ∧
    ∀ (ν ι : Type) (melonDS : MelonDS ν) (core : EmulatorCore ι) (host : EmulatorCore.Phone ν ι)
      (es : List SessionEvent) (s : DisplayThread (EmulatorCore.Phone ν ι)),
      exec (DisplayThread.step (core.twoPhoneSession melonDS)) { host := host } es = some s →
        ∀ m ∈ sent es, m.HasFramedDigest := by
  have hdecode : ∀ (m : TwoPhoneMessage) (bytes : Data), m.encodedPayload = .ok bytes →
      TwoPhoneMessage.decode bytes = .ok m.framed := by
    intro m bytes h
    obtain ⟨hfits, rfl⟩ := (m.encodedPayload_eq_ok bytes).mp h
    exact m.decode_payload hfits
  refine ⟨fun m => ⟨?_, fun hfits => ?_⟩, fun m bytes h => ⟨hdecode m bytes h, ?_⟩,
    fun m m' bytes hm hm' h h' => ?_, fun ν ι melonDS core host es s hexec m hmem => ?_⟩
  · rintro ⟨bytes, h⟩
    exact ((m.encodedPayload_eq_ok bytes).mp h).1
  · exact ⟨m.payload, (m.encodedPayload_eq_ok m.payload).mpr ⟨hfits, rfl⟩⟩
  · rw [hdecode m bytes h, Except.ok.injEq]
    exact m.framed_eq_iff
  · have heq := (hdecode m bytes h).symm.trans (hdecode m' bytes h')
    rw [Except.ok.injEq, m.framed_eq_iff.mpr hm, m'.framed_eq_iff.mpr hm'] at heq
    exact heq
  · exact display_framed hexec hmem

end DSEmu

import DSEmu.Transport.TCPSocketTransport
import DSEmu.Transport.BonjourTransport

/-!
# The stream of messages

Both transports follow one framing, so what they make of a stream depends on its bytes only: not on
the pieces in which it was written or arrives, and not on the transport. From this come the two
results below, the transport of a list of messages (`framed_stream`), and the agreement of the two
transports on every stream, of messages or not (`transports_agree`).
-/

namespace DSEmu

open TwoPhoneMessage (maximumPayloadLength)
open DSEmu.Frame (frameBytes headerValue wire)

/-- The guards of `send` let the message through. -/
def TwoPhoneMessage.Accepted (m : TwoPhoneMessage) : Prop :=
  ∃ payload, m.encodedPayload = .ok payload ∧ 0 < payload.length ∧
    payload.length ≤ maximumPayloadLength

theorem TwoPhoneMessage.accepted_iff (m : TwoPhoneMessage) : m.Accepted ↔ m.Fits := by
  constructor
  · rintro ⟨payload, h, -⟩
    exact ((m.encodedPayload_eq_ok payload).mp h).1
  · intro h
    exact ⟨m.payload, (m.encodedPayload_eq_ok m.payload).mpr ⟨h, rfl⟩, Frame.length_payload h⟩

/-- The bytes of a list of messages. -/
def streamBytes (ms : List TwoPhoneMessage) : Data := (ms.map frameBytes).flatten

/-- What `receive` makes of the bytes of `ms`. -/
structure Delivers {E S : Type} (receive : EStateM E S TwoPhoneMessage) (left : S → Data)
    (ms : List TwoPhoneMessage) : Prop where
  /-- The messages are received in order, as the codec gives them back, and the bytes are used
  up. -/
  whole : ∀ s rest, left s = streamBytes ms ++ rest →
    ∃ t, Received receive s (ms.map TwoPhoneMessage.framed) t ∧ left t = rest
  /-- Where the bytes are cut, the messages whose frames are not cut are received, and the next
  receive fails. -/
  cut : ∀ s n, left s = (streamBytes ms).take n → ∃ k ≤ ms.length,
    (streamBytes (ms.take k)).length ≤ n ∧
    (k < ms.length → n < (streamBytes (ms.take (k + 1))).length) ∧
    ∃ t e u, Received receive s ((ms.take k).map TwoPhoneMessage.framed) t ∧ receive t = .error e u

/-- The bytes of messages are frames. -/
theorem forall₂_isFrame {ms : List TwoPhoneMessage} (h : ∀ m ∈ ms, m.Fits) :
    List.Forall₂ wire.IsFrame (ms.map frameBytes) (ms.map TwoPhoneMessage.framed) := by
  induction ms with
  | nil => exact .nil
  | cons m ms ih =>
    exact .cons (Frame.isFrame_frameBytes (h m List.mem_cons_self))
      (ih fun m' hm' => h m' (List.mem_cons_of_mem m hm'))

/-- A transport that follows the framing delivers. -/
theorem Follows.delivers {E S : Type} {receive : EStateM E S TwoPhoneMessage} {left : S → Data}
    (h : Follows wire left receive) {ms : List TwoPhoneMessage} (hms : ∀ m ∈ ms, m.Fits) :
    Delivers receive left ms where
  whole := fun _ rest hleft => h.receives (forall₂_isFrame hms) rest hleft
  cut := by
    intro s n hleft
    obtain ⟨k, hk, hle, hlt, hparse, hnext⟩ := Framing.parse_take (forall₂_isFrame hms) n
    obtain ⟨t, hreceived, -, e, u, hu, -⟩ := h.received s
    rw [List.length_map] at hk hlt
    rw [hleft] at hreceived
    rw [show (streamBytes ms).take n = (ms.map frameBytes).flatten.take n from rfl, hparse,
      ← List.map_take] at hreceived
    rw [← List.map_take] at hle
    refine ⟨k, hk, hle, fun hk' => ?_, t, e, u, hreceived, hu⟩
    rw [← List.map_take] at hlt
    exact hlt hk'

/-- The stream of the messages `ms`, from one end to the other. -/
structure FramedStream (ms : List TwoPhoneMessage) : Prop where
  /-- The kernel takes the messages in any pieces, and has then got their bytes. -/
  tcp_writes : ∀ s : Socket, s.sendEnding = none → ∃ t,
    ms.forM TCPSocketTransport.send s = .ok () t ∧ t.written = s.written ++ streamBytes ms
  bonjour_writes : ∀ c : Connection, c.sendFailure = none → ∃ d,
    ms.forM BonjourTransport.send c = .ok () d ∧ d.written = c.written ++ streamBytes ms
  /-- The bytes arrive in any pieces. -/
  tcp_reads : Delivers TCPSocketTransport.receive Socket.left ms
  bonjour_reads : Delivers BonjourTransport.receive Connection.left ms
  /-- `send` refuses a payload for its length exactly where `receive` refuses the header of it. -/
  tcp_sizes : ∀ (payload : Data) (s : Socket), payload.length < 2 ^ 32 →
    s.left = Frame.header (.ofNat payload.length) ++ payload →
    (Frame.framePayload SocketTransportError.invalidFrameLength payload =
        .error (.transport (.invalidFrameLength payload.length)) ↔
      ∃ t, TCPSocketTransport.receive s =
        .error (.transport (.invalidFrameLength payload.length)) t)
  bonjour_sizes : ∀ (payload : Data) (c : Connection), payload.length < 2 ^ 32 →
    c.left = Frame.header (.ofNat payload.length) ++ payload →
    (Frame.framePayload BonjourTransportError.invalidFrameLength payload =
        .error (.transport (.invalidFrameLength payload.length)) ↔
      ∃ d, BonjourTransport.receive c =
        .error (.transport (.invalidFrameLength payload.length)) d)

/-- Messages that the guards of `send` let through arrive, one after the other: written in any
pieces and arriving in any pieces, over each of the transports, and up to the frame that the bytes
are cut in where the stream breaks off. What arrives is what the codec gives back: the digest of an
acknowledgement is sent without its frame, and comes back with the frame that is acknowledged. -/
theorem framed_stream {ms : List TwoPhoneMessage} (haccepted : ∀ m ∈ ms, m.Accepted) :
    FramedStream ms where
  tcp_writes := by
    intro s hs
    obtain ⟨t, ht⟩ := Frame.exists_send TCPSocketTransport.writeAll_returns
      (fun m hm => m.accepted_iff.mp (haccepted m hm)) hs
    exact ⟨t, ht, Frame.written_of_send TCPSocketTransport.writeAll_written ht⟩
  bonjour_writes := by
    intro c hc
    obtain ⟨d, hd⟩ := Frame.exists_send BonjourTransport.write_returns
      (fun m hm => m.accepted_iff.mp (haccepted m hm)) hc
    exact ⟨d, hd, Frame.written_of_send BonjourTransport.write_written hd⟩
  tcp_reads := TCPSocketTransport.follows.delivers fun m hm => m.accepted_iff.mp (haccepted m hm)
  bonjour_reads := BonjourTransport.follows.delivers fun m hm => m.accepted_iff.mp (haccepted m hm)
  tcp_sizes := fun _ _ hlt hleft => Frame.refused_iff TCPSocketTransport.readsExactly _ hlt hleft
  bonjour_sizes := fun _ _ hlt hleft => Frame.refused_iff BonjourTransport.readsExactly _ hlt hleft

theorem framed_stream_ready : FramedStream [.ready, .start] :=
  framed_stream fun m hm => m.accepted_iff.mpr <| by
    rcases List.mem_pair.mp hm with rfl | rfl
    all_goals trivial

/-- An acknowledgement of frame 1 with a digest that says frame 0. -/
def strayAcknowledgement : TwoPhoneMessage :=
  .acknowledgement { frame := 1, digest := some { frame := 0, state := 0, top := 0, bottom := 0 } }

/-- The message is sent, and however its bytes arrive, it is not what is received. -/
theorem stray_acknowledgement_altered : strayAcknowledgement.Accepted ∧
    (∃ s t, TCPSocketTransport.send strayAcknowledgement s = .ok () t ∧
      t.written = s.written ++ frameBytes strayAcknowledgement) ∧
    (∃ s : Socket, s.left = frameBytes strayAcknowledgement) ∧
    ∀ s : Socket, s.left = frameBytes strayAcknowledgement →
      ¬∃ t, Received TCPSocketTransport.receive s [strayAcknowledgement] t := by
  have hfits : strayAcknowledgement.Fits := trivial
  refine ⟨strayAcknowledgement.accepted_iff.mpr hfits, ?_, ?_, ?_⟩
  · let s : Socket :=
      { arrivals := [], receiveEnding := .closed, acceptances := [], sendEnding := none }
    obtain ⟨t, ht, -⟩ := TCPSocketTransport.writeAll_returns (frameBytes strayAcknowledgement) s rfl
    exact ⟨s, t, (congrFun (Frame.send_of_fits hfits) s).trans ht,
      TCPSocketTransport.writeAll_written _ s t ht⟩
  · have hne : frameBytes strayAcknowledgement ≠ [] := List.cons_ne_nil _ _
    refine ⟨{ arrivals := [.arrived ⟨_, hne⟩], receiveEnding := .closed, acceptances := []
              sendEnding := none }, ?_⟩
    exact List.append_nil _
  · rintro s hleft ⟨t, ht⟩
    have hnext := (Frame.isFrame_frameBytes hfits).next []
    rw [List.append_nil, ← hleft] at hnext
    obtain ⟨u, hu, -⟩ := (TCPSocketTransport.follows s).1 _ _ hnext
    cases ht with
    | cons h =>
      have hsame := (EStateM.Result.ok.inj (h.symm.trans hu)).1
      exact absurd hsame (by decide)

/-- What the two transports make of one stream. -/
structure TransportsAgree (s : Socket) (c : Connection) : Prop where
  /-- They receive the same messages until they fail, and have then taken the same bytes. -/
  agree : ∃ ms s₁ e s₂ c₁ e' c₂ consumed,
    Received TCPSocketTransport.receive s ms s₁ ∧ TCPSocketTransport.receive s₁ = .error e s₂ ∧
    Received BonjourTransport.receive c ms c₁ ∧ BonjourTransport.receive c₁ = .error e' c₂ ∧
    s.left = consumed ++ s₂.left ∧ c.left = consumed ++ c₂.left
  /-- These are the only messages that either can receive until it fails. -/
  tcp_unique : ∀ ms s₁ e s₂ ms' s₁' e' s₂', Received TCPSocketTransport.receive s ms s₁ →
    TCPSocketTransport.receive s₁ = .error e s₂ → Received TCPSocketTransport.receive s ms' s₁' →
    TCPSocketTransport.receive s₁' = .error e' s₂' → ms = ms'
  bonjour_unique : ∀ ms c₁ e c₂ ms' c₁' e' c₂', Received BonjourTransport.receive c ms c₁ →
    BonjourTransport.receive c₁ = .error e c₂ → Received BonjourTransport.receive c ms' c₁' →
    BonjourTransport.receive c₁' = .error e' c₂' → ms = ms'
  /-- What has been taken before a receive are whole frames, so that its header starts where a
  payload ends. -/
  tcp_frames : ∀ ms s₁, Received TCPSocketTransport.receive s ms s₁ →
    ∃ frames, List.Forall₂ wire.IsFrame frames ms ∧ s.left = frames.flatten ++ s₁.left
  bonjour_frames : ∀ ms c₁, Received BonjourTransport.receive c ms c₁ →
    ∃ frames, List.Forall₂ wire.IsFrame frames ms ∧ c.left = frames.flatten ++ c₁.left
  /-- A header that declares no length or one that is too long is rejected, with what follows it
  still to come. -/
  tcp_rejects : ∀ ms s₁ header rest, Received TCPSocketTransport.receive s ms s₁ →
    header.length = 4 → s₁.left = header ++ rest →
    headerValue header = 0 ∨ maximumPayloadLength < headerValue header →
    ∃ s₂, TCPSocketTransport.receive s₁ =
      .error (.transport (.invalidFrameLength (headerValue header))) s₂ ∧ s₂.left = rest
  bonjour_rejects : ∀ ms c₁ header rest, Received BonjourTransport.receive c ms c₁ →
    header.length = 4 → c₁.left = header ++ rest →
    headerValue header = 0 ∨ maximumPayloadLength < headerValue header →
    ∃ c₂, BonjourTransport.receive c₁ =
      .error (.transport (.invalidFrameLength (headerValue header))) c₂ ∧ c₂.left = rest

theorem refused_of {n : ℕ} (h : n = 0 ∨ maximumPayloadLength < n) :
    ¬(0 < n ∧ n ≤ maximumPayloadLength) := by
  rintro ⟨hpos, hle⟩
  rcases h with h | h
  · omega
  · omega

/-- On one stream, in any pieces, the two transports receive the same messages and fail behind the
same byte. -/
theorem transports_agree {s : Socket} {c : Connection} (h : s.left = c.left) :
    TransportsAgree s c where
  agree := by
    obtain ⟨s₁, hs₁, hleft, e, s₂, hs₂, hend⟩ := TCPSocketTransport.follows.received s
    obtain ⟨c₁, hc₁, hleft', e', c₂, hc₂, hend'⟩ := BonjourTransport.follows.received c
    rw [← h] at hc₁ hend'
    obtain ⟨frames, -, hstream⟩ := TCPSocketTransport.follows.frames hs₁
    obtain ⟨last, hlast⟩ := wire.next_suffix s₁.left
    rw [hleft] at hlast
    have hconsumed : s.left = frames.flatten ++ last ++ s₂.left := by
      rw [hstream, hleft, ← hlast, hend, List.append_assoc]
    exact ⟨_, s₁, e, s₂, c₁, e', c₂, frames.flatten ++ last, hs₁, hs₂, hc₁, hc₂, hconsumed,
      by rw [← h, hconsumed, hend, hend']⟩
  tcp_unique := fun _ _ _ _ _ _ _ _ hms he hms' he' => (hms.unique he hms' he').1
  bonjour_unique := fun _ _ _ _ _ _ _ _ hms he hms' he' => (hms.unique he hms' he').1
  tcp_frames := fun _ _ hms => TCPSocketTransport.follows.frames hms
  bonjour_frames := fun _ _ hms => BonjourTransport.follows.frames hms
  tcp_rejects := fun _ _ _ _ _ hheader hleft hlength =>
    Frame.receive_rejected TCPSocketTransport.readsExactly hheader hleft (refused_of hlength) _
  bonjour_rejects := fun _ _ _ _ _ hheader hleft hlength =>
    Frame.receive_rejected BonjourTransport.readsExactly hheader hleft (refused_of hlength) _

/-- The frame of `ready` and a header of length zero, in three pieces with a signal in between, and
in one piece. -/
theorem transports_agree_hostile : TransportsAgree
    { arrivals := [.arrived ⟨[0, 0], nofun⟩, .interrupted, .arrived ⟨[0, 1, 3, 0], nofun⟩,
        .arrived ⟨[0, 0, 0], nofun⟩]
      receiveEnding := .closed, acceptances := [], sendEnding := none }
    { arrivals := [(⟨[0, 0, 0, 1, 3, 0, 0, 0, 0], nofun⟩, true)]
      receiveEnding := .closed, sendFailure := none } :=
  transports_agree rfl

end DSEmu

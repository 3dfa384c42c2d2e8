import DSEmu.Library.Framing
import DSEmu.Protocol.RoundTrip

/-!
# The frames of the transports

Both transports put the length of a payload before it, in four bytes, and refuse a length that is
zero or above `maximumPayloadLength`, when they send and when they receive. `TCPSocketTransport` and
`BonjourTransport` differ in how they write and read bytes and in their errors, so `send` and
`receive` take these as parameters. `wire` is the framing of the streams that they write.
-/

namespace DSEmu

/-- What `send` and `receive` throw: an error of the transport, or one of the codec. -/
inductive Thrown (E : Type) where
  | transport (error : E)
  | protocol (error : TwoPhoneProtocolError)
  deriving DecidableEq, Repr

/-- One piece of the bytes of a stream. -/
structure Chunk where
  bytes : Data
  bytes_ne : bytes ≠ []

/-- What stays of a piece behind its first bytes. -/
def Chunk.drop (chunk : Chunk) (count : ℕ) (h : count < chunk.bytes.length) : Chunk where
  bytes := chunk.bytes.drop count
  bytes_ne := fun hnil => Nat.not_le_of_lt h (List.drop_eq_nil_iff.mp hnil)

theorem Chunk.take_ne_nil (chunk : Chunk) {count : ℕ} (hcount : 0 < count) :
    chunk.bytes.take count ≠ [] :=
  fun hnil => (List.take_eq_nil_iff.mp hnil).elim (by omega) chunk.bytes_ne

namespace Frame

open TwoPhoneMessage (maximumPayloadLength)

variable {E S : Type}

/-- The bytes of `UInt32(payload.count)`, the high byte first. -/
def header (length : UInt32) : Data :=
  [(length >>> 24).toUInt8, (length >>> 16).toUInt8, (length >>> 8).toUInt8, length.toUInt8]

/-- `header.reduce(0) { ($0 << 8) | Int($1) }`. -/
def headerValue (header : Data) : ℕ :=
  header.foldl (fun value byte => (value <<< 8) ||| byte.toNat) 0

/-- The guard of `send` and the frame that it builds. -/
def framePayload (invalidFrameLength : ℕ → E) (payload : Data) : Except (Thrown E) Data :=
  if 0 < payload.length ∧ payload.length ≤ maximumPayloadLength then
    .ok (header (.ofNat payload.length) ++ payload)
  else
    .error (.transport (invalidFrameLength payload.length))

/-- What `send` writes for a message. -/
def frame (invalidFrameLength : ℕ → E) (message : TwoPhoneMessage) : Except (Thrown E) Data :=
  match message.encodedPayload with
  | .error error => .error (.protocol error)
  | .ok payload => framePayload invalidFrameLength payload

/-- `send(_:)`, over the way in which the transport writes its bytes. -/
def send (write : Data → EStateM (Thrown E) S Unit) (invalidFrameLength : ℕ → E)
    (message : TwoPhoneMessage) : EStateM (Thrown E) S Unit :=
  match frame invalidFrameLength message with
  | .error error => throw error
  | .ok framed => write framed

/-- `receive()`, over the way in which the transport reads a number of bytes. -/
def receive (readExactly : ℕ → EStateM (Thrown E) S Data) (invalidFrameLength : ℕ → E) :
    EStateM (Thrown E) S TwoPhoneMessage := do
  let header ← readExactly 4
  let length := headerValue header
  if 0 < length ∧ length ≤ maximumPayloadLength then
    let payload ← readExactly length
    match TwoPhoneMessage.decode payload with
    | .ok message => return message
    | .error error => throw (.protocol error)
  else
    throw (.transport (invalidFrameLength length))

theorem headerLength_pos : 0 < 4 := by decide

/-- The framing of a stream of messages. -/
def wire : Framing UInt8 TwoPhoneMessage where
  headerLength := 4
  headerLength_pos := headerLength_pos
  payloadLength header :=
    if 0 < headerValue header ∧ headerValue header ≤ maximumPayloadLength then
      some (headerValue header)
    else none
  decode payload := (TwoPhoneMessage.decode payload).toOption

/-- The header of a length says that length. -/
theorem headerValue_header {n : ℕ} (hn : n < 2 ^ 32) : headerValue (header (.ofNat n)) = n := by
  have hvalue : (UInt32.ofNat n).toNat = n := by
    rw [UInt32.toNat_ofNat', Nat.mod_eq_of_lt hn]
  have hbyte : ∀ k : UInt32, k.toNat < 32 →
      ((UInt32.ofNat n >>> k).toUInt8).toNat = n / 2 ^ k.toNat % 256 := by
    intro k hk
    rw [UInt32.toNat_toUInt8, UInt32.toNat_shiftRight, hvalue, Nat.mod_eq_of_lt hk,
      Nat.shiftRight_eq_div_pow]
  have h₂₄ : ((0 <<< 8) ||| ((UInt32.ofNat n >>> 24).toUInt8).toNat) = n / 2 ^ 24 := by
    rw [hbyte 24 (by decide), Nat.zero_shiftLeft, Nat.zero_or]
    show n / 2 ^ 24 % 256 = n / 2 ^ 24
    omega
  have hlow : (UInt32.ofNat n).toUInt8.toNat = n / 2 ^ 0 % 256 := by
    rw [UInt32.toNat_toUInt8, hvalue, Nat.pow_zero, Nat.div_one]
  rw [headerValue, header, List.foldl_cons, List.foldl_cons, List.foldl_cons, List.foldl_cons,
    List.foldl_nil, h₂₄, hbyte 16 (by decide), hbyte 8 (by decide), hlow]
  have h₁₆ : (n / 2 ^ 24) <<< 8 ||| n / 2 ^ 16 % 256 = n / 2 ^ 16 := shiftLeft_or_byte n 16
  have h₈ : (n / 2 ^ 16) <<< 8 ||| n / 2 ^ 8 % 256 = n / 2 ^ 8 := shiftLeft_or_byte n 8
  have h₀ : (n / 2 ^ 8) <<< 8 ||| n / 2 ^ 0 % 256 = n / 2 ^ 0 := shiftLeft_or_byte n 0
  show (((n / 2 ^ 24) <<< 8 ||| n / 2 ^ 16 % 256) <<< 8 ||| n / 2 ^ 8 % 256) <<< 8 |||
    n / 2 ^ 0 % 256 = n
  rw [h₁₆, h₈, h₀, Nat.pow_zero, Nat.div_one]

theorem length_header (length : UInt32) : (header length).length = 4 := rfl

/-- The bytes that are written for a message. -/
def frameBytes (m : TwoPhoneMessage) : Data := header (.ofNat m.payload.length) ++ m.payload

/-- A payload of the encoder has a length that the guards let through. -/
theorem length_payload {m : TwoPhoneMessage} (h : m.Fits) :
    0 < m.payload.length ∧ m.payload.length ≤ maximumPayloadLength :=
  ⟨Nat.succ_pos _, (m.fits_iff.mp h).2⟩

/-- `send` writes something exactly for the messages that are encoded. -/
theorem frame_eq_ok (invalidFrameLength : ℕ → E) (m : TwoPhoneMessage) (bytes : Data) :
    frame invalidFrameLength m = .ok bytes ↔ m.Fits ∧ frameBytes m = bytes := by
  by_cases hfits : m.Fits
  · have hencoded := (m.encodedPayload_eq_ok m.payload).mpr ⟨hfits, rfl⟩
    rw [frame, hencoded]
    show framePayload invalidFrameLength m.payload = _ ↔ _
    rw [framePayload, if_pos (length_payload hfits), Except.ok.injEq]
    exact ⟨fun h => ⟨hfits, h⟩, fun h => h.2⟩
  · cases hencoded : m.encodedPayload with
    | error error =>
      rw [frame, hencoded]
      exact ⟨nofun, fun h => absurd h.1 hfits⟩
    | ok payload => exact absurd ((m.encodedPayload_eq_ok payload).mp hencoded).1 hfits

/-- What is written for a message is a frame, with the message that the codec gives back. -/
theorem isFrame_frameBytes {m : TwoPhoneMessage} (h : m.Fits) :
    wire.IsFrame (frameBytes m) m.framed := by
  obtain ⟨hpos, hle⟩ := length_payload h
  have hmax : maximumPayloadLength < 2 ^ 32 := by decide
  refine ⟨_, m.payload, rfl, length_header _, ?_, ?_⟩
  · show (if _ then _ else _) = _
    rw [headerValue_header (by omega), if_pos ⟨hpos, hle⟩]
  · show (TwoPhoneMessage.decode m.payload).toOption = _
    rw [m.decode_payload h]
    rfl

section Send

variable {write : Data → EStateM (Thrown E) S Unit} {invalidFrameLength : ℕ → E}

/-- A `send` that returns has written the bytes of the message. -/
theorem write_of_send {m : TwoPhoneMessage} {s t : S}
    (h : send write invalidFrameLength m s = .ok () t) : m.Fits ∧
    write (frameBytes m) s = .ok () t := by
  rw [send] at h
  cases hframe : frame invalidFrameLength m with
  | error error =>
    rw [hframe] at h
    exact absurd h nofun
  | ok bytes =>
    obtain ⟨hfits, rfl⟩ := (frame_eq_ok invalidFrameLength m bytes).mp hframe
    rw [hframe] at h
    exact ⟨hfits, h⟩

theorem send_of_fits {m : TwoPhoneMessage} (h : m.Fits) :
    send write invalidFrameLength m = write (frameBytes m) := by
  rw [send, (frame_eq_ok invalidFrameLength m _).mpr ⟨h, rfl⟩]

/-- Sends that return, one after the other, have written the bytes of the messages. -/
theorem written_of_send {written : S → Data}
    (hwrite : ∀ bytes s t, write bytes s = .ok () t → written t = written s ++ bytes)
    {ms : List TwoPhoneMessage} {s t : S}
    (h : ms.forM (send write invalidFrameLength) s = .ok () t) :
    written t = written s ++ (ms.map frameBytes).flatten := by
  induction ms generalizing s with
  | nil =>
    obtain ⟨-, rfl⟩ := EStateM.Result.ok.inj h
    exact (List.append_nil _).symm
  | cons m ms ih =>
    cases hm : send write invalidFrameLength m s with
    | error e u => exact absurd ((bind_of_error hm).symm.trans h) nofun
    | ok _ u =>
      rw [ih ((bind_of_ok hm).symm.trans h), hwrite _ _ _ (write_of_send hm).2, List.map_cons,
        List.flatten_cons, List.append_assoc]

/-- Sends return, one after the other, where the transport stays intact. -/
theorem exists_send {intact : S → Prop}
    (hwrite : ∀ bytes s, intact s → ∃ t, write bytes s = .ok () t ∧ intact t)
    {ms : List TwoPhoneMessage} (hms : ∀ m ∈ ms, m.Fits) {s : S} (hs : intact s) :
    ∃ t, ms.forM (send write invalidFrameLength) s = .ok () t := by
  induction ms generalizing s with
  | nil => exact ⟨s, rfl⟩
  | cons m ms ih =>
    obtain ⟨t, ht, hintact⟩ := hwrite (frameBytes m) s hs
    have hsend : send write invalidFrameLength m s = .ok () t :=
      (congrFun (send_of_fits (hms m List.mem_cons_self)) s).trans ht
    obtain ⟨u, hu⟩ := ih (fun m' hm' => hms m' (List.mem_cons_of_mem m hm')) hintact
    exact ⟨u, (bind_of_ok hsend).trans hu⟩

end Send

section Receive

variable {left : S → Data} {readExactly : ℕ → EStateM (Thrown E) S Data}
  {header rest : Data} {s : S}

/-- A header that the guard refuses is read, and nothing after it. -/
theorem receive_rejected (h : ReadsExactly left readExactly) (hheader : header.length = 4)
    (hleft : left s = header ++ rest)
    (hlength : ¬(0 < headerValue header ∧ headerValue header ≤ maximumPayloadLength))
    (invalidFrameLength : ℕ → E) :
    ∃ t, receive readExactly invalidFrameLength s =
      .error (.transport (invalidFrameLength (headerValue header))) t ∧ left t = rest := by
  obtain ⟨t, ht, hrest⟩ := (h 4 s).1 (by rw [hleft, List.length_append]; omega)
  rw [hleft, ← hheader, List.take_left] at ht
  rw [hleft, ← hheader, List.drop_left] at hrest
  have hreceive : receive readExactly invalidFrameLength s = _ := bind_of_ok (hheader ▸ ht)
  rw [if_neg hlength] at hreceive
  exact ⟨t, hreceive, hrest⟩

/-- A header that the guard lets through is read, and then its payload. -/
theorem receive_payload (h : ReadsExactly left readExactly) (hheader : header.length = 4)
    (hleft : left s = header ++ rest)
    (hlength : 0 < headerValue header ∧ headerValue header ≤ maximumPayloadLength)
    (invalidFrameLength : ℕ → E) :
    ∃ t, left t = rest ∧ receive readExactly invalidFrameLength s =
      (readExactly (headerValue header) >>= fun payload =>
        match TwoPhoneMessage.decode payload with
        | .ok message => return message
        | .error error => throw (.protocol error)) t := by
  obtain ⟨t, ht, hrest⟩ := (h 4 s).1 (by rw [hleft, List.length_append]; omega)
  rw [hleft, ← hheader, List.take_left] at ht
  rw [hleft, ← hheader, List.drop_left] at hrest
  have hreceive : receive readExactly invalidFrameLength s = _ := bind_of_ok (hheader ▸ ht)
  rw [if_pos hlength] at hreceive
  exact ⟨t, hrest, hreceive⟩

/-- The guard of `send` refuses a payload exactly where the guard of `receive` refuses its
header. -/
theorem refused_iff (h : ReadsExactly left readExactly) (invalidFrameLength : ℕ → E)
    {payload : Data}
    (hlt : payload.length < 2 ^ 32) (hleft : left s =
      Frame.header (.ofNat payload.length) ++ payload) :
    framePayload invalidFrameLength payload =
        .error (.transport (invalidFrameLength payload.length)) ↔
      ∃ t, receive readExactly invalidFrameLength s =
        .error (.transport (invalidFrameLength payload.length)) t := by
  have hheader := length_header (.ofNat payload.length)
  have hvalue := headerValue_header hlt
  by_cases hlength : 0 < payload.length ∧ payload.length ≤ maximumPayloadLength
  · rw [framePayload, if_pos hlength]
    refine ⟨nofun, ?_⟩
    rintro ⟨t, ht⟩
    obtain ⟨u, hu, hreceive⟩ := receive_payload h hheader hleft (hvalue.symm ▸ hlength)
      invalidFrameLength
    obtain ⟨v, hv, -⟩ := (h payload.length u).1 (by rw [hu])
    rw [hvalue, bind_of_ok hv] at hreceive
    rw [ht] at hreceive
    -- an error of the codec is not one of the transport
    cases hdecode : TwoPhoneMessage.decode ((left u).take payload.length) with
    | ok m =>
      rw [hdecode] at hreceive
      exact absurd hreceive nofun
    | error error =>
      rw [hdecode] at hreceive
      exact absurd hreceive nofun
  · rw [framePayload, if_neg hlength]
    obtain ⟨t, ht, -⟩ := receive_rejected h hheader hleft (hvalue.symm ▸ hlength) invalidFrameLength
    rw [hvalue] at ht
    exact ⟨fun _ => ⟨t, ht⟩, fun _ => rfl⟩

/-- A `receive` over an operation that reads exactly follows the framing. -/
theorem follows_receive (h : ReadsExactly left readExactly) (invalidFrameLength : ℕ → E) :
    Follows wire left (receive readExactly invalidFrameLength) := by
  intro s
  -- it is enough to find one of the two results that agrees with the framing
  suffices (∃ m t, receive readExactly invalidFrameLength s = .ok m t ∧
      wire.next (left s) = (some m, left t)) ∨
      ∃ e t, receive readExactly invalidFrameLength s = .error e t ∧
        wire.next (left s) = (none, left t) by
    obtain ⟨m, t, ht, hnext⟩ | ⟨e, t, ht, hnext⟩ := this
    · refine ⟨fun m' rest h' => ?_, fun rest h' => absurd (hnext.symm.trans h') nofun⟩
      obtain ⟨hm, hrest⟩ := Prod.mk.inj (hnext.symm.trans h')
      exact ⟨t, Option.some.inj hm ▸ ht, hrest⟩
    · refine ⟨fun m' rest h' => absurd (hnext.symm.trans h') nofun, fun rest h' => ?_⟩
      exact ⟨e, t, ht, congrArg Prod.snd (hnext.symm.trans h')⟩
  by_cases hshort : (left s).length < 4
  · obtain ⟨e, t, ht, hleft⟩ := (h 4 s).2 hshort
    exact .inr ⟨e, t, bind_of_error ht, by rw [hleft, Framing.next_short hshort]⟩
  have hheader : ((left s).take 4).length = 4 := List.length_take_of_le (by omega)
  have hleft : left s = (left s).take 4 ++ (left s).drop 4 := (List.take_append_drop 4 _).symm
  by_cases hlength : 0 < headerValue ((left s).take 4) ∧
      headerValue ((left s).take 4) ≤ maximumPayloadLength
  · obtain ⟨t, hrest, ht⟩ := receive_payload h hheader hleft hlength invalidFrameLength
    have hnext := Framing.next_payload (F := wire) hheader (if_pos hlength) ((left s).drop 4)
    rw [← hleft, ← hrest] at hnext
    by_cases hcut : (left t).length < headerValue ((left s).take 4)
    · obtain ⟨e, u, hu, hend⟩ := (h _ t).2 hcut
      exact .inr ⟨e, u, ht.trans (bind_of_error hu), by rw [hnext, if_pos hcut, hend]⟩
    · obtain ⟨u, hu, hend⟩ := (h _ t).1 (Nat.le_of_not_lt hcut)
      rw [bind_of_ok hu] at ht
      rw [if_neg hcut, ← hend] at hnext
      change wire.next (left s) = ((TwoPhoneMessage.decode _).toOption, left u) at hnext
      cases hdecode : TwoPhoneMessage.decode ((left t).take (headerValue ((left s).take 4))) with
      | ok m =>
        rw [hdecode] at ht hnext
        exact .inl ⟨m, u, ht, hnext⟩
      | error error =>
        rw [hdecode] at ht hnext
        exact .inr ⟨_, u, ht, hnext⟩
  · obtain ⟨t, ht, hrest⟩ := receive_rejected h hheader hleft hlength invalidFrameLength
    have hnext := Framing.next_rejected (F := wire) hheader (if_neg hlength) ((left s).drop 4)
    rw [← hleft, ← hrest] at hnext
    exact .inr ⟨_, t, ht, hnext⟩

end Receive

end Frame

end DSEmu

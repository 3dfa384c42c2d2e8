import DSEmu.Transport.Frame

/-!
# The TCP transport

`send`, `receive`, `writeAll` and `readExactly` of `DSEmu/TwoPhone/TCPSocketTransport.swift`, over a
connected socket. What the kernel does is part of the socket: in which pieces it takes what is sent,
in which pieces it hands over what arrives, how often a signal interrupts a call in between, and
what calls return once these lists are used up. The two loops end whatever the lists are: a piece is
never empty, and there are finitely many interruptions.

`writeAll_spec` and `readsExactly` say that the pieces do not matter.
-/

namespace DSEmu

/-- `SocketTransportError`, as far as `send` and `receive` throw it. -/
inductive SocketTransportError where
  | systemCall (call : String) (code : ℕ)
  | peerClosed
  | invalidFrameLength (length : ℕ)
  deriving DecidableEq, Repr

/-- `EINTR`: a signal came before the call did anything. -/
def EINTR : ℕ := 4

/-- What a system call returns: a value, or -1 with a code in `errno`. -/
inductive SystemCall (X : Type) where
  | returned (value : X)
  | failed (errno : ℕ)

/-- What the kernel does on a call of `recv` while there is something to come. -/
inductive Arrival where
  | interrupted
  | arrived (chunk : Chunk)

/-- What the kernel does on a call of `send` while its buffer has its limits. -/
inductive Acceptance where
  | interrupted
  | upTo (count : ℕ) (count_pos : 0 < count)

/-- What calls do from some point on: the peer has closed the connection, or it has failed. -/
inductive SocketEnding where
  | closed
  | failed (errno : ℕ) (errno_ne : errno ≠ EINTR)

/-- A connected socket. -/
structure Socket where
  /-- What is still to arrive, and then `receiveEnding`. -/
  arrivals : List Arrival
  receiveEnding : SocketEnding
  /-- How much the next calls of `send` take, and then `sendEnding`, or `none` where everything is
  taken. -/
  acceptances : List Acceptance
  sendEnding : Option SocketEnding
  /-- What the kernel has taken. -/
  written : Data := []

namespace Socket

/-- `Darwin.recv(fileDescriptor, buffer, count, 0)`. A piece that is longer than the buffer stays
for the next calls. -/
def recv (count : ℕ) (socket : Socket) : SystemCall Data × Socket :=
  match socket.arrivals with
  | [] =>
    match socket.receiveEnding with
    | .closed => (.returned [], socket)
    | .failed errno _ => (.failed errno, socket)
  | .interrupted :: arrivals => (.failed EINTR, { socket with arrivals })
  | .arrived chunk :: arrivals =>
    if h : count < chunk.bytes.length then
      (.returned (chunk.bytes.take count),
        { socket with arrivals := .arrived (chunk.drop count h) :: arrivals })
    else
      (.returned chunk.bytes, { socket with arrivals })

/-- `Darwin.send(fileDescriptor, buffer, count, 0)`, which returns how many of the bytes it has
taken. -/
def send (bytes : Data) (socket : Socket) : SystemCall ℕ × Socket :=
  match socket.acceptances with
  | [] =>
    match socket.sendEnding with
    | none => (.returned bytes.length, { socket with written := socket.written ++ bytes })
    | some .closed => (.returned 0, socket)
    | some (.failed errno _) => (.failed errno, socket)
  | .interrupted :: acceptances => (.failed EINTR, { socket with acceptances })
  | .upTo count _ :: acceptances =>
    (.returned (min count bytes.length),
      { socket with acceptances, written := socket.written ++ bytes.take count })

/-- What is still to arrive. -/
def left (socket : Socket) : Data :=
  socket.arrivals.flatMap fun
    | .interrupted => []
    | .arrived chunk => chunk.bytes

/-- Everything that a call of `recv` can do. -/
theorem recv_cases {count : ℕ} (hcount : 0 < count) {s t : Socket} {result : SystemCall Data}
    (h : s.recv count = (result, t)) :
    (∃ chunk, result = .returned chunk ∧ chunk ≠ [] ∧ chunk.length ≤ count ∧
      s.left = chunk ++ t.left ∧ t.arrivals.length ≤ s.arrivals.length) ∨
    (result = .failed EINTR ∧ s.left = t.left ∧ t.arrivals.length < s.arrivals.length) ∨
    (s.left = [] ∧ t = s ∧
      (result = .returned [] ∨ ∃ errno, errno ≠ EINTR ∧ result = .failed errno)) := by
  unfold recv at h
  split at h
  · rename_i harrivals
    have hleft : s.left = [] := by rw [left, harrivals]; rfl
    split at h
    · obtain ⟨rfl, rfl⟩ := Prod.mk.inj h
      exact .inr (.inr ⟨hleft, rfl, .inl rfl⟩)
    · rename_i errno hne _
      obtain ⟨rfl, rfl⟩ := Prod.mk.inj h
      exact .inr (.inr ⟨hleft, rfl, .inr ⟨errno, hne, rfl⟩⟩)
  · rename_i arrivals harrivals
    obtain ⟨rfl, rfl⟩ := Prod.mk.inj h
    refine .inr (.inl ⟨rfl, ?_, ?_⟩)
    · rw [left, harrivals]
      rfl
    · rw [harrivals]
      exact Nat.lt_succ_self _
  · rename_i chunk arrivals harrivals
    -- A chunk longer than the buffer is left in part for the next call.
    split_ifs at h with hlong
    · obtain ⟨rfl, rfl⟩ := Prod.mk.inj h
      refine .inl ⟨_, rfl, ?_, List.length_take_le _ _, ?_, ?_⟩
      · exact chunk.take_ne_nil hcount
      · rw [left, harrivals, List.flatMap_cons]
        show chunk.bytes ++ _ = chunk.bytes.take count ++ (chunk.bytes.drop count ++ _)
        rw [← List.append_assoc, List.take_append_drop]
        rfl
      · rw [harrivals]
        exact Nat.le_refl _
    · obtain ⟨rfl, rfl⟩ := Prod.mk.inj h
      refine .inl ⟨_, rfl, chunk.bytes_ne, by omega, ?_, ?_⟩
      · rw [left, harrivals]
        rfl
      · rw [harrivals]
        exact Nat.le_succ _

/-- Everything that a call of `send` can do. -/
theorem send_cases {bytes : Data} (hbytes : bytes ≠ []) {s t : Socket} {result : SystemCall ℕ}
    (h : s.send bytes = (result, t)) : t.sendEnding = s.sendEnding ∧
      ((∃ count, result = .returned count ∧ 0 < count ∧ count ≤ bytes.length ∧
        t.written = s.written ++ bytes.take count ∧ t.acceptances.length ≤ s.acceptances.length) ∨
      (result = .failed EINTR ∧ t.written = s.written ∧
        t.acceptances.length < s.acceptances.length) ∨
      (s.sendEnding ≠ none ∧ t.written = s.written ∧
        (result = .returned 0 ∨ ∃ errno, errno ≠ EINTR ∧ result = .failed errno))) := by
  have hpos : 0 < bytes.length := List.length_pos_iff.mpr hbytes
  unfold send at h
  split at h
  · split at h
    · obtain ⟨rfl, rfl⟩ := Prod.mk.inj h
      refine ⟨rfl, .inl ⟨_, rfl, hpos, Nat.le_refl _, ?_, Nat.le_refl _⟩⟩
      rw [List.take_length]
    · rename_i hending
      obtain ⟨rfl, rfl⟩ := Prod.mk.inj h
      exact ⟨rfl, .inr (.inr ⟨by rw [hending]; nofun, rfl, .inl rfl⟩)⟩
    · rename_i errno hne hending
      obtain ⟨rfl, rfl⟩ := Prod.mk.inj h
      exact ⟨rfl, .inr (.inr ⟨by rw [hending]; nofun, rfl, .inr ⟨errno, hne, rfl⟩⟩)⟩
  · rename_i acceptances hacceptances
    obtain ⟨rfl, rfl⟩ := Prod.mk.inj h
    refine ⟨rfl, .inr (.inl ⟨rfl, rfl, ?_⟩)⟩
    rw [hacceptances]
    exact Nat.lt_succ_self _
  · rename_i count hcount acceptances hacceptances
    obtain ⟨rfl, rfl⟩ := Prod.mk.inj h
    refine ⟨rfl, .inl ⟨_, rfl, by omega, Nat.min_le_right _ _, ?_, ?_⟩⟩
    · rw [← List.take_eq_take_min]
    · rw [hacceptances]
      exact Nat.le_succ _

end Socket

namespace TCPSocketTransport

/-- The buffer after `recv` has stored a piece from `offset` on. -/
def store (buffer : Data) (offset : ℕ) (piece : Data) : Data :=
  buffer.take offset ++ piece ++ buffer.drop (offset + piece.length)

/-- The loop of `readExactly(count:)`. -/
def readLoop (count : ℕ) (bytes : Data) (offset : ℕ) :
    EStateM (Thrown SocketTransportError) Socket Data := fun socket =>
  if _hlt : offset < count then
    match _hrecv : socket.recv (count - offset) with
    | (.failed errno, socket') =>
      if _herrno : errno = EINTR then
        readLoop count bytes offset socket'
      else
        .error (.transport (.systemCall "recv" errno)) socket'
    | (.returned received, socket') =>
      if _hreceived : received.length = 0 then
        .error (.transport .peerClosed) socket'
      else
        readLoop count (store bytes offset received) (offset + received.length) socket'
  else
    .ok bytes socket
termination_by socket => count - offset + socket.arrivals.length
decreasing_by
  · obtain ⟨_, h, -⟩ | ⟨-, -, hlt⟩ | ⟨-, -, h | ⟨_, hne, h⟩⟩ := Socket.recv_cases (by omega) _hrecv
    · exact absurd h nofun
    · omega
    · exact absurd h nofun
    · exact absurd (SystemCall.failed.inj h ▸ _herrno) hne
  · obtain ⟨_, -, -, -, -, hle⟩ | ⟨h, -⟩ | ⟨-, rfl, - | ⟨_, -, h⟩⟩ :=
      Socket.recv_cases (by omega) _hrecv
    · omega
    · exact absurd h nofun
    · omega
    · exact absurd h nofun

/-- `readExactly(count:)`. -/
def readExactly (count : ℕ) : EStateM (Thrown SocketTransportError) Socket Data :=
  readLoop count (List.replicate count 0) 0

theorem drop_ne_nil {bytes : Data} {offset : ℕ} (h : offset < bytes.length) :
    bytes.drop offset ≠ [] :=
  fun hnil => Nat.not_le_of_lt h (List.drop_eq_nil_iff.mp hnil)

/-- The loop of `writeAll(_:)`. -/
def writeLoop (bytes : Data) (offset : ℕ) : EStateM (Thrown SocketTransportError) Socket Unit :=
  fun socket =>
    if _hlt : offset < bytes.length then
      match _hsend : socket.send (bytes.drop offset) with
      | (.failed errno, socket') =>
        if _herrno : errno = EINTR then
          writeLoop bytes offset socket'
        else
          .error (.transport (.systemCall "send" errno)) socket'
      | (.returned sent, socket') =>
        if _hsent : sent = 0 then
          .error (.transport .peerClosed) socket'
        else
          writeLoop bytes (offset + sent) socket'
    else
      .ok () socket
termination_by socket => bytes.length - offset + socket.acceptances.length
decreasing_by
  · obtain ⟨-, ⟨_, h, -⟩ | ⟨-, -, hlt⟩ | ⟨-, -, h | ⟨_, hne, h⟩⟩⟩ :=
      Socket.send_cases (drop_ne_nil _hlt) _hsend
    · exact absurd h nofun
    · omega
    · exact absurd h nofun
    · exact absurd (SystemCall.failed.inj h ▸ _herrno) hne
  · obtain ⟨-, ⟨_, -, -, -, -, hle⟩ | ⟨h, -⟩ | ⟨-, -, h | ⟨_, -, h⟩⟩⟩ :=
      Socket.send_cases (drop_ne_nil _hlt) _hsend
    · omega
    · exact absurd h nofun
    · exact absurd (SystemCall.returned.inj h) _hsent
    · exact absurd h nofun

/-- `writeAll(_:)`. -/
def writeAll (data : Data) : EStateM (Thrown SocketTransportError) Socket Unit := writeLoop data 0

/-- `send(_:)`. -/
def send (message : TwoPhoneMessage) : EStateM (Thrown SocketTransportError) Socket Unit :=
  Frame.send writeAll .invalidFrameLength message

/-- `receive()`. -/
def receive : EStateM (Thrown SocketTransportError) Socket TwoPhoneMessage :=
  Frame.receive readExactly .invalidFrameLength

/-- What a piece leaves of the buffer before its end: what was there, and the piece. -/
theorem take_store {buffer piece : Data} {offset : ℕ} (h : offset ≤ buffer.length) :
    (store buffer offset piece).take (offset + piece.length) = buffer.take offset ++ piece := by
  have hlength : (buffer.take offset ++ piece).length = offset + piece.length := by
    rw [List.length_append, List.length_take_of_le h]
  rw [store, ← hlength, List.take_left]

theorem length_store {buffer piece : Data} {offset : ℕ}
    (h : offset + piece.length ≤ buffer.length) :
    (store buffer offset piece).length = buffer.length := by
  rw [store, List.length_append, List.length_append, List.length_take, List.length_drop]
  omega

/-- The loop fills the rest of the buffer, in whatever pieces the bytes come. -/
theorem readLoop_spec (count : ℕ) (bytes : Data) (offset : ℕ) (s : Socket)
    (hoffset : offset ≤ count)
    (hlength : bytes.length = count) :
    Completes Socket.left s (bytes.take offset) (count - offset)
      (readLoop count bytes offset s) := by
  -- The cases of the loop: interrupted, failed, ended, a chunk, and the buffer full.
  fun_induction readLoop count bytes offset s with
  | case1 bytes offset s hlt t hrecv ih =>
    obtain ⟨_, h, -⟩ | ⟨-, hleft, -⟩ | ⟨-, -, h | ⟨_, hne, h⟩⟩ := Socket.recv_cases (by omega) hrecv
    · exact absurd h nofun
    · have hnothing : s.left = [] ++ t.left := hleft
      refine Completes.arrived hnothing (Nat.zero_le _) ?_
      rw [List.append_nil]
      exact ih hoffset hlength
    · exact absurd h nofun
    · exact absurd (SystemCall.failed.inj h).symm hne
  | case2 bytes offset s hlt errno t hrecv herrno =>
    obtain ⟨_, h, -⟩ | ⟨h, -⟩ | ⟨hleft, rfl, -⟩ := Socket.recv_cases (by omega) hrecv
    · exact absurd h nofun
    · exact absurd (SystemCall.failed.inj h) herrno
    · exact Completes.ended _ hleft (by omega)
  | case3 bytes offset s hlt received t hrecv hzero =>
    obtain ⟨chunk, h, hne, -⟩ | ⟨h, -⟩ | ⟨hleft, rfl, -⟩ := Socket.recv_cases (by omega) hrecv
    · exact absurd (SystemCall.returned.inj h ▸ List.length_eq_zero_iff.mp hzero) hne
    · exact absurd h nofun
    · exact Completes.ended _ hleft (by omega)
  | case4 bytes offset s hlt received t hrecv hzero ih =>
    obtain ⟨chunk, h, -, hle, hleft, -⟩ | ⟨h, -⟩ | ⟨-, -, h | ⟨_, -, h⟩⟩ :=
      Socket.recv_cases (by omega) hrecv
    · obtain rfl := SystemCall.returned.inj h
      refine Completes.arrived hleft hle ?_
      have hrest := ih (by omega) ((length_store (by omega)).trans hlength)
      rw [take_store (by omega), Nat.sub_add_eq] at hrest
      exact hrest
    · exact absurd h nofun
    · exact absurd (SystemCall.returned.inj h ▸ rfl) hzero
    · exact absurd h nofun
  | case5 bytes offset s hlt =>
    obtain rfl : offset = count := by omega
    rw [List.take_of_length_le (by omega), Nat.sub_self]
    exact Completes.done s bytes

/-- `readExactly` reads exactly, whatever the pieces are. -/
theorem readsExactly : ReadsExactly Socket.left readExactly := fun count s =>
  readLoop_spec count (List.replicate count 0) 0 s (Nat.zero_le _) List.length_replicate

/-- `receive` follows the framing of the stream. -/
theorem follows : Follows Frame.wire Socket.left receive :=
  Frame.follows_receive readsExactly .invalidFrameLength

/-- Where the loop of `writeAll` returns, everything is written, in whatever pieces it is taken, and
it returns where the connection stays. -/
theorem writeLoop_spec (bytes : Data) (offset : ℕ) (s : Socket) :
    (∀ t, writeLoop bytes offset s = .ok () t →
      t.written = s.written ++ bytes.drop offset ∧ t.sendEnding = s.sendEnding) ∧
    (s.sendEnding = none → ∃ t, writeLoop bytes offset s = .ok () t) := by
  -- The cases of the loop: interrupted, failed, nothing taken, a chunk, and all of it written.
  fun_induction writeLoop bytes offset s with
  | case1 offset s hlt t hsend ih =>
    obtain ⟨hending, ⟨_, h, -⟩ | ⟨-, hwritten, -⟩ | ⟨-, -, h | ⟨_, hne, h⟩⟩⟩ :=
      Socket.send_cases (drop_ne_nil hlt) hsend
    · exact absurd h nofun
    · rw [hwritten, hending] at ih
      exact ih
    · exact absurd h nofun
    · exact absurd (SystemCall.failed.inj h).symm hne
  | case2 offset s hlt errno t hsend herrno =>
    refine ⟨nofun, fun hnone => ?_⟩
    obtain ⟨-, ⟨_, h, -⟩ | ⟨h, -⟩ | ⟨hsome, -⟩⟩ := Socket.send_cases (drop_ne_nil hlt) hsend
    · exact absurd h nofun
    · exact absurd (SystemCall.failed.inj h) herrno
    · exact absurd hnone hsome
  | case3 offset s hlt t hsend =>
    refine ⟨nofun, fun hnone => ?_⟩
    obtain ⟨-, ⟨count, h, hpos, -⟩ | ⟨h, -⟩ | ⟨hsome, -⟩⟩ :=
      Socket.send_cases (drop_ne_nil hlt) hsend
    · exact absurd (SystemCall.returned.inj h) (by omega)
    · exact absurd h nofun
    · exact absurd hnone hsome
  | case4 offset s hlt sent t hsend hzero ih =>
    obtain ⟨hending, ⟨count, h, -, -, hwritten, -⟩ | ⟨h, -⟩ | ⟨-, -, h | ⟨_, -, h⟩⟩⟩ :=
      Socket.send_cases (drop_ne_nil hlt) hsend
    · obtain rfl := SystemCall.returned.inj h
      rw [hwritten, hending] at ih
      refine ⟨fun u hu => ?_, ih.2⟩
      obtain ⟨hu, hkeeps⟩ := ih.1 u hu
      refine ⟨?_, hkeeps⟩
      rw [hu, List.append_assoc, ← List.drop_drop, List.take_append_drop]
    · exact absurd h nofun
    · exact absurd (SystemCall.returned.inj h) hzero
    · exact absurd h nofun
  | case5 offset s hlt =>
    refine ⟨fun t h => ?_, fun _ => ⟨s, rfl⟩⟩
    obtain ⟨-, rfl⟩ := EStateM.Result.ok.inj h
    rw [List.drop_eq_nil_of_le (by omega), List.append_nil]
    exact ⟨rfl, rfl⟩

theorem writeAll_written (bytes : Data) (s t : Socket) (h : writeAll bytes s = .ok () t) :
    t.written = s.written ++ bytes := ((writeLoop_spec bytes 0 s).1 t h).1

theorem writeAll_returns (bytes : Data) (s : Socket) (hs : s.sendEnding = none) :
    ∃ t, writeAll bytes s = .ok () t ∧ t.sendEnding = none := by
  obtain ⟨hwritten, hreturns⟩ := writeLoop_spec bytes 0 s
  obtain ⟨t, ht⟩ := hreturns hs
  exact ⟨t, ht, (hwritten t ht).2.trans hs⟩

end TCPSocketTransport

end DSEmu

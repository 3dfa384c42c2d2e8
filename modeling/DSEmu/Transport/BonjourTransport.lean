import DSEmu.Transport.Frame

/-!
# The Bonjour transport

`send`, `receive`, `readExactly` and `receiveChunk` of `DSEmu/TwoPhone/BonjourTransport.swift`, over
a connection of Apple's Network framework. A method of the connection returns at once and calls a
completion later; the transport waits for the completion on a semaphore, for a limited time
(`SynchronousResult`). What the completions report is part of the connection: the pieces in which
the bytes come, what is reported at the end, and what becomes of a send, which delivers its whole
content or fails.
-/

namespace DSEmu

/-- `BonjourTransportError`. -/
inductive BonjourTransportError where
  | timedOut (action : String)
  | connectionFailed (detail : String)
  | peerClosed
  | invalidFrameLength (length : ℕ)
  deriving DecidableEq, Repr

/-- The arguments of the completion of `NWConnection.receive`. -/
structure ReceiveCompletion where
  data : Option Data
  isComplete : Bool
  error : Option String

/-- What the completion of a receive reports when everything has arrived. -/
inductive ConnectionEnding where
  /-- The peer has closed the stream. -/
  | closed
  | failed (error : String)
  /-- Nothing more comes, and the completion is not called in time. -/
  | silent

/-- An `NWConnection` that is ready. -/
structure Connection where
  /-- What is still to arrive, each piece with the flag `isComplete` that is reported beside it, and
  then `receiveEnding`. -/
  arrivals : List (Chunk × Bool)
  receiveEnding : ConnectionEnding
  /-- What becomes of the next sends: `none` where the content is processed. -/
  sendFailure : Option BonjourTransportError
  /-- What has been delivered. -/
  written : Data := []

namespace Connection

/-- `connection.receive(minimumIncompleteLength: 1, maximumLength:)`: the arguments of the
completion, or `none` where it is not called in time. -/
def receive (maximumLength : ℕ) (connection : Connection) :
    Option ReceiveCompletion × Connection :=
  match connection.arrivals with
  | [] =>
    match connection.receiveEnding with
    | .closed => (some { data := none, isComplete := true, error := none }, connection)
    | .failed error => (some { data := none, isComplete := false, error }, connection)
    | .silent => (none, connection)
  | (chunk, isComplete) :: arrivals =>
    if h : maximumLength < chunk.bytes.length then
      (some { data := chunk.bytes.take maximumLength, isComplete := false, error := none },
        { connection with arrivals := (chunk.drop maximumLength h, isComplete) :: arrivals })
    else
      (some { data := chunk.bytes, isComplete, error := none }, { connection with arrivals })

/-- What is still to arrive. -/
def left (connection : Connection) : Data :=
  connection.arrivals.flatMap fun arrival => arrival.1.bytes

end Connection

namespace BonjourTransport

/-- `receiveChunk(maximumLength:)`. -/
def receiveChunk (maximumLength : ℕ) :
    EStateM (Thrown BonjourTransportError) Connection Data := fun connection =>
  match connection.receive maximumLength with
  | (none, connection) =>
    .error (.transport (.timedOut "waiting for data from the other phone")) connection
  | (some completion, connection) =>
    match completion.error with
    | some error => .error (.transport (.connectionFailed error)) connection
    | none =>
      match completion.data.filter fun data => !data.isEmpty with
      | some data => .ok data connection
      | none =>
        if completion.isComplete then
          .error (.transport .peerClosed) connection
        else
          .error (.transport (.connectionFailed "received an empty data chunk")) connection

/-- The loop of `readExactly(count:)`. -/
def readLoop (count : ℕ) (received : Data) :
    EStateM (Thrown BonjourTransportError) Connection Data := fun connection =>
  if _hlt : received.length < count then
    match receiveChunk (count - received.length) connection with
    | .error error connection' => .error error connection'
    | .ok next connection' =>
      if _hnext : next = [] then
        .error (.transport .peerClosed) connection'
      else
        readLoop count (received ++ next) connection'
  else
    .ok received connection
termination_by count - received.length
decreasing_by
  have := List.length_pos_iff.mpr _hnext
  rw [List.length_append]
  omega

/-- `readExactly(count:)`. -/
def readExactly (count : ℕ) : EStateM (Thrown BonjourTransportError) Connection Data :=
  readLoop count []

/-- The end of `send(_:)`: the frame is given to the connection, and its completion is awaited. -/
def write (framed : Data) : EStateM (Thrown BonjourTransportError) Connection Unit :=
  fun connection =>
    match connection.sendFailure with
    | some error => .error (.transport error) connection
    | none => .ok () { connection with written := connection.written ++ framed }

/-- `send(_:)`. -/
def send (message : TwoPhoneMessage) : EStateM (Thrown BonjourTransportError) Connection Unit :=
  Frame.send write .invalidFrameLength message

/-- `receive()`. -/
def receive : EStateM (Thrown BonjourTransportError) Connection TwoPhoneMessage :=
  Frame.receive readExactly .invalidFrameLength

/-- Everything that `receiveChunk` can do: it returns the next piece, or there is none. -/
theorem receiveChunk_cases {count : ℕ} (hcount : 0 < count) (c : Connection) :
    (∃ chunk d, receiveChunk count c = .ok chunk d ∧ chunk ≠ [] ∧ chunk.length ≤ count ∧
      c.left = chunk ++ d.left) ∨
    ∃ e, receiveChunk count c = .error e c ∧ c.left = [] := by
  obtain ⟨arrivals, receiveEnding, sendFailure, written⟩ := c
  have hsome : ∀ data : Data, data ≠ [] →
      (some data).filter (fun data => !data.isEmpty) = some data := by
    intro data hne
    rw [Option.filter_some, List.isEmpty_eq_false_iff.mpr hne]
    rfl
  cases arrivals with
  | nil =>
    cases receiveEnding with
    | closed => exact .inr ⟨_, rfl, rfl⟩
    | failed error => exact .inr ⟨_, rfl, rfl⟩
    | silent => exact .inr ⟨_, rfl, rfl⟩
  | cons arrival arrivals =>
    obtain ⟨chunk, isComplete⟩ := arrival
    left
    unfold receiveChunk Connection.receive
    by_cases hlong : count < chunk.bytes.length
    · have hne := chunk.take_ne_nil hcount
      refine ⟨chunk.bytes.take count, ?_, ?_, hne, List.length_take_le _ _, ?_⟩
      · exact ⟨(chunk.drop count hlong, isComplete) :: arrivals, receiveEnding, sendFailure,
          written⟩
      · dsimp only
        rw [dif_pos hlong]
        dsimp only
        rw [hsome _ hne]
      · show chunk.bytes ++ _ = chunk.bytes.take count ++ (chunk.bytes.drop count ++ _)
        rw [← List.append_assoc, List.take_append_drop]
    · refine ⟨chunk.bytes, ⟨arrivals, receiveEnding, sendFailure, written⟩, ?_, chunk.bytes_ne,
        by omega, rfl⟩
      dsimp only
      rw [dif_neg hlong]
      dsimp only
      rw [hsome _ chunk.bytes_ne]

/-- The loop reads the rest of the bytes, in whatever pieces they come. -/
theorem readLoop_spec (count : ℕ) (received : Data) (c : Connection)
    (hle : received.length ≤ count) :
    Completes Connection.left c received (count - received.length) (readLoop count received c) := by
  fun_induction readLoop count received c with
  | case1 received c hlt e d hchunk =>
    obtain ⟨_, _, h, -⟩ | ⟨_, h, hleft⟩ := receiveChunk_cases (Nat.sub_pos_of_lt hlt) c
    · exact absurd (h.symm.trans hchunk) nofun
    · obtain ⟨-, rfl⟩ := EStateM.Result.error.inj (h.symm.trans hchunk)
      exact Completes.ended _ hleft (by omega)
  | case2 received c hlt d hchunk =>
    obtain ⟨next, _, h, hne, -⟩ | ⟨_, h, -⟩ := receiveChunk_cases (Nat.sub_pos_of_lt hlt) c
    · exact absurd (EStateM.Result.ok.inj (h.symm.trans hchunk)).1 hne
    · exact absurd (h.symm.trans hchunk) nofun
  | case3 received c hlt next d hchunk hne ih =>
    obtain ⟨next', d', h, -, hlength, hleft⟩ | ⟨_, h, -⟩ :=
      receiveChunk_cases (Nat.sub_pos_of_lt hlt) c
    · obtain ⟨rfl, rfl⟩ := EStateM.Result.ok.inj (h.symm.trans hchunk)
      refine Completes.arrived hleft hlength ?_
      have hrest := ih (by rw [List.length_append]; omega)
      rw [List.length_append, Nat.sub_add_eq] at hrest
      exact hrest
    · exact absurd (h.symm.trans hchunk) nofun
  | case4 received c hlt =>
    obtain rfl : received.length = count := by omega
    rw [Nat.sub_self]
    exact Completes.done c received

/-- `readExactly` reads exactly, whatever the pieces are. -/
theorem readsExactly : ReadsExactly Connection.left readExactly := fun count c =>
  readLoop_spec count [] c (Nat.zero_le count)

/-- `receive` follows the framing of the stream. -/
theorem follows : Follows Frame.wire Connection.left receive :=
  Frame.follows_receive readsExactly .invalidFrameLength

theorem write_written (bytes : Data) (c d : Connection) (h : write bytes c = .ok () d) :
    d.written = c.written ++ bytes := by
  unfold write at h
  split at h
  · exact absurd h nofun
  · obtain ⟨-, rfl⟩ := EStateM.Result.ok.inj h
    rfl

theorem write_returns (bytes : Data) (c : Connection) (hc : c.sendFailure = none) :
    ∃ d, write bytes c = .ok () d ∧ d.sendFailure = none := by
  refine ⟨{ c with written := c.written ++ bytes }, ?_, hc⟩
  rw [write, hc]

end BonjourTransport

end DSEmu

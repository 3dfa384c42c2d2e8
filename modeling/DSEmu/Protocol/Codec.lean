import DSEmu.Protocol.Message
import Mathlib.Order.Basic

/-!
# The wire codec

`TwoPhoneMessage.encodedPayload`, `TwoPhoneMessage.decode`, and the `ByteWriter` and `ByteReader` of
`DSEmu/TwoPhone/TwoPhoneProtocol.swift`. Swift's overloaded `append` is one definition for each type
that it takes. A reader keeps that its offset is inside the payload, so what it has left is a list,
`left`; a `mutating` method that may throw is a computation over the reader.

A count is a natural number, so the guard `count >= 0` of `readData` always holds here. It always
holds in the code too: the counts that are asked for are 32, a `UInt16`, and `data.count - offset`.
-/

namespace DSEmu

/-- The first byte of a payload. -/
inductive MessageType where
  | hello
  | snapshot
  | ready
  | input
  | acknowledgement
  | finish
  | finishAcknowledgement
  | start
  | failure
  deriving DecidableEq, Repr

/-- `MessageType.rawValue`. -/
def MessageType.rawValue : MessageType → UInt8
  | hello => 1
  | snapshot => 2
  | ready => 3
  | input => 4
  | acknowledgement => 5
  | finish => 6
  | finishAcknowledgement => 7
  | start => 8
  | failure => 255

/-- `MessageType.init?(rawValue:)`. -/
def MessageType.ofRawValue? (rawValue : UInt8) : Option MessageType :=
  [hello, snapshot, ready, input, acknowledgement, finish, finishAcknowledgement, start,
    failure].find? fun type => type.rawValue == rawValue

/-- A type is read back. -/
@[simp] theorem MessageType.ofRawValue?_rawValue (type : MessageType) :
    ofRawValue? type.rawValue = some type := by
  cases type <;> rfl

/-- `ByteWriter`. -/
@[ext] structure ByteWriter where
  data : Data := []

namespace ByteWriter

/-- `appendUInt8`. -/
def appendUInt8 (value : UInt8) (writer : ByteWriter) : ByteWriter :=
  { writer with data := writer.data ++ [value] }

/-- `appendUInt16`, with the high byte first. -/
def appendUInt16 (value : UInt16) (writer : ByteWriter) : ByteWriter :=
  (writer.appendUInt8 (value >>> 8).toUInt8).appendUInt8 value.toUInt8

/-- The loop runs over `stride(from: 56, through: 0, by: -8)`. -/
def appendUInt64 (value : UInt64) (writer : ByteWriter) : ByteWriter :=
  ([56, 48, 40, 32, 24, 16, 8, 0] : List UInt64).foldl
    (fun writer shift => writer.appendUInt8 (value >>> shift).toUInt8) writer

/-- `appendData`. -/
def appendData (bytes : Data) (writer : ByteWriter) : ByteWriter :=
  { writer with data := writer.data ++ bytes }

/-- `Data(string.utf8)`. -/
def utf8 (string : String) : Data := string.toUTF8.data.toList

/-- `appendString`, which throws where the length does not fit. -/
def appendString (string : String) (writer : ByteWriter) :
    Except TwoPhoneProtocolError ByteWriter :=
  if (utf8 string).length ≤ 65535 then
    .ok ((writer.appendUInt16 (.ofNat (utf8 string).length)).appendData (utf8 string))
  else
    .error (.malformed "text field exceeds 65535 bytes")

end ByteWriter

/-- `ByteReader`: a payload and the offset of the next byte. -/
structure ByteReader where
  data : Data
  offset : ℕ := 0
  offset_le : offset ≤ data.length := by exact Nat.zero_le _

/-- A `mutating` method of `ByteReader` that may throw. -/
abbrev Reading := StateT ByteReader (Except TwoPhoneProtocolError)

namespace ByteReader

/-- The bytes that are still to be read. -/
def left (reader : ByteReader) : Data := reader.data.drop reader.offset

/-- `isAtEnd`. -/
def isAtEnd (reader : ByteReader) : Bool := reader.offset == reader.data.length

/-- `readUInt8`. -/
def readUInt8 : Reading UInt8 := fun reader =>
  if h : reader.offset < reader.data.length then
    .ok (reader.data[reader.offset], { reader with offset := reader.offset + 1, offset_le := h })
  else
    .error (.malformed "unexpected end of payload")

/-- `readUInt16`. -/
def readUInt16 : Reading UInt16 := do
  let high := (← readUInt8).toUInt16
  let low := (← readUInt8).toUInt16
  return (high <<< 8) ||| low

/-- The loop runs over `0..<8`. -/
def readUInt64 : Reading UInt64 :=
  (List.range 8).foldlM (fun value _ => do
    let byte ← readUInt8
    return (value <<< 8) ||| byte.toUInt64) 0

/-- `readData(count:)`. -/
def readData (count : ℕ) : Reading Data := fun reader =>
  if h : reader.offset + count ≤ reader.data.length then
    .ok ((reader.data.drop reader.offset).take count,
      { reader with offset := reader.offset + count, offset_le := h })
  else
    .error (.malformed "byte field exceeds payload")

/-- `readRemainingData`. -/
def readRemainingData : Reading Data := do
  let reader ← get
  readData (reader.data.length - reader.offset)

/-- `readString`. -/
def readString : Reading String := do
  let byteCount := (← readUInt16).toNat
  let bytes ← readData byteCount
  match String.fromUTF8? ⟨bytes.toArray⟩ with
  | some value => return value
  | none => throw (.malformed "invalid UTF-8")

end ByteReader

namespace TwoPhoneMessage

/-- The fields of a message, appended to the empty writer: the `switch` of `encodedPayload`. -/
def write (message : TwoPhoneMessage) : Except TwoPhoneProtocolError ByteWriter :=
  let writer : ByteWriter := {}
  match message with
  | hello version romSHA256 =>
    if romSHA256.length = 32 then
      .ok (writer |>.appendUInt8 MessageType.hello.rawValue |>.appendUInt16 version
        |>.appendData romSHA256)
    else
      .error (.malformed "ROM SHA-256 must contain 32 bytes")
  | snapshot state stateHash =>
    .ok (writer |>.appendUInt8 MessageType.snapshot.rawValue |>.appendUInt64 stateHash
      |>.appendData state)
  | ready => .ok (writer.appendUInt8 MessageType.ready.rawValue)
  | start => .ok (writer.appendUInt8 MessageType.start.rawValue)
  | input i =>
    .ok (writer |>.appendUInt8 MessageType.input.rawValue |>.appendUInt64 i.frame
      |>.appendUInt16 i.keyMask |>.appendUInt8 (if i.touchActive then 1 else 0)
      |>.appendUInt16 i.touchX |>.appendUInt16 i.touchY)
  | acknowledgement a =>
    let writer := writer |>.appendUInt8 MessageType.acknowledgement.rawValue
      |>.appendUInt64 a.frame |>.appendUInt64 a.processingNanoseconds
      |>.appendUInt8 (if a.digest = none then 0 else 1)
    match a.digest with
    | some digest =>
      .ok (writer |>.appendUInt64 digest.state |>.appendUInt64 digest.top
        |>.appendUInt64 digest.bottom)
    | none => .ok writer
  | finish frame success detail =>
    writer |>.appendUInt8 MessageType.finish.rawValue |>.appendUInt64 frame
      |>.appendUInt8 (if success then 1 else 0) |>.appendString detail
  | finishAcknowledgement => .ok (writer.appendUInt8 MessageType.finishAcknowledgement.rawValue)
  | failure detail =>
    writer |>.appendUInt8 MessageType.failure.rawValue |>.appendString detail

/-- `encodedPayload()`. -/
def encodedPayload (message : TwoPhoneMessage) : Except TwoPhoneProtocolError Data := do
  let writer ← message.write
  if writer.data.length ≤ maximumPayloadLength then
    return writer.data
  else
    throw (.oversizedMessage writer.data.length)

/-- The fields of a message of a type: the `switch` of `decode(payload:)`. -/
def readFields : MessageType → Reading TwoPhoneMessage
  | .hello => do
    let version ← ByteReader.readUInt16
    let romSHA256 ← ByteReader.readData 32
    return hello version romSHA256
  | .snapshot => do
    let stateHash ← ByteReader.readUInt64
    let state ← ByteReader.readRemainingData
    return snapshot state stateHash
  | .ready => return ready
  | .start => return start
  | .input => do
    let frame ← ByteReader.readUInt64
    let keyMask ← ByteReader.readUInt16
    let active := (← ByteReader.readUInt8) != 0
    let x ← ByteReader.readUInt16
    let y ← ByteReader.readUInt16
    return input { frame, keyMask, touchX := x, touchY := y, touchActive := active }
  | .acknowledgement => do
    let frame ← ByteReader.readUInt64
    let processingNanoseconds ← ByteReader.readUInt64
    let hasDigest := (← ByteReader.readUInt8) != 0
    let digest ← if hasDigest then do
        let state ← ByteReader.readUInt64
        let top ← ByteReader.readUInt64
        let bottom ← ByteReader.readUInt64
        pure (some ({ frame, state, top, bottom } : EmulatorDigest))
      else pure none
    return acknowledgement { frame, digest, processingNanoseconds }
  | .finish => do
    let frame ← ByteReader.readUInt64
    let success := (← ByteReader.readUInt8) != 0
    let detail ← ByteReader.readString
    return finish frame success detail
  | .finishAcknowledgement => return finishAcknowledgement
  | .failure => do
    let detail ← ByteReader.readString
    return failure detail

/-- `decode(payload:)`. -/
def decode (payload : Data) : Except TwoPhoneProtocolError TwoPhoneMessage := do
  if maximumPayloadLength < payload.length then
    throw (.oversizedMessage payload.length)
  let (rawType, reader) ← ByteReader.readUInt8.run { data := payload }
  match MessageType.ofRawValue? rawType with
  | none => throw (.unsupportedMessage rawType)
  | some type =>
    let (message, reader) ← (readFields type).run reader
    if reader.isAtEnd then
      return message
    else
      throw (.malformed "trailing bytes")

end TwoPhoneMessage

end DSEmu

import DSEmu.Library.Reads
import DSEmu.Protocol.Codec
import Mathlib.Data.Nat.Bitwise

/-!
# The decoder undoes the encoder

A payload is the byte of the message's type and then `fields`, the bytes of its fields in the order
in which the encoder writes them. On one side `write_eq` shows that the encoder writes exactly these
wherever the lengths allow it (`Fits`); on the other `readsToEnd_readFields` shows, by the rules of
`Reads`, that the decoder reads them back. The one field that does not travel is the frame of an
acknowledged digest, which comes back as the frame of the acknowledgement (`framed`).
-/

namespace DSEmu

/-- The two bytes of a `UInt16`, the high byte first. -/
def bytes16 (value : UInt16) : Data := [(value >>> 8).toUInt8, value.toUInt8]

/-- The eight bytes of a `UInt64`, the high byte first. -/
def bytes64 (value : UInt64) : Data :=
  ([56, 48, 40, 32, 24, 16, 8, 0] : List UInt64).map fun shift => (value >>> shift).toUInt8

/-- A word of 16 bits has two bytes. -/
@[simp] theorem length_bytes16 (value : UInt16) : (bytes16 value).length = 2 := rfl

/-- A word of 64 bits has eight bytes. -/
@[simp] theorem length_bytes64 (value : UInt64) : (bytes64 value).length = 8 := rfl

/-- A number is its digits above a byte, shifted past that byte, and the byte. -/
theorem shiftLeft_or_byte (n k : ℕ) : (n / 2 ^ (k + 8)) <<< 8 ||| n / 2 ^ k % 256 = n / 2 ^ k := by
  have hbyte : n / 2 ^ k % 256 < 2 ^ 8 := Nat.mod_lt _ (by decide)
  rw [← Nat.shiftLeft_add_eq_or_of_lt hbyte, Nat.shiftLeft_eq, Nat.pow_add,
    ← Nat.div_div_eq_div_mul]
  show n / 2 ^ k / 256 * 256 + n / 2 ^ k % 256 = n / 2 ^ k
  omega

/-- The digits above a byte, shifted past that byte, are not above the number. -/
theorem shiftLeft_div_le (n k : ℕ) : (n / 2 ^ (k + 8)) <<< 8 ≤ n := by
  rw [Nat.shiftLeft_eq, Nat.pow_add, ← Nat.div_div_eq_div_mul]
  have := Nat.div_le_self n (2 ^ k)
  show n / 2 ^ k / 256 * 256 ≤ n
  omega

/-- Reading one more byte of a `UInt64`: the loop holds the value shifted right past the bytes that
are still to come. -/
theorem uint64_byte (value high low : UInt64) (hlow : high.toNat = low.toNat + 8)
    (hhigh : high.toNat < 64) :
    ((value >>> high) <<< 8) ||| (value >>> low).toUInt8.toUInt64 = value >>> low := by
  apply UInt64.toNat_inj.mp
  rw [UInt64.toNat_or, UInt64.toNat_shiftLeft, UInt8.toNat_toUInt64, UInt64.toNat_toUInt8,
    UInt64.toNat_shiftRight, UInt64.toNat_shiftRight, Nat.mod_eq_of_lt hhigh,
    Nat.mod_eq_of_lt (by omega : low.toNat < 64), Nat.shiftRight_eq_div_pow,
    Nat.shiftRight_eq_div_pow, hlow]
  show (value.toNat / 2 ^ (low.toNat + 8)) <<< 8 % 2 ^ 64 ||| _ = _
  rw [Nat.mod_eq_of_lt ((shiftLeft_div_le _ _).trans_lt value.toNat_lt)]
  exact shiftLeft_or_byte value.toNat low.toNat

/-- The eight rounds of the loop put the value together again. -/
theorem foldl_bytes64 (value : UInt64) :
    (bytes64 value).foldl (fun (v : UInt64) byte => (v <<< 8) ||| byte.toUInt64) 0 = value := by
  have hfirst : ((0 : UInt64) <<< 8) ||| (value >>> 56).toUInt8.toUInt64 = value >>> 56 := by
    apply UInt64.toNat_inj.mp
    have := value.toNat_lt
    simp [UInt64.toNat_shiftRight, Nat.shiftRight_eq_div_pow]
    omega
  have hround := uint64_byte value
  simp only [bytes64, List.map_cons, List.map_nil, List.foldl_cons, List.foldl_nil]
  rw [hfirst, hround 56 48 rfl (by decide), hround 48 40 rfl (by decide),
    hround 40 32 rfl (by decide), hround 32 24 rfl (by decide), hround 24 16 rfl (by decide),
    hround 16 8 rfl (by decide), hround 8 0 rfl (by decide)]
  exact UInt64.shiftRight_zero

/-- The two bytes of a `UInt16` put it together again. -/
theorem uint16_bytes (value : UInt16) :
    ((value >>> 8).toUInt8.toUInt16 <<< 8) ||| value.toUInt8.toUInt16 = value := by
  apply UInt16.toNat_inj.mp
  have hlt := value.toNat_lt
  have hhigh : value.toNat >>> 8 % 2 ^ 8 = value.toNat / 2 ^ (0 + 8) := by
    rw [Nat.shiftRight_eq_div_pow]
    omega
  rw [UInt16.toNat_or, UInt16.toNat_shiftLeft, UInt8.toNat_toUInt16, UInt8.toNat_toUInt16,
    UInt16.toNat_toUInt8, UInt16.toNat_toUInt8, UInt16.toNat_shiftRight]
  show (value.toNat >>> 8 % 2 ^ 8) <<< 8 % 2 ^ 16 ||| value.toNat % 256 = value.toNat
  rw [hhigh, Nat.mod_eq_of_lt ((shiftLeft_div_le _ _).trans_lt hlt)]
  have := shiftLeft_or_byte value.toNat 0
  rwa [Nat.pow_zero, Nat.div_one] at this

section Written

open ByteWriter

variable (writer : ByteWriter)

/-- A byte is appended. -/
@[simp] theorem appendUInt8_data (value : UInt8) :
    (writer.appendUInt8 value).data = writer.data ++ [value] := rfl

/-- A word of 16 bits is appended. -/
@[simp] theorem appendUInt16_data (value : UInt16) :
    (writer.appendUInt16 value).data = writer.data ++ bytes16 value := by
  rw [appendUInt16, appendUInt8_data, appendUInt8_data, List.append_assoc]
  rfl

/-- A word of 64 bits is appended. -/
@[simp] theorem appendUInt64_data (value : UInt64) :
    (writer.appendUInt64 value).data = writer.data ++ bytes64 value := by
  simp [appendUInt64, bytes64]

/-- Bytes are appended. -/
@[simp] theorem appendData_data (bytes : Data) :
    (writer.appendData bytes).data = writer.data ++ bytes := rfl

/-- The bytes of a text: its length and its UTF-8 bytes. -/
def stringBytes (string : String) : Data :=
  bytes16 (.ofNat (utf8 string).length) ++ utf8 string

/-- A text is written exactly when its length fits a `UInt16`. -/
theorem appendString_eq (string : String) :
    writer.appendString string = if (utf8 string).length ≤ 65535 then
      .ok { data := writer.data ++ stringBytes string }
    else .error (.malformed "text field exceeds 65535 bytes") := by
  unfold appendString
  split
  · rw [stringBytes, ← List.append_assoc, ← appendUInt16_data]
    rfl
  · rfl

end Written

section Read

open ByteReader

/-- A byte is read back. -/
theorem reads_readUInt8 (byte : UInt8) : Reads left readUInt8 [byte] byte := by
  intro reader rest h
  have hlt : reader.offset < reader.data.length := by
    by_contra hge
    rw [left, List.drop_eq_nil_of_le (Nat.le_of_not_lt hge)] at h
    exact absurd h.symm (List.cons_ne_nil _ _)
  rw [left, List.drop_eq_getElem_cons hlt] at h
  obtain ⟨hbyte, hrest⟩ := List.cons.inj h
  refine ⟨{ reader with offset := reader.offset + 1, offset_le := hlt }, ?_, hrest⟩
  show readUInt8 reader = _
  rw [readUInt8, dif_pos hlt, hbyte]

/-- As many bytes as are there are read back. -/
theorem reads_readData (bytes : Data) : Reads left (readData bytes.length) bytes bytes := by
  intro reader rest h
  have hle : reader.offset + bytes.length ≤ reader.data.length := by
    have := congrArg List.length h
    rw [left, List.length_drop, List.length_append] at this
    have := reader.offset_le
    omega
  refine ⟨{ reader with offset := reader.offset + bytes.length, offset_le := hle }, ?_, ?_⟩
  · show readData bytes.length reader = _
    rw [readData, dif_pos hle]
    rw [left] at h
    rw [h, List.take_left]
  · rw [left] at h ⊢
    rw [← List.drop_drop, h, List.drop_left]

/-- The remaining bytes are read back. -/
theorem readsToEnd_readRemainingData (bytes : Data) :
    ReadsToEnd left readRemainingData bytes bytes := by
  intro reader h
  have hlength : reader.data.length - reader.offset = bytes.length := by
    rw [← h, left, List.length_drop]
  have := (reads_readData bytes).toEnd reader h
  rw [← hlength] at this
  exact this

/-- A word of 16 bits is read back. -/
theorem reads_readUInt16 (value : UInt16) : Reads left readUInt16 (bytes16 value) value := by
  have hlow := (reads_readUInt8 value.toUInt8).bindPure fun low =>
    ((value >>> 8).toUInt8.toUInt16 <<< 8) ||| low.toUInt16
  rw [uint16_bytes] at hlow
  exact (reads_readUInt8 (value >>> 8).toUInt8).bind hlow

/-- A word of 64 bits is read back. -/
theorem reads_readUInt64 (value : UInt64) : Reads left readUInt64 (bytes64 value) value := by
  have := Reads.foldlM (fun (v : UInt64) byte => (v <<< 8) ||| byte.toUInt64) reads_readUInt8
    (List.range 8) (bytes64 value) 0 rfl
  rwa [foldl_bytes64] at this

/-- The UTF-8 bytes of a text are a text, the same one. -/
theorem fromUTF8?_utf8 (string : String) :
    String.fromUTF8? ⟨(ByteWriter.utf8 string).toArray⟩ = some string := by
  have hbytes : (⟨(ByteWriter.utf8 string).toArray⟩ : ByteArray) = string.toByteArray := by
    rw [ByteWriter.utf8, Array.toArray_toList]
    rfl
  rw [hbytes, String.fromUTF8?, dif_pos string.isValidUTF8]
  rfl

/-- A string is read back where its length fits. -/
theorem reads_readString (string : String) (hlength : (ByteWriter.utf8 string).length ≤ 65535) :
    Reads left readString (stringBytes string) string := by
  have hcount : (UInt16.ofNat (ByteWriter.utf8 string).length).toNat =
      (ByteWriter.utf8 string).length := by
    rw [UInt16.toNat_ofNat']
    omega
  have hdata := reads_readData (ByteWriter.utf8 string)
  rw [← hcount] at hdata
  refine (reads_readUInt16 _).bind (hdata.bind_nil ?_)
  rw [fromUTF8?_utf8]
  exact Reads.pure string

end Read

namespace FrameAcknowledgement

/-- The acknowledgement whose digest, if it has one, names the acknowledgement's own frame. -/
def framed (a : FrameAcknowledgement) : FrameAcknowledgement :=
  { a with digest := a.digest.map fun d => { d with frame := a.frame } }

/-- A digest of the acknowledgement names the acknowledgement's own frame. -/
def HasFramedDigest (a : FrameAcknowledgement) : Prop := ∀ d, a.digest = some d → d.frame = a.frame

/-- An acknowledgement that encoding does not change. -/
theorem framed_eq_iff (a : FrameAcknowledgement) : a.framed = a ↔ a.HasFramedDigest := by
  obtain ⟨frame, digest, processingNanoseconds⟩ := a
  cases digest with
  | none => simp [framed, HasFramedDigest]
  | some d =>
    obtain ⟨f, state, top, bottom⟩ := d
    simp [framed, HasFramedDigest, eq_comm]

end FrameAcknowledgement

namespace TwoPhoneMessage

/-- The message that is decoded from the payload of a message. -/
def framed : TwoPhoneMessage → TwoPhoneMessage
  | acknowledgement a => acknowledgement a.framed
  | m => m

/-- A digest in the message names the frame of the acknowledgement that it is in. -/
def HasFramedDigest (m : TwoPhoneMessage) : Prop :=
  ∀ a, m = acknowledgement a → a.HasFramedDigest

/-- A message that encoding does not change. -/
theorem framed_eq_iff (m : TwoPhoneMessage) : m.framed = m ↔ m.HasFramedDigest := by
  cases m with
  | acknowledgement a => simp [framed, HasFramedDigest, a.framed_eq_iff]
  | _ => simp [framed, HasFramedDigest]

/-- The lengths that a payload can hold. A snapshot shares it with the type and the state hash. -/
def Fits : TwoPhoneMessage → Prop
  | hello _ romSHA256 => romSHA256.length = 32
  | snapshot state _ => state.length ≤ maximumPayloadLength - 9
  | finish _ _ detail => detail.utf8ByteSize ≤ 65535
  | failure detail => detail.utf8ByteSize ≤ 65535
  | _ => True

/-- The type of a message. -/
def type : TwoPhoneMessage → MessageType
  | hello _ _ => .hello
  | snapshot _ _ => .snapshot
  | ready => .ready
  | start => .start
  | input _ => .input
  | acknowledgement _ => .acknowledgement
  | finish _ _ _ => .finish
  | finishAcknowledgement => .finishAcknowledgement
  | failure _ => .failure

/-- The byte of a flag. -/
def flagByte (flag : Bool) : UInt8 := if flag then 1 else 0

/-- The bytes of a digest, without its frame. -/
def digestBytes (d : EmulatorDigest) : Data :=
  bytes64 d.state ++ (bytes64 d.top ++ bytes64 d.bottom)

/-- The bytes of a message's fields. -/
def fields : TwoPhoneMessage → Data
  | hello version romSHA256 => bytes16 version ++ romSHA256
  | snapshot state stateHash => bytes64 stateHash ++ state
  | input i =>
    bytes64 i.frame ++ (bytes16 i.keyMask ++ ([flagByte i.touchActive] ++
      (bytes16 i.touchX ++ bytes16 i.touchY)))
  | acknowledgement a =>
    bytes64 a.frame ++ (bytes64 a.processingNanoseconds ++ ([flagByte a.digest.isSome] ++
      (a.digest.map digestBytes).getD []))
  | finish frame success detail => bytes64 frame ++ ([flagByte success] ++ stringBytes detail)
  | failure detail => stringBytes detail
  | _ => []

/-- The flag of a message, where it has one. -/
def flag : TwoPhoneMessage → Bool
  | input i => i.touchActive
  | acknowledgement a => a.digest.isSome
  | finish _ success _ => success
  | _ => false

/-- The bytes of a message's fields with another byte in the place of its flag. -/
def fieldsWith (flag : UInt8) : TwoPhoneMessage → Data
  | input i =>
    bytes64 i.frame ++ (bytes16 i.keyMask ++ ([flag] ++ (bytes16 i.touchX ++ bytes16 i.touchY)))
  | acknowledgement a =>
    bytes64 a.frame ++ (bytes64 a.processingNanoseconds ++ ([flag] ++
      (a.digest.map digestBytes).getD []))
  | finish frame _ detail => bytes64 frame ++ ([flag] ++ stringBytes detail)
  | m => m.fields

/-- The fields with the flag byte that is written. -/
theorem fieldsWith_flagByte (m : TwoPhoneMessage) : m.fieldsWith (flagByte m.flag) = m.fields := by
  cases m <;> rfl

/-- The payload of a message: the byte of its type, and its fields. -/
def payload (m : TwoPhoneMessage) : Data := m.type.rawValue :: m.fields

/-- The length of a string in bytes. -/
theorem length_utf8 (string : String) : (ByteWriter.utf8 string).length = string.utf8ByteSize := rfl

/-- A string is written with its length. -/
theorem length_stringBytes (string : String) :
    (stringBytes string).length = 2 + string.utf8ByteSize := by
  rw [stringBytes, List.length_append, length_bytes16, length_utf8]

/-- The lengths that the writer itself checks. -/
def FieldsFit : TwoPhoneMessage → Prop
  | hello _ romSHA256 => romSHA256.length = 32
  | finish _ _ detail => detail.utf8ByteSize ≤ 65535
  | failure detail => detail.utf8ByteSize ≤ 65535
  | _ => True

/-- The length of a payload, for the messages that have one. -/
theorem fits_iff (m : TwoPhoneMessage) :
    m.Fits ↔ m.FieldsFit ∧ m.payload.length ≤ maximumPayloadLength := by
  have hmax : maximumPayloadLength = 41943040 := rfl
  cases m with
  | hello version romSHA256 =>
    simp only [Fits, FieldsFit, payload, fields, List.length_cons, List.length_append,
      length_bytes16]
    omega
  | snapshot state stateHash =>
    simp only [Fits, FieldsFit, payload, fields, List.length_cons, List.length_append,
      length_bytes64, true_and]
    omega
  | acknowledgement a =>
    -- at most a digest follows the fixed fields
    have hdigest : ((a.digest.map digestBytes).getD []).length ≤ 24 := by
      cases a.digest <;> simp [digestBytes]
    simp only [Fits, FieldsFit, payload, fields, List.length_cons, List.length_append,
      length_bytes64, List.length_nil, true_and, true_iff]
    omega
  | finish frame success detail =>
    simp only [Fits, FieldsFit, payload, fields, List.length_cons, List.length_append,
      length_bytes64, length_stringBytes, List.length_nil]
    omega
  | failure detail =>
    simp only [Fits, FieldsFit, payload, fields, List.length_cons, length_stringBytes]
    omega
  | _ => simp [Fits, FieldsFit, payload, fields, hmax]

/-- The encoder's `switch` succeeds where the lengths that it checks allow it, with the payload. -/
theorem write_eq_ok (m : TwoPhoneMessage) (writer : ByteWriter) :
    m.write = .ok writer ↔ m.FieldsFit ∧ m.payload = writer.data := by
  cases m with
  | hello version romSHA256 =>
    simp only [write, payload, fields, type, FieldsFit]
    split_ifs with h <;> simp [h, ByteWriter.ext_iff]
  | acknowledgement a =>
    obtain ⟨frame, digest, processingNanoseconds⟩ := a
    cases digest <;>
      simp [write, payload, fields, type, FieldsFit, ByteWriter.ext_iff, flagByte, digestBytes]
  | finish frame success detail =>
    simp only [write, payload, fields, type, FieldsFit, appendString_eq, length_utf8]
    split_ifs with h <;> simp [h, ByteWriter.ext_iff, flagByte]
  | failure detail =>
    simp only [write, payload, fields, type, FieldsFit, appendString_eq, length_utf8]
    split_ifs with h <;> simp [h, ByteWriter.ext_iff]
  | _ => simp [write, payload, fields, type, FieldsFit, ByteWriter.ext_iff, flagByte]

/-- The encoder succeeds exactly on the messages that fit, with the payload. -/
theorem encodedPayload_eq_ok (m : TwoPhoneMessage) (bytes : Data) :
    m.encodedPayload = .ok bytes ↔ m.Fits ∧ m.payload = bytes := by
  rw [fits_iff]
  by_cases hfields : m.FieldsFit
  · have hwrite := (write_eq_ok m { data := m.payload }).mpr ⟨hfields, rfl⟩
    rw [encodedPayload, hwrite]
    show (if m.payload.length ≤ maximumPayloadLength then _ else _) = _ ↔ _
    split_ifs with hlength
    · simp [hfields, hlength, pure, Except.pure]
    · simp [hlength]
  · have hwrite : ∃ error, m.write = .error error := by
      cases h : m.write with
      | error error => exact ⟨error, rfl⟩
      | ok writer => exact absurd ((write_eq_ok m writer).mp h).1 hfields
    obtain ⟨error, hwrite⟩ := hwrite
    simp [encodedPayload, hwrite, hfields, bind, Except.bind]

/-- A flag is read back as the flag. -/
theorem flagByte_bne (flag : Bool) : (flagByte flag != 0) = flag := by
  cases flag <;> rfl

/-- The decoder's `switch` reads the fields of a message back, up to the frame of a digest. Any byte
but zero is a flag that is set. -/
theorem readsToEnd_readFields (m : TwoPhoneMessage) (h : m.Fits) {flag : UInt8}
    (hflag : (flag != 0) = m.flag) :
    ReadsToEnd ByteReader.left (readFields m.type) (m.fieldsWith flag) m.framed := by
  cases m with
  | hello version romSHA256 =>
    have hhash := reads_readData romSHA256
    rw [show romSHA256.length = 32 from h] at hhash
    exact ((reads_readUInt16 version).bind (hhash.bindPure (hello version))).toEnd
  | snapshot state stateHash =>
    exact (reads_readUInt64 stateHash).bindToEnd
      ((readsToEnd_readRemainingData state).bind (Reads.pure (snapshot state stateHash)))
  | ready => exact (Reads.pure ready).toEnd
  | start => exact (Reads.pure start).toEnd
  | finishAcknowledgement => exact (Reads.pure finishAcknowledgement).toEnd
  | input i =>
    refine ((reads_readUInt64 i.frame).bind ((reads_readUInt16 i.keyMask).bind
      ((reads_readUInt8 flag).bind ?_))).toEnd
    rw [show (flag != 0) = i.touchActive from hflag]
    exact (reads_readUInt16 i.touchX).bind ((reads_readUInt16 i.touchY).bindPure fun y =>
      input ⟨i.frame, i.keyMask, i.touchX, y, i.touchActive⟩)
  | acknowledgement a =>
    refine ((reads_readUInt64 a.frame).bind ((reads_readUInt64 a.processingNanoseconds).bind
      ((reads_readUInt8 flag).bind ?_))).toEnd
    rw [show (flag != 0) = a.digest.isSome from hflag, framed, FrameAcknowledgement.framed]
    -- a digest is read only where the flag says that there is one
    cases a.digest with
    | none => exact Reads.pure _
    | some d =>
      exact (reads_readUInt64 d.state).bind ((reads_readUInt64 d.top).bind
        ((reads_readUInt64 d.bottom).bindPure fun bottom =>
          acknowledgement ⟨a.frame, some ⟨a.frame, d.state, d.top, bottom⟩,
            a.processingNanoseconds⟩))
  | finish frame success detail =>
    have hlength := (length_utf8 detail).trans_le h
    refine ((reads_readUInt64 frame).bind ((reads_readUInt8 flag).bind ?_)).toEnd
    rw [show (flag != 0) = success from hflag]
    exact (reads_readString detail hlength).bindPure (finish frame success)
  | failure detail =>
    have hlength := (length_utf8 detail).trans_le h
    exact ((reads_readString detail hlength).bindPure failure).toEnd

/-- The number of bytes does not depend on the byte of the flag. -/
theorem length_fieldsWith (m : TwoPhoneMessage) (flag : UInt8) :
    (m.fieldsWith flag).length = m.fields.length := by
  cases m <;> simp [fieldsWith, fields]

/-- The decoder on the bytes of a message, with any byte for its flag. -/
theorem decode_fieldsWith (m : TwoPhoneMessage) (h : m.Fits) {flag : UInt8}
    (hflag : (flag != 0) = m.flag) :
    decode (m.type.rawValue :: m.fieldsWith flag) = .ok m.framed := by
  have hlength : (m.type.rawValue :: m.fieldsWith flag).length ≤ maximumPayloadLength := by
    rw [List.length_cons, length_fieldsWith]
    exact ((fits_iff m).mp h).2
  obtain ⟨reader, hread, hleft⟩ := reads_readUInt8 m.type.rawValue
    { data := m.type.rawValue :: m.fieldsWith flag } (m.fieldsWith flag) rfl
  obtain ⟨reader', hread', hend⟩ := readsToEnd_readFields m h hflag reader hleft
  have hatEnd : reader'.isAtEnd = true := by
    have hle := List.drop_eq_nil_iff.mp hend
    have := reader'.offset_le
    rw [ByteReader.isAtEnd, beq_iff_eq]
    omega
  rw [decode, if_neg (by omega)]
  show (ByteReader.readUInt8.run _ >>= _) = _
  rw [hread, ok_bind]
  dsimp only
  rw [MessageType.ofRawValue?_rawValue]
  show ((readFields m.type).run reader >>= _) = _
  rw [hread']
  show (if reader'.isAtEnd = true then _ else _) = _
  rw [if_pos hatEnd]
  rfl

/-- The decoder on a payload of the encoder. -/
theorem decode_payload (m : TwoPhoneMessage) (h : m.Fits) : decode m.payload = .ok m.framed := by
  rw [payload, ← fieldsWith_flagByte]
  exact decode_fieldsWith m h (flagByte_bne m.flag)

end TwoPhoneMessage

end DSEmu

import DSEmu.Protocol.RoundTrip
import Mathlib.Data.List.Induction

/-!
# What the decoder accepts

`Layout type rest` says what the bytes after the byte of a type have to be, field by field, without
a word about messages. The decoder accepts exactly the payloads of this grammar
(`decoder_accepts_exactly`): where it succeeds, the rules of `Consumes` say which bytes it has taken
for each field, and where the bytes have the layout, the fields are those of a message that it reads
back. A payload is not always what the encoder writes for its message: any byte but zero sets a
flag, and the encoder writes 1 (`normalized`).
-/

namespace DSEmu

/-- One more byte of a `UInt64` in the making. -/
theorem toNat_shiftLeft_or (value : UInt64) (byte : UInt8) :
    ((value <<< 8) ||| byte.toUInt64).toNat = value.toNat % 2 ^ 56 * 256 + byte.toNat := by
  have hbyte : byte.toNat < 2 ^ 8 := byte.toNat_lt
  have hshift : (value <<< 8).toNat = (value.toNat % 2 ^ 56) <<< 8 := by
    rw [UInt64.toNat_shiftLeft, Nat.shiftLeft_eq, Nat.shiftLeft_eq]
    show value.toNat * 256 % 2 ^ 64 = value.toNat % 2 ^ 56 * 256
    omega
  rw [UInt64.toNat_or, hshift, UInt8.toNat_toUInt64, ← Nat.shiftLeft_add_eq_or_of_lt hbyte,
    Nat.shiftLeft_eq]

/-- The value of up to eight bytes, the high byte first. -/
def value64 (bytes : Data) : UInt64 := bytes.foldl (fun v byte => (v <<< 8) ||| byte.toUInt64) 0

/-- One more byte of a word. -/
theorem value64_concat (bytes : Data) (byte : UInt8) :
    value64 (bytes ++ [byte]) = (value64 bytes <<< 8) ||| byte.toUInt64 := by
  rw [value64, List.foldl_append]
  rfl

/-- A word of some bytes. -/
theorem value64_lt (bytes : Data) (hlength : bytes.length ≤ 8) :
    (value64 bytes).toNat < 256 ^ bytes.length := by
  induction bytes using List.reverseRecOn with
  | nil => exact Nat.one_pos
  | append_singleton bytes byte ih =>
    rw [List.length_append, List.length_singleton] at hlength ⊢
    have hlt : (value64 bytes).toNat < 256 ^ bytes.length := ih (by omega)
    have hbyte : byte.toNat < 256 := byte.toNat_lt
    have hle : (value64 bytes).toNat % 2 ^ 56 ≤ (value64 bytes).toNat := Nat.mod_le _ _
    rw [value64_concat, toNat_shiftLeft_or, Nat.pow_succ]
    omega

/-- Up to eight bytes are determined by their number and their value. -/
theorem value64_inj {bytes bytes' : Data} (hlength : bytes.length = bytes'.length)
    (hle : bytes.length ≤ 8) (hvalue : value64 bytes = value64 bytes') : bytes = bytes' := by
  induction bytes using List.reverseRecOn generalizing bytes' with
  | nil => exact (List.length_eq_zero_iff.mp hlength.symm).symm
  | append_singleton bytes byte ih =>
    rcases List.eq_nil_or_concat bytes' with rfl | ⟨bytes', byte', rfl⟩
    · rw [List.length_append, List.length_singleton] at hlength
      exact absurd hlength (Nat.succ_ne_zero _)
    · rw [List.concat_eq_append] at hlength hvalue ⊢
      rw [List.length_append, List.length_append, List.length_singleton, List.length_singleton,
        Nat.add_right_cancel_iff] at hlength
      rw [List.length_append, List.length_singleton] at hle
      have hnat := congrArg UInt64.toNat hvalue
      rw [value64_concat, value64_concat, toNat_shiftLeft_or, toNat_shiftLeft_or] at hnat
      have hsmall : ∀ bs : Data, bs.length = bytes.length → (value64 bs).toNat < 2 ^ 56 := by
        intro bs hbs
        have hlt := value64_lt bs (by omega)
        have hpow : 256 ^ bs.length ≤ 256 ^ 7 := Nat.pow_le_pow_right (by decide) (by omega)
        exact Nat.lt_of_lt_of_le hlt hpow
      rw [Nat.mod_eq_of_lt (hsmall bytes rfl),
        Nat.mod_eq_of_lt (hsmall bytes' hlength.symm)] at hnat
      have hb : byte.toNat < 256 := byte.toNat_lt
      have hb' : byte'.toNat < 256 := byte'.toNat_lt
      have hinit : value64 bytes = value64 bytes' := UInt64.toNat_inj.mp (by omega)
      have hlast : byte = byte' := UInt8.toNat_inj.mp (by omega)
      rw [ih hlength (by omega) hinit, hlast]

/-- Eight bytes are those of their value. -/
theorem bytes64_value64 {bytes : Data} (hlength : bytes.length = 8) :
    bytes64 (value64 bytes) = bytes :=
  value64_inj hlength.symm (Nat.le_refl 8) (foldl_bytes64 (value64 bytes))

/-- The value of two bytes. -/
theorem toNat_pair (high low : UInt8) :
    ((high.toUInt16 <<< 8) ||| low.toUInt16).toNat = high.toNat * 256 + low.toNat := by
  have hlow : low.toNat < 2 ^ 8 := low.toNat_lt
  have hhigh : high.toNat < 2 ^ 8 := high.toNat_lt
  have hshift : (high.toUInt16 <<< 8).toNat = high.toNat <<< 8 := by
    rw [UInt16.toNat_shiftLeft, UInt8.toNat_toUInt16, Nat.shiftLeft_eq, Nat.shiftLeft_eq]
    show high.toNat * 256 % 2 ^ 16 = high.toNat * 256
    omega
  rw [UInt16.toNat_or, hshift, UInt8.toNat_toUInt16, ← Nat.shiftLeft_add_eq_or_of_lt hlow,
    Nat.shiftLeft_eq]

/-- Two bytes are those of their value. -/
theorem bytes16_pair (high low : UInt8) :
    bytes16 ((high.toUInt16 <<< 8) ||| low.toUInt16) = [high, low] := by
  have hlow : low.toNat < 2 ^ 8 := low.toNat_lt
  have hhigh : high.toNat < 2 ^ 8 := high.toNat_lt
  unfold bytes16
  have h₁ : (((high.toUInt16 <<< 8) ||| low.toUInt16) >>> 8).toUInt8 = high := by
    apply UInt8.toNat_inj.mp
    rw [UInt16.toNat_toUInt8, UInt16.toNat_shiftRight, toNat_pair, Nat.shiftRight_eq_div_pow]
    show (high.toNat * 256 + low.toNat) / 256 % 256 = high.toNat
    omega
  have h₂ : ((high.toUInt16 <<< 8) ||| low.toUInt16).toUInt8 = low := by
    apply UInt8.toNat_inj.mp
    rw [UInt16.toNat_toUInt8, toNat_pair]
    omega
  rw [h₁, h₂]

/-- Any two bytes are those of a value. -/
theorem exists_bytes16 {bytes : Data} (hlength : bytes.length = 2) :
    ∃ value, bytes = bytes16 value := by
  obtain ⟨high, low, rfl⟩ := List.length_eq_two.mp hlength
  exact ⟨_, (bytes16_pair high low).symm⟩

/-- Any eight bytes are those of a value. -/
theorem exists_bytes64 {bytes : Data} (hlength : bytes.length = 8) :
    ∃ value, bytes = bytes64 value :=
  ⟨value64 bytes, (bytes64_value64 hlength).symm⟩

section Read

open ByteReader

/-- A byte that is read lies in the payload, and the reader moves past it. -/
theorem readUInt8_eq_ok {reader reader' : ByteReader} {byte : UInt8}
    (h : readUInt8.run reader = .ok (byte, reader')) :
    reader.data[reader.offset]? = some byte ∧ reader'.data = reader.data ∧
      reader'.offset = reader.offset + 1 := by
  change readUInt8 reader = _ at h
  unfold readUInt8 at h
  split_ifs at h with hlt
  obtain ⟨rfl, rfl⟩ := Prod.mk.inj (Except.ok.inj h)
  exact ⟨List.getElem?_eq_getElem hlt, rfl, rfl⟩

/-- The bytes that are read lie in the payload, as many as are asked for, and the reader moves past
them. -/
theorem readData_eq_ok {reader reader' : ByteReader} {count : ℕ} {bytes : Data}
    (h : (readData count).run reader = .ok (bytes, reader')) :
    bytes = (reader.data.drop reader.offset).take count ∧ bytes.length = count ∧
      reader'.data = reader.data ∧ reader'.offset = reader.offset + count := by
  change readData count reader = _ at h
  unfold readData at h
  split_ifs at h with hle
  obtain ⟨rfl, rfl⟩ := Prod.mk.inj (Except.ok.inj h)
  refine ⟨rfl, ?_, rfl, rfl⟩
  rw [List.length_take, List.length_drop]
  omega

/-- Reading a byte consumes it. -/
theorem consumes_readUInt8 : Consumes left readUInt8 fun bs byte => bs = [byte] := by
  intro reader byte reader' h
  obtain ⟨hbyte, hdata, hoffset⟩ := readUInt8_eq_ok h
  obtain ⟨hlt, rfl⟩ := List.getElem?_eq_some_iff.mp hbyte
  refine ⟨[reader.data[reader.offset]], ?_, rfl⟩
  rw [left, left, hdata, hoffset]
  exact List.drop_eq_getElem_cons hlt

/-- Reading bytes consumes as many. -/
theorem consumes_readData (count : ℕ) :
    Consumes left (readData count) fun bs bytes => bs = bytes ∧ bytes.length = count := by
  intro reader bytes reader' h
  obtain ⟨hbytes, hlength, hdata, hoffset⟩ := readData_eq_ok h
  refine ⟨bytes, ?_, rfl, hlength⟩
  rw [left, left, hdata, hoffset, ← List.drop_drop, hbytes, List.take_append_drop]

/-- Reading the rest consumes it. -/
theorem consumes_readRemainingData :
    Consumes left readRemainingData fun bs bytes => bs = bytes := by
  intro reader bytes reader' h
  change readData (reader.data.length - reader.offset) reader = _ at h
  obtain ⟨bs, hbs, hbytes, -⟩ := consumes_readData _ reader bytes reader' h
  exact ⟨bs, hbs, hbytes⟩

/-- The bytes that a text is made from are its bytes. -/
theorem utf8_of_fromUTF8? {bytes : Data} {string : String}
    (h : String.fromUTF8? ⟨bytes.toArray⟩ = some string) : ByteWriter.utf8 string = bytes := by
  unfold String.fromUTF8? at h
  split_ifs at h with hvalid
  rw [← Option.some.inj h]
  rfl

/-- Reading a word of 16 bits consumes its bytes. -/
theorem consumes_readUInt16 : Consumes left readUInt16 fun bs value => bs = bytes16 value := by
  have htwo := consumes_readUInt8.bind fun high => consumes_readUInt8.bind fun low =>
    Consumes.pure (E := TwoPhoneProtocolError) left ((high.toUInt16 <<< 8) ||| low.toUInt16)
  refine Consumes.mono htwo ?_
  rintro bs value ⟨_, _, high, rfl, rfl, _, _, low, rfl, rfl, rfl, rfl⟩
  exact (bytes16_pair high low).symm

/-- Reading a word of 64 bits consumes its bytes. -/
theorem consumes_readUInt64 : Consumes left readUInt64 fun bs value => bs = bytes64 value := by
  have hloop := Consumes.foldlM (fun (v : UInt64) byte => (v <<< 8) ||| byte.toUInt64)
    consumes_readUInt8 (List.range 8) 0
  refine Consumes.mono hloop ?_
  rintro bs value ⟨hlength, rfl⟩
  exact (bytes64_value64 hlength).symm

/-- Reading a string consumes its length and its bytes, which are valid. -/
theorem consumes_readString :
    Consumes left readString fun bs string =>
      bs = stringBytes string ∧ (ByteWriter.utf8 string).length ≤ 65535 := by
  unfold readString
  refine Consumes.mono (consumes_readUInt16.bind fun count => (consumes_readData count.toNat).bind
    (Q := fun bytes bs string => bs = [] ∧ bytes = ByteWriter.utf8 string) fun bytes => ?_) ?_
  · cases hvalue : String.fromUTF8? ⟨bytes.toArray⟩ with
    | none => exact Consumes.throw _
    | some value =>
      refine (Consumes.pure left value).mono ?_
      rintro bs string ⟨rfl, rfl⟩
      exact ⟨rfl, (utf8_of_fromUTF8? hvalue).symm⟩
  rintro bs string ⟨_, _, count, rfl, rfl, _, _, bytes, rfl, ⟨rfl, hlength⟩, rfl, rfl⟩
  have hcount : UInt16.ofNat (ByteWriter.utf8 string).length = count := by
    rw [hlength, UInt16.ofNat_toNat]
  have hlt : count.toNat < 2 ^ 16 := count.toNat_lt
  exact ⟨by rw [stringBytes, hcount, List.append_nil], by omega⟩

/-- Reading a byte does not change the payload. -/
theorem keeps_readUInt8 : Keeps ByteReader.data readUInt8 :=
  fun _ _ _ h => (readUInt8_eq_ok h).2.1

/-- Reading bytes does not change the payload. -/
theorem keeps_readData (count : ℕ) : Keeps ByteReader.data (readData count) :=
  fun _ _ _ h => (readData_eq_ok h).2.2.1

/-- Reading the rest does not change the payload. -/
theorem keeps_readRemainingData : Keeps ByteReader.data readRemainingData :=
  fun reader => keeps_readData (reader.data.length - reader.offset) reader

/-- Reading a word of 16 bits does not change the payload. -/
theorem keeps_readUInt16 : Keeps ByteReader.data readUInt16 :=
  keeps_readUInt8.bind fun _ => keeps_readUInt8.bind fun _ => Keeps.pure _ _

/-- Reading a word of 64 bits does not change the payload. -/
theorem keeps_readUInt64 : Keeps ByteReader.data readUInt64 :=
  Keeps.foldlM (fun _ _ => keeps_readUInt8.bind fun _ => Keeps.pure _ _) _ _

/-- Reading a string does not change the payload. -/
theorem keeps_readString : Keeps ByteReader.data readString := by
  refine keeps_readUInt16.bind fun count => (keeps_readData count.toNat).bind fun bytes => ?_
  cases String.fromUTF8? ⟨bytes.toArray⟩ with
  | none => exact Keeps.throw _
  | some value => exact Keeps.pure _ value

end Read

/-- The bytes of a text field: their number in two bytes, and as many bytes of UTF-8. -/
def TextLayout (bytes : Data) : Prop :=
  ∃ high low text, bytes = high :: low :: text ∧ text.length = high.toNat * 256 + low.toNat ∧
    ByteArray.IsValidUTF8 ⟨text.toArray⟩

/-- The bytes after the byte of a type. -/
def Layout : MessageType → Data → Prop
  | .hello, rest => rest.length = 2 + 32
  | .snapshot, rest => 8 ≤ rest.length
  | .ready, rest => rest = []
  | .start, rest => rest = []
  | .finishAcknowledgement, rest => rest = []
  | .input, rest => rest.length = 8 + 2 + 1 + 2 + 2
  | .acknowledgement, rest => ∃ times flag digest, rest = times ++ flag :: digest ∧
      times.length = 8 + 8 ∧ digest.length = if flag = 0 then 0 else 24
  | .finish, rest => ∃ frame flag text, rest = frame ++ flag :: text ∧ frame.length = 8 ∧
      TextLayout text
  | .failure, rest => TextLayout rest

/-- The bytes of a text field are those of a text. -/
theorem textLayout_iff (bytes : Data) : TextLayout bytes ↔
    ∃ string : String, bytes = stringBytes string ∧ string.utf8ByteSize ≤ 65535 := by
  constructor
  · rintro ⟨high, low, text, rfl, hlength, hvalid⟩
    have hhigh : high.toNat < 2 ^ 8 := high.toNat_lt
    have hlow : low.toNat < 2 ^ 8 := low.toNat_lt
    have hutf8 : ByteWriter.utf8 ⟨⟨text.toArray⟩, hvalid⟩ = text := rfl
    have hcount : UInt16.ofNat text.length = (high.toUInt16 <<< 8) ||| low.toUInt16 := by
      rw [hlength, ← toNat_pair, UInt16.ofNat_toNat]
    refine ⟨⟨⟨text.toArray⟩, hvalid⟩, ?_, ?_⟩
    · rw [stringBytes, hutf8, hcount, bytes16_pair]
      rfl
    · show text.length ≤ 65535
      omega
  · rintro ⟨string, rfl, hle⟩
    have hcount : (UInt16.ofNat (ByteWriter.utf8 string).length).toNat = string.utf8ByteSize := by
      rw [UInt16.toNat_ofNat', TwoPhoneMessage.length_utf8]
      omega
    rw [← uint16_bytes (UInt16.ofNat _), toNat_pair] at hcount
    refine ⟨_, _, ByteWriter.utf8 string, rfl, hcount.symm, ?_⟩
    rw [ByteWriter.utf8, Array.toArray_toList]
    exact string.isValidUTF8

namespace TwoPhoneMessage

/-- The first bytes of a payload that has enough of them. -/
theorem exists_front {bytes : Data} (count : ℕ) (h : count ≤ bytes.length) :
    ∃ front rest, bytes = front ++ rest ∧ front.length = count :=
  ⟨bytes.take count, bytes.drop count, (List.take_append_drop count bytes).symm,
    List.length_take_of_le h⟩

/-- Twenty-four bytes are those of a digest. -/
theorem exists_digestBytes (frame : UInt64) {bytes : Data} (hlength : bytes.length = 24) :
    ∃ d : EmulatorDigest, bytes = digestBytes d := by
  obtain ⟨state, rest, rfl, hstate⟩ := exists_front 8 (hlength.ge.trans' (by decide))
  rw [List.length_append, hstate] at hlength
  obtain ⟨top, bottom, rfl, htop⟩ := exists_front 8 (show 8 ≤ rest.length by omega)
  rw [List.length_append, htop] at hlength
  obtain ⟨s, rfl⟩ := exists_bytes64 hstate
  obtain ⟨t, rfl⟩ := exists_bytes64 htop
  obtain ⟨b, rfl⟩ := exists_bytes64 (show bottom.length = 8 by omega)
  exact ⟨⟨frame, s, t, b⟩, rfl⟩

/-- Where the bytes have the layout of a type, they are those of a message of the type, with some
byte for its flag. -/
theorem exists_of_layout {type : MessageType} {rest : Data} (h : Layout type rest) :
    ∃ (m : TwoPhoneMessage) (f : UInt8), m.type = type ∧ m.FieldsFit ∧ (f != 0) = m.flag ∧
      rest = m.fieldsWith f := by
  cases type with
  | hello =>
    obtain ⟨front, romSHA256, rfl, hfront⟩ := exists_front 2 (h.ge.trans' (by decide))
    obtain ⟨version, rfl⟩ := exists_bytes16 hfront
    have hhash : romSHA256.length = 32 := by
      have hlength : (bytes16 version ++ romSHA256).length = 2 + 32 := h
      rw [List.length_append, hfront] at hlength
      omega
    exact ⟨hello version romSHA256, 0, rfl, hhash, rfl, rfl⟩
  | snapshot =>
    obtain ⟨front, state, rfl, hfront⟩ := exists_front 8 h
    obtain ⟨stateHash, rfl⟩ := exists_bytes64 hfront
    exact ⟨snapshot state stateHash, 0, rfl, trivial, rfl, rfl⟩
  | ready => exact ⟨ready, 0, rfl, trivial, rfl, h⟩
  | start => exact ⟨start, 0, rfl, trivial, rfl, h⟩
  | finishAcknowledgement => exact ⟨finishAcknowledgement, 0, rfl, trivial, rfl, h⟩
  -- Five fields of fixed width, cut off the front one after the other.
  | input =>
    have hlength : rest.length = 15 := h
    clear h
    obtain ⟨frame, rest, rfl, hframe⟩ := exists_front 8 (show 8 ≤ rest.length by omega)
    rw [List.length_append, hframe] at hlength
    obtain ⟨keys, rest, rfl, hkeys⟩ := exists_front 2 (show 2 ≤ rest.length by omega)
    rw [List.length_append, hkeys] at hlength
    obtain ⟨flag, rest, rfl, hflag⟩ := exists_front 1 (show 1 ≤ rest.length by omega)
    rw [List.length_append, hflag] at hlength
    obtain ⟨x, y, rfl, hx⟩ := exists_front 2 (show 2 ≤ rest.length by omega)
    rw [List.length_append, hx] at hlength
    obtain ⟨frame, rfl⟩ := exists_bytes64 hframe
    obtain ⟨keyMask, rfl⟩ := exists_bytes16 hkeys
    obtain ⟨f, rfl⟩ := List.length_eq_one_iff.mp hflag
    obtain ⟨touchX, rfl⟩ := exists_bytes16 hx
    obtain ⟨touchY, rfl⟩ := exists_bytes16 (show y.length = 2 by omega)
    exact ⟨input ⟨frame, keyMask, touchX, touchY, f != 0⟩, f, rfl, trivial, rfl, rfl⟩
  -- A digest follows where the flag is not zero, whatever byte it is.
  | acknowledgement =>
    obtain ⟨times, f, digest, rfl, htimes, hdigest⟩ := h
    obtain ⟨frame, nanoseconds, rfl, hframe⟩ := exists_front 8 (htimes.ge.trans' (by decide))
    rw [List.length_append, hframe] at htimes
    obtain ⟨frame, rfl⟩ := exists_bytes64 hframe
    obtain ⟨nanoseconds, rfl⟩ := exists_bytes64 (show nanoseconds.length = 8 by omega)
    by_cases hf : f = 0
    · rw [if_pos hf, List.length_eq_zero_iff] at hdigest
      refine ⟨acknowledgement ⟨frame, none, nanoseconds⟩, f, rfl, trivial, ?_, ?_⟩
      · rw [hf]
        rfl
      · rw [hdigest, List.append_assoc]
        rfl
    · rw [if_neg hf] at hdigest
      obtain ⟨d, rfl⟩ := exists_digestBytes frame hdigest
      refine ⟨acknowledgement ⟨frame, some d, nanoseconds⟩, f, rfl, trivial, ?_, ?_⟩
      · rw [bne_iff_ne.mpr hf]
        rfl
      · rw [List.append_assoc]
        rfl
  | finish =>
    obtain ⟨frame, f, text, rfl, hframe, htext⟩ := h
    obtain ⟨detail, rfl, hdetail⟩ := (textLayout_iff text).mp htext
    obtain ⟨frame, rfl⟩ := exists_bytes64 hframe
    exact ⟨finish frame (f != 0) detail, f, rfl, hdetail, rfl, rfl⟩
  | failure =>
    obtain ⟨detail, rfl, hdetail⟩ := (textLayout_iff rest).mp h
    exact ⟨failure detail, 0, rfl, hdetail, rfl, rfl⟩

/-- The bytes of a message have the layout of its type, whatever byte stands for its flag. -/
theorem layout_fieldsWith (m : TwoPhoneMessage) (f : UInt8) (h : m.FieldsFit)
    (hf : (f != 0) = m.flag) : Layout m.type (m.fieldsWith f) := by
  cases m with
  | hello version romSHA256 =>
    show (bytes16 version ++ romSHA256).length = 34
    rw [List.length_append, length_bytes16, show romSHA256.length = 32 from h]
  | snapshot state stateHash =>
    show 8 ≤ (bytes64 stateHash ++ state).length
    rw [List.length_append, length_bytes64]
    omega
  | ready => rfl
  | start => rfl
  | finishAcknowledgement => rfl
  | input i => rfl
  | acknowledgement a =>
    refine ⟨bytes64 a.frame ++ bytes64 a.processingNanoseconds, f,
      (a.digest.map digestBytes).getD [], ?_, rfl, ?_⟩
    · rw [fieldsWith, List.append_assoc]
      rfl
    · -- the flag byte says whether a digest follows
      have hflag : (f != 0) = a.digest.isSome := hf
      cases hdigest : a.digest with
      | none =>
        rw [hdigest, Option.isSome_none, bne_eq_false_iff_eq] at hflag
        rw [if_pos hflag]
        rfl
      | some d =>
        rw [hdigest, Option.isSome_some, bne_iff_ne] at hflag
        rw [if_neg hflag]
        rfl
  | finish frame success detail =>
    exact ⟨bytes64 frame, f, stringBytes detail, rfl, rfl, (textLayout_iff _).mpr ⟨detail, rfl, h⟩⟩
  | failure detail => exact (textLayout_iff _).mpr ⟨detail, rfl, h⟩

/-- What the decoder's `switch` has taken off the payload are the bytes of the message that it
returns, with some byte for its flag. -/
theorem consumes_readFields (type : MessageType) :
    Consumes ByteReader.left (readFields type) fun bs m =>
      m.type = type ∧ m.FieldsFit ∧ ∃ f : UInt8, (f != 0) = m.flag ∧ bs = m.fieldsWith f := by
  cases type with
  | hello =>
    refine (consumes_readUInt16.bind fun version => (consumes_readData 32).bind fun romSHA256 =>
      Consumes.pure _ (hello version romSHA256)).mono ?_
    rintro _ _ ⟨_, _, version, rfl, rfl, _, _, romSHA256, rfl, ⟨rfl, hlength⟩, rfl, rfl⟩
    exact ⟨rfl, hlength, 0, rfl, by rw [List.append_nil]; rfl⟩
  | snapshot =>
    refine (consumes_readUInt64.bind fun stateHash => consumes_readRemainingData.bind fun state =>
      Consumes.pure _ (snapshot state stateHash)).mono ?_
    rintro _ _ ⟨_, _, stateHash, rfl, rfl, _, _, state, rfl, rfl, rfl, rfl⟩
    exact ⟨rfl, trivial, 0, rfl, by rw [List.append_nil]; rfl⟩
  | ready =>
    refine (Consumes.pure _ ready).mono ?_
    rintro _ _ ⟨rfl, rfl⟩
    exact ⟨rfl, trivial, 0, rfl, rfl⟩
  | start =>
    refine (Consumes.pure _ start).mono ?_
    rintro _ _ ⟨rfl, rfl⟩
    exact ⟨rfl, trivial, 0, rfl, rfl⟩
  | finishAcknowledgement =>
    refine (Consumes.pure _ finishAcknowledgement).mono ?_
    rintro _ _ ⟨rfl, rfl⟩
    exact ⟨rfl, trivial, 0, rfl, rfl⟩
  | input =>
    refine (consumes_readUInt64.bind fun frame => consumes_readUInt16.bind fun keyMask =>
      consumes_readUInt8.bind fun f => consumes_readUInt16.bind fun x =>
      consumes_readUInt16.bind fun y =>
      Consumes.pure _ (input ⟨frame, keyMask, x, y, f != 0⟩)).mono ?_
    rintro _ _ ⟨_, _, frame, rfl, rfl, _, _, keyMask, rfl, rfl, _, _, f, rfl, rfl, _, _, x,
      rfl, rfl,
      _, _, y, rfl, rfl, rfl, rfl⟩
    exact ⟨rfl, trivial, f, rfl, by rw [List.append_nil]; rfl⟩
  | acknowledgement =>
    refine (consumes_readUInt64.bind fun frame => consumes_readUInt64.bind fun nanoseconds =>
      consumes_readUInt8.bind
        (Q := fun f bs m => ∃ digest : Option EmulatorDigest, (f != 0) = digest.isSome ∧
          bs = (digest.map digestBytes).getD [] ∧
          m = acknowledgement ⟨frame, digest, nanoseconds⟩) fun f => ?_).mono ?_
    · -- a digest is read only where the flag says that there is one
      cases hf : f != 0 with
      | false =>
        refine (Consumes.pure _ (acknowledgement ⟨frame, none, nanoseconds⟩)).mono ?_
        rintro _ _ ⟨rfl, rfl⟩
        exact ⟨none, rfl, rfl, rfl⟩
      | true =>
        refine (consumes_readUInt64.bind fun state => consumes_readUInt64.bind fun top =>
          consumes_readUInt64.bind fun bottom => Consumes.pure _
            (acknowledgement ⟨frame, some ⟨frame, state, top, bottom⟩, nanoseconds⟩)).mono ?_
        rintro _ _ ⟨_, _, state, rfl, rfl, _, _, top, rfl, rfl, _, _, bottom, rfl, rfl, rfl, rfl⟩
        exact ⟨some ⟨frame, state, top, bottom⟩, rfl, by rw [List.append_nil]; rfl, rfl⟩
    · rintro _ _ ⟨_, _, frame, rfl, rfl, _, _, nanoseconds, rfl, rfl, _, _, f, rfl, rfl, digest, hf,
        rfl, rfl⟩
      exact ⟨rfl, trivial, f, hf, rfl⟩
  | finish =>
    refine (consumes_readUInt64.bind fun frame => consumes_readUInt8.bind fun f =>
      consumes_readString.bind fun detail =>
      Consumes.pure _ (finish frame (f != 0) detail)).mono ?_
    rintro _ _ ⟨_, _, frame, rfl, rfl, _, _, f, rfl, rfl, _, _, detail, rfl, ⟨rfl, hlength⟩,
      rfl, rfl⟩
    exact ⟨rfl, hlength, f, rfl, by rw [List.append_nil]; rfl⟩
  | failure =>
    refine (consumes_readString.bind fun detail => Consumes.pure _ (failure detail)).mono ?_
    rintro _ _ ⟨_, _, detail, rfl, ⟨rfl, hlength⟩, rfl, rfl⟩
    exact ⟨rfl, hlength, 0, rfl, by rw [List.append_nil]; rfl⟩

/-- Reading the fields of a message does not change the payload. -/
theorem keeps_readFields (type : MessageType) : Keeps ByteReader.data (readFields type) := by
  cases type with
  | hello => exact keeps_readUInt16.bind fun _ => (keeps_readData 32).bind fun _ => Keeps.pure _ _
  | snapshot =>
    exact keeps_readUInt64.bind fun _ => keeps_readRemainingData.bind fun _ => Keeps.pure _ _
  | ready => exact Keeps.pure _ _
  | start => exact Keeps.pure _ _
  | finishAcknowledgement => exact Keeps.pure _ _
  | input =>
    exact keeps_readUInt64.bind fun _ => keeps_readUInt16.bind fun _ =>
      keeps_readUInt8.bind fun _ =>
      keeps_readUInt16.bind fun _ => keeps_readUInt16.bind fun _ => Keeps.pure _ _
  | acknowledgement =>
    refine keeps_readUInt64.bind fun _ => keeps_readUInt64.bind fun _ =>
      keeps_readUInt8.bind fun f => ?_
    cases f != 0 with
    | false => exact Keeps.pure _ _
    | true =>
      exact keeps_readUInt64.bind fun _ => keeps_readUInt64.bind fun _ =>
        keeps_readUInt64.bind fun _ => Keeps.pure _ _
  | finish =>
    exact keeps_readUInt64.bind fun _ => keeps_readUInt8.bind fun _ =>
      keeps_readString.bind fun _ =>
      Keeps.pure _ _
  | failure => exact keeps_readString.bind fun _ => Keeps.pure _ _

/-- A raw value that stands for a type is the type's. -/
theorem rawValue_of_ofRawValue? {rawType : UInt8} {type : MessageType}
    (h : MessageType.ofRawValue? rawType = some type) : type.rawValue = rawType := by
  have := List.find?_some h
  exact beq_iff_eq.mp this

/-- The bytes of a payload that the decoder accepts are those of the message that it returns, with
some byte for its flag. -/
theorem payload_of_decode {payload : Data} {m : TwoPhoneMessage} (h : decode payload = .ok m) :
    payload.length ≤ maximumPayloadLength ∧ m.FieldsFit ∧ ∃ f : UInt8, (f != 0) = m.flag ∧
      payload = m.type.rawValue :: m.fieldsWith f := by
  unfold decode at h
  split_ifs at h with hlong
  · contradiction
  cases htype : ByteReader.readUInt8.run { data := payload } with
  | error error =>
    rw [htype] at h
    contradiction
  | ok result =>
    obtain ⟨rawType, reader⟩ := result
    obtain ⟨_, hpayload, rfl⟩ := consumes_readUInt8 _ rawType reader htype
    rw [htype, ok_bind] at h
    dsimp only at h
    split at h
    · contradiction
    · rename_i type hrawType
      cases hfields : (readFields type).run reader with
      | error error =>
        rw [hfields] at h
        contradiction
      | ok result =>
        obtain ⟨message, reader'⟩ := result
        obtain ⟨bs, hleft, rfl, hfits, f, hf, rfl⟩ :=
          consumes_readFields type _ message reader' hfields
        rw [hfields] at h
        change (if reader'.isAtEnd = true then _ else _) = _ at h
        split_ifs at h with hatEnd
        obtain rfl := Except.ok.inj h
        refine ⟨Nat.le_of_not_lt hlong, hfits, f, hf, ?_⟩
        -- the decoder takes only payloads that are read to their end
        have hend : reader'.left = [] := by
          rw [ByteReader.isAtEnd, beq_iff_eq] at hatEnd
          rw [ByteReader.left, hatEnd, List.drop_length]
        rw [hend, List.append_nil] at hleft
        rw [hleft] at hpayload
        rw [rawValue_of_ofRawValue? hrawType]
        exact hpayload

/-- `f` written as the encoder writes a flag. -/
theorem flagByte_bne_zero (f : UInt8) : flagByte (f != 0) = if 1 < f then 1 else f := by
  cases hf : f != 0 with
  | false =>
    obtain rfl := bne_eq_false_iff_eq.mp hf
    rfl
  | true =>
    have hpos : f ≠ 0 := bne_iff_ne.mp hf
    split_ifs with hlt
    · rfl
    · apply UInt8.toNat_inj.mp
      have hne : f.toNat ≠ 0 := fun h => hpos (UInt8.toNat_inj.mp h)
      have hle : f.toNat ≤ 1 := Nat.le_of_not_lt hlt
      show 1 = f.toNat
      omega

/-- Where a payload of a type has its flag. -/
def flagOffset? : MessageType → Option ℕ
  | .input => some 11
  | .acknowledgement => some 17
  | .finish => some 9
  | _ => none

/-- A payload with the flag written as the encoder writes it. -/
def normalized (payload : Data) : Data :=
  match payload.head?.bind MessageType.ofRawValue? |>.bind flagOffset? with
  | some offset => payload.modify offset fun flag => if 1 < flag then 1 else flag
  | none => payload

/-- Normalizing the bytes of a message gives its payload. -/
theorem normalized_fieldsWith (m : TwoPhoneMessage) {f : UInt8} (hf : (f != 0) = m.flag) :
    normalized (m.type.rawValue :: m.fieldsWith f) = m.payload := by
  have hflag := flagByte_bne_zero f
  rw [hf] at hflag
  cases m with
  | input i =>
    show _ :: (bytes64 i.frame ++ (bytes16 i.keyMask ++ ((if 1 < f then 1 else f) :: _))) = _
    rw [← hflag]
    rfl
  | acknowledgement a =>
    show _ :: (bytes64 a.frame ++ (bytes64 a.processingNanoseconds ++
      ((if 1 < f then 1 else f) :: _))) = _
    rw [← hflag]
    rfl
  | finish frame success detail =>
    show _ :: (bytes64 frame ++ ((if 1 < f then 1 else f) :: _)) = _
    rw [← hflag]
    rfl
  | _ => rfl

/-- The length of a payload does not depend on the byte of its flag. -/
theorem fits_of_fieldsWith {m : TwoPhoneMessage} {f : UInt8} (h : m.FieldsFit)
    (hlength : (m.type.rawValue :: m.fieldsWith f).length ≤ maximumPayloadLength) : m.Fits := by
  rw [List.length_cons, length_fieldsWith] at hlength
  exact (fits_iff m).mpr ⟨h, hlength⟩

/-- The decoder on a payload `p`. -/
structure DecodesExactly (p : Data) : Prop where
  /-- It succeeds on the payloads of the grammar, of 1 to 40 MiB. -/
  accepts : (∃ m, decode p = .ok m) ↔ 1 ≤ p.length ∧ p.length ≤ 40 * 1024 * 1024 ∧
    ∃ type rest, p = MessageType.rawValue type :: rest ∧ Layout type rest
  /-- A message that it returns is encoded, as the payload with its flag written as 1. -/
  reencodes : ∀ m, decode p = .ok m → m.encodedPayload = .ok (normalized p)
  /-- A message that it returns comes back from its own payload. -/
  stable : ∀ m, decode p = .ok m → decode (normalized p) = .ok m
  /-- The payload of the reader is `p` throughout. -/
  keeps : ∀ type (reader reader' : ByteReader) m, reader.data = p →
    (readFields type).run reader = .ok (m, reader') → reader'.data = p
  /-- A byte that is read is one of `p`. -/
  byte_inside : ∀ (reader reader' : ByteReader) byte, reader.data = p →
    ByteReader.readUInt8.run reader = .ok (byte, reader') → p[reader.offset]? = some byte
  /-- The bytes that are read are bytes of `p`, as many as are asked for. -/
  bytes_inside : ∀ (reader reader' : ByteReader) count bytes, reader.data = p →
    (ByteReader.readData count).run reader = .ok (bytes, reader') →
      reader.offset + count ≤ p.length ∧ bytes = (p.drop reader.offset).take count

/-- The decoder accepts exactly its grammar: the payloads of 1 to 40 MiB that start with the byte of
a known type and go on with the layout of this type. What it returns is encoded as the payload
itself, but for a flag that was written as another byte than 1, and comes back from there; and no
byte outside the payload is read. -/
theorem decoder_accepts_exactly (p : Data) : DecodesExactly p where
  accepts := by
    constructor
    · rintro ⟨m, h⟩
      obtain ⟨hle, hfits, f, hf, rfl⟩ := payload_of_decode h
      exact ⟨Nat.succ_pos _, hle, m.type, m.fieldsWith f, rfl, layout_fieldsWith m f hfits hf⟩
    · rintro ⟨-, hle, type, rest, rfl, hlayout⟩
      obtain ⟨m, f, rfl, hfits, hf, rfl⟩ := exists_of_layout hlayout
      exact ⟨m.framed, decode_fieldsWith m (fits_of_fieldsWith hfits hle) hf⟩
  reencodes := by
    intro m h
    obtain ⟨hle, hfits, f, hf, rfl⟩ := payload_of_decode h
    rw [normalized_fieldsWith m hf]
    exact (encodedPayload_eq_ok m m.payload).mpr ⟨fits_of_fieldsWith hfits hle, rfl⟩
  stable := by
    intro m h
    obtain ⟨hle, hfits, f, hf, rfl⟩ := payload_of_decode h
    have hm := fits_of_fieldsWith hfits hle
    rw [normalized_fieldsWith m hf, decode_payload m hm, ← decode_fieldsWith m hm hf, h]
  keeps := fun type reader reader' m hp h => (keeps_readFields type reader m reader' h).trans hp
  byte_inside := by
    rintro reader reader' byte rfl h
    exact (readUInt8_eq_ok h).1
  bytes_inside := by
    rintro reader reader' count bytes rfl h
    obtain ⟨hbytes, -, hdata, hoffset⟩ := readData_eq_ok h
    have hle := reader'.offset_le
    rw [hdata, hoffset] at hle
    exact ⟨hle, hbytes⟩

end TwoPhoneMessage

end DSEmu

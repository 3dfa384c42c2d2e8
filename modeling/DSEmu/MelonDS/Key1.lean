import DSEmu.Library.Feistel
import DSEmu.Library.Indexed
import DSEmu.MelonDS.ROMList

/-!
# The secure area of a cartridge

`Key1_Encrypt`, `Key1_Decrypt` and what makes their keys, of `src/NDSCart.cpp` of melonDS. The two
are a network of sixteen rounds and its inverse, whatever is in the buffer of the keys
(`key1_inverse`).

A cartridge is inserted with its secure area encrypted: a dump that has it decrypted is encrypted
again (`setCart`), under the marker that a direct boot looks for once it has decrypted it
(`decryptSecureArea`). `decryptSecureArea_setCart` says what such a boot gets of a decrypted dump.
-/

namespace DSEmu

namespace Key1

scoped instance neZero_four : @NeZero ℕ Zero.ofOfNat0 4 :=
  @NeZero.mk ℕ Zero.ofOfNat0 4 (Nat.succ_ne_zero 3)

scoped instance neZero_eighteen : @NeZero ℕ Zero.ofOfNat0 18 :=
  @NeZero.mk ℕ Zero.ofOfNat0 18 (Nat.succ_ne_zero 17)

scoped instance neZero_256 : @NeZero ℕ Zero.ofOfNat0 256 :=
  @NeZero.mk ℕ Zero.ofOfNat0 256 (Nat.succ_ne_zero 255)

end Key1

open scoped Key1

/-- `Key1_KeyBuf` -/
abbrev Key1KeyBuf := Vector UInt32 0x412

/-- Two words, as `Key1_Encrypt` and `Key1_Decrypt` take them. -/
abbrev Key1Block := UInt32 × UInt32

namespace Key1KeyBuf

/-- The keys are in the buffer. -/
theorem key_le : 18 ≤ 0x412 := by decide

/-- The entries of the boxes are in the buffer. -/
theorem box_lt (box : Fin 4) (b : UInt8) : 0x012 + 0x100 * box.val + b.toNat < 0x412 := by
  have hb : b.toNat < 256 := b.toNat_lt
  have hbox : box.val < 4 := box.isLt
  omega

/-- The first word of a pair is in the buffer. -/
theorem even_lt (i : Fin 0x209) : 2 * i.val < 0x412 := by
  have hi : i.val < 0x209 := i.isLt
  omega

/-- The second word of a pair is in the buffer. -/
theorem odd_lt (i : Fin 0x209) : 2 * i.val + 1 < 0x412 := by
  have hi : i.val < 0x209 := i.isLt
  omega

/-- `Key1_KeyBuf[i]`, for a key of the rounds. -/
def key (buf : Key1KeyBuf) (i : Fin 18) : UInt32 := buf.get (i.castLE key_le)

/-- `Key1_KeyBuf[0x012 + b]`, and so on from 0x112, 0x212 and 0x312. -/
def box (buf : Key1KeyBuf) (box : Fin 4) (b : UInt8) : UInt32 :=
  buf.get ⟨0x012 + 0x100 * box.val + b.toNat, box_lt box b⟩

/-- What a round makes of `z`. -/
def mix (buf : Key1KeyBuf) (z : UInt32) : UInt32 :=
  let x := buf.box 0 (z >>> (24 : UInt32)).toUInt8
  let x := x + buf.box 1 ((z >>> (16 : UInt32)) &&& 0xFF).toUInt8
  let x := x ^^^ buf.box 2 ((z >>> (8 : UInt32)) &&& 0xFF).toUInt8
  x + buf.box 3 (z &&& 0xFF).toUInt8

/-- The body of the loops, for the words `x` and `y`. -/
def round (buf : Key1KeyBuf) (s : UInt32 × UInt32) (i : Fin 18) : UInt32 × UInt32 :=
  let z := buf.key i ^^^ s.1
  (buf.mix z ^^^ s.2, z)

/-- `Key1_Encrypt`. The loop counts from 0 to 0xF. -/
def encrypt (buf : Key1KeyBuf) (data : Key1Block) : Key1Block :=
  let s := ((List.finRange 18).take 16).foldl buf.round (data.2, data.1)
  (s.1 ^^^ buf.key 0x10, s.2 ^^^ buf.key 0x11)

/-- `Key1_Decrypt`. The loop counts from 0x11 down to 2. -/
def decrypt (buf : Key1KeyBuf) (data : Key1Block) : Key1Block :=
  let s := ((List.finRange 18).drop 2).reverse.foldl buf.round (data.2, data.1)
  (s.1 ^^^ buf.key 0x1, s.2 ^^^ buf.key 0x0)

/-! ### The two as networks -/

/-- The exclusive or cancels itself. -/
theorem cancels_xor : Feistel.Cancels fun a b : UInt32 => a ^^^ b where
  assoc := UInt32.xor_assoc
  comm := UInt32.xor_comm
  self a b := by rw [← UInt32.xor_assoc, UInt32.xor_self, UInt32.zero_xor]

/-- The network of some keys, on a block. -/
def network (buf : Key1KeyBuf) (keys : List (Fin 18)) (data : Key1Block) : Key1Block :=
  (Feistel.network (· ^^^ ·) buf.mix (keys.map buf.key) data.swap).swap

/-- The last two keys of the network. -/
theorem network_append (buf : Key1KeyBuf) (keys : List (Fin 18)) (a b : Fin 18) (data : Key1Block) :
    buf.network (keys ++ [a, b]) data =
      ((keys.foldl buf.round data.swap).1 ^^^ buf.key a,
        (keys.foldl buf.round data.swap).2 ^^^ buf.key b) := by
  have hkeys : (keys ++ [a, b]).map buf.key = keys.map buf.key ++ [buf.key a, buf.key b] := by
    rw [List.map_append, List.map_cons, List.map_cons, List.map_nil]
  rw [network, hkeys, Feistel.network_append, List.foldl_map]
  rfl

/-- `Key1_Encrypt` is the network. -/
theorem encrypt_eq (buf : Key1KeyBuf) (data : Key1Block) :
    buf.encrypt data = buf.network (List.finRange 18) data := by
  have hkeys : List.finRange 18 = (List.finRange 18).take 16 ++ [0x10, 0x11] := by decide
  rw [hkeys, network_append]
  rfl

/-- `Key1_Decrypt` is the network with the keys in the other order. -/
theorem decrypt_eq (buf : Key1KeyBuf) (data : Key1Block) :
    buf.decrypt data = buf.network (List.finRange 18).reverse data := by
  have hkeys : (List.finRange 18).reverse = ((List.finRange 18).drop 2).reverse ++ [0x1, 0x0] := by
    decide
  rw [hkeys, network_append]
  rfl

/-- The network undoes itself. -/
theorem network_reverse (buf : Key1KeyBuf) (keys : List (Fin 18)) (data : Key1Block) :
    buf.network keys.reverse (buf.network keys data) = data := by
  rw [network, network, Prod.swap_swap, List.map_reverse, cancels_xor.network_reverse,
    Prod.swap_swap]

/-- What is encrypted is decrypted. -/
theorem decrypt_encrypt (buf : Key1KeyBuf) (data : Key1Block) :
    buf.decrypt (buf.encrypt data) = data := by
  rw [encrypt_eq, decrypt_eq, network_reverse]

/-- `Key1_Encrypt` and `Key1_Decrypt` undo each other, whatever the keys are. -/
theorem key1_inverse (buf : Key1KeyBuf) :
    Function.LeftInverse buf.decrypt buf.encrypt ∧
      Function.RightInverse buf.decrypt buf.encrypt := by
  constructor
  case left => exact buf.decrypt_encrypt
  case right =>
    intro data
    have hundo := buf.network_reverse (List.finRange 18).reverse data
    rw [List.reverse_reverse] at hundo
    rw [decrypt_eq, encrypt_eq, hundo]

end Key1KeyBuf

/-! ### The keys of a game -/

/-- `ByteSwap`. -/
def byteSwap (val : UInt32) : UInt32 :=
  (val >>> (24 : UInt32)) ||| ((val >>> (8 : UInt32)) &&& 0xFF00) |||
    ((val <<< (8 : UInt32)) &&& 0xFF0000) ||| (val <<< (24 : UInt32))

/-- `keycode` of `Key1_InitKeycode`, an array of three words. -/
abbrev Keycode := UInt32 × UInt32 × UInt32

/-- `keycode[i]` -/
def Keycode.word (keycode : Keycode) : ℕ → UInt32
  | 0 => keycode.1
  | 1 => keycode.2.1
  | _ => keycode.2.2

namespace Key1KeyBuf

/-- The first loop of `Key1_ApplyKeycode`. -/
def addKeycode (keycode : Keycode) (mod : ℕ) (buf : Key1KeyBuf) : Key1KeyBuf :=
  (List.finRange 18).foldl (fun buf i =>
    buf.put (i.castLE key_le) (buf.key i ^^^ byteSwap (keycode.word (i.val % mod)))) buf

/-- The second loop of `Key1_ApplyKeycode`, with `temp`: the buffer is encrypted with itself. -/
def fill (buf : Key1KeyBuf) : Key1KeyBuf :=
  ((List.finRange 0x209).foldl (fun (s : Key1KeyBuf × Key1Block) i =>
    let temp := s.1.encrypt s.2
    ((s.1.put ⟨2 * i.val, even_lt i⟩ temp.2).put ⟨2 * i.val + 1, odd_lt i⟩ temp.1, temp))
    (buf, (0, 0))).1

/-- `Key1_ApplyKeycode`. -/
def applyKeycode (mod : ℕ) (s : Key1KeyBuf × Keycode) : Key1KeyBuf × Keycode :=
  let (buf, k0, k1, k2) := s
  let (k1, k2) := buf.encrypt (k1, k2)
  let (k0, k1) := buf.encrypt (k0, k1)
  (fill (buf.addKeycode (k0, k1, k2) mod), k0, k1, k2)

/-- `Key1_InitKeycode`, where `loaded` is what `Key1_LoadKeyBuf` finds. -/
def initKeycode (loaded : Key1KeyBuf) (idCode level : UInt32) (mod : ℕ) : Key1KeyBuf :=
  let s : Key1KeyBuf × Keycode := (loaded, idCode, idCode >>> (1 : UInt32), idCode <<< (1 : UInt32))
  let s := if 1 ≤ level then applyKeycode mod s else s
  let s := if 2 ≤ level then applyKeycode mod s else s
  if 3 ≤ level then
    let (buf, k0, k1, k2) := s
    (applyKeycode mod (buf, k0, k1 <<< (1 : UInt32), k2 >>> (1 : UInt32))).1
  else s.1

end Key1KeyBuf

/-! ### The secure area -/

/-- The 0x800 bytes of a secure area, in blocks of two words. -/
abbrev SecureArea := Vector Key1Block 256

/-- The characters "encryObj", as two words. -/
def encryObj : Key1Block := (0x72636E65, 0x6A624F79)

/-- The word that a boot with the BIOS leaves in place of each of them. -/
def destroyed : UInt32 := 0xE7FFDEFF

/-- The part of `SetCart` that encrypts the secure area of a dump again, which begins at the offset
`arm9ROMOffset` of the header. -/
def setCart (loaded : Key1KeyBuf) (params : ROMListEntry) (arm9ROMOffset : UInt32)
    (area : SecureArea) :
    SecureArea :=
  if 0x4000 ≤ arm9ROMOffset ∧ arm9ROMOffset < 0x8000 then
    -- reencrypt secure area if needed
    if (area.get 0).1 = destroyed ∧ (area.get 2).1 ≠ destroyed then
      let area := area.put 0 encryObj
      let area := area.map (loaded.initKeycode params.gameCode 3 2).encrypt
      area.put 0 ((loaded.initKeycode params.gameCode 2 2).encrypt (area.get 0))
    else area
  else area

/-- `DecryptSecureArea`. -/
def decryptSecureArea (loaded : Key1KeyBuf) (gameCode : UInt32) (area : SecureArea) : SecureArea :=
  let out := area.put 0 ((loaded.initKeycode gameCode 2 2).decrypt (area.get 0))
  let out := out.map (loaded.initKeycode gameCode 3 2).decrypt
  if out.get 0 = encryObj then out.put 0 (destroyed, destroyed)
  else .replicate 256 (destroyed, destroyed)

/-- What a direct boot gets of a dump that was decrypted: what was dumped, but for the second word,
which it takes to be as the first. -/
theorem decryptSecureArea_setCart {romList : List ROMListEntry} (hordered : Ordered romList)
    {gameCode cartROMSize : UInt32} {homebrew : Bool} {params : ROMListEntry}
    (hparams : romParams romList gameCode cartROMSize homebrew = some params)
    {arm9ROMOffset : UInt32} (hoffset : 0x4000 ≤ arm9ROMOffset ∧ arm9ROMOffset < 0x8000)
    {area : SecureArea} (hfirst : (area.get 0).1 = destroyed)
    (hdecrypted : (area.get 2).1 ≠ destroyed)
    (loaded : Key1KeyBuf) :
    decryptSecureArea loaded gameCode (setCart loaded params arm9ROMOffset area) =
        area.put 0 (destroyed, destroyed) ∧
      (decryptSecureArea loaded gameCode (setCart loaded params arm9ROMOffset area) = area ↔
        (area.get 0).2 = destroyed) := by
  have hcode : params.gameCode = gameCode := gameCode_romParams hordered hparams
  obtain ⟨buf₂, hbuf₂⟩ : ∃ buf, loaded.initKeycode gameCode 2 2 = buf := ⟨_, rfl⟩
  obtain ⟨buf₃, hbuf₃⟩ : ∃ buf, loaded.initKeycode gameCode 3 2 = buf := ⟨_, rfl⟩
  have hencrypted : setCart loaded params arm9ROMOffset area =
      ((area.put 0 encryObj).map buf₃.encrypt).put 0
        (buf₂.encrypt (((area.put 0 encryObj).map buf₃.encrypt).get 0)) := by
    rw [setCart, if_pos hoffset, if_pos ⟨hfirst, hdecrypted⟩, hcode, hbuf₂, hbuf₃]
  -- The two layers come off in the other order.
  have hlayers : ((((area.put 0 encryObj).map buf₃.encrypt).put 0
      (buf₂.encrypt (((area.put 0 encryObj).map buf₃.encrypt).get 0))).put 0
        (buf₂.decrypt ((((area.put 0 encryObj).map buf₃.encrypt).put 0
          (buf₂.encrypt (((area.put 0 encryObj).map buf₃.encrypt).get 0))).get 0))).map
            buf₃.decrypt =
      area.put 0 encryObj := by
    rw [Vector.get_put_self, Vector.put_put, buf₂.decrypt_encrypt, Vector.put_get_self,
      Vector.map_map]
    have hundo : buf₃.decrypt ∘ buf₃.encrypt = id := funext buf₃.decrypt_encrypt
    rw [hundo, Vector.map_id]
  have hboot : decryptSecureArea loaded gameCode (setCart loaded params arm9ROMOffset area) =
      area.put 0 (destroyed, destroyed) := by
    rw [decryptSecureArea, hbuf₂, hbuf₃, hencrypted, hlayers, if_pos (Vector.get_put_self _ _ _),
      Vector.put_put]
  refine ⟨hboot, ?_⟩
  rw [hboot]
  constructor
  case mp =>
    intro hsame
    have hblock : (area.put 0 (destroyed, destroyed)).get 0 = area.get 0 := by rw [hsame]
    rw [Vector.get_put_self] at hblock
    exact (congrArg Prod.snd hblock).symm
  case mpr =>
    intro hsecond
    have hblock : (destroyed, destroyed) = area.get 0 := Prod.ext hfirst.symm hsecond.symm
    rw [hblock, Vector.put_get_self]

/-- A dump that is empty behind its first block. -/
def emptyDump : SecureArea := (Vector.replicate 256 (0, 0)).put 0 (destroyed, destroyed)

/-- `decryptSecureArea_setCart` on such a dump of a cartridge that the list has. -/
theorem decryptSecureArea_setCart_emptyDump :
    decryptSecureArea (.replicate _ 0) 0x41464141
      (setCart (.replicate _ 0) ⟨0x41464141, 0x00800000, 4⟩ 0x4000 emptyDump) = emptyDump := by
  have hordered : Ordered [⟨0x41464141, 0x00800000, 4⟩] := List.pairwise_singleton _ _
  have hfound : readROMParams [⟨0x41464141, 0x00800000, 4⟩] 0x41464141 =
      .found ⟨0x41464141, 0x00800000, 4⟩ :=
    readROMParams_eq_found hordered (List.mem_singleton_self _)
  have hparams : romParams [⟨0x41464141, 0x00800000, 4⟩] 0x41464141 0x00800000 false =
      some ⟨0x41464141, 0x00800000, 4⟩ := by
    rw [romParams, hfound]
  have hfirst : emptyDump.get 0 = (destroyed, destroyed) := Vector.get_put_self _ _ _
  have hthird : emptyDump.get 2 = (0, 0) := by
    have hne : (0 : Fin 256) ≠ 2 := by decide
    rw [emptyDump, Vector.get_put_of_ne hne]
    exact Vector.getElem_replicate _
  have hdecrypted : (emptyDump.get 2).1 ≠ destroyed := by
    rw [hthird]
    decide
  exact (decryptSecureArea_setCart hordered hparams ⟨by decide, by decide⟩
    (congrArg Prod.fst hfirst) hdecrypted _).2.mpr (congrArg Prod.snd hfirst)

end DSEmu

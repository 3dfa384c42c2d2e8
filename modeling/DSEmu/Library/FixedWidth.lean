import Mathlib.Data.Nat.Notation
import Mathlib.Data.List.Flatten
import Mathlib.Tactic.Ring

/-!
# Values of a fixed width in memory

`littleEndian width n` is the bytes of a number, the least significant one first. A type is of a
fixed width (`FixedWidth`) where each of its values is a block of so many bytes from which the value
can be told: words, Booleans that are stored as words, pairs and arrays are. Words and arrays can be
copied back (`Copied`).

A record is written field after field. Two records of the same widths that agree as one run of
bytes, with whatever follows them, agree in each field (`flatten_append_inj`).
-/

namespace DSEmu

/-- The `width` bytes of `n`, the least significant one first. Higher bits are lost. -/
def littleEndian : ℕ → ℕ → List UInt8
  | 0, _ => []
  | width + 1, n => UInt8.ofNat (n % 256) :: littleEndian width (n / 256)

/-- A number of some width has as many bytes. -/
@[simp] theorem length_littleEndian (width n : ℕ) : (littleEndian width n).length = width := by
  induction width generalizing n with
  | zero => rfl
  | succ width ih => rw [littleEndian, List.length_cons, ih]

/-- The bytes tell the number up to the bits that are lost. -/
theorem mod_eq_of_littleEndian {width m n : ℕ} (h : littleEndian width m = littleEndian width n) :
    m % 256 ^ width = n % 256 ^ width := by
  induction width generalizing m n with
  | zero => rw [pow_zero, Nat.mod_one, Nat.mod_one]
  | succ width ih =>
    obtain ⟨hbyte, hrest⟩ := List.cons.inj h
    have hlow : m % 256 = n % 256 := by
      have := congrArg UInt8.toNat hbyte
      rw [UInt8.toNat_ofNat', UInt8.toNat_ofNat'] at this
      omega
    have hhigh : m / 256 % 256 ^ width = n / 256 % 256 ^ width := ih hrest
    rw [pow_succ', Nat.mod_mul, Nat.mod_mul, hlow, hhigh]

/-- Numbers that fit are told apart. -/
theorem littleEndian_inj {width m n : ℕ} (hm : m < 256 ^ width) (hn : n < 256 ^ width)
    (h : littleEndian width m = littleEndian width n) : m = n := by
  have hmod := mod_eq_of_littleEndian h
  rwa [Nat.mod_eq_of_lt hm, Nat.mod_eq_of_lt hn] at hmod

/-- The number that bytes stand for, the least significant one first. -/
def ofLittleEndian : List UInt8 → ℕ
  | [] => 0
  | byte :: bytes => byte.toNat + 256 * ofLittleEndian bytes

/-- Reading back a number that fits. -/
theorem ofLittleEndian_littleEndian {width n : ℕ} (hn : n < 256 ^ width) :
    ofLittleEndian (littleEndian width n) = n := by
  induction width generalizing n with
  | zero =>
    rw [pow_zero, Nat.lt_one_iff] at hn
    rw [hn]
    rfl
  | succ width ih =>
    have hhigh : n / 256 < 256 ^ width := by
      rw [pow_succ] at hn
      exact Nat.div_lt_of_lt_mul (Nat.mul_comm _ _ ▸ hn)
    have hlow : (UInt8.ofNat (n % 256)).toNat = n % 256 := by
      rw [UInt8.toNat_ofNat']
      exact Nat.mod_mod _ _
    rw [littleEndian, ofLittleEndian, ih hhigh, hlow, Nat.mod_add_div]

/-- A type whose values are blocks of memory of one width. -/
class FixedWidth (α : Type) where
  width : ℕ
  bytes : α → List UInt8
  length_bytes : ∀ a, (bytes a).length = width
  bytes_injective : Function.Injective bytes

namespace FixedWidth

variable {α β : Type} [FixedWidth α] [FixedWidth β]

/-- Values are told apart by their bytes. -/
theorem bytes_inj {a b : α} : bytes a = bytes b ↔ a = b := bytes_injective.eq_iff

instance : FixedWidth UInt8 where
  width := 1
  bytes x := [x]
  length_bytes _ := rfl
  bytes_injective _ _ h := (List.cons.inj h).1

instance : FixedWidth UInt16 where
  width := 2
  bytes x := littleEndian 2 x.toNat
  length_bytes _ := length_littleEndian _ _
  bytes_injective x y h := UInt16.toNat_inj.mp (littleEndian_inj x.toNat_lt y.toNat_lt h)

instance : FixedWidth UInt32 where
  width := 4
  bytes x := littleEndian 4 x.toNat
  length_bytes _ := length_littleEndian _ _
  bytes_injective x y h := UInt32.toNat_inj.mp (littleEndian_inj x.toNat_lt y.toNat_lt h)

instance : FixedWidth UInt64 where
  width := 8
  bytes x := littleEndian 8 x.toNat
  length_bytes _ := length_littleEndian _ _
  bytes_injective x y h := UInt64.toNat_inj.mp (littleEndian_inj x.toNat_lt y.toNat_lt h)

/-- A Boolean is stored as a word. -/
instance : FixedWidth Bool where
  width := 4
  bytes b := bytes (if b then 1 else 0 : UInt32)
  length_bytes _ := length_bytes (α := UInt32) _
  bytes_injective := by
    intro a b h
    have hword := bytes_injective h
    cases a <;> cases b <;> first | rfl | exact absurd hword (by decide)

instance : FixedWidth (α × β) where
  width := width α + width β
  bytes p := bytes p.1 ++ bytes p.2
  length_bytes p := by rw [List.length_append, length_bytes, length_bytes]
  bytes_injective := by
    intro p q h
    have hlen : (bytes p.1).length = (bytes q.1).length := by rw [length_bytes, length_bytes]
    obtain ⟨hfst, hsnd⟩ := List.append_inj h hlen
    exact Prod.ext (bytes_injective hfst) (bytes_injective hsnd)

/-- The length of several values. -/
theorem length_flatMap_bytes (xs : List α) :
    (xs.flatMap bytes).length = xs.length * width α := by
  induction xs with
  | nil => rw [List.flatMap_nil, List.length_nil, List.length_nil, Nat.zero_mul]
  | cons x xs ih =>
    rw [List.flatMap_cons, List.length_append, length_bytes, ih, List.length_cons]
    ring

/-- Lists of one length are told apart by their bytes. -/
theorem flatMap_bytes_inj {xs ys : List α} (hlen : xs.length = ys.length)
    (h : xs.flatMap bytes = ys.flatMap bytes) : xs = ys := by
  induction xs generalizing ys with
  | nil => exact (List.length_eq_zero_iff.mp hlen.symm).symm
  | cons x xs ih =>
    obtain _ | ⟨y, ys⟩ := ys
    · exact absurd hlen (Nat.succ_ne_zero _)
    · rw [List.flatMap_cons, List.flatMap_cons] at h
      obtain ⟨hhead, htail⟩ := List.append_inj h (by rw [length_bytes, length_bytes])
      rw [bytes_injective hhead, ih (Nat.succ.inj hlen) htail]

instance (n : ℕ) : FixedWidth (Vector α n) where
  width := n * width α
  bytes v := v.toList.flatMap bytes
  length_bytes v := by rw [length_flatMap_bytes, Vector.length_toList]
  bytes_injective := by
    intro v w h
    have hlen : v.toList.length = w.toList.length := by
      rw [Vector.length_toList, Vector.length_toList]
    exact Vector.toList_inj.mp (flatMap_bytes_inj hlen h)

/-- A type that is told by its image in a type of a fixed width. -/
abbrev ofInjective (f : β → α) (hf : Function.Injective f) : FixedWidth β where
  width := width α
  bytes b := bytes (f b)
  length_bytes _ := length_bytes _
  bytes_injective := bytes_injective.comp hf

/-- A type whose values can be copied back from memory. -/
class Copied (α : Type) [FixedWidth α] where
  ofBytes : List UInt8 → α
  ofBytes_bytes : ∀ a : α, ofBytes (bytes a) = a

export Copied (ofBytes ofBytes_bytes)

instance : Copied UInt8 where
  ofBytes data := UInt8.ofNat (ofLittleEndian data)
  ofBytes_bytes x := by
    change UInt8.ofNat (x.toNat + 256 * 0) = x
    rw [Nat.mul_zero, Nat.add_zero, UInt8.ofNat_toNat]

instance : Copied UInt16 where
  ofBytes data := UInt16.ofNat (ofLittleEndian data)
  ofBytes_bytes x := by
    change UInt16.ofNat (ofLittleEndian (littleEndian 2 x.toNat)) = x
    rw [ofLittleEndian_littleEndian x.toNat_lt, UInt16.ofNat_toNat]

instance : Copied UInt32 where
  ofBytes data := UInt32.ofNat (ofLittleEndian data)
  ofBytes_bytes x := by
    change UInt32.ofNat (ofLittleEndian (littleEndian 4 x.toNat)) = x
    rw [ofLittleEndian_littleEndian x.toNat_lt, UInt32.ofNat_toNat]

instance : Copied UInt64 where
  ofBytes data := UInt64.ofNat (ofLittleEndian data)
  ofBytes_bytes x := by
    change UInt64.ofNat (ofLittleEndian (littleEndian 8 x.toNat)) = x
    rw [ofLittleEndian_littleEndian x.toNat_lt, UInt64.ofNat_toNat]

/-- An entry of an array, among the bytes of the array. -/
theorem take_drop_flatMap_bytes {xs : List α} {i : ℕ} (hi : i < xs.length) :
    ((xs.flatMap bytes).drop (i * width α)).take (width α) = bytes xs[i] := by
  induction xs generalizing i with
  | nil => exact absurd hi (Nat.not_lt_zero _)
  | cons x xs ih =>
    cases i with
    | zero =>
      rw [Nat.zero_mul, List.drop_zero, List.flatMap_cons]
      exact List.take_left' (length_bytes x)
    | succ i =>
      have hdrop : (bytes x ++ xs.flatMap bytes).drop ((i + 1) * width α) =
          (xs.flatMap bytes).drop (i * width α) := by
        rw [Nat.succ_mul, Nat.add_comm, ← List.drop_drop, List.drop_left' (length_bytes x)]
      rw [List.flatMap_cons, hdrop, ih (Nat.lt_of_succ_lt_succ hi), List.getElem_cons_succ]

instance [Copied α] (n : ℕ) : Copied (Vector α n) where
  ofBytes data := Vector.ofFn fun i => ofBytes ((data.drop (i * width α)).take (width α))
  ofBytes_bytes v := by
    apply Vector.ext
    intro i hi
    rw [Vector.getElem_ofFn]
    change ofBytes (((v.toList.flatMap bytes).drop (i * width α)).take (width α)) = v[i]
    rw [take_drop_flatMap_bytes (by rwa [Vector.length_toList]), ofBytes_bytes,
      Vector.getElem_toList]

end FixedWidth

/-- Two records of the same widths that agree as one run of bytes, with what follows them, agree
field by field. -/
theorem flatten_append_inj {α : Type} {xs ys : List (List α)} {rest rest' : List α}
    (hlen : xs.map List.length = ys.map List.length)
    (h : xs.flatten ++ rest = ys.flatten ++ rest') : xs = ys ∧ rest = rest' := by
  have htotal : xs.flatten.length = ys.flatten.length := by
    rw [List.length_flatten, List.length_flatten, hlen]
  obtain ⟨hflat, hrest⟩ := List.append_inj h htotal
  exact ⟨List.eq_iff_flatten_eq.mpr ⟨hflat, hlen⟩, hrest⟩

end DSEmu

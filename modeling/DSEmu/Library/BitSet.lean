import Mathlib.Data.UInt

/-!
# Words as sets of bits

A word of 32 bits is a set of numbers below 32. Setting and clearing a bit insert and erase it
(`hasBit_or_bit`, `hasBit_and_not_bit`), and the test that a word is a power of two, as programs
write it, says that the set has one element (`unique_iff`).
-/

namespace DSEmu.BitSet

/-- Whether a bit is set. -/
def hasBit (mask : UInt32) (b : ℕ) : Bool := mask.toBitVec.getLsbD b

/-- The word with one bit. -/
def bit (b : ℕ) : UInt32 := (1 : UInt32) <<< UInt32.ofNat b

/-- The number of the lowest bit, where there is one. -/
def ctz (mask : UInt32) : ℕ := mask.toBitVec.ctz.toNat

/-- The numbers of the bits, lowest first. -/
def bits (mask : UInt32) : List ℕ := (List.range 32).filter (hasBit mask)

variable {mask : UInt32} {b c : ℕ}

/-- A word has no bits from 32 on. -/
theorem hasBit_of_le (h : 32 ≤ b) : hasBit mask b = false := BitVec.getLsbD_of_ge _ _ h

/-- The bits of a word are below 32. -/
theorem lt_of_hasBit (h : hasBit mask b = true) : b < 32 := by
  by_contra hb
  have hnot : hasBit mask b = false := hasBit_of_le (Nat.le_of_not_lt hb)
  exact Bool.noConfusion (h.symm.trans hnot)

/-- The empty set. -/
@[simp] theorem hasBit_zero (b : ℕ) : hasBit 0 b = false := BitVec.getLsbD_zero

/-- The union. -/
@[simp] theorem hasBit_or (mask mask' : UInt32) (b : ℕ) :
    hasBit (mask ||| mask') b = (hasBit mask b || hasBit mask' b) := BitVec.getLsbD_or

/-- The intersection. -/
@[simp] theorem hasBit_and (mask mask' : UInt32) (b : ℕ) :
    hasBit (mask &&& mask') b = (hasBit mask b && hasBit mask' b) := BitVec.getLsbD_and

/-- The complement. -/
theorem hasBit_not (mask : UInt32) (hb : b < 32) : hasBit (~~~mask) b = !hasBit mask b := by
  show (~~~mask.toBitVec).getLsbD b = _
  rw [BitVec.getLsbD_not, decide_eq_true hb, Bool.true_and]
  rfl

/-- The word with one bit, as a bit vector. -/
theorem toBitVec_bit (hb : b < 32) : (bit b).toBitVec = BitVec.twoPow 32 b := by
  have hmod : (UInt32.ofNat b).toBitVec % 32 = BitVec.ofNat 32 b := by
    apply BitVec.eq_of_toNat_eq
    show b % 4294967296 % 32 = b % 4294967296
    omega
  show (1 : UInt32).toBitVec <<< ((UInt32.ofNat b).toBitVec % 32) = _
  rw [hmod, BitVec.shiftLeft_eq', BitVec.toNat_ofNat, Nat.mod_eq_of_lt (by omega)]
  exact BitVec.twoPow_eq 32 b ▸ rfl

/-- A set of one element. -/
theorem hasBit_bit (hb : b < 32) : hasBit (bit b) c = decide (c = b) := by
  rw [hasBit, toBitVec_bit hb, BitVec.getLsbD_twoPow, decide_eq_true hb, Bool.true_and]
  exact decide_eq_decide.mpr eq_comm

/-- A bit is inserted. -/
theorem hasBit_or_bit (mask : UInt32) (hb : b < 32) :
    hasBit (mask ||| bit b) c = (hasBit mask c || decide (c = b)) := by
  rw [hasBit_or, hasBit_bit hb]

/-- A bit is erased. -/
theorem hasBit_and_not_bit (mask : UInt32) (hb : b < 32) :
    hasBit (mask &&& ~~~bit b) c = (hasBit mask c && !decide (c = b)) := by
  rcases Nat.lt_or_ge c 32 with hc | hc
  · rw [hasBit_and, hasBit_not _ hc, hasBit_bit hb]
  · rw [hasBit_of_le hc, hasBit_of_le hc, Bool.false_and]

/-- Two words with the same bits are the same. -/
theorem eq_of_hasBit {mask' : UInt32} (h : ∀ b, hasBit mask b = hasBit mask' b) : mask = mask' :=
  UInt32.toBitVec_inj.mp (BitVec.eq_of_getLsbD_eq fun b _ => h b)

/-- The list of the elements. -/
theorem mem_bits : b ∈ bits mask ↔ hasBit mask b = true := by
  rw [bits, List.mem_filter, List.mem_range]
  exact ⟨fun h => h.2, fun h => ⟨lt_of_hasBit h, h⟩⟩

/-- A word of 16 bits has the lower half. -/
theorem hasBit_toUInt16_toUInt32 (mask : UInt32) (b : ℕ) :
    hasBit mask.toUInt16.toUInt32 b = (decide (b < 16) && hasBit mask b) := by
  show ((mask.toBitVec.setWidth 16).setWidth 32).getLsbD b = (_ && mask.toBitVec.getLsbD b)
  rw [BitVec.getLsbD_setWidth, BitVec.getLsbD_setWidth]
  by_cases hb : b < 16
  · rw [decide_eq_true hb, decide_eq_true (Nat.lt_trans hb (by decide)), Bool.true_and,
      Bool.true_and]
  · rw [decide_eq_false hb, Bool.false_and, Bool.and_false]

/-- The only element is the first one. -/
theorem ctz_bit (hb : b < 32) : ctz (bit b) = b := by
  have hne : (bit b).toBitVec ≠ 0#32 := by
    intro hzero
    have hset : hasBit (bit b) b = true := (hasBit_bit hb).trans (decide_eq_true rfl)
    rw [hasBit, hzero, BitVec.getLsbD_zero] at hset
    contradiction
  have hlowest : hasBit (bit b) (ctz (bit b)) = true := BitVec.getLsbD_true_ctz_of_ne_zero hne
  rw [hasBit_bit hb] at hlowest
  exact of_decide_eq_true hlowest

/-- A set of one element, as a number. -/
theorem toNat_bit (hb : b < 32) : (bit b).toNat = 2 ^ b := by
  have hlt : 2 ^ b < 2 ^ 32 := Nat.pow_lt_pow_right (by decide) hb
  rw [← UInt32.toNat_toBitVec, toBitVec_bit hb, BitVec.toNat_twoPow, Nat.mod_eq_of_lt hlt]

/-- `mask & (mask - 1)` takes the lowest bit away, so it is 0 where there is one bit only. -/
theorem unique_iff : ¬(mask = 0 ∨ mask &&& (mask - 1) ≠ 0) ↔ ∃ b < 32, mask = bit b := by
  have hzero : mask = 0 ↔ mask.toNat = 0 := by
    rw [← UInt32.toNat_inj]
    rfl
  constructor
  · intro h
    push Not at h
    obtain ⟨hne, hand⟩ := h
    have hpos : mask.toNat ≠ 0 := fun h => hne (hzero.mpr h)
    have hand' : mask.toNat &&& (mask.toNat - 1) = 0 := by
      have hsub : (mask - 1).toNat = mask.toNat - 1 :=
        UInt32.toNat_sub_of_le _ _ (by
          rw [UInt32.le_iff_toNat_le]
          exact Nat.one_le_iff_ne_zero.mpr hpos)
      rw [← hsub, ← UInt32.toNat_and, hand]
      rfl
    obtain ⟨b, hb⟩ := (Nat.and_sub_one_eq_zero_iff_isPowerOfTwo hpos).mp hand'
    have hlt : b < 32 := by
      have hword := mask.toNat_lt
      rw [hb] at hword
      exact (Nat.pow_lt_pow_iff_right (by decide)).mp hword
    exact ⟨b, hlt, UInt32.toNat_inj.mp (hb.trans (toNat_bit hlt).symm)⟩
  · rintro ⟨b, hb, rfl⟩
    have hpos : (bit b).toNat ≠ 0 := by
      rw [toNat_bit hb]
      exact Nat.pos_iff_ne_zero.mp (Nat.two_pow_pos b)
    have hand : (bit b).toNat &&& ((bit b).toNat - 1) = 0 :=
      (Nat.and_sub_one_eq_zero_iff_isPowerOfTwo hpos).mpr ⟨b, toNat_bit hb⟩
    push Not
    refine ⟨fun h => hpos (congrArg UInt32.toNat h), UInt32.toNat_inj.mp ?_⟩
    have hsub : (bit b - 1).toNat = (bit b).toNat - 1 :=
      UInt32.toNat_sub_of_le _ _ (by
        rw [UInt32.le_iff_toNat_le]
        exact Nat.one_le_iff_ne_zero.mpr hpos)
    rw [UInt32.toNat_and, hsub, hand]
    rfl

end DSEmu.BitSet

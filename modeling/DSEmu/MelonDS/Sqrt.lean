import Mathlib.Algebra.Ring.Nat
import Mathlib.Logic.Function.Iterate
import DSEmu.Library.DigitRoot

/-!
# The square root unit

`SqrtDone` of `src/NDS.cpp` of melonDS, which finds the root of a value of 32 or 64 bits digit by
digit. The product that it compares with the rest has 32 bits. In the last of 32 rounds it may need
33, and is then taken without the highest one: `sqrtDone_spec` says for which values the result is
the root, and that it is one more for the others.
-/

namespace DSEmu

/-- The locals of `SqrtDone`. -/
structure SqrtState where
  val : UInt64
  rem : UInt64 := 0
  res : UInt32 := 0

/-- The body of the loop. -/
def sqrtStep (topShift : UInt64) (s : SqrtState) : SqrtState :=
  let rem := (s.rem <<< (2 : UInt64)) + ((s.val >>> topShift) &&& 0x3)
  let val := s.val <<< (2 : UInt64)
  let res := s.res <<< (1 : UInt32)
  let prod := (res <<< (1 : UInt32)) + 1
  if prod.toUInt64 ≤ rem then ⟨val, rem - prod.toUInt64, res + 1⟩ else ⟨val, rem, res⟩

/-- `SqrtDone`, from `SqrtCnt` and `SqrtVal` to `SqrtCnt` and `SqrtRes`. -/
def sqrtDone (sqrtCnt : UInt16) (sqrtVal0 sqrtVal1 : UInt32) : UInt16 × UInt32 :=
  let (val, nbits, topShift) :=
    if sqrtCnt &&& 0x0001 ≠ 0 then
      (sqrtVal0.toUInt64 + sqrtVal1.toUInt64 <<< (32 : UInt64), 32, (62 : UInt64))
    else (sqrtVal0.toUInt64, 16, 30)
  (sqrtCnt &&& ~~~0x8000, ((sqrtStep topShift)^[nbits] { val := val }).res)

theorem toNat_shl_one (x : UInt32) : (x <<< (1 : UInt32)).toNat = 2 * x.toNat % 2 ^ 32 := by
  rw [UInt32.toNat_shiftLeft]
  show x.toNat <<< 1 % 2 ^ 32 = _
  rw [Nat.shiftLeft_eq, Nat.mul_comm]

theorem toNat_shl_two (x : UInt64) : (x <<< (2 : UInt64)).toNat = x.toNat * 4 % 2 ^ 64 := by
  rw [UInt64.toNat_shiftLeft]
  show x.toNat <<< 2 % 2 ^ 64 = _
  rw [Nat.shiftLeft_eq]

/-- The two digits that come in next. -/
def nextDigits (topShift : UInt64) (s : SqrtState) : ℕ := s.val.toNat / 2 ^ topShift.toNat % 4

/-- A round in numbers: the product is without its highest bit if it has 33. -/
theorem sqrtStep_spec {topShift : UInt64} {s : SqrtState} (hshift : topShift.toNat < 64)
    (hres : s.res.toNat < 2 ^ 31) (hrem : s.rem.toNat ≤ 2 * s.res.toNat) :
    let t := 4 * s.rem.toNat + nextDigits topShift s
    let prod := (4 * s.res.toNat + 1) % 2 ^ 32
    (sqrtStep topShift s).val.toNat = s.val.toNat * 4 % 2 ^ 64 ∧
      (sqrtStep topShift s).res.toNat = 2 * s.res.toNat + (if prod ≤ t then 1 else 0) ∧
      (sqrtStep topShift s).rem.toNat = t - (if prod ≤ t then prod else 0) := by
  intro t prod
  have hdigits : nextDigits topShift s < 4 := Nat.mod_lt _ (by decide)
  have hdouble : (s.res <<< (1 : UInt32)).toNat = 2 * s.res.toNat := by
    rw [toNat_shl_one, Nat.mod_eq_of_lt (by omega)]
  have hprod : (((s.res <<< (1 : UInt32)) <<< (1 : UInt32)) + 1).toUInt64.toNat = prod := by
    rw [UInt32.toNat_toUInt64, UInt32.toNat_add, toNat_shl_one, hdouble]
    show (2 * (2 * s.res.toNat) % 2 ^ 32 + 1) % 2 ^ 32 = prod
    omega
  have hval : (s.val <<< (2 : UInt64)).toNat = s.val.toNat * 4 % 2 ^ 64 := toNat_shl_two _
  have ht : ((s.rem <<< (2 : UInt64)) + ((s.val >>> topShift) &&& 0x3)).toNat = t := by
    have hmask : ((s.val >>> topShift) &&& 0x3).toNat = nextDigits topShift s := by
      rw [UInt64.toNat_and, UInt64.toNat_shiftRight, Nat.mod_eq_of_lt hshift,
        Nat.shiftRight_eq_div_pow]
      exact Nat.and_two_pow_sub_one_eq_mod _ 2
    rw [UInt64.toNat_add, toNat_shl_two, hmask]
    omega
  have hle : (((s.res <<< (1 : UInt32)) <<< (1 : UInt32)) + 1).toUInt64 ≤
      (s.rem <<< (2 : UInt64)) + ((s.val >>> topShift) &&& 0x3) ↔ prod ≤ t := by
    rw [UInt64.le_iff_toNat_le, hprod, ht]
  unfold sqrtStep
  dsimp only
  by_cases h : prod ≤ t
  · rw [if_pos (hle.mpr h), if_pos h, if_pos h]
    refine ⟨hval, ?_, ?_⟩
    · rw [UInt32.toNat_add, hdouble]
      exact Nat.mod_eq_of_lt (by show 2 * s.res.toNat + 1 < 2 ^ 32; omega)
    · rw [UInt64.toNat_sub_of_le _ _ (hle.mpr h), hprod, ht]
  · rw [if_neg (mt hle.mp h), if_neg h, if_neg h]
    exact ⟨hval, hdouble, ht⟩

/-- The loop after `i` of `n` rounds on a value `v`. -/
structure AtRound (v n i : ℕ) (s : SqrtState) : Prop where
  val : s.val.toNat = v * 4 ^ i % 2 ^ 64
  root : IsRoot (v / 4 ^ (n - i)) s.res.toNat s.rem.toNat

namespace AtRound

variable {v n i : ℕ} {s : SqrtState}

/-- The next digits are those of the value. -/
theorem nextDigits_eq (h : AtRound v n i s) (hi : i < n) (hn : n ≤ 32) {topShift : UInt64}
    (hshift : topShift.toNat = 2 * (n - 1)) :
    nextDigits topShift s = v / 4 ^ (n - (i + 1)) % 4 := by
  have hpow : 2 ^ topShift.toNat = 4 ^ (n - (i + 1)) * 4 ^ i := by
    rw [hshift, Nat.pow_mul, ← Nat.pow_add]
    congr 1
    omega
  have hsplit : 2 ^ 64 = 2 ^ topShift.toNat * (4 * 4 ^ (32 - n)) := by
    have hfour : 4 * 4 ^ (32 - n) = 2 ^ (2 * (32 - n + 1)) := by
      rw [Nat.pow_mul, Nat.pow_succ']
    rw [hshift, hfour, ← Nat.pow_add]
    congr 1
    omega
  rw [nextDigits, h.val, hsplit, Nat.mod_mul_right_div_self,
    Nat.mod_mod_of_dvd _ (Nat.dvd_mul_right 4 _),
    hpow, Nat.mul_div_mul_right _ _ (Nat.pow_pos (by decide))]

/-- What is there of the value after one more round. -/
theorem value_succ (h : AtRound v n i s) (hi : i < n) (hn : n ≤ 32) {topShift : UInt64}
    (hshift : topShift.toNat = 2 * (n - 1)) :
    4 * (v / 4 ^ (n - i)) + nextDigits topShift s = v / 4 ^ (n - (i + 1)) := by
  have hpow : 4 ^ (n - i) = 4 ^ (n - (i + 1)) * 4 := by
    rw [← Nat.pow_succ]
    congr 1
    omega
  rw [h.nextDigits_eq hi hn hshift, hpow, ← Nat.div_div_eq_div_mul]
  omega

theorem res_lt (h : AtRound v n i s) (hv : v < 4 ^ n) (hi : i ≤ n) : s.res.toNat < 2 ^ i := by
  have hsplit := h.root.split
  have hw : v / 4 ^ (n - i) < 4 ^ i := by
    rw [Nat.div_lt_iff_lt_mul (Nat.pow_pos (by decide)), ← Nat.pow_add]
    rwa [Nat.add_sub_cancel' hi]
  have hsquare : 2 ^ i * 2 ^ i = 4 ^ i := by rw [← Nat.mul_pow]
  by_contra hge
  have hle := Nat.mul_self_le_mul_self (Nat.le_of_not_lt hge)
  omega

/-- A round, up to the thirty-first. -/
theorem step (h : AtRound v n i s) (hv : v < 4 ^ n) (hi : i < n) (hn : n ≤ 32) (hround : i < 31)
    {topShift : UInt64} (hshift : topShift.toNat = 2 * (n - 1)) :
    AtRound v n (i + 1) (sqrtStep topShift s) := by
  have hres : s.res.toNat < 2 ^ 30 :=
    Nat.lt_of_lt_of_le (h.res_lt hv (Nat.le_of_lt hi)) (Nat.pow_le_pow_right (by decide) (by omega))
  have hprod : (4 * s.res.toNat + 1) % 2 ^ 32 = 4 * s.res.toNat + 1 := Nat.mod_eq_of_lt (by omega)
  have hlt : topShift.toNat < 64 := by omega
  obtain ⟨hval, hres', hrem'⟩ := sqrtStep_spec hlt (by omega) h.root.small
  rw [hprod] at hres' hrem'
  constructor
  case val =>
    rw [hval, h.val, Nat.mod_mul_mod, Nat.mul_assoc, ← Nat.pow_succ]
  case root =>
    have hdigits : nextDigits topShift s < 4 := Nat.mod_lt _ (by decide)
    have hroot := h.root.step hdigits
    rw [h.value_succ hi hn hshift] at hroot
    rwa [hres', hrem']

/-- The rounds, up to the thirty-first. -/
theorem rounds (hv : v < 4 ^ n) (hn : n ≤ 32) (topShift : UInt64)
    (hshift : topShift.toNat = 2 * (n - 1))
    {val : UInt64} (hval : val.toNat = v) (i : ℕ) (hi : i ≤ n) (hround : i ≤ 31) :
    AtRound v n i ((sqrtStep topShift)^[i] { val := val }) := by
  induction i with
  | zero =>
    constructor
    case val =>
      rw [Nat.pow_zero, Nat.mul_one, ← hval]
      exact (Nat.mod_eq_of_lt val.toNat_lt).symm
    case root =>
      rw [Nat.sub_zero, Nat.div_eq_of_lt hv]
      exact IsRoot.zero
  | succ i ih =>
    rw [Function.iterate_succ_apply']
    exact (ih (by omega) (by omega)).step hv hi hn hround hshift

end AtRound

/-- The value is too small for a product of 33 bits, or the digit that is compared with it comes out
right all the same. -/
def RootIsExact (v : ℕ) : Prop :=
  v < 2 ^ 62 ∨ Nat.sqrt v % 2 = 1 ∨ v + 2 ^ 32 < (Nat.sqrt v + 1) * (Nat.sqrt v + 1)

instance (v : ℕ) : Decidable (RootIsExact v) := inferInstanceAs (Decidable (_ ∨ _ ∨ _))

/-- The thirty-second round, where the product may be without its highest bit. -/
theorem AtRound.last {v : ℕ} {s : SqrtState} (h : AtRound v 32 31 s) (hv : v < 4 ^ 32)
    (topShift : UInt64) (hshift : topShift.toNat = 62) :
    (sqrtStep topShift s).res.toNat =
      if RootIsExact v then Nat.sqrt v else Nat.sqrt v + 1 := by
  have hres : s.res.toNat < 2 ^ 31 := h.res_lt hv (by decide)
  have hlt : topShift.toNat < 64 := by omega
  obtain ⟨-, hres', -⟩ := sqrtStep_spec hlt hres h.root.small
  have hdigits : nextDigits topShift s < 4 := Nat.mod_lt _ (by decide)
  have hvalue : 4 * (v / 4 ^ (32 - 31)) + nextDigits topShift s = v := by
    rw [h.value_succ (by decide) (Nat.le_refl 32) hshift]
    exact Nat.div_one v
  have hroot := (h.root.step hdigits).eq_sqrt
  have hdouble := h.root.double (nextDigits topShift s)
  rw [hvalue] at hroot hdouble
  have hnext : (2 * s.res.toNat + 1) * (2 * s.res.toNat + 1) =
      2 * s.res.toNat * (2 * s.res.toNat) + 4 * s.res.toNat + 1 := by
    rw [Nat.add_mul, Nat.mul_add, Nat.one_mul]
    omega
  by_cases hdigit : 4 * s.res.toNat + 1 ≤ 4 * s.rem.toNat + nextDigits topShift s
  · -- The digit is 1, and the product is not larger than it should be.
    rw [if_pos hdigit] at hroot
    have hle : (4 * s.res.toNat + 1) % 2 ^ 32 ≤ 4 * s.rem.toNat + nextDigits topShift s :=
      Nat.le_trans (Nat.mod_le _ _) hdigit
    have hexact : RootIsExact v := .inr (.inl (by omega))
    rw [hres', if_pos hle, if_pos hexact, hroot]
  · rw [if_neg hdigit, Nat.add_zero] at hroot
    have hexact : RootIsExact v ↔ v < 2 ^ 62 ∨ (2 * s.res.toNat) % 2 = 1 ∨
        v + 2 ^ 32 < 2 * s.res.toNat * (2 * s.res.toNat) + 4 * s.res.toNat + 1 := by
      rw [RootIsExact, ← hroot, hnext]
    rw [hres', ← hroot]
    by_cases hsmall : s.res.toNat < 2 ^ 30
    · have hsquare : (2 * s.res.toNat + 1) * (2 * s.res.toNat + 1) ≤ (2 ^ 31 - 1) * (2 ^ 31 - 1) :=
        Nat.mul_self_le_mul_self (by omega)
      have hprod : (4 * s.res.toNat + 1) % 2 ^ 32 = 4 * s.res.toNat + 1 :=
        Nat.mod_eq_of_lt (by omega)
      rw [hprod, if_neg hdigit, if_pos (hexact.mpr (.inl (by omega))), Nat.add_zero]
    · have hsquare : 2 ^ 31 * 2 ^ 31 ≤ 2 * s.res.toNat * (2 * s.res.toNat) :=
        Nat.mul_self_le_mul_self (by omega)
      have hprod : (4 * s.res.toNat + 1) % 2 ^ 32 = 4 * s.res.toNat + 1 - 2 ^ 32 := by omega
      rw [hprod]
      by_cases h : RootIsExact v
      · have hcases := hexact.mp h
        rw [if_pos h]
        split <;> omega
      · have hcases := mt hexact.mpr h
        rw [if_neg h]
        split <;> omega

/-- The value of which `SqrtDone` takes the root. -/
def sqrtInput (sqrtCnt : UInt16) (sqrtVal0 sqrtVal1 : UInt32) : ℕ :=
  if sqrtCnt &&& 0x0001 ≠ 0 then sqrtVal0.toNat + 2 ^ 32 * sqrtVal1.toNat else sqrtVal0.toNat

/-- The result is the root of the value, or one more: this happens to values of 2^62 and more that
have an even root and are not more than 2^32 below the next square. -/
theorem sqrtDone_spec (sqrtCnt : UInt16) (sqrtVal0 sqrtVal1 : UInt32) :
    (sqrtDone sqrtCnt sqrtVal0 sqrtVal1).2.toNat =
      if RootIsExact (sqrtInput sqrtCnt sqrtVal0 sqrtVal1) then
        Nat.sqrt (sqrtInput sqrtCnt sqrtVal0 sqrtVal1)
      else Nat.sqrt (sqrtInput sqrtCnt sqrtVal0 sqrtVal1) + 1 := by
  obtain ⟨v, hinput⟩ : ∃ v, sqrtInput sqrtCnt sqrtVal0 sqrtVal1 = v := ⟨_, rfl⟩
  rw [hinput]
  by_cases hwide : sqrtCnt &&& 0x0001 ≠ 0
  · have hv : v = sqrtVal0.toNat + 2 ^ 32 * sqrtVal1.toNat := hinput.symm.trans (if_pos hwide)
    have h0 := sqrtVal0.toNat_lt
    have h1 := sqrtVal1.toNat_lt
    have hval : (sqrtVal0.toUInt64 + sqrtVal1.toUInt64 <<< (32 : UInt64)).toNat = v := by
      have hhigh : (sqrtVal1.toUInt64 <<< (32 : UInt64)).toNat = 2 ^ 32 * sqrtVal1.toNat := by
        rw [UInt64.toNat_shiftLeft, UInt32.toNat_toUInt64]
        show sqrtVal1.toNat <<< 32 % 2 ^ 64 = _
        rw [Nat.shiftLeft_eq, Nat.mul_comm]
        exact Nat.mod_eq_of_lt (by omega)
      rw [UInt64.toNat_add, UInt32.toNat_toUInt64, hhigh, hv]
      exact Nat.mod_eq_of_lt (by omega)
    have hlt : v < 4 ^ 32 := by omega
    have h31 := AtRound.rounds hlt (Nat.le_refl 32) 62 rfl hval 31 (by decide) (Nat.le_refl 31)
    have hlast := h31.last hlt 62 rfl
    rw [← hlast, sqrtDone, if_pos hwide, ← Function.iterate_succ_apply' (sqrtStep 62) 31]
  · have hv : v = sqrtVal0.toNat := hinput.symm.trans (if_neg hwide)
    have hlt : v < 4 ^ 16 := by
      rw [hv]
      exact sqrtVal0.toNat_lt
    have hval : sqrtVal0.toUInt64.toNat = v := by rw [hv, UInt32.toNat_toUInt64]
    have h16 := AtRound.rounds hlt (by decide) 30 rfl hval 16 (Nat.le_refl 16) (by decide)
    have hroot := h16.root.eq_sqrt
    rw [Nat.sub_self, Nat.pow_zero, Nat.div_one] at hroot
    have hexact : RootIsExact v := .inl (by omega)
    rw [if_pos hexact, ← hroot, sqrtDone, if_neg hwide]

end DSEmu

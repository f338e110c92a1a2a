import Mathlib.Algebra.GroupWithZero.Nat

/-!
# Magnitudes in binary64

Binary64 rounds to the nearest number of fifty-three bits, which carries a magnitude
across one power of two at most.  Integers of sixty-four bits are far below the end of the
range, and a few roundings do not bring their sum there.

## Main definitions

* `Under k m e`: the mantissa `m` with the exponent `e` is a magnitude below `2 ^ k`.
* `Below k f`: a number apart from its encoding is zero or of a magnitude below `2 ^ k`.
* `Small k x`: so is a number in binary64.

## Main statements

* `below_roundWithAccuracy`, `Below.add`, `Below.mul`: rounded results and their magnitude.
* `Below.unpack_pack`: the encoding in bits keeps a magnitude.
* `isFinite_ofInt_add_ofInt`: two integers of sixty-four bits have a finite sum.
-/

namespace Switchboard.Binary64

open Float.Model
open Float.Model.UnpackedFloat (Sign Accuracy ExtendedMantissa roundWithAccuracy packComponents
  shiftToTargetExponent shiftToExponent)

/-! ## Mantissa and exponent -/

/-- The magnitude `m * 2 ^ e` is below `2 ^ k`. -/
def Under (k : Int) (m : Nat) (e : Int) : Prop :=
  ∃ bits : Nat, m < 2 ^ bits ∧ bits + e ≤ k

section

variable {k l e e' : Int} {m m' n : Nat}

theorem Under.mono (h : Under k m e) (hle : k ≤ l) : Under l m e := by
  obtain ⟨bits, hm, hk⟩ := h
  exact ⟨bits, hm, by omega⟩

theorem Under.exponent_le (h : Under k m e) : e ≤ k := by
  obtain ⟨bits, -, hk⟩ := h
  omega

/-- A mantissa of its own bits. -/
theorem Under.log2_add_le (h : Under k m e) (hm : m ≠ 0) : m.log2 + 1 + e ≤ k := by
  obtain ⟨bits, hlt, hk⟩ := h
  have hlog : m.log2 < bits := (Nat.log2_lt hm).2 hlt
  omega

/-- Digits move from the exponent into the mantissa. -/
theorem Under.shiftLeft (h : Under k m e) (n : Nat) : Under k (m <<< n) (e - n) := by
  obtain ⟨bits, hm, hk⟩ := h
  refine ⟨bits + n, ?_, by omega⟩
  rw [Nat.shiftLeft_eq, Nat.pow_add]
  exact Nat.mul_lt_mul_of_pos_right hm (Nat.two_pow_pos n)

/-- Digits move from the mantissa into the exponent, and the last ones are dropped. -/
theorem Under.div_two_pow (h : Under k m e) (hn : e + n ≤ k) : Under k (m / 2 ^ n) (e + n) := by
  obtain ⟨bits, hm, hk⟩ := h
  by_cases hle : n ≤ bits
  · refine ⟨bits - n, ?_, by omega⟩
    rw [Nat.div_lt_iff_lt_mul (Nat.two_pow_pos n), ← Nat.pow_add, Nat.sub_add_cancel hle]
    exact hm
  · have hzero : m / 2 ^ n = 0 :=
      Nat.div_eq_of_lt (Nat.lt_trans hm (Nat.pow_lt_pow_right (by decide) (by omega)))
    exact ⟨0, by simp [hzero], by omega⟩

theorem Under.of_le_succ (h : Under k m e) (hle : m' ≤ m + 1) : Under (k + 1) m' e := by
  obtain ⟨bits, hm, hk⟩ := h
  refine ⟨bits + 1, ?_, by omega⟩
  have hpos := Nat.two_pow_pos bits
  rw [Nat.pow_succ]
  omega

theorem Under.of_le_add (h : Under k m e) (h' : Under k m' e) (hle : n ≤ m + m') :
    Under (k + 1) n e := by
  obtain ⟨bits, hm, hk⟩ := h
  obtain ⟨bits', hm', hk'⟩ := h'
  refine ⟨max bits bits' + 1, ?_, by omega⟩
  have hpow : 2 ^ bits ≤ 2 ^ max bits bits' := Nat.pow_le_pow_right (by decide) (by omega)
  have hpow' : 2 ^ bits' ≤ 2 ^ max bits bits' := Nat.pow_le_pow_right (by decide) (by omega)
  rw [Nat.pow_succ]
  omega

theorem Under.mul (h : Under k m e) (h' : Under l m' e') :
    Under (k + l) (m * m') (e + e') := by
  obtain ⟨bits, hm, hk⟩ := h
  obtain ⟨bits', hm', hk'⟩ := h'
  refine ⟨bits + bits', ?_, by omega⟩
  rw [Nat.pow_add]
  exact Nat.mul_lt_mul'' hm hm'

end

/-! ## Rounding -/

@[simp] theorem mantissa_shiftRight (em : ExtendedMantissa) (n : Nat) :
    (em >>> n).mantissa = em.mantissa / 2 ^ n := by
  change (Nat.repeat ExtendedMantissa.shiftRightOne n em).mantissa = _
  induction n with
  | zero => rw [Nat.repeat, Nat.pow_zero, Nat.div_one]
  | succ n ih =>
    rw [Nat.repeat, Nat.pow_succ, ← Nat.div_div_eq_div_mul, ← ih]
    rfl

@[simp] theorem mantissa_ofMantissaAndAccuracy (m : Nat) (accuracy : Accuracy) :
    (ExtendedMantissa.ofMantissaAndAccuracy m accuracy).mantissa = m := by
  rcases accuracy with _ | _ | _ | _ <;> rfl

/-- Rounding to the nearest adds one at most. -/
theorem roundToNearestEven_le (m : Nat) (accuracy : Accuracy) :
    accuracy.roundToNearestEven m ≤ m + 1 := by
  rcases accuracy with _ | _ | _ | _ <;> simp only [Accuracy.roundToNearestEven] <;> omega

theorem roundedMantissa_le (em : ExtendedMantissa) : em.roundedMantissa ≤ em.mantissa + 1 :=
  roundToNearestEven_le em.mantissa em.accuracy

/-- The range of exponents has its lower end at `-1074`. -/
theorem targetExponent_eq (total : Int) :
    Format.binary64.targetExponent total = max (total - 53) (-1074) := by
  have hbits : Format.binary64.mantissaBits = 53 := rfl
  simp [Format.targetExponent, hbits, Format.minExponent]

variable {k l e : Int} {m : Nat}

/-- Shifted to the exponent of binary64 a magnitude stays as low as it was. -/
theorem under_shiftToTargetExponent (h : Under k m e) (hk : -1074 ≤ k) (accuracy : Accuracy) :
    Under k (shiftToTargetExponent .binary64 m e accuracy).1.mantissa
      (shiftToTargetExponent .binary64 m e accuracy).2 := by
  simp only [shiftToTargetExponent, shiftToExponent, mantissa_shiftRight,
    mantissa_ofMantissaAndAccuracy, targetExponent_eq, totalExponent]
  refine h.div_two_pow ?_
  have he := h.exponent_le
  by_cases hm : m = 0
  · subst hm
    rw [Nat.log2_zero]
    omega
  · have hlog := h.log2_add_le hm
    omega

/-- A number apart from its encoding is zero or of a magnitude below `2 ^ k`. -/
inductive Below (k : Int) : UnpackedFloat → Prop
  | zero {sign : Sign} : Below k (.zero sign)
  | finite {sign : Sign} {m : Nat} {e : Int} {hpos : 0 < m} (h : Under k m e) :
      Below k (.finite sign m e hpos)

theorem Below.mono {f : UnpackedFloat} (h : Below k f) (hle : k ≤ l) : Below l f := by
  cases h with
  | zero => exact .zero
  | finite h => exact .finite (h.mono hle)

/-- Rounding may carry into one more digit. -/
theorem below_roundWithAccuracy (h : Under k m e) (hk : -1074 ≤ k) (sign : Sign)
    (accuracy : Accuracy) : Below (k + 1) (roundWithAccuracy .binary64 sign m e accuracy) := by
  have hrounded := (under_shiftToTargetExponent h hk accuracy).of_le_succ (roundedMantissa_le _)
  -- What the carry has made too long is shifted once more, and that is exact.
  have hfinal := under_shiftToTargetExponent hrounded (by omega) .exact
  unfold roundWithAccuracy
  dsimp only
  by_cases hzero : (shiftToTargetExponent .binary64
      (shiftToTargetExponent .binary64 m e accuracy).1.roundedMantissa
      (shiftToTargetExponent .binary64 m e accuracy).2 .exact).1.mantissa = 0
  · rw [dif_pos hzero]
    exact .zero
  · rw [dif_neg hzero]
    exact .finite hfinal

theorem below_round (h : Under k m e) (hk : -1074 ≤ k) (sign : Sign) :
    Below (k + 1) (UnpackedFloat.round .binary64 sign m e) := by
  have hshifted := h.shiftLeft (e - Format.binary64.targetExponent (totalExponent m e)).toNat
  exact below_roundWithAccuracy hshifted hk sign .exact

theorem below_normalize {n : Int} (h : Under k n.natAbs e) (hk : -1074 ≤ k) (zero : Sign) :
    Below (k + 1) (UnpackedFloat.normalize .binary64 n e zero) := by
  unfold UnpackedFloat.normalize
  split
  · rename_i hlt
    rw [Int.compare_eq_lt] at hlt
    have habs : (-n).toNat = n.natAbs := by omega
    exact habs ▸ below_round h hk .negative
  · exact .zero
  · rename_i hgt
    rw [Int.compare_eq_gt] at hgt
    have habs : n.toNat = n.natAbs := by omega
    exact habs ▸ below_round h hk .positive

/-! ## Arithmetic -/

@[simp] theorem natAbs_apply (sign : Sign) (n : Int) : (sign.apply n).natAbs = n.natAbs := by
  cases sign <;> simp [Sign.apply]

/-- A sum has one digit more, and one more by rounding. -/
theorem Below.add {f g : UnpackedFloat} (hf : Below k f) (hg : Below k g) (hk : -1074 ≤ k) :
    Below (k + 2) (UnpackedFloat.add .binary64 f g) := by
  cases hf with
  | zero =>
    cases hg with
    | zero =>
      rename_i sign sign'
      cases sign <;> cases sign' <;> exact .zero
    | finite hg => exact .finite (hg.mono (by omega))
  | finite hf =>
    cases hg with
    | zero => exact .finite (hf.mono (by omega))
    | finite hg =>
      rename_i s m e hpos s' m' e' hpos'
      have hm := hf.shiftLeft (e - min e e').toNat
      have hm' := hg.shiftLeft (e' - min e e').toNat
      rw [show e - ((e - min e e').toNat : Int) = min e e' by omega] at hm
      rw [show e' - ((e' - min e e').toNat : Int) = min e e' by omega] at hm'
      refine (below_normalize (hm.of_le_add hm' ?_) (by omega) .positive).mono (by omega)
      have hsum := Int.natAbs_add_le (s.apply ↑(m <<< (e - min e e').toNat))
        (s'.apply ↑(m' <<< (e' - min e e').toNat))
      rwa [natAbs_apply, natAbs_apply] at hsum

/-- The digits of a product are those of the factors, and one more by rounding. -/
theorem Below.mul {f g : UnpackedFloat} (hf : Below k f) (hg : Below l g) (hkl : -1074 ≤ k + l) :
    Below (k + l + 1) (UnpackedFloat.mul .binary64 f g) := by
  cases hf with
  | zero => cases hg <;> exact .zero
  | finite hf =>
    cases hg with
    | zero => exact .zero
    | finite hg => exact below_roundWithAccuracy (hf.mul hg) hkl _ .exact

theorem Below.neg {f : UnpackedFloat} (h : Below k f) : Below k f.neg := by
  cases h with
  | zero => exact .zero
  | finite h => exact .finite h

/-! ## Encoding in bits -/

/-- Bits of no infinity stand for a magnitude below that of the next exponent. -/
theorem below_unpack (b : BitVec 64)
    (hexponent : @UnpackedFloat.unpackExponent .binary64 b ≠ -1#11) :
    Below (max ((@UnpackedFloat.unpackExponent .binary64 b).toNat - 1022) (-1022))
      (UnpackedFloat.unpack .binary64 b) := by
  have hmantissa := (@UnpackedFloat.unpackMantissa .binary64 b).isLt
  delta UnpackedFloat.unpack
  dsimp only
  rw [if_neg hexponent]
  by_cases hzero : @UnpackedFloat.unpackExponent .binary64 b = 0#11
  · rw [if_pos hzero, hzero]
    by_cases hnone : @UnpackedFloat.unpackMantissa .binary64 b = 0#52
    · rw [dif_pos hnone]
      exact .zero
    · rw [dif_neg hnone]
      exact .finite ⟨52, hmantissa, by decide⟩
  · have hbias : (Format.binary64.exponentBias : Int) = 1023 := rfl
    rw [if_neg hzero, hbias]
    refine .finite ⟨53, (1#1 ++ @UnpackedFloat.unpackMantissa .binary64 b).isLt, ?_⟩
    omega

theorem below_unpack_packComponents (sign : Sign) (exponent : BitVec 11) (mantissa : BitVec 52)
    (hexponent : exponent ≠ -1#11) :
    Below (max (exponent.toNat - 1022) (-1022))
      (UnpackedFloat.unpack .binary64 (packComponents .binary64 sign exponent mantissa)) := by
  have hfield : UnpackedFloat.unpackExponent (packComponents .binary64 sign exponent mantissa) =
      exponent := UnpackedFloat.unpackExponent_packComponents
  have hbelow := below_unpack (packComponents .binary64 sign exponent mantissa)
  rw [hfield] at hbelow
  exact hbelow hexponent

theorem Below.unpack_pack {f : UnpackedFloat} (h : Below k f) (hlow : -1022 ≤ k)
    (hhigh : k ≤ 970) :
    Below k (Float.Model.pack f).unpack := by
  have hbits : (Float.Model.pack f).unpack =
      UnpackedFloat.unpack .binary64 (UnpackedFloat.pack .binary64 f) := rfl
  rw [hbits]
  cases h with
  | zero =>
    exact (below_unpack_packComponents _ 0 0 (by decide)).mono (by simpa using hlow)
  | finite h =>
    rename_i sign m e hpos
    have he := h.exponent_le
    have hlog := h.log2_add_le (Nat.ne_of_gt hpos)
    have hexponent : (e + Format.binary64.exponentBias +
        Format.binary64.mantissaBitsWithoutImplicit).toNat = (e + 1075).toNat := by
      simp only [Format.exponentBias]
      omega
    delta UnpackedFloat.pack
    dsimp only
    rw [hexponent, if_neg (by omega)]
    split
    · -- A mantissa of all its bits has the exponent in the field.
      rename_i hnormal
      have hfield : (BitVec.ofNat 11 (e + 1075).toNat).toNat = (e + 1075).toNat := by
        rw [BitVec.toNat_ofNat]
        omega
      have hnone : BitVec.ofNat 11 (e + 1075).toNat ≠ -1#11 := by
        intro hall
        have htop : (-1#11).toNat = 2047 := rfl
        rw [hall, htop] at hfield
        omega
      refine (below_unpack_packComponents sign _ _ hnone).mono ?_
      rw [hfield]
      have hbits : Format.binary64.mantissaBits = 53 := rfl
      omega
    · -- A shorter one has none, which makes it one of the least numbers.
      exact (below_unpack_packComponents sign 0 _ (by decide)).mono (by simpa using hlow)

/-! ## Integers -/

/-- A number in binary64 of a magnitude below `2 ^ k`. -/
def Small (k : Int) (x : Float) : Prop :=
  Below k x.toModel.unpack

variable {x y : Float}

theorem Below.isFinite {f : UnpackedFloat} (h : Below k f) : f.isFinite = true := by
  cases h <;> rfl

theorem Small.isFinite (h : Small k x) : x.isFinite = true :=
  Below.isFinite h

theorem Small.add (hx : Small k x) (hy : Small k y) (hlow : -1024 ≤ k) (hhigh : k ≤ 968) :
    Small (k + 2) (x + y) :=
  (Below.add hx hy (by omega)).unpack_pack (by omega) (by omega)

theorem Small.mul (hx : Small k x) (hy : Small l y) (hlow : -1023 ≤ k + l)
    (hhigh : k + l ≤ 969) :
    Small (k + l + 1) (x * y) :=
  (Below.mul hx hy (by omega)).unpack_pack (by omega) (by omega)

theorem Small.neg (hx : Small k x) (hlow : -1022 ≤ k) (hhigh : k ≤ 970) : Small k (-x) :=
  (Below.neg hx).unpack_pack hlow hhigh

theorem small_one : Small 1 Float.exactlyRepresentablePowersOfTen[0] := by
  have hone : Float.exactlyRepresentablePowersOfTen[0].toModel.unpack =
      .finite .positive (2 ^ 52) (-52) (by decide) := rfl
  rw [Small, hone]
  exact .finite ⟨53, by decide, by decide⟩

theorem below_ofScientific {n : Nat} (h : Under k n 0) (hlow : -1075 ≤ k) :
    Below (k + 2) (UnpackedFloat.ofScientific .binary64 n 0) := by
  unfold UnpackedFloat.ofScientific
  by_cases hzero : n = 0
  · rw [dif_pos hzero]
    exact .zero
  · have hrange : (2 : Int) ^ Format.binary64.exponentBits = 2048 := rfl
    rw [dif_neg hzero, if_neg (by decide), hrange, if_neg (by omega), if_pos (by decide)]
    have hone : Under 1 1 0 := ⟨1, by decide, by decide⟩
    exact (Below.mul (.finite (h.shiftLeft 53)) (.finite hone) (by omega)).mono (by omega)

/-- An integer that fits fifty-three bits is converted as a word and multiplied by one, and any
other is taken for a decimal: either way it is rounded twice at most. -/
theorem small_ofNat {n : Nat} (h : n ≤ 2 ^ 64) : Small 68 (Float.ofNat n) := by
  have hunder : Under 65 n 0 := ⟨65, by omega, by decide⟩
  have hofNat : Float.ofNat n = Float.ofScientific n false 0 := rfl
  rw [hofNat, Float.ofScientific]
  split
  · have hword : n.toUInt64.toNat = n := by
      rw [UInt64.toNat_ofNat']
      omega
    have hfloat : Small 66 n.toUInt64.toFloat := by
      refine Below.unpack_pack ?_ (by decide) (by decide)
      rw [UnpackedFloat.ofUInt64, hword]
      exact @below_normalize 65 0 n hunder (by decide) .positive
    exact hfloat.mul small_one (by decide) (by decide)
  · have hfloat : Below 68 (UnpackedFloat.ofScientific .binary64 n 0) :=
      (below_ofScientific hunder (by decide)).mono (by decide)
    exact hfloat.unpack_pack (by decide) (by decide)

theorem small_ofInt {n : Int} (h : n.natAbs ≤ 2 ^ 64) : Small 68 (Float.ofInt n) := by
  cases n with
  | ofNat n => exact small_ofNat h
  | negSucc n => exact (small_ofNat h).neg (by decide) (by decide)

/-- Two integers of sixty-four bits have a sum in binary64. -/
theorem isFinite_ofInt_add_ofInt {a b : Int} (ha : a.natAbs ≤ 2 ^ 64) (hb : b.natAbs ≤ 2 ^ 64) :
    (Float.ofInt a + Float.ofInt b).isFinite = true :=
  ((small_ofInt ha).add (small_ofInt hb) (by decide) (by decide)).isFinite

end Switchboard.Binary64

import Failover.Budget
import Mathlib

/-!
# What doubles are worth

Budgets are run on floating-point numbers of 64 bits.  These are rounded, but much of what
a bucket does with them is exact.  A double is a mantissa of at most fifty-three bits times
a power of two; every number of that form in range is one, and is not touched by rounding,
whatever form it is given in.  So whole numbers are exact as far as fifty-three bits go,
and so is taking one away from a number that is at least one, since what is left needs no
bits beyond those that were there.

Where a result is rounded, less has to be known of it.  What is made of numbers without a
minus sign has none either, so that it is a number as soon as it is at most one; and a
quotient of numbers of ordinary size is finite.

## Main definitions

* `Double.Fits` — the mantissas and exponents of the doubles.
* `Double.ofParts` — what the parts of a double stand for.
* `Double.worth?` — the rational number that a double without a minus sign stands for.
* `Double.Unsigned` — a double that has no minus sign, or is no number.

## Main results

* `Double.Fits.round`, `Double.Fits.unpack_pack` — neither rounding nor packing touches a
  number that fits.
* `Double.worth?_ofNat`, `Double.worth?_sub_one` — whole numbers and taking one away are
  exact.
* `Double.le_iff`, `Double.toNat_toUInt64` — so are comparing and cutting off.
* `Double.worth?_div`, `Double.exists_worth?_of_le` — which rounded results are numbers.
-/

namespace Failover

namespace Double

open Float.Model Float.Model.UnpackedFloat

/-! ### The numbers that a double holds -/

/-- The mantissas and exponents of the doubles: fifty-three bits, with the highest one set
unless the exponent is the least. -/
structure Fits (m : ℕ) (e : ℤ) : Prop where
  /-- Zero has a form of its own. -/
  pos : 0 < m
  /-- The mantissa has at most fifty-three bits. -/
  lt : m < 2 ^ 53
  /-- The exponent is at least the least one. -/
  least_le : -1074 ≤ e
  /-- The exponent is at most the greatest one. -/
  le_most : e ≤ 971
  /-- The mantissa is as long as it can be. -/
  full : 2 ^ 52 ≤ m ∨ e = -1074

theorem log2_eq {m k : ℕ} (hlo : 2 ^ k ≤ m) (hhi : m < 2 ^ (k + 1)) : m.log2 = k :=
  (Nat.log2_eq_iff (by have := Nat.two_pow_pos k; omega)).mpr ⟨hlo, hhi⟩

theorem Fits.log2_le {m : ℕ} {e : ℤ} (h : Fits m e) : m.log2 ≤ 52 := by
  have := (Nat.log2_lt h.pos.ne').mpr h.lt
  omega

theorem Fits.log2_eq_or {m : ℕ} {e : ℤ} (h : Fits m e) : m.log2 = 52 ∨ e = -1074 :=
  h.full.imp_left fun hlo => log2_eq hlo h.lt

/-- Rounding a double leaves its exponent. -/
theorem Fits.targetExponent {m : ℕ} {e : ℤ} (h : Fits m e) :
    Format.binary64.targetExponent (totalExponent m e) = e := by
  have hlog := h.log2_le
  have hleast := h.least_le
  have hor := h.log2_eq_or
  change max ((m.log2 : ℤ) + 1 + e - 53) (-1074) = e
  omega

theorem zpow_eq_zpow_mul_pow {e e' : ℤ} (hle : e ≤ e') :
    (2 : ℚ) ^ e' = 2 ^ e * 2 ^ (e' - e).toNat := by
  rw [← zpow_natCast, ← zpow_add₀ two_ne_zero, Int.toNat_of_nonneg (by omega)]
  congr 1
  ring

/-- The same number with a lesser exponent has the larger mantissa. -/
theorem eq_mul_two_pow {m m' : ℕ} {e e' : ℤ} (h : (m : ℚ) * 2 ^ e = m' * 2 ^ e')
    (hle : e ≤ e') : m = m' * 2 ^ (e' - e).toNat := by
  rw [zpow_eq_zpow_mul_pow hle, mul_left_comm, mul_comm] at h
  exact_mod_cast mul_left_cancel₀ (zpow_ne_zero e two_ne_zero) h

/-- Every number with at most fifty-three bits is one, if its exponent is in range. -/
theorem exists_fits {m : ℕ} {e : ℤ} (hpos : 0 < m) (hlt : m < 2 ^ 53) (hleast : -1074 ≤ e)
    (hmost : e ≤ 971) : ∃ m' e', Fits m' e' ∧ (m : ℚ) * 2 ^ e = m' * 2 ^ e' := by
  have hlog : m.log2 < 53 := (Nat.log2_lt hpos.ne').mpr hlt
  -- shift as far as the highest bit or the least exponent
  obtain ⟨k, hk⟩ : ∃ k, k = min (52 - m.log2) (e + 1074).toNat := ⟨_, rfl⟩
  refine ⟨m * 2 ^ k, e - k, ⟨by positivity, ?_, by omega, by omega, ?_⟩, ?_⟩
  · calc m * 2 ^ k
        < 2 ^ (m.log2 + 1) * 2 ^ k := Nat.mul_lt_mul_of_pos_right Nat.lt_log2_self (by positivity)
      _ ≤ 2 ^ (m.log2 + 1) * 2 ^ (52 - m.log2) :=
          Nat.mul_le_mul_left _ (Nat.pow_le_pow_right (by decide) (by omega))
      _ = 2 ^ 53 := by rw [← pow_add]; congr 1; omega
  · rcases show k = 52 - m.log2 ∨ e - k = -1074 by omega with rfl | hleast
    · left
      calc 2 ^ 52 = 2 ^ m.log2 * 2 ^ (52 - m.log2) := by rw [← pow_add]; congr 1; omega
        _ ≤ m * 2 ^ (52 - m.log2) := Nat.mul_le_mul_right _ (Nat.log2_self_le hpos.ne')
    · exact Or.inr hleast
  · rw [zpow_eq_zpow_mul_pow (show e - k ≤ e by omega), show (e - (e - k)).toNat = k by omega]
    push_cast
    ring

/-! ### Packing and unpacking -/

/-- A mantissa has a one in front of its bits. -/
theorem toNat_one_append (m : BitVec 52) : (1#1 ++ m).toNat = 2 ^ 52 + m.toNat := by
  have hcons : 1#1 ++ m = BitVec.cons true m := rfl
  rw [hcons, BitVec.toNat_cons', Bool.toNat_true, Nat.one_shiftLeft]

/-- What a sign, an exponent and a mantissa stand for. -/
def ofParts (s : Sign) (e m : ℕ) : UnpackedFloat :=
  if e = 2047 then if m = 0 then .infinity s else .notANumber
  else if e = 0 then if h : 0 < m then .finite s m (-1074) h else .zero s
  else .finite s (2 ^ 52 + m) (e - 1075) (by positivity)

theorem unpack_eq_ofParts (b : BitVec Format.binary64.numBits) :
    UnpackedFloat.unpack .binary64 b = ofParts (.ofBitVec (unpackSign b))
      (unpackExponent b).toNat (unpackMantissa b).toNat := by
  have hallOnes : unpackExponent b = -1#11 ↔ (unpackExponent b).toNat = 2047 := by
    rw [← BitVec.toNat_inj]
    rfl
  have hzero : unpackExponent b = 0#11 ↔ (unpackExponent b).toNat = 0 := by
    rw [← BitVec.toNat_inj]
    rfl
  have hmantissa : unpackMantissa b = 0#52 ↔ (unpackMantissa b).toNat = 0 := by
    rw [← BitVec.toNat_inj]
    rfl
  have hbias : (Format.binary64.exponentBias : ℤ) + Format.binary64.mantissaBitsWithoutImplicit =
      1075 := rfl
  simp only [UnpackedFloat.unpack, ofParts, hallOnes, hzero, hmantissa, hbias,
    Nat.pos_iff_ne_zero, dite_not]
  split_ifs with h1 h2 h3 h4
  · rfl
  · rfl
  · rfl
  · rw [UnpackedFloat.finite.injEq, h3]
    exact ⟨rfl, rfl, rfl⟩
  · rw [UnpackedFloat.finite.injEq]
    exact ⟨rfl, toNat_one_append _, rfl⟩

theorem unpack_packComponents (s : Sign) (e : BitVec 11) (m : BitVec 52) :
    UnpackedFloat.unpack .binary64 (packComponents .binary64 s e m) =
      ofParts s e.toNat m.toNat := by
  rw [unpack_eq_ofParts, unpackSign_packComponents, Sign.ofBitVec_toBitVec,
    unpackExponent_packComponents, unpackMantissa_packComponents]

/-- The finite numbers among the doubles are those that fit. -/
theorem fits_of_ofParts {s s' : Sign} {e m m' : ℕ} {e' : ℤ} {hpos : 0 < m'} (he : e < 2048)
    (hm : m < 2 ^ 52) (h : ofParts s e m = .finite s' m' e' hpos) : Fits m' e' := by
  unfold ofParts at h
  split_ifs at h with h1 h2 h3
  · cases h
    exact ⟨hpos, by omega, le_refl _, by decide, Or.inr rfl⟩
  · cases h
    exact ⟨hpos, by omega, by omega, by omega, Or.inl (by omega)⟩

theorem fits_of_unpack {x : Float.Model} {s : Sign} {m : ℕ} {e : ℤ} {hpos : 0 < m}
    (h : x.unpack = .finite s m e hpos) : Fits m e := by
  rw [Float.Model.unpack, unpack_eq_ofParts] at h
  exact fits_of_ofParts (BitVec.isLt _) (BitVec.isLt _) h

/-- What is left of a finite number when it is packed. -/
theorem unpack_pack_finite (s : Sign) {m : ℕ} {e : ℤ} (hpos : 0 < m) :
    (Float.Model.pack (.finite s m e hpos)).unpack =
      if 971 < e then .infinity s
      else ofParts s (if m.log2 = 52 then (e + 1075).toNat else 0) (m % 2 ^ 52) := by
  have hbias : (e + Format.binary64.exponentBias + Format.binary64.mantissaBitsWithoutImplicit) =
      e + 1075 := by
    change e + 1023 + 52 = _
    omega
  change UnpackedFloat.unpack .binary64 (UnpackedFloat.pack .binary64 (.finite s m e hpos)) = _
  simp only [UnpackedFloat.pack, hbias, Format.mantissaBits]
  by_cases he : 971 < e
  · rw [if_pos (by omega), if_pos he]
    cases s <;> rfl
  · rw [if_neg (by omega), if_neg he]
    split_ifs with h1 h2 h2
    · rw [unpack_packComponents, BitVec.toNat_ofNat, BitVec.toNat_ofNat, Nat.mod_eq_of_lt (by omega)]
    · omega
    · omega
    · rw [unpack_packComponents, BitVec.toNat_ofNat, BitVec.toNat_ofNat, Nat.zero_mod]

/-- Numbers that fit are packed without loss. -/
theorem Fits.unpack_pack {m : ℕ} {e : ℤ} (h : Fits m e) (s : Sign) :
    (Float.Model.pack (.finite s m e h.pos)).unpack = .finite s m e h.pos := by
  have hpos := h.pos
  have hlt := h.lt
  have hleast := h.least_le
  have hmost := h.le_most
  rw [unpack_pack_finite, if_neg (not_lt.mpr hmost)]
  by_cases hfull : 2 ^ 52 ≤ m
  · have hmantissa : 2 ^ 52 + m % 2 ^ 52 = m := by omega
    have hexponent : ((e + 1075).toNat : ℤ) - 1075 = e := by omega
    simp only [ofParts, if_pos (log2_eq hfull hlt), hmantissa, hexponent,
      show (e + 1075).toNat ≠ 2047 by omega, show (e + 1075).toNat ≠ 0 by omega, if_false]
  · have hlog : m.log2 ≠ 52 := fun hlog => hfull (hlog ▸ Nat.log2_self_le hpos.ne')
    have hmantissa : m % 2 ^ 52 = m := Nat.mod_eq_of_lt (not_le.mp hfull)
    have hexponent : e = -1074 := h.full.resolve_left hfull
    subst hexponent
    simp only [ofParts, if_neg hlog, hmantissa, dif_pos hpos, if_true]
    rfl

/-! ### Rounding -/

/-- Extended mantissas lose their last bits without a trace if these are zero. -/
theorem shift_exact (m k : ℕ) :
    (ExtendedMantissa.ofMantissaAndAccuracy (m * 2 ^ k) .exact) >>> k =
      ExtendedMantissa.ofMantissaAndAccuracy m .exact := by
  change Nat.repeat ExtendedMantissa.shiftRightOne k ⟨m * 2 ^ k, false, false⟩ =
    ⟨m, false, false⟩
  induction k generalizing m with
  | zero => rw [pow_zero, Nat.mul_one]; rfl
  | succ k ih =>
    have hm : m * 2 ^ (k + 1) = m * 2 * 2 ^ k := by rw [pow_succ]; ring
    rw [Nat.repeat, hm, ih, ExtendedMantissa.shiftRightOne, Nat.mul_div_cancel m two_pos,
      Nat.mul_mod_left]
    rfl

theorem log2_mul_two_pow {m : ℕ} (hm : 0 < m) (k : ℕ) : (m * 2 ^ k).log2 = m.log2 + k := by
  refine log2_eq ?_ ?_
  · rw [pow_add]
    exact Nat.mul_le_mul_right _ (Nat.log2_self_le hm.ne')
  · rw [Nat.add_right_comm, pow_add]
    exact Nat.mul_lt_mul_of_pos_right Nat.lt_log2_self (by positivity)

theorem totalExponent_mul_two_pow {m : ℕ} (hm : 0 < m) (e : ℤ) (k : ℕ) :
    totalExponent (m * 2 ^ k) e = totalExponent m (e + k) := by
  rw [totalExponent, totalExponent, log2_mul_two_pow hm]
  push_cast
  ring

/-- Shifting to the exponent that a double has. -/
theorem Fits.shiftToTargetExponent {m : ℕ} {e : ℤ} {k : ℕ} (h : Fits m (e + k)) :
    shiftToTargetExponent .binary64 (m * 2 ^ k) e .exact =
      (ExtendedMantissa.ofMantissaAndAccuracy m .exact, e + k) := by
  have hshift : (e + k - e).toNat = k := by omega
  rw [UnpackedFloat.shiftToTargetExponent, totalExponent_mul_two_pow h.pos, h.targetExponent,
    shiftToExponent, hshift, shift_exact]

/-- Rounding a number that fits leaves it as it is. -/
theorem Fits.roundWithAccuracy {m : ℕ} {e : ℤ} {k : ℕ} (h : Fits m (e + k)) (s : Sign) :
    roundWithAccuracy .binary64 s (m * 2 ^ k) e .exact = .finite s m (e + k) h.pos := by
  have hagain := Fits.shiftToTargetExponent (k := 0) (e := e + k) (m := m) (by simpa using h)
  rw [pow_zero, Nat.mul_one, Nat.cast_zero, Int.add_zero] at hagain
  have hround : (ExtendedMantissa.ofMantissaAndAccuracy m .exact).roundedMantissa = m := rfl
  simp only [UnpackedFloat.roundWithAccuracy, h.shiftToTargetExponent, hround, hagain]
  exact dif_neg h.pos.ne'

/-- **Rounding is exact on the numbers that doubles can hold**, however they are given. -/
theorem Fits.round {m d : ℕ} {e e₀ : ℤ} (h : Fits m e) (s : Sign)
    (hvalue : (d : ℚ) * 2 ^ e₀ = m * 2 ^ e) :
    UnpackedFloat.round .binary64 s d e₀ = .finite s m e h.pos := by
  rcases le_total e₀ e with hle | hle
  · obtain ⟨k, rfl⟩ := Int.le.dest hle
    have hd := eq_mul_two_pow hvalue hle
    have hshift : (e₀ - (e₀ + k)).toNat = 0 := by omega
    rw [show (e₀ + k - e₀).toNat = k by omega] at hd
    rw [UnpackedFloat.round, hd, totalExponent_mul_two_pow h.pos, h.targetExponent]
    simp only [decreaseExponent, hshift, Nat.shiftLeft_zero, Nat.cast_zero, Int.sub_zero]
    exact h.roundWithAccuracy s
  · obtain ⟨k, rfl⟩ := Int.le.dest hle
    have hm := eq_mul_two_pow hvalue.symm hle
    rw [show (e + k - e).toNat = k by omega] at hm
    subst hm
    have hd : 0 < d := Nat.pos_of_mul_pos_right h.pos
    have hexact := Fits.roundWithAccuracy (k := 0) (e := e) (by simpa using h) s
    simp only [pow_zero, Nat.mul_one, Nat.cast_zero, Int.add_zero] at hexact
    rw [UnpackedFloat.round, ← totalExponent_mul_two_pow hd, h.targetExponent]
    simp only [decreaseExponent, show (e + k - e).toNat = k by omega, Nat.shiftLeft_eq,
      Int.add_sub_cancel]
    exact hexact

theorem Fits.normalize {m d : ℕ} {e e₀ : ℤ} (h : Fits m e)
    (hvalue : (d : ℚ) * 2 ^ e₀ = m * 2 ^ e) (s : Sign) :
    UnpackedFloat.normalize .binary64 d e₀ s = .finite .positive m e h.pos := by
  have hd : d ≠ 0 := by
    rintro rfl
    have hpos := h.pos
    rw [Nat.cast_zero, zero_mul] at hvalue
    exact absurd hvalue.symm (by positivity)
  have hcompare : compare (d : ℤ) 0 = .gt := by
    rw [Int.compare_eq_gt]
    omega
  simp only [UnpackedFloat.normalize, hcompare]
  exact h.round .positive hvalue

/-! ### What a double is worth -/

/-- What an unpacked number is worth, unless it is infinite, has a minus sign or is none. -/
def worthOf? : UnpackedFloat → Option ℚ
  | .zero .positive => some 0
  | .finite .positive m e _ => some (m * 2 ^ e)
  | _ => none

/-- What a double is worth, unless it is infinite, has a minus sign or is no number. -/
def worth? (x : Float) : Option ℚ := worthOf? x.toModel.unpack

/-- What a double that is worth something looks like. -/
theorem worth?_eq_some_iff {x : Float} {q : ℚ} :
    worth? x = some q ↔ (x.toModel.unpack = .zero .positive ∧ q = 0) ∨
      ∃ m e, ∃ h : Fits m e, x.toModel.unpack = .finite .positive m e h.pos ∧ q = m * 2 ^ e := by
  constructor
  · intro h
    unfold worth? at h
    generalize hu : x.toModel.unpack = u at h
    match u, h with
    | .zero .positive, h =>
      cases h
      exact .inl ⟨rfl, rfl⟩
    | .finite .positive m e hpos, h =>
      cases h
      exact .inr ⟨m, e, fits_of_unpack hu, rfl, rfl⟩
  · rintro (⟨hu, rfl⟩ | ⟨m, e, h, hu, rfl⟩)
    · rw [worth?, hu]
      rfl
    · rw [worth?, hu]
      rfl

/-- Packing keeps the number when it has at most fifty-three bits. -/
theorem worthOf?_normalize {d m : ℕ} {e e₀ : ℤ} (hpos : 0 < m) (hlt : m < 2 ^ 53)
    (hleast : -1074 ≤ e) (hmost : e ≤ 971) (hvalue : (d : ℚ) * 2 ^ e₀ = m * 2 ^ e) (s : Sign) :
    worthOf? (Float.Model.pack (UnpackedFloat.normalize .binary64 d e₀ s)).unpack =
      some ((m : ℚ) * 2 ^ e) := by
  obtain ⟨m', e', h, hshifted⟩ := exists_fits hpos hlt hleast hmost
  rw [h.normalize (hvalue.trans hshifted), h.unpack_pack, hshifted]
  rfl

/-- Whole numbers are first made a double and then multiplied by one. -/
theorem toModel_ofNat {n : ℕ} (h : n < 2 ^ 53) :
    (Float.ofNat n).toModel = Float.Model.mul
      (Float.Model.pack (UnpackedFloat.normalize .binary64 n 0 .positive))
      (Float.Model.ofBits 4607182418800017408) := by
  have hsmall : n.toUInt64.toNat = n := Nat.mod_eq_of_lt (by omega)
  change (Float.ofScientific n false 0).toModel = _
  rw [Float.ofScientific, dif_pos ⟨h, by decide⟩]
  change Float.Model.mul (Float.Model.pack
    (UnpackedFloat.normalize .binary64 (n.toUInt64.toNat : ℤ) 0 .positive)) _ = _
  rw [hsmall]
  rfl

theorem unpack_one : (Float.Model.ofBits 4607182418800017408).unpack =
    .finite .positive (2 ^ 52) (-52) (by decide) := rfl

/-- **Whole numbers are worth themselves.** -/
theorem worth?_ofNat {n : ℕ} (h : n < 2 ^ 53) : worth? (Float.ofNat n) = some n := by
  rw [worth?, toModel_ofNat h, Float.Model.mul, unpack_one]
  rcases Nat.eq_zero_or_pos n with rfl | hpos
  · rw [Nat.cast_zero]
    rfl
  · obtain ⟨m, e, hfits, hvalue⟩ := exists_fits (e := 0) hpos h (by decide) (by decide)
    have hback : e + -52 + (52 : ℕ) = e := by omega
    have hshifted : Fits m (e + -52 + (52 : ℕ)) := by rwa [hback]
    rw [hfits.normalize hvalue, hfits.unpack_pack]
    change worthOf? (Float.Model.pack (UnpackedFloat.roundWithAccuracy .binary64 .positive
      (m * 2 ^ 52) (e + -52) .exact)).unpack = _
    rw [hshifted.roundWithAccuracy, hshifted.unpack_pack]
    change some ((m : ℚ) * 2 ^ (e + -52 + (52 : ℕ) : ℤ)) = some (n : ℚ)
    rw [hback, ← hvalue, zpow_zero, mul_one]

/-! ### Comparing and cutting off -/

/-- The one of two doubles with the greater exponent is the greater one. -/
theorem Fits.lt_of_lt {m m' : ℕ} {e e' : ℤ} (h : Fits m e) (h' : Fits m' e') (he : e < e') :
    (m : ℚ) * 2 ^ e < m' * 2 ^ e' := by
  have hfull : 2 ^ 52 ≤ m' := h'.full.resolve_right (by have := h.least_le; omega)
  calc (m : ℚ) * 2 ^ e < 2 ^ 53 * 2 ^ e := by
        have : (m : ℚ) < 2 ^ 53 := by exact_mod_cast h.lt
        gcongr
    _ = 2 ^ 52 * 2 ^ (e + 1) := by rw [zpow_add₀ two_ne_zero]; ring
    _ ≤ m' * 2 ^ e' := by
        have : (2 ^ 52 : ℚ) ≤ m' := by exact_mod_cast hfull
        gcongr
        · norm_num
        · omega

theorem Fits.le_iff {m m' : ℕ} {e e' : ℤ} (h : Fits m e) (h' : Fits m' e') :
    ((compare e e').then (compare m m')).isLE = true ↔ (m : ℚ) * 2 ^ e ≤ m' * 2 ^ e' := by
  rcases lt_trichotomy e e' with hlt | rfl | hgt
  · have hcompare : compare e e' = .lt := compare_lt_iff_lt.mpr hlt
    simp [hcompare, (h.lt_of_lt h' hlt).le]
  · have hcompare : compare e e = .eq := compare_eq_iff_eq.mpr rfl
    rw [hcompare, Ordering.then, Ordering.isLE_iff_ne_gt, ← not_iff_not, not_ne_iff, compare_gt_iff_gt, not_le,
      mul_lt_mul_iff_left₀ (by positivity), Nat.cast_lt]
  · have hcompare : compare e e' = .gt := compare_gt_iff_gt.mpr hgt
    simp [hcompare, h'.lt_of_lt h hgt]

/-- **Doubles compare as what they are worth.** -/
theorem le_iff {x y : Float} {p q : ℚ} (hx : worth? x = some p) (hy : worth? y = some q) :
    x ≤ y ↔ p ≤ q := by
  have hle : x ≤ y ↔ x.toModel.unpack.le y.toModel.unpack = true := by
    change decide (x.toModel.unpack.le y.toModel.unpack = true) = true ↔ _
    rw [decide_eq_true_iff]
  rw [hle]
  rcases worth?_eq_some_iff.mp hx with ⟨hux, rfl⟩ | ⟨m, e, h, hux, rfl⟩ <;>
    rcases worth?_eq_some_iff.mp hy with ⟨huy, rfl⟩ | ⟨m', e', h', huy, rfl⟩ <;> rw [hux, huy]
  · simp [UnpackedFloat.le, UnpackedFloat.compare]
  · have := h'.pos
    simp only [UnpackedFloat.le, UnpackedFloat.compare, Option.any_some]
    exact iff_of_true rfl (by positivity)
  · have hpos : (0 : ℚ) < m * 2 ^ e := by
      have := h.pos
      positivity
    exact iff_of_false (by simp [UnpackedFloat.le, UnpackedFloat.compare]) (not_le.mpr hpos)
  · exact h.le_iff h'

theorem shift_mantissa (em : ExtendedMantissa) (k : ℕ) :
    (em >>> k).mantissa = em.mantissa / 2 ^ k := by
  change (Nat.repeat ExtendedMantissa.shiftRightOne k em).mantissa = _
  induction k with
  | zero => rw [pow_zero, Nat.div_one]; rfl
  | succ k ih =>
    rw [Nat.repeat, ExtendedMantissa.shiftRightOne, ih, Nat.div_div_eq_div_mul, pow_succ]

theorem roundToInt_eq_floor (m : ℕ) (e : ℤ) :
    roundToInt .positive m e = ⌊(m : ℚ) * 2 ^ e⌋₊ := by
  have hshift : (0 - (e - (e.toNat : ℤ))).toNat = (-e).toNat := by omega
  have hround : roundToInt .positive m e =
      ((m * 2 ^ e.toNat / 2 ^ (-e).toNat : ℕ) : ℤ) := by
    simp only [roundToInt, decreaseExponent, shiftToExponent, shift_mantissa, Nat.shiftLeft_eq,
      Sign.apply, Int.sub_zero, hshift]
    rfl
  have hvalue : (m : ℚ) * 2 ^ e = ((m * 2 ^ e.toNat : ℕ) : ℚ) / ((2 ^ (-e).toNat : ℕ) : ℚ) := by
    have he : e = (e.toNat : ℤ) - ((-e).toNat : ℤ) := by omega
    conv_lhs => rw [he, zpow_sub₀ two_ne_zero, zpow_natCast, zpow_natCast]
    push_cast
    ring
  rw [hround, hvalue, Nat.floor_div_eq_div]

/-- **A double is cut off to its whole part**, as far as sixty-four bits go. -/
theorem toNat_toUInt64 {x : Float} {q : ℚ} (hx : worth? x = some q) (hq : q < 2 ^ 64) :
    x.toUInt64.toNat = ⌊q⌋₊ := by
  have hclamp : x.toUInt64 = UInt64.ofNatClamp
      (toInt 0 (UInt64.size - 1) x.toModel.unpack).toNat := rfl
  rw [hclamp]
  rcases worth?_eq_some_iff.mp hx with ⟨hu, rfl⟩ | ⟨m, e, h, hu, rfl⟩
  · rw [hu, Nat.floor_zero]
    rfl
  · have hfloor : ⌊(m : ℚ) * 2 ^ e⌋₊ < UInt64.size := by
      rw [Nat.floor_lt (by positivity)]
      exact_mod_cast hq
    rw [hu, toInt, roundToInt_eq_floor, Int.toNat_natCast, UInt64.toNat_ofNatClamp_of_lt hfloor]

/-! ### Taking one away -/

theorem unpack_ofNat_one :
    (Float.ofNat 1).toModel.unpack = .finite .positive (2 ^ 52) (-52) (by decide) := by
  rw [toModel_ofNat (by decide)]
  rfl

/-- The doubles from one on have no more than fifty-two bits of a fraction. -/
theorem Fits.le_exponent {m : ℕ} {e : ℤ} (h : Fits m e) (hone : (1 : ℚ) ≤ m * 2 ^ e) :
    -52 ≤ e := by
  by_contra hlt
  have hm : (m : ℚ) < 2 ^ 53 := by exact_mod_cast h.lt
  have hsmall : (2 : ℚ) ^ e ≤ 2 ^ (-53 : ℤ) := zpow_le_zpow_right₀ one_le_two (by omega)
  have hprod : (m : ℚ) * 2 ^ e < 2 ^ 53 * 2 ^ (-53 : ℤ) :=
    mul_lt_mul hm hsmall (by positivity) (by positivity)
  norm_num at hprod
  linarith

theorem Fits.exponent_le {m : ℕ} {e : ℤ} (h : Fits m e) (hmost : (m : ℚ) * 2 ^ e < 2 ^ 53) :
    e ≤ 0 := by
  by_contra hgt
  have hm : (2 ^ 52 : ℚ) ≤ m := by exact_mod_cast h.full.resolve_right (by omega)
  have hlarge : (2 : ℚ) ^ (1 : ℤ) ≤ 2 ^ e := zpow_le_zpow_right₀ one_le_two (by omega)
  have hprod : (2 ^ 52 : ℚ) * 2 ^ (1 : ℤ) ≤ m * 2 ^ e :=
    mul_le_mul hm hlarge (by positivity) (by positivity)
  norm_num at hprod
  linarith

theorem sub_one_toModel {x : Float} {m k : ℕ} {hpos : 0 < m} (hk : k ≤ 52) (hm : 2 ^ k ≤ m)
    (hu : x.toModel.unpack = .finite .positive m (-k) hpos) :
    (x - Float.ofNat 1).toModel = Float.Model.pack (UnpackedFloat.normalize .binary64
      (((m - 2 ^ k) * 2 ^ (52 - k) : ℕ) : ℤ) (-52) .positive) := by
  change Float.Model.pack (UnpackedFloat.sub .binary64 x.toModel.unpack
    (Float.ofNat 1).toModel.unpack) = _
  rw [hu, unpack_ofNat_one]
  have hmin : min (-(k : ℤ)) (-52) = -52 := by omega
  have hshift : (-(k : ℤ) - -52).toNat = 52 - k := by omega
  have hdiff : ((m * 2 ^ (52 - k) : ℕ) : ℤ) - ((2 ^ 52 : ℕ) : ℤ) =
      (((m - 2 ^ k) * 2 ^ (52 - k) : ℕ) : ℤ) := by
    rw [Nat.sub_mul, ← pow_add, Nat.add_sub_cancel' hk]
    have hle : 2 ^ 52 ≤ m * 2 ^ (52 - k) := by
      calc 2 ^ 52 = 2 ^ k * 2 ^ (52 - k) := by rw [← pow_add, Nat.add_sub_cancel' hk]
        _ ≤ m * 2 ^ (52 - k) := Nat.mul_le_mul_right _ hm
    omega
  simp only [UnpackedFloat.sub, decreaseExponent, hmin, hshift, Nat.shiftLeft_eq, Sign.apply,
    Int.sub_self, Int.toNat_zero, pow_zero, Nat.mul_one, hdiff]

/-- **Taking one away is exact**, as far as doubles have fractions. -/
theorem worth?_sub_one {x : Float} {q : ℚ} (hx : worth? x = some q) (hone : 1 ≤ q)
    (hmost : q < 2 ^ 53) : worth? (x - Float.ofNat 1) = some (q - 1) := by
  rcases worth?_eq_some_iff.mp hx with ⟨-, rfl⟩ | ⟨m, e, h, hu, rfl⟩
  · exact absurd hone (by norm_num)
  · have hleast := h.le_exponent hone
    have hzero := h.exponent_le hmost
    obtain ⟨k, rfl⟩ : ∃ k : ℕ, e = -k := ⟨(-e).toNat, by omega⟩
    have hk : k ≤ 52 := by omega
    have hinverse : (2 : ℚ) ^ k * 2 ^ (-k : ℤ) = 1 := by
      rw [zpow_neg, zpow_natCast, mul_inv_cancel₀ (by positivity)]
    have hm : 2 ^ k ≤ m := by
      rw [← hinverse, mul_le_mul_iff_left₀ (by positivity)] at hone
      exact_mod_cast hone
    have hleft : (m : ℚ) * 2 ^ (-k : ℤ) - 1 = ((m - 2 ^ k : ℕ) : ℚ) * 2 ^ (-k : ℤ) := by
      rw [Nat.cast_sub hm, sub_mul, Nat.cast_pow, Nat.cast_ofNat, hinverse]
    rw [worth?, sub_one_toModel hk hm hu, hleft]
    rcases Nat.eq_zero_or_pos (m - 2 ^ k) with hnone | hsome
    · rw [hnone, Nat.zero_mul, Nat.cast_zero, Nat.cast_zero, zero_mul]
      rfl
    · refine worthOf?_normalize hsome ((Nat.sub_le ..).trans_lt h.lt) (by omega) (by omega) ?_ _
      rw [zpow_eq_zpow_mul_pow (show (-52 : ℤ) ≤ -k by omega),
        show (-(k : ℤ) - -52).toNat = 52 - k by omega]
      push_cast
      ring

/-! ### Dividing -/

/-- A finite number that is not too large is worth something when it is packed. -/
theorem worthOf?_pack_finite {m : ℕ} {e : ℤ} (hpos : 0 < m) (he : e ≤ 971) :
    ∃ q, worthOf? (Float.Model.pack (.finite .positive m e hpos)).unpack = some q := by
  rw [unpack_pack_finite, if_neg (not_lt.mpr he)]
  have hfinite : (if m.log2 = 52 then (e + 1075).toNat else 0) ≠ 2047 := by
    split_ifs <;> omega
  rw [ofParts, if_neg hfinite]
  split_ifs <;> exact ⟨_, rfl⟩

theorem log2_le_of_lt {m k : ℕ} (h : m < 2 ^ (k + 1)) : m.log2 ≤ k := by
  rcases Nat.eq_zero_or_pos m with rfl | hpos
  · exact Nat.zero_le k
  · exact Nat.lt_succ_iff.mp ((Nat.log2_lt hpos.ne').mpr h)

/-- Rounding moves the exponent no further than there are bits. -/
theorem exponent_shiftToTargetExponent_le {m k : ℕ} {e b : ℤ} (hm : m < 2 ^ (k + 1))
    (he : e ≤ b) (hb : 0 ≤ b) (a : Accuracy) :
    (shiftToTargetExponent .binary64 m e a).2 ≤ b + k := by
  have hlog := log2_le_of_lt hm
  change e + (((max ((m.log2 : ℤ) + 1 + e - 53) (-1074)) - e).toNat : ℤ) ≤ b + k
  omega

theorem mantissa_ofMantissaAndAccuracy (m : ℕ) (a : Accuracy) :
    (ExtendedMantissa.ofMantissaAndAccuracy m a).mantissa = m := by
  rcases a with - | (- | - | -) <;> rfl

theorem roundToNearestEven_le (m : ℕ) (a : Accuracy) :
    Accuracy.roundToNearestEven m a ≤ m + 1 := by
  rcases a with - | (- | - | -)
  · exact Nat.le_succ m
  · exact Nat.le_succ m
  · exact Nat.add_le_add_left (Nat.lt_succ_iff.mp (Nat.mod_lt m two_pos)) m
  · exact le_rfl

theorem worthOf?_roundWithAccuracy {m : ℕ} {e : ℤ} (hm : m < 2 ^ 200) (he : e ≤ 100)
    (a : Accuracy) : ∃ q, worthOf? (Float.Model.pack
      (UnpackedFloat.roundWithAccuracy .binary64 .positive m e a)).unpack = some q := by
  obtain ⟨em, e₁, hfirst⟩ : ∃ em e₁, shiftToTargetExponent .binary64 m e a = (em, e₁) := ⟨_, _, rfl⟩
  have he₁ : e₁ ≤ 100 + 199 := by
    have := exponent_shiftToTargetExponent_le (k := 199) hm he (by decide) a
    rwa [hfirst] at this
  have hem : em.mantissa ≤ m := by
    have hshift : em = ExtendedMantissa.ofMantissaAndAccuracy m a >>> _ :=
      (congrArg Prod.fst hfirst).symm
    rw [hshift, shift_mantissa, mantissa_ofMantissaAndAccuracy]
    exact Nat.div_le_self ..
  have hrounded : em.roundedMantissa < 2 ^ 201 := by
    have : em.roundedMantissa ≤ em.mantissa + 1 := roundToNearestEven_le ..
    omega
  have he₂ := exponent_shiftToTargetExponent_le (k := 200) hrounded he₁ (by decide) .exact
  simp only [UnpackedFloat.roundWithAccuracy, hfirst]
  split_ifs with hzero
  · exact ⟨0, rfl⟩
  · exact worthOf?_pack_finite _ (by push_cast at he₂; omega)

/-- **Dividing gives a number**, unless it is by less than one or of more than doubles can
hold with fractions. -/
theorem worth?_div {x y : Float} {p q : ℚ} (hx : worth? x = some p) (hp : p < 2 ^ 53)
    (hy : worth? y = some q) (hq : 1 ≤ q) : ∃ r, worth? (x / y) = some r := by
  change ∃ r, worthOf? (Float.Model.pack (UnpackedFloat.div .binary64 x.toModel.unpack
    y.toModel.unpack)).unpack = some r
  rcases worth?_eq_some_iff.mp hy with ⟨-, rfl⟩ | ⟨m₂, e₂, h₂, huy, rfl⟩
  · exact absurd hq (by norm_num)
  rcases worth?_eq_some_iff.mp hx with ⟨hux, rfl⟩ | ⟨m₁, e₁, h₁, hux, rfl⟩ <;> rw [hux, huy]
  · have hzero : UnpackedFloat.div .binary64 (.zero .positive) (.finite .positive m₂ e₂ h₂.pos) =
        .zero .positive := rfl
    rw [hzero]
    exact ⟨0, rfl⟩
  · have he₁ := h₁.exponent_le hp
    have he₂ := h₂.le_exponent hq
    have hlog := h₂.log2_le
    -- the dividend is shifted no further than as many bits as the quotient is to have
    obtain ⟨t, ht, htarget⟩ : ∃ t, t = min (e₁ - e₂) (Format.binary64.targetExponent
        (totalExponent m₁ e₁ - totalExponent m₂ e₂)) ∧ (e₁ - e₂ - t).toNat ≤ 105 := by
      refine ⟨_, rfl, ?_⟩
      change (e₁ - e₂ - min (e₁ - e₂) (max ((m₁.log2 : ℤ) + 1 + e₁ - (m₂.log2 + 1 + e₂) - 53)
        (-1074))).toNat ≤ 105
      omega
    simp only [UnpackedFloat.div, divCore, ← ht, Nat.shiftLeft_eq]
    refine worthOf?_roundWithAccuracy ?_ (by omega) _
    calc m₁ * 2 ^ (e₁ - e₂ - t).toNat / m₂ ≤ m₁ * 2 ^ (e₁ - e₂ - t).toNat := Nat.div_le_self ..
      _ ≤ 2 ^ 53 * 2 ^ 105 :=
        Nat.mul_le_mul h₁.lt.le (Nat.pow_le_pow_right two_pos htarget)
      _ < 2 ^ 200 := by norm_num

/-! ### Adding nothing -/

theorem worth?_eq_zero_iff {x : Float} :
    worth? x = some 0 ↔ x.toModel.unpack = .zero .positive := by
  constructor
  · intro hx
    rcases worth?_eq_some_iff.mp hx with ⟨hu, -⟩ | ⟨m, e, h, -, hzero⟩
    · exact hu
    · have := h.pos
      exact absurd hzero.symm (by positivity)
  · intro hu
    rw [worth?, hu]
    rfl

/-- Zero times a number is zero. -/
theorem worth?_zero_mul {x y : Float} {q : ℚ} (hx : worth? x = some 0) (hy : worth? y = some q) :
    worth? (x * y) = some 0 := by
  have hmul : UnpackedFloat.mul .binary64 x.toModel.unpack y.toModel.unpack =
      .zero .positive := by
    rw [worth?_eq_zero_iff.mp hx]
    rcases worth?_eq_some_iff.mp hy with ⟨hu, -⟩ | ⟨m, e, h, hu, -⟩ <;> rw [hu] <;> rfl
  rw [worth?_eq_zero_iff]
  change (Float.Model.pack (UnpackedFloat.mul .binary64 x.toModel.unpack
    y.toModel.unpack)).unpack = _
  rw [hmul]
  rfl

/-- Adding zero changes nothing. -/
theorem worth?_add_zero {x y : Float} {q : ℚ} (hx : worth? x = some q) (hy : worth? y = some 0) :
    worth? (x + y) = some q := by
  change worthOf? (Float.Model.pack (UnpackedFloat.add .binary64 x.toModel.unpack
    y.toModel.unpack)).unpack = some q
  rw [worth?_eq_zero_iff.mp hy]
  rcases worth?_eq_some_iff.mp hx with ⟨hu, rfl⟩ | ⟨m, e, h, hu, rfl⟩ <;> rw [hu]
  · rfl
  · have hadd : UnpackedFloat.add .binary64 (.finite .positive m e h.pos) (.zero .positive) =
        .finite .positive m e h.pos := rfl
    rw [hadd, h.unpack_pack]
    rfl

/-! ### Signs -/

/-- An unpacked number without a minus sign, or none. -/
def UnsignedOf : UnpackedFloat → Prop
  | .notANumber => True
  | .infinity s => s = .positive
  | .zero s => s = .positive
  | .finite s _ _ _ => s = .positive

/-- A double without a minus sign, or no number. -/
def Unsigned (x : Float) : Prop := UnsignedOf x.toModel.unpack

theorem unsignedOf_pack {u : UnpackedFloat} (h : UnsignedOf u) :
    UnsignedOf (Float.Model.pack u).unpack := by
  cases u with
  | notANumber => trivial
  | infinity s => cases h; rfl
  | zero s => cases h; rfl
  | finite s m e hpos =>
    cases h
    rw [unpack_pack_finite, ofParts]
    split_ifs <;> trivial

theorem unsignedOf_roundWithAccuracy (m : ℕ) (e : ℤ) (a : Accuracy) :
    UnsignedOf (UnpackedFloat.roundWithAccuracy .binary64 .positive m e a) := by
  unfold UnpackedFloat.roundWithAccuracy
  dsimp only
  split_ifs <;> rfl

theorem unsignedOf_normalize (d : ℕ) (e : ℤ) :
    UnsignedOf (UnpackedFloat.normalize .binary64 d e .positive) := by
  unfold UnpackedFloat.normalize
  split
  · next hlt => exact absurd (compare_lt_iff_lt.mp hlt) (by omega)
  · rfl
  · exact unsignedOf_roundWithAccuracy ..

theorem unsignedOf_add {u v : UnpackedFloat} (hu : UnsignedOf u) (hv : UnsignedOf v) :
    UnsignedOf (UnpackedFloat.add .binary64 u v) := by
  cases u <;> cases v <;> cases hu <;> cases hv <;>
    first | trivial | exact unsignedOf_normalize ..

theorem unsignedOf_mul {u v : UnpackedFloat} (hu : UnsignedOf u) (hv : UnsignedOf v) :
    UnsignedOf (UnpackedFloat.mul .binary64 u v) := by
  cases u <;> cases v <;> cases hu <;> cases hv <;>
    first | trivial | exact unsignedOf_roundWithAccuracy ..

theorem unsignedOf_div {u v : UnpackedFloat} (hu : UnsignedOf u) (hv : UnsignedOf v) :
    UnsignedOf (UnpackedFloat.div .binary64 u v) := by
  cases u <;> cases v <;> cases hu <;> cases hv <;>
    first | trivial | exact unsignedOf_roundWithAccuracy ..

theorem Unsigned.add {x y : Float} (hx : Unsigned x) (hy : Unsigned y) : Unsigned (x + y) :=
  unsignedOf_pack (unsignedOf_add hx hy)

theorem Unsigned.mul {x y : Float} (hx : Unsigned x) (hy : Unsigned y) : Unsigned (x * y) :=
  unsignedOf_pack (unsignedOf_mul hx hy)

theorem Unsigned.div {x y : Float} (hx : Unsigned x) (hy : Unsigned y) : Unsigned (x / y) :=
  unsignedOf_pack (unsignedOf_div hx hy)

theorem unsigned_of_worth? {x : Float} {q : ℚ} (hx : worth? x = some q) : Unsigned x := by
  rw [Unsigned]
  rcases worth?_eq_some_iff.mp hx with ⟨hu, -⟩ | ⟨m, e, h, hu, -⟩ <;> rw [hu] <;> rfl

theorem unsignedOf_ofScientific (m : ℕ) (e : ℤ) :
    UnsignedOf (UnpackedFloat.ofScientific .binary64 m e) := by
  unfold UnpackedFloat.ofScientific
  split_ifs
  · rfl
  · rfl
  · rfl
  · exact unsignedOf_mul rfl rfl
  · exact unsignedOf_div rfl rfl

theorem unsigned_ofNat (n : ℕ) : Unsigned (Float.ofNat n) := by
  by_cases h : n < 2 ^ 53
  · exact unsigned_of_worth? (worth?_ofNat h)
  · have hlarge : (Float.ofNat n).toModel = Float.Model.pack (.ofScientific .binary64 n 0) := by
      change (Float.ofScientific n false 0).toModel = _
      rw [Float.ofScientific, dif_neg (fun hboth => h hboth.1)]
      rfl
    rw [Unsigned, hlarge]
    exact unsignedOf_pack (unsignedOf_ofScientific n 0)

/-- **What has no minus sign and is at most a number is a number.** -/
theorem exists_worth?_of_le {x y : Float} {q : ℚ} (hx : Unsigned x) (hy : worth? y = some q)
    (h : x ≤ y) : ∃ p, worth? x = some p := by
  have hle : x.toModel.unpack.le y.toModel.unpack = true := of_decide_eq_true h
  rw [Unsigned] at hx
  rw [worth?]
  generalize x.toModel.unpack = u at hle hx ⊢
  cases u with
  | notANumber => cases hle
  | infinity s =>
    cases hx
    rcases worth?_eq_some_iff.mp hy with ⟨hv, -⟩ | ⟨m, e, _, hv, -⟩ <;> rw [hv] at hle <;>
      cases hle
  | zero s => cases hx; exact ⟨0, rfl⟩
  | finite s m e hpos => cases hx; exact ⟨m * 2 ^ e, rfl⟩

end Double
end Failover

import DocPath.Proofs.Number.Decimal
import DocPath.Proofs.Number.Rounding
import Mathlib.Tactic.NormNum
import Mathlib.Tactic.Ring

/-! # The range of floating point numbers

Rounding ends in infinity half a step after the greatest finite number
(`roundUnits_lt_infinity_iff`), as that number is odd and the next one would be
even.  So a decimal fraction is read as a finite number exactly if its value is
less than `limit`, and otherwise as infinity with its sign (`Saturates`): there
is no value for which reading fails. -/

namespace DocPath

namespace Binary64

/-- The least natural number beyond the finite ones: half a step above the
greatest of these. -/
def limit : Nat := 2 ^ 1024 - 2 ^ 970

variable {num den q r k : Nat}

/-! ## The end of a binade -/

/-- Quotient and remainder can be read off where the remainder is less than the
divisor. -/
theorem div_add_mod_eq (hr : r < den) : (q * den + r) / den = q ∧ (q * den + r) % den = r :=
  (Nat.div_mod_unique (by omega)).mpr ⟨by rw [Nat.mul_comm, Nat.add_comm], hr⟩

/-- Below half a unit a quotient is rounded down. -/
theorem roundQuotient_of_lt (hr : 2 * r < den) : roundQuotient (q * den + r) den = q := by
  obtain ⟨hdiv, hmod⟩ := div_add_mod_eq (q := q) (show r < den by omega)
  simp [roundQuotient, hdiv, hmod, hr]

/-- At half a unit a quotient is rounded up if it is odd. -/
theorem roundQuotient_of_odd (hden : 0 < den) (hr : 2 * r = den) (hodd : q % 2 = 1) :
    roundQuotient (q * den + r) den = q + 1 := by
  obtain ⟨hdiv, hmod⟩ := div_add_mod_eq (q := q) (show r < den by omega)
  simp [roundQuotient, hdiv, hmod, hr, hodd]

theorem binade_eq (hden : 0 < den) (hlow : 2 ^ (52 + k) * den ≤ num)
    (hhigh : num < 2 ^ (53 + k) * den) :
    binade num den = k := by
  have hle : 2 ^ (52 + k) ≤ num / den := (Nat.le_div_iff_mul_le hden).mpr hlow
  have hlt : num / den < 2 ^ (53 + k) := (Nat.div_lt_iff_lt_mul hden).mpr hhigh
  have hne : num / den ≠ 0 := (Nat.two_pow_pos _).trans_le hle |>.ne'
  have hlog : (num / den).log2 = 52 + k :=
    (Nat.log2_eq_iff hne).mpr ⟨hle, by rwa [show 52 + k + 1 = 53 + k by omega]⟩
  rw [binade, hlog, Nat.add_sub_cancel_left]

/-- Half a step before the end of a binade, between an odd number and the even
one at the end, is rounded to the end, and what is less is rounded to the odd
number. -/
theorem roundUnits_halfStep (hden : 0 < den) (k : Nat) :
    roundUnits ((2 ^ 54 - 1) * 2 ^ k * den) den = min ((k + 3) * 2 ^ 52) infinityMagnitude ∧
      roundUnits ((2 ^ 54 - 1) * 2 ^ k * den - 1) den =
        min ((k + 3) * 2 ^ 52 - 1) infinityMagnitude := by
  have hpos : 0 < den * 2 ^ k := Nat.mul_pos hden (Nat.two_pow_pos k)
  have hstep : den * 2 ^ (k + 1) = den * 2 ^ k * 2 := by rw [Nat.pow_succ, Nat.mul_assoc]
  have hlow : 2 ^ (52 + (k + 1)) * den = 2 ^ 53 * (den * 2 ^ k) := by ring
  have hhigh : 2 ^ (53 + (k + 1)) * den = 2 ^ 54 * (den * 2 ^ k) := by ring
  rw [Nat.mul_assoc, Nat.mul_comm (2 ^ k)]
  have hmiddle :
      (2 ^ 54 - 1) * (den * 2 ^ k) = (2 ^ 53 - 1) * (den * 2 ^ (k + 1)) + den * 2 ^ k := by omega
  have hbelow : (2 ^ 54 - 1) * (den * 2 ^ k) - 1 =
      (2 ^ 53 - 1) * (den * 2 ^ (k + 1)) + (den * 2 ^ k - 1) := by omega
  have hbinade : binade ((2 ^ 54 - 1) * (den * 2 ^ k)) den = k + 1 :=
    binade_eq hden (by omega) (by omega)
  have hbinade' : binade ((2 ^ 54 - 1) * (den * 2 ^ k) - 1) den = k + 1 :=
    binade_eq hden (by omega) (by omega)
  rw [roundUnits_eq, roundUnits_eq, hbinade, hbinade', hbelow, hmiddle,
    roundQuotient_of_odd (by omega) (by omega) rfl, roundQuotient_of_lt (by omega)]
  have hend : (k + 1) * 2 ^ 52 + (2 ^ 53 - 1 + 1) = (k + 3) * 2 ^ 52 := by omega
  have hlast : (k + 1) * 2 ^ 52 + (2 ^ 53 - 1) = (k + 3) * 2 ^ 52 - 1 := by
    rw [← hend, ← Nat.add_assoc, Nat.add_sub_cancel]
  rw [hend, hlast]
  exact ⟨rfl, rfl⟩

/-- The limit in units of the least positive number, where it is half a step
after the greatest finite one. -/
theorem limit_units : limit * Nat.pow 2 1074 = (2 ^ 54 - 1) * 2 ^ 2044 := by decide +kernel

/-- The limit lies above all integers of 64 bits and below the powers of ten
that are not computed. -/
theorem limit_bounds : 2 ^ 64 ≤ limit ∧ limit ≤ 10 ^ 310 := by decide +kernel

/-- **Exactly the fractions below the limit are rounded to finite numbers.** The
greatest finite number is odd in the last place, so at half a step after it the
even neighbour is taken, which is infinity. -/
theorem roundUnits_lt_infinity_iff (hden : 0 < den) :
    roundUnits num den < infinityMagnitude ↔ num < limit * Nat.pow 2 1074 * den := by
  obtain ⟨hlimit, hbelow⟩ := roundUnits_halfStep hden 2044
  have hinfinity : (2044 + 3) * 2 ^ 52 = infinityMagnitude := rfl
  have hpos : 0 < infinityMagnitude := by decide
  rw [← limit_units, hinfinity] at hlimit hbelow
  constructor
  · intro h
    by_contra hnum
    have hmono : roundUnits _ den ≤ roundUnits num den := roundUnits_mono (Nat.le_of_not_lt hnum)
    omega
  · intro h
    have hmono : roundUnits num den ≤ roundUnits _ den := roundUnits_mono (Nat.le_sub_one_of_lt h)
    omega

/-! ## Numbers that saturate -/

/-- A number with a sign, for a value without one: finite if the value is below
the limit, and infinite if not. -/
structure Saturates (x : Binary64) (negative : Bool) (v : ℚ) : Prop where
  isNaN : x.isNaN = false
  isNegative : x.isNegative = negative
  isFinite_iff : x.isFinite = true ↔ v < limit

variable {negative : Bool} {m digits : Nat} {e : Int} {v : ℚ}

/-- A number that is made of a magnitude is as finite as the magnitude. -/
theorem saturates_ofMagnitude (hm : m ≤ infinityMagnitude) (h : m < infinityMagnitude ↔ v < limit) :
    Saturates (ofMagnitude negative m) negative v := by
  have hlt : m < 2 ^ 63 := hm.trans_lt infinityMagnitude_lt
  refine ⟨isNaN_ofMagnitude negative hm, isNegative_ofMagnitude negative hlt, ?_⟩
  rw [isFinite, magnitude_ofMagnitude negative hlt, decide_eq_true_eq, h]

/-- The number nearest to a quotient is finite exactly if the quotient is below
the limit. -/
theorem saturates_ofRatio (hden : 0 < den) :
    Saturates (ofRatio negative num den) negative (num / den) := by
  have hpos : (0 : ℚ) < den := by exact_mod_cast hden
  refine saturates_ofMagnitude (roundUnits_le_infinity ..) ?_
  have hunit : ∀ k, 0 < Nat.pow 2 k := Nat.two_pow_pos
  rw [roundUnits_lt_infinity_iff hden, Nat.mul_right_comm, Nat.mul_lt_mul_right (hunit 1074),
    div_lt_iff₀ hpos]
  exact_mod_cast Iff.rfl

/-- The place of the first digit bounds a decimal fraction: it lies between this
power of ten and the next one. -/
theorem pow_le_decimal (hdigits : digits ≠ 0) (e : Int) :
    (10 : ℚ) ^ (e + (Nat.toDigits 10 digits).length - 1) ≤ digits * 10 ^ e ∧
      digits * 10 ^ e < (10 : ℚ) ^ (e + (Nat.toDigits 10 digits).length) := by
  have hlength : 0 < (Nat.toDigits 10 digits).length := Nat.length_toDigits_pos
  obtain ⟨l, hl⟩ : ∃ l, (Nat.toDigits 10 digits).length = l + 1 :=
    ⟨_, (Nat.sub_one_add_one hlength.ne').symm⟩
  have hlow : 10 ^ l ≤ digits := by
    rcases Nat.eq_zero_or_pos l with rfl | hpos
    · exact Nat.one_le_iff_ne_zero.mpr hdigits
    · by_contra h
      have hle := (Nat.length_toDigits_le_iff (by decide) hpos).mpr (Nat.lt_of_not_le h)
      omega
  have hhigh : digits < 10 ^ (l + 1) := (Nat.length_toDigits_le_iff (by decide) (by omega)).mp hl.le
  have hpow : (0 : ℚ) < 10 ^ e := zpow_pos (by norm_num) e
  have hsum : ∀ n : Nat, (10 : ℚ) ^ (e + n) = 10 ^ n * 10 ^ e := fun n => by
    rw [Int.add_comm, zpow_add₀ (by norm_num), zpow_natCast]
  rw [hl, show e + (l + 1 : Nat) - 1 = e + l by omega, hsum, hsum]
  exact ⟨mul_le_mul_of_nonneg_right (by exact_mod_cast hlow) hpow.le,
    mul_lt_mul_of_pos_right (by exact_mod_cast hhigh) hpow⟩

/-- A power of ten beyond the limit is beyond it among the rationals as well. -/
theorem limit_le_zpow {n : Nat} (h : limit ≤ 10 ^ n) : (limit : ℚ) ≤ 10 ^ (n : Int) := by
  rw [zpow_natCast]
  exact_mod_cast h

/-- The number that is read for a decimal fraction has its sign, and is finite
exactly if the fraction is below the limit. -/
theorem saturates_ofDecimal (negative : Bool) (digits : Nat) (e : Int) :
    Saturates (ofDecimal negative digits e) negative (digits * 10 ^ e) := by
  have hone : (1 : ℚ) ≤ limit := Nat.one_le_cast.mpr ((Nat.one_le_two_pow).trans limit_bounds.1)
  simp only [ofDecimal]
  split
  · next h =>
    -- the value is less than one
    refine saturates_ofMagnitude (by decide) (iff_of_true (by decide) ?_)
    rcases eq_or_ne digits 0 with rfl | hdigits
    · rw [Nat.cast_zero, zero_mul]
      exact zero_lt_one.trans_le hone
    · calc
        (digits : ℚ) * 10 ^ e < 10 ^ (e + (Nat.toDigits 10 digits).length) :=
          (pow_le_decimal hdigits e).2
        _ ≤ 10 ^ (0 : Int) := zpow_le_zpow_right₀ (by norm_num) (by omega)
        _ ≤ limit := (zpow_zero _).trans_le hone
  · next h =>
    rw [not_or] at h
    split
    · -- the value is at least a power of ten beyond the limit
      refine saturates_ofMagnitude le_rfl (iff_of_false (lt_irrefl _) (not_lt.mpr ?_))
      calc
        (limit : ℚ) ≤ 10 ^ ((310 : Nat) : Int) := limit_le_zpow limit_bounds.2
        _ ≤ 10 ^ (e + (Nat.toDigits 10 digits).length - 1) :=
          zpow_le_zpow_right₀ (by norm_num) (by omega)
        _ ≤ digits * 10 ^ e := (pow_le_decimal h.1 e).1
    · split
      · next he =>
        obtain ⟨n, rfl⟩ := Int.eq_ofNat_of_zero_le he
        have hratio : Saturates (ofRatio negative (digits * Nat.pow 10 n) 1) negative _ :=
          saturates_ofRatio Nat.one_pos
        rw [Nat.pow_eq, Nat.cast_mul, Nat.cast_pow, Nat.cast_ofNat, Nat.cast_one, div_one] at hratio
        exact hratio
      · next he =>
        obtain ⟨n, rfl⟩ : ∃ n : Nat, e = -n := ⟨e.natAbs, by omega⟩
        have hratio : Saturates (ofRatio negative digits (Nat.pow 10 n)) negative _ :=
          saturates_ofRatio (Nat.pow_pos (by decide))
        rw [Nat.pow_eq, Nat.cast_pow, Nat.cast_ofNat, div_eq_mul_inv] at hratio
        rw [zpow_neg, zpow_natCast, Int.neg_neg]
        exact hratio

/-- Whatever text is read as a number, it writes a decimal fraction, and the
number is finite exactly if the fraction is below the limit. -/
theorem exists_saturates {text : List Char} {x : Binary64} (h : ofText? text = some x) :
    ∃ d, Decimal.ofText? text = some d ∧ Saturates x d.negative d.magnitude := by
  obtain ⟨d, hd, rfl⟩ := Option.map_eq_some_iff.mp h
  exact ⟨d, hd, saturates_ofDecimal d.negative d.digits d.exponent⟩

end Binary64
end DocPath

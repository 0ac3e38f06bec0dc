import DocPath.Number.Binary64
import Mathlib.Algebra.Group.Nat.Defs
import Mathlib.Data.Nat.Log

/-! # Rounding keeps the order

The floating point number nearest to an integer is not always that integer, but
it never passes the one nearest to a greater integer (`rank_ofInt_mono`).
Within a binade this is so because a quotient is rounded by its remainder alone
(`roundQuotient_mono`); from one binade to the next, because rounding does not
leave the closed binade (`roundQuotient_le_binade`,
`binade_le_roundQuotient`). -/

namespace DocPath.Binary64

variable {num num' den : Nat} {m n : Int}

/-! ## Rounded quotients -/

theorem div_le_roundQuotient (num den : Nat) : num / den ≤ roundQuotient num den := by
  simp only [roundQuotient]
  split <;> omega

theorem roundQuotient_le_succ (num den : Nat) : roundQuotient num den ≤ num / den + 1 := by
  simp only [roundQuotient]
  split <;> omega

/-- With the same divisor a greater number is not rounded to a lesser quotient:
the whole quotients decide where they differ, and the remainders otherwise. -/
theorem roundQuotient_mono (h : num ≤ num') : roundQuotient num den ≤ roundQuotient num' den := by
  have hquotient : num / den ≤ num' / den := Nat.div_le_div_right h
  rcases hquotient.lt_or_eq with hlt | heq
  · calc
      roundQuotient num den ≤ num / den + 1 := roundQuotient_le_succ num den
      _ ≤ num' / den := hlt
      _ ≤ roundQuotient num' den := div_le_roundQuotient num' den
  · -- the quotients are the same, so the remainder decides
    have hremainder : num % den ≤ num' % den := by
      have hnum := Nat.div_add_mod num den
      have hnum' := Nat.div_add_mod num' den
      rw [heq] at hnum
      omega
    simp only [roundQuotient, heq, Bool.or_eq_true, decide_eq_true_eq, Bool.and_eq_true, beq_iff_eq]
    split <;> split <;> omega

/-! ## Binades -/

/-- The number of binades between a quotient and the numbers that are exact.  In
the lowest binades, where the unit is the least one that there is, it is
zero. -/
def binade (num den : Nat) : Nat := (num / den).log2 - 52

theorem binade_mono (h : num ≤ num') : binade num den ≤ binade num' den := by
  have hlog : (num / den).log2 ≤ (num' / den).log2 := by
    rw [Nat.log2_eq_log_two, Nat.log2_eq_log_two]
    exact Nat.log_mono_right (Nat.div_le_div_right h)
  unfold binade
  omega

/-- Rounding may reach the upper end of the binade but does not pass it. -/
theorem roundQuotient_le_binade (num den : Nat) :
    roundQuotient num (den * 2 ^ binade num den) ≤ 2 ^ 53 := by
  have hlt : num / den < 2 ^ 53 * 2 ^ binade num den := by
    calc
      num / den < 2 ^ ((num / den).log2 + 1) := Nat.lt_log2_self
      _ ≤ 2 ^ (53 + binade num den) := Nat.pow_le_pow_right (by decide) (by unfold binade; omega)
      _ = 2 ^ 53 * 2 ^ binade num den := Nat.pow_add ..
  have hdiv : num / (den * 2 ^ binade num den) < 2 ^ 53 := by
    rw [← Nat.div_div_eq_div_mul]
    exact Nat.div_lt_of_lt_mul (by rwa [Nat.mul_comm])
  exact (roundQuotient_le_succ ..).trans hdiv

/-- Above the lowest binade, a quotient that is counted in units of its own
binade is rounded to a significand of the full length. -/
theorem binade_le_roundQuotient (h : 0 < binade num den) :
    2 ^ 52 ≤ roundQuotient num (den * 2 ^ binade num den) := by
  have hne : num / den ≠ 0 := by
    intro h0
    simp [binade, h0] at h
  have hle : 2 ^ 52 * 2 ^ binade num den ≤ num / den := by
    calc
      2 ^ 52 * 2 ^ binade num den = 2 ^ (num / den).log2 := by
        rw [← Nat.pow_add]
        congr 1
        unfold binade at h ⊢
        omega
      _ ≤ num / den := Nat.log2_self_le hne
  have hdiv : 2 ^ 52 ≤ num / (den * 2 ^ binade num den) := by
    rw [← Nat.div_div_eq_div_mul]
    exact (Nat.le_div_iff_mul_le (Nat.two_pow_pos _)).mpr hle
  exact hdiv.trans (div_le_roundQuotient ..)

/-- The number of units as the binade and the significand, with everything
beyond the range taken for infinity. -/
theorem roundUnits_eq (num den : Nat) :
    roundUnits num den =
      min (binade num den * 2 ^ 52 + roundQuotient num (den * 2 ^ binade num den))
        infinityMagnitude := rfl

/-- A greater number of units is never rounded to a smaller magnitude: within a
binade by the quotients, and from one to the next because a binade is not
left. -/
theorem roundUnits_mono (h : num ≤ num') : roundUnits num den ≤ roundUnits num' den := by
  rw [roundUnits_eq, roundUnits_eq]
  have hbinade : binade num den ≤ binade num' den := binade_mono h
  rcases hbinade.lt_or_eq with hlt | heq
  · -- a binade ends where the next one begins
    have hend := roundQuotient_le_binade num den
    have hbegin : 2 ^ 52 ≤ roundQuotient num' (den * 2 ^ binade num' den) :=
      binade_le_roundQuotient (by omega)
    omega
  · have hround : roundQuotient num (den * 2 ^ binade num' den) ≤
        roundQuotient num' (den * 2 ^ binade num' den) := roundQuotient_mono h
    rw [heq]
    omega

/-- Rounding ends at infinity, so no magnitude is taken for one of a NaN. -/
theorem roundUnits_le_infinity (num den : Nat) : roundUnits num den ≤ infinityMagnitude :=
  min_le_right ..

/-! ## The number with a sign and a magnitude -/

theorem infinityMagnitude_lt : infinityMagnitude < 2 ^ 63 := by decide

theorem toNat_bits_ofMagnitude (negative : Bool) {k : Nat} (hk : k < 2 ^ 63) :
    (ofMagnitude negative k).bits.toNat = (if negative then 2 ^ 63 else 0) + k := by
  have hlt : (if negative then 2 ^ 63 else 0) + k < 2 ^ 64 := by
    split <;> omega
  exact Nat.mod_eq_of_lt hlt

theorem magnitude_ofMagnitude (negative : Bool) {k : Nat} (hk : k < 2 ^ 63) :
    (ofMagnitude negative k).magnitude = k := by
  rw [magnitude, toNat_bits_ofMagnitude negative hk, Nat.pow_eq]
  split <;> omega

/-- The sign that a number is made with can be read back from it, also that of
zero. -/
theorem isNegative_ofMagnitude (negative : Bool) {k : Nat} (hk : k < 2 ^ 63) :
    (ofMagnitude negative k).isNegative = negative := by
  rw [isNegative, toNat_bits_ofMagnitude negative hk, Nat.pow_eq]
  cases negative with
  | false => simpa using hk
  | true => simp

/-- A number whose magnitude goes up to infinity is no NaN. -/
theorem isNaN_ofMagnitude (negative : Bool) {k : Nat} (hk : k ≤ infinityMagnitude) :
    (ofMagnitude negative k).isNaN = false := by
  rw [isNaN, magnitude_ofMagnitude negative (hk.trans_lt infinityMagnitude_lt),
    decide_eq_false_iff_not, Nat.not_lt]
  exact hk

/-- The rank of a number is its magnitude with the sign, so both zeros have the
rank 0. -/
theorem rank_ofMagnitude (negative : Bool) {k : Nat} (hk : k < 2 ^ 63) :
    (ofMagnitude negative k).rank = if negative then -(k : Int) else k := by
  rw [rank, isNegative_ofMagnitude negative hk, magnitude_ofMagnitude negative hk]

/-! ## The number nearest to an integer -/

/-- The magnitude of the number nearest to a natural number, in the order of
magnitudes that the bits give. -/
def roundNat (k : Nat) : Nat := roundUnits (k * Nat.pow 2 1074) 1

theorem roundNat_mono {k l : Nat} (h : k ≤ l) : roundNat k ≤ roundNat l :=
  roundUnits_mono (Nat.mul_le_mul_right _ h)

/-- A rounded natural number leaves the bit of the sign free. -/
theorem roundNat_lt (k : Nat) : roundNat k < 2 ^ 63 :=
  (roundUnits_le_infinity ..).trans_lt infinityMagnitude_lt

/-- The rank of a rounded integer is that of its rounded size, with its sign. -/
theorem rank_ofInt (n : Int) :
    (ofInt n).rank = if n < 0 then -(roundNat n.natAbs : Int) else roundNat n.natAbs := by
  have hrank : (ofInt n).rank =
      if decide (n < 0) then -(roundNat n.natAbs : Int) else roundNat n.natAbs :=
    rank_ofMagnitude (decide (n < 0)) (roundNat_lt n.natAbs)
  simpa only [decide_eq_true_eq] using hrank

@[simp] theorem isNaN_ofInt (n : Int) : (ofInt n).isNaN = false :=
  isNaN_ofMagnitude _ (roundUnits_le_infinity ..)

/-- **Rounding keeps the order of integers**, though integers that differ may be
rounded to the same number. -/
theorem rank_ofInt_mono (h : m ≤ n) : (ofInt m).rank ≤ (ofInt n).rank := by
  rw [rank_ofInt, rank_ofInt]
  split
  · next hm =>
    split
    · next hn =>
      have hle := roundNat_mono (show n.natAbs ≤ m.natAbs by omega)
      omega
    · omega
  · next hm =>
    rw [if_neg (by omega)]
    have hle := roundNat_mono (show m.natAbs ≤ n.natAbs by omega)
    omega

end DocPath.Binary64

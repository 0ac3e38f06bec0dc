import DocPath.Filter.Criterion
import DocPath.Proofs.Number.Rounding
import Mathlib.Order.Compare

/-! # The order of numbers

Integers are compared with one another as they are, and with floating point
numbers by the floating point numbers nearest to them.  Both come to one
relation, `Below`: the nearest floating point numbers decide, and where they are
the same two integers are still told apart (`Value.compare?_eq_compare`).  This
is no order of all numbers, as a floating point number may be equal to two
integers that differ.  `Blurs` says of which three numbers that is so, and
`Criterion.lessOrEqual_trans_iff` that comparisons of any other three are
consistent. -/

namespace DocPath

namespace Value

variable {a b c : Value}

/-- The numbers of all kinds: integers of both widths, and floating point
numbers that are not NaN. -/
inductive IsNumber : Value → Prop
  | int (n : Int32) : IsNumber (.int n)
  | long (n : Int64) : IsNumber (.long n)
  | double {x : Binary64} : x.isNaN = false → IsNumber (.double x)

/-- The place of the nearest floating point number in the order of all floating
point numbers. -/
def rank (v : Value) : Int := v.number?.elim 0 Binary64.rank

/-- Two integers of which the first is less.  They are compared as they are and
not as they are rounded, which is where the order of three numbers can go
wrong. -/
def IntegerBelow (a b : Value) : Prop := ∃ m ∈ a.integer?, ∃ n ∈ b.integer?, m < n

/-- The nearest floating point number of `a` is less, or `a` and `b` are
integers with the same one and `a` is less. -/
def Below (a b : Value) : Prop := a.rank < b.rank ∨ a.rank = b.rank ∧ IntegerBelow a b

/-- A floating point number that is nearest to two integers, of which the first
is less. -/
def Blurs (d i j : Value) : Prop :=
  ∃ x, d = .double x ∧ ∃ m ∈ i.integer?, ∃ n ∈ j.integer?, m < n ∧
    (Binary64.ofInt m).equal x = true ∧ (Binary64.ofInt n).equal x = true

/-! ## Numbers -/

theorem IsNumber.exists_number? (h : a.IsNumber) : ∃ x, a.number? = some x ∧ x.isNaN = false := by
  cases h with
  | int n => exact ⟨_, rfl, Binary64.isNaN_ofInt _⟩
  | long n => exact ⟨_, rfl, Binary64.isNaN_ofInt _⟩
  | double hx => exact ⟨_, rfl, hx⟩

theorem rank_eq {x : Binary64} (h : a.number? = some x) : a.rank = x.rank := by
  rw [rank, h]
  rfl

theorem rank_of_integer? {m : Int} (h : a.integer? = some m) :
    a.rank = (Binary64.ofInt m).rank := by
  cases a with
  | int n =>
    cases h
    exact rank_eq rfl
  | long n =>
    cases h
    exact rank_eq rfl
  | _ => cases h

/-- A number is an integer or a floating point number. -/
theorem IsNumber.integer?_eq_none_iff (h : a.IsNumber) :
    a.integer? = none ↔ ∃ x, a = .double x := by
  cases h with
  | int n => simp [integer?]
  | long n => simp [integer?]
  | double hx => simp [integer?]

theorem integerBelow_iff {m n : Int} (hm : a.integer? = some m) (hn : b.integer? = some n) :
    IntegerBelow a b ↔ m < n := by
  simp [IntegerBelow, hm, hn]

theorem not_integerBelow (h : a.integer? = none ∨ b.integer? = none) : ¬ IntegerBelow a b := by
  rintro ⟨m, hm, n, hn, -⟩
  rcases h with h | h
  · rw [h] at hm
    cases hm
  · rw [h] at hn
    cases hn

/-- Between integers the order is that of the integers, whatever their widths:
no rounding comes in. -/
theorem below_iff_lt {m n : Int} (hm : a.integer? = some m) (hn : b.integer? = some n) :
    Below a b ↔ m < n := by
  rw [Below, integerBelow_iff hm hn, rank_of_integer? hm, rank_of_integer? hn]
  constructor
  · rintro (hlt | ⟨-, hlt⟩)
    · by_contra hge
      have hrank := Binary64.rank_ofInt_mono (Int.not_lt.mp hge)
      omega
    · exact hlt
  · intro hlt
    have hrank := Binary64.rank_ofInt_mono hlt.le
    omega

/-! ## Comparisons -/

/-- A floating point number is compared with any number by the nearest floating
point numbers. -/
theorem compare?_of_integer?_eq_none (ha : a.IsNumber) (hb : b.IsNumber)
    (h : a.integer? = none ∨ b.integer? = none) : a.compare? b = some (compare a.rank b.rank) := by
  obtain ⟨x, hx, hxnan⟩ := ha.exists_number?
  obtain ⟨y, hy, hynan⟩ := hb.exists_number?
  have hfloats : a.compare? b = x.compare? y := by
    unfold compare?
    split
    · next hm hn => simp [hm, hn] at h
    · simp [hx, hy]
  rw [hfloats, Binary64.compare?, hxnan, hynan, rank_eq hx, rank_eq hy]
  rfl

theorem compare?_eq_compare (ha : a.IsNumber) (hb : b.IsNumber) :
    ∃ m n : Int, a.compare? b = some (compare m n) ∧ (Below a b ↔ m < n) ∧ (Below b a ↔ n < m) := by
  cases hm : a.integer? with
  | none =>
    refine ⟨_, _, compare?_of_integer?_eq_none ha hb (.inl hm), ?_, ?_⟩
    · simp [Below, not_integerBelow (.inl hm)]
    · simp [Below, not_integerBelow (.inr hm)]
  | some m =>
    cases hn : b.integer? with
    | none =>
      refine ⟨_, _, compare?_of_integer?_eq_none ha hb (.inr hn), ?_, ?_⟩
      · simp [Below, not_integerBelow (.inr hn)]
      · simp [Below, not_integerBelow (.inl hn)]
    | some n => exact ⟨m, n, by simp [compare?, hm, hn], below_iff_lt hm hn, below_iff_lt hn hm⟩

end Value

namespace Operator

open Value (IsNumber Below)

variable {a b : Value}

theorem accepts_less_iff (ha : a.IsNumber) (hb : b.IsNumber) :
    accepts (some a) (.less b) = true ↔ Below a b := by
  obtain ⟨m, n, hcompare, hbelow, -⟩ := Value.compare?_eq_compare ha hb
  simp [accepts, order?, hcompare, hbelow, compare_lt_iff_lt]

theorem accepts_greater_iff (ha : a.IsNumber) (hb : b.IsNumber) :
    accepts (some a) (.greater b) = true ↔ Below b a := by
  obtain ⟨m, n, hcompare, -, hbelow⟩ := Value.compare?_eq_compare ha hb
  simp [accepts, order?, hcompare, hbelow, compare_gt_iff_gt]

theorem accepts_lessOrEqual_iff (ha : a.IsNumber) (hb : b.IsNumber) :
    accepts (some a) (.lessOrEqual b) = true ↔ ¬ Below b a := by
  obtain ⟨m, n, hcompare, -, hbelow⟩ := Value.compare?_eq_compare ha hb
  have hcases : accepts (some a) (.lessOrEqual b) = true ↔ m < n ∨ m = n := by
    simp [accepts, order?, hcompare, compare_lt_iff_lt]
  rw [hcases, hbelow]
  omega

theorem accepts_greaterOrEqual_iff (ha : a.IsNumber) (hb : b.IsNumber) :
    accepts (some a) (.greaterOrEqual b) = true ↔ ¬ Below a b := by
  obtain ⟨m, n, hcompare, hbelow, -⟩ := Value.compare?_eq_compare ha hb
  have hcases : accepts (some a) (.greaterOrEqual b) = true ↔ n < m ∨ m = n := by
    simp [accepts, order?, hcompare, compare_gt_iff_gt]
  rw [hcases, hbelow]
  omega

end Operator

namespace Value

variable {x y z : Value}

/-! ## Three numbers -/

/-- Rounding blurs two integers if the same floating point number is nearest to
both. -/
theorem blurs_iff (hx : x.IsNumber) :
    Blurs x y z ↔ x.integer? = none ∧ y.rank = x.rank ∧ z.rank = x.rank ∧ IntegerBelow y z := by
  have hequal : ∀ m d, d.isNaN = false →
      ((Binary64.ofInt m).equal d = true ↔ (Binary64.ofInt m).rank = d.rank) := by
    intro m d hd
    simp [Binary64.equal, Binary64.compare?, hd]
  rw [hx.integer?_eq_none_iff]
  constructor
  · rintro ⟨d, rfl, m, hm, n, hn, hlt, hmd, hnd⟩
    cases hx with
    | double hd =>
      refine ⟨⟨d, rfl⟩, ?_, ?_, m, hm, n, hn, hlt⟩
      · rw [rank_of_integer? hm]
        exact (hequal m d hd).mp hmd
      · rw [rank_of_integer? hn]
        exact (hequal n d hd).mp hnd
  · rintro ⟨⟨d, rfl⟩, hy, hz, m, hm, n, hn, hlt⟩
    rw [rank_of_integer? hm] at hy
    rw [rank_of_integer? hn] at hz
    cases hx with
    | double hd => exact ⟨d, rfl, m, hm, n, hn, hlt, (hequal m d hd).mpr hy, (hequal n d hd).mpr hz⟩

/-- Of three numbers with the same nearest floating point number only the
integers are compared. -/
theorem integerBelow_trans_iff (hyx : ¬ IntegerBelow y x) (hzy : ¬ IntegerBelow z y) :
    (¬ IntegerBelow z x ∧ (IntegerBelow x y ∨ IntegerBelow y z → IntegerBelow x z)) ↔
      ¬ (x.integer? = none ∧ IntegerBelow y z ∨ y.integer? = none ∧ IntegerBelow z x ∨
        z.integer? = none ∧ IntegerBelow x y) := by
  unfold IntegerBelow at *
  cases hx : x.integer? <;> cases hy : y.integer? <;> cases hz : z.integer? <;>
    simp [hx, hy, hz] at hyx hzy ⊢
  -- what is left are three integers
  omega

/-- Numbers that do not descend from one to the next are in order, unless
rounding blurs two of them. -/
theorem below_trans_iff (hx : x.IsNumber) (hy : y.IsNumber) (hz : z.IsNumber) (hyx : ¬ Below y x)
    (hzy : ¬ Below z y) :
    (¬ Below z x ∧ (Below x y ∨ Below y z → Below x z)) ↔
      ¬ (Blurs x y z ∨ Blurs y z x ∨ Blurs z x y) := by
  rw [blurs_iff hx, blurs_iff hy, blurs_iff hz]
  unfold Below at *
  by_cases hsame : x.rank = y.rank ∧ y.rank = z.rank
  · obtain ⟨hxy, hyz⟩ := hsame
    have hintegers :=
      @integerBelow_trans_iff x y z (by simpa [hxy] using hyx) (by simpa [hyz] using hzy)
    simpa [hxy, hyz] using hintegers
  · -- the nearest floating point numbers ascend and settle it alone
    have hlt : x.rank < z.rank := by omega
    refine iff_of_true ⟨by omega, fun _ => .inl hlt⟩ ?_
    omega

end Value

namespace Criterion

open Value (IsNumber Blurs)

variable {key : String} {x y z a b c : Value}

/-- What an object stores under the key of a criterion decides whether it
passes. -/
theorem accepts_of_get? {op : Operator} (h : a.get? key = some x) :
    accepts ⟨key, op⟩ a = op.accepts (some x) := by
  cases a with
  | object entries =>
    have hlookup : entries.lookup key = some x := h
    simp [accepts, hlookup]
  | _ => cases h

/-- **Comparisons of three numbers are consistent unless rounding blurs two of
them.** What `y` passes with the operand `x` is what `x` passes with the operand
`y` on the other side.  And if `x` is at most `y` and `y` at most `z`, then `x`
is at most `z`, and is less if one of the two is less; except, exactly, if one
of the three is the floating point number nearest to both others, and these are
integers of which the one that comes next to it in the turn `x`, `y`, `z`, `x`
is the less. -/
theorem lessOrEqual_trans_iff (hx : x.IsNumber) (hy : y.IsNumber) (hz : z.IsNumber)
    (ha : a.get? key = some x) (hb : b.get? key = some y) (hc : c.get? key = some x) :
    (accepts ⟨key, .greaterOrEqual x⟩ b = accepts ⟨key, .lessOrEqual y⟩ a ∧
      accepts ⟨key, .greater x⟩ b = accepts ⟨key, .less y⟩ a) ∧
    (accepts ⟨key, .lessOrEqual y⟩ a = true → accepts ⟨key, .lessOrEqual z⟩ b = true →
      ((accepts ⟨key, .lessOrEqual z⟩ c = true ∧
        (accepts ⟨key, .less y⟩ a = true ∨ accepts ⟨key, .less z⟩ b = true →
          accepts ⟨key, .less z⟩ c = true)) ↔
        ¬ (Blurs x y z ∨ Blurs y z x ∨ Blurs z x y))) := by
  simp only [accepts_of_get? ha, accepts_of_get? hb, accepts_of_get? hc]
  refine ⟨⟨?_, ?_⟩, ?_⟩
  · rw [Bool.eq_iff_iff, Operator.accepts_greaterOrEqual_iff hy hx,
      Operator.accepts_lessOrEqual_iff hx hy]
  · rw [Bool.eq_iff_iff, Operator.accepts_greater_iff hy hx, Operator.accepts_less_iff hx hy]
  · rw [Operator.accepts_lessOrEqual_iff hx hy, Operator.accepts_lessOrEqual_iff hy hz,
      Operator.accepts_lessOrEqual_iff hx hz, Operator.accepts_less_iff hx hy,
      Operator.accepts_less_iff hy hz, Operator.accepts_less_iff hx hz]
    exact Value.below_trans_iff hx hy hz

/-- Two integers between which the nearest floating point numbers ascend, though
the first of them is equal to the floating point number that it is compared
with. -/
theorem lessOrEqual_trans_iff_rounded :
    ∃ x y z a b : Value, x = .long 9007199254740993 ∧ y = .double ⟨0x4340000000000000⟩ ∧
      z = .long 9007199254740995 ∧ x.IsNumber ∧ y.IsNumber ∧ z.IsNumber ∧
      a = .object [("n", x)] ∧ b = .object [("n", y)] ∧
      accepts ⟨"n", .lessOrEqual y⟩ a = true ∧ accepts ⟨"n", .greaterOrEqual x⟩ b = true ∧
      accepts ⟨"n", .less z⟩ b = true ∧
      accepts ⟨"n", .lessOrEqual z⟩ a = true ∧ accepts ⟨"n", .less z⟩ a = true := by
  let x : Value := .long 9007199254740993
  let y : Value := .double ⟨0x4340000000000000⟩
  let z : Value := .long 9007199254740995
  have hxy : accepts ⟨"n", .lessOrEqual y⟩ (.object [("n", x)]) = true := by decide +kernel
  have hyz : accepts ⟨"n", .lessOrEqual z⟩ (.object [("n", y)]) = true := by decide +kernel
  have hless : accepts ⟨"n", .less z⟩ (.object [("n", y)]) = true := by decide +kernel
  have hblurs : ¬ (Blurs x y z ∨ Blurs y z x ∨ Blurs z x y) := by
    -- only `y` is a floating point number, and the integers that follow it descend
    rintro (⟨_, h, _⟩ | ⟨_, -, m, hm, n, hn, hlt, -⟩ | ⟨_, h, _⟩)
    · simp [x] at h
    · cases hm
      cases hn
      exact absurd hlt (by decide +kernel)
    · simp [z] at h
  obtain ⟨⟨hgreater, -⟩, htrans⟩ := @lessOrEqual_trans_iff "n" x y z (.object [("n", x)])
    (.object [("n", y)]) (.object [("n", x)]) (.long _) (.double (by decide +kernel)) (.long _)
    rfl rfl rfl
  obtain ⟨hxz, hlt⟩ := (htrans hxy hyz).mpr hblurs
  exact ⟨x, y, z, _, _, rfl, rfl, rfl, .long _, .double (by decide +kernel), .long _, rfl, rfl, hxy,
    hgreater.trans hxy, hless, hxz, hlt (.inr hless)⟩

/-- An integer is at most a floating point number, which is at most a smaller
integer. -/
theorem lessOrEqual_not_trans :
    accepts ⟨"n", .lessOrEqual (.double ⟨0x4340000000000000⟩)⟩
        (.object [("n", .long 9007199254740993)]) = true ∧
      accepts ⟨"n", .lessOrEqual (.long 9007199254740992)⟩
        (.object [("n", .double ⟨0x4340000000000000⟩)]) = true ∧
      accepts ⟨"n", .lessOrEqual (.long 9007199254740992)⟩
        (.object [("n", .long 9007199254740993)]) = false := by
  decide +kernel

end Criterion

end DocPath

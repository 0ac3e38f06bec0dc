import DocPath.Proofs.Filter.NumericOrder

/-! # Greater, less or level

Two values have an order exactly if both are numbers
(`Value.isSome_compare?_iff`), and read from the other side the order is the
opposite one (`Value.compare?_swap`).  All four comparisons are tests of this
order.  So of two numbers one is greater, less or level with the other, and
never two of these; what is absent or no number passes no comparison
(`Operator.accepts_comparisons`). -/

namespace DocPath

/-- Two floating point numbers compare the other way round when they change
places, and not at all if one is a NaN. -/
theorem Binary64.compare?_swap (x y : Binary64) :
    y.compare? x = (x.compare? y).map Ordering.swap := by
  rw [compare?, compare?, Bool.or_comm, Std.OrientedOrd.eq_swap (a := y.rank)]
  cases x.isNaN || y.isNaN <;> rfl

namespace Value

variable {a b : Value}

/-- A value that counts as a floating point number is a number, unless it is a
NaN. -/
theorem isNumber_of_number? {x : Binary64} (h : a.number? = some x) (hx : x.isNaN = false) :
    a.IsNumber := by
  cases a with
  | int n => exact .int n
  | long n => exact .long n
  | double y =>
    cases h
    exact .double hx
  | _ => cases h

theorem isNumber_of_integer? {m : Int} (h : a.integer? = some m) : a.IsNumber := by
  cases a with
  | int n => exact .int n
  | long n => exact .long n
  | _ => cases h

/-- Values have an order exactly if both are numbers. -/
theorem isSome_compare?_iff : (a.compare? b).isSome = true ↔ a.IsNumber ∧ b.IsNumber := by
  constructor
  · intro h
    unfold compare? at h
    split at h
    · next hm hn => exact ⟨isNumber_of_integer? hm, isNumber_of_integer? hn⟩
    · cases hx : a.number? with
      | none => simp [hx] at h
      | some x =>
        cases hy : b.number? with
        | none => simp [hx, hy] at h
        | some y =>
          have hnan : x.isNaN = false ∧ y.isNaN = false := by
            simpa [hx, hy, Binary64.compare?] using h
          exact ⟨isNumber_of_number? hx hnan.1, isNumber_of_number? hy hnan.2⟩
  · rintro ⟨ha, hb⟩
    obtain ⟨m, n, hcompare, -⟩ := compare?_eq_compare ha hb
    rw [hcompare]
    rfl

/-- From the other side the order is the opposite one.  Integers and floating
point numbers are compared by different means, but each of these is the same
from both sides. -/
theorem compare?_swap (a b : Value) : b.compare? a = (a.compare? b).map Ordering.swap := by
  have hfloats : (do (← b.number?).compare? (← a.number?)) =
      (do (← a.number?).compare? (← b.number?)).map Ordering.swap := by
    cases a.number? with
    | none => cases b.number? <;> rfl
    | some x =>
      cases b.number? with
      | none => rfl
      | some y => exact Binary64.compare?_swap x y
  unfold compare?
  cases a.integer? with
  | none => cases b.integer? <;> exact hfloats
  | some m =>
    cases b.integer? with
    | none => exact hfloats
    | some n => exact congrArg some Std.OrientedOrd.eq_swap

end Value

/-- One of three statements is true, and no two of them are. -/
def ExactlyOne (p q r : Prop) : Prop := (p ∨ q ∨ r) ∧ ¬(p ∧ q) ∧ ¬(p ∧ r) ∧ ¬(q ∧ r)

namespace Operator

open Value (Below)

variable {actual : Option Value} {operand v w : Value}

/-- A value that is there and a number, with an operand that is one too.  NaN is
no number here, on either side. -/
def Comparable (actual : Option Value) (operand : Value) : Prop :=
  ∃ v, actual = some v ∧ v.IsNumber ∧ operand.IsNumber

/-- Neither the value nor the operand is the greater one: the value passes both
weak comparisons.  Besides equal numbers these are numbers that rounding does
not tell apart. -/
def Level (actual : Option Value) (operand : Value) : Prop :=
  accepts actual (.greaterOrEqual operand) = true ∧ accepts actual (.lessOrEqual operand) = true

/-- Two values have an order exactly if they are comparable. -/
theorem isSome_order?_iff : (order? actual operand).isSome = true ↔ Comparable actual operand := by
  cases actual with
  | none => simp [order?, Comparable]
  | some v => simp [order?, Comparable, Value.isSome_compare?_iff]

/-- The operator is about the value in the document, which stands first in the
order. -/
theorem accepts_greater_iff_order? :
    accepts actual (.greater operand) = true ↔ order? actual operand = some .gt := by
  simp [accepts]

/-- Being less is having the order the other way round. -/
theorem accepts_less_iff_order? :
    accepts actual (.less operand) = true ↔ order? actual operand = some .lt := by
  simp [accepts]

/-- Being greater or equal is being greater or level: values without an order
are neither. -/
theorem accepts_greaterOrEqual_iff_order? :
    accepts actual (.greaterOrEqual operand) = true ↔
      order? actual operand = some .gt ∨ order? actual operand = some .eq := by
  simp [accepts]

/-- Being less or equal is being less or level: values without an order are
neither. -/
theorem accepts_lessOrEqual_iff_order? :
    accepts actual (.lessOrEqual operand) = true ↔
      order? actual operand = some .lt ∨ order? actual operand = some .eq := by
  simp [accepts]

theorem level_iff_order? : Level actual operand ↔ order? actual operand = some .eq := by
  rw [Level, accepts_greaterOrEqual_iff_order?, accepts_lessOrEqual_iff_order?]
  cases order? actual operand with
  | none => simp
  | some o => cases o <;> simp

/-- What cannot be compared passes no comparison, not even the weak ones, which
equal values would pass. -/
theorem not_accepts_of_not_comparable (h : ¬ Comparable actual operand) :
    accepts actual (.greater operand) = false ∧ accepts actual (.less operand) = false ∧
      accepts actual (.greaterOrEqual operand) = false ∧
      accepts actual (.lessOrEqual operand) = false := by
  have hnone : order? actual operand = none := by
    rw [← isSome_order?_iff, Bool.not_eq_true, Option.isSome_eq_false_iff,
      Option.isNone_iff_eq_none] at h
    exact h
  simp [accepts, hnone]

theorem exactlyOne_of_comparable (h : Comparable actual operand) :
    ExactlyOne (accepts actual (.greater operand) = true) (accepts actual (.less operand) = true)
      (Level actual operand) := by
  obtain ⟨o, ho⟩ := Option.isSome_iff_exists.mp (isSome_order?_iff.mpr h)
  rw [accepts_greater_iff_order?, accepts_less_iff_order?, level_iff_order?, ho]
  cases o <;> simp [ExactlyOne]

/-- What is compared from the other side passes the opposite comparisons. -/
theorem accepts_swap (v w : Value) :
    accepts (some v) (.greater w) = accepts (some w) (.less v) ∧
      accepts (some v) (.greaterOrEqual w) = accepts (some w) (.lessOrEqual v) := by
  have hswap : order? (some v) w = (order? (some w) v).map Ordering.swap := Value.compare?_swap w v
  constructor
  · rw [Bool.eq_iff_iff, accepts_greater_iff_order?, accepts_less_iff_order?, hswap]
    cases order? (some w) v with
    | none => simp
    | some o => cases o <;> simp
  · rw [Bool.eq_iff_iff, accepts_greaterOrEqual_iff_order?, accepts_lessOrEqual_iff_order?, hswap]
    cases order? (some w) v with
    | none => simp
    | some o => cases o <;> simp

/-- **Of two numbers one is greater, less or level with the other.** Exactly one
of the three holds of a value and an operand that are numbers, `Value.Below`
says which, and each of the two weak comparisons is a strict one or the third
case.  No comparison is passed by an absent value or where one of the two is no
number.  From the other side each comparison is the opposite one. -/
theorem accepts_comparisons (actual : Option Value) (operand : Value) :
    (Comparable actual operand →
      ExactlyOne (accepts actual (.greater operand) = true) (accepts actual (.less operand) = true)
        (Level actual operand) ∧
      (accepts actual (.greaterOrEqual operand) = true ↔
        accepts actual (.greater operand) = true ∨ Level actual operand) ∧
      (accepts actual (.lessOrEqual operand) = true ↔
        accepts actual (.less operand) = true ∨ Level actual operand) ∧
      ∀ v, actual = some v →
        (accepts actual (.greater operand) = true ↔ Below operand v) ∧
        (accepts actual (.less operand) = true ↔ Below v operand)) ∧
    (¬ Comparable actual operand →
      accepts actual (.greater operand) = false ∧ accepts actual (.less operand) = false ∧
      accepts actual (.greaterOrEqual operand) = false ∧
      accepts actual (.lessOrEqual operand) = false) ∧
    ∀ v, actual = some v →
      accepts (some v) (.greater operand) = accepts (some operand) (.less v) ∧
      accepts (some v) (.greaterOrEqual operand) = accepts (some operand) (.lessOrEqual v) := by
  refine ⟨fun h => ⟨exactlyOne_of_comparable h, ?_, ?_, ?_⟩, not_accepts_of_not_comparable, ?_⟩
  · rw [accepts_greaterOrEqual_iff_order?, accepts_greater_iff_order?, level_iff_order?]
  · rw [accepts_lessOrEqual_iff_order?, accepts_less_iff_order?, level_iff_order?]
  · obtain ⟨w, rfl, hw, hoperand⟩ := h
    rintro v ⟨⟩
    exact ⟨accepts_greater_iff hw hoperand, accepts_less_iff hw hoperand⟩
  · rintro v -
    exact accepts_swap v operand

/-- An integer is level with the floating point number that it is rounded to;
infinity is greater than every integer, and a floating point number that is none
is not even level with itself. -/
theorem accepts_comparisons_edges :
    ∃ rounded infinity nan : Value, rounded = .double ⟨0x4340000000000000⟩ ∧
      infinity = .double ⟨0x7ff0000000000000⟩ ∧ nan = .double ⟨0x7ff8000000000000⟩ ∧
      Comparable (some (.long 9007199254740993)) rounded ∧
      Level (some (.long 9007199254740993)) rounded ∧
      Comparable (some infinity) (.long Int64.maxValue) ∧
      accepts (some infinity) (.greater (.long Int64.maxValue)) = true ∧
      accepts (some (.long Int64.maxValue)) (.less infinity) = true ∧
      ¬ Comparable (some nan) nan ∧ accepts (some nan) (.greaterOrEqual nan) = false ∧
      ¬ Comparable none (.int 0) ∧ accepts none (.lessOrEqual (.int 0)) = false := by
  let rounded : Value := .double ⟨0x4340000000000000⟩
  let infinity : Value := .double ⟨0x7ff0000000000000⟩
  let nan : Value := .double ⟨0x7ff8000000000000⟩
  have hrounded : Comparable (some (.long 9007199254740993)) rounded :=
    ⟨_, rfl, .long _, .double (by decide +kernel)⟩
  have hinfinity : Comparable (some infinity) (.long Int64.maxValue) :=
    ⟨_, rfl, .double (by decide +kernel), .long _⟩
  have hnan : ¬ Comparable (some nan) nan := by
    rintro ⟨_, -, -, h⟩
    change Value.IsNumber (.double ⟨0x7ff8000000000000⟩) at h
    cases h with
    | double h => exact absurd h (by decide +kernel)
  have habsent : ¬ Comparable none (.int 0) := by
    rintro ⟨_, ⟨⟩, -⟩
  have hlevel : Level (some (.long 9007199254740993)) rounded := by
    obtain ⟨⟨hone, -⟩, -⟩ :=
      (accepts_comparisons (some (.long 9007199254740993)) rounded).1 hrounded
    rcases hone with h | h | h
    · exact absurd h (by decide +kernel)
    · exact absurd h (by decide +kernel)
    · exact h
  have hgreater : accepts (some infinity) (.greater (.long Int64.maxValue)) = true := by
    decide +kernel
  have hless := ((accepts_comparisons (some infinity) (.long Int64.maxValue)).2.2 infinity rfl).1
  exact ⟨rounded, infinity, nan, rfl, rfl, rfl, hrounded, hlevel, hinfinity, hgreater,
    hless.symm.trans hgreater, hnan, ((accepts_comparisons (some nan) nan).2.1 hnan).2.2.1, habsent,
    ((accepts_comparisons none (.int 0)).2.1 habsent).2.2.2⟩

end Operator

end DocPath

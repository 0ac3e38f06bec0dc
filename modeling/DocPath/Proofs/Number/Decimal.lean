import DocPath.Json.Printer
import DocPath.Number.Decimal
import DocPath.Proofs.Number.Integer
import DocPath.Proofs.Text.Run
import Mathlib.Data.List.TakeDrop
import Mathlib.Data.Rat.Cast.Defs
import Mathlib.Algebra.Order.Field.Rat

/-! # Texts of decimal fractions

A decimal fraction is written with digits, perhaps a point with more of them,
and perhaps an exponent (`Decimal.Numeral`).  The texts of integers are read as
decimal fractions with their values (`Decimal.exists_ofText?_of_writes`), and
every layout of a floating point number is read as one
(`FloatLayout.exists_ofText?_text`). -/

namespace DocPath

namespace Decimal

/-- The value of a decimal fraction without its sign, among the rationals, where
no exponent is too large for it. -/
def magnitude (d : Decimal) : ℚ := d.digits * 10 ^ d.exponent

/-- What may stand after the digits of a decimal fraction: nothing, or an
exponent. -/
inductive Exponent : List Char → Prop
  | none : Exponent []
  | power {text : List Char} {n : Int} : Writes text n → Exponent ('e' :: text)

/-- The texts of a decimal fraction without a sign that have a digit before the
point, if there is one. -/
inductive Numeral : List Char → Prop
  | whole {ds tail : List Char} : DigitRow ds → Exponent tail → Numeral (ds ++ tail)
  | point {ds fs tail : List Char} :
      DigitRow ds → DigitRow fs → Exponent tail → Numeral (ds ++ '.' :: (fs ++ tail))

variable {text tail : List Char}

/-- The exponent begins with a letter, so it ends a row of digits. -/
theorem Exponent.ends (h : Exponent tail) : Ends Char.isDigit tail := by
  cases h with
  | none => rintro c ⟨⟩
  | power _ => rintro c ⟨⟩; rfl

/-- Each of the texts is read, with all its digits and without anything left
over. -/
theorem Numeral.exists_unsigned? (h : Numeral text) (negative : Bool) :
    ∃ d, unsigned? negative text = some d := by
  cases h with
  | whole hd he =>
    simp only [unsigned?, List.span_eq_takeWhile_dropWhile, takeWhile_run hd.isDigit he.ends,
      dropWhile_run hd.isDigit he.ends]
    cases he with
    | none => simp [hd.ne_nil]
    | power hw => simp [hd.ne_nil, intOfText?_eq_some_iff.mpr hw]
  | @point ds fs tail hd hf he =>
    have hends : Ends Char.isDigit ('.' :: (fs ++ tail)) := by rintro c ⟨⟩; rfl
    simp only [unsigned?, List.span_eq_takeWhile_dropWhile, takeWhile_run hd.isDigit hends,
      dropWhile_run hd.isDigit hends, takeWhile_run hf.isDigit he.ends,
        dropWhile_run hf.isDigit he.ends]
    cases he with
    | none => simp [hd.ne_nil]
    | power hw => simp [hd.ne_nil, intOfText?_eq_some_iff.mpr hw]

/-- The first character is a digit, so none of the texts can be taken for one
with a sign. -/
theorem Numeral.head (h : Numeral text) : ∃ c u, text = c :: u ∧ c.isDigit = true := by
  have hrow : ∀ {ds : List Char}, DigitRow ds → ∀ rest, ∃ c u,
      ds ++ rest = c :: u ∧ c.isDigit = true := by
    intro ds hd rest
    obtain ⟨c, u, rfl⟩ := List.exists_cons_of_ne_nil hd.ne_nil
    exact ⟨c, u ++ rest, rfl, hd.head_isDigit⟩
  cases h with
  | whole hd _ => exact hrow hd _
  | point hd _ _ => exact hrow hd _

/-- Digits begin with no sign. -/
theorem ofText?_of_isDigit {c : Char} (hc : c.isDigit = true) :
    ofText? (c :: text) = unsigned? false (c :: text) := by
  unfold ofText?
  split
  · next he => cases he; cases hc
  · next he => cases he; cases hc
  · rfl

/-- Each of the texts is read with a sign in front of it or without one. -/
theorem Numeral.exists_ofText? (h : Numeral text) (negative : Bool) :
    ∃ d, ofText? ((if negative then ['-'] else []) ++ text) = some d := by
  obtain ⟨d, hd⟩ := h.exists_unsigned? negative
  cases negative with
  | true => exact ⟨d, hd⟩
  | false =>
    obtain ⟨c, u, rfl, hc⟩ := h.head
    exact ⟨d, (ofText?_of_isDigit hc).trans hd⟩

theorem unsigned?_digits (h : DigitRow text) (negative : Bool) :
    unsigned? negative text = some ⟨negative, natOfDigits text, 0⟩ := by
  have hends : Ends Char.isDigit [] := by rintro c ⟨⟩
  have htake := takeWhile_run h.isDigit hends
  have hdrop := dropWhile_run h.isDigit hends
  rw [List.append_nil] at htake hdrop
  simp [unsigned?, List.span_eq_takeWhile_dropWhile, htake, hdrop, h.ne_nil]

/-- The text of an integer is that of a decimal fraction with the same value, so
an integer that is read as a fraction is not changed by the notation. -/
theorem exists_ofText?_of_writes {n : Int} (h : Writes text n) :
    ∃ d, ofText? text = some d ∧ d.magnitude = n.natAbs := by
  have hmagnitude : ∀ negative (k : Nat), (Decimal.mk negative k 0).magnitude = k := by
    simp [magnitude]
  cases h with
  | @plain ds hd =>
    obtain ⟨c, u, rfl⟩ := List.exists_cons_of_ne_nil hd.ne_nil
    refine ⟨_, (ofText?_of_isDigit hd.head_isDigit).trans (unsigned?_digits hd false), ?_⟩
    rw [hmagnitude, Int.natAbs_natCast]
  | plus hd => exact ⟨_, unsigned?_digits hd false, by rw [hmagnitude, Int.natAbs_natCast]⟩
  | minus hd =>
    exact ⟨_, unsigned?_digits hd true, by rw [hmagnitude, Int.natAbs_neg, Int.natAbs_natCast]⟩

end Decimal

open Decimal (Numeral Exponent)

/-! ## Rows of digits -/

theorem digitRow_zero : DigitRow ['0'] := ⟨List.cons_ne_nil _ _, List.forall_mem_singleton.mpr rfl⟩

theorem isDigit_replicate_zero (n : Nat) : ∀ c ∈ List.replicate n '0', c.isDigit = true := by
  intro c hc
  rw [List.eq_of_mem_replicate hc]
  rfl

namespace Binary64

/-- Zeros at the end can be left out of digits; where nothing is left, there is
a zero. -/
theorem digitRow_trimZeros {digits : List Char} (h : ∀ c ∈ digits, c.isDigit = true) :
    DigitRow (trimZeros digits) := by
  unfold trimZeros
  split
  · exact digitRow_zero
  · next hne =>
    refine ⟨fun he => hne he, fun c hc => h c ?_⟩
    rw [List.mem_reverse] at hc
    exact List.mem_reverse.mp ((List.dropWhile_sublist _).subset hc)

theorem digitRow_onGrid? {num low high den n : Nat} {closed : Bool} {p : Int} {d : Digits}
    (h : onGrid? num low high den closed p n = some d) : DigitRow d.digits := by
  obtain ⟨b, -, rfl⟩ := Option.map_eq_some_iff.mp h
  exact digitRow_trimZeros (digits_toDigits b).isDigit

/-- Each number of digits that the search goes through gives digits, and so does
its end. -/
theorem digitRow_search (m num low high den : Nat) (p : Int) (fuel n : Nat) :
    DigitRow (shortest.search m num low high den p fuel n).digits := by
  induction fuel generalizing n with
  | zero => exact digitRow_zero
  | succ fuel ih =>
    rw [shortest.search]
    split
    · next h => exact digitRow_onGrid? h
    · exact ih (n + 1)

/-- The shortest digits of a floating point number are digits, also of those
that have no value. -/
theorem digitRow_shortest (x : Binary64) : DigitRow x.shortest.digits := by
  unfold shortest
  split
  · exact digitRow_zero
  · exact digitRow_search ..

end Binary64

namespace FloatLayout

variable {d : Digits}

/-- Digits that are written out, with a point among them or zeros around them,
can be read as a decimal fraction. -/
theorem numeral_placed (h : DigitRow d.digits) : Numeral (placed d) := by
  obtain ⟨c, ds, hds⟩ := List.exists_cons_of_ne_nil h.ne_nil
  unfold placed
  split
  · have hwhole : DigitRow (d.digits.take (d.exponent.toNat + 1) ++
        List.replicate (d.exponent.toNat + 1 - (d.digits.take (d.exponent.toNat + 1)).length)
          '0') := by
      refine ⟨by simp [hds],
        List.forall_mem_append.mpr ⟨fun e he => h.isDigit e (List.mem_of_mem_take he), ?_⟩⟩
      exact isDigit_replicate_zero _
    have hfraction : DigitRow (if (d.digits.drop (d.exponent.toNat + 1)).isEmpty then ['0']
        else d.digits.drop (d.exponent.toNat + 1)) := by
      split
      · exact digitRow_zero
      · next hne => exact ⟨by simpa using hne, fun e he => h.isDigit e (List.mem_of_mem_drop he)⟩
    have hplaced := Numeral.point hwhole hfraction .none
    rwa [List.append_nil] at hplaced
  · have hfraction : DigitRow (List.replicate ((-d.exponent).toNat - 1) '0' ++ d.digits) :=
      ⟨by simp [hds], List.forall_mem_append.mpr ⟨isDigit_replicate_zero _, h.isDigit⟩⟩
    have hplaced := Numeral.point digitRow_zero hfraction .none
    rwa [List.append_nil] at hplaced

/-- Digits with an exponent after them can be read as a decimal fraction. -/
theorem numeral_scientific (l : FloatLayout) (h : DigitRow d.digits) :
    Numeral (l.scientific d) := by
  obtain ⟨c, ds, hds⟩ := List.exists_cons_of_ne_nil h.ne_nil
  obtain ⟨hc, hrest⟩ := List.forall_mem_cons.mp (hds ▸ h.isDigit)
  have hfirst : DigitRow [c] := ⟨List.cons_ne_nil _ _, List.forall_mem_singleton.mpr hc⟩
  have hpower : ∃ n, Writes ((if d.exponent < 0 then ['-'] else if l.plusSign then ['+'] else []) ++
      Nat.toDigits 10 d.exponent.natAbs) n := by
    have hdigits := digits_toDigits d.exponent.natAbs
    split
    · exact ⟨_, .minus hdigits⟩
    · split
      · exact ⟨_, .plus hdigits⟩
      · exact ⟨_, .plain hdigits⟩
  obtain ⟨n, hn⟩ := hpower
  unfold scientific
  rw [hds]
  cases ds with
  | nil => simpa using Numeral.whole hfirst (.power hn)
  | cons e es => simpa using Numeral.point hfirst ⟨List.cons_ne_nil _ _, hrest⟩ (.power hn)

/-- The text of a number is that of a decimal fraction, in whichever layout it
is written, with an exponent or with zeros. -/
theorem exists_ofText?_text (l : FloatLayout) (x : Binary64) :
    ∃ d, Decimal.ofText? (l.text x).toList = some d := by
  have hrow := x.digitRow_shortest
  rw [text, String.toList_ofList]
  refine Numeral.exists_ofText? ?_ x.isNegative
  split
  · exact numeral_placed hrow
  · exact l.numeral_scientific hrow

end FloatLayout
end DocPath

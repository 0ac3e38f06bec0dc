import DocPath.Proofs.Filter.IntegerComparison
import DocPath.Proofs.Number.Range

/-! # The numbers of predicates

A filter compares with the numbers that stand in the text of its predicate
(`Filter.ofText_numbers`).  An integer beyond 64 bits is refused there, but no
decimal fraction is refused for its value: one beyond the range of floating
point numbers is infinite, and has the text of null. -/

namespace DocPath

/-- The numbers that a filter compares properties with, each as often as it is
an operand, in the order of the criteria. -/
def Filter.numbers (f : Filter) : List Value :=
  (f.criteria.flatMap (·.operator.operands)).filter (·.number?.isSome)

/-- An integer, or a floating point number that is finite.  Only these have a
text that is a number again. -/
inductive Value.Finite : Value → Prop
  | int (n : Int32) : Finite (.int n)
  | long (n : Int64) : Finite (.long n)
  | double {x : Binary64} : x.isFinite = true → Finite (.double x)

namespace Value

variable {v : Value} {run : List Char}

/-- A text that is read as a number writes a decimal fraction, which decides by
its value whether the number is finite. -/
theorem exists_decimal_of_numberOfText? (h : PredicateReader.numberOfText? run = some v) :
    v.IsNumber ∧ ∃ d, Decimal.ofText? run = some d ∧ (v.Finite ↔ d.magnitude < Binary64.limit) := by
  unfold PredicateReader.numberOfText? at h
  split at h
  · obtain ⟨x, hx, rfl⟩ := Option.map_eq_some_iff.mp h
    obtain ⟨d, hd, hsaturates⟩ := Binary64.exists_saturates hx
    refine ⟨.double hsaturates.isNaN, d, hd, ?_⟩
    rw [← hsaturates.isFinite_iff]
    exact ⟨fun | .double hx => hx, .double⟩
  · obtain ⟨k, hk, hv⟩ := Option.map_eq_some_iff.mp h
    have hwrites := int64OfText?_eq_some_iff.mp hk
    obtain ⟨d, hd, hmagnitude⟩ := Decimal.exists_ofText?_of_writes hwrites
    have hrange : k.toInt.natAbs < Binary64.limit := by
      have hlow := k.le_toInt
      have hhigh := k.toInt_lt
      have hlimit := Binary64.limit_bounds.1
      omega
    have hsmall : d.magnitude < Binary64.limit := by
      rw [hmagnitude]
      exact_mod_cast hrange
    split at hv <;> subst hv
    · exact ⟨.int _, d, hd, iff_of_true (.int _) hsmall⟩
    · exact ⟨.long _, d, hd, iff_of_true (.long _) hsmall⟩

/-- The text of a finite number is a number, and that of any other is null, as
the printer has no text for infinities. -/
theorem IsNumber.operandText (h : v.IsNumber) :
    (v.Finite ↔ ∃ d, Decimal.ofText? (Operator.operandText v).toList = some d) ∧
      (¬ v.Finite → Operator.operandText v = "null") := by
  have hinteger : ∀ n : Int, ∃ d, Decimal.ofText? (textOfInt n).toList = some d := fun n =>
    (Decimal.exists_ofText?_of_writes (writes_textOfInt n)).imp fun _ => And.left
  have hnull : ¬ ∃ d, Decimal.ofText? "null".toList = some d := by rintro ⟨d, hd⟩; cases hd
  cases h with
  | int n => exact ⟨iff_of_true (.int n) (hinteger _), fun h => absurd (.int n) h⟩
  | long n => exact ⟨iff_of_true (.long n) (hinteger _), fun h => absurd (.long n) h⟩
  | @double x _ =>
    have htext : Operator.operandText (.double x) =
        if x.isFinite then FloatLayout.json.text x else "null" := by
      show (if x.isFinite then Json.Tree.float x else .null).text = _
      split
      · next hx => exact if_pos hx
      · rfl
    rw [htext]
    split
    · next hx =>
      exact ⟨iff_of_true (.double hx) (FloatLayout.json.exists_ofText?_text x),
        fun h => absurd (.double hx) h⟩
    · next hx => exact ⟨iff_of_false (fun | .double h => hx h) hnull, fun _ => rfl⟩

end Value

namespace PredicateReader

/-- A number with a point or an exponent in the place of an operand, with the
decimal fraction that it writes. -/
structure FractionAt (text before run rest : List Char) (d : Decimal) : Prop
    extends NumberAt text before run rest where
  point : run.any (fun c => c == '.' || c == 'e' || c == 'E') = true
  writes : Decimal.ofText? run = some d

theorem FractionAt.exists_numberOfText? {text before run rest : List Char} {d : Decimal}
    (h : FractionAt text before run rest d) : ∃ v, numberOfText? run = some v := by
  rw [numberOfText?, if_pos h.point, Binary64.ofText?, h.writes]
  exact ⟨_, rfl⟩

end PredicateReader

namespace Filter

open PredicateReader (NumberAt FractionAt BeforeOperand Operand Accessor)
open Unicode (Blanks)

variable {source : String} {f : Filter} {v : Value} {before run rest : List Char}

theorem mem_numbers_iff :
    v ∈ f.numbers ↔ (∃ c ∈ f.criteria, v ∈ c.operator.operands) ∧ v.number?.isSome = true := by
  rw [numbers, List.mem_filter, List.mem_flatMap]

theorem exists_ofText_iff :
    (∃ f, ofText source = .ok f) ↔ ∃ cs, PredicateReader.terms source.toList = .ok cs := by
  simp only [ofText_eq_ok_iff, ← PredicateReader.terms_eq_ok_iff]
  exact ⟨fun ⟨f, hf⟩ => ⟨_, hf⟩, fun ⟨cs, hcs⟩ => ⟨⟨cs⟩, hcs⟩⟩

/-- A filter compares with exactly those numbers that are read in its text.  A
quoted operand may look like a number, but it stands in no place of one. -/
theorem mem_numbers_iff_exists_numberAt (h : ofText source = .ok f) (hv : v.number?.isSome = true) :
    v ∈ f.numbers ↔
      ∃ before run rest,
        NumberAt source.toList before run rest ∧ PredicateReader.numberOfText? run = some v := by
  have hconjunction := ofText_eq_ok_iff.mp h
  rw [mem_numbers_iff]
  constructor
  · rintro ⟨⟨c, hc, hmem⟩, -⟩
    exact hconjunction.exists_numberAt hc hmem hv
  · rintro ⟨before, run, rest, hplace, hread⟩
    exact ⟨hplace.exists_criterion hread (PredicateReader.terms_of_grammar hconjunction), hv⟩

/-- **Only integers are refused for their size.** One beyond 64 bits is,
wherever a predicate compares with it, but which decimal fraction stands in a
place never decides whether the predicate is read.  A filter compares with the
numbers that stand in its text, and each is finite exactly if it is within the
range of floating point numbers.  The text of a finite number is a number again,
and that of another one is null. -/
theorem ofText_numbers (source : String) :
    (∀ before run rest n, NumberAt source.toList before run rest → Writes run n → ¬ IsInt64 n →
      ofText source =
        .error (.invalidPath ("[?(" ++ source ++ ")]") (.invalidNumber (String.ofList run))
        (some (before ++ run).length))) ∧
    (∀ source' before run run' rest d d', FractionAt source.toList before run rest d →
      FractionAt source'.toList before run' rest d' →
        ((∃ f, ofText source = .ok f) ↔ ∃ f, ofText source' = .ok f)) ∧
    ∀ f, ofText source = .ok f →
      (∀ v ∈ f.numbers, ∃ before run rest d, NumberAt source.toList before run rest ∧
        Decimal.ofText? run = some d ∧ (v.Finite ↔ d.magnitude < Binary64.limit) ∧
        (v.Finite ↔ ∃ e, Decimal.ofText? (Operator.operandText v).toList = some e) ∧
        (¬ v.Finite → Operator.operandText v = "null")) ∧
      ((∀ v ∈ f.numbers, v.Finite) ↔
        ∀ before run rest d, NumberAt source.toList before run rest → Decimal.ofText? run = some d →
          d.magnitude < Binary64.limit) := by
  refine ⟨fun before run rest n hplace hwrites hn => ?_,
    fun source' before run run' rest d d' hplace hplace' => ?_,
    fun f hf => ⟨fun v hv => ?_, fun hfinite => ?_, fun hrange => ?_⟩⟩
  · exact ofText_eq_error_of_numberAt hplace (numberOfText?_eq_none hwrites hn)
  · obtain ⟨v, hv⟩ := hplace.exists_numberOfText?
    obtain ⟨v', hv'⟩ := hplace'.exists_numberOfText?
    rw [exists_ofText_iff, exists_ofText_iff]
    exact hplace.exists_terms_iff hplace'.toNumberAt hv hv'
  · obtain ⟨before, run, rest, hplace, hread⟩ :=
      (mem_numbers_iff_exists_numberAt hf (mem_numbers_iff.mp hv).2).mp hv
    obtain ⟨hnumber, d, hd, hfinite⟩ := Value.exists_decimal_of_numberOfText? hread
    exact ⟨before, run, rest, d, hplace, hd, hfinite, hnumber.operandText⟩
  · intro before run rest d hplace hd
    cases hread : PredicateReader.numberOfText? run with
    | none =>
      rw [ofText_eq_error_of_numberAt hplace hread] at hf
      cases hf
    | some v =>
      obtain ⟨hnumber, e, he, hiff⟩ := Value.exists_decimal_of_numberOfText? hread
      obtain rfl : d = e := Option.some.inj (hd.symm.trans he)
      refine hiff.mp (hfinite v ?_)
      obtain ⟨x, hx, -⟩ := hnumber.exists_number?
      exact (mem_numbers_iff_exists_numberAt hf (by rw [hx]; rfl)).mpr
        ⟨before, run, rest, hplace, hread⟩
  · intro v hv
    obtain ⟨before, run, rest, hplace, hread⟩ :=
      (mem_numbers_iff_exists_numberAt hf (mem_numbers_iff.mp hv).2).mp hv
    obtain ⟨-, d, hd, hiff⟩ := Value.exists_decimal_of_numberOfText? hread
    exact hiff.mpr (hrange before run rest d hplace hd)

/-- A fraction within the range and one beyond it in the same place, and the
least integer that is refused there. -/
theorem ofText_numbers_place :
    FractionAt "@.a == 2.5".toList "@.a == ".toList ['2', '.', '5'] [] ⟨false, 25, -1⟩ ∧
      FractionAt "@.a == 1e400".toList "@.a == ".toList
        ['1', 'e', '4', '0', '0'] [] ⟨false, 1, 400⟩ ∧
      (∃ f, ofText "@.a == 2.5" = .ok f) ∧
      (∃ f, ofText "@.a == 1e400" = .ok f ∧
        ∃ v ∈ f.numbers, ¬ v.Finite ∧ Operator.operandText v = "null") ∧
      NumberAt "@.a == 9223372036854775808".toList "@.a == ".toList
        (textOfInt 9223372036854775808).toList [] ∧
      ¬ IsInt64 9223372036854775808 ∧
      ofText "@.a == 9223372036854775808" =
        .error (.invalidPath "[?(@.a == 9223372036854775808)]"
          (.invalidNumber "9223372036854775808") (some 26)) := by
  have hnil : Blanks [] := Unicode.blanks_nil
  have hblank : Blanks [' '] := by decide
  have haccessor : Accessor ['.', 'a'] "a" := .name (by decide) (List.forall_mem_singleton.mpr rfl)
  have hbefore : BeforeOperand "@.a == ".toList := .here hnil haccessor hblank .equalTo hblank
  have hend : Ends PredicateReader.isNumberChar [] := by rintro c ⟨⟩
  have hsmall :
      FractionAt "@.a == 2.5".toList "@.a == ".toList ['2', '.', '5'] [] ⟨false, 25, -1⟩ :=
    ⟨⟨rfl, hbefore, ⟨_, _, rfl, .inr rfl⟩, List.all_eq_true.mp rfl, hend⟩, rfl, by decide⟩
  have hlarge : FractionAt "@.a == 1e400".toList "@.a == ".toList
      ['1', 'e', '4', '0', '0'] [] ⟨false, 1, 400⟩ :=
    ⟨⟨rfl, hbefore, ⟨_, _, rfl, .inr rfl⟩, List.all_eq_true.mp rfl, hend⟩, rfl, by decide⟩
  have hplace : NumberAt "@.a == 9223372036854775808".toList "@.a == ".toList
      (textOfInt 9223372036854775808).toList [] :=
    ⟨rfl, hbefore, head_textOfInt _, isNumberChar_textOfInt _, hend⟩
  have hread : ∃ f, ofText "@.a == 2.5" = .ok f := by
    obtain ⟨v, hv⟩ := hsmall.exists_numberOfText?
    refine ⟨⟨[⟨"a", .equalTo v⟩]⟩, ofText_eq_ok_iff.mpr ?_⟩
    have hoperand := Operand.number (.inr rfl) hsmall.row hv
    exact .last hnil (.node (.comparison haccessor hblank .equalTo hblank hoperand)) hnil
  obtain ⟨f, hf⟩ := ((ofText_numbers "@.a == 2.5").2.1 _ _ _ _ _ _ _ hsmall hlarge).mp hread
  obtain ⟨hnumbers, hfinite⟩ := (ofText_numbers "@.a == 1e400").2.2 f hf
  have hbeyond : ¬ (Decimal.mk false 1 400).magnitude < Binary64.limit := by
    rw [Decimal.magnitude, Nat.cast_one, one_mul, not_lt]
    exact Binary64.limit_le_zpow (n := 400) (by decide +kernel)
  have hinfinite : ∃ v ∈ f.numbers, ¬ v.Finite := by
    by_contra hall
    have hfinite := hfinite.mp fun v hv => not_not.mp fun h => hall ⟨v, hv, h⟩
    exact hbeyond (hfinite _ _ _ _ hlarge.toNumberAt hlarge.writes)
  obtain ⟨v, hv, hnot⟩ := hinfinite
  obtain ⟨-, -, -, -, -, -, -, -, hnull⟩ := hnumbers v hv
  have hwide : ¬ IsInt64 9223372036854775808 := by decide
  exact ⟨hsmall, hlarge, hread, ⟨f, hf, v, hv, hnot, hnull hnot⟩, hplace, hwide,
    (ofText_numbers "@.a == 9223372036854775808").1 _ _ _ _ hplace (writes_textOfInt _) hwide⟩

/-- A fraction beyond the range of floating point numbers is not refused. -/
theorem not_finite_numbers :
    ¬ ∀ source f, ofText source = .ok f → ∀ v ∈ f.numbers, v.Finite := by
  intro h
  have hnil : Blanks [] := Unicode.blanks_nil
  have hblank : Blanks [' '] := by decide
  have haccessor : Accessor ['.', 'a'] "a" := .name (by decide) (List.forall_mem_singleton.mpr rfl)
  have hnumber : PredicateReader.numberOfText? ['1', 'e', '4', '0', '0'] =
      some (.double (.ofMagnitude false Binary64.infinityMagnitude)) :=
    congrArg (Option.map Value.double)
      (show Binary64.ofText? ['1', 'e', '4', '0', '0'] =
        some (.ofMagnitude false Binary64.infinityMagnitude) by
        decide +kernel)
  have hoperand := Operand.number (.inr rfl) (List.all_eq_true.mp rfl) hnumber
  have hread : ofText "@.a == 1e400" =
      .ok ⟨[⟨"a", .equalTo (.double (.ofMagnitude false Binary64.infinityMagnitude))⟩]⟩ :=
    ofText_eq_ok_iff.mpr
      (.last hnil (.node (.comparison haccessor hblank .equalTo hblank hoperand)) hnil)
  have hfinite :=
    h _ _ hread _ (mem_numbers_iff.mpr ⟨⟨_, List.mem_cons_self, List.mem_cons_self⟩, rfl⟩)
  cases hfinite with
  | double hx => exact absurd hx (by decide)

end Filter
end DocPath

import DocPath.Proofs.Filter.Acceptance
import DocPath.Proofs.Filter.Inline
import DocPath.Proofs.Filter.NumericOrder
import DocPath.Proofs.Filter.Places
import DocPath.Proofs.Value.Conversion
import Mathlib.Algebra.Group.Int.Defs

/-! # Comparisons of integers

An integer is held in the narrowest width that it fits, and equality tells the
widths apart.  Documents and predicates come to the width each by itself, from a
JSON tree and from digits, and both come to the same one (`Value.Narrowest`).
So a predicate that compares a property with written digits compares integers as
they are, in all of 64 bits; beyond these its digits are no number
(`Filter.ofText_writtenAs`). -/

namespace DocPath

/-- The integers of 64 bits, which is what numbers without a point and without
an exponent are read as. -/
def IsInt64 (n : Int) : Prop := -2 ^ 63 ≤ n ∧ n < 2 ^ 63

instance (n : Int) : Decidable (IsInt64 n) := inferInstanceAs (Decidable (_ ∧ _))

variable {m n : Int}

/-- An integer is in the range exactly if a word of 64 bits is that integer. -/
theorem isInt64_iff_exists : IsInt64 n ↔ ∃ k : Int64, k.toInt = n := by
  constructor
  · rintro ⟨hlow, hhigh⟩
    exact ⟨Int64.ofInt n, Int64.toInt_ofInt_of_le hlow hhigh⟩
  · rintro ⟨k, rfl⟩
    exact ⟨k.le_toInt, k.toInt_lt⟩

theorem int64OfInt?_eq_none (h : ¬ IsInt64 n) : int64OfInt? n = none := by
  rw [Option.eq_none_iff_forall_ne_some]
  intro k hk
  exact h (isInt64_iff_exists.mpr ⟨k, int64OfInt?_eq_some_iff.mp hk⟩)

/-- An integer out of the range cannot be read as a number: without a point or
an exponent it is not taken for a fraction. -/
theorem numberOfText?_eq_none {text : List Char} (h : Writes text n) (hn : ¬ IsInt64 n) :
    PredicateReader.numberOfText? text = none := by
  rw [numberOfText?_of_writes h, int64OfInt?_eq_none hn, Option.map_none]

namespace Value

/-- An integer in the narrowest width that it fits.  Both the reader of
predicates and that of documents choose this width, so equal integers meet in
the same one. -/
inductive Narrowest : Value → Int → Prop
  | int (k : Int32) : Narrowest (.int k) k.toInt
  | long {k : Int64} : int32OfInt? k.toInt = none → Narrowest (.long k) k.toInt

variable {a b : Value}

/-- An integer in the range has a narrowest width. -/
theorem narrowest_ofInteger (h : IsInt64 n) : Narrowest (ofInteger n) n := by
  obtain ⟨k, rfl⟩ := isInt64_iff_exists.mp h
  unfold ofInteger
  split
  · next j hj =>
    rw [← int32OfInt?_eq_some_iff.mp hj]
    exact .int j
  · next hnarrow =>
    rw [int64OfInt?_eq_some_iff.mpr rfl]
    exact .long hnarrow

namespace Narrowest

theorem isNumber (h : Narrowest a n) : a.IsNumber := by
  cases h with
  | int k => exact .int k
  | long _ => exact .long _

/-- An integer in its narrowest width is the integer that it stands for. -/
theorem integer? (h : Narrowest a n) : a.integer? = some n := by
  cases h <;> rfl

/-- The width is a function of the integer, so that equality, which tells the
widths apart, is that of the integers. -/
theorem equal_iff (ha : Narrowest a m) (hb : Narrowest b n) : a.equal b = true ↔ m = n := by
  have hwidths : ∀ {j : Int32} {k : Int64}, int32OfInt? k.toInt = none → k.toInt ≠ j.toInt := by
    intro j k hk he
    rw [he, int32OfInt?_eq_some_iff.mpr rfl] at hk
    cases hk
  cases ha with
  | int j =>
    cases hb with
    | int k => simp [equal, Int32.toInt_inj]
    | long hk => simp [equal, (hwidths hk).symm]
  | long hj =>
    cases hb with
    | int k => simp [equal, hwidths hj]
    | long hk => simp [equal, Int64.toInt_inj]

/-- In their narrowest widths integers are ordered as they are, whatever the
widths. -/
theorem below_iff (ha : Narrowest a m) (hb : Narrowest b n) : Below a b ↔ m < n :=
  below_iff_lt ha.integer? hb.integer?

end Narrowest

end Value

/-- The comparisons that predicates know, by the relation that each of them asks
for. -/
inductive Comparison where
  | equalTo | notEqualTo | less | lessOrEqual | greater | greaterOrEqual
deriving DecidableEq

namespace Comparison

open PredicateReader (Accessor NumberAt Sign Stops)
open Unicode (Blanks)
open Value (Narrowest)

/-- The sign of a comparison in a predicate, by which it is told apart. -/
def sign : Comparison → List Char
  | equalTo => ['=', '=']
  | notEqualTo => ['!', '=']
  | less => ['<']
  | lessOrEqual => ['<', '=']
  | greater => ['>']
  | greaterOrEqual => ['>', '=']

/-- The operator that a comparison with a value stands for, in the filter that a
predicate is read as. -/
def operator : Comparison → Value → Operator
  | equalTo => .equalTo
  | notEqualTo => .notEqualTo
  | less => .less
  | lessOrEqual => .lessOrEqual
  | greater => .greater
  | greaterOrEqual => .greaterOrEqual

/-- What a comparison means between integers, the property coming first: the
order among all integers, without a width. -/
def Holds : Comparison → Int → Int → Prop
  | equalTo, m, n => m = n
  | notEqualTo, m, n => m ≠ n
  | less, m, n => m < n
  | lessOrEqual, m, n => m ≤ n
  | greater, m, n => n < m
  | greaterOrEqual, m, n => n ≤ m

/-- The texts of a predicate that compares the property under a key with an
integer: an accessor for the key, the sign and the decimal text, each perhaps
after blanks. -/
inductive WrittenAs (r : Comparison) (key : String) (n : Int) : List Char → Prop
  | intro {b t c d : List Char} : Blanks b → Accessor t key → Blanks c → Blanks d →
      WrittenAs r key n (b ++ '@' :: (t ++ (c ++ (r.sign ++ (d ++ (textOfInt n).toList)))))

/-- The text with the key in single quotes, in which every key can be
written. -/
def text (r : Comparison) (key : String) (n : Int) : List Char :=
  Criterion.nodeText key ++ ' ' :: (r.sign ++ ' ' :: (textOfInt n).toList)

variable {r : Comparison} {key : String} {a b : Value} {text blanks : List Char}

theorem sign_operator (r : Comparison) : Sign r.sign r.operator := by
  cases r <;> constructor

/-- The text with the key in quotes is one of those that write the
comparison. -/
theorem writtenAs_text (r : Comparison) (key : String) (n : Int) :
    r.WrittenAs key n (r.text key n) := by
  have hblank : Blanks [' '] := by simp [Blanks, Unicode.isBlank]
  exact .intro Unicode.blanks_nil (accessor_quoted key) hblank hblank

/-- Integers in their narrowest widths are compared as they are.  For the tests
of equality this rests on the width being the same for equal integers. -/
theorem accepts_iff_holds (r : Comparison) (ha : Narrowest a m) (hb : Narrowest b n) :
    (r.operator b).accepts (some a) = true ↔ r.Holds m n := by
  cases r with
  | equalTo => exact ha.equal_iff hb
  | notEqualTo =>
    show (!a.equal b) = true ↔ m ≠ n
    rw [Bool.not_eq_true', ← Bool.not_eq_true, ha.equal_iff hb]
  | less => exact (Operator.accepts_less_iff ha.isNumber hb.isNumber).trans (ha.below_iff hb)
  | greater => exact (Operator.accepts_greater_iff ha.isNumber hb.isNumber).trans (hb.below_iff ha)
  | lessOrEqual =>
    have h := Operator.accepts_lessOrEqual_iff ha.isNumber hb.isNumber
    rw [hb.below_iff ha, Int.not_lt] at h
    exact h
  | greaterOrEqual =>
    have h := Operator.accepts_greaterOrEqual_iff ha.isNumber hb.isNumber
    rw [ha.below_iff hb, Int.not_lt] at h
    exact h

/-! ## Digits within 64 bits -/

/-- In the range every text that writes a comparison is read as the one
criterion. -/
theorem WrittenAs.ofText_eq_ok {source : String} (hn : IsInt64 n) (h : r.WrittenAs key n text)
    (hblanks : Blanks blanks) (hsource : source.toList = text ++ blanks) :
    Filter.ofText source = .ok ⟨[⟨key, r.operator (.ofInteger n)⟩]⟩ := by
  obtain ⟨k, rfl⟩ := isInt64_iff_exists.mp hn
  cases h with
  | intro hb ht hc hd =>
    rw [Filter.ofText_eq_ok_iff, hsource, List.append_assoc]
    exact .last hb (.node (.comparison ht hc r.sign_operator hd (operand_textOfInt k))) hblanks

/-! ## Digits beyond 64 bits -/

/-- The decimal text stands where the predicate compares with a number, and ends
with the predicate, so the error has the position after its last digit. -/
theorem WrittenAs.exists_numberAt (h : r.WrittenAs key n text) (hblanks : Blanks blanks) :
    ∃ before, text = before ++ (textOfInt n).toList ∧
      NumberAt (text ++ blanks) before (textOfInt n).toList blanks := by
  have hstops : Stops blanks := .inl (List.dropWhile_eq_nil_iff.mpr hblanks)
  cases h with
  | @intro b t c d hb ht hc hd =>
    refine ⟨b ++ '@' :: (t ++ (c ++ (r.sign ++ d))), by simp, ?_⟩
    exact {
      split := by simp
      before := .here hb ht hc r.sign_operator hd
      head := head_textOfInt n
      row := isNumberChar_textOfInt n
      ends := hstops.ends (by decide) fun _ => PredicateReader.isBlank_of_isNumberChar }

/-- Out of the range every text that writes a comparison is refused after its
integer, with the integer named. -/
theorem WrittenAs.ofText_eq_error {source : String} (hn : ¬ IsInt64 n) (h : r.WrittenAs key n text)
    (hblanks : Blanks blanks) (hsource : source.toList = text ++ blanks) :
    Filter.ofText source =
      .error (.invalidPath ("[?(" ++ source ++ ")]") (.invalidNumber (textOfInt n))
        (some text.length)) := by
  have hnone := numberOfText?_eq_none (writes_textOfInt n) hn
  obtain ⟨before, rfl, hplace⟩ := h.exists_numberAt hblanks
  rw [← hsource] at hplace
  rw [Filter.ofText_eq_error_of_numberAt hplace hnone, String.ofList_toList]

end Comparison

namespace Filter

open Unicode (Blanks)

/-- **A predicate that compares a property with an integer compares integers**,
whatever the key, the comparison and the two integers of 64 bits: it is read,
and it accepts the document of a JSON object exactly if the comparison holds
between the integer that the object has under the key and the one that is
written.  An integer beyond 64 bits is refused where its digits end. -/
theorem ofText_writtenAs (r : Comparison) (key : String) (n : Int) :
    r.WrittenAs key n (r.text key n) ∧
      ∀ (source : String) (text blanks : List Char), source.toList = text ++ blanks →
        r.WrittenAs key n text → Blanks blanks →
          (IsInt64 n → ∃ f, ofText source = .ok f ∧
            ∀ (entries : List (String × Json.Tree)) (m : Int), IsInt64 m →
              entries.lookup key = some (.integer m) →
                (f.accepts (.ofTree (.object entries)) = true ↔ r.Holds m n)) ∧
          (¬ IsInt64 n → ofText source = .error (.invalidPath ("[?(" ++ source ++ ")]")
            (.invalidNumber (textOfInt n)) (some text.length))) := by
  refine ⟨r.writtenAs_text key n, fun source text blanks hsource htext hblanks =>
    ⟨fun hn => ?_, fun hn => ?_⟩⟩
  · refine ⟨_, htext.ofText_eq_ok hn hblanks hsource, fun entries m hm hentry => ?_⟩
    have hget : (Value.ofTree (.object entries)).get? key = some (.ofInteger m) := by
      rw [Value.get?_ofTree, hentry]
      rfl
    rw [accepts_iff, List.forall_mem_singleton, Criterion.accepts_of_get? hget]
    exact r.accepts_iff_holds (Value.narrowest_ofInteger hm) (Value.narrowest_ofInteger hn)
  · exact htext.ofText_eq_error hn hblanks hsource

/-- The least integer that takes 64 bits is written, and its neighbour takes 32.
The greatest integer of 64 bits has a neighbour that takes more. -/
theorem ofText_writtenAs_widths :
    Comparison.equalTo.WrittenAs "it's )]" 2147483648 " @[ \"it's )]\" ]==2147483648".toList ∧
      Blanks [' '] ∧ IsInt64 2147483648 ∧ IsInt64 2147483647 ∧ ¬ IsInt64 9223372036854775808 ∧
      (∃ f, ofText " @[ \"it's )]\" ]==2147483648 " = .ok f ∧
        f.accepts (.ofTree (.object [("a", .null), ("it's )]", .integer 2147483648)])) = true ∧
        ¬ f.accepts (.ofTree (.object [("it's )]", .integer 2147483647)])) = true) ∧
      ofText "@['n'] <= 9223372036854775808" =
        .error (.invalidPath "[?(@['n'] <= 9223372036854775808)]"
          (.invalidNumber "9223372036854775808") (some 29)) := by
  have hblank : Blanks [' '] := by simp [Blanks, Unicode.isBlank]
  have htext : Comparison.equalTo.WrittenAs "it's )]" 2147483648
      " @[ \"it's )]\" ]==2147483648".toList := by
    have hkey := PredicateReader.Accessor.quoted hblank
      (Quoted.literal_literal '"' (by decide) "it's )]".toList) hblank
    exact .intro hblank hkey Unicode.blanks_nil Unicode.blanks_nil
  have hn : IsInt64 2147483648 := by decide
  have hm : IsInt64 2147483647 := by decide
  have hwide : ¬ IsInt64 9223372036854775808 := by decide
  obtain ⟨f, hf, haccepts⟩ := ((ofText_writtenAs .equalTo "it's )]" 2147483648).2
    " @[ \"it's )]\" ]==2147483648 " _ _ rfl htext hblank).1 hn
  obtain ⟨htextWide, hread⟩ := ofText_writtenAs .lessOrEqual "n" 9223372036854775808
  refine ⟨htext, hblank, hn, hm, hwide, ⟨f, hf, ?_, ?_⟩, ?_⟩
  · exact (haccepts _ _ hn rfl).mpr rfl
  · rw [haccepts _ _ hm rfl]
    show ¬ (2147483647 : Int) = 2147483648
    decide
  · exact (hread "@['n'] <= 9223372036854775808" _ [] rfl htextWide Unicode.blanks_nil).2 hwide

end Filter

end DocPath

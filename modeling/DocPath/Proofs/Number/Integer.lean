import DocPath.Number.Integer
import DocPath.Unicode.Blank

/-! # Written integers

`Writes` says which texts write an integer.  Reading succeeds on these and on no
other (`intOfText?_eq_some_iff`), within the width (`int64OfText?_eq_some_iff`),
and the decimal text of an integer is one of them (`writes_textOfInt`). -/

namespace DocPath

/-- A row of decimal digits that is not empty.  Zeros may come first. -/
structure DigitRow (ds : List Char) : Prop where
  ne_nil : ds ≠ []
  isDigit : ∀ c ∈ ds, c.isDigit = true

/-- The texts of an integer: digits after an optional sign, which may be a plus
sign. -/
inductive Writes : List Char → Int → Prop
  | plain {ds : List Char} : DigitRow ds → Writes ds (natOfDigits ds)
  | plus {ds : List Char} : DigitRow ds → Writes ('+' :: ds) (natOfDigits ds)
  | minus {ds : List Char} : DigitRow ds → Writes ('-' :: ds) (-(natOfDigits ds : Int))

variable {text ds : List Char} {n : Int}

/-- A text is read as a natural number exactly if it consists of digits and
holds one. -/
theorem natOfDigits?_eq_some_iff {n : Nat} :
    natOfDigits? ds = some n ↔ DigitRow ds ∧ n = natOfDigits ds := by
  unfold natOfDigits?
  split
  · next h =>
    simp only [Bool.and_eq_true, Bool.not_eq_true', List.isEmpty_eq_false_iff,
      List.all_eq_true] at h
    simp only [Option.some.injEq, show DigitRow ds from ⟨h.1, h.2⟩, true_and]
    exact eq_comm
  · next h =>
    simp only [reduceCtorEq, false_iff, not_and]
    intro hd
    exact absurd (by simpa [hd.ne_nil] using hd.isDigit) h

/-- The same among the integers, where signs are put in front. -/
theorem intOfDigits?_eq_some_iff :
    ((do return (← natOfDigits? ds)) : Option Int) = some n ↔
      DigitRow ds ∧ n = (natOfDigits ds : Int) := by
  simp only [Option.bind_eq_bind, Option.bind_eq_some_iff, natOfDigits?_eq_some_iff]
  constructor
  · rintro ⟨m, ⟨hd, rfl⟩, he⟩
    exact ⟨hd, (Option.some.inj he).symm⟩
  · rintro ⟨hd, rfl⟩
    exact ⟨natOfDigits ds, ⟨hd, rfl⟩, rfl⟩

theorem DigitRow.head_isDigit {c : Char} (h : DigitRow (c :: ds)) : c.isDigit = true :=
  h.isDigit c (List.mem_cons_self ..)

/-- An integer is read from exactly the texts that write it: digits with a sign
of either kind or without one. -/
theorem intOfText?_eq_some_iff : intOfText? text = some n ↔ Writes text n := by
  constructor
  · intro h
    unfold intOfText? at h
    split at h <;> obtain ⟨m, hm, rfl⟩ := Option.map_eq_some_iff.mp h <;>
      obtain ⟨hd, rfl⟩ := intOfDigits?_eq_some_iff.mp hm
    · exact .minus hd
    · exact .plus hd
    · exact .plain hd
  · intro h
    cases h with
    | plain hd =>
      unfold intOfText?
      -- digits begin with no sign
      split
      · exact absurd hd.head_isDigit (by decide)
      · exact absurd hd.head_isDigit (by decide)
      · rw [intOfDigits?_eq_some_iff.mpr ⟨hd, rfl⟩]; rfl
    | plus hd => rw [intOfText?, intOfDigits?_eq_some_iff.mpr ⟨hd, rfl⟩]; rfl
    | minus hd => rw [intOfText?, intOfDigits?_eq_some_iff.mpr ⟨hd, rfl⟩]; rfl

/-! ## Widths -/

/-- An integer fits into 64 bits exactly if a word of 64 bits is that
integer. -/
theorem int64OfInt?_eq_some_iff {k : Int64} : int64OfInt? n = some k ↔ k.toInt = n := by
  unfold int64OfInt?
  constructor
  · intro h
    split at h
    · next hr =>
      cases h
      rw [Int64.toInt_minValue, Int64.toInt_maxValue] at hr
      exact Int64.toInt_ofInt_of_le hr.1 (by omega)
    · cases h
  · rintro rfl
    rw [if_pos ⟨k.minValue_le_toInt, k.toInt_le⟩, Int64.ofInt_toInt]

/-- An integer fits into 32 bits exactly if a word of 32 bits is that
integer. -/
theorem int32OfInt?_eq_some_iff {k : Int32} : int32OfInt? n = some k ↔ k.toInt = n := by
  unfold int32OfInt?
  constructor
  · intro h
    split at h
    · next hr =>
      cases h
      rw [Int32.toInt_minValue, Int32.toInt_maxValue] at hr
      exact Int32.toInt_ofInt_of_le hr.1 (by omega)
    · cases h
  · rintro rfl
    rw [if_pos ⟨k.minValue_le_toInt, k.toInt_le⟩, Int32.ofInt_toInt]

/-- An integer of 64 bits is read from the texts that write its value. -/
theorem int64OfText?_eq_some_iff {k : Int64} :
    int64OfText? text = some k ↔ Writes text k.toInt := by
  rw [int64OfText?, Option.bind_eq_some_iff]
  constructor
  · rintro ⟨m, hm, hk⟩
    rw [int64OfInt?_eq_some_iff.mp hk]
    exact intOfText?_eq_some_iff.mp hm
  · intro h
    exact ⟨k.toInt, intOfText?_eq_some_iff.mpr h, int64OfInt?_eq_some_iff.mpr rfl⟩

/-! ## The decimal text -/

theorem digits_toDigits (n : Nat) : DigitRow (Nat.toDigits 10 n) where
  ne_nil := Nat.toDigits_ne_nil
  isDigit _ hc := Nat.isDigit_of_mem_toDigits (by decide) (by decide) hc

/-- A natural number is read back from the digits that it is written with. -/
theorem natOfDigits_toDigits (n : Nat) : natOfDigits (Nat.toDigits 10 n) = n := by
  have h := Nat.ofDigitChars_ten_toDigits (n := n)
  rwa [Nat.ofDigitChars_eq_foldl] at h

theorem writes_textOfInt (n : Int) : Writes (textOfInt n).toList n := by
  have hd := digits_toDigits n.natAbs
  unfold textOfInt
  split
  · next h =>
    have hw := Writes.minus hd
    rw [natOfDigits_toDigits, show -(n.natAbs : Int) = n by omega] at hw
    simpa using hw
  · next h =>
    have hw := Writes.plain hd
    rw [natOfDigits_toDigits, show (n.natAbs : Int) = n by omega] at hw
    simpa using hw

/-- The decimal text begins with a minus sign or with a digit. -/
theorem head_textOfInt (n : Int) :
    ∃ c u, (textOfInt n).toList = c :: u ∧ (c = '-' ∨ c.isDigit = true) := by
  obtain ⟨d, ds, hds⟩ := List.exists_cons_of_ne_nil (digits_toDigits n.natAbs).ne_nil
  have hdigit := (digits_toDigits n.natAbs).isDigit d (by rw [hds]; exact List.mem_cons_self ..)
  unfold textOfInt
  split
  · exact ⟨'-', d :: ds, by simp [hds], .inl rfl⟩
  · exact ⟨d, ds, by simp [hds], .inr hdigit⟩

/-! ## The characters of integers -/

/-- A character that can stand in the text of an integer.  None of these is a
blank, a comma or a colon, so integers end where a list or a slice goes on. -/
def IsIntegerChar (c : Char) : Prop := c.isDigit = true ∨ c = '+' ∨ c = '-'

instance (c : Char) : Decidable (IsIntegerChar c) :=
  inferInstanceAs (Decidable (c.isDigit = true ∨ c = '+' ∨ c = '-'))

theorem Writes.ne_nil (h : Writes text n) : text ≠ [] := by
  cases h with
  | plain hd => exact hd.ne_nil
  | plus _ | minus _ => exact List.cons_ne_nil _ _

/-- An integer is written with digits and a sign only. -/
theorem Writes.isIntegerChar (h : Writes text n) : ∀ c ∈ text, IsIntegerChar c := by
  intro c hc
  cases h with
  | plain hd => exact .inl (hd.isDigit c hc)
  | plus hd =>
    rcases List.mem_cons.mp hc with rfl | hc
    · exact .inr (.inl rfl)
    · exact .inl (hd.isDigit c hc)
  | minus hd =>
    rcases List.mem_cons.mp hc with rfl | hc
    · exact .inr (.inr rfl)
    · exact .inl (hd.isDigit c hc)

theorem IsIntegerChar.ne {c d : Char} (hc : IsIntegerChar c) (hd : ¬ IsIntegerChar d) : c ≠ d := by
  rintro rfl
  exact hd hc

theorem isBlank_of_isDigit {c : Char} (h : c.isDigit = true) : Unicode.isBlank c = false := by
  rw [Char.isDigit_iff_toNat] at h
  have h0 : '0'.toNat = 48 := rfl
  have h9 : '9'.toNat = 57 := rfl
  simp [Unicode.isBlank]
  omega

/-- No character of an integer is a blank, so its text is not trimmed. -/
theorem IsIntegerChar.isBlank {c : Char} (h : IsIntegerChar c) : Unicode.isBlank c = false := by
  rcases h with h | rfl | rfl
  · exact isBlank_of_isDigit h
  · decide
  · decide

theorem textOfInt_isIntegerChar (n : Int) : ∀ c ∈ (textOfInt n).toList, IsIntegerChar c :=
  (writes_textOfInt n).isIntegerChar

end DocPath

import DocPath.Text.Quoted
import DocPath.Unicode.Blank

/-! # Spellings between quotes

A literal spells each of its characters: by the character itself, by a backslash
and a sign, or by its code point.  `read_eq_ok_iff` says that reading a literal
succeeds on the spelled texts and on no other, and undoes the spelling.
`escape` is the spelling that escapes only what has to be. -/

namespace DocPath.Quoted

/-- The spellings of a character between two quotes: itself if it is neither the
quote nor a backslash, a backslash and a sign for it, or its code point. -/
inductive Spelling (quote : Char) : Char → List Char → Prop
  | itself {c : Char} : c ≠ quote → c ≠ '\\' → Spelling quote c [c]
  | sign {e c : Char} : escaped? e = some c → Spelling quote c ['\\', e]
  | codePoint {w x y z c : Char} :
      codePoint? [w, x, y, z] = some c → Spelling quote c ['\\', 'u', w, x, y, z]

/-- A text that spells characters one after the other, so the same name has many
such texts. -/
inductive Spells (quote : Char) : List Char → List Char → Prop
  | nil : Spells quote [] []
  | cons {c : Char} {cs s body : List Char} :
      Spelling quote c s → Spells quote cs body → Spells quote (c :: cs) (s ++ body)

/-- A whole literal: a spelled name between two quotes of one kind.  A quote of
the other kind may stand in it as it is. -/
def Literal (literal name : List Char) : Prop :=
  ∃ quote body, isQuote quote = true ∧ Spells quote name body ∧ literal = quote :: (body ++ [quote])

variable {quote c : Char} {start : Nat} {cs s body text rest : List Char}

theorem isQuote_iff : isQuote c = true ↔ c = '\'' ∨ c = '"' := by
  simp [isQuote]

theorem isBlank_of_isQuote (hq : isQuote quote = true) : Unicode.isBlank quote = false := by
  rcases isQuote_iff.mp hq with rfl | rfl <;> rfl

theorem ne_backslash_of_isQuote (hq : isQuote quote = true) : quote ≠ '\\' := by
  rintro rfl
  revert hq
  decide

/-- Reading takes one spelling at a time: the character is put in front of
whatever is read from the rest. -/
theorem read_spelling (hq : quote ≠ '\\') (h : Spelling quote c s) :
    read quote start (s ++ rest) = (read quote start rest).map fun (cs, text) =>
      (c :: cs, text) := by
  rw [read.eq_def]
  -- a spelling of two or more characters begins with a backslash, which is no quote
  cases h with
  | itself hc hb => simp [hc, hb]
  | sign he => simp [hq.symm, he]
  | codePoint hp =>
    have hu : escaped? 'u' = none := rfl
    simp [hq.symm, hp, hu]

theorem read_close : read quote start (quote :: rest) = .ok ([], rest) := by
  rw [read.eq_def]
  simp

theorem read_of_spells (hq : quote ≠ '\\') (h : Spells quote cs body) :
    read quote start (body ++ quote :: rest) = .ok (cs, rest) := by
  induction h with
  | nil => exact read_close
  | cons hs _ ih =>
    rw [List.append_assoc, read_spelling hq hs, ih]
    rfl

/-- One more spelling in front of a spelled text. -/
theorem exists_spells_cons (hs : Spelling quote c s)
    (h : ∃ body, text = body ++ quote :: rest ∧ Spells quote cs body) :
    ∃ body, s ++ text = body ++ quote :: rest ∧ Spells quote (c :: cs) body := by
  obtain ⟨body, rfl, hb⟩ := h
  exact ⟨s ++ body, by simp, hb.cons hs⟩

theorem spells_of_read (h : read quote start text = .ok (cs, rest)) :
    ∃ body, text = body ++ quote :: rest ∧ Spells quote cs body := by
  fun_induction read quote start text generalizing cs with
  | case1 | case3 | case6 | case7 | case8 => cases h
  | case2 text =>
    cases h
    exact ⟨[], rfl, .nil⟩
  | case4 e text d he hq ih =>
    obtain ⟨⟨cs', text'⟩, hr, heq⟩ := eq_ok_of_map_eq_ok h
    cases heq
    exact exists_spells_cons (.sign he) (ih hr)
  | case5 w x y z text d hp hq hu ih =>
    obtain ⟨⟨cs', text'⟩, hr, heq⟩ := eq_ok_of_map_eq_ok h
    cases heq
    exact exists_spells_cons (.codePoint hp) (ih hr)
  | case9 e text hq hb ih =>
    obtain ⟨⟨cs', text'⟩, hr, heq⟩ := eq_ok_of_map_eq_ok h
    cases heq
    exact exists_spells_cons (.itself hq hb) (ih hr)

/-- **Reading a literal undoes its spelling**, and reads nothing but
spellings. -/
theorem read_eq_ok_iff (hq : quote ≠ '\\') :
    read quote start text = .ok (cs, rest) ↔
      ∃ body, text = body ++ quote :: rest ∧ Spells quote cs body := by
  constructor
  · exact spells_of_read
  · rintro ⟨body, rfl, h⟩
    exact read_of_spells hq h

/-- Together with its opening quote, what is read is a literal. -/
theorem read_eq_ok_iff_literal (start : Nat) (hq : isQuote quote = true) :
    read quote start text = .ok (cs, rest) ↔ ∃ l, quote :: text = l ++ rest ∧ Literal l cs := by
  rw [read_eq_ok_iff (ne_backslash_of_isQuote hq)]
  constructor
  · rintro ⟨body, rfl, hs⟩
    exact ⟨quote :: (body ++ [quote]), by simp, quote, body, hq, hs, rfl⟩
  · rintro ⟨l, he, quote', body, -, hs, rfl⟩
    obtain ⟨rfl, he⟩ := List.cons.inj he
    exact ⟨body, by simpa using he, hs⟩

/-- The four characters of a code point are hexadecimal digits, or a plus sign
and three of them. -/
theorem isHexDigit_of_codePoint? {c : Char} (h : codePoint? cs = some c) :
    ∀ d ∈ cs, isHexDigit d = true ∨ d = '+' := by
  obtain ⟨n, hn, -⟩ := Option.bind_eq_some_iff.mp h
  intro d hd
  unfold hexNumber? at hn
  simp only [Option.ite_none_right_eq_some, Bool.and_eq_true, List.all_eq_true] at hn
  obtain ⟨⟨-, hall⟩, -⟩ := hn
  split at hall
  · rcases List.mem_cons.mp hd with rfl | hd
    · exact .inr rfl
    · exact .inl (hall d hd)
  · exact .inl (hall d hd)

/-! ## The shortest way to escape -/

/-- The characters with a backslash before each backslash and each quote.  All
others are left as they are, line ends included. -/
def escape (quote : Char) (cs : List Char) : List Char :=
  cs.flatMap fun c => if c = '\\' ∨ c = quote then ['\\', c] else [c]

/-- The characters, escaped, between two quotes: one literal for each name and
each quote. -/
def literal (quote : Char) (cs : List Char) : List Char :=
  quote :: (escape quote cs ++ [quote])

theorem escaped?_self (hq : isQuote quote = true) (h : c = '\\' ∨ c = quote) :
    escaped? c = some c := by
  rcases h with rfl | rfl
  · rfl
  · rcases isQuote_iff.mp hq with rfl | rfl <;> rfl

theorem spells_escape (hq : isQuote quote = true) (cs : List Char) :
    Spells quote cs (escape quote cs) := by
  induction cs with
  | nil => exact .nil
  | cons c cs ih =>
    refine ih.cons ?_
    show Spelling quote c (if c = '\\' ∨ c = quote then ['\\', c] else [c])
    split
    · next h => exact .sign (escaped?_self hq h)
    · next h => exact .itself (fun hc => h (.inr hc)) (fun hc => h (.inl hc))

theorem literal_literal (quote : Char) (hq : isQuote quote = true) (cs : List Char) :
    Literal (literal quote cs) cs :=
  ⟨quote, escape quote cs, hq, spells_escape hq cs, rfl⟩

end DocPath.Quoted

import DocPath.Proofs.Outcome
import DocPath.Proofs.Text.Quoted
import Mathlib.Data.List.Forall2
import Mathlib.Data.Nat.Digits.Defs
import Mathlib.Tactic.IntervalCases

/-! # Forms of a character in a literal

Between quotes a character stands for itself, after a backslash by a sign, or by
the four digits of its code point.  `Form` says so on its own, digit by digit.
Reading takes a character in each of these forms and in one more, a code point
of three digits after a plus sign (`spelling_iff`), and where none of them
stands it stops and says why (`read_eq_error_iff`). -/

namespace DocPath.Quoted

open Unicode (hexDigitValue)

/-- A digit in base sixteen, in lower or upper case, and its value, which is
less than sixteen. -/
def HexDigit (d : Char) (n : Nat) : Prop :=
  n < 16 ∧ (d = Nat.digitChar n ∨ d = (Nat.digitChar n).toUpper)

/-- A row of digits in base sixteen, the most significant one first, and the
number that it writes. -/
def Hex (digits : List Char) (n : Nat) : Prop :=
  ∃ ns, List.Forall₂ HexDigit digits ns ∧ Nat.ofDigits 16 ns.reverse = n

/-- The signs that may stand after a backslash, and what they mean.  The sign of
a code point is not among them, as digits follow it. -/
def signs : List (Char × Char) :=
  [('\'', '\''), ('"', '"'), ('\\', '\\'), ('/', '/'), ('b', '\x08'), ('f', '\x0C'), ('n', '\n'),
    ('r', '\r'), ('t', '\t')]

/-- The forms of a character between quotes: itself, a sign after a backslash,
or the four digits of its code point. -/
inductive Form (quote : Char) : Char → List Char → Prop
  | itself {c : Char} : c ≠ quote → c ≠ '\\' → Form quote c [c]
  | sign {e c : Char} : (e, c) ∈ signs → Form quote c ['\\', e]
  | code {w x y z c : Char} : Hex [w, x, y, z] c.toNat → Form quote c ['\\', 'u', w, x, y, z]

/-- A code point of three digits after a plus sign.  The four characters are
read as a number, and numbers may have a sign. -/
inductive SignedCode : Char → List Char → Prop
  | mk {x y z c : Char} : Hex [x, y, z] c.toNat → SignedCode c ['\\', 'u', '+', x, y, z]

/-- Where reading stops between quotes, at a text in which no character is in
one of its forms, and why.  `start` is what was left at the opening quote. -/
inductive Refused (start : Nat) : List Char → Stop → Prop
  | unclosed : Refused start [] ⟨.unterminatedQuote, start⟩
  | cut : Refused start ['\\'] ⟨.unterminatedQuote, start⟩
  | sign {e : Char} {rest : List Char} : (∀ c, (e, c) ∉ signs) → e ≠ 'u' →
      Refused start ('\\' :: e :: rest) ⟨.invalidEscape e, (e :: rest).length⟩
  | short {rest : List Char} : rest.length < 4 →
      Refused start ('\\' :: 'u' :: rest) ⟨.incompleteUnicode, ('u' :: rest).length⟩
  | code {w x y z : Char} {rest : List Char} :
      (∀ c : Char, ¬ Hex [w, x, y, z] c.toNat) → (∀ c : Char, w = '+' → ¬ Hex [x, y, z] c.toNat) →
        Refused start ('\\' :: 'u' :: w :: x :: y :: z :: rest)
          ⟨.invalidUnicode, ('u' :: w :: x :: y :: z :: rest).length⟩

/-- A text that writes characters one after the other, each in some form that
the relation allows for it. -/
def SpelledBy (forms : Char → List Char → Prop) (s text : List Char) : Prop :=
  ∃ parts, List.Forall₂ forms s parts ∧ text = parts.flatten

variable {quote c d e : Char} {start n : Nat} {s cs ds body text rest : List Char}

/-! ## Digits in base sixteen -/

instance (d : Char) (n : Nat) : Decidable (HexDigit d n) :=
  inferInstanceAs (Decidable (_ ∧ _))

/-- The hexadecimal digits are among the first 128 characters, so what is said
of them can be computed. -/
theorem toNat_of_isHexDigit (h : isHexDigit d = true) : d.toNat < 128 := by
  simp only [isHexDigit, Bool.or_eq_true, Bool.and_eq_true, decide_eq_true_eq, Char.le_def,
    UInt32.le_iff_toNat_le, Char.toNat_val] at h
  have h9 : '9'.toNat = 57 := rfl
  have hf : 'f'.toNat = 102 := rfl
  have hF : 'F'.toNat = 70 := rfl
  omega

/-- The reader takes exactly the hexadecimal digits for digits, and with their
values. -/
theorem hexDigit_iff : HexDigit d n ↔ isHexDigit d = true ∧ hexDigitValue d = n := by
  constructor
  · rintro ⟨hn, rfl | rfl⟩ <;> interval_cases n <;> exact ⟨rfl, rfl⟩
  · rintro ⟨hd, rfl⟩
    have hascii : ∀ k < 128, isHexDigit (Char.ofNat k) = true →
        HexDigit (Char.ofNat k) (hexDigitValue (Char.ofNat k)) := by decide
    have hdigit := hascii d.toNat (toNat_of_isHexDigit hd)
    rw [Char.ofNat_toNat] at hdigit
    exact hdigit hd

/-- A row of digits and the row of their values, as the reader has them. -/
theorem forall₂_hexDigit_iff {ns : List Nat} :
    List.Forall₂ HexDigit ds ns ↔ (∀ d ∈ ds, isHexDigit d = true) ∧ ds.map hexDigitValue = ns := by
  induction ds generalizing ns with
  | nil =>
    rw [List.forall₂_nil_left_iff, eq_comm]
    simp
  | cons d ds ih =>
    rw [List.forall₂_cons_left_iff]
    simp only [hexDigit_iff, ih, List.forall_mem_cons, List.map_cons]
    constructor
    · rintro ⟨n, ns', ⟨hd, rfl⟩, ⟨hds, rfl⟩, rfl⟩
      exact ⟨⟨hd, hds⟩, rfl⟩
    · rintro ⟨⟨hd, hds⟩, rfl⟩
      exact ⟨_, _, ⟨hd, rfl⟩, ⟨hds, rfl⟩, rfl⟩

/-- Reading digit by digit gives the number that the digits write, in either
case of the letters. -/
theorem hex_iff :
    Hex ds n ↔ (∀ d ∈ ds, isHexDigit d = true) ∧
      ds.foldl (fun n d => 16 * n + hexDigitValue d) 0 = n := by
  have hfold : Nat.ofDigits 16 (ds.map hexDigitValue).reverse =
      ds.foldl (fun n d => 16 * n + hexDigitValue d) 0 := by
    simp [Nat.ofDigits_eq_foldr, List.foldr_reverse, List.foldl_map, Nat.add_comm]
  unfold Hex
  simp only [forall₂_hexDigit_iff]
  rw [← hfold]
  constructor
  · rintro ⟨_, ⟨hds, rfl⟩, hn⟩
    exact ⟨hds, hn⟩
  · rintro ⟨hds, hn⟩
    exact ⟨_, ⟨hds, rfl⟩, hn⟩

theorem not_hex_plus : ¬ Hex ('+' :: ds) n := by
  intro h
  have hplus := (hex_iff.mp h).1 '+' (List.mem_cons_self ..)
  exact absurd hplus (by decide)

/-- A number is read from digits, and also from digits after a plus sign. -/
theorem hexNumber?_eq_some_iff :
    hexNumber? cs = some n ↔
      cs ≠ [] ∧ Hex cs n ∨ ∃ ds, cs = '+' :: ds ∧ ds ≠ [] ∧ Hex ds n := by
  have hdigits : ∀ ds : List Char, (if !ds.isEmpty && ds.all isHexDigit then
      some (ds.foldl (fun n c => 16 * n + hexDigitValue c) 0) else none) = some n ↔
        ds ≠ [] ∧ Hex ds n := by
    intro ds
    rw [hex_iff]
    simp [and_assoc]
  unfold hexNumber?
  split
  · next ds =>
    rw [hdigits]
    constructor
    · exact fun h => .inr ⟨ds, rfl, h⟩
    · rintro (⟨-, h⟩ | ⟨ds', he, h⟩)
      · exact absurd h not_hex_plus
      · cases he
        exact h
  · next hplus =>
    rw [hdigits]
    constructor
    · exact .inl
    · rintro (h | ⟨ds, rfl, -⟩)
      · exact h
      · exact absurd rfl (hplus ds)

/-- What four characters after a backslash and a `u` mean: the code point of
four digits, or of three after a plus sign. -/
theorem codePoint?_eq_some_iff {w x y z : Char} :
    codePoint? [w, x, y, z] = some c ↔
      Hex [w, x, y, z] c.toNat ∨ w = '+' ∧ Hex [x, y, z] c.toNat := by
  have hvalid : ∀ n : Nat, (if n.isValidChar then some (Char.ofNat n) else none) = some c ↔
      n = c.toNat := by
    intro n
    rw [Option.ite_none_right_eq_some]
    constructor
    · rintro ⟨hn, he⟩
      rw [← Option.some.inj he, show Char.ofNat n = Char.ofNatAux n hn from dif_pos hn]
      rfl
    · rintro rfl
      exact ⟨c.valid, congrArg some (Char.ofNat_toNat c)⟩
  simp only [codePoint?, Option.bind_eq_some_iff, hvalid, exists_eq_right, hexNumber?_eq_some_iff]
  constructor
  · rintro (⟨-, h⟩ | ⟨ds, he, -, h⟩)
    · exact .inl h
    · cases he
      exact .inr ⟨rfl, h⟩
  · rintro (h | ⟨rfl, h⟩)
    · exact .inl ⟨List.cons_ne_nil _ _, h⟩
    · exact .inr ⟨_, rfl, List.cons_ne_nil _ _, h⟩

/-! ## Forms of a character -/

/-- The signs after a backslash and the characters that they stand for. -/
theorem escaped?_eq_some_iff : escaped? e = some c ↔ (e, c) ∈ signs := by
  constructor
  · intro h
    unfold escaped? at h
    split at h <;> cases h <;> decide
  · intro h
    simp only [signs, List.mem_cons, List.not_mem_nil, or_false, Prod.mk.injEq] at h
    rcases h with ⟨rfl, rfl⟩ | ⟨rfl, rfl⟩ | ⟨rfl, rfl⟩ | ⟨rfl, rfl⟩ | ⟨rfl, rfl⟩ | ⟨rfl, rfl⟩ |
      ⟨rfl, rfl⟩ | ⟨rfl, rfl⟩ | ⟨rfl, rfl⟩ <;> rfl

/-- Reading takes a character in each of its forms, and in one more: as a code
point with a sign. -/
theorem spelling_iff : Spelling quote c s ↔ Form quote c s ∨ SignedCode c s := by
  constructor
  · intro h
    cases h with
    | itself hc hb => exact .inl (.itself hc hb)
    | sign he => exact .inl (.sign (escaped?_eq_some_iff.mp he))
    | codePoint hp =>
      rcases codePoint?_eq_some_iff.mp hp with h | ⟨rfl, h⟩
      · exact .inl (.code h)
      · exact .inr (.mk h)
  · rintro (h | h)
    · cases h with
      | itself hc hb => exact .itself hc hb
      | sign he => exact .sign (escaped?_eq_some_iff.mpr he)
      | code h => exact .codePoint (codePoint?_eq_some_iff.mpr (.inl h))
    · cases h with
      | mk h => exact .codePoint (codePoint?_eq_some_iff.mpr (.inr ⟨rfl, h⟩))

/-! ## Texts of several characters -/

theorem SpelledBy.mono {F G : Char → List Char → Prop} (h : SpelledBy F s text)
    (hFG : ∀ c p, F c p → G c p) : SpelledBy G s text := by
  obtain ⟨parts, hparts, rfl⟩ := h
  exact ⟨parts, hparts.imp hFG, rfl⟩

theorem spelledBy_nil {F : Char → List Char → Prop} : SpelledBy F [] text ↔ text = [] := by
  simp [SpelledBy]

/-- A text is spelled by a spelling of its first character and one of the
rest. -/
theorem spelledBy_cons {F : Char → List Char → Prop} :
    SpelledBy F (c :: s) text ↔ ∃ p body, F c p ∧ SpelledBy F s body ∧ text = p ++ body := by
  constructor
  · rintro ⟨parts, hparts, rfl⟩
    obtain ⟨p, ps, hp, hps, rfl⟩ := List.forall₂_cons_left_iff.mp hparts
    exact ⟨p, ps.flatten, hp, ⟨ps, hps, rfl⟩, rfl⟩
  · rintro ⟨p, _, hp, ⟨ps, hps, rfl⟩, rfl⟩
    exact ⟨p :: ps, .cons hp hps, rfl⟩

/-- The body of a literal as a row of spellings, one for each character. -/
theorem spells_iff : Spells quote s body ↔ SpelledBy (Spelling quote) s body := by
  constructor
  · intro h
    induction h with
    | nil => exact spelledBy_nil.mpr rfl
    | cons hc _ ih => exact spelledBy_cons.mpr ⟨_, _, hc, ih, rfl⟩
  · intro h
    induction s generalizing body with
    | nil => rw [spelledBy_nil.mp h]; exact .nil
    | cons c s ih =>
      obtain ⟨p, rest, hp, hrest, rfl⟩ := spelledBy_cons.mp h
      exact .cons hp (ih hrest)

/-! ## Literals that are refused -/

/-- A backslash before a character that is no sign is a fault. -/
theorem escaped?_eq_none_iff : escaped? e = none ↔ ∀ c, (e, c) ∉ signs := by
  rw [Option.eq_none_iff_forall_ne_some]
  exact forall_congr' fun c => not_congr escaped?_eq_some_iff

/-- Four characters are no code point exactly if they are not the digits of one,
and not a plus sign and the digits of one. -/
theorem codePoint?_eq_none_iff {w x y z : Char} :
    codePoint? [w, x, y, z] = none ↔
      (∀ c : Char, ¬ Hex [w, x, y, z] c.toNat) ∧ ∀ c : Char, w = '+' → ¬ Hex [x, y, z] c.toNat := by
  rw [Option.eq_none_iff_forall_ne_some, ← forall_and]
  refine forall_congr' fun c => ?_
  rw [ne_eq, codePoint?_eq_some_iff, not_or, not_and]

/-- A text with a fault is refused at the place of its first one, with this
fault. -/
theorem Refused.read_eq_error {stop : Stop} (hq : quote ≠ '\\') (h : Refused start text stop) :
    read quote start text = .error stop := by
  rw [read.eq_def]
  cases h with
  | unclosed => rfl
  | cut => simp [hq.symm]
  | sign he hu => simp [hq.symm, escaped?_eq_none_iff.mpr he, hu]
  | @short rest hlen =>
    have hu : escaped? 'u' = none := rfl
    simp only [hq.symm, hu, ite_true, ite_false]
    split
    · simp at hlen
      omega
    · rfl
  | code hd hp =>
    have hu : escaped? 'u' = none := rfl
    simp [hq.symm, hu, codePoint?_eq_none_iff.mpr ⟨hd, hp⟩]

/-- One more spelling in front of a text that is refused: the fault and its
place are found further on. -/
theorem exists_refused_cons {stop : Stop} (hs : Spelling quote c s)
    (h : ∃ cs body tail, Spells quote cs body ∧ text = body ++ tail ∧ Refused start tail stop) :
    ∃ cs body tail, Spells quote cs body ∧ s ++ text = body ++ tail ∧ Refused start tail stop := by
  obtain ⟨cs, body, tail, hbody, rfl, htail⟩ := h
  exact ⟨c :: cs, s ++ body, tail, .cons hs hbody, by rw [List.append_assoc], htail⟩

/-- A text that does not begin with four characters is shorter than that. -/
theorem length_lt_four
    (h : ∀ (w x y z : Char) (rest : List Char), text ≠ w :: x :: y :: z :: rest) :
    text.length < 4 := by
  match text with
  | [] | [_] | [_, _] | [_, _, _] => simp
  | w :: x :: y :: z :: rest => exact absurd rfl (h w x y z rest)

/-- **Reading a literal fails at the first place where no character is
spelled.** -/
theorem read_eq_error_iff {stop : Stop} (hq : quote ≠ '\\') :
    read quote start text = .error stop ↔
      ∃ cs body tail, Spells quote cs body ∧ text = body ++ tail ∧ Refused start tail stop := by
  constructor
  · intro h
    -- reading goes on after a spelling, and stops where there is none
    fun_induction read quote start text with
    | case1 =>
      cases h
      exact ⟨[], [], [], .nil, rfl, .unclosed⟩
    | case2 => cases h
    | case3 =>
      cases h
      exact ⟨[], [], _, .nil, rfl, .cut⟩
    | case4 e text d he hq ih =>
      exact exists_refused_cons (.sign he) (ih (map_eq_error_iff.mp h))
    | case5 w x y z text d hp hq hu ih =>
      exact exists_refused_cons (.codePoint hp) (ih (map_eq_error_iff.mp h))
    | case6 w x y z text hp hq hu =>
      cases h
      obtain ⟨hd, hplus⟩ := codePoint?_eq_none_iff.mp hp
      exact ⟨[], [], _, .nil, rfl, .code hd hplus⟩
    | case7 rest hshort hq hu =>
      cases h
      exact ⟨[], [], _, .nil, rfl, .short (length_lt_four hshort)⟩
    | case8 e rest he hu hq =>
      cases h
      exact ⟨[], [], _, .nil, rfl, .sign (escaped?_eq_none_iff.mp he) hu⟩
    | case9 e text hq hb ih =>
      exact exists_refused_cons (.itself hq hb) (ih (map_eq_error_iff.mp h))
  · rintro ⟨cs, body, tail, hbody, rfl, htail⟩
    induction hbody with
    | nil => exact htail.read_eq_error hq
    | cons hs _ ih => rw [List.append_assoc, read_spelling hq hs, ih]; rfl

end DocPath.Quoted

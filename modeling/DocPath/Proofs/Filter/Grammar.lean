import DocPath.Filter.Reader
import DocPath.Proofs.Number.Integer
import DocPath.Proofs.Outcome
import DocPath.Proofs.Text.Quoted
import DocPath.Proofs.Text.Run
import DocPath.Proofs.Text.Trim

/-! # The grammar of predicates

A predicate is a row of terms between blanks, joined by `&&`.  `Operand`, `Sign`
and `Accessor` are the parts of terms, `Term` puts them together, and
`Conjunction` is a whole predicate.  The reader follows this grammar
(`terms_eq_ok_iff`). -/

namespace DocPath.PredicateReader

open Quoted (isQuote Literal)
open Unicode (isBlank trimStart Blanks)

/-- A literal, with its value: a string in quotes of either kind, a number as
the reader takes it, or one of three words. -/
inductive Operand : List Char → Value → Prop
  | string {literal cs : List Char} :
      Literal literal cs → Operand literal (.string (String.ofList cs))
  | word {word : List Char} {v : Value} :
      valueOfWord? (String.ofList word) = some v → Operand word v
  | number {c : Char} {run : List Char} {v : Value} :
      c = '-' ∨ c.isDigit = true → (∀ d ∈ c :: run, isNumberChar d = true) →
        numberOfText? (c :: run) = some v → Operand (c :: run) v

/-- The sign of a comparison, with the operator that it makes of an operand. -/
inductive Sign : List Char → (Value → Operator) → Prop
  | equalTo : Sign ['=', '='] .equalTo
  | notEqualTo : Sign ['!', '='] .notEqualTo
  | lessOrEqual : Sign ['<', '='] .lessOrEqual
  | greaterOrEqual : Sign ['>', '='] .greaterOrEqual
  | less : Sign ['<'] .less
  | greater : Sign ['>'] .greater

/-- What names a property of the node, with its key: a dot and a bare name,
which nothing can escape, or brackets around a literal with blanks at either end
of it. -/
inductive Accessor : List Char → String → Prop
  | name {name : List Char} :
      name ≠ [] → (∀ c ∈ name, endsName c = false) → Accessor ('.' :: name) (String.ofList name)
  | quoted {b literal name a : List Char} :
      Blanks b → Literal literal name → Blanks a →
        Accessor ('[' :: (b ++ (literal ++ (a ++ [']'])))) (String.ofList name)

/-- What follows the sign of the node, with the criterion that it means.  Only
the question whether a property is there can be negated. -/
inductive Test : (negated : Bool) → List Char → Criterion → Prop
  | present {negated : Bool} {t : List Char} {key : String} :
      Accessor t key → Test negated t ⟨key, .present !negated⟩
  | comparison {t b s a l : List Char} {key : String} {operator : Value → Operator} {v : Value} :
      Accessor t key → Blanks b → Sign s operator → Blanks a → Operand l v →
        Test false (t ++ (b ++ (s ++ (a ++ l)))) ⟨key, operator v⟩

/-- A term, with its criterion.  A negation stands before the sign of the node,
and asks that the property is absent. -/
inductive Term : List Char → Criterion → Prop
  | node {t : List Char} {c : Criterion} : Test false t c → Term ('@' :: t) c
  | negated {b t : List Char} {c : Criterion} :
      Blanks b → Test true t c → Term ('!' :: (b ++ '@' :: t)) c

/-- A row of terms with ampersands between them, and their criteria in the same
order.  Blanks may stand on both sides of each term. -/
inductive Conjunction : List Char → List Criterion → Prop
  | last {b t a : List Char} {c : Criterion} :
      Blanks b → Term t c → Blanks a → Conjunction (b ++ (t ++ a)) [c]
  | more {b t a rest : List Char} {c : Criterion} {cs : List Criterion} :
      Blanks b → Term t c → Blanks a → Conjunction rest cs →
        Conjunction (b ++ (t ++ (a ++ '&' :: '&' :: rest))) (c :: cs)

/-- What may follow a term: blanks, and then the end or the next term.  Whatever
belongs to a term can be told from what comes after it by its first
character. -/
def Stops (rest : List Char) : Prop :=
  trimStart rest = [] ∨ ∃ more, trimStart rest = '&' :: '&' :: more

variable {text rest after l s t b cs : List Char} {v : Value} {key : String}
  {operator : Value → Operator} {c : Criterion} {negated : Bool}

/-- Where a term may stop, the text is at its end or goes on with a blank or an
ampersand. -/
theorem Stops.head (h : Stops rest) {c : Char} (hc : rest.head? = some c) :
    isBlank c = true ∨ c = '&' := by
  by_cases hb : isBlank c = true
  · exact .inl hb
  · have hself : trimStart rest = rest :=
      Unicode.trimStart_eq_self fun d hd => by
        rw [hc] at hd
        cases hd
        simpa using hb
    rw [Stops, hself] at h
    rcases h with rfl | ⟨more, rfl⟩
    · cases hc
    · cases hc
      exact .inr rfl

/-- A run that holds neither blanks nor `&` ends where a term may stop.  Names,
numbers and words are such runs, so none of them takes in what follows a
term. -/
theorem Stops.ends {p : Char → Bool} (h : Stops rest) (hand : p '&' = false)
    (hblank : ∀ c, p c = true → isBlank c = false) : Ends p rest := by
  intro c hc
  rcases h.head hc with hb | rfl
  · rw [Bool.eq_false_iff]
    intro hp
    rw [hblank c hp] at hb
    cases hb
  · exact hand

/-! ## Quoted literals -/

/-- The quote at the start of a literal tells it from everything else that may
stand there. -/
theorem head_of_literal (h : Literal l cs) :
    ∃ quote body, isQuote quote = true ∧ l = quote :: body := by
  obtain ⟨quote, body, hq, -, rfl⟩ := h
  exact ⟨quote, body ++ [quote], hq, rfl⟩

/-- After its quote a literal is read up to the quote that closes it, and
nothing beyond. -/
theorem quoted_eq_ok_iff {quote : Char} (hq : isQuote quote = true) :
    quoted quote text = .ok (cs, rest) ↔ ∃ l, quote :: text = l ++ rest ∧ Literal l cs := by
  rw [← Quoted.read_eq_ok_iff_literal (text.length + 1) hq, quoted]
  split
  · next h => simp [h]
  · next h => rw [h, Except.ok.injEq, Except.ok.injEq]

/-- A literal is read at the start of a text exactly if the text begins with
one. -/
theorem quoted?_eq_ok_iff :
    quoted? text = some (.ok (cs, rest)) ↔ ∃ l, text = l ++ rest ∧ Literal l cs := by
  unfold quoted?
  split
  · rw [Option.some.injEq]
    exact quoted_eq_ok_iff (by decide)
  · rw [Option.some.injEq]
    exact quoted_eq_ok_iff (by decide)
  · next hsingle hdouble =>
    refine iff_of_false (by simp) ?_
    rintro ⟨l, rfl, hl⟩
    obtain ⟨quote, body, hq, rfl⟩ := head_of_literal hl
    rcases Quoted.isQuote_iff.mp hq with rfl | rfl
    · exact hsingle _ rfl
    · exact hdouble _ rfl

theorem quoted?_literal (hl : Literal l cs) (rest : List Char) :
    quoted? (l ++ rest) = some (.ok (cs, rest)) :=
  quoted?_eq_ok_iff.mpr ⟨l, rfl, hl⟩

/-- No literal begins with a character that is no quote. -/
theorem quoted?_eq_none {c : Char} (h : isQuote c = false) : quoted? (c :: text) = none := by
  unfold quoted?
  split
  · next he => cases he; cases h
  · next he => cases he; cases h
  · rfl

/-- No blank in a literal is left out with the blanks in front of it. -/
theorem trimStart_blanks_literal (hb : Blanks b) (hl : Literal l cs) :
    trimStart (b ++ (l ++ rest)) = l ++ rest := by
  obtain ⟨quote, body, hq, rfl⟩ := head_of_literal hl
  exact Unicode.trimStart_blanks_cons hb (Quoted.isBlank_of_isQuote hq)

/-! ## Accessors -/

/-- A name of the grammar is read as a whole, if no character of a bare name
follows. -/
theorem accessor_of_grammar (h : Accessor t key) (hrest : Ends (fun c => !endsName c) rest) :
    accessor (t ++ rest) = .ok (key, rest) := by
  cases h with
  | @name name hne hname =>
    have hrun : ∀ c ∈ name, (!endsName c) = true := fun c hc => by simp [hname c hc]
    simp only [List.cons_append, accessor, takeWhile_run hrun hrest, dropWhile_run hrun hrest]
  | @quoted b literal name a hb hl ha =>
    have htext : '[' :: (b ++ (literal ++ (a ++ [']']))) ++ rest =
        '[' :: (b ++ (literal ++ (a ++ ']' :: rest))) := by simp
    rw [htext]
    simp only [accessor, trimStart_blanks_literal hb hl, quoted?_literal hl,
      Unicode.trimStart_blanks_cons ha (show isBlank ']' = false by decide)]

/-- What is read for a name is a name of the grammar at the start of the
text. -/
theorem grammar_of_accessor (h : accessor text = .ok (key, rest)) :
    ∃ t, text = t ++ rest ∧ Accessor t key := by
  unfold accessor at h
  split at h
  · next text =>
    have hsplit := List.takeWhile_append_dropWhile (p := (!endsName ·)) (l := text)
    have hrun : ∀ c ∈ text.takeWhile (!endsName ·), endsName c = false :=
      fun c hc => by simpa using mem_takeWhile hc
    split at h
    · cases h
    · next hne =>
      cases h
      refine ⟨'.' :: text.takeWhile (!endsName ·), ?_, .name hne hrun⟩
      rw [List.cons_append, hsplit]
  · next text =>
    obtain ⟨b, hb, htext⟩ := Unicode.exists_blanks_trimStart text
    simp only at h
    split at h
    · cases h
    · cases h
    · next name after hq =>
      obtain ⟨literal, hinside, hl⟩ := quoted?_eq_ok_iff.mp hq
      obtain ⟨a, ha, hafter⟩ := Unicode.exists_blanks_trimStart after
      split at h
      · next hclose =>
        cases h
        refine ⟨_, ?_, .quoted hb hl ha⟩
        rw [htext, hinside, hafter, hclose]
        simp
      · cases h
  · cases h

/-! ## Operands -/

/-- Only three words mean a value. -/
theorem word_of_valueOfWord? {word : List Char} (h : valueOfWord? (String.ofList word) = some v) :
    word = "true".toList ∨ word = "false".toList ∨ word = "null".toList := by
  unfold valueOfWord? at h
  split at h
  · next he => exact .inl (by rw [← he, String.toList_ofList])
  · next he => exact .inr (.inl (by rw [← he, String.toList_ofList]))
  · next he => exact .inr (.inr (by rw [← he, String.toList_ofList]))
  · cases h

/-- The letters lie between the capital A and the small z, though not all that
lies there is a letter. -/
theorem toNat_of_isAlpha {c : Char} (h : c.isAlpha = true) : 65 ≤ c.toNat ∧ c.toNat ≤ 122 := by
  have hcase : (c.isUpper || c.isLower) = true := h
  rcases Bool.or_eq_true_iff.mp hcase with hupper | hlower
  · have hrange : 'A'.val ≤ c.val ∧ c.val ≤ 'Z'.val := of_decide_eq_true hupper
    have hlow : 65 ≤ c.toNat := UInt32.le_iff_toNat_le.mp hrange.1
    have hhigh : c.toNat ≤ 90 := UInt32.le_iff_toNat_le.mp hrange.2
    omega
  · have hrange : ('a'.val ≤ c.val && c.val ≤ 'z'.val) = true := hlower
    rw [Bool.and_eq_true, decide_eq_true_eq, decide_eq_true_eq] at hrange
    have hlow : 97 ≤ c.toNat := UInt32.le_iff_toNat_le.mp hrange.1
    have hhigh : c.toNat ≤ 122 := UInt32.le_iff_toNat_le.mp hrange.2
    omega

theorem isBlank_of_isAlpha {c : Char} (h : c.isAlpha = true) : isBlank c = false := by
  have hrange := toNat_of_isAlpha h
  simp [isBlank]
  omega

/-- No character of a number is a blank, so its text is not trimmed. -/
theorem isBlank_of_isNumberChar {c : Char} (h : isNumberChar c = true) : isBlank c = false := by
  simp only [isNumberChar, Bool.or_eq_true, beq_iff_eq] at h
  rcases h with ((((h | rfl) | rfl) | rfl) | rfl) | rfl
  · exact isBlank_of_isDigit h
  all_goals decide

/-- What begins with a minus sign or a digit is read as a number, or not at
all. -/
theorem literal_number {c : Char} (h : c = '-' ∨ c.isDigit = true) :
    literal (c :: text) = number (c :: text) := by
  have hquote : isQuote c = false := by
    rw [Bool.eq_false_iff]
    intro hq
    rcases Quoted.isQuote_iff.mp hq with rfl | rfl <;> rcases h with h | h <;> cases h
  simp only [literal, quoted?_eq_none hquote, if_pos h]

theorem literal_word {c : Char} (h : c.isAlpha = true) :
    literal (c :: text) = word (c :: text) := by
  have hquote : isQuote c = false := by
    rw [Bool.eq_false_iff]
    intro hq
    rcases Quoted.isQuote_iff.mp hq with rfl | rfl <;> cases h
  have hnumber : ¬ (c = '-' ∨ c.isDigit = true) := by
    rintro (rfl | hd)
    · cases h
    · rw [Char.isDigit_iff_toNat] at hd
      have hrange := toNat_of_isAlpha h
      have h9 : '9'.toNat = 57 := rfl
      omega
  simp only [literal, quoted?_eq_none hquote, if_neg hnumber, if_pos h]

/-- An operand of the grammar is read as a whole, if a term may stop after
it. -/
theorem literal_of_grammar (h : Operand t v) (hrest : Stops rest) :
    literal (t ++ rest) = .ok (v, rest) := by
  cases h with
  | string hl =>
    simp only [literal, quoted?_literal hl]
    rfl
  | word hv =>
    have hends : Ends Char.isAlpha rest := hrest.ends (by decide) fun _ => isBlank_of_isAlpha
    have hall : ∀ c ∈ t, c.isAlpha = true := by
      rcases word_of_valueOfWord? hv with rfl | rfl | rfl <;> exact List.all_eq_true.mp (by decide)
    cases t with
    | nil => cases hv
    | cons c t =>
      rw [List.cons_append, literal_word (hall c (List.mem_cons_self ..)), ← List.cons_append]
      simp only [word, takeWhile_run hall hends, dropWhile_run hall hends, hv]
  | @number c run _ hc hall hv =>
    have hends : Ends isNumberChar rest := hrest.ends (by decide) fun _ => isBlank_of_isNumberChar
    rw [List.cons_append, literal_number hc, ← List.cons_append]
    simp only [number, takeWhile_run hall hends, dropWhile_run hall hends, hv]

/-- What is read for an operand is one of the grammar at the start of the
text. -/
theorem grammar_of_literal (h : literal text = .ok (v, rest)) :
    ∃ t, text = t ++ rest ∧ Operand t v := by
  unfold literal at h
  split at h
  · next result hq =>
    obtain ⟨⟨cs, rest'⟩, rfl, he⟩ := map_eq_ok_iff.mp h
    cases he
    obtain ⟨l, htext, hl⟩ := quoted?_eq_ok_iff.mp hq
    exact ⟨l, htext, .string hl⟩
  · split at h
    · cases h
    · next c text _ =>
      split at h
      · next hc =>
        have hpos : isNumberChar c = true := by
          rcases hc with rfl | hd
          · rfl
          · simp [isNumberChar, hd]
        simp only [number, List.takeWhile_cons_of_pos hpos] at h
        split at h
        · next hv =>
          cases h
          refine ⟨c :: text.takeWhile isNumberChar, ?_, .number hc ?_ hv⟩
          · rw [← List.takeWhile_cons_of_pos hpos, List.takeWhile_append_dropWhile]
          · exact List.forall_mem_cons.mpr ⟨hpos, fun _ hd => mem_takeWhile hd⟩
        · cases h
      · split at h
        · simp only [word] at h
          split at h
          · next hv =>
            cases h
            exact ⟨_, List.takeWhile_append_dropWhile.symm, .word hv⟩
          · cases h
        · cases h

/-- An operand begins with a character that is no blank and that makes no sign
of comparison longer. -/
theorem Operand.head (h : Operand t v) : ∃ c u, t = c :: u ∧ isBlank c = false ∧ c ≠ '=' := by
  cases h with
  | string hl =>
    obtain ⟨quote, body, hq, rfl⟩ := head_of_literal hl
    refine ⟨quote, body, rfl, Quoted.isBlank_of_isQuote hq, ?_⟩
    rcases Quoted.isQuote_iff.mp hq with rfl | rfl <;> decide
  | word hv =>
    rcases word_of_valueOfWord? hv with rfl | rfl | rfl <;>
      exact ⟨_, _, rfl, by decide, by decide⟩
  | @number c run _ hc hall hv =>
    refine ⟨c, run, rfl, isBlank_of_isNumberChar (hall c (List.mem_cons_self ..)), ?_⟩
    rintro rfl
    rcases hc with hc | hc <;> cases hc

/-! ## Signs -/

/-- The longest sign is read, so an equals sign after a sign of one character
would belong to it. -/
theorem comparison?_of_grammar (h : Sign s operator) (hrest : rest.head? ≠ some '=') :
    comparison? (s ++ rest) = some (operator, rest) := by
  cases h with
  | equalTo | notEqualTo | lessOrEqual | greaterOrEqual => rfl
  | less | greater =>
    cases rest with
    | nil => rfl
    | cons c rest =>
      have hc : c ≠ '=' := fun he => hrest (by rw [he]; rfl)
      simp [comparison?, hc]

/-- What is read for a sign is one of the grammar at the start of the text. -/
theorem grammar_of_comparison? (h : comparison? text = some (operator, rest)) :
    ∃ s, text = s ++ rest ∧ Sign s operator := by
  unfold comparison? at h
  split at h
  · cases h; exact ⟨['=', '='], rfl, .equalTo⟩
  · cases h; exact ⟨['!', '='], rfl, .notEqualTo⟩
  · cases h; exact ⟨['<', '='], rfl, .lessOrEqual⟩
  · cases h; exact ⟨['>', '='], rfl, .greaterOrEqual⟩
  · cases h; exact ⟨['<'], rfl, .less⟩
  · cases h; exact ⟨['>'], rfl, .greater⟩
  · cases h

/-- Blanks and the head of an operand make no sign longer.  Only an equals sign
could, and no operand begins with one. -/
theorem comparison?_sign {a : List Char} {d : Char} (hs : Sign s operator) (ha : Blanks a)
    (heq : d ≠ '=') :
    comparison? (s ++ (a ++ d :: text)) = some (operator, a ++ d :: text) := by
  refine comparison?_of_grammar hs fun h => ?_
  rcases Unicode.head_blanks_append ha h with h | h
  · exact absurd h (by decide)
  · exact heq (Option.some.inj h)

/-- After a sign and blanks stands the operand, with which no longer sign
begins. -/
theorem comparisonOf_sign {a : List Char} {d : Char} (hs : Sign s operator) (ha : Blanks a)
    (hblank : isBlank d = false) (heq : d ≠ '=') :
    comparisonOf key false (s ++ (a ++ d :: text)) =
      (literal (d :: text)).map fun (operand, rest) => (⟨key, operator operand⟩, rest) := by
  simp only [comparisonOf, comparison?_sign hs ha heq, Unicode.trimStart_blanks_cons ha hblank]
  rfl

/-- A sign, blanks and an operand are read as a comparison with the operand. -/
theorem comparisonOf_of_grammar {a : List Char} (hs : Sign s operator) (ha : Blanks a)
    (hl : Operand l v) (hrest : Stops rest) :
    comparisonOf key false (s ++ (a ++ (l ++ rest))) = .ok (⟨key, operator v⟩, rest) := by
  have hread := literal_of_grammar hl hrest
  obtain ⟨d, u, rfl, hblank, heq⟩ := hl.head
  rw [List.cons_append] at hread ⊢
  rw [comparisonOf_sign hs ha hblank heq, hread]
  rfl

theorem Sign.head (h : Sign s operator) : ∃ c u, s = c :: u ∧ isBlank c = false := by
  cases h <;> exact ⟨_, _, rfl, by decide⟩

/-! ## Terms -/

/-- A text that may stand after an accessor: its first character ends a bare
name, and it goes on with no property of the property. -/
def Apart (text : List Char) : Prop :=
  ∀ c, text.head? = some c → endsName c = true ∧ c ≠ '.' ∧ c ≠ '['

theorem apart_of_isBlank {c : Char} (h : isBlank c = true) :
    endsName c = true ∧ c ≠ '.' ∧ c ≠ '[' :=
  ⟨by simp [endsName, h], Unicode.ne_of_isBlank h (by decide), Unicode.ne_of_isBlank h (by decide)⟩

/-- Where a term may stop, a name ends. -/
theorem Stops.apart (h : Stops rest) : Apart rest := by
  intro c hc
  rcases h.head hc with hb | rfl
  · exact apart_of_isBlank hb
  · decide

/-- A name ends at a sign of comparison, with blanks before it or without. -/
theorem Sign.apart (h : Sign s operator) (hb : Blanks b) : Apart (b ++ (s ++ rest)) := by
  intro c hc
  rcases Unicode.head_blanks_append hb hc with hblank | hc
  · exact apart_of_isBlank hblank
  · cases h <;> cases hc <;> decide

/-- What follows the accessor is read by itself. -/
theorem termOf_of_accessor (hb : Blanks b) (h : accessor text = .ok (key, after))
    (hafter : Apart after) :
    termOf negated (b ++ '@' :: text) = comparisonOf key negated (trimStart after) := by
  simp only [termOf, Unicode.trimStart_blanks_cons hb (show isBlank '@' = false by decide), h]
  split
  · next he => cases he
  · next he => cases he; exact absurd rfl (hafter _ rfl).2.1
  · next he => cases he; exact absurd rfl (hafter _ rfl).2.2
  · next he => cases he; rfl

/-- After the name of a node the comparison is read, without the blanks before
its sign. -/
theorem termOf_accessor (hb : Blanks b) (h : Accessor t key) (hafter : Apart after) :
    termOf negated (b ++ '@' :: (t ++ after)) = comparisonOf key negated (trimStart after) := by
  have hends : Ends (fun c => !endsName c) after := fun c hc => by simp [(hafter c hc).1]
  exact termOf_of_accessor hb (accessor_of_grammar h hends) hafter

/-- The sign of a comparison is found behind the blanks that follow the name. -/
theorem termOf_sign {a : List Char} (hb : Blanks b) (h : Accessor t key) (ha : Blanks a)
    (hs : Sign s operator) :
    termOf negated (b ++ '@' :: (t ++ (a ++ (s ++ rest)))) =
      comparisonOf key negated (s ++ rest) := by
  rw [termOf_accessor hb h (hs.apart ha)]
  obtain ⟨d, u, rfl, hblank⟩ := hs.head
  rw [List.cons_append, Unicode.trimStart_blanks_cons ha hblank]

/-- A test is read up to where it stops, perhaps with the blanks there: these
are looked past for a sign, and left out when there is none. -/
theorem termOf_of_grammar (hb : Blanks b) (h : Test negated t c) (hrest : Stops rest) :
    ∃ after, termOf negated (b ++ '@' :: (t ++ rest)) = .ok (c, after) ∧
      trimStart after = trimStart rest := by
  cases h with
  | present hacc =>
    have hnone : comparison? (trimStart rest) = none := by
      rcases hrest with h | ⟨more, h⟩ <;> rw [h] <;> rfl
    -- looking for a comparison has skipped the blanks
    refine ⟨trimStart rest, ?_, Unicode.trimStart_trimStart rest⟩
    rw [termOf_accessor hb hacc hrest.apart]
    simp only [comparisonOf, hnone]
  | @comparison t b' s a l key operator v hacc hb' hs ha hl =>
    have htext : t ++ (b' ++ (s ++ (a ++ l))) ++ rest = t ++ (b' ++ (s ++ (a ++ (l ++ rest)))) := by
      simp only [List.append_assoc]
    refine ⟨rest, ?_, rfl⟩
    rw [htext, termOf_sign hb hacc hb' hs, comparisonOf_of_grammar hs ha hl hrest]

/-- What is read after a name says that the node is there, or compares it with
an operand. -/
theorem grammar_of_comparisonOf (hacc : Accessor t key)
    (h : comparisonOf key negated text = .ok (c, rest)) {b : List Char} (hb : Blanks b) :
    ∃ u a, Test negated u c ∧ Blanks a ∧ t ++ (b ++ text) = u ++ (a ++ rest) := by
  unfold comparisonOf at h
  split at h
  · -- without a comparison the blanks come after the term, otherwise they are part of it
    cases h
    exact ⟨t, b, .present hacc, hb, rfl⟩
  · next operator after hsign =>
    split at h
    · cases h
    · next hnegated =>
      obtain ⟨⟨v, rest'⟩, hl, he⟩ := map_eq_ok_iff.mp h
      cases he
      obtain ⟨s, rfl, hs⟩ := grammar_of_comparison? hsign
      obtain ⟨a, ha, hafter⟩ := Unicode.exists_blanks_trimStart after
      obtain ⟨l, htrim, hl⟩ := grammar_of_literal hl
      cases Bool.eq_false_iff.mpr hnegated
      refine ⟨_, [], .comparison hacc hb hs ha hl, Unicode.blanks_nil, ?_⟩
      rw [hafter, htrim]
      simp only [List.append_assoc, List.nil_append]

/-- What is read after a negation, or without one, begins with a node and ends
with what is said of it. -/
theorem grammar_of_termOf (h : termOf negated text = .ok (c, rest)) :
    ∃ b t a, Blanks b ∧ Test negated t c ∧ Blanks a ∧ text = b ++ '@' :: (t ++ (a ++ rest)) := by
  obtain ⟨b, hb, htext⟩ := Unicode.exists_blanks_trimStart text
  unfold termOf at h
  split at h
  · next inside hinside =>
    split at h
    · cases h
    · cases h
    · cases h
    · next key after _ _ hacc =>
      obtain ⟨t, rfl, ht⟩ := grammar_of_accessor hacc
      obtain ⟨a, ha, hafter⟩ := Unicode.exists_blanks_trimStart after
      obtain ⟨u, a', hu, ha', he⟩ := grammar_of_comparisonOf ht h ha
      refine ⟨b, u, a', hb, hu, ha', ?_⟩
      rw [htext, hinside, ← he, ← hafter]
  · cases h

/-- A term of the grammar is read up to where it may stop.  Blanks after it may
be left out or not, as the reader looks past them for a sign. -/
theorem term_of_grammar (h : Term t c) (hrest : Stops rest) :
    ∃ after, term (t ++ rest) = .ok (c, after) ∧ trimStart after = trimStart rest := by
  cases h with
  | node ht => exact termOf_of_grammar Unicode.blanks_nil ht hrest
  | @negated b u _ hb hu =>
    have htext : '!' :: (b ++ '@' :: u) ++ rest = '!' :: (b ++ '@' :: (u ++ rest)) := by simp
    rw [htext]
    exact termOf_of_grammar hb hu hrest

/-- A term that is read, with no blanks before it, is a term of the grammar.
Blanks that are read with it are none of its own. -/
theorem grammar_of_term (hhead : ∀ d, text.head? = some d → isBlank d = false)
    (h : term text = .ok (c, rest)) :
    ∃ t a, Term t c ∧ Blanks a ∧ text = t ++ (a ++ rest) := by
  unfold term at h
  split at h
  · obtain ⟨b, t, a, hb, ht, ha, rfl⟩ := grammar_of_termOf h
    exact ⟨'!' :: (b ++ '@' :: t), a, .negated hb ht, ha, by simp⟩
  · obtain ⟨b, t, a, hb, ht, ha, rfl⟩ := grammar_of_termOf h
    -- only after a sign of negation may blanks precede the node
    cases b with
    | nil => exact ⟨'@' :: t, a, .node ht, ha, rfl⟩
    | cons d b =>
      have hd := hb d (List.mem_cons_self ..)
      rw [hhead d rfl] at hd
      cases hd

theorem Term.head (h : Term t c) : ∃ d u, t = d :: u ∧ isBlank d = false := by
  cases h <;> exact ⟨_, _, rfl, by decide⟩

/-! ## Whole predicates -/

theorem terms_eq_error {stop : PredicateStop} (h : term (trimStart text) = .error stop) :
    terms text = .error stop := by
  rw [terms]
  split
  · next he =>
    rw [h] at he
    cases he
    rfl
  · next he => rw [h] at he; cases he

/-- What is read after a term: the other terms, if there are any.  Characters
that are neither blanks nor two ampersands are refused there. -/
def following (after : List Char) : Except PredicateStop (List Criterion) :=
  match trimStart after with
  | [] => .ok []
  | '&' :: '&' :: rest => terms rest
  | '|' :: '|' :: rest => fail .disjunction ('|' :: '|' :: rest)
  | c :: rest => fail (.unexpected c) (c :: rest)

/-- After the first term stands what follows a term: nothing, or a sign and
further terms. -/
theorem terms_eq_following (h : term (trimStart text) = .ok (c, after)) :
    terms text = (following after).map (c :: ·) := by
  rw [terms, following]
  split
  · next he => rw [h] at he; cases he
  · next he =>
    rw [h] at he
    cases he
    split
    · next hr => simp only [hr]; rfl
    · next hr => simp only [hr]
    · next hr => simp only [hr]; rfl
    · next hr => simp only [hr]; rfl

theorem terms_last (h : term (trimStart text) = .ok (c, after)) (hafter : trimStart after = []) :
    terms text = .ok [c] := by
  have hfollowing : following after = .ok [] := by simp only [following, hafter]
  rw [terms_eq_following h, hfollowing]
  rfl

theorem terms_more (h : term (trimStart text) = .ok (c, after))
    (hafter : trimStart after = '&' :: '&' :: rest) :
    terms text = (terms rest).map (c :: ·) := by
  have hfollowing : following after = terms rest := by simp only [following, hafter]
  rw [terms_eq_following h, hfollowing]

/-- A term and the sign after it are read, and then the terms after the sign. -/
theorem terms_term {a : List Char} (hb : Blanks b) (ht : Term t c) (ha : Blanks a)
    (rest : List Char) :
    terms (b ++ (t ++ (a ++ '&' :: '&' :: rest))) = (terms rest).map (c :: ·) := by
  have hstop : trimStart (a ++ '&' :: '&' :: rest) = '&' :: '&' :: rest :=
    Unicode.trimStart_blanks_cons ha (by decide)
  obtain ⟨after, hterm, hafter⟩ := term_of_grammar ht (.inr ⟨rest, hstop⟩)
  obtain ⟨d, u, rfl, hd⟩ := ht.head
  have htrim : trimStart (b ++ (d :: u ++ (a ++ '&' :: '&' :: rest))) =
      d :: u ++ (a ++ '&' :: '&' :: rest) := Unicode.trimStart_blanks_cons hb hd
  rw [← htrim] at hterm
  exact terms_more hterm (hafter.trans hstop)

/-- A row of terms of the grammar is read with all its criteria, in their
order. -/
theorem terms_of_grammar {criteria : List Criterion} (h : Conjunction text criteria) :
    terms text = .ok criteria := by
  induction h with
  | @last b t a c hb ht ha =>
    have hstop : trimStart a = [] := List.dropWhile_eq_nil_iff.mpr ha
    obtain ⟨after, hterm, hafter⟩ := term_of_grammar ht (.inl hstop)
    obtain ⟨d, u, rfl, hd⟩ := ht.head
    have htrim : trimStart (b ++ (d :: u ++ a)) = d :: u ++ a := Unicode.trimStart_blanks_cons hb hd
    rw [← htrim] at hterm
    exact terms_last hterm (hafter.trans hstop)
  | more hb ht ha _ ih =>
    rw [terms_term hb ht ha, ih]
    rfl

theorem grammar_of_terms {criteria : List Criterion} (h : terms text = .ok criteria) :
    Conjunction text criteria := by
  fun_induction terms text generalizing criteria with
  | case1 | case4 | case5 => cases h  -- no term, `||`, or anything else after a term
  | case2 text c after hterm hafter =>
    cases h
    obtain ⟨b, hb, htext⟩ := Unicode.exists_blanks_trimStart text
    obtain ⟨t, a, ht, ha, he⟩ := grammar_of_term (fun _ => Unicode.head_trimStart) hterm
    have hblank : Blanks after := List.dropWhile_eq_nil_iff.mp hafter
    rw [htext, he]
    exact .last hb ht (ha.append hblank)
  | case3 text c after hterm rest hafter ih =>
    obtain ⟨cs, hcs, rfl⟩ := map_eq_ok_iff.mp h
    obtain ⟨b, hb, htext⟩ := Unicode.exists_blanks_trimStart text
    obtain ⟨t, a, ht, ha, he⟩ := grammar_of_term (fun _ => Unicode.head_trimStart) hterm
    obtain ⟨a', ha', hrest⟩ := Unicode.exists_blanks_trimStart after
    rw [htext, he, hrest, hafter, ← List.append_assoc a]
    exact .more hb ht (ha.append ha') (ih hcs)

/-- **Reading takes the predicates of the grammar and no others**, with their
criteria in order. -/
theorem terms_eq_ok_iff {criteria : List Criterion} :
    terms text = .ok criteria ↔ Conjunction text criteria :=
  ⟨grammar_of_terms, terms_of_grammar⟩

end DocPath.PredicateReader

namespace DocPath.Filter

open PredicateReader (Conjunction)

/-- **A text is read as a filter exactly if it follows the grammar**, and then
as the filter of the criteria that its terms stand for. -/
theorem ofText_eq_ok_iff {source : String} {f : Filter} :
    ofText source = .ok f ↔ Conjunction source.toList f.criteria := by
  rw [← PredicateReader.terms_eq_ok_iff]
  simp only [ofText]
  split
  · next h =>
    rw [h, Except.ok.injEq, Except.ok.injEq]
    exact ⟨fun he => he ▸ rfl, fun he => by cases f; cases he; rfl⟩
  · next h => simp [h]

end DocPath.Filter

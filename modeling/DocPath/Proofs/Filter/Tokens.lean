import DocPath.Proofs.Filter.Grammar

/-! # Predicates token by token

The grammar of predicates cuts a text into parts without saying how long a part
may be.  Here each part stands in its place, before the text that follows it,
and is as long as possible there: names, words and numbers are maximal runs, a
sign is the longest one (`LongestSign`), and nothing is chained to an accessor.
`ofText_eq_ok_iff_placed` says that predicates are read in this way. -/

namespace DocPath.PredicateReader

open Quoted (isQuote Literal)
open Unicode (isBlank Blanks trimStart)

/-- The longest sign of a comparison at the head of a text, and the text after
it. -/
def LongestSign (text : List Char) (operator : Value → Operator) (rest : List Char) : Prop :=
  ∃ s, text = s ++ rest ∧ Sign s operator ∧
    ∀ s' operator', Sign s' operator' → s' <+: text → s'.length ≤ s.length

/-- A text that names no property of the property before it: it goes on neither
with a dot nor with a bracket. -/
def Unchained (text : List Char) : Prop := ∀ c, text.head? = some c → c ≠ '.' ∧ c ≠ '['

/-- What names a property of the node, with its key, at the head of a text.  A
bare name is a maximal run of the characters that names are written with. -/
inductive PlacedAccessor (isNameChar : Char → Bool) : List Char → String → List Char → Prop
  | name {name rest : List Char} :
      name ≠ [] → (∀ c ∈ name, isNameChar c = true) → Ends isNameChar rest →
        PlacedAccessor isNameChar ('.' :: (name ++ rest)) (String.ofList name) rest
  | quoted {b literal name a rest : List Char} :
      Blanks b → Literal literal name → Blanks a →
        PlacedAccessor isNameChar ('[' :: (b ++ (literal ++ (a ++ ']' :: rest))))
          (String.ofList name) rest

/-- A literal, with its value, at the head of a text.  Words and numbers are
maximal runs. -/
inductive PlacedOperand : List Char → Value → List Char → Prop
  | string {literal cs rest : List Char} :
      Literal literal cs → PlacedOperand (literal ++ rest) (.string (String.ofList cs)) rest
  | word {word rest : List Char} {v : Value} :
      (∀ c ∈ word, c.isAlpha = true) → Ends Char.isAlpha rest →
        valueOfWord? (String.ofList word) = some v → PlacedOperand (word ++ rest) v rest
  | number {c : Char} {run rest : List Char} {v : Value} :
      c = '-' ∨ c.isDigit = true → (∀ d ∈ c :: run, isNumberChar d = true) →
        Ends isNumberChar rest →
        numberOfText? (c :: run) = some v → PlacedOperand (c :: run ++ rest) v rest

/-- A term, with its criterion, at the head of a text, and the rest of the text
after it. -/
inductive PlacedTerm (isNameChar : Char → Bool) : List Char → Criterion → List Char → Prop
  | present {text rest : List Char} {key : String} :
      PlacedAccessor isNameChar text key rest → Unchained rest →
        PlacedTerm isNameChar ('@' :: text) ⟨key, .present true⟩ rest
  | absent {b text rest : List Char} {key : String} :
      Blanks b → PlacedAccessor isNameChar text key rest → Unchained rest →
        PlacedTerm isNameChar ('!' :: (b ++ '@' :: text)) ⟨key, .present false⟩ rest
  | comparison {text b compared a operand rest : List Char} {key : String}
      {operator : Value → Operator} {v : Value} :
      PlacedAccessor isNameChar text key (b ++ compared) → Unchained (b ++ compared) → Blanks b →
        LongestSign compared operator (a ++ operand) → Blanks a → PlacedOperand operand v rest →
          PlacedTerm isNameChar ('@' :: text) ⟨key, operator v⟩ rest

/-- A row of terms joined by `&&`, with blanks around each, and their
criteria. -/
inductive PlacedConjunction (isNameChar : Char → Bool) : List Char → List Criterion → Prop
  | last {b text a : List Char} {c : Criterion} :
      Blanks b → PlacedTerm isNameChar text c a → Blanks a →
        PlacedConjunction isNameChar (b ++ text) [c]
  | more {b text a rest : List Char} {c : Criterion} {cs : List Criterion} :
      Blanks b → PlacedTerm isNameChar text c (a ++ '&' :: '&' :: rest) → Blanks a →
        PlacedConjunction isNameChar rest cs → PlacedConjunction isNameChar (b ++ text) (c :: cs)

variable {isNameChar : Char → Bool} {text rest l s t : List Char} {v : Value} {key : String}
  {operator : Value → Operator} {c : Criterion} {cs : List Criterion} {negated : Bool}

/-! ## Parts without their places -/

/-- A name at the start of a text is one of the grammar, with the rest of the
text after it. -/
theorem PlacedAccessor.exists_append (hname : ∀ c, isNameChar c = true → endsName c = false)
    (h : PlacedAccessor isNameChar text key rest) : ∃ t, text = t ++ rest ∧ Accessor t key := by
  cases h with
  | name hne hrun _ => exact ⟨_, rfl, .name hne fun c hc => hname c (hrun c hc)⟩
  | quoted hb hl ha => exact ⟨_, by simp, .quoted hb hl ha⟩

theorem PlacedOperand.exists_append (h : PlacedOperand text v rest) :
    ∃ t, text = t ++ rest ∧ Operand t v := by
  cases h with
  | string hl => exact ⟨_, rfl, .string hl⟩
  | word _ _ hv => exact ⟨_, rfl, .word hv⟩
  | number hc hrun _ hv => exact ⟨_, rfl, .number hc hrun hv⟩

theorem PlacedTerm.exists_append (hname : ∀ c, isNameChar c = true → endsName c = false)
    (h : PlacedTerm isNameChar text c rest) : ∃ t, text = t ++ rest ∧ Term t c := by
  cases h with
  | present hacc _ =>
    obtain ⟨t, rfl, ht⟩ := hacc.exists_append hname
    exact ⟨'@' :: t, rfl, .node (.present ht)⟩
  | @absent b _ _ _ hb hacc _ =>
    obtain ⟨t, rfl, ht⟩ := hacc.exists_append hname
    exact ⟨'!' :: (b ++ '@' :: t), by simp, .negated hb (.present ht)⟩
  | @comparison _ b _ a _ _ _ _ _ hacc _ hb hsign ha hop =>
    obtain ⟨t, rfl, ht⟩ := hacc.exists_append hname
    obtain ⟨s, rfl, hs, -⟩ := hsign
    obtain ⟨l, rfl, hl⟩ := hop.exists_append
    exact ⟨'@' :: (t ++ (b ++ (s ++ (a ++ l)))), by simp, .node (.comparison ht hb hs ha hl)⟩

theorem PlacedConjunction.conjunction (hname : ∀ c, isNameChar c = true → endsName c = false)
    (h : PlacedConjunction isNameChar text cs) : Conjunction text cs := by
  induction h with
  | last hb hterm ha =>
    obtain ⟨t, rfl, ht⟩ := hterm.exists_append hname
    exact .last hb ht ha
  | more hb hterm ha _ ih =>
    obtain ⟨t, rfl, ht⟩ := hterm.exists_append hname
    exact .more hb ht ha ih

/-! ## Parts in their places -/

/-- A sign of one character is not the start of a longer one if no `=`
follows. -/
theorem Sign.longest (h : Sign s operator) (hrest : rest.head? ≠ some '=') :
    LongestSign (s ++ rest) operator rest := by
  refine ⟨s, rfl, h, fun s' operator' h' hprefix => ?_⟩
  obtain ⟨more, he⟩ := hprefix
  cases h with
  | equalTo | notEqualTo | lessOrEqual | greaterOrEqual => cases h' <;> decide
  | less | greater =>
    cases h' with
    | less | greater => decide
    | equalTo | notEqualTo | lessOrEqual | greaterOrEqual =>
      exact absurd (congrArg List.head? (List.cons.inj he).2).symm hrest

/-- Where a name ends, no further name is chained to it. -/
theorem Apart.unchained (h : Apart rest) : Unchained rest := fun c hc => (h c hc).2

/-- A name of the grammar is a token of its longest extent, where a name ends
after it. -/
theorem Accessor.placed (h : Accessor t key) (hrest : Apart rest) :
    PlacedAccessor (!endsName ·) (t ++ rest) key rest := by
  cases h with
  | name hne hname =>
    refine .name hne (fun c hc => by simp [hname c hc]) fun c hc => ?_
    simp [(hrest c hc).1]
  | quoted hb hl ha =>
    have h : PlacedAccessor (!endsName ·) _ _ rest := .quoted hb hl ha
    simpa using h

/-- An operand of the grammar is a token of its longest extent, where a term may
stop after it. -/
theorem Operand.placed (h : Operand t v) (hrest : Stops rest) :
    PlacedOperand (t ++ rest) v rest := by
  cases h with
  | string hl => exact .string hl
  | word hv =>
    refine .word ?_ (hrest.ends (by decide) fun _ => isBlank_of_isAlpha) hv
    rcases word_of_valueOfWord? hv with rfl | rfl | rfl <;> exact List.all_eq_true.mp (by decide)
  | number hc hrun hv =>
    exact .number hc hrun (hrest.ends (by decide) fun _ => isBlank_of_isNumberChar) hv

/-- A term of the grammar is a row of tokens, where a term may stop after it. -/
theorem Term.placed (h : Term t c) (hrest : Stops rest) :
    PlacedTerm (!endsName ·) (t ++ rest) c rest := by
  cases h with
  | node ht =>
    cases ht with
    | present hacc => exact .present (hacc.placed hrest.apart) hrest.apart.unchained
    | @comparison t b s a l _ _ _ hacc hb hs ha hl =>
      have htext : '@' :: (t ++ (b ++ (s ++ (a ++ l)))) ++ rest =
          '@' :: (t ++ (b ++ (s ++ (a ++ (l ++ rest))))) := by simp
      rw [htext]
      have hapart : Apart (b ++ (s ++ (a ++ (l ++ rest)))) := hs.apart hb
      refine .comparison (hacc.placed hapart) hapart.unchained hb (hs.longest fun h => ?_) ha
        (hl.placed hrest)
      -- what follows the sign is a blank or the head of the operand, and neither is `=`
      obtain ⟨d, u, rfl, -, hne⟩ := hl.head
      rcases Unicode.head_blanks_append ha h with h | h
      · exact absurd h (by decide)
      · exact hne (Option.some.inj h)
  | @negated b t _ hb ht =>
    cases ht with
    | present hacc =>
      have htext : '!' :: (b ++ '@' :: t) ++ rest = '!' :: (b ++ '@' :: (t ++ rest)) := by simp
      rw [htext]
      exact .absent hb (hacc.placed hrest.apart) hrest.apart.unchained

/-- What follows the grammar is a row of tokens of the longest extent up to the
end of the text. -/
theorem Conjunction.placed (h : Conjunction text cs) : PlacedConjunction (!endsName ·) text cs := by
  induction h with
  | @last b t a _ hb ht ha =>
    exact .last hb (ht.placed (.inl (List.dropWhile_eq_nil_iff.mpr ha))) ha
  | @more b t a rest _ _ hb ht ha _ ih =>
    have hstop : Stops (a ++ '&' :: '&' :: rest) :=
      .inr ⟨rest, Unicode.trimStart_blanks_cons ha (by decide)⟩
    exact .more hb (ht.placed hstop) ha ih

end DocPath.PredicateReader

namespace DocPath.Filter

open PredicateReader (endsName)

/-- **A text is a predicate exactly if it is a row of terms joined by `&&`**,
each token of which is as long as possible in its place, and the filter holds
the criteria of the terms in their order. -/
theorem ofText_eq_ok_iff_placed (source : String) (f : Filter) :
    ofText source = .ok f ↔
      PredicateReader.PlacedConjunction (!endsName ·) source.toList f.criteria := by
  rw [ofText_eq_ok_iff]
  exact ⟨fun h => h.placed, fun h => h.conjunction fun c hc => by simpa using hc⟩

end DocPath.Filter

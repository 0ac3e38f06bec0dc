import DocPath.Proofs.Filter.Grammar
import DocPath.Proofs.Text.Enclosed

/-! # Blanks between the tokens of a predicate

A predicate is a row of tokens (`ExpressionTokens`), with blanks before, between
and after them (`Spaced`).  The reader skips the blanks before most tokens, but
not those between the sign of the node, a dot and a name, or before an opening
bracket: these tokens have to be attached to what stands before them.
`ofText_spaced` says that blanks anywhere else make no difference, and that with
blanks there nothing is read. -/

namespace DocPath.PredicateReader

open Quoted (isQuote Literal Enclosed Inside Spells)
open Unicode (isBlank trimStart Blanks)

/-! ## Rows of tokens -/

/-- The tokens of predicates.  A token is what blanks cannot stand in, a literal
with the blanks between its quotes included. -/
inductive Token where
  | negation | node | dot
  | name (text : List Char)
  | opening
  | quotedName (text : List Char)
  | closing
  | comparison (sign : List Char)
  | literal (text : List Char)
  | conjunction
deriving DecidableEq, Repr

namespace Token

/-- The characters of a token, as they stand in a predicate. -/
def text : Token → List Char
  | negation => ['!']
  | node => ['@']
  | dot => ['.']
  | name text | quotedName text | comparison text | literal text => text
  | opening => ['[']
  | closing => [']']
  | conjunction => ['&', '&']

/-- Whether a token can stand after the given blanks.  A dot, a name and an
opening bracket are attached to what stands before them. -/
def follows (blanks : List Char) : Token → Bool
  | dot | name _ | opening => blanks.isEmpty
  | _ => true

end Token

/-- A literal of a predicate: a quoted text, a word or a number, also one that
has no value. -/
inductive LiteralText : List Char → Prop
  | quoted {l : List Char} : Enclosed l → LiteralText l
  | word {l : List Char} {v : Value} : valueOfWord? (String.ofList l) = some v → LiteralText l
  | number {c : Char} {run : List Char} :
      c = '-' ∨ c.isDigit = true → (∀ d ∈ c :: run, isNumberChar d = true) → LiteralText (c :: run)

/-- What names a property of the node: a name after a dot, or a quoted name in
brackets. -/
inductive AccessorTokens : List Token → Prop
  | name {text : List Char} :
      text ≠ [] → (∀ c ∈ text, endsName c = false) → AccessorTokens [.dot, .name text]
  | quoted {text : List Char} : Enclosed text →
      AccessorTokens [.opening, .quotedName text, .closing]

/-- What may follow the property of a term: nothing, or a comparison with a
literal. -/
inductive ComparisonTokens : List Token → Prop
  | absent : ComparisonTokens []
  | present {sign text : List Char} {operator : Value → Operator} :
      Sign sign operator → LiteralText text → ComparisonTokens [.comparison sign, .literal text]

/-- A term, with the sign of negation or without it.  As far as tokens go a
comparison may follow in both cases, though no predicate has one after the
sign. -/
inductive TermTokens : List Token → Prop
  | node {ts us : List Token} :
      AccessorTokens ts → ComparisonTokens us → TermTokens (.node :: (ts ++ us))
  | negated {ts us : List Token} :
      AccessorTokens ts → ComparisonTokens us → TermTokens (.negation :: .node :: (ts ++ us))

/-- A row of terms, with the token of conjunction between them. -/
inductive ExpressionTokens : List Token → Prop
  | last {ts : List Token} : TermTokens ts → ExpressionTokens ts
  | more {ts us : List Token} :
      TermTokens ts → ExpressionTokens us → ExpressionTokens (ts ++ .conjunction :: us)

/-- A text that begins with the tokens of a row, with blanks before each of
them, and goes on with `rest`; `attached` says whether every token can stand
after its blanks. -/
inductive Padded : List Token → (attached : Bool) → (text rest : List Char) → Prop
  | nil {rest : List Char} : Padded [] true rest rest
  | cons {t : Token} {ts : List Token} {attached : Bool} {b text rest : List Char} :
      Blanks b → Padded ts attached text rest →
        Padded (t :: ts) (t.follows b && attached) (b ++ (t.text ++ text)) rest

/-- A text of the tokens of a row and of blanks.  Whether all tokens that have
to be attached are so is told beside it. -/
def Spaced (ts : List Token) (attached : Bool) (text : List Char) : Prop :=
  ∃ a, Blanks a ∧ Padded ts attached text a

/-! ## What reading a token or a few of them comes to -/

/-- What comes of reading: a value and the rest of the text, or a refusal.
Which of the two it is, and which value, is told beside it, so it can be said to
be the same before every rest. -/
inductive Yields {α : Type} (rest : List Char) :
    Option α → Except PredicateStop (α × List Char) → Prop
  | value {a : α} : Yields rest (some a) (.ok (a, rest))
  | refusal {stop : PredicateStop} : Yields rest none (.error stop)

variable {α β : Type} {ts us : List Token} {attached : Bool} {text rest b l after : List Char}
  {key : String} {negated : Bool}

theorem Yields.map {value? : Option α} {x : Except PredicateStop (α × List Char)} {f : α → β}
    (h : Yields rest value? x) :
    Yields rest (value?.map f) (x.map fun (a, rest) => (f a, rest)) := by
  cases h with
  | value => exact .value
  | refusal => exact .refusal

theorem yields_of_iff {value? : Option α} {x : Except PredicateStop (α × List Char)}
    (h : ∀ a after, x = .ok (a, after) ↔ value? = some a ∧ after = rest) :
    Yields rest value? x := by
  cases x with
  | error stop =>
    cases value? with
    | none => exact .refusal
    | some a => cases (h a rest).mpr ⟨rfl, rfl⟩
  | ok p =>
    obtain ⟨rfl, rfl⟩ := (h p.1 p.2).mp rfl
    exact .value

theorem Yields.eq_none {value? : Option α} {stop : PredicateStop}
    (h : Yields rest value? (.error stop)) : value? = none := by
  cases h
  rfl

theorem Yields.eq_some {value? : Option α} {a : α} (h : Yields rest value? (.ok (a, after))) :
    value? = some a ∧ after = rest := by
  cases h
  exact ⟨rfl, rfl⟩

theorem Padded.of_nil (h : Padded [] attached text rest) : attached = true ∧ rest = text := by
  cases h
  exact ⟨rfl, rfl⟩

theorem Padded.exists_cons {t : Token} (h : Padded (t :: ts) attached text rest) :
    ∃ b later others,
      attached = (t.follows b && others) ∧ text = b ++ (t.text ++ later) ∧ Blanks b ∧
      Padded ts others later rest := by
  cases h with
  | cons hb h => exact ⟨_, _, _, rfl, rfl, hb, h⟩

theorem Padded.exists_append (h : Padded (ts ++ us) attached text rest) :
    ∃ first second between, Padded ts first text between ∧ Padded us second between rest ∧
      attached = (first && second) := by
  induction ts generalizing attached text with
  | nil => exact ⟨true, attached, text, .nil, h, rfl⟩
  | cons t ts ih =>
    obtain ⟨b, _, _, rfl, rfl, hb, h⟩ := h.exists_cons
    obtain ⟨first, second, between, hfirst, hsecond, rfl⟩ := ih h
    exact ⟨_, second, between, .cons hb hfirst, hsecond, (Bool.and_assoc ..).symm⟩

/-- A quoted text is read in the same way whatever follows it.  It may be
refused for an escape, and then it is refused everywhere. -/
theorem exists_quoted? (hl : Enclosed l) :
    ∃ name? : Option (List Char), ∀ rest, ∃ x,
      quoted? (l ++ rest) = some x ∧ Yields rest name? x := by
  obtain ⟨quote, body, hq, hs, rfl⟩ := hl
  obtain ⟨name?, hname⟩ := Quoted.exists_spelled? hq hs
  refine ⟨name?,
    fun rest => ⟨quoted quote (body ++ [quote] ++ rest), ?_, yields_of_iff fun name after => ?_⟩⟩
  · rcases Quoted.isQuote_iff.mp hq with rfl | rfl <;> rfl
  · rw [hname, List.append_assoc, List.singleton_append,
      ← Quoted.read_inside_eq_ok_iff ((body ++ quote :: rest).length + 1) hq hs, quoted]
    split
    · next h => simp only [h, reduceCtorEq]
    · next h => rw [h, Except.ok.injEq, Except.ok.injEq]

theorem LiteralText.head (h : LiteralText l) : ∃ c u, l = c :: u ∧ isBlank c = false ∧ c ≠ '=' := by
  cases h with
  | quoted hl =>
    obtain ⟨quote, body, hq, -, rfl⟩ := hl
    refine ⟨quote, _, rfl, Quoted.isBlank_of_isQuote hq, ?_⟩
    rintro rfl
    cases hq
  | word hv => exact (Operand.word hv).head
  | @number c run hc hall =>
    refine ⟨c, run, rfl, isBlank_of_isNumberChar (hall c List.mem_cons_self), ?_⟩
    rintro rfl
    rcases hc with hc | hc <;> cases hc

/-- A literal is read in the same way wherever a term may stop after it, as its
own run of characters ends there. -/
theorem LiteralText.exists_value (h : LiteralText l) :
    ∃ value? : Option Value, ∀ rest, Stops rest → Yields rest value? (literal (l ++ rest)) := by
  cases h with
  | quoted hl =>
    obtain ⟨name?, hname⟩ := exists_quoted? hl
    refine ⟨name?.map fun cs => .string (String.ofList cs), fun rest _ => ?_⟩
    obtain ⟨x, hx, hyields⟩ := hname rest
    simp only [literal, hx]
    exact hyields.map
  | @word _ v hv =>
    refine ⟨some v, fun rest hrest => ?_⟩
    rw [literal_of_grammar (.word hv) hrest]
    exact .value
  | @number c run hc hall =>
    refine ⟨numberOfText? (c :: run), fun rest hrest => ?_⟩
    have hends : Ends isNumberChar rest := hrest.ends (by decide) fun _ => isBlank_of_isNumberChar
    rw [List.cons_append, literal_number hc, ← List.cons_append]
    simp only [PredicateReader.number, takeWhile_run hall hends, dropWhile_run hall hends]
    cases numberOfText? (c :: run) with
    | none => exact .refusal
    | some v => exact .value

/-- A comparison is read in the same way wherever a term may stop after it, and
so is none. -/
theorem ComparisonTokens.exists_criterion (h : ComparisonTokens ts) (negated : Bool) :
    ∃ criterion? : String → Option Criterion, ∀ attached text rest, Padded ts attached text rest →
      Stops rest → attached = true ∧ Apart text ∧ ∀ key, ∃ after, trimStart after = trimStart rest ∧
        Yields after (criterion? key) (comparisonOf key negated (trimStart text)) := by
  cases h with
  | absent =>
    refine ⟨fun key => some ⟨key, .present !negated⟩, fun attached text rest h hrest => ?_⟩
    obtain ⟨rfl, rfl⟩ := h.of_nil
    have hnone : comparison? (trimStart rest) = none := by
      rcases hrest with h | ⟨more, h⟩ <;> rw [h] <;> rfl
    refine ⟨rfl, hrest.apart, fun key => ⟨trimStart rest, Unicode.trimStart_trimStart rest, ?_⟩⟩
    simp only [comparisonOf, hnone]
    exact .value
  | @present sign l operator hs hl =>
    obtain ⟨value?, hvalue⟩ := hl.exists_value
    refine ⟨fun key => if negated then none else value?.map fun v => ⟨key, operator v⟩,
      fun attached text rest h hrest => ?_⟩
    obtain ⟨d, u, rfl, hblank, heq⟩ := hl.head
    obtain ⟨b, _, _, rfl, rfl, hb, h⟩ := h.exists_cons
    obtain ⟨b', _, _, rfl, rfl, hb', h⟩ := h.exists_cons
    obtain ⟨rfl, rfl⟩ := h.of_nil
    refine ⟨rfl, hs.apart hb, fun key => ⟨rest, rfl, ?_⟩⟩
    have htrim :
        trimStart (b ++ (sign ++ (b' ++ (d :: u ++ rest)))) = sign ++ (b' ++ (d :: u ++ rest)) := by
      obtain ⟨c, v, rfl, hc⟩ := hs.head
      exact Unicode.trimStart_blanks_cons hb hc
    show Yields rest _
      (comparisonOf key negated (trimStart (b ++ (sign ++ (b' ++ (d :: u ++ rest))))))
    rw [htrim]
    cases negated with
    | false =>
      rw [List.cons_append, comparisonOf_sign hs hb' hblank heq]
      exact (hvalue rest hrest).map
    | true =>
      rw [List.cons_append]
      simp only [comparisonOf, comparison?_sign hs hb' heq]
      exact .refusal

theorem accessor_blank {c : Char} (hc : isBlank c = true) :
    accessor (c :: text) = fail .expectedAccessor (c :: text) := by
  unfold accessor
  split
  · next h => cases h; exact absurd hc (by decide)
  · next h => cases h; exact absurd hc (by decide)
  · rfl

theorem accessor_dot_blank {c : Char} (hc : isBlank c = true) :
    accessor ('.' :: c :: text) = fail .expectedName (c :: text) := by
  have hname : (c :: text).takeWhile (!endsName ·) = [] :=
    List.takeWhile_cons_of_neg (by simp [(apart_of_isBlank hc).1])
  simp only [accessor, hname]

/-- Between brackets a name is read without the blanks around it, and the blanks
in its quotes belong to the name. -/
theorem accessor_brackets {name? : Option (List Char)} (hb : Blanks b) (ha : Blanks after)
    (hl : Enclosed l) (h : ∀ rest, ∃ x, quoted? (l ++ rest) = some x ∧ Yields rest name? x) :
    Yields rest (name?.map String.ofList)
      (accessor ('[' :: (b ++ (l ++ (after ++ ']' :: rest))))) := by
  have htrim : trimStart (b ++ (l ++ (after ++ ']' :: rest))) = l ++ (after ++ ']' :: rest) := by
    obtain ⟨quote, body, hq, -, rfl⟩ := hl
    exact Unicode.trimStart_blanks_cons hb (Quoted.isBlank_of_isQuote hq)
  obtain ⟨x, hx, hyields⟩ := h (after ++ ']' :: rest)
  simp only [accessor, htrim, hx]
  cases hyields with
  | refusal => exact .refusal
  | value =>
    simp only [Unicode.trimStart_blanks_cons ha (show isBlank ']' = false by decide)]
    exact .value

/-- A name is read in the same way before anything that ends it, and nothing is
read if it is detached. -/
theorem AccessorTokens.exists_key (h : AccessorTokens ts) :
    ∃ key? : Option String, ∀ attached text rest, Padded ts attached text rest → Apart rest →
      Yields rest (if attached then key? else none) (accessor text) := by
  cases h with
  | @name n hne hname =>
    refine ⟨some (String.ofList n), fun attached text rest h hrest => ?_⟩
    obtain ⟨b, _, _, rfl, rfl, hb, h⟩ := h.exists_cons
    obtain ⟨b', _, _, rfl, rfl, hb', h⟩ := h.exists_cons
    obtain ⟨rfl, rfl⟩ := h.of_nil
    cases b with
    | cons c b =>
      show Yields _ none (accessor (c :: _))
      rw [accessor_blank (hb c List.mem_cons_self)]
      exact .refusal
    | nil =>
      cases b' with
      | cons c b' =>
        show Yields _ none (accessor ('.' :: c :: _))
        rw [accessor_dot_blank (hb' c List.mem_cons_self)]
        exact .refusal
      | nil =>
        have hends : Ends (fun c => !endsName c) rest := fun c hc => by simp [(hrest c hc).1]
        show Yields _ (some _) (accessor ('.' :: n ++ _))
        rw [accessor_of_grammar (.name hne hname) hends]
        exact .value
  | @quoted l hl =>
    obtain ⟨name?, hname⟩ := exists_quoted? hl
    refine ⟨name?.map String.ofList, fun attached text rest h _ => ?_⟩
    obtain ⟨b, _, _, rfl, rfl, hb, h⟩ := h.exists_cons
    obtain ⟨b', _, _, rfl, rfl, hb', h⟩ := h.exists_cons
    obtain ⟨a, _, _, rfl, rfl, ha, h⟩ := h.exists_cons
    obtain ⟨rfl, rfl⟩ := h.of_nil
    cases b with
    | cons c b =>
      show Yields _ none (accessor (c :: _))
      rw [accessor_blank (hb c List.mem_cons_self)]
      exact .refusal
    | nil => exact accessor_brackets hb' ha hl hname

/-! ## Terms and rows of terms -/

theorem termOf_eq_error {stop : PredicateStop} (hb : Blanks b) (h : accessor text = .error stop) :
    termOf negated (b ++ '@' :: text) = .error stop := by
  simp only [termOf, Unicode.trimStart_blanks_cons hb (show isBlank '@' = false by decide), h]

/-- What follows the sign of negation, or stands without one, is read in the
same way wherever a term may stop after it. -/
theorem exists_tested (hacc : AccessorTokens ts) (hcomp : ComparisonTokens us) (negated : Bool) :
    ∃ criterion? : Option Criterion, ∀ b attached text rest, Blanks b →
      Padded (ts ++ us) attached text rest → Stops rest →
        ∃ after, trimStart after = trimStart rest ∧
          Yields after (if attached then criterion? else none)
            (termOf negated (b ++ '@' :: text)) := by
  obtain ⟨key?, hkey⟩ := hacc.exists_key
  obtain ⟨criterion?, hcriterion⟩ := hcomp.exists_criterion negated
  refine ⟨key?.bind criterion?, fun b attached text rest hb h hrest => ?_⟩
  obtain ⟨first, second, between, hfirst, hsecond, rfl⟩ := h.exists_append
  obtain ⟨rfl, hapart, hcompared⟩ := hcriterion second between rest hsecond hrest
  have hnamed := hkey first text between hfirst hapart
  cases hacc : accessor text with
  | error stop =>
    rw [hacc] at hnamed
    refine ⟨rest, rfl, ?_⟩
    have hnone : (if (first && true) = true then key?.bind criterion? else none) = none := by
      have h := hnamed.eq_none
      cases first with
      | false => rfl
      | true => exact congrArg (Option.bind · criterion?) h
    rw [hnone, termOf_eq_error hb hacc]
    exact .refusal
  | ok p =>
    obtain ⟨key, after⟩ := p
    rw [hacc] at hnamed
    obtain ⟨hsome, rfl⟩ := hnamed.eq_some
    obtain ⟨rfl, rfl⟩ := Option.ite_none_right_eq_some.mp hsome
    rw [termOf_of_accessor hb hacc hapart]
    exact hcompared key

/-- A term is read in the same way wherever it may stop, and not at all with
blanks where none can stand. -/
theorem TermTokens.exists_criterion (h : TermTokens ts) :
    ∃ criterion? : Option Criterion, ∀ attached text rest,
      Padded ts attached text rest → Stops rest →
        ∃ after, trimStart after = trimStart rest ∧
          Yields after (if attached then criterion? else none) (term (trimStart text)) := by
  cases h with
  | node hacc hcomp =>
    obtain ⟨criterion?, hread⟩ := exists_tested hacc hcomp false
    refine ⟨criterion?, fun attached text rest h hrest => ?_⟩
    obtain ⟨b, text, attached, rfl, rfl, hb, h⟩ := h.exists_cons
    have htrim : trimStart (b ++ '@' :: text) = '@' :: text :=
      Unicode.trimStart_blanks_cons hb (by decide)
    show ∃ after, _ ∧ Yields after _ (term (trimStart (b ++ '@' :: text)))
    rw [htrim]
    exact hread [] attached text rest Unicode.blanks_nil h hrest
  | negated hacc hcomp =>
    obtain ⟨criterion?, hread⟩ := exists_tested hacc hcomp true
    refine ⟨criterion?, fun attached text rest h hrest => ?_⟩
    obtain ⟨b, _, _, rfl, rfl, hb, h⟩ := h.exists_cons
    obtain ⟨b', text, attached, rfl, rfl, hb', h⟩ := h.exists_cons
    have htrim : trimStart (b ++ '!' :: (b' ++ '@' :: text)) = '!' :: (b' ++ '@' :: text) :=
      Unicode.trimStart_blanks_cons hb (by decide)
    show ∃ after, _ ∧ Yields after _ (term (trimStart (b ++ '!' :: (b' ++ '@' :: text))))
    rw [htrim]
    exact hread b' attached text rest hb' h hrest

/-- A row of terms is read in the same way with blanks around its tokens, and
not at all with blanks where none can stand. -/
theorem ExpressionTokens.exists_criteria (h : ExpressionTokens ts) :
    ∃ criteria? : Option (List Criterion), ∀ attached text, Spaced ts attached text →
      ∀ criteria, terms text = .ok criteria ↔ attached = true ∧ criteria? = some criteria := by
  induction h with
  | last hterm =>
    obtain ⟨criterion?, hread⟩ := hterm.exists_criterion
    refine ⟨criterion?.map ([·]), ?_⟩
    rintro attached text ⟨w, hw, h⟩ criteria
    have hstop : trimStart w = [] := List.dropWhile_eq_nil_iff.mpr hw
    obtain ⟨after, hafter, hyields⟩ := hread attached text w h (.inl hstop)
    cases hterm : term (trimStart text) with
    | error stop =>
      rw [hterm] at hyields
      rw [terms_eq_error hterm]
      have hnone := hyields.eq_none
      simp_all
    | ok p =>
      obtain ⟨c, left⟩ := p
      rw [hterm] at hyields
      obtain ⟨hsome, rfl⟩ := hyields.eq_some
      obtain ⟨rfl, rfl⟩ := Option.ite_none_right_eq_some.mp hsome
      rw [terms_last hterm (hafter.trans hstop)]
      simp
  | more hterm hrest ih =>
    obtain ⟨criterion?, hread⟩ := hterm.exists_criterion
    obtain ⟨criteria?, hcriteria⟩ := ih
    refine ⟨criterion?.bind fun c => criteria?.map (c :: ·), ?_⟩
    rintro attached whole ⟨w, hw, h⟩ criteria
    obtain ⟨first, second, between, hfirst, hsecond, rfl⟩ := h.exists_append
    obtain ⟨b, text, second, rfl, rfl, hb, hsecond⟩ := hsecond.exists_cons
    have hstop : trimStart (b ++ '&' :: '&' :: text) = '&' :: '&' :: text :=
      Unicode.trimStart_blanks_cons hb (by decide)
    obtain ⟨after, hafter, hyields⟩ := hread first _ _ hfirst (.inr ⟨text, hstop⟩)
    cases hterm : term (trimStart whole) with
    | error stop =>
      rw [hterm] at hyields
      rw [terms_eq_error hterm]
      have hnone := hyields.eq_none
      cases first <;> simp_all
    | ok p =>
      obtain ⟨c, left⟩ := p
      rw [hterm] at hyields
      obtain ⟨hsome, rfl⟩ := hyields.eq_some
      obtain ⟨rfl, rfl⟩ := Option.ite_none_right_eq_some.mp hsome
      rw [terms_more hterm (hafter.trans hstop), map_eq_ok_iff]
      simp only [hcriteria second text ⟨w, hw, hsecond⟩]
      simp [and_assoc]

/-- The tokens alone, with no blanks anywhere. -/
theorem padded_flatMap (ts : List Token) : Padded ts true (ts.flatMap Token.text) [] := by
  induction ts with
  | nil => exact .nil
  | cons t ts ih =>
    have hfollows : t.follows [] = true := by cases t <;> rfl
    have h := Padded.cons (t := t) Unicode.blanks_nil ih
    rwa [hfollows] at h

end DocPath.PredicateReader

namespace DocPath.Filter

open PredicateReader (Token ExpressionTokens Spaced)
open Unicode (Blanks)

variable {ts : List Token}

theorem ofText_ofList_eq_ok_iff {text : List Char} {f : Filter} :
    ofText (String.ofList text) = .ok f ↔ PredicateReader.terms text = .ok f.criteria := by
  rw [ofText_eq_ok_iff, String.toList_ofList, PredicateReader.terms_eq_ok_iff]

/-- **Blanks between the tokens of a predicate** make no difference where none
stands before a token that has to be attached; with a blank there, nothing is
read.  So two spacings of the same tokens are read to the same filter, or both
refused, exactly if both or neither have such a blank, or the tokens are refused
without any. -/
theorem ofText_spaced (h : ExpressionTokens ts) :
    (∀ attached text, Spaced ts attached text → ∀ f,
      (ofText (String.ofList text) = .ok f ↔
        attached = true ∧ ofText (String.ofList (ts.flatMap Token.text)) = .ok f)) ∧
    (∀ attached text attached' text', Spaced ts attached text → Spaced ts attached' text' →
      ((∀ f, ofText (String.ofList text) = .ok f ↔ ofText (String.ofList text') = .ok f) ↔
        attached = attached' ∨ ∀ f, ofText (String.ofList (ts.flatMap Token.text)) ≠ .ok f)) := by
  obtain ⟨criteria?, hread⟩ := h.exists_criteria
  have hbare := hread true _ ⟨[], Unicode.blanks_nil, PredicateReader.padded_flatMap ts⟩
  have hspaced : ∀ attached text, Spaced ts attached text → ∀ f : Filter,
      (ofText (String.ofList text) = .ok f ↔
        attached = true ∧ ofText (String.ofList (ts.flatMap Token.text)) = .ok f) := by
    intro attached text htext f
    rw [ofText_ofList_eq_ok_iff, ofText_ofList_eq_ok_iff, hread attached text htext, hbare]
    simp
  refine ⟨hspaced, fun attached text attached' text' htext htext' => ?_⟩
  simp only [hspaced attached text htext, hspaced attached' text' htext']
  constructor
  · intro hsame
    by_cases hnone : ∀ f, ofText (String.ofList (ts.flatMap Token.text)) ≠ .ok f
    · exact .inr hnone
    · obtain ⟨f, hf⟩ := not_forall_not.mp hnone
      have hattached := hsame f
      rw [and_iff_left hf, and_iff_left hf] at hattached
      exact .inl (Bool.eq_iff_iff.mpr hattached)
  · rintro (rfl | hnone) f
    · rfl
    · simp [hnone f]

/-- A quoted name with blanks inside its brackets, and with one in front of
them. -/
theorem ofText_spaced_brackets :
    ∃ ts, ts = [Token.node, .opening, .quotedName ['\'', 'a', '\''], .closing] ∧
      ExpressionTokens ts ∧ Spaced ts true [' ', '@', '[', '\t', '\'', 'a', '\'', ' ', ']', ' '] ∧
      Spaced ts false ['@', ' ', '[', '\'', 'a', '\'', ']'] ∧
      ofText (String.ofList [' ', '@', '[', '\t', '\'', 'a', '\'', ' ', ']', ' ']) =
        .ok ⟨[⟨"a", .present true⟩]⟩ ∧
      ∀ f, ofText (String.ofList ['@', ' ', '[', '\'', 'a', '\'', ']']) ≠ .ok f := by
  have hname : Quoted.Literal ['\'', 'a', '\''] ['a'] := Quoted.literal_literal '\'' rfl ['a']
  have hts : ExpressionTokens [.node, .opening, .quotedName ['\'', 'a', '\''], .closing] :=
    .last (.node (.quoted (Quoted.enclosed_of_literal hname)) .absent)
  have hnil : Blanks [] := Unicode.blanks_nil
  have hblank : Blanks [' '] := by decide
  have htab : Blanks ['\t'] := by decide
  have hspaced : Spaced [.node, .opening, .quotedName ['\'', 'a', '\''], .closing] true
      [' ', '@', '[', '\t', '\'', 'a', '\'', ' ', ']', ' '] :=
    ⟨[' '], hblank, .cons hblank (.cons hnil (.cons htab (.cons hblank .nil)))⟩
  have hdetached : Spaced [.node, .opening, .quotedName ['\'', 'a', '\''], .closing] false
      ['@', ' ', '[', '\'', 'a', '\'', ']'] :=
    ⟨[], hnil, .cons hnil (.cons hblank (.cons hnil (.cons hnil .nil)))⟩
  have hread : ofText (String.ofList ['@', '[', '\'', 'a', '\'', ']']) =
      .ok ⟨[⟨"a", .present true⟩]⟩ := by
    rw [ofText_eq_ok_iff, String.toList_ofList]
    exact .last hnil (.node (.present (.quoted hnil hname hnil))) hnil
  obtain ⟨hiff, -⟩ := ofText_spaced hts
  exact ⟨_, rfl, hts, hspaced, hdetached, (hiff true _ hspaced _).mpr ⟨rfl, hread⟩,
    fun f h => Bool.false_ne_true ((hiff false _ hdetached f).mp h).1⟩

/-- A blank before the dot is refused. -/
theorem not_spaced_dot :
    ¬ ∀ ts attached text attached' text', ExpressionTokens ts → Spaced ts attached text →
      Spaced ts attached' text' → ∀ f,
        (ofText (String.ofList text) = .ok f ↔ ofText (String.ofList text') = .ok f) := by
  intro h
  have hname : ∀ c ∈ ['a'], PredicateReader.endsName c = false := List.forall_mem_singleton.mpr rfl
  have hts : ExpressionTokens [.node, .dot, .name ['a']] :=
    .last (.node (.name (by decide) hname) .absent)
  have hnil : Blanks [] := Unicode.blanks_nil
  have hspaced : Spaced [.node, .dot, .name ['a']] false ['@', ' ', '.', 'a'] :=
    ⟨[], hnil, .cons hnil (.cons (show Blanks [' '] by decide) (.cons hnil .nil))⟩
  have hbare : Spaced [.node, .dot, .name ['a']] true ['@', '.', 'a'] :=
    ⟨[], hnil, .cons hnil (.cons hnil (.cons hnil .nil))⟩
  have hread : ofText (String.ofList ['@', '.', 'a']) = .ok ⟨[⟨"a", .present true⟩]⟩ := by
    rw [ofText_eq_ok_iff, String.toList_ofList]
    exact .last hnil (.node (.present (.name (by decide) hname))) hnil
  have hpadded := (h _ _ _ _ _ hts hspaced hbare _).mpr hread
  have herror :
      PredicateReader.terms ['@', ' ', '.', 'a'] = .error ⟨⟨.expectedAccessor, 3⟩, false⟩ :=
    PredicateReader.terms_eq_error rfl
  rw [ofText_ofList_eq_ok_iff, herror] at hpadded
  cases hpadded

end DocPath.Filter

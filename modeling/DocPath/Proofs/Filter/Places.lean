import DocPath.Proofs.Filter.Grammar

/-! # The places of numbers in predicates

`NumberAt` finds the places in a text where a predicate compares with a number,
in any of its terms.  All numbers that a predicate compares with stand in such
places (`Conjunction.exists_numberAt`), and a number in one of them is read
whatever stands before and after it, or refused after its last character
(`BeforeOperand.exists_terms_eq`). -/

namespace DocPath

/-- The values that a property is compared with.  Tests for presence have none,
and those for membership have several. -/
def Operator.operands : Operator → List Value
  | equalTo v | notEqualTo v | greater v | greaterOrEqual v | less v | lessOrEqual v => [v]
  | oneOf vs | noneOf vs | containsAll vs => vs
  | _ => []

namespace PredicateReader

open Unicode (Blanks trimStart)

/-- What stands before the operand of a comparison: whole terms, then the node,
the property and the sign. -/
inductive BeforeOperand : List Char → Prop
  | here {b t a s d : List Char} {key : String} {operator : Value → Operator} :
      Blanks b → Accessor t key → Blanks a → Sign s operator → Blanks d →
        BeforeOperand (b ++ '@' :: (t ++ (a ++ (s ++ d))))
  | after {b t a before : List Char} {c : Criterion} :
      Blanks b → Term t c → Blanks a → BeforeOperand before →
        BeforeOperand (b ++ (t ++ (a ++ '&' :: '&' :: before)))

/-- A number in the place of an operand, with all that belongs to it: the run
begins as a number does, consists of characters of numbers, and ends before a
character that is none. -/
structure NumberAt (text before run rest : List Char) : Prop where
  split : text = before ++ (run ++ rest)
  before : BeforeOperand before
  head : ∃ c u, run = c :: u ∧ (c = '-' ∨ c.isDigit = true)
  row : ∀ c ∈ run, isNumberChar c = true
  ends : Ends isNumberChar rest

variable {text before run rest : List Char} {cs : List Criterion} {v : Value}

/-! ## Numbers as they stand in a predicate -/

theorem Sign.operands {s : List Char} {operator : Value → Operator} (h : Sign s operator)
    (v : Value) :
    (operator v).operands = [v] := by
  cases h <;> rfl

/-- A number that a term compares with is the last of the term, so its place is
in front of what follows the term. -/
theorem Term.exists_numberAt {b t : List Char} {c : Criterion} (hb : Blanks b) (h : Term t c)
    (hv : v ∈ c.operator.operands) (hnumber : v.number?.isSome = true) (hrest : Stops rest) :
    ∃ before run, NumberAt (b ++ (t ++ rest)) before run rest ∧ numberOfText? run = some v := by
  cases h with
  | negated _ ht =>
    cases ht with
    | present _ => cases hv
  | node ht =>
    cases ht with
    | present _ => cases hv
    | @comparison t a s d l key operator w hacc ha hs hd hl =>
      obtain rfl : v = w := by simpa [hs.operands] using hv
      cases hl with
      | string _ => cases hnumber
      | word hword =>
        rcases word_of_valueOfWord? hword with rfl | rfl | rfl <;> cases hword <;> cases hnumber
      | @number c u _ hc hrow hread =>
        have hplace : NumberAt (b ++ ('@' :: (t ++ (a ++ (s ++ (d ++ c :: u)))) ++ rest))
            (b ++ '@' :: (t ++ (a ++ (s ++ d)))) (c :: u) rest := {
          split := by simp
          before := .here hb hacc ha hs hd
          head := ⟨c, u, rfl, hc⟩
          row := hrow
          ends := hrest.ends (by decide) fun _ => isBlank_of_isNumberChar }
        exact ⟨_, _, hplace, hread⟩

/-- **The numbers of a predicate stand in its text**, each of them in a place of
its own, from which it is read. -/
theorem Conjunction.exists_numberAt (h : Conjunction text cs) {c : Criterion} (hc : c ∈ cs)
    (hv : v ∈ c.operator.operands) (hnumber : v.number?.isSome = true) :
    ∃ before run rest, NumberAt text before run rest ∧ numberOfText? run = some v := by
  induction h with
  | @last b t a d hb ht ha =>
    obtain rfl := List.mem_singleton.mp hc
    have hstops : Stops a := .inl (List.dropWhile_eq_nil_iff.mpr ha)
    obtain ⟨before, run, hplace⟩ := ht.exists_numberAt hb hv hnumber hstops
    exact ⟨before, run, a, hplace⟩
  | @more b t a rest d ds hb ht ha _ ih =>
    rcases List.mem_cons.mp hc with rfl | hc
    · have hstops : Stops (a ++ '&' :: '&' :: rest) :=
        .inr ⟨rest, Unicode.trimStart_blanks_cons ha (by decide)⟩
      obtain ⟨before, run, hplace⟩ := ht.exists_numberAt hb hv hnumber hstops
      exact ⟨before, run, _, hplace⟩
    · obtain ⟨before, run, rest', hplace, hread⟩ := ih hc
      have hlater : NumberAt (b ++ (t ++ (a ++ '&' :: '&' :: rest)))
          (b ++ (t ++ (a ++ '&' :: '&' :: before))) run rest' := {
        hplace with
        split := by simp [hplace.split]
        before := .after hb ht ha hplace.before }
      exact ⟨_, _, _, hlater, hread⟩

/-! ## Reading the number in a place -/

/-- A number in a place is read with all its characters, or refused after
them. -/
theorem NumberAt.literal_eq (h : NumberAt text before run rest) :
    (∀ v, numberOfText? run = some v → literal (run ++ rest) = .ok (v, rest)) ∧
      (numberOfText? run = none →
        literal (run ++ rest) = fail (.invalidNumber (String.ofList run)) rest) := by
  obtain ⟨c, u, hrun, hc⟩ := h.head
  have hnumber : literal (run ++ rest) = number (run ++ rest) := by
    rw [hrun]
    exact literal_number hc
  rw [hnumber]
  constructor
  · intro v hv
    simp only [number, takeWhile_run h.row h.ends, dropWhile_run h.row h.ends, hv]
  · intro hnone
    simp only [number, takeWhile_run h.row h.ends, dropWhile_run h.row h.ends, hnone]

/-- **What stands before a place is read whatever stands there.** A number that
can be read is compared with, and what follows decides; one that cannot be read
is refused. -/
theorem BeforeOperand.exists_terms_eq (h : BeforeOperand before) :
    ∃ (cs : List Criterion) (key : String) (operator : Value → Operator),
      (∀ v, (operator v).operands = [v]) ∧ ∀ text run rest, NumberAt text before run rest →
        (∀ v, numberOfText? run = some v →
          terms text = (following rest).map fun ds => cs ++ ⟨key, operator v⟩ :: ds) ∧
        (numberOfText? run = none →
          terms text = fail (.invalidNumber (String.ofList run)) rest) := by
  induction h with
  | @here b t a s d key operator hb hacc ha hs hd =>
    refine ⟨[], key, operator, hs.operands, fun text run rest hplace => ?_⟩
    obtain ⟨hread, hrefused⟩ := hplace.literal_eq
    obtain ⟨c, u, rfl, hc⟩ := hplace.head
    rw [List.cons_append] at hread hrefused
    have hchar := hplace.row c List.mem_cons_self
    have hne : c ≠ '=' := by rintro rfl; cases hchar
    have htext : text = b ++ '@' :: (t ++ (a ++ (s ++ (d ++ c :: (u ++ rest))))) := by
      rw [hplace.split]
      simp
    have hterm : term (trimStart text) = comparisonOf key false (s ++ (d ++ c :: (u ++ rest))) := by
      rw [htext, Unicode.trimStart_blanks_cons hb (by decide)]
      exact termOf_sign Unicode.blanks_nil hacc ha hs
    rw [comparisonOf_sign hs hd (isBlank_of_isNumberChar hchar) hne] at hterm
    refine ⟨fun v hv => ?_, fun hnone => ?_⟩
    · rw [hread v hv] at hterm
      exact terms_eq_following hterm
    · rw [hrefused hnone] at hterm
      exact PredicateReader.terms_eq_error hterm
  | @after b t a before c hb ht ha hbefore ih =>
    obtain ⟨cs, key, operator, hoperator, hterms⟩ := ih
    refine ⟨c :: cs, key, operator, hoperator, fun text run rest hplace => ?_⟩
    have hrest : NumberAt (before ++ (run ++ rest)) before run rest :=
      { hplace with split := rfl, before := hbefore }
    obtain ⟨hread, hrefused⟩ := hterms _ _ _ hrest
    have htext : terms text = (terms (before ++ (run ++ rest))).map (c :: ·) := by
      rw [hplace.split, ← terms_term hb ht ha]
      simp
    refine ⟨fun v hv => ?_, fun hnone => ?_⟩
    · rw [htext, hread v hv]
      cases following rest <;> rfl
    · rw [htext, hrefused hnone]
      rfl

theorem NumberAt.terms_eq_error (h : NumberAt text before run rest)
    (hnone : numberOfText? run = none) :
    terms text = fail (.invalidNumber (String.ofList run)) rest := by
  obtain ⟨cs, key, operator, -, hterms⟩ := h.before.exists_terms_eq
  exact (hterms _ _ _ h).2 hnone

/-- A number that can be read is among those that the predicate compares
with. -/
theorem NumberAt.exists_criterion (h : NumberAt text before run rest)
    (hv : numberOfText? run = some v)
    (hcs : terms text = .ok cs) : ∃ c ∈ cs, v ∈ c.operator.operands := by
  obtain ⟨first, key, operator, hoperator, hterms⟩ := h.before.exists_terms_eq
  rw [(hterms _ _ _ h).1 v hv] at hcs
  obtain ⟨ds, -, rfl⟩ := map_eq_ok_iff.mp hcs
  exact ⟨_, List.mem_append_right _ List.mem_cons_self, by simp [hoperator]⟩

/-- Which of the numbers that can be read stands in a place does not decide
whether the predicate is read. -/
theorem NumberAt.exists_terms_iff {text' run' : List Char} {v' : Value}
    (h : NumberAt text before run rest)
    (h' : NumberAt text' before run' rest) (hv : numberOfText? run = some v)
    (hv' : numberOfText? run' = some v') :
    (∃ cs, terms text = .ok cs) ↔ ∃ cs, terms text' = .ok cs := by
  obtain ⟨cs, key, operator, -, hterms⟩ := h.before.exists_terms_eq
  rw [(hterms _ _ _ h).1 v hv, (hterms _ _ _ h').1 v' hv']
  cases following rest with
  | error stop => exact iff_of_false (fun ⟨_, h⟩ => by cases h) fun ⟨_, h⟩ => by cases h
  | ok ds => exact iff_of_true ⟨_, rfl⟩ ⟨_, rfl⟩

end PredicateReader

namespace Filter

open PredicateReader (NumberAt fail)

/-- A number that cannot be read is refused after its last character, whatever
follows, since all before it has been read. -/
theorem ofText_eq_error_of_numberAt {source : String} {before run rest : List Char}
    (h : NumberAt source.toList before run rest)
    (hnone : PredicateReader.numberOfText? run = none) :
    ofText source =
      .error (.invalidPath ("[?(" ++ source ++ ")]") (.invalidNumber (String.ofList run))
      (some (before ++ run).length)) := by
  have hposition : source.toList.length - rest.length = (before ++ run).length := by
    rw [h.split, ← List.append_assoc, List.length_append, Nat.add_sub_cancel]
  rw [ofText, h.terms_eq_error hnone]
  simp only [fail, Stop.position, hposition]
  rfl

end Filter

end DocPath

import DocPath.Proofs.Filter.Refusal
import DocPath.Proofs.Path.Failure
import DocPath.Proofs.Path.Refusal

/-! # Positions of faults

An error quotes the text that is at fault and gives a position.  The position
counts in a part of this text: in the path without the blanks around it, in the
content of brackets, or in a predicate, which may be quoted with its brackets.
`CountsFrom` says where that part begins, and `validate_position` that a
character named by the error stands at its position from there on. -/

namespace DocPath

open Unicode (trim margin)

namespace Fragment

variable {source expression : String} {fault : Fault} {n : Nat} {c : Char} {e : Error}
  {fs : List Fragment}

theorem exists_expression_of_validatePredicates_eq_error (h : validatePredicates fs = .error e) :
    ∃ text, .expression text ∈ fs ∧ Filter.ofText text = .error e := by
  induction fs with
  | nil => cases h
  | cons f fs ih =>
    have hlater : validatePredicates fs = .error e →
        ∃ text, .expression text ∈ f :: fs ∧ Filter.ofText text = .error e := by
      intro h
      obtain ⟨text, hmem, htext⟩ := ih h
      exact ⟨text, List.mem_cons_of_mem _ hmem, htext⟩
    cases f with
    | expression text =>
      simp only [validatePredicates] at h
      split at h
      · next htext =>
        cases h
        exact ⟨text, List.mem_cons_self, htext⟩
      · exact hlater h
    | _ => exact hlater h

/-- Where the part begins in which the position of an error counts, within the
text that the error quotes. -/
inductive CountsFrom (source : String) : Error → Nat → Prop
  /-- After the blanks in front of the path. -/
  | path {stop : Stop} :
      PathReader.path (trim source.toList) = .error (.outside stop) →
        CountsFrom source
          (.invalidPath source stop.fault (some (stop.position (trim source.toList).length)))
          (margin source.toList)
  /-- After the bracket that reading has come to and that is at fault, and after
  the blanks behind it. -/
  | brackets {fault : Fault} {n : Nat} {before inside after : List Char} :
      trim source.toList = before ++ '[' :: (inside ++ ']' :: after) →
        PathReader.Reaches (PathReader.afterRoot (trim source.toList))
          ('[' :: (inside ++ ']' :: after)) →
        PathReader.item ('[' :: (inside ++ ']' :: after)) = .error (.inBrackets fault n) →
        (Bracket.Mode.outside 0).Closes inside →
          CountsFrom source (.invalidPath source fault (some n))
            (margin source.toList + (before.length + (1 + margin inside)))
  /-- After the three signs in front of a predicate that is quoted with its
  brackets. -/
  | predicate {fs : List Fragment} {text : String} {stop : Stop} :
      ofText source = .ok fs → .expression text ∈ fs →
        PredicateReader.terms text.toList = .error ⟨stop, false⟩ →
          CountsFrom source
            (.invalidPath ("[?(" ++ text ++ ")]") stop.fault
              (some (stop.position text.toList.length))) 3
  /-- At the start of a predicate with a literal at fault. -/
  | literal {fs : List Fragment} {text : String} {stop : Stop} :
      ofText source = .ok fs → .expression text ∈ fs →
        PredicateReader.terms text.toList = .error ⟨stop, true⟩ →
          CountsFrom source
            (.invalidPath text stop.fault (some (stop.position text.toList.length))) 0

/-- The text of a path that is refused, from where the position counts. -/
theorem exists_countsFrom_of_ofText
    (h : ofText source = .error (.invalidPath expression fault (some n)))
    (hc : fault.named? = some c) :
    ∃ offset, CountsFrom source (.invalidPath expression fault (some n)) offset ∧
      expression.toList[offset + n]? = some c := by
  obtain ⟨stop, hpath, he⟩ := exists_stop_of_ofText_eq_error h
  cases he
  cases stop with
  | outside stop =>
    exact ⟨_, .path hpath,
      Unicode.getElem?_margin ((PathReader.tells_of_path hpath).getElem?_position hc)⟩
  | inBrackets fault n =>
    obtain ⟨later, hreaches, hitem, inside, after, stop, rfl, hclose, hstop, he⟩ :=
      PathReader.exists_inside_of_path hpath
    cases he
    obtain ⟨before, hbefore⟩ := hreaches.suffix.trans (PathReader.afterRoot_suffix _)
    refine ⟨_, .brackets hbefore.symm hreaches hitem hclose, ?_⟩
    have hinside := Unicode.getElem?_margin (hstop.getElem?_position hc)
    have hlt := (List.getElem?_eq_some_iff.mp hinside).1
    rw [Nat.add_assoc]
    refine Unicode.getElem?_margin ?_
    -- past the text before the bracket, and past the bracket
    have hplace : before.length + (1 + margin inside) + stop.position (trim inside).length =
        before.length + (margin inside + stop.position (trim inside).length + 1) := by omega
    show (trim source.toList)[before.length + (1 + margin inside) + stop.position
      (trim inside).length]? = some c
    rw [← hbefore, hplace, List.getElem?_append_right (Nat.le_add_right _ _),
      Nat.add_sub_cancel_left, List.getElem?_cons_succ, List.getElem?_append_left hlt, hinside]

/-- The text of a predicate that is refused, from where the position counts. -/
theorem exists_countsFrom_of_predicate {text : String} (hfs : ofText source = .ok fs)
    (hmem : .expression text ∈ fs)
    (h : Filter.ofText text = .error (.invalidPath expression fault (some n)))
    (hc : fault.named? = some c) :
    ∃ offset, CountsFrom source (.invalidPath expression fault (some n)) offset ∧
      expression.toList[offset + n]? = some c := by
  obtain ⟨stop, inLiteral, hterms, he⟩ := Filter.exists_stop_of_ofText_eq_error h
  have htells := PredicateReader.tells_of_terms hterms
  cases inLiteral with
  | true =>
    cases he
    refine ⟨_, .literal hfs hmem hterms, ?_⟩
    rw [Nat.zero_add]
    exact htells.getElem?_position hc
  | false =>
    cases he
    have hposition := htells.getElem?_position hc
    have hlt := (List.getElem?_eq_some_iff.mp hposition).1
    have htext :
        ("[?(" ++ text ++ ")]").toList = ['[', '?', '('] ++ (text.toList ++ [')', ']']) := by
      simp [String.toList_append]
    refine ⟨_, .predicate hfs hmem hterms, ?_⟩
    rw [if_neg Bool.false_ne_true, htext, List.getElem?_append_right (by simp)]
    simp only [List.length_cons, List.length_nil, Nat.add_sub_cancel_left]
    rw [List.getElem?_append_left hlt, hposition]

/-- **A character that an error names stands at its position**, counted from
where the part of the text begins that the position belongs to: from the start
of the text that is quoted only in a path without blanks in front of it, outside
of brackets, and in a predicate with a literal at fault. -/
theorem validate_position (h : validate source = .error (.invalidPath expression fault (some n)))
    (hc : fault.named? = some c) :
    ∃ offset, CountsFrom source (.invalidPath expression fault (some n)) offset ∧
      expression.toList[offset + n]? = some c := by
  rcases bind_eq_error_iff.mp h with h | ⟨fs, hfs, h⟩
  · exact exists_countsFrom_of_ofText h hc
  · obtain ⟨text, hmem, htext⟩ := exists_expression_of_validatePredicates_eq_error h
    exact exists_countsFrom_of_predicate hfs hmem htext hc

/-- An escape that is none, in brackets after a name and with blanks before
both. -/
theorem validate_position_brackets :
    validate " a[ 'b\\q']" = .error (.invalidPath " a[ 'b\\q']" (.invalidEscape 'q') (some 3)) ∧
      Fault.named? (.invalidEscape 'q') = some 'q' ∧
      ∃ offset,
        CountsFrom " a[ 'b\\q']" (.invalidPath " a[ 'b\\q']" (.invalidEscape 'q') (some 3)) offset ∧
        " a[ 'b\\q']".toList[offset + 3]? = some 'q' := by
  have h : validate " a[ 'b\\q']" =
      .error (.invalidPath " a[ 'b\\q']" (.invalidEscape 'q') (some 3)) := by
    decide +kernel
  exact ⟨h, rfl, validate_position h rfl⟩

/-- With blanks in front of a path, its positions do not count in the text that
is quoted. -/
theorem not_position_after_blanks :
    ¬ ∀ source expression fault n c,
      validate source = .error (.invalidPath expression fault (some n)) → fault.named? = some c →
        expression.toList[n]? = some c := by
  intro h
  have hstray := h "  a]" "  a]" .strayBracket 1 ']' (by decide +kernel) rfl
  revert hstray
  decide

end Fragment

end DocPath

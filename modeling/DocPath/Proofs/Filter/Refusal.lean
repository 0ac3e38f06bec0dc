import DocPath.Proofs.Filter.Grammar
import DocPath.Proofs.Text.Stop

/-! # Where a predicate is refused

Each part of a predicate that cannot be read is refused at the head of the text
that is left to read, or at a place in a quoted literal.  In both cases the stop
tells of the whole predicate (`tells_of_terms`). -/

namespace DocPath.PredicateReader

open Quoted (isQuote)
open Unicode (trimStart)

variable {text rest : List Char} {stop : PredicateStop} {fault : Fault} {key : String}
  {negated : Bool}

theorem trimStart_suffix (text : List Char) : trimStart text <:+ text := List.dropWhile_suffix _

/-- A fault that names no character tells the truth about every text. -/
theorem tells_fail {α : Type} (hf : fault.Unnamed)
    (h : (fail fault text : Except _ α) = .error stop)
    (whole : List Char) : stop.stop.Tells whole := by
  cases h
  exact Stop.tells_of_unnamed hf _ _

/-- A literal that is refused has the character that is named, or is at fault
without naming one. -/
theorem tells_of_quoted {quote : Char} (hq : isQuote quote = true)
    (h : quoted quote text = .error stop) :
    stop.stop.Tells (quote :: text) := by
  unfold quoted at h
  split at h
  · next hread =>
    cases h
    exact (Quoted.tells_of_read (Quoted.ne_backslash_of_isQuote hq) hread).of_suffix
      (List.suffix_cons _ _)
  · cases h

/-- A text that may begin with a literal is refused only for what the literal
holds. -/
theorem tells_of_quoted? (h : quoted? text = some (.error stop)) : stop.stop.Tells text := by
  unfold quoted? at h
  split at h
  · exact tells_of_quoted rfl (Option.some.inj h)
  · exact tells_of_quoted rfl (Option.some.inj h)
  · cases h

theorem tells_of_accessor (h : accessor text = .error stop) : stop.stop.Tells text := by
  unfold accessor at h
  split at h
  · split at h
    · exact tells_fail ⟨rfl, rfl⟩ h _
    · cases h
  · simp only at h
    split at h
    · exact tells_fail ⟨rfl, rfl⟩ h _
    · next hquoted =>
      cases h
      exact (tells_of_quoted? hquoted).of_suffix
        ((trimStart_suffix _).trans (List.suffix_cons _ _))
    · split at h
      · cases h
      · exact tells_fail ⟨rfl, rfl⟩ h _
  · exact tells_fail ⟨rfl, rfl⟩ h _

theorem tells_of_literal (h : literal text = .error stop) : stop.stop.Tells text := by
  unfold literal at h
  split at h
  · next hquoted =>
    rw [map_eq_error_iff] at h
    subst h
    exact tells_of_quoted? hquoted
  · split at h
    · exact tells_fail ⟨rfl, rfl⟩ h _
    · split at h
      · simp only [number] at h
        split at h
        · cases h
        · exact tells_fail ⟨rfl, rfl⟩ h _
      · split at h
        · simp only [word] at h
          split at h
          · cases h
          · exact tells_fail ⟨rfl, rfl⟩ h _
        · cases h
          exact Stop.tells_head rfl rfl

theorem tells_of_comparisonOf (h : comparisonOf key negated text = .error stop) :
    stop.stop.Tells text := by
  unfold comparisonOf at h
  split at h
  · cases h
  · next after hsign =>
    split at h
    · exact tells_fail ⟨rfl, rfl⟩ h _
    · obtain ⟨s, rfl, -⟩ := grammar_of_comparison? hsign
      exact (tells_of_literal (map_eq_error_iff.mp h)).of_suffix
        ((trimStart_suffix after).trans (List.suffix_append _ _))

/-- A term after its negation that is refused, with what is named of it. -/
theorem tells_of_termOf (h : termOf negated text = .error stop) : stop.stop.Tells text := by
  unfold termOf at h
  split at h
  · next rest hnode =>
    have hrest : rest <:+ text := by
      refine (List.suffix_cons '@' rest).trans ?_
      rw [← hnode]
      exact trimStart_suffix text
    split at h
    · next hacc =>
      cases h
      exact (tells_of_accessor hacc).of_suffix hrest
    · exact tells_fail ⟨rfl, rfl⟩ h _
    · exact tells_fail ⟨rfl, rfl⟩ h _
    · next after _ _ hacc =>
      obtain ⟨t, rfl, -⟩ := grammar_of_accessor hacc
      exact (tells_of_comparisonOf h).of_suffix
        ((trimStart_suffix after).trans ((List.suffix_append _ _).trans hrest))
  · exact tells_fail ⟨rfl, rfl⟩ h _

/-- A term that is refused, with what is named of it: the blanks and the
negation before the fault are parts of the text as well. -/
theorem tells_of_term (h : term text = .error stop) : stop.stop.Tells text := by
  unfold term at h
  split at h
  · exact (tells_of_termOf h).of_suffix (List.suffix_cons _ _)
  · exact tells_of_termOf h

/-- What follows a term is the end of the text. -/
theorem suffix_of_term {c : Criterion} (h : term text = .ok (c, rest)) : rest <:+ text := by
  unfold term at h
  split at h
  · obtain ⟨b, t, a, -, -, -, rfl⟩ := grammar_of_termOf h
    exact ⟨'!' :: (b ++ '@' :: (t ++ a)), by simp⟩
  · obtain ⟨b, t, a, -, -, -, rfl⟩ := grammar_of_termOf h
    exact ⟨b ++ '@' :: (t ++ a), by simp⟩

/-- **A predicate that is refused is refused right where it goes wrong**: a
character that the fault names is the next one in what is left of the text. -/
theorem tells_of_terms (h : terms text = .error stop) : stop.stop.Tells text := by
  fun_induction terms text with
  | case1 text _ hterm =>
    cases h
    exact (tells_of_term hterm).of_suffix (trimStart_suffix text)
  | case2 => cases h
  | case3 text c after hterm rest hafter ih =>
    have hrest : rest <:+ after :=
      (show rest <:+ '&' :: '&' :: rest from ⟨['&', '&'], rfl⟩).trans
        (hafter ▸ trimStart_suffix after)
    exact (ih (map_eq_error_iff.mp h)).of_suffix
      (hrest.trans ((suffix_of_term hterm).trans (trimStart_suffix text)))
  | case4 => exact tells_fail ⟨rfl, rfl⟩ h _
  | case5 text c after hterm d rest _ _ hafter =>
    cases h
    refine (Stop.tells_head rfl rfl).of_suffix ?_
    rw [← hafter]
    exact (trimStart_suffix after).trans ((suffix_of_term hterm).trans (trimStart_suffix text))

end DocPath.PredicateReader

namespace DocPath.Filter

/-- A predicate that is refused is quoted with its brackets, but bare if a
literal in it is at fault. -/
theorem exists_stop_of_ofText_eq_error {source : String} {e : Error}
    (h : ofText source = .error e) :
    ∃ stop inLiteral, PredicateReader.terms source.toList = .error ⟨stop, inLiteral⟩ ∧
      e = .invalidPath (if inLiteral then source else "[?(" ++ source ++ ")]") stop.fault
        (some (stop.position source.toList.length)) := by
  simp only [ofText] at h
  split at h
  · cases h
  · next stop inLiteral hterms =>
    cases h
    exact ⟨stop, inLiteral, hterms, rfl⟩

end DocPath.Filter

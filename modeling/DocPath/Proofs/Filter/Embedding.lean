import DocPath.Proofs.Filter.Tokens
import DocPath.Proofs.Path.Compilation
import DocPath.Proofs.Path.Rendering
import Mathlib.Data.Bool.AllAny

/-! # Predicates between the brackets of a path

A path that holds a predicate has two readers for it: the scan for the closing
bracket of the fragment, and then the reader of predicates.  Both take quotes
for the ends of literals, but only the scan does so in bare names too.
`compile_enclosed` says that a path can hold a predicate exactly if the scan
passes it, and that it does so where no bare name holds a quote. -/

namespace DocPath.PredicateReader

open DocPath.Bracket (Mode)
open Quoted (isQuote Literal)
open Unicode (isBlank Blanks trim trimEnd)

variable {text rest t : List Char} {v : Value} {key : String} {operator : Value → Operator}
  {c : Criterion} {cs : List Criterion} {negated : Bool} {depth : Nat}

/-! ## Blanks around predicates -/

/-- A text that does not end in a blank, and holds some character.  Blanks after
it can be told from its own characters, so a predicate can be trimmed at its end
without a loss. -/
structure Solid (t : List Char) : Prop where
  ne_nil : t ≠ []
  last : ∀ c, t.getLast? = some c → isBlank c = false

theorem Solid.of_forall (hne : t ≠ []) (h : ∀ c ∈ t, isBlank c = false) : Solid t where
  ne_nil := hne
  last c hc := h c (List.mem_of_getLast? hc)

/-- The same for given characters, of which it can be computed. -/
theorem Solid.of_all (hne : t ≠ []) (h : t.all (!isBlank ·) = true) : Solid t :=
  .of_forall hne (by simpa using h)

theorem Solid.concat {c : Char} (h : isBlank c = false) (t : List Char) : Solid (t ++ [c]) where
  ne_nil := by simp
  last d hd := by
    rw [List.getLast?_concat] at hd
    cases hd
    exact h

theorem Solid.append (h : Solid t) (s : List Char) : Solid (s ++ t) where
  ne_nil := List.append_ne_nil_of_right_ne_nil s h.ne_nil
  last c hc := by
    rw [List.getLast?_append_of_ne_nil _ h.ne_nil] at hc
    exact h.last c hc

/-- A name ends in one of its characters or in a bracket. -/
theorem Accessor.solid (h : Accessor t key) : Solid t := by
  cases h with
  | @name name hne hname =>
    have hblank : ∀ c ∈ name, isBlank c = false := fun c hc => by
      have hends := hname c hc
      rw [endsName, Bool.or_eq_false_iff] at hends
      exact hends.1
    exact (Solid.of_forall hne hblank).append ['.']
  | @quoted b literal name a _ _ _ =>
    have h := Solid.concat (show isBlank ']' = false by decide) ('[' :: (b ++ (literal ++ a)))
    simpa using h

theorem Operand.solid (h : Operand t v) : Solid t := by
  cases h with
  | string hl =>
    obtain ⟨quote, body, hq, -, rfl⟩ := hl
    exact Solid.concat (Quoted.isBlank_of_isQuote hq) (quote :: body)
  | word hv =>
    rcases word_of_valueOfWord? hv with rfl | rfl | rfl <;>
      exact .of_all (by decide) (by decide)
  | number _ hrun _ =>
    exact .of_forall (List.cons_ne_nil _ _) fun c hc => isBlank_of_isNumberChar (hrun c hc)

theorem Test.solid (h : Test negated t c) : Solid t := by
  cases h with
  | present hacc => exact hacc.solid
  | @comparison t b s a l _ _ _ _ _ _ _ hl =>
    have h := hl.solid.append (t ++ (b ++ (s ++ a)))
    simpa using h

theorem Term.solid (h : Term t c) : Solid t := by
  cases h with
  | node ht => exact ht.solid.append ['@']
  | @negated b u _ _ ht =>
    have h := ht.solid.append ('!' :: (b ++ ['@']))
    simpa using h

/-- A predicate holds some character that is no blank. -/
theorem Conjunction.not_blanks (h : Conjunction text cs) : ¬ Blanks text := by
  intro hblank
  cases h with
  | @last b t a _ _ ht _ =>
    obtain ⟨d, u, rfl, hd⟩ := ht.head
    have hblank := hblank d (by simp)
    rw [hd] at hblank
    cases hblank
  | @more b t a rest _ _ _ ht _ _ =>
    obtain ⟨d, u, rfl, hd⟩ := ht.head
    have hblank := hblank d (by simp)
    rw [hd] at hblank
    cases hblank

/-- Blanks in front of a predicate can be left out. -/
theorem Conjunction.trimStart (h : Conjunction text cs) :
    Conjunction (Unicode.trimStart text) cs := by
  cases h with
  | @last b t a _ hb ht ha =>
    obtain ⟨d, u, rfl, hd⟩ := ht.head
    have htrim : Unicode.trimStart (b ++ (d :: u ++ a)) = d :: u ++ a :=
      Unicode.trimStart_blanks_cons hb hd
    rw [htrim]
    exact .last Unicode.blanks_nil ht ha
  | @more b t a rest _ _ hb ht ha hrest =>
    obtain ⟨d, u, rfl, hd⟩ := ht.head
    have htrim : Unicode.trimStart (b ++ (d :: u ++ (a ++ '&' :: '&' :: rest))) =
        d :: u ++ (a ++ '&' :: '&' :: rest) := Unicode.trimStart_blanks_cons hb hd
    rw [htrim]
    exact .more Unicode.blanks_nil ht ha hrest

/-- Blanks after a predicate can be left out, as none of its terms ends in
one. -/
theorem Conjunction.trimEnd (h : Conjunction text cs) : Conjunction (Unicode.trimEnd text) cs := by
  induction h with
  | @last b t a _ hb ht ha =>
    have hlast := (ht.solid.append b).last
    rw [← List.append_assoc, Unicode.trimEnd_append_blanks ha, Unicode.trimEnd_eq_self hlast]
    have h := Conjunction.last hb ht Unicode.blanks_nil
    rwa [List.append_nil] at h
  | @more b t a rest _ _ hb ht ha hrest ih =>
    have htrim : Unicode.trimEnd (b ++ (t ++ (a ++ '&' :: '&' :: rest))) =
        b ++ (t ++ (a ++ '&' :: '&' :: Unicode.trimEnd rest)) := by
      have h := Unicode.trimEnd_append hrest.not_blanks (b ++ (t ++ (a ++ ['&', '&'])))
      simpa using h
    rw [htrim]
    exact .more hb ht ha ih

/-- Blanks around a predicate can be left out.  The path keeps a predicate
without them, and reads it like that. -/
theorem Conjunction.trim (h : Conjunction text cs) : Conjunction (Unicode.trim text) cs :=
  h.trimStart.trimEnd

/-! ## The scan for the closing bracket -/

/-- A character of a bare name that opens no quotes.  The predicate reader takes
quotes into bare names as well, but the scan for the closing bracket does
not. -/
def isPlainNameChar (c : Char) : Bool := !endsName c && !isQuote c

theorem endsName_of_isPlainNameChar {c : Char} (h : isPlainNameChar c = true) :
    endsName c = false := by
  simp only [isPlainNameChar, Bool.and_eq_true, Bool.not_eq_true'] at h
  exact h.1

/-- The scan does not see the plain characters of names: they are no quotes, and
brackets end a name. -/
theorem idle_of_isPlainNameChar {c : Char} (h : isPlainNameChar c = true) : Mode.Idle c := by
  simp only [isPlainNameChar, Bool.and_eq_true, Bool.not_eq_true'] at h
  have hne : ∀ d, endsName d = true → c ≠ d := by
    rintro d hd rfl
    rw [h.1] at hd
    cases hd
  exact ⟨h.2, hne _ (by decide), hne _ (by decide), hne _ (by decide)⟩

theorem idle_of_isNumberChar {c : Char} (h : isNumberChar c = true) : Mode.Idle c := by
  have hne : ∀ d, isNumberChar d = false → c ≠ d := by
    rintro d hd rfl
    rw [h] at hd
    cases hd
  refine ⟨?_, hne _ (by decide), hne _ (by decide), hne _ (by decide)⟩
  rw [Bool.eq_false_iff]
  intro hq
  rcases Quoted.isQuote_iff.mp hq with rfl | rfl <;> exact absurd h (by decide)

/-- A row of given characters that mean nothing to the scan. -/
theorem keeps_of_all {s : List Char} (h : s.all (Mode.Idle ·) = true) :
    (Mode.outside depth).Keeps s :=
  Mode.keeps_idle (List.all_iff_forall_prop.mp h)

/-- The scan passes a name and is where it was before, with the brackets of a
quoted name opened and closed. -/
theorem PlacedAccessor.keeps (depth : Nat) (h : PlacedAccessor isPlainNameChar text key rest) :
    ∃ t, text = t ++ rest ∧ (Mode.outside (depth + 1)).Keeps t := by
  cases h with
  | name _ hrun _ =>
    have hdot : (Mode.outside (depth + 1)).Keeps ['.'] := keeps_of_all (by decide)
    exact ⟨_, rfl, hdot.append (Mode.keeps_idle fun c hc => idle_of_isPlainNameChar (hrun c hc))⟩
  | @quoted b literal name a _ hb hl ha =>
    refine ⟨['['] ++ (b ++ (literal ++ (a ++ [']']))), by simp, ?_⟩
    exact (keeps_of_all rfl).append ((Mode.keeps_blanks hb).append
      ((Mode.keeps_literal hl).append ((Mode.keeps_blanks ha).append Mode.keeps_bracket)))

/-- The scan passes an operand and is where it was before, whether the operand
is quoted or not. -/
theorem PlacedOperand.keeps (depth : Nat) (h : PlacedOperand text v rest) :
    ∃ t, text = t ++ rest ∧ (Mode.outside depth).Keeps t := by
  cases h with
  | string hl => exact ⟨_, rfl, Mode.keeps_literal hl⟩
  | word _ _ hv =>
    refine ⟨_, rfl, ?_⟩
    rcases word_of_valueOfWord? hv with rfl | rfl | rfl <;> exact keeps_of_all (by decide)
  | number _ hrun _ _ =>
    exact ⟨_, rfl, Mode.keeps_idle fun c hc => idle_of_isNumberChar (hrun c hc)⟩

theorem Sign.keeps {s : List Char} (h : Sign s operator) : (Mode.outside depth).Keeps s := by
  cases h <;> exact keeps_of_all (by decide)

/-- The scan passes a term and is where it was before. -/
theorem PlacedTerm.keeps (depth : Nat) (h : PlacedTerm isPlainNameChar text c rest) :
    ∃ t, text = t ++ rest ∧ (Mode.outside (depth + 1)).Keeps t := by
  have hnode : (Mode.outside (depth + 1)).Keeps ['@'] := keeps_of_all (by decide)
  cases h with
  | present hacc _ =>
    obtain ⟨t, rfl, ht⟩ := hacc.keeps depth
    exact ⟨['@'] ++ t, rfl, hnode.append ht⟩
  | @absent b _ _ _ hb hacc _ =>
    obtain ⟨t, rfl, ht⟩ := hacc.keeps depth
    refine ⟨['!'] ++ (b ++ (['@'] ++ t)), by simp, ?_⟩
    exact (keeps_of_all (by decide)).append ((Mode.keeps_blanks hb).append (hnode.append ht))
  | @comparison _ b _ a _ _ _ _ _ hacc _ hb hsign ha hop =>
    obtain ⟨t, rfl, ht⟩ := hacc.keeps depth
    obtain ⟨s, rfl, hs, -⟩ := hsign
    obtain ⟨l, rfl, hl⟩ := hop.keeps (depth + 1)
    refine ⟨['@'] ++ (t ++ (b ++ (s ++ (a ++ l)))), by simp, ?_⟩
    exact hnode.append (ht.append ((Mode.keeps_blanks hb).append
      (hs.keeps.append ((Mode.keeps_blanks ha).append hl))))

/-- The scan passes a predicate whose bare names hold no quotes as if nothing
stood there. -/
theorem PlacedConjunction.keeps (depth : Nat) (h : PlacedConjunction isPlainNameChar text cs) :
    (Mode.outside (depth + 1)).Keeps text := by
  induction h with
  | last hb hterm ha =>
    obtain ⟨t, rfl, ht⟩ := hterm.keeps depth
    exact (Mode.keeps_blanks hb).append (ht.append (Mode.keeps_blanks ha))
  | @more b _ a rest _ _ hb hterm ha _ ih =>
    obtain ⟨t, rfl, ht⟩ := hterm.keeps depth
    have htext :
        b ++ (t ++ (a ++ '&' :: '&' :: rest)) = b ++ (t ++ (a ++ (['&', '&'] ++ rest))) := rfl
    rw [htext]
    exact (Mode.keeps_blanks hb).append (ht.append ((Mode.keeps_blanks ha).append
      ((keeps_of_all (by decide)).append ih)))

end DocPath.PredicateReader

namespace DocPath.Fragment

open DocPath.Bracket (Mode)
open PathReader (Item Splits)
open PredicateReader (Conjunction PlacedConjunction isPlainNameChar)
open Unicode (trim Blanks Trimmed)

variable {e : List Char}

/-- The scan passes a predicate without quotes in bare names, and comes to the
bracket behind it. -/
theorem enclosable_of_placed {cs : List Criterion} (h : PlacedConjunction isPlainNameChar e cs) :
    Enclosable (trim e) := by
  have hkeeps : (Mode.outside 1).Keeps e := h.keeps 0
  have hgrammar := h.conjunction fun _ => PredicateReader.endsName_of_isPlainNameChar
  exact {
    ne_nil := fun hn => hgrammar.not_blanks (Unicode.trim_eq_nil_iff.mp hn)
    trimmed := Unicode.trimmed_trim e
    passes := Mode.passes_trim hkeeps.1
    ends := ⟨1, Nat.le_refl 1, Mode.after_trim_eq_outside.mpr hkeeps.2⟩ }

/-- Between its parentheses a predicate may have blanks around it.  The closing
parenthesis leads out of the depth that the opening one has led into. -/
theorem closes_of_enclosable_trim (h : Enclosable (trim e)) :
    (Mode.outside 0).Closes ('?' :: '(' :: (e ++ [')'])) := by
  obtain ⟨depth, hle, hend⟩ := h.ends
  obtain ⟨b, a, hb, ha, he⟩ := Unicode.exists_blanks_trim e
  have hpass : (Mode.outside 1).Passes (b ++ trim e ++ a) := by
    simp only [Mode.passes_append, Mode.after_append, (Mode.keeps_blanks hb).2, hend]
    exact ⟨⟨(Mode.keeps_blanks hb).1, h.passes⟩, (Mode.keeps_blanks ha).1⟩
  rw [← he] at hpass
  have hafter : (Mode.outside 1).after e = .outside depth := Mode.after_trim_eq_outside.mp hend
  have hq : (Mode.outside 0).next '?' = .outside 0 := by decide
  have hopen : (Mode.outside 0).next '(' = .outside 1 := by decide
  have hclose : (Mode.outside depth).next ')' = .outside 0 := by
    simp [Mode.next, Quoted.isQuote]
    omega
  refine ⟨?_, ?_⟩
  · simp [hq, hopen, hpass]
  · simp [hq, hopen, hafter, hclose]

/-- A predicate that the scan passes is the only content of the brackets around
it. -/
theorem ofText_enclosed {e : String} (h : Enclosable (trim e.toList)) :
    ofText ("$[?(" ++ e ++ ")]") = .ok [.root, .expression (String.ofList (trim e.toList))] := by
  have htext : ("$[?(" ++ e ++ ")]").toList =
      '$' :: '[' :: ('?' :: '(' :: (e.toList ++ [')']) ++ [']']) := by
    simp
  have htrimmed : Trimmed ('$' :: '[' :: ('?' :: '(' :: (e.toList ++ [')']) ++ [']'])) :=
    Unicode.trimmed_cons_concat (by decide) (by decide) ('[' :: '?' :: '(' :: (e.toList ++ [')']))
  have hne : ¬ Blanks e.toList := fun hb => h.ne_nil (Unicode.trim_eq_nil_iff.mpr hb)
  have hmeans := Bracket.Means.expression Unicode.blanks_nil hne
  rw [List.nil_append, ← Unicode.trim_eq_self (trimmed_enclosed e.toList)] at hmeans
  rw [ofText_eq_ok_iff_path, htext, Unicode.trim_eq_self htrimmed, PathReader.path_eq_ok_iff]
  exact ⟨List.cons_ne_nil _ _, _,
    .cons (.bracket (closes_of_enclosable_trim h) hmeans PathReader.separated_nil) .nil, rfl⟩

end DocPath.Fragment

namespace DocPath.CompiledPath

open Fragment (Enclosable)
open PredicateReader (PlacedConjunction isPlainNameChar)
open Unicode (trim)

/-- **A path can hold a predicate exactly if the scan for its closing bracket
passes it**, and the scan passes every predicate whose bare names hold no
quotes.  The path then has a single step besides the root, with the filter that
the predicate reads as by itself. -/
theorem compile_enclosed {e : String} {f : Filter} {config : Config}
    (hread : Filter.ofText e = .ok f) (hvalid : config.validate = .ok ())
    (hlength : ("$[?(" ++ e ++ ")]").length ≤ config.maxPathLength.toNat)
    (hcount : 2 ≤ config.maxFragments.toNat) :
    (compile ("$[?(" ++ e ++ ")]") [] config =
        .ok ⟨"$[?(" ++ e ++ ")]", [.root, .expression (String.ofList (trim e.toList))],
          [.root, .predicate (.filter f) true]⟩ ↔ Enclosable (trim e.toList)) ∧
      (PlacedConjunction isPlainNameChar e.toList f.criteria → Enclosable (trim e.toList)) := by
  refine ⟨⟨fun h => ?_, fun h => ?_⟩, Fragment.enclosable_of_placed⟩
  · obtain ⟨-, -, htext, -⟩ := compile_eq_ok_iff.mp h
    obtain ⟨gs, he, hfits, -⟩ := Fragment.wellFormed_of_ofText htext
    cases he
    have hfit : Enclosable (String.ofList (trim e.toList)).toList :=
      hfits _ (List.mem_singleton_self _)
    rwa [String.toList_ofList] at hfit
  · have htrim : Filter.ofText (String.ofList (trim e.toList)) = .ok f := by
      rw [Filter.ofText_eq_ok_iff] at hread ⊢
      rw [String.toList_ofList]
      exact hread.trim
    exact compile_eq_ok_iff.mpr ⟨hvalid, hlength, Fragment.ofText_enclosed h, hcount,
      ⟨[], .plain rfl (.expression htrim .nil)⟩, rfl⟩

/-- A name that ends in a backslash, and a literal that holds what ends
brackets. -/
theorem compile_enclosed_backslash :
    ∃ e f, e = " @.n\\ != ')]'" ∧ f = Filter.mk [⟨"n\\", .notEqualTo (.string ")]")⟩] ∧
      Filter.ofText e = .ok f ∧
      compile ("$[?(" ++ e ++ ")]") [] {} =
        .ok ⟨"$[?(" ++ e ++ ")]", [.root, .expression "@.n\\ != ')]'"],
          [.root, .predicate (.filter f) true]⟩ := by
  have hblank : Unicode.Blanks [' '] := by simp [Unicode.Blanks, Unicode.isBlank]
  have hgrammar : PlacedConjunction isPlainNameChar
      ([' '] ++ '@' :: '.' :: (['n', '\\'] ++ ([' '] ++ (['!', '='] ++ ([' '] ++
        (Quoted.literal '\'' [')', ']'] ++ [])))))) [⟨"n\\", .notEqualTo (.string ")]")⟩] := by
    refine .last hblank
      (.comparison (.name (by decide) (List.all_eq_true.mp (by decide)) ?_) ?_ hblank
      (PredicateReader.Sign.notEqualTo.longest (by decide)) hblank
      (.string (Quoted.literal_literal '\'' (by decide) [')', ']']))) Unicode.blanks_nil
    · intro c hc
      cases hc
      decide
    · intro c hc
      cases hc
      decide
  have hread : Filter.ofText " @.n\\ != ')]'" = .ok ⟨[⟨"n\\", .notEqualTo (.string ")]")⟩]⟩ :=
    Filter.ofText_eq_ok_iff.mpr
      (hgrammar.conjunction fun _ => PredicateReader.endsName_of_isPlainNameChar)
  obtain ⟨hiff, hplain⟩ := compile_enclosed hread (show ({} : Config).validate = .ok () from rfl)
    (by decide) (by decide)
  have htrim : String.ofList (trim " @.n\\ != ')]'".toList) = "@.n\\ != ')]'" := by decide
  rw [htrim] at hiff
  exact ⟨_, _, rfl, rfl, hread, hiff.mpr (hplain hgrammar)⟩

/-- A quote in a bare name is a part of the name for the reader of predicates,
and opens a literal for the scan for the closing bracket. -/
theorem not_compile_quote_in_name :
    Filter.ofText "@.it's" = .ok ⟨[⟨"it's", .present true⟩]⟩ ∧
      ∀ path, compile ("$[?(" ++ "@.it's" ++ ")]") [] {} ≠ .ok path := by
  refine ⟨?_, fun path h => ?_⟩
  · have hname : PredicateReader.Accessor ('.' :: ['i', 't', '\'', 's']) "it's" := by
      have hall : ['i', 't', '\'', 's'].all (!PredicateReader.endsName ·) = true := by decide
      exact .name (by decide) (by simpa using hall)
    exact Filter.ofText_eq_ok_iff.mpr
      (.last Unicode.blanks_nil (.node (.present hname)) Unicode.blanks_nil)
  · obtain ⟨-, -, htext, -⟩ := compile_eq_ok_iff.mp h
    have herror : Fragment.ofText ("$[?(" ++ "@.it's" ++ ")]") =
        .error (.invalidPath "$[?(@.it's)]" .unterminatedQuote (some 1)) := by
      decide +kernel
    rw [herror] at htext
    cases htext

end DocPath.CompiledPath

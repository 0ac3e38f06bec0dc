import DocPath.Proofs.Path.Naming
import DocPath.Proofs.Text.Enclosed

/-! # Blanks around a name after a dot

A bare name takes the blanks on both sides of it along, and loses them when it
is trimmed.  A quoted name is recognized by the quote right after the dot: a
blank before the quote makes it a bare name with a quote in it, and a blank
after the name stands where a separator has to.  So blanks around a bare name
make no difference, and around a quoted name only those do not that end the
whole path (`ofText_padded`). -/

namespace DocPath

open Quoted (isQuote Literal Enclosed)
open Unicode (isBlank trim trimEnd Blanks)

namespace Unicode

variable {text : List Char} {c : Char}

theorem trimEnd_cons (hc : isBlank c = false) : trimEnd (c :: text) = c :: trimEnd text := by
  obtain ⟨a, ha, he⟩ := exists_trimEnd_blanks text
  have hlast : ∀ d, (c :: trimEnd text).getLast? = some d → isBlank d = false := by
    intro d hd
    rw [List.getLast?_cons] at hd
    cases htext : (trimEnd text).getLast? with
    | none =>
      rw [htext] at hd
      cases hd
      exact hc
    | some e =>
      rw [htext] at hd
      cases hd
      exact last_trimEnd htext
  conv => lhs; rw [he, ← List.cons_append]
  rw [trimEnd_append_blanks ha, trimEnd_eq_self hlast]

/-- What is left of a text begins where the text begins. -/
theorem head_of_trimEnd (h : (trimEnd text).head? = some c) : text.head? = some c := by
  obtain ⟨a, -, he⟩ := exists_trimEnd_blanks text
  rw [he, List.head?_append, h]
  rfl

end Unicode

namespace PathReader

variable {text rest raw l a b : List Char} {quote c : Char} {fs : List Fragment}

theorem nameChar_of_isBlank (hc : isBlank c = true) : NameChar c where
  ne_dot := Unicode.ne_of_isBlank hc (by decide)
  ne_open := Unicode.ne_of_isBlank hc (by decide)
  ne_close := Unicode.ne_of_isBlank hc (by decide)
  not_quote := by
    cases hq : isQuote c with
    | false => rfl
    | true => rw [Quoted.isBlank_of_isQuote hq] at hc; cases hc

/-- Blanks and a quote make a bare name with a quote in it, since quotes are
looked for only where the name begins. -/
theorem scan_blanks_quote (hb : Blanks b) (hne : b ≠ []) (hq : isQuote quote = true) :
    scan (b ++ quote :: text) = .error (.outside ⟨.quoteInName quote, (quote :: text).length⟩) := by
  obtain ⟨c, b, rfl⟩ := List.exists_cons_of_ne_nil hne
  have hrun : ∀ d ∈ c :: b, (!endsName d && !isQuote d) = true :=
    fun d hd => isNameChar_iff.mpr (nameChar_of_isBlank (hb d hd))
  have hends : Ends (fun d => !endsName d && !isQuote d) (quote :: text) := by
    rintro d ⟨⟩
    simp [hq]
  have hname : bareName (c :: b ++ quote :: text) =
      .error (.outside ⟨.quoteInName quote, (quote :: text).length⟩) := by
    simp only [bareName, dropWhile_run hrun hends, hq]
    rfl
  refine scan_eq_error ?_
  rw [item_bare (nameChar_of_isBlank (hb c List.mem_cons_self))]
  exact hname

/-- No separator is a blank, so nothing is read if a blank follows a quoted
name. -/
theorem scan_enclosed_blank (hl : Enclosed l) (hc : isBlank c = true) (rest : List Char) :
    ∃ stop, scan (l ++ c :: rest) = .error stop := by
  obtain ⟨quote, body, hq, hbody, rfl⟩ := hl
  rw [List.cons_append]
  cases hitem : item (quote :: (body ++ [quote] ++ c :: rest)) with
  | error stop => exact ⟨stop, scan_eq_error hitem⟩
  | ok p =>
    have hname : quotedName quote (body ++ [quote] ++ c :: rest) = .ok p := by
      rcases Quoted.isQuote_iff.mp hq with rfl | rfl <;> exact hitem
    obtain ⟨_, name, ⟨quote', body', hq', hspells, rfl⟩, he, hsep, -⟩ :=
      (quotedName_eq_ok_iff hq).mp hname
    obtain ⟨rfl, htail⟩ := List.cons.inj he
    have hends : body ++ quote :: (c :: rest) = body' ++ quote :: p.2 := by simpa using htail
    obtain ⟨-, hafter⟩ :=
      hbody.append_quote_inj (Quoted.ne_backslash_of_isQuote hq) (hspells.inside hq) hends
    have hne := nameChar_of_isBlank hc
    rcases hsep c (by rw [← hafter]; rfl) with h | h
    · exact absurd h hne.ne_dot
    · exact absurd h hne.ne_open

/-- No separator is a blank, so a separated text is no row of blanks. -/
theorem not_blanks_of_separated (hsep : Separated (c :: rest)) : ¬ Blanks (c :: rest) := by
  intro h
  have hc := h c List.mem_cons_self
  rcases hsep c rfl with rfl | rfl <;> cases hc

theorem scan_bare (hname : ∀ c ∈ raw, NameChar c) (hblank : ¬ Blanks raw) (hsep : Separated rest) :
    scan (raw ++ rest) = (scan rest).map ([nameFragment (trim raw)] ++ ·) := by
  have hitem := item_of_grammar (Item.bare hname hblank hsep)
  obtain ⟨c, raw, rfl⟩ := List.exists_cons_of_ne_nil
    (show raw ≠ [] from fun h => hblank (h ▸ Unicode.blanks_nil))
  exact scan_cons hitem

/-- A bare name is read without the blanks around it, also without those that
are trimmed off at the end of the whole text. -/
theorem scan_trimEnd_bare (hname : ∀ c ∈ raw, NameChar c) (hblank : ¬ Blanks raw)
    (hsep : Separated rest) :
    scan (trimEnd (raw ++ rest)) = (scan (trimEnd rest)).map ([nameFragment (trim raw)] ++ ·) := by
  cases rest with
  | nil =>
    obtain ⟨a, ha, he⟩ := Unicode.exists_trimEnd_blanks raw
    have htrim : trim raw = trim (trimEnd raw) := by
      have h : trim ([] ++ trimEnd raw ++ a) = trim (trimEnd raw) :=
        Unicode.trim_blanks_append_blanks Unicode.blanks_nil ha
      rwa [List.nil_append, ← he] at h
    have hleft := scan_bare (fun c hc => hname c (he ▸ List.mem_append_left a hc))
      (fun h => hblank (he ▸ h.append ha)) separated_nil
    rw [← htrim, List.append_nil] at hleft
    rw [List.append_nil, hleft]
    rfl
  | cons c rest =>
    rw [Unicode.trimEnd_append (not_blanks_of_separated hsep)]
    exact scan_bare hname hblank fun d hd => hsep d (Unicode.head_of_trimEnd hd)

theorem head_ne_dot_of_nameChar (hname : ∀ c ∈ raw, NameChar c) (hne : raw ≠ []) :
    (raw ++ rest).head? ≠ some '.' := by
  obtain ⟨c, raw, rfl⟩ := List.exists_cons_of_ne_nil hne
  rintro ⟨⟩
  exact (hname '.' List.mem_cons_self).ne_dot rfl

theorem head_ne_dot_of_enclosed (hl : Enclosed l) (hb : Blanks b) :
    (b ++ l ++ rest).head? ≠ some '.' := by
  cases b with
  | nil =>
    obtain ⟨quote, body, hq, -, rfl⟩ := hl
    rintro ⟨⟩
    cases hq
  | cons c b =>
    rintro ⟨⟩
    exact absurd (hb '.' List.mem_cons_self) (by decide)

theorem not_blanks_of_enclosed (hl : Enclosed l) : ¬ Blanks (l ++ rest) := by
  obtain ⟨quote, body, hq, -, rfl⟩ := hl
  intro h
  have hquote := h quote List.mem_cons_self
  rw [Quoted.isBlank_of_isQuote hq] at hquote
  cases hquote

/-- A quoted name is read without blanks around it only, apart from those that
are trimmed off at the end of the whole text. -/
theorem scan_trimEnd_quoted (hl : Enclosed l) (hb : Blanks b) (ha : Blanks a)
    (hsep : Separated rest) :
    scan (trimEnd (b ++ l ++ a ++ rest)) = .ok fs ↔
      (b = [] ∧ (a = [] ∨ rest = [])) ∧ scan (trimEnd (l ++ rest)) = .ok fs := by
  by_cases hnil : b = []
  · subst hnil
    cases rest with
    | nil => simp [Unicode.trimEnd_append_blanks ha]
    | cons c rest =>
      cases a with
      | nil => simp
      | cons d a =>
        obtain ⟨stop, herror⟩ :=
          scan_enclosed_blank hl (ha d List.mem_cons_self) (a ++ trimEnd (c :: rest))
        rw [List.nil_append, Unicode.trimEnd_append (not_blanks_of_separated hsep),
          List.append_assoc, List.cons_append, herror]
        simp
  · -- the quote that opens the name is left where it is, with a blank before it
    rw [List.append_assoc, List.append_assoc, Unicode.trimEnd_append (not_blanks_of_enclosed hl)]
    obtain ⟨quote, body, hq, -, rfl⟩ := hl
    rw [List.cons_append, Unicode.trimEnd_cons (Quoted.isBlank_of_isQuote hq),
      scan_blanks_quote hb hnil hq]
    simp [hnil]

end PathReader

namespace Fragment

open PathReader (NameChar Separated)

/-- A path that goes on with a dot and a name, and then with more.  The name is
given with the blanks around it. -/
def dotted (p : String) (name : List Char) (q : String) : String :=
  p ++ "." ++ String.ofList name ++ q

variable {p q : String} {name w₁ w₂ : List Char} {fs hs : List Fragment}

/-- What comes after the dot is read by itself, and the path before it as if
nothing followed. -/
theorem ofText_dotted_eq_ok_iff (hp : ofText p = .ok fs)
    (hblank : ∀ c, p.toList.getLast? = some c → isBlank c = false)
    (hdot : p.toList.getLast? ≠ some '.') (hname : (name ++ q.toList).head? ≠ some '.') :
    ofText (dotted p name q) = .ok hs ↔
      ∃ gs, PathReader.scan (trimEnd (name ++ q.toList)) = .ok gs ∧ hs = fs ++ gs := by
  have htext : dotted p name q = p ++ String.ofList ('.' :: (name ++ q.toList)) := by
    rw [← String.toList_inj]
    simp [dotted]
  have hpath : ∀ gs, ofText (String.ofList ('.' :: (name ++ q.toList))) = .ok (root :: gs) ↔
      PathReader.scan (trimEnd (name ++ q.toList)) = .ok gs := by
    intro gs
    have htrim : trim ('.' :: (name ++ q.toList)) = '.' :: trimEnd (name ++ q.toList) := by
      rw [trim, Unicode.trimStart_eq_self (by rintro c ⟨⟩; rfl), Unicode.trimEnd_cons rfl]
    rw [ofText_eq_ok_iff_path, String.toList_ofList, htrim]
    show (PathReader.scan ('.' :: _)).map (root :: ·) = _ ↔ _
    rw [scan_dot fun h => hname (Unicode.head_of_trimEnd h), map_eq_ok_iff]
    constructor
    · rintro ⟨_, h, he⟩
      cases he
      exact h
    · exact fun h => ⟨gs, h, rfl⟩
  rw [htext, ofText_append_eq_ok_iff hp hblank (.inr ⟨by simp, hdot⟩)]
  simp only [hpath]

/-- **Blanks around a name after a dot** make no difference if the name is bare.
Around a quoted name none may stand, except after it at the end of the path. -/
theorem ofText_padded (hp : ofText p = .ok fs)
    (hblank : ∀ c, p.toList.getLast? = some c → isBlank c = false)
    (hdot : p.toList.getLast? ≠ some '.')
    (hw₁ : Blanks w₁) (hw₂ : Blanks w₂) (hq : Separated q.toList) :
    (∀ raw, (∀ c ∈ raw, NameChar c) → ¬ Blanks raw → ∀ gs,
      (ofText (dotted p (w₁ ++ raw ++ w₂) q) = .ok gs ↔ ofText (dotted p raw q) = .ok gs)) ∧
    (∀ l, Enclosed l → ∀ gs,
      (ofText (dotted p (w₁ ++ l ++ w₂) q) = .ok gs ↔
        (w₁ = [] ∧ (w₂ = [] ∨ q = "")) ∧ ofText (dotted p l q) = .ok gs)) := by
  constructor
  · intro raw hname hraw gs
    have hne : raw ≠ [] := fun h => hraw (h ▸ Unicode.blanks_nil)
    have hpadded : ∀ c ∈ w₁ ++ raw ++ w₂, NameChar c := by
      intro c hc
      simp only [List.mem_append] at hc
      rcases hc with (hc | hc) | hc
      · exact PathReader.nameChar_of_isBlank (hw₁ c hc)
      · exact hname c hc
      · exact PathReader.nameChar_of_isBlank (hw₂ c hc)
    have hblanks : ¬ Blanks (w₁ ++ raw ++ w₂) := fun h => hraw fun c hc => h c (by simp [hc])
    rw [ofText_dotted_eq_ok_iff hp hblank hdot
      (PathReader.head_ne_dot_of_nameChar hpadded (by simp [hne])),
      ofText_dotted_eq_ok_iff hp hblank hdot (PathReader.head_ne_dot_of_nameChar hname hne),
      PathReader.scan_trimEnd_bare hpadded hblanks hq, PathReader.scan_trimEnd_bare hname hraw hq,
      Unicode.trim_blanks_append_blanks hw₁ hw₂]
  · intro l hl gs
    have hfirst : (w₁ ++ l ++ w₂ ++ q.toList).head? ≠ some '.' := by
      rw [List.append_assoc _ w₂]
      exact PathReader.head_ne_dot_of_enclosed hl hw₁
    have hquote : (l ++ q.toList).head? ≠ some '.' :=
      PathReader.head_ne_dot_of_enclosed hl Unicode.blanks_nil
    rw [ofText_dotted_eq_ok_iff hp hblank hdot hfirst,
      ofText_dotted_eq_ok_iff hp hblank hdot hquote]
    simp only [PathReader.scan_trimEnd_quoted hl hw₁ hw₂ hq, String.toList_eq_nil_iff, and_assoc,
      exists_and_left]

/-- A bare name and a quoted one, with blanks around them, in the middle of a
path. -/
theorem ofText_padded_between :
    ofText "$[0]" = .ok [root, .index 0] ∧ Blanks [' '] ∧ Blanks ['\t', ' '] ∧
    Separated "..b".toList ∧ ofText (dotted "$[0]" ([' '] ++ "a b".toList ++ ['\t', ' ']) "..b") =
        .ok [root, .index 0, .property "a b", .descent, .property "b"] ∧
      ∀ gs, ofText (dotted "$[0]" ([' '] ++ "'a b'".toList ++ ['\t', ' ']) "..b") ≠ .ok gs := by
  have hp : ofText "$[0]" = .ok [root, .index 0] := by decide +kernel
  have hw₁ : Blanks [' '] := by decide
  have hw₂ : Blanks ['\t', ' '] := by decide
  have hq : Separated "..b".toList := by rintro c ⟨⟩; exact .inl rfl
  obtain ⟨hbare, hquoted⟩ := ofText_padded hp (by rintro c ⟨⟩; rfl) (by decide) hw₁ hw₂ hq
  have hname : ∀ c ∈ "a b".toList, NameChar c := by
    intro c hc
    have hmem : c = 'a' ∨ c = ' ' ∨ c = 'b' := by simpa using hc
    rcases hmem with rfl | rfl | rfl <;> exact ⟨by decide, by decide, by decide, rfl⟩
  refine ⟨hp, hw₁, hw₂, hq, ?_, fun gs h => ?_⟩
  · exact (hbare _ hname (by decide) _).mpr (by decide +kernel)
  · have hl : Enclosed "'a b'".toList :=
      Quoted.enclosed_of_literal (Quoted.literal_literal '\'' rfl "a b".toList)
    exact absurd ((hquoted _ hl gs).mp h).1.1 (by decide)

/-- A blank between the dot and a quoted name is refused. -/
theorem not_padded_quoted :
    ¬ ∀ (p q : String) (fs : List Fragment) (w₁ w₂ l name : List Char), ofText p = .ok fs →
      (∀ c, p.toList.getLast? = some c → isBlank c = false) → p.toList.getLast? ≠ some '.' →
        Blanks w₁ → Blanks w₂ → Separated q.toList → Literal l name →
          ∀ gs, ofText (dotted p (w₁ ++ l ++ w₂) q) = .ok gs ↔ ofText (dotted p l q) = .ok gs := by
  intro h
  have hl : Literal "'a'".toList "a".toList := Quoted.literal_literal '\'' rfl "a".toList
  have hread := h "$" "" [root] [' '] [] _ _ (by decide +kernel) (by rintro c ⟨⟩; rfl) (by decide)
    (by decide) (by decide) PathReader.separated_nil hl [root, .property "a"]
  have herror : ofText "$. 'a'" = .error (.invalidPath "$. 'a'" (.quoteInName '\'') (some 3)) := by
    decide +kernel
  have hpadded := hread.mpr (by decide +kernel)
  rw [show dotted "$" ([' '] ++ "'a'".toList ++ []) "" = "$. 'a'" from rfl, herror] at hpadded
  cases hpadded

end Fragment

end DocPath

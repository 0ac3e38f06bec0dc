import DocPath.Json.Printer
import DocPath.Proofs.Path.Spelling
import DocPath.Proofs.Text.Form

/-! # Names in paths

A property is named in brackets, with a dot before them or without, or right
after a dot, and its name may stand between quotes of either kind.  All these
segments mean the same (`ofText_named`).  Between quotes, each character may
take any of its forms: `read_forms` says that the name is read from all of them,
and `read_outcome` what is read from any text, and where and why a text is
refused. -/

namespace DocPath

open Quoted (isQuote Literal)
open Unicode (isBlank trim Blanks Trimmed)

namespace PathReader

variable {text rest name l b a : List Char} {fs : List Fragment}

theorem trimmed_of_literal (h : Literal l name) : Trimmed l := by
  obtain ⟨quote, body, hq, -, rfl⟩ := h
  exact Unicode.trimmed_cons_concat (Quoted.isBlank_of_isQuote hq)
    (Quoted.isBlank_of_isQuote hq) body

/-- A quoted name in brackets, with blanks around it. -/
theorem item_bracketed (hl : Literal l name) (hb : Blanks b) (ha : Blanks a)
    (hrest : Separated rest) :
    Item ('[' :: (b ++ l ++ a ++ [']']) ++ rest) [.property (String.ofList name)] rest := by
  have hclose : (Bracket.Mode.outside 0).Closes (b ++ l ++ a) :=
    (((Bracket.Mode.keeps_blanks hb).append (Bracket.Mode.keeps_literal hl)).append
      (Bracket.Mode.keeps_blanks ha)).closes
  have hmeans : Bracket.Means (trim (b ++ l ++ a)) (.property (String.ofList name)) := by
    rw [Unicode.trim_eq_of_blanks hb ha (trimmed_of_literal hl)]
    exact .name hl
  have hitem := Item.bracket hclose hmeans hrest
  simpa using hitem

/-- A text that opens with a separator, and has no blanks around it, is read as
it stands. -/
theorem Splits.ofText (h : Splits text fs) (hsep : Separated text) (hne : text ≠ [])
    (htrim : Trimmed text) : Fragment.ofText (String.ofList text) = .ok (.root :: fs) := by
  rw [Fragment.ofText_eq_ok_iff_follows, String.toList_ofList, Unicode.trim_eq_self htrim]
  refine ⟨hne, fs, ?_, rfl⟩
  rw [afterRoot_of_separated hsep]
  exact h

theorem scan_eq_error {c : Char} {stop : PathStop} (h : item (c :: text) = .error stop) :
    scan (c :: text) = .error stop := by
  rw [scan]
  split
  · next hi =>
    rw [h] at hi
    cases hi
    rfl
  · next hi =>
    rw [h] at hi
    cases hi

end PathReader

namespace Fragment

open PathReader (Item NameChar Separated Splits)
open Quoted (literal)

/-! ## Segments for a name -/

/-- A name that can stand after a dot without quotes: its characters are those
of bare names, no blank stands at its ends, and it is neither empty nor the star
of the wildcard. -/
structure Bare (name : List Char) : Prop where
  ne_nil : name ≠ []
  trimmed : Trimmed name
  nameChar : ∀ c ∈ name, NameChar c
  ne_star : name ≠ ['*']

/-- The segments that name a property: brackets with a literal of either quote,
which may stand after a dot, or a dot and the literal, or a dot and the bare
name where this can stand. -/
inductive Names (name : List Char) : List Char → Prop
  | bracket {quote : Char} {b a : List Char} : isQuote quote = true → Blanks b → Blanks a →
      Names name ('[' :: (b ++ literal quote name ++ a ++ [']']))
  | dotBracket {quote : Char} {b a : List Char} : isQuote quote = true → Blanks b → Blanks a →
      Names name ('.' :: '[' :: (b ++ literal quote name ++ a ++ [']']))
  | quoted {quote : Char} : isQuote quote = true → Names name ('.' :: literal quote name)
  | bare : Bare name → Names name ('.' :: name)

variable {p q : String} {name s t : List Char} {fs hs : List Fragment} {c : Char}

theorem Bare.item (h : Bare name) : Item name [.property (String.ofList name)] [] := by
  have hitem := Item.bare h.nameChar (fun hb => ?_) PathReader.separated_nil
  · rwa [List.append_nil, Unicode.trim_eq_self h.trimmed, PathReader.nameFragment, if_neg h.ne_star]
      at hitem
  · rw [← Unicode.trim_eq_nil_iff, Unicode.trim_eq_self h.trimmed] at hb
    exact h.ne_nil hb

/-- One dot in front of an item is no item. -/
theorem splits_dot (h : Item s fs []) (hs : s.head? ≠ some '.') : Splits ('.' :: s) fs := by
  have hsplits := Splits.cons (.dot hs) (.cons h .nil)
  rwa [List.nil_append, List.append_nil] at hsplits

theorem Names.splits (h : Names name s) : Splits s [.property (String.ofList name)] := by
  have hbracket : ∀ {quote : Char} {b a : List Char}, isQuote quote = true → Blanks b → Blanks a →
      Item ('[' :: (b ++ literal quote name ++ a ++ [']']))
        [.property (String.ofList name)] [] := by
    intro quote b a hq hb ha
    have hitem := PathReader.item_bracketed (Quoted.literal_literal quote hq name) hb ha
      PathReader.separated_nil
    rwa [List.append_nil] at hitem
  cases h with
  | bracket hq hb ha => exact .cons (hbracket hq hb ha) .nil
  | dotBracket hq hb ha => exact splits_dot (hbracket hq hb ha) (by simp)
  | @quoted quote hq =>
    have hitem := Item.quoted (Quoted.literal_literal quote hq name) PathReader.separated_nil
    rw [List.append_nil] at hitem
    refine splits_dot hitem fun hdot => ?_
    cases hdot
    cases hq
  | bare hbare =>
    refine splits_dot hbare.item fun hdot => ?_
    exact (hbare.nameChar '.' (List.mem_of_head? hdot)).ne_dot rfl

theorem Names.head (h : Names name s) : s.head? = some '[' ∨ s.head? = some '.' := by
  cases h with
  | bracket _ _ _ => exact .inl rfl
  | dotBracket _ _ _ | quoted _ | bare _ => exact .inr rfl

/-- A segment for a name ends in a bracket, in a quote or in the name itself. -/
theorem Names.last (h : Names name s) (hc : s.getLast? = some c) : isBlank c = false ∧ c ≠ '.' := by
  have hquote : ∀ {quote : Char}, isQuote quote = true → isBlank quote = false ∧ quote ≠ '.' := by
    intro quote hq
    refine ⟨Quoted.isBlank_of_isQuote hq, ?_⟩
    rintro rfl
    cases hq
  cases h with
  | bracket _ _ _ | dotBracket _ _ _ =>
    simp [List.getLast?_cons] at hc
    subst hc
    exact ⟨rfl, by decide⟩
  | quoted hq =>
    simp [literal, List.getLast?_cons] at hc
    subst hc
    exact hquote hq
  | bare hbare =>
    rw [← List.singleton_append, List.getLast?_append_of_ne_nil _ hbare.ne_nil] at hc
    exact ⟨hbare.trimmed.last c hc, (hbare.nameChar c (List.mem_of_getLast? hc)).ne_dot⟩

theorem Names.separated (h : Names name s) : Separated s := by
  intro c hc
  rcases h.head with hs | hs <;> rw [hs] at hc <;> cases hc
  · exact .inr rfl
  · exact .inl rfl

theorem Names.trimmed (h : Names name s) : Trimmed s where
  head c hc := by
    rcases h.separated c hc with rfl | rfl <;> rfl
  last _ hc := (h.last hc).1

theorem Names.ne_nil (h : Names name s) : s ≠ [] := by
  rintro rfl
  rcases h.head with h | h <;> cases h

theorem Names.reads (h : Names name s) :
    ofText (String.ofList s) = .ok [root, property (String.ofList name)] :=
  h.splits.ofText h.separated h.ne_nil h.trimmed

theorem ofText_sign : ofText "$" = .ok [root] := by decide +kernel

/-- A path goes on with the fragments of what stands after the sign of the
root. -/
theorem ofText_append_eq_ok_iff_rooted (hp : ofText p = .ok fs)
    (hblank : ∀ c, p.toList.getLast? = some c → isBlank c = false)
    (hdot : p.toList.getLast? ≠ some '.') (hq : Separated q.toList) :
    ofText (p ++ q) = .ok hs ↔ ∃ gs, ofText ("$" ++ q) = .ok (root :: gs) ∧ hs = fs ++ gs := by
  by_cases hnil : q = ""
  · subst hnil
    rw [String.append_empty, String.append_empty, hp, ofText_sign]
    simp [eq_comm]
  · obtain ⟨c, text, hqc⟩ := List.exists_cons_of_ne_nil (mt String.toList_eq_nil_iff.mp hnil)
    have hhead : q.toList.head? = some '[' ∨ q.toList.head? = some '.' := by
      rw [hqc] at hq ⊢
      rcases hq c rfl with rfl | rfl
      · exact .inr rfl
      · exact .inl rfl
    -- what the rest gives does not depend on the path before it, so it may as well be the sign of
    -- the root
    have hseam : ∀ r : String, r.toList.getLast? ≠ some '.' → Seam r q :=
      fun r hr => hhead.imp_right fun h => ⟨h, hr⟩
    rw [ofText_append_eq_ok_iff hp hblank (hseam p hdot)]
    refine exists_congr fun gs => and_congr_left fun _ => ?_
    rw [ofText_append_eq_ok_iff ofText_sign (by rintro c ⟨⟩; rfl) (hseam "$" (by decide))]
    simp

/-- A path, a segment for a name, and what goes on from there. -/
theorem Names.append (h : Names name s) (hp : ofText p = .ok fs)
    (hblank : ∀ c, p.toList.getLast? = some c → isBlank c = false)
    (hdot : p.toList.getLast? ≠ some '.') (hq : Separated q.toList) :
    ofText (p ++ String.ofList s ++ q) = .ok hs ↔
      ∃ gs, ofText ("$" ++ q) = .ok (root :: gs) ∧
        hs = fs ++ property (String.ofList name) :: gs := by
  have hsegment : ofText (p ++ String.ofList s) =
      .ok (fs ++ [property (String.ofList name)]) := by
    refine (ofText_append_eq_ok_iff hp hblank ?_).mpr ⟨_, h.reads, rfl⟩
    rw [Seam, String.toList_ofList]
    exact h.head.imp_right fun hs => ⟨hs, hdot⟩
  have hlast : ∀ c, (p ++ String.ofList s).toList.getLast? = some c →
      isBlank c = false ∧ c ≠ '.' := by
    intro c hc
    rw [String.toList_append, String.toList_ofList, List.getLast?_append_of_ne_nil _ h.ne_nil] at hc
    exact h.last hc
  rw [ofText_append_eq_ok_iff_rooted hsegment (fun c hc => (hlast c hc).1)
    (fun hc => (hlast _ hc).2 rfl) hq]
  simp

/-- A literal in brackets, and nothing but the sign of the root before it. -/
theorem ofText_bracketed {l : List Char} (hl : Literal l name) :
    ofText ("$" ++ String.ofList ('[' :: (l ++ [']']))) =
      .ok [root, property (String.ofList name)] := by
  have hitem := PathReader.item_bracketed hl Unicode.blanks_nil Unicode.blanks_nil
    PathReader.separated_nil
  rw [List.nil_append, List.append_nil, List.append_nil] at hitem
  have hsegment :
      ofText (String.ofList ('[' :: (l ++ [']']))) = .ok [root, property (String.ofList name)] :=
    (Splits.cons hitem .nil).ofText (PathReader.separated_cons (.inr rfl)) (List.cons_ne_nil _ _)
      (Unicode.trimmed_cons_concat rfl rfl l)
  refine ofText_append ofText_sign hsegment (by rintro c ⟨⟩; rfl) (.inl ?_)
  rw [String.toList_ofList]
  rfl

/-- **Every segment for a name means the same.** After a path that ends in no
blank and no dot, and before nothing or a separator, it may be exchanged for any
other: both texts are paths or none is, and the fragments are the same, the one
of the segment being the property. -/
theorem ofText_named {x : String} (hp : ofText p = .ok fs)
    (hblank : ∀ c, p.toList.getLast? = some c → isBlank c = false)
    (hdot : p.toList.getLast? ≠ some '.') (hq : Separated q.toList)
    (hs : Names x.toList s) (ht : Names x.toList t) :
    (∀ gs, ofText (p ++ String.ofList s ++ q) = .ok gs ↔
      ofText (p ++ String.ofList t ++ q) = .ok gs) ∧
      ∀ gs, ofText (p ++ String.ofList s ++ q) = .ok gs ↔
        ∃ rest, ofText ("$" ++ q) = .ok (root :: rest) ∧ gs = fs ++ property x :: rest := by
  have hreads : ∀ {u}, Names x.toList u → ∀ gs, ofText (p ++ String.ofList u ++ q) = .ok gs ↔
      ∃ rest, ofText ("$" ++ q) = .ok (root :: rest) ∧ gs = fs ++ property x :: rest := by
    intro u hu gs
    rw [hu.append hp hblank hdot hq, String.ofList_toList]
  exact ⟨fun gs => (hreads hs gs).trans (hreads ht gs).symm, hreads hs⟩

/-- A name with a blank and a backslash inside, between quotes and bare, before
a path that goes on and before one that does not end. -/
theorem ofText_named_backslash :
    ofText "$..a" = .ok [root, .descent, property "a"] ∧
      Names "b\\ c".toList "[ 'b\\\\ c'\t]".toList ∧ Names "b\\ c".toList ".b\\ c".toList ∧
      ofText "$..a[ 'b\\\\ c'\t][0]" = .ok [root, .descent, property "a",
        property "b\\ c", .index 0] ∧
      ofText "$..a.b\\ c[0]" = .ok [root, .descent, property "a", property "b\\ c", .index 0] ∧
      ∀ gs, ofText "$..a[ 'b\\\\ c'\t].[" = .ok gs ↔ ofText "$..a.b\\ c.[" = .ok gs := by
  have hp : ofText "$..a" = .ok [root, .descent, property "a"] := by decide +kernel
  have hblanks : ∀ c, isBlank c = true → Blanks [c] := by
    intro c hc d hd
    rw [List.mem_singleton.mp hd]
    exact hc
  have hbracket : Names "b\\ c".toList "[ 'b\\\\ c'\t]".toList :=
    @Names.bracket _ '\'' [' '] ['\t'] rfl (hblanks ' ' rfl) (hblanks '\t' rfl)
  have hbare : Names "b\\ c".toList ".b\\ c".toList := by
    refine .bare ⟨by decide, ⟨?_, ?_⟩, ?_, by decide⟩
    · rintro c ⟨⟩
      rfl
    · rintro c ⟨⟩
      rfl
    · intro c hc
      have hc : c = 'b' ∨ c = '\\' ∨ c = ' ' ∨ c = 'c' := by simpa using hc
      rcases hc with rfl | rfl | rfl | rfl <;> exact ⟨by decide, by decide, by decide, rfl⟩
  have hnamed : ∀ q : String, Separated q.toList → _ := fun q hq =>
    @ofText_named "$..a" q _ _ _ "b\\ c" hp (by rintro c ⟨⟩; rfl) (by decide) hq hbracket hbare
  have hindex : ofText ("$" ++ "[0]") = .ok [root, .index 0] := by decide +kernel
  obtain ⟨hiff, hread⟩ := hnamed "[0]" (by rintro c ⟨⟩; exact .inr rfl)
  have hgoes := (hread _).mpr ⟨_, hindex, rfl⟩
  exact ⟨hp, hbracket, hbare, hgoes, (hiff _).mp hgoes,
    (hnamed ".[" (by rintro c ⟨⟩; exact .inl rfl)).1⟩

end Fragment

namespace Quoted

variable {quote c : Char} {start : Nat} {text s body rest : List Char} {stop : Stop}

/-! ## The forms of a name -/

theorem spells_of_forms (h : SpelledBy (Form quote) s body) : Spells quote s body :=
  spells_iff.mpr (h.mono fun _ _ hform => spelling_iff.mpr (.inl hform))

theorem hexDigit_json {n : Nat} (h : n < 16) : HexDigit (Json.hexDigit n) n := by
  interval_cases n <;> exact ⟨by decide, .inl rfl⟩

/-- JSON writes characters in forms that they may have in a name: as themselves,
with a sign after a backslash, or with four digits. -/
theorem form_escapeChar (c : Char) : Form '"' c (Json.escapeChar c) := by
  unfold Json.escapeChar
  split
  case h_8 hquote hbackslash _ _ _ _ _ =>
    split
    · next hlow =>
      refine .code ⟨[0, 0, c.toNat / 16, c.toNat % 16], ?_, ?_⟩
      · exact .cons (by decide) (.cons (by decide)
          (.cons (hexDigit_json (by omega)) (.cons (hexDigit_json (by omega)) .nil)))
      · simp [Nat.ofDigits]
        omega
    · exact .itself hquote hbackslash
  all_goals exact .sign (by decide)

theorem spelledBy_escapeChar (s : List Char) :
    SpelledBy (Form '"') s (s.flatMap Json.escapeChar) := by
  refine ⟨s.map Json.escapeChar, ?_, List.flatMap_def⟩
  rw [List.forall₂_map_right_iff, List.forall₂_same]
  exact fun c _ => form_escapeChar c

/-- **A name is read from each of its spellings**, wherever its literal stands:
whichever form is taken for each of its characters, reading gives the name and
the text after the closing quote.  So the JSON text of a string, in brackets,
names it. -/
theorem read_forms :
    (∀ quote, isQuote quote = true → ∀ s body, SpelledBy (Form quote) s body →
      ∀ start rest, read quote start (body ++ quote :: rest) = .ok (s, rest)) ∧
    ∀ s : String,
      Fragment.ofText ("$[" ++ Json.stringText s ++ "]") = .ok [.root, .property s] := by
  constructor
  · intro quote hq s body hbody start rest
    rw [read_eq_ok_iff (ne_backslash_of_isQuote hq)]
    exact ⟨body, rfl, spells_of_forms hbody⟩
  · intro s
    have hread := Fragment.ofText_bracketed
      ⟨'"', _, rfl, spells_of_forms (spelledBy_escapeChar s.toList), rfl⟩
    rw [String.ofList_toList] at hread
    rw [← hread]
    refine congrArg Fragment.ofText (String.toList_inj.mp ?_)
    simp [Json.stringText]

/-- A name between single quotes with each kind of form, the last ones right
before the closing quote. -/
theorem read_forms_mixed :
    isQuote '\'' = true ∧
      SpelledBy (Form '\'') ['é', '"', '\n', '\'', '\\'] "\\u00E9\"\\n\\'\\\\".toList ∧
      read '\'' 17 ("\\u00E9\"\\n\\'\\\\".toList ++ '\'' :: [']', '.']) =
        .ok (['é', '"', '\n', '\'', '\\'], [']', '.']) ∧
      Fragment.ofText ("$[" ++ Json.stringText "é\"\n'\\" ++ "]") =
        .ok [.root, .property "é\"\n'\\"] := by
  have hspelled :
      SpelledBy (Form '\'') ['é', '"', '\n', '\'', '\\'] "\\u00E9\"\\n\\'\\\\".toList := by
    refine ⟨_, .cons (.code (w := '0') (x := '0') (y := 'E') (z := '9') ⟨[0, 0, 14, 9], ?_, rfl⟩)
      (.cons (.itself (by decide) (by decide)) (.cons (.sign (e := 'n') (by decide))
        (.cons (.sign (e := '\'') (by decide)) (.cons (.sign (e := '\\') (by decide)) .nil)))), rfl⟩
    exact .cons (by decide) (.cons (by decide) (.cons (by decide) (.cons (by decide) .nil)))
  exact ⟨rfl, hspelled, read_forms.1 '\'' rfl _ _ hspelled 17 [']', '.'], read_forms.2 _⟩

/-! ## Texts that are no name -/

theorem spells_iff_forms :
    Spells quote s body ↔ SpelledBy (fun c p => Form quote c p ∨ SignedCode c p) s body := by
  rw [spells_iff]
  exact ⟨fun h => h.mono fun _ _ => spelling_iff.mp, fun h => h.mono fun _ _ => spelling_iff.mpr⟩

/-- A path ends at a quoted name that cannot be read: whatever comes before it,
the path is refused there and for the same fault. -/
theorem path_eq_error (hq : isQuote quote = true)
    (h : read quote (text.length + 1) text = .error stop) :
    PathReader.path ('$' :: '.' :: quote :: text) = .error (.outside stop) := by
  have hitem : PathReader.item (quote :: text) = .error (.outside stop) := by
    have hname : PathReader.quotedName quote text = .error (.outside stop) := by
      simp only [PathReader.quotedName, h]
    rcases isQuote_iff.mp hq with rfl | rfl <;> exact hname
  have hdot : (quote :: text).head? ≠ some '.' := by
    rintro ⟨⟩
    cases hq
  show (PathReader.scan ('.' :: quote :: text)).map (Fragment.root :: ·) = _
  rw [Fragment.scan_dot hdot, PathReader.scan_eq_error hitem]
  rfl

/-- **What reading a literal gives, for every text.** It gives a name exactly if
the text begins with a spelling of it in the forms for its characters, among
which a code point may also stand as a plus sign and three digits, and a closing
quote of the same kind.  Otherwise it stops at the first place where no
character is in one of these forms, and the path that the name belongs to is
refused there. -/
theorem read_outcome (hq : isQuote quote = true) :
    (∀ s rest, read quote start text = .ok (s, rest) ↔
      ∃ body, text = body ++ quote :: rest ∧
        SpelledBy (fun c p => Form quote c p ∨ SignedCode c p) s body) ∧
    (∀ stop, read quote start text = .error stop ↔
      ∃ s body tail, SpelledBy (fun c p => Form quote c p ∨ SignedCode c p) s body ∧
        text = body ++ tail ∧ Refused start tail stop) ∧
    ∀ stop, read quote (text.length + 1) text = .error stop →
      (∀ c, text.getLast? = some c → isBlank c = false) →
        Fragment.ofText (String.ofList ('$' :: '.' :: quote :: text)) =
          .error (.invalidPath (String.ofList ('$' :: '.' :: quote :: text)) stop.fault
            (some (stop.position (text.length + 3)))) := by
  have hquote := ne_backslash_of_isQuote hq
  refine ⟨fun s rest => ?_, fun stop => ?_, fun stop h hlast => ?_⟩
  · simp only [read_eq_ok_iff hquote, spells_iff_forms]
  · simp only [read_eq_error_iff hquote, spells_iff_forms]
  · have hname : Trimmed (quote :: text) := Unicode.trimmed_cons (isBlank_of_isQuote hq) hlast
    have htrim : Trimmed ('$' :: '.' :: quote :: text) :=
      Unicode.trimmed_cons rfl (Unicode.trimmed_cons rfl hname.last).last
    simp only [Fragment.ofText, String.toList_ofList, Unicode.trim_eq_self htrim,
      path_eq_error hq h]
    rfl

/-- A code point with a sign, and an escape that is none. -/
theorem read_outcome_escapes :
    isQuote '"' = true ∧
      (∃ body, ['\\', 'u', '+', '0', 'e', '9', '"', ']'] = body ++ '"' :: [']'] ∧
        SpelledBy (fun c p => Form '"' c p ∨ SignedCode c p) ['é'] body) ∧
      read '"' 6 ['a', '\\', 'x', '4', '1'] = .error ⟨.invalidEscape 'x', 3⟩ ∧
      Fragment.ofText "$.\"a\\x41" =
        .error (.invalidPath "$.\"a\\x41" (.invalidEscape 'x') (some 5)) := by
  have hread : read '"' 9 ['\\', 'u', '+', '0', 'e', '9', '"', ']'] = .ok (['é'], [']']) := by
    decide +kernel
  have hstop : read '"' 6 ['a', '\\', 'x', '4', '1'] = .error ⟨.invalidEscape 'x', 3⟩ := by
    decide +kernel
  have hsource : String.ofList ['$', '.', '"', 'a', '\\', 'x', '4', '1'] = "$.\"a\\x41" := by
    decide +kernel
  obtain ⟨-, -, hrefused⟩ := @read_outcome '"' 0 ['a', '\\', 'x', '4', '1'] rfl
  have hpath := hrefused _ hstop (by rintro c ⟨⟩; rfl)
  rw [hsource] at hpath
  exact ⟨rfl, ((read_outcome rfl).1 _ _).mp hread, hstop, hpath⟩

/-- A plus sign is no digit, and yet a name is read with it. -/
theorem read_plus_sign :
    Fragment.ofText "$['\\u+041']" = .ok [.root, .property "A"] ∧
      ¬ ∀ s rest, read '\'' 8 ['\\', 'u', '+', '0', '4', '1', '\''] = .ok (s, rest) →
        ∃ body, ['\\', 'u', '+', '0', '4', '1', '\''] = body ++ '\'' :: rest ∧
          SpelledBy (Form '\'') s body := by
  refine ⟨by decide +kernel, fun h => ?_⟩
  obtain ⟨body, he, hbody⟩ := h ['A'] [] (by decide +kernel)
  obtain ⟨p, tail, hp, htail, rfl⟩ := spelledBy_cons.mp hbody
  rw [spelledBy_nil.mp htail, List.append_nil] at he
  cases hp with
  | itself _ _ => cases he
  | sign _ => cases he
  | code hhex =>
    cases he
    exact not_hex_plus hhex

end Quoted

end DocPath

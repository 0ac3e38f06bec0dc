import DocPath.Path.Reader
import DocPath.Proofs.Path.Closing
import DocPath.Proofs.Path.Content
import DocPath.Proofs.Text.Run

/-! # The grammar of paths

A path is a row of items: dots, brackets, quoted names and bare names.  `Item`
says what stands at the head of a text, `Splits` cuts a text into items, and
`Follows` adds the sign of the root.  The reader follows this grammar: it
succeeds on the paths of the grammar, and on no other, with their fragments. -/

namespace DocPath.PathReader

open DocPath.Bracket (Mode Means)
open Quoted (isQuote Literal)
open Unicode (trim Blanks)

/-- A text that may stand after something closed: nothing, a dot or an opening
bracket. -/
def Separated (text : List Char) : Prop := ∀ c, text.head? = some c → c = '.' ∨ c = '['

/-- A character of a bare name: neither a quote, nor what ends a name. -/
structure NameChar (c : Char) : Prop where
  ne_dot : c ≠ '.'
  ne_open : c ≠ '['
  ne_close : c ≠ ']'
  not_quote : isQuote c = false

/-- The fragment of a bare name: the property of this name, or the wildcard for
a name that is a star. -/
def nameFragment (name : List Char) : Fragment :=
  if name = ['*'] then .wildcard else .property (String.ofList name)

/-- An item at the head of a text, with its fragment, if it has one, and the
text after it. -/
inductive Item : List Char → List Fragment → List Char → Prop
  | dot {rest : List Char} : rest.head? ≠ some '.' → Item ('.' :: rest) [] rest
  | dots {rest : List Char} : rest.head? ≠ some '.' → Item ('.' :: '.' :: rest) [.descent] rest
  | bracket {inside rest : List Char} {f : Fragment} :
      (Mode.outside 0).Closes inside → Means (trim inside) f → Separated rest →
        Item ('[' :: (inside ++ ']' :: rest)) [f] rest
  | quoted {literal name rest : List Char} :
      Literal literal name → Separated rest →
        Item (literal ++ rest) [.property (String.ofList name)] rest
  | bare {raw rest : List Char} :
      (∀ c ∈ raw, NameChar c) → ¬ Blanks raw → Separated rest →
        Item (raw ++ rest) [nameFragment (trim raw)] rest

/-- The fragments of a text that consists of items, in their order.  An item may
give none, as a single dot does. -/
inductive Splits : List Char → List Fragment → Prop
  | nil : Splits [] []
  | cons {text rest : List Char} {fs gs : List Fragment} :
      Item text fs rest → Splits rest gs → Splits text (fs ++ gs)

/-- The text after the sign of the root, where there is one.  Without it the
text is taken to begin at the root all the same. -/
def afterRoot : List Char → List Char
  | '$' :: rest => rest
  | text => text

/-- The fragments of a path without blanks around it: the root, and then the
fragments of the items after its sign. -/
def Follows (text : List Char) (fs : List Fragment) : Prop :=
  text ≠ [] ∧ ∃ gs, Splits (afterRoot text) gs ∧ fs = .root :: gs

variable {text rest : List Char} {fs : List Fragment}

/-! ## What follows something closed -/

theorem separated_nil : Separated [] := fun _ h => by cases h

/-- A dot or a bracket sets a part of a path apart from what comes before. -/
theorem separated_cons {c : Char} (h : c = '.' ∨ c = '[') : Separated (c :: rest) :=
  fun _ hd => by cases hd; exact h

/-- The reader accepts what follows a quoted name or brackets exactly if it is
set apart from them. -/
theorem separated_eq_ok_iff {after : Closed} : separated after text = .ok () ↔ Separated text := by
  unfold separated
  split
  · exact iff_of_true rfl separated_nil
  · exact iff_of_true rfl (separated_cons (.inl rfl))
  · exact iff_of_true rfl (separated_cons (.inr rfl))
  · next c rest hdot hopen =>
    refine iff_of_false (by simp [fail]) fun h => ?_
    rcases h c rfl with rfl | rfl
    · exact hdot rfl
    · exact hopen rfl

/-! ## Dots -/

theorem ends_dots (h : rest.head? ≠ some '.') : Ends (· == '.') rest := by
  intro c hc
  rw [beq_eq_false_iff_ne]
  rintro rfl
  exact h hc

theorem head_ne_dot (h : Ends (· == '.') rest) : rest.head? ≠ some '.' := by
  intro hd
  have := h _ hd
  simp at this

/-- One dot or two, and no more. -/
theorem dots_eq_ok_iff :
    dots ('.' :: text) = .ok (fs, rest) ↔
      (fs = [] ∧ text = rest ∨ fs = [.descent] ∧ text = '.' :: rest) ∧ rest.head? ≠ some '.' := by
  constructor
  · intro h
    have hsplit := List.takeWhile_append_dropWhile (p := (· == '.')) (l := text)
    have hends := head_ne_dot (ends_dropWhile (· == '.') text)
    have htake : ('.' :: text).takeWhile (· == '.') = '.' :: text.takeWhile (· == '.') := by simp
    have hdrop : ('.' :: text).dropWhile (· == '.') = text.dropWhile (· == '.') := by simp
    simp only [dots, htake, hdrop, List.length_cons] at h
    split at h
    · next hlen =>
      cases h
      have hnil : text.takeWhile (· == '.') = [] := List.eq_nil_of_length_eq_zero (by omega)
      rw [hnil] at hsplit
      exact ⟨.inl ⟨rfl, hsplit.symm⟩, hends⟩
    · next hlen =>
      cases h
      obtain ⟨c, hone⟩ :=
        List.length_eq_one_iff.mp (show (text.takeWhile (· == '.')).length = 1 by omega)
      have hc : c = '.' := by
        have hmem : c ∈ text.takeWhile (· == '.') := by rw [hone]; exact List.mem_singleton_self c
        exact beq_iff_eq.mp (mem_takeWhile (p := (· == '.')) hmem)
      rw [hone, hc] at hsplit
      exact ⟨.inr ⟨rfl, hsplit.symm⟩, hends⟩
    · cases h
  · rintro ⟨⟨rfl, rfl⟩ | ⟨rfl, rfl⟩, hr⟩
    · have hrun : ∀ c ∈ ['.'], (c == '.') = true := by simp
      have htake := takeWhile_run hrun (ends_dots hr)
      have hdrop := dropWhile_run hrun (ends_dots hr)
      simp only [List.singleton_append] at htake hdrop
      simp only [dots, htake, hdrop]
      rfl
    · have hrun : ∀ c ∈ ['.', '.'], (c == '.') = true := by simp
      have htake := takeWhile_run hrun (ends_dots hr)
      have hdrop := dropWhile_run hrun (ends_dots hr)
      simp only [List.cons_append, List.nil_append] at htake hdrop
      simp only [dots, htake, hdrop]
      rfl

/-! ## Brackets and names -/

/-- After an opening bracket the reader takes the content up to the bracket that
closes it, and gives what the content means. -/
theorem bracket_eq_ok_iff :
    bracket text = .ok (fs, rest) ↔
      ∃ inside f, text = inside ++ ']' :: rest ∧ (Mode.outside 0).Closes inside ∧
        Means (trim inside) f ∧ Separated rest ∧ fs = [f] := by
  constructor
  · intro h
    simp only [bracket] at h
    split at h
    · cases h
    · next inside after hin =>
      split at h
      · cases h
      · cases h
      · next f hf =>
        obtain ⟨u, hsep, he⟩ := map_eq_ok_iff.mp h
        cases he
        obtain ⟨rfl, hclose⟩ := Bracket.content_eq_ok_iff.mp hin
        exact ⟨inside, f, rfl, hclose, Bracket.classify_eq_ok_iff.mp hf,
          separated_eq_ok_iff.mp hsep, rfl⟩
  · rintro ⟨inside, f, rfl, hclose, hf, hsep, rfl⟩
    have hin : Bracket.content none 0 (inside ++ ']' :: rest) = .ok (inside, rest) :=
      Bracket.content_eq_ok_iff.mpr ⟨rfl, hclose⟩
    simp only [bracket, hin, Bracket.classify_eq_ok_iff.mpr hf, separated_eq_ok_iff.mpr hsep]
    rfl

/-- After a quote the reader takes a literal, and gives the property of this
name. -/
theorem quotedName_eq_ok_iff {quote : Char} (hq : isQuote quote = true) :
    quotedName quote text = .ok (fs, rest) ↔
      ∃ literal name, Literal literal name ∧ quote :: text = literal ++ rest ∧
        Separated rest ∧ fs = [.property (String.ofList name)] := by
  constructor
  · intro h
    simp only [quotedName] at h
    split at h
    · cases h
    · next name after hr =>
      obtain ⟨u, hsep, he⟩ := map_eq_ok_iff.mp h
      cases he
      obtain ⟨literal, htext, hl⟩ := (Quoted.read_eq_ok_iff_literal _ hq).mp hr
      exact ⟨literal, name, hl, htext, separated_eq_ok_iff.mp hsep, rfl⟩
  · rintro ⟨literal, name, hl, htext, hsep, rfl⟩
    have hr := (Quoted.read_eq_ok_iff_literal (text.length + 1) hq).mpr ⟨literal, htext, hl⟩
    simp only [quotedName, hr, separated_eq_ok_iff.mpr hsep]
    rfl

/-- The characters that the reader takes into a bare name are those of the
grammar. -/
theorem isNameChar_iff {c : Char} : (!endsName c && !isQuote c) = true ↔ NameChar c := by
  constructor
  · intro h
    simp only [endsName, Bool.and_eq_true, Bool.not_eq_true', Bool.or_eq_false_iff,
      beq_eq_false_iff_ne] at h
    exact ⟨h.1.1.1, h.1.1.2, h.1.2, h.2⟩
  · intro h
    simp [endsName, h.ne_dot, h.ne_open, h.ne_close, h.not_quote]

/-- A bare name is taken with the blanks around it and given without them;
blanks alone are no name. -/
theorem named_eq_ok_iff {raw after : List Char} :
    bareName.named text raw after = .ok (fs, rest) ↔
      ¬ Blanks raw ∧ after = rest ∧ fs = [nameFragment (trim raw)] := by
  rw [← Unicode.trim_eq_nil_iff]
  unfold bareName.named nameFragment
  split
  · next h => exact iff_of_false (by simp [fail]) fun hn => hn.1 h
  · next h =>
    rw [h, if_pos rfl]
    constructor
    · intro he; cases he; exact ⟨by simp, rfl, rfl⟩
    · rintro ⟨-, rfl, rfl⟩; rfl
  · next hne hstar =>
    rw [if_neg fun h => hstar h]
    constructor
    · intro he; cases he; exact ⟨fun h => hne h, rfl, rfl⟩
    · rintro ⟨-, rfl, rfl⟩; rfl

/-- A bare name ends at the end of the text, at a dot or at a bracket.  A quote
does not end it but is refused, wherever in the name it stands. -/
theorem bareName_eq_ok_iff :
    bareName text = .ok (fs, rest) ↔
      ∃ raw, text = raw ++ rest ∧ (∀ c ∈ raw, NameChar c) ∧ ¬ Blanks raw ∧
        (∀ c, rest.head? = some c → c = '.' ∨ c = '[' ∨ c = ']') ∧
        fs = [nameFragment (trim raw)] := by
  constructor
  · intro h
    have hsplit :=
      List.takeWhile_append_dropWhile (p := fun c => !endsName c && !isQuote c) (l := text)
    have hends := ends_dropWhile (fun c => !endsName c && !isQuote c) text
    have hname : ∀ c ∈ text.takeWhile (fun c => !endsName c && !isQuote c), NameChar c :=
      fun c hc => isNameChar_iff.mp (mem_takeWhile hc)
    unfold bareName at h
    simp only at h
    split at h
    · next c after hafter =>
      split at h
      · cases h
      · next hq =>
        obtain ⟨hblank, rfl, rfl⟩ := named_eq_ok_iff.mp h
        rw [hafter] at hsplit hends
        refine ⟨_, hsplit.symm, hname, hblank, ?_, rfl⟩
        intro d hd
        cases hd
        by_contra hn
        simp only [not_or] at hn
        have hin := isNameChar_iff.mpr ⟨hn.1, hn.2.1, hn.2.2, by simpa using hq⟩
        have hout : (!endsName c && !isQuote c) = false := hends c rfl
        rw [hout] at hin
        cases hin
    · next hafter =>
      obtain ⟨hblank, rfl, rfl⟩ := named_eq_ok_iff.mp h
      rw [hafter] at hsplit
      exact ⟨_, hsplit.symm, hname, hblank, fun _ hd => (by cases hd), rfl⟩
  · rintro ⟨raw, rfl, hname, hblank, hrest, rfl⟩
    have hrun : ∀ c ∈ raw, (!endsName c && !isQuote c) = true :=
      fun c hc => isNameChar_iff.mpr (hname c hc)
    have hends : Ends (fun c => !endsName c && !isQuote c) rest := by
      intro c hc
      rcases hrest c hc with rfl | rfl | rfl <;> rfl
    simp only [bareName, takeWhile_run hrun hends, dropWhile_run hrun hends]
    split
    · next c after =>
      have hq : isQuote c = false := by
        rcases hrest c rfl with rfl | rfl | rfl <;> rfl
      rw [if_neg (by simp [hq])]
      exact named_eq_ok_iff.mpr ⟨hblank, rfl, rfl⟩
    · exact named_eq_ok_iff.mpr ⟨hblank, rfl, rfl⟩

/-! ## Items -/

theorem item_bare {c : Char} (hc : NameChar c) : item (c :: text) = bareName (c :: text) := by
  unfold item
  split
  · next h => cases h
  · next h => cases h; exact absurd rfl hc.ne_dot
  · next h => cases h; exact absurd rfl hc.ne_open
  · next h => cases h; exact absurd rfl hc.ne_close
  · next h => cases h; exact absurd hc.not_quote (by decide)
  · next h => cases h; exact absurd hc.not_quote (by decide)
  · rfl

/-- A part of the grammar is read as a whole, and what comes after it is
left. -/
theorem item_of_grammar (h : Item text fs rest) : item text = .ok (fs, rest) := by
  cases h with
  | dot hr => exact dots_eq_ok_iff.mpr ⟨.inl ⟨rfl, rfl⟩, hr⟩
  | dots hr => exact dots_eq_ok_iff.mpr ⟨.inr ⟨rfl, rfl⟩, hr⟩
  | bracket hclose hf hsep => exact bracket_eq_ok_iff.mpr ⟨_, _, rfl, hclose, hf, hsep, rfl⟩
  | @quoted _ name _ hl hsep =>
    obtain ⟨quote, body, hq, hs, rfl⟩ := hl
    have hread : quotedName quote (body ++ [quote] ++ rest) = _ :=
      (quotedName_eq_ok_iff hq).mpr ⟨_, name, ⟨quote, body, hq, hs, rfl⟩, rfl, hsep, rfl⟩
    rcases Quoted.isQuote_iff.mp hq with rfl | rfl <;> exact hread
  | @bare raw _ hname hblank hsep =>
    have hread := bareName_eq_ok_iff.mpr ⟨raw, rfl, hname, hblank,
      fun c hc => (hsep c hc).imp_right .inl, rfl⟩
    cases raw with
    | nil => exact absurd Unicode.blanks_nil hblank
    | cons c raw =>
      rw [List.cons_append] at hread ⊢
      rw [item_bare (hname c (List.mem_cons_self ..)), hread]

/-- An item that is read, with no closing bracket after it, is an item of the
grammar. -/
theorem grammar_of_item {c : Char} (h : item (c :: text) = .ok (fs, rest))
    (hrest : rest.head? ≠ some ']') : Item (c :: text) fs rest := by
  unfold item at h
  split at h
  · next he => cases he
  · next he =>
    cases he
    obtain ⟨⟨rfl, rfl⟩ | ⟨rfl, rfl⟩, hr⟩ := dots_eq_ok_iff.mp h
    · exact .dot hr
    · exact .dots hr
  · next he =>
    cases he
    obtain ⟨inside, f, rfl, hclose, hf, hsep, rfl⟩ := bracket_eq_ok_iff.mp h
    exact .bracket hclose hf hsep
  · cases h
  · next he =>
    cases he
    obtain ⟨literal, name, hl, he, hsep, rfl⟩ := (quotedName_eq_ok_iff (by decide)).mp h
    rw [he]
    exact .quoted hl hsep
  · next he =>
    cases he
    obtain ⟨literal, name, hl, he, hsep, rfl⟩ := (quotedName_eq_ok_iff (by decide)).mp h
    rw [he]
    exact .quoted hl hsep
  · obtain ⟨raw, he, hname, hblank, hr, rfl⟩ := bareName_eq_ok_iff.mp h
    rw [he]
    refine .bare hname hblank fun d hd => ?_
    -- reading a bare name leaves a closing bracket to the next item, which cannot begin with one
    rcases hr d hd with rfl | rfl | rfl
    · exact .inl rfl
    · exact .inr rfl
    · exact absurd hd hrest

/-! ## Whole paths -/

/-- After one part the scan goes on with what is left. -/
theorem scan_cons {c : Char} {gs : List Fragment} (hi : item (c :: text) = .ok (gs, rest)) :
    scan (c :: text) = (scan rest).map (gs ++ ·) := by
  rw [scan]
  split
  · next h => rw [hi] at h; cases h
  · next h => rw [hi] at h; cases h; rfl

/-- No row of items begins with a closing bracket. -/
theorem head_ne_close_of_scan (h : scan text = .ok fs) : text.head? ≠ some ']' := by
  intro hd
  cases text with
  | nil => cases hd
  | cons c text =>
    cases hd
    rw [scan] at h
    split at h
    · cases h
    · next hi => cases hi

theorem Item.ne_nil (h : Item text fs rest) : text ≠ [] := by
  cases h with
  | dot _ | dots _ | bracket _ _ _ => exact List.cons_ne_nil _ _
  | quoted hl _ =>
    obtain ⟨quote, body, -, -, rfl⟩ := hl
    exact List.cons_ne_nil _ _
  | @bare raw _ _ hblank _ =>
    intro h
    rw [(List.append_eq_nil_iff.mp h).1] at hblank
    exact hblank Unicode.blanks_nil

/-- **Reading cuts a text into the items of the grammar.** There is one way to
do so at most, since the first item is read without a look at what the others
are. -/
theorem scan_eq_ok_iff : scan text = .ok fs ↔ Splits text fs := by
  constructor
  · intro h
    -- the text left after an item is read as well, so it begins with no closing bracket
    fun_induction scan text generalizing fs with
    | case1 => cases h; exact .nil
    | case2 => cases h
    | case3 c text gs rest hi ih =>
      obtain ⟨hs, hscan, rfl⟩ := map_eq_ok_iff.mp h
      exact .cons (grammar_of_item hi (head_ne_close_of_scan hscan)) (ih hscan)
  · intro h
    induction h with
    | nil => rw [scan]
    | @cons text rest fs gs hi _ ih =>
      cases text with
      | nil => exact absurd rfl hi.ne_nil
      | cons c text => rw [scan_cons (item_of_grammar hi), ih]; rfl

/-- A path without blanks around it is read exactly if it follows the grammar,
and then as the fragments that the grammar gives it. -/
theorem path_eq_ok_iff : path text = .ok fs ↔ Follows text fs := by
  have hroot : ∀ t, (scan t).map (Fragment.root :: ·) = .ok fs ↔
      ∃ gs, Splits t gs ∧ fs = .root :: gs := by
    intro t
    constructor
    · intro h
      obtain ⟨gs, hgs, rfl⟩ := map_eq_ok_iff.mp h
      exact ⟨gs, scan_eq_ok_iff.mp hgs, rfl⟩
    · rintro ⟨gs, hgs, rfl⟩
      rw [scan_eq_ok_iff.mpr hgs]
      rfl
  unfold path Follows
  split
  · exact iff_of_false (by simp [fail]) fun h => h.1 rfl
  · simp only [hroot, afterRoot, ne_eq, reduceCtorEq, not_false_eq_true, true_and]
  · next hne hdollar =>
    have hafter : afterRoot text = text := by
      unfold afterRoot
      split
      · exact absurd rfl (hdollar _)
      · rfl
    rw [hroot, hafter]
    exact ⟨fun h => ⟨hne, h⟩, fun h => h.2⟩

end DocPath.PathReader

namespace DocPath.Fragment

open Unicode (trim)

/-- A path is read without the blanks around it. -/
theorem ofText_eq_ok_iff_path {source : String} {fs : List Fragment} :
    ofText source = .ok fs ↔ PathReader.path (trim source.toList) = .ok fs := by
  simp only [ofText]
  split
  · next h => simp [h]
  · next h => simp [h]

/-- **A text is a path exactly if it follows the grammar**, apart from blanks
around it, and its fragments are those of the grammar. -/
theorem ofText_eq_ok_iff_follows (source : String) (fs : List Fragment) :
    ofText source = .ok fs ↔ PathReader.Follows (trim source.toList) fs := by
  rw [ofText_eq_ok_iff_path, PathReader.path_eq_ok_iff]

end DocPath.Fragment

import DocPath.Proofs.Path.Grammar
import Mathlib.Data.List.Chain

/-! # Rendered paths

`render` writes fragments as a path, with names in quotes.  The fragments of
paths are exactly the well-formed ones (`WellFormed`), and reading the rendering
of well-formed fragments gives them back. -/

namespace DocPath.Fragment

open DocPath.Bracket (Mode Means)
open PathReader (Item Splits Separated nameFragment)
open Unicode (trim Blanks Trimmed)

/-- A text that can stand between the parentheses of a predicate: below their
depth no bracket of it closes the predicate, and it ends where the closing
parenthesis leads out of them. -/
structure Enclosable (e : List Char) : Prop where
  ne_nil : e ≠ []
  trimmed : Trimmed e
  passes : (Mode.outside 1).Passes e
  ends : ∃ depth ≤ 1, (Mode.outside 1).after e = .outside depth

/-- What a fragment after the root holds: two indices or more in a row of them,
and an expression that can stand between parentheses. -/
def Fits : Fragment → Prop
  | root => False
  | indices ns => 2 ≤ ns.length
  | expression e => Enclosable e.toList
  | _ => True

/-- The root, no further root, no descent directly after another, and what fits
in each fragment. -/
def WellFormed (fs : List Fragment) : Prop :=
  ∃ gs, fs = root :: gs ∧ (∀ g ∈ gs, g.Fits) ∧ gs.IsChain fun f g => ¬ (f = descent ∧ g = descent)

/-- A fragment as a part of a path: names in quotes, with quotes and backslashes
escaped, and a wildcard in brackets. -/
def written : Fragment → List Char
  | property name => '[' :: (Quoted.literal '\'' name.toList ++ [']'])
  | wildcard => ['[', '*', ']']
  | f => f.text.toList

/-- The path with the given fragments, each written so that it is read back,
whatever its name or its text is. -/
def render (fs : List Fragment) : String := String.ofList (fs.flatMap written)

variable {text rest : List Char} {f : Fragment} {fs gs : List Fragment}

/-! ## The fragments of paths are well-formed -/

/-- What parentheses enclose in closed brackets, without the blanks around it,
can be enclosed. -/
theorem enclosable_trim {b e : List Char} (hb : Blanks b) (he : ¬ Blanks e)
    (h : (Mode.outside 0).Closes ('?' :: (b ++ '(' :: (e ++ [')'])))) : Enclosable (trim e) := by
  have hq : (Mode.outside 0).next '?' = .outside 0 := by decide
  have hopen : (Mode.outside 0).next '(' = .outside 1 := by decide
  obtain ⟨hpass, hafter⟩ := h
  simp only [Mode.passes_cons, Mode.passes_append, hq, hopen, (Mode.keeps_blanks hb).2] at hpass
  simp only [Mode.after_cons, Mode.after_append, Mode.after_nil, hq, hopen,
    (Mode.keeps_blanks hb).2] at hafter
  obtain ⟨depth, hle, hend⟩ := Mode.outside_of_next_close (Mode.proper_outside.after e) hafter
  exact {
    ne_nil := fun hn => he (Unicode.trim_eq_nil_iff.mp hn)
    trimmed := Unicode.trimmed_trim e
    passes := Mode.passes_trim hpass.2.2.2.1
    ends := ⟨depth, hle, Mode.after_trim_eq_outside.mpr hend⟩ }

theorem fits_of_means {inside : List Char} (hclose : (Mode.outside 0).Closes inside)
    (h : Means (trim inside) f) : f.Fits := by
  replace hclose := Mode.closes_trim hclose
  generalize trim inside = text at h hclose
  cases h with
  | name _ | wildcard | placeholder | slice _ _ | index _ => trivial
  | expression hb he =>
    show Enclosable (String.ofList _).toList
    rw [String.toList_ofList]
    exact enclosable_trim hb he hclose
  | indices hlen hns =>
    show 2 ≤ _
    rw [← hns.length_eq]
    exact hlen

/-- A name without brackets fits, and so does the wildcard that a star stands
for. -/
theorem fits_nameFragment (name : List Char) : (nameFragment name).Fits := by
  unfold nameFragment
  split <;> trivial

theorem fits_of_item (h : Item text fs rest) : ∀ f ∈ fs, f.Fits := by
  intro f hf
  cases h with
  | dot _ => cases hf
  | dots _ => cases List.mem_singleton.mp hf; trivial
  | bracket hclose hm _ => cases List.mem_singleton.mp hf; exact fits_of_means hclose hm
  | quoted _ _ => cases List.mem_singleton.mp hf; trivial
  | bare _ _ _ => cases List.mem_singleton.mp hf; exact fits_nameFragment _

/-- Every fragment of a path, the root apart, holds what fits in it. -/
theorem fits_of_splits (h : Splits text fs) : ∀ f ∈ fs, f.Fits := by
  induction h with
  | nil => exact fun _ hf => by cases hf
  | cons hi _ ih =>
    intro f hf
    rcases List.mem_append.mp hf with hf | hf
    · exact fits_of_item hi f hf
    · exact ih f hf

theorem means_ne_descent (h : Means text f) : f ≠ descent := by
  cases h <;> simp

theorem nameFragment_ne_descent (name : List Char) : nameFragment name ≠ descent := by
  unfold nameFragment
  split <;> simp

/-- Only dots read as a descent: a text whose fragments begin with one begins
with a dot. -/
theorem head_dot_of_splits (h : Splits text fs) (hd : fs.head? = some descent) :
    text.head? = some '.' := by
  cases h with
  | nil => cases hd
  | cons hi _ =>
    cases hi with
    | dot _ | dots _ => rfl
    | bracket _ hm _ => exact absurd (Option.some.inj hd) (means_ne_descent hm)
    | quoted _ _ => cases hd
    | bare _ _ _ => exact absurd (Option.some.inj hd) (nameFragment_ne_descent _)

/-- Two descents never follow one another, since a descent takes two dots and
none may stand after them. -/
theorem chain_of_splits (h : Splits text fs) :
    fs.IsChain fun f g => ¬ (f = descent ∧ g = descent) := by
  induction h with
  | nil => exact .nil
  | @cons text rest fs gs hi hs ih =>
    -- after any fragment but a descent there may be anything; after a descent no dot is left
    have other {f : Fragment} (hf : f ≠ descent) :
        ([f] ++ gs).IsChain fun f g => ¬ (f = descent ∧ g = descent) :=
      ih.cons fun _ _ h => hf h.1
    cases hi with
    | dot _ => exact ih
    | dots hr =>
      refine ih.cons fun g hg h => hr (head_dot_of_splits hs ?_)
      rw [← h.2]
      exact hg
    | bracket _ hm _ => exact other (means_ne_descent hm)
    | quoted _ _ => exact other (by simp)
    | bare _ _ _ => exact other (nameFragment_ne_descent _)

/-- The fragments of every path that is read are well-formed. -/
theorem wellFormed_of_ofText {p : String} (h : ofText p = .ok fs) : WellFormed fs := by
  obtain ⟨-, gs, hgs, rfl⟩ := PathReader.path_eq_ok_iff.mp (ofText_eq_ok_iff_path.mp h)
  exact ⟨gs, rfl, fits_of_splits hgs, chain_of_splits hgs⟩

/-! ## Rendered fragments are read -/

/-- Brackets around a content without blanks at its ends are an item. -/
theorem item_bracket {inside : List Char} (hclose : (Mode.outside 0).Closes inside)
    (ht : Trimmed inside) (hm : Means inside f) (hsep : Separated rest) :
    Item ('[' :: (inside ++ [']']) ++ rest) [f] rest := by
  have h := Item.bracket hclose ((Unicode.trim_eq_self ht).symm ▸ hm) hsep
  simpa using h

/-- A literal begins and ends with its quotes, so no blank of it is left out. -/
theorem literal_trimmed {quote : Char} (hq : Quoted.isQuote quote = true) (name : List Char) :
    Trimmed (Quoted.literal quote name) :=
  Unicode.trimmed_cons_concat (Quoted.isBlank_of_isQuote hq) (Quoted.isBlank_of_isQuote hq) _

/-- A character of a row of integers.  The scan for the closing bracket does not
see it, and trimming leaves it. -/
structure RowChar (c : Char) : Prop where
  idle : Mode.Idle c
  not_blank : Unicode.isBlank c = false

instance (c : Char) : Decidable (RowChar c) :=
  decidable_of_iff (Mode.Idle c ∧ Unicode.isBlank c = false)
    ⟨fun ⟨hi, hb⟩ => ⟨hi, hb⟩, fun h => ⟨h.idle, h.not_blank⟩⟩

/-- Digits and signs are no quotes, no brackets and no blanks. -/
theorem rowChar_of_isIntegerChar {c : Char} (h : IsIntegerChar c) : RowChar c where
  idle := {
    not_quote := by
      rw [Bool.eq_false_iff]
      intro hq
      rcases Quoted.isQuote_iff.mp hq with rfl | rfl <;> exact absurd h (by decide)
    ne_open := h.ne (by decide)
    ne_close := h.ne (by decide)
    ne_bracket := h.ne (by decide) }
  not_blank := h.isBlank

/-- What consists of integers and signs between them can stand in brackets as it
is. -/
theorem item_row {inside : List Char} (hrow : ∀ c ∈ inside, RowChar c)
    (hm : Means inside f) (hsep : Separated rest) :
    Item ('[' :: (inside ++ [']']) ++ rest) [f] rest :=
  item_bracket (Mode.keeps_idle fun c hc => (hrow c hc).idle).closes
    (Unicode.trimmed_of_forall fun c hc => (hrow c hc).not_blank) hm hsep

theorem rowChar_textOfInt (n : Int) : ∀ c ∈ (textOfInt n).toList, RowChar c :=
  fun c hc => rowChar_of_isIntegerChar (textOfInt_isIntegerChar n c hc)

theorem trim_textOfInt (n : Int) : trim (textOfInt n).toList = (textOfInt n).toList :=
  Unicode.trim_eq_self (Unicode.trimmed_of_forall fun c hc => (rowChar_textOfInt n c hc).not_blank)

/-- The text of a bound is read as the bound, also the empty text of one that is
absent. -/
theorem bound_boundText (b : Option Int64) : Bracket.Bound (boundText b).toList b := by
  cases b with
  | none => exact .blank Unicode.blanks_nil
  | some n =>
    refine .number ?_
    rw [show boundText (some n) = textOfInt n.toInt from rfl, trim_textOfInt]
    exact writes_textOfInt n.toInt

theorem rowChar_boundText (b : Option Int64) : ∀ c ∈ (boundText b).toList, RowChar c := by
  cases b with
  | none => exact fun _ hc => by cases hc
  | some n => exact rowChar_textOfInt n.toInt

/-- A predicate that can stand between parentheses is closed by the bracket
behind them. -/
theorem closes_enclosed {e : List Char} (h : Enclosable e) :
    (Mode.outside 0).Closes ('?' :: '(' :: (e ++ [')'])) := by
  have hq : (Mode.outside 0).next '?' = .outside 0 := by decide
  have hopen : (Mode.outside 0).next '(' = .outside 1 := by decide
  obtain ⟨depth, hle, hend⟩ := h.ends
  have hclose : (Mode.outside depth).next ')' = .outside 0 := by
    simp [Mode.next, Quoted.isQuote]
    omega
  refine ⟨?_, ?_⟩
  · simp [hq, hopen, h.passes]
  · simp [hq, hopen, hend, hclose]

/-- A predicate with its sign and its parentheses has no blanks around it. -/
theorem trimmed_enclosed (e : List Char) : Trimmed ('?' :: '(' :: (e ++ [')'])) :=
  Unicode.trimmed_cons_concat (by decide) (by decide) ('(' :: e)

theorem means_enclosed {e : List Char} (h : Enclosable e) :
    Means ('?' :: '(' :: (e ++ [')'])) (.expression (String.ofList e)) := by
  have htrim := Unicode.trim_eq_self h.trimmed
  have hne : ¬ Blanks e := fun hb => h.ne_nil (htrim ▸ Unicode.trim_eq_nil_iff.mpr hb)
  have hm := Means.expression Unicode.blanks_nil hne
  rwa [htrim] at hm

/-- The numbers of a row of indices, with commas between them, as they stand in
brackets. -/
def commaText (ns : List Int64) : List Char :=
  [','].intercalate (ns.map fun n => (textOfInt n.toInt).toList)

theorem rowChar_indices (ns : List Int64) : ∀ c ∈ commaText ns, RowChar c := by
  intro c hc
  rcases Bracket.mem_of_mem_intercalate hc with hc | ⟨part, hp, hc⟩
  · cases List.mem_singleton.mp hc
    decide
  · obtain ⟨n, -, rfl⟩ := List.mem_map.mp hp
    exact rowChar_textOfInt n.toInt c hc

/-- Two indices or more, with commas between them, mean a row of indices. -/
theorem means_indices {ns : List Int64} (h : 2 ≤ ns.length) :
    Means (commaText ns) (.indices ns) := by
  refine .indices (by rw [List.length_map]; exact h) ?_
  rw [List.forall₂_map_left_iff, List.forall₂_same]
  intro n _
  rw [trim_textOfInt]
  exact writes_textOfInt n.toInt

/-- Each fragment is read back from what is written for it, where the path may
go on after it. -/
theorem item_written (hf : f.Fits) (hsep : Separated rest)
    (hd : f = descent → rest.head? ≠ some '.') : Item (f.written ++ rest) [f] rest := by
  cases f with
  | root => exact absurd hf id
  | property name =>
    have hl := Quoted.literal_literal '\'' (by decide) name.toList
    have hm := Means.name hl
    rw [String.ofList_toList] at hm
    exact item_bracket (Mode.keeps_literal hl).closes (literal_trimmed (by decide) _) hm hsep
  | wildcard =>
    have hrow : ∀ c ∈ ['*'], RowChar c := List.forall_mem_singleton.mpr (by decide)
    exact item_row hrow .wildcard hsep
  | descent => exact .dots (hd rfl)
  | index n =>
    have h := item_row (rowChar_textOfInt n.toInt) (.index (writes_textOfInt n.toInt)) hsep
    simpa [written, text] using h
  | indices ns =>
    have h := item_row (rowChar_indices ns) (means_indices hf) hsep
    simpa [written, text, commaText, Function.comp_def] using h
  | slice start stop =>
    have hrow : ∀ c ∈ (boundText start).toList ++ ':' :: (boundText stop).toList, RowChar c := by
      intro c hc
      rcases List.mem_append.mp hc with hc | hc
      · exact rowChar_boundText start c hc
      · rcases List.mem_cons.mp hc with rfl | hc
        · decide
        · exact rowChar_boundText stop c hc
    have h := item_row hrow (.slice (bound_boundText start) (bound_boundText stop)) hsep
    simpa [written, text] using h
  | placeholder =>
    have hrow : ∀ c ∈ ['?'], RowChar c := List.forall_mem_singleton.mpr (by decide)
    exact item_row hrow .placeholder hsep
  | expression e =>
    have hm := means_enclosed hf
    rw [String.ofList_toList] at hm
    have h := item_bracket (closes_enclosed hf) (trimmed_enclosed _) hm hsep
    simpa [written, text] using h

/-- Only a descent is written with a dot in front. -/
theorem head_written (rest : List Char) (hf : f.Fits) :
    (f.written ++ rest).head? = some '[' ∨ f = descent ∧ (f.written ++ rest).head? = some '.' := by
  cases f with
  | root => exact absurd hf id
  | descent => exact .inr ⟨rfl, rfl⟩
  | property _ | wildcard => exact .inl rfl
  | index _ | indices _ | slice _ _ | placeholder | expression _ =>
    exact .inl (by simp [written, text])

/-- Written fragments begin with a bracket, or with the dots of a descent. -/
theorem head_flatMap_written (hfits : ∀ g ∈ gs, g.Fits) {c : Char}
    (hc : (gs.flatMap written).head? = some c) : c = '[' ∨ c = '.' ∧ gs.head? = some descent := by
  cases gs with
  | nil => cases hc
  | cons g gs =>
    rw [List.flatMap_cons] at hc
    rcases head_written (gs.flatMap written) (hfits g (List.mem_cons_self ..)) with h | ⟨rfl, h⟩
    · exact .inl (Option.some.inj (hc.symm.trans h))
    · exact .inr ⟨Option.some.inj (hc.symm.trans h), rfl⟩

/-- Written fragments are read back one by one, if no descent follows
another. -/
theorem splits_flatMap_written (hfits : ∀ g ∈ gs, g.Fits)
    (hchain : gs.IsChain fun f g => ¬ (f = descent ∧ g = descent)) :
    Splits (gs.flatMap written) gs := by
  induction gs with
  | nil => exact .nil
  | cons g gs ih =>
    have hrest : ∀ f ∈ gs, f.Fits := fun f hf => hfits f (List.mem_cons_of_mem _ hf)
    have hsep : Separated (gs.flatMap written) := by
      intro c hc
      rcases head_flatMap_written hrest hc with rfl | ⟨rfl, -⟩
      · exact .inr rfl
      · exact .inl rfl
    have hdots : g = descent → (gs.flatMap written).head? ≠ some '.' := by
      rintro rfl hd
      rcases head_flatMap_written hrest hd with h | ⟨-, h⟩
      · cases h
      · exact (List.isChain_cons.mp hchain).1 _ h ⟨rfl, rfl⟩
    rw [List.flatMap_cons]
    show Splits _ ([g] ++ gs)
    exact .cons (item_written (hfits g (List.mem_cons_self ..)) hsep hdots) (ih hrest hchain.tail)

/-- A written fragment ends in a bracket or a dot, so no blank at the end of a
path is left out. -/
theorem getLast_written (hf : f.Fits) :
    f.written.getLast? = some ']' ∨ f.written.getLast? = some '.' := by
  cases f with
  | root => exact absurd hf id
  | descent => exact .inr rfl
  | property _ | wildcard | index _ | indices _ | slice _ _ | placeholder | expression _ =>
    exact .inl (by simp [written, text, List.getLast?_cons])

/-- No blanks stand at the ends of a rendered path, so reading it leaves nothing
out. -/
theorem trimmed_render (hfits : ∀ g ∈ gs, g.Fits) : Trimmed ('$' :: gs.flatMap written) := by
  refine ⟨fun c hc => by cases hc; decide, fun c hc => ?_⟩
  -- the last character is that of the last fragment, or the root itself
  rcases List.eq_nil_or_concat gs with rfl | ⟨fs, g, rfl⟩
  · cases hc; decide
  · have hg := getLast_written (hfits g (by simp))
    simp only [List.concat_eq_append, List.flatMap_append, List.flatMap_singleton,
      List.getLast?_cons, List.getLast?_append] at hc
    rcases hg with hg | hg <;>
      simp only [hg, Option.some_or, Option.getD_some] at hc <;> cases hc <;> decide

/-- Well-formed fragments are read back from the path that is written for
them. -/
theorem ofText_render_of_wellFormed (h : WellFormed fs) : ofText (render fs) = .ok fs := by
  obtain ⟨gs, rfl, hfits, hchain⟩ := h
  have htext : (render (root :: gs)).toList = '$' :: gs.flatMap written := by
    rw [render, String.toList_ofList, List.flatMap_cons]
    rfl
  rw [ofText_eq_ok_iff_path, htext, Unicode.trim_eq_self (trimmed_render hfits),
    PathReader.path_eq_ok_iff]
  exact ⟨List.cons_ne_nil _ _, gs, splits_flatMap_written hfits hchain, rfl⟩

/-- A path of the root and one predicate, written out. -/
theorem render_expression (e : String) :
    render [.root, .expression e] = "$[?(" ++ e ++ ")]" := by
  rw [String.ext_iff]
  simp [render, written, text]

/-- **Paths have exactly the well-formed fragments.** The fragments of every
path are well-formed, the rendering of well-formed fragments is a path with
these fragments, and so a path can be read, rendered and read again without a
change. -/
theorem ofText_render :
    (∀ p fs, ofText p = .ok fs → WellFormed fs) ∧
      (∀ fs, WellFormed fs → ofText (render fs) = .ok fs) ∧
        ∀ p fs, ofText p = .ok fs → ofText (render fs) = .ok fs :=
  ⟨fun _ _ => wellFormed_of_ofText, fun _ => ofText_render_of_wellFormed,
    fun _ _ h => ofText_render_of_wellFormed (wellFormed_of_ofText h)⟩

/-- A name and a predicate that hold what ends brackets. -/
theorem ofText_render_brackets :
    ofText "$['it\\'s ]']..[?(@['a'] == ')]')][-1,+2]" =
        .ok [root, property "it's ]", descent, expression "@['a'] == ')]'", indices [-1, 2]] ∧
      render [root, property "it's ]", descent, expression "@['a'] == ')]'", indices [-1, 2]] =
          "$['it\\'s ]']..[?(@['a'] == ')]')][-1,2]" ∧
        ofText "$['it\\'s ]']..[?(@['a'] == ')]')][-1,2]" =
          .ok [root, property "it's ]", descent, expression "@['a'] == ')]'", indices [-1, 2]] := by
  have hread : ofText "$['it\\'s ]']..[?(@['a'] == ')]')][-1,+2]" =
      .ok [root, property "it's ]", descent, expression "@['a'] == ')]'", indices [-1, 2]] := by
    decide +kernel
  have hrender : render [root, property "it's ]", descent, expression "@['a'] == ')]'",
      indices [-1, 2]] = "$['it\\'s ]']..[?(@['a'] == ')]')][-1,2]" := by
    decide +kernel
  exact ⟨hread, hrender, hrender ▸ ofText_render.2.2 _ _ hread⟩

end DocPath.Fragment

import DocPath.Proofs.Regex.Matching
import DocPath.Proofs.Regex.Meaning
import DocPath.Proofs.Regex.PatternExtension
import DocPath.Regex.Engine

/-! # The engine follows its documentation

A pattern in a group with marks around it is read as the pattern by itself
between the signs of the marks (`Tree.read_framed`): what is open around a
pattern does not change how it is read.  The one thing that gets in the way is a
comment at its end, which hides the parenthesis of the group.  From there on the
expressions are compared, and `engine_follows` puts the points together. -/

namespace DocPath.Regex

open Reader

namespace Mark

/-- The assertion that a mark is read as, whatever flags hold where it
stands. -/
def tree : Mark → Tree
  | textStart => .assertion .textStart
  | textEnd => .assertion .textEnd

/-- The property of a place that a mark asks for, which is being the start or
the end of the text. -/
def look : Mark → Look
  | textStart => .textStart
  | textEnd => .textEnd

end Mark

/-- The text of a pattern in a group between two rows of marks. -/
def framed (before : List Mark) (source : List Char) (after : List Mark) : List Char :=
  before.flatMap Mark.text ++ ("(?:".toList ++ source ++ ')' :: after.flatMap Mark.text)

theorem framed_cons (m : Mark) (before : List Mark) (source : List Char) (after : List Mark) :
    framed (m :: before) source after = m.text ++ framed before source after := by
  rw [framed, List.flatMap_cons, List.append_assoc, framed]

theorem framed_concat (before : List Mark) (source : List Char) (after : List Mark) (m : Mark) :
    framed before source (after ++ [m]) = framed before source after ++ m.text := by
  simp [framed]

/-- Whatever is framed is a group between two rows of marks, in whichever order
the marks were put around it. -/
theorem Framed.eq_framed {source text : List Char} (h : Framed source text) :
    ∃ before after, text = framed before source after := by
  induction h with
  | group => exact ⟨[], [], rfl⟩
  | before m _ ih =>
    obtain ⟨before, after, rfl⟩ := ih
    exact ⟨m :: before, after, (framed_cons m before source after).symm⟩
  | after m _ ih =>
    obtain ⟨before, after, rfl⟩ := ih
    exact ⟨before, after ++ [m], (framed_concat before source after m).symm⟩

/-! ### Reading -/

/-- A pattern ends in a comment that hides what follows it: one more parenthesis
changes nothing. -/
def EndsInComment (source : List Char) : Prop :=
  Tree.read? (source ++ [')']) = Tree.read? source

/-- The items of a framed pattern. -/
def framedItems (before : List Mark) (tree : Tree) (after : List Mark) : List Tree :=
  before.map Mark.tree ++ .group [] tree :: after.map Mark.tree

namespace Reader

variable {s : Reading} {text : List Char} {tree : Tree}

namespace Reads

theorem trans {n m : Nat} {s₁ s₂ : Reading} {text₁ text₂ : List Char}
    (h : Reads n s text s₁ text₁) (h' : Reads m s₁ text₁ s₂ text₂) :
    Reads (n + m) s text s₂ text₂ := by
  induction h with
  | done => rwa [Nat.zero_add]
  | sign hskip hsign _ ih =>
    rw [Nat.add_right_comm]
    exact .sign hskip hsign (ih h')

/-- A text that is read sign by sign to its end has the tree of all that was
read, provided that there are no more signs than characters. -/
theorem read_eq {n : Nat} {s' : Reading} {text' : List Char} (h : Reads n {} text s' text')
    (hend : skip s'.verbose text' = []) (hn : n ≤ text.length) :
    Tree.read? text = s'.finish? := by
  obtain ⟨k, hk⟩ := Nat.exists_eq_add_of_le hn
  rw [Tree.read?, hk, Nat.add_assoc, h.readAll_eq, readAll_nil hend]

end Reads

/-- Marks are read one by one. -/
theorem reads_marks (ms : List Mark) (hs : s.verbose = false) :
    Reads ms.length s (ms.flatMap Mark.text ++ text)
      { s with items := (ms.map Mark.tree).reverse ++ s.items } text := by
  induction ms generalizing s with
  | nil => exact .done
  | cons m ms ih =>
    have hsign : ∀ rest, ∃ c, skip s.verbose (m.text ++ rest) = '\\' :: c :: rest ∧
        s.sign? '\\' (c :: rest) = some (s.push m.tree, rest) := by
      intro rest
      rw [hs]
      cases m with
      | textStart => exact ⟨'A', rfl, rfl⟩
      | textEnd => exact ⟨'z', rfl, rfl⟩
    obtain ⟨c, hskip, hread⟩ := hsign (ms.flatMap Mark.text ++ text)
    rw [List.flatMap_cons, List.append_assoc, List.map_cons, List.reverse_cons, List.append_assoc]
    exact .sign hskip hread (ih (s := s.push m.tree) hs)

/-- The marks behind a group, as the tail of the pattern in the group: the
parenthesis that closes the group and the marks after it. -/
def marksTail (after : List Mark) : Tail where
  after := after.flatMap Mark.text
  no_line_end := by
    rw [List.mem_flatMap]
    rintro ⟨m, -, hm⟩
    cases m <;> exact absurd hm (by decide)
  no_colon := by
    rw [List.mem_flatMap]
    rintro ⟨m, -, hm⟩
    cases m <;> exact absurd hm (by decide)

/-- What is open around the pattern in a group: the group, with the marks before
it. -/
def openFrame (before : List Mark) : List OpenTree :=
  [.group (before.map Mark.tree).reverse [] false]

theorem grounded_openFrame (before : List Mark) : Grounded (openFrame before) :=
  fun _ _ h => nomatch h

theorem grounded_nil : Grounded [] := fun _ _ h => nomatch h

/-- The marks before a group and its opening are read up to the pattern in the
group. -/
theorem reads_opening (before : List Mark) (text : List Char) :
    Reads (before.length + 1) {} (before.flatMap Mark.text ++ ("(?:".toList ++ text))
      (({} : Reading).under (openFrame before)) text := by
  refine (reads_marks before rfl).trans (.sign rfl ?_ .done)
  rw [List.append_nil]
  rfl

/-- A pattern that goes on is read as by itself, up to the tail or to the end of
a comment that hides the tail. -/
theorem reads_of_read {source : List Char} (h : Tree.read? source = some tree) :
    ∃ n ≤ source.length, ∃ (s : Reading) (G : Tail → List Char), s.closeBranches = (tree, []) ∧
      (∀ u base, Grounded base →
        Reads n (({} : Reading).under base) (source ++ u.text) (s.under base) (G u)) ∧
      ((∀ u, skip s.verbose (G u) = u.text) ∨ ∀ u, skip s.verbose (G u) = []) := by
  obtain ⟨n, hn, s, text, hreads, hend, hfinish⟩ := Reads.exists_of_readAll h
  obtain ⟨G, hG, hreadsG⟩ := hreads.extend (.append source)
  exact ⟨n, Nat.le_of_lt_succ hn, s, G, Reading.finish_eq_some_iff.mp hfinish, hreadsG,
    (hend ▸ hG.skip s.verbose).nil⟩

/-- A parenthesis closes nothing where no group is open. -/
theorem sign_parenthesis_eq_none (hs : s.closeBranches = (tree, [])) :
    s.sign? ')' text = none := by
  have hclose : s.close? = none := by simp [Reading.close?, hs]
  rw [Reading.sign?, hclose]
  rfl

/-- A parenthesis closes the group around a pattern and leaves the marks before
it and the group. -/
theorem sign_parenthesis_under (hs : s.closeBranches = (tree, [])) (before : List Mark) :
    (s.under (openFrame before)).sign? ')' text =
      some ({ stack := [], items := .group [] tree :: (before.map Mark.tree).reverse,
              verbose := false, names := s.names }, text) := by
  rw [Reading.sign?, Reading.close?, Reading.closeBranches_under (grounded_openFrame before), hs]
  rfl

/-- A group that is still open at the end of the text leaves it without a
tree. -/
theorem finish_under_eq_none (hs : s.closeBranches = (tree, [])) (before : List Mark) :
    (s.under (openFrame before)).finish? = none := by
  rw [Reading.finish?, Reading.closeBranches_under (grounded_openFrame before), hs]
  rfl

end Reader

theorem length_marks (ms : List Mark) : (ms.flatMap Mark.text).length = 2 * ms.length := by
  induction ms with
  | nil => rfl
  | cons m ms ih =>
    have hm : m.text.length = 2 := by cases m <;> rfl
    rw [List.flatMap_cons, List.length_append, ih, hm, List.length_cons]
    omega

theorem length_framed (before : List Mark) (source : List Char) (after : List Mark) :
    (framed before source after).length =
      2 * before.length + (3 + source.length + (1 + 2 * after.length)) := by
  have hopen : ("(?:".toList).length = 3 := rfl
  simp only [framed, List.length_append, List.length_cons, length_marks, hopen]
  omega

/-- **A framed pattern is read as the pattern by itself between the signs of the
marks**, unless the pattern ends in a comment: then its group does not close. -/
theorem Tree.read_framed {source : List Char} {tree : Tree} (h : Tree.read? source = some tree)
    (before after : List Mark) :
    (¬ EndsInComment source ∧ Tree.read? (framed before source after) =
        some (.ofItems (framedItems before tree after).reverse)) ∨
      (EndsInComment source ∧ Tree.read? (framed before source after) = none) := by
  obtain ⟨n, hn, s, G, hs, hreads, hcases⟩ := reads_of_read h
  have hlen := length_framed before source after
  -- the pattern with a parenthesis behind it, and the framed pattern up to the end of its source
  have hplain := hreads (marksTail []) [] grounded_nil
  have hframed : Reads (before.length + 1 + n) {} (framed before source after)
      (s.under (openFrame before)) (G (marksTail after)) := by
    have hopen := reads_opening before (source ++ (marksTail after).text)
    have hsource := hreads (marksTail after) (openFrame before) (grounded_openFrame before)
    rw [← List.append_assoc "(?:".toList] at hopen
    exact hopen.trans hsource
  have hnil : ({} : Reading).under [] = {} := rfl
  have hunder : s.under [] = s := by rw [Reading.under, List.append_nil]
  rw [hnil, hunder] at hplain
  rcases hcases with htail | hhidden
  · left
    constructor
    · intro hends
      have hnone : Tree.read? (source ++ [')']) = none := by
        obtain ⟨k, hk⟩ := Nat.exists_eq_add_of_le hn
        have hfuel : (source ++ [')']).length + 1 = n + (k + 1 + 1) := by
          rw [List.length_append, hk, List.length_singleton]
          omega
        rw [Tree.read?, hfuel]
        refine (hplain.readAll_eq (k + 1 + 1)).trans ?_
        rw [readAll_cons (htail (marksTail [])), sign_parenthesis_eq_none hs, Option.bind_none]
      cases hnone.symm.trans (hends.trans h)
    · have hclose : Reads 1 (s.under (openFrame before)) (G (marksTail after)) _
          (after.flatMap Mark.text ++ []) :=
        .sign (htail (marksTail after)) (sign_parenthesis_under hs before)
          (by rw [List.append_nil]; exact .done)
      have hall := (hframed.trans hclose).trans (reads_marks after rfl)
      rw [hall.read_eq rfl (by omega)]
      simp only [Reading.finish?, Reading.closeBranches, framedItems, List.reverse_append,
        List.reverse_cons, List.append_assoc, List.singleton_append]
  · right
    constructor
    · have hend : Tree.read? (source ++ [')']) = s.finish? := by
        refine hplain.read_eq (hhidden _) ?_
        rw [List.length_append]
        omega
      rw [EndsInComment, hend, h, Reading.finish_eq_some_iff]
      exact hs
    · rw [hframed.read_eq (hhidden _) (by omega), finish_under_eq_none hs]

/-! ### Matching -/

namespace Expr

variable {f f' : Flags} {tree : Tree} {e : Expr} {text : List Char} {i j : Nat}

/-- Marks before an expression, which has to match at a place of which they all
hold. -/
def marked (ms : List Mark) (e : Expr) : Expr :=
  ms.foldr (fun m rest => seq (look m.look) rest) e

theorem ofItems_cons {item : Tree} (h : ofTree? f item = some (e, f')) (items : List Tree) :
    ofItems? f (item :: items) = (ofItems? f' items).map fun p => (seq e p.1, p.2) := by
  simp only [ofItems?, h, Option.bind_eq_bind, Option.bind_some]
  cases ofItems? f' items <;> rfl

theorem ofItems_marks (ms : List Mark) (items : List Tree) :
    ofItems? f (ms.map Mark.tree ++ items) =
      (ofItems? f items).map fun p => (marked ms p.1, p.2) := by
  induction ms with
  | nil => simp [marked]
  | cons m ms ih =>
    have hm : ofTree? f m.tree = some (look m.look, f) := by cases m <;> rfl
    rw [List.map_cons, List.cons_append, ofItems_cons hm, ih, Option.map_map]
    rfl

/-- A row of items and the tree of the row match the same. -/
theorem exists_of_ofItems {items : List Tree} (h : ofItems? f items = some (e, f')) :
    ∃ e', ofTree? f (.ofItems items.reverse) = some (e', f') ∧
      ∀ text i j, e'.Matches text i j ↔ e.Matches text i j := by
  match items with
  | [] => exact ⟨e, h, fun _ _ _ => Iff.rfl⟩
  | [item] =>
    simp only [ofItems?, Option.bind_eq_bind, Option.bind_some, Option.bind_eq_some_iff] at h
    obtain ⟨⟨e', f₁⟩, he, hrest⟩ := h
    obtain ⟨rfl, rfl⟩ := Prod.mk.inj (Option.some.inj hrest)
    exact ⟨e', he, fun text i j => by simp [Matches]⟩
  | first :: second :: items =>
    have hconcat : Tree.ofItems (first :: second :: items).reverse =
        .concat (first :: second :: items) := by
      unfold Tree.ofItems
      split
      · next hnil => exact absurd hnil (by simp)
      · next item hone => exact absurd (congrArg List.length hone) (by simp)
      · rw [List.reverse_reverse]
    rw [hconcat, ofTree?]
    exact ⟨e, h, fun _ _ _ => Iff.rfl⟩

theorem matches_look_iff (m : Mark) (hi : i ≤ text.length) :
    (look m.look).Matches text i j ↔ i = j ∧ m.Holds text i := by
  have hstart : (charBefore text i).isNone ↔ i = 0 := by
    rw [charBefore, Option.isNone_iff_eq_none, List.getLast?_eq_none_iff, List.take_eq_nil_iff]
    constructor
    · rintro (rfl | rfl)
      · rfl
      · simpa using hi
    · exact .inl
  have hend : text[i]?.isNone ↔ i = text.length := by
    rw [Option.isNone_iff_eq_none, List.getElem?_eq_none_iff]
    omega
  cases m with
  | textStart => simp [Matches, Mark.look, Look.holds, Mark.Holds, hstart, hi]
  | textEnd => simp [Matches, Mark.look, Look.holds, Mark.Holds, hend, hi]

theorem matches_marked_iff (ms : List Mark) (hi : i ≤ text.length) :
    (marked ms e).Matches text i j ↔ (∀ m ∈ ms, m.Holds text i) ∧ e.Matches text i j := by
  induction ms with
  | nil => simp [marked]
  | cons m ms ih =>
    have hcons : (marked (m :: ms) e).Matches text i j ↔
        ∃ k, (look m.look).Matches text i k ∧ (marked ms e).Matches text k j := Iff.rfl
    simp only [hcons, matches_look_iff m hi, List.forall_mem_cons, and_assoc, ← ih]
    constructor
    · rintro ⟨k, rfl, hm, h⟩
      exact ⟨hm, h⟩
    · rintro ⟨hm, h⟩
      exact ⟨i, rfl, hm, h⟩

theorem le_length_of_matches (h : e.Matches text i j) (hi : i ≤ text.length) : j ≤ text.length :=
  (carries text e).le_of_le h hi

/-- The expression of a framed tree matches what that of the tree matches,
between places that the marks stand for. -/
theorem exists_of_framed (he : ofTree? f tree = some (e, f')) (before after : List Mark) :
    ∃ e', ofTree? f (.ofItems (framedItems before tree after).reverse) = some (e', f) ∧
      ∀ text i j, i ≤ text.length → (e'.Matches text i j ↔
        (∀ m ∈ before, m.Holds text i) ∧ e.Matches text i j ∧ ∀ m ∈ after, m.Holds text j) := by
  have hgroup : ofTree? f (.group [] tree) = some (e, f) := by simp [ofTree?, Flags.switchAll, he]
  have hafter : ofItems? f (after.map Mark.tree) = some (marked after empty, f) := by
    simpa [ofItems?] using ofItems_marks (f := f) after []
  have hitems : ofItems? f (framedItems before tree after) =
      some (marked before (seq e (marked after empty)), f) := by
    rw [framedItems, ofItems_marks, ofItems_cons hgroup, hafter]
    rfl
  obtain ⟨e', he', hmatches⟩ := exists_of_ofItems hitems
  refine ⟨e', he', fun text i j hi => ?_⟩
  have hseq : (seq e (marked after empty)).Matches text i j ↔
      ∃ k, e.Matches text i k ∧ (marked after empty).Matches text k j := Iff.rfl
  rw [hmatches, matches_marked_iff before hi, hseq]
  refine and_congr_right fun _ => ?_
  constructor
  · rintro ⟨k, hk, hmarks⟩
    obtain ⟨hholds, rfl⟩ :=
      (matches_marked_iff after (le_length_of_matches hk hi)).mp hmarks
    exact ⟨hk, hholds⟩
  · rintro ⟨hj, hholds⟩
    exact ⟨j, hj, (matches_marked_iff after (le_length_of_matches hj hi)).mpr ⟨hholds, rfl⟩⟩

theorem ofText_eq_some_iff {pattern : List Char} :
    ofText? f pattern = some e ↔ fits f pattern = true ∧ read? f pattern = some e := by
  rw [ofText?, Option.ite_none_right_eq_some]

/-- The expression of a framed pattern, unless the pattern ends in a comment:
what is read of the pattern by itself, between the assertions of the marks. -/
theorem read_framed {source : List Char} (he : read? f source = some e) (before after : List Mark) :
    (¬ EndsInComment source ∧ ∃ e', read? f (framed before source after) = some e' ∧
        ∀ text i j, i ≤ text.length → (e'.Matches text i j ↔
          (∀ m ∈ before, m.Holds text i) ∧ e.Matches text i j ∧ ∀ m ∈ after, m.Holds text j)) ∨
      (EndsInComment source ∧ read? f (framed before source after) = none) := by
  simp only [read?, Option.bind_eq_bind, Option.bind_eq_some_iff, Option.map_eq_some_iff] at he
  obtain ⟨tree, htree, ⟨_, f'⟩, hof, rfl⟩ := he
  rcases Tree.read_framed htree before after with ⟨hends, hread⟩ | ⟨hends, hread⟩
  · obtain ⟨e', he', hmatches⟩ := exists_of_framed hof before after
    exact .inl ⟨hends, e', by simp [read?, hread, he'], hmatches⟩
  · exact .inr ⟨hends, by simp [read?, hread]⟩

end Expr

/-! ### The points of the documentation -/

/-- What the engine takes a regular expression to be: valid if it can be read,
however deep and large it is, and matching between the places that the
expression relates. -/
def meaning : Meaning where
  Valid flags text := ∃ e, Expr.read? flags.initial text = some e
  Fits flags text := Expr.fits flags.initial text = true
  OpenComment := EndsInComment
  Matches flags pattern text i j :=
    i ≤ text.length ∧ ∃ e, Expr.read? flags.initial pattern = some e ∧ e.Matches text i j

variable {flags : PatternFlags} {source text : List Char} {i j k : Nat}

theorem meaning_matches_iff {e : Expr} (he : Expr.read? flags.initial source = some e) :
    meaning.Matches flags source text i j ↔ i ≤ text.length ∧ e.Matches text i j := by
  simp [meaning, he]

theorem valid_framed_iff (h : meaning.Valid flags source) (before after : List Mark) :
    meaning.Valid flags (framed before source after) ↔ ¬ meaning.OpenComment source := by
  obtain ⟨e, he⟩ := h
  rcases Expr.read_framed he before after with ⟨hends, e', he', -⟩ | ⟨hends, hnone⟩
  · exact ⟨fun _ => hends, fun _ => ⟨e', he'⟩⟩
  · constructor
    · rintro ⟨e', he'⟩
      exact nomatch hnone.symm.trans he'
    · exact fun h => absurd hends h

/-- Whether a framed pattern is one does not depend on the marks. -/
theorem valid_framed_congr (h : meaning.Valid flags source)
    {before after before' after' : List Mark} :
    meaning.Valid flags (framed before source after) ↔
      meaning.Valid flags (framed before' source after') := by
  rw [valid_framed_iff h, valid_framed_iff h]

theorem matches_framed_iff (h : meaning.Valid flags source) (before after : List Mark)
    (hvalid : meaning.Valid flags (framed before source after)) :
    meaning.Matches flags (framed before source after) text i j ↔
      (∀ m ∈ before, m.Holds text i) ∧ meaning.Matches flags source text i j ∧
        ∀ m ∈ after, m.Holds text j := by
  have hopen := (valid_framed_iff h before after).mp hvalid
  obtain ⟨e, he⟩ := h
  obtain ⟨-, e', he', hmatches⟩ | ⟨hends, -⟩ := Expr.read_framed he before after
  · rw [meaning_matches_iff he', meaning_matches_iff he]
    constructor
    · rintro ⟨hi, hm⟩
      obtain ⟨hb, hs, ha⟩ := (hmatches text i j hi).mp hm
      exact ⟨hb, ⟨hi, hs⟩, ha⟩
    · rintro ⟨hb, ⟨hi, hs⟩, ha⟩
      exact ⟨hi, (hmatches text i j hi).mpr ⟨hb, hs, ha⟩⟩
  · exact absurd hends hopen

theorem matches_mark_iff (m : Mark) :
    meaning.Matches flags m.text text i j ↔ i = j ∧ m.Holds text i := by
  have he : Expr.read? flags.initial m.text = some (.look m.look) := by cases m <;> rfl
  rw [meaning_matches_iff he]
  constructor
  · rintro ⟨hi, h⟩
    exact (Expr.matches_look_iff m hi).mp h
  · intro h
    have hi : i ≤ text.length := by
      obtain ⟨-, h⟩ := h
      cases m with
      | textStart => exact h ▸ Nat.zero_le _
      | textEnd => exact h ▸ Nat.le_refl _
    exact ⟨hi, (Expr.matches_look_iff m hi).mpr h⟩

/-- **The engine that patterns run on does what its documentation says.** So
what is proved of every such engine holds of the patterns of criteria. -/
theorem engine_follows : engine.Follows meaning where
  build_iff := fun {flags text} => by
    constructor
    · rintro ⟨e, he⟩
      obtain ⟨hfits, hread⟩ := Expr.ofText_eq_some_iff.mp he
      exact ⟨⟨e, hread⟩, hfits⟩
    · rintro ⟨⟨e, hread⟩, hfits⟩
      exact ⟨e, Expr.ofText_eq_some_iff.mpr ⟨hfits, hread⟩⟩
  isMatch_iff h text := by
    obtain ⟨-, hread⟩ := Expr.ofText_eq_some_iff.mp h
    simp only [meaning_matches_iff hread]
    exact Expr.isMatch_iff _ text
  valid_group h := valid_framed_iff h [] []
  matches_group h hvalid text i j := by
    have hframed : meaning.Matches _ (grouped _) text i j ↔ _ :=
      matches_framed_iff h [] [] hvalid
    simpa using hframed
  matches_mark m := matches_mark_iff m
  valid_before m h hframed := by
    obtain ⟨before, after, rfl⟩ := hframed.eq_framed
    rw [← framed_cons]
    exact valid_framed_congr h
  valid_after m h hframed := by
    obtain ⟨before, after, rfl⟩ := hframed.eq_framed
    rw [← framed_concat]
    exact valid_framed_congr h
  matches_before m h hframed hvalid text i k := by
    obtain ⟨before, after, rfl⟩ := hframed.eq_framed
    rw [← framed_cons, matches_framed_iff h _ _ ((valid_framed_congr h).mp hvalid)]
    simp only [matches_mark_iff, matches_framed_iff h before after hvalid,
      List.forall_mem_cons, and_assoc]
    constructor
    · rintro ⟨hm, hrest⟩
      exact ⟨_, rfl, hm, hrest⟩
    · rintro ⟨_, rfl, hm, hrest⟩
      exact ⟨hm, hrest⟩
  matches_after m h hframed hvalid text i k := by
    obtain ⟨before, after, rfl⟩ := hframed.eq_framed
    rw [← framed_concat, matches_framed_iff h _ _ ((valid_framed_congr h).mp hvalid)]
    simp only [matches_mark_iff, matches_framed_iff h before after hvalid, List.forall_mem_append,
      List.forall_mem_singleton]
    constructor
    · rintro ⟨hb, hs, ha, hm⟩
      exact ⟨_, ⟨hb, hs, ha⟩, rfl, hm⟩
    · rintro ⟨_, ⟨hb, hs, ha⟩, rfl, hm⟩
      exact ⟨hb, hs, ha, hm⟩

end DocPath.Regex

import DocPath.Proofs.Path.Compilation
import DocPath.Proofs.Path.Evaluation
import DocPath.Proofs.Path.Grammar

/-! # Paths one after the other

A path that goes on with another one reads below each match of its first part
what the second part reads there.  The text of the second part has to begin
where an item of the first part ends (`Continues`), and the first part must not
end in a descent, which changes what a step right after it means.  The fragments
of both parts stand in a row (`ofText_append`), and so do their steps
(`Compiles.append`). -/

namespace DocPath.PathReader

variable {text rest more : List Char} {fs gs : List Fragment}

/-- A text goes on with another one that opens with a separator and adds no dot
to a dot. -/
structure Continues (text more : List Char) : Prop where
  separated : Separated more
  not_dots : text.getLast? = some '.' → more.head? ≠ some '.'

theorem Separated.append (h : Separated rest) (hm : Separated more) : Separated (rest ++ more) := by
  intro c hc
  cases rest with
  | nil => exact hm c hc
  | cons d rest => exact h c hc

/-- What follows an item is the end of the text. -/
theorem Item.exists_append (h : Item text fs rest) : ∃ s, text = s ++ rest := by
  cases h with
  | dot _ => exact ⟨['.'], rfl⟩
  | dots _ => exact ⟨['.', '.'], rfl⟩
  | @bracket inside rest f _ _ _ => exact ⟨'[' :: (inside ++ [']']), by simp⟩
  | quoted _ _ => exact ⟨_, rfl⟩
  | bare _ _ _ => exact ⟨_, rfl⟩

/-- A text that ends in dots goes on without a dot, as three dots in a row are
no part of a path. -/
theorem Continues.head_append {s : List Char} (h : Continues (s ++ ['.'] ++ rest) more)
    (hr : rest.head? ≠ some '.') : (rest ++ more).head? ≠ some '.' := by
  cases rest with
  | nil => exact h.not_dots (by simp)
  | cons c rest => exact hr

/-- An item is the same in a longer text, if the text goes on where a path may:
a bare name would otherwise take in what follows it. -/
theorem Item.append (h : Item text fs rest) (hm : Continues text more) :
    Item (text ++ more) fs (rest ++ more) := by
  cases h with
  | dot hr => exact .dot (Continues.head_append (s := []) hm hr)
  | dots hr => exact .dots (Continues.head_append (s := ['.']) hm hr)
  | @bracket inside rest f hclose hf hsep =>
    have hitem := Item.bracket hclose hf (hsep.append hm.separated)
    simpa using hitem
  | quoted hl hsep =>
    rw [List.append_assoc]
    exact .quoted hl (hsep.append hm.separated)
  | bare hname hblank hsep =>
    rw [List.append_assoc]
    exact .bare hname hblank (hsep.append hm.separated)

/-- After an item a text goes on as before. -/
theorem Item.continues (hi : Item text fs rest) (hm : Continues text more) :
    Continues rest more := by
  refine ⟨hm.separated, fun hdot => hm.not_dots ?_⟩
  obtain ⟨s, rfl⟩ := hi.exists_append
  rw [List.getLast?_append, hdot]
  rfl

/-- The items of a text that goes on are read first, and then what it goes on
with, to whatever end. -/
theorem Splits.scan_append (h : Splits text fs) (hm : Continues text more) :
    scan (text ++ more) = (scan more).map (fs ++ ·) := by
  induction h with
  | nil => cases hmore : scan more <;> simp [hmore, Except.map]
  | @cons text rest fs gs hi _ ih =>
    obtain ⟨c, cs, rfl⟩ := List.exists_cons_of_ne_nil hi.ne_nil
    have hitem := item_of_grammar (hi.append hm)
    rw [List.cons_append] at hitem ⊢
    rw [scan_cons hitem, ih (hi.continues hm)]
    cases hmore : scan more <;> simp [Except.map]

theorem afterRoot_append (h : text ≠ []) : afterRoot (text ++ more) = afterRoot text ++ more := by
  cases text with
  | nil => exact absurd rfl h
  | cons c text =>
    by_cases hc : c = '$'
    · subst hc
      rfl
    · simp [afterRoot, hc]

/-- A text that opens with a separator does not open with the sign of the
root. -/
theorem afterRoot_of_separated (h : Separated text) : afterRoot text = text := by
  unfold afterRoot
  split
  · rcases h '$' rfl with h | h <;> cases h
  · rfl

theorem Continues.afterRoot (h : Continues text more) : Continues (afterRoot text) more := by
  refine ⟨h.separated, fun hdot => h.not_dots ?_⟩
  unfold PathReader.afterRoot at hdot
  split at hdot
  · rw [List.getLast?_cons, hdot]
    rfl
  · exact hdot

theorem path_eq_scan (h : text ≠ []) : path text = (scan (afterRoot text)).map (.root :: ·) := by
  unfold path afterRoot
  split
  · exact absurd rfl h
  · rfl
  · next hdollar =>
    split
    · exact absurd rfl (hdollar _)
    · rfl

/-- A path that goes on has its own fragments and then those of what it goes on
with, if that is a path. -/
theorem Follows.path_append_eq_ok_iff {hs : List Fragment} (h : Follows text fs)
    (hm : Continues text more) (hmore : more ≠ []) :
    path (text ++ more) = .ok hs ↔ ∃ gs, path more = .ok (.root :: gs) ∧ hs = fs ++ gs := by
  obtain ⟨hne, fs', hfs, rfl⟩ := h
  rw [path_eq_scan (List.append_ne_nil_of_left_ne_nil hne _), afterRoot_append hne,
    hfs.scan_append hm.afterRoot, path_eq_scan hmore, afterRoot_of_separated hm.separated]
  cases scan more with
  | error stop => simp [Except.map]
  | ok gs => simp [Except.map, eq_comm]

end DocPath.PathReader

namespace DocPath.Fragment

open Unicode (isBlank trim)
open PathReader (Continues)

theorem exists_root_of_ofText {p : String} {fs : List Fragment} (h : ofText p = .ok fs) :
    ∃ gs, fs = root :: gs := by
  obtain ⟨-, gs, -, rfl⟩ := PathReader.path_eq_ok_iff.mp (ofText_eq_ok_iff_path.mp h)
  exact ⟨gs, rfl⟩

/-- Where a text may go on with another one: with a bracket, or with a dot if it
does not end in one. -/
def Seam (p q : String) : Prop :=
  q.toList.head? = some '[' ∨ q.toList.head? = some '.' ∧ p.toList.getLast? ≠ some '.'

/-- A path that goes on is a path exactly if it goes on with one, and has the
fragments of both, with one root. -/
theorem ofText_append_eq_ok_iff {p q : String} {fs hs : List Fragment} (hp : ofText p = .ok fs)
    (hblank : ∀ c, p.toList.getLast? = some c → isBlank c = false) (hseam : Seam p q) :
    ofText (p ++ q) = .ok hs ↔ ∃ gs, ofText q = .ok (root :: gs) ∧ hs = fs ++ gs := by
  simp only [ofText_eq_ok_iff_path] at hp ⊢
  rw [PathReader.path_eq_ok_iff] at hp
  have hhead : ∀ c, q.toList.head? = some c → isBlank c = false := by
    intro c hc
    rcases hseam with h | ⟨h, -⟩ <;> rw [h] at hc <;> cases hc <;> decide
  have hq : trim q.toList ≠ [] := by
    intro hnil
    have hblanks := Unicode.trim_eq_nil_iff.mp hnil
    rcases hseam with h | ⟨h, -⟩ <;>
      exact absurd (hblanks _ (List.mem_of_head? h)) (by decide)
  rw [String.toList_append, Unicode.trim_append hp.1 hblank hq hhead]
  -- trimming takes nothing off at the seam
  have hlast := Unicode.getLast?_trim hp.1 hblank
  have hfirst := Unicode.head?_trim hq hhead
  refine hp.path_append_eq_ok_iff ⟨fun c hc => ?_, fun hdot => ?_⟩ hq
  · rw [hfirst] at hc
    rcases hseam with h | ⟨h, -⟩ <;> rw [h] at hc <;> cases hc
    · exact .inr rfl
    · exact .inl rfl
  · rw [hlast] at hdot
    rw [hfirst]
    rcases hseam with h | ⟨-, h⟩
    · rw [h]
      decide
    · exact absurd hdot h

/-- The fragments of a path that goes on with another one: those of both, with
one root. -/
theorem ofText_append {p q : String} {fs gs : List Fragment} (hp : ofText p = .ok (root :: fs))
    (hq : ofText q = .ok (root :: gs)) 
    (hblank : ∀ c, p.toList.getLast? = some c → isBlank c = false)
    (hseam : q.toList.head? = some '[' ∨ q.toList.head? = some '.' ∧ p.toList.getLast? ≠ some '.') :
    ofText (p ++ q) = .ok (root :: (fs ++ gs)) :=
  (ofText_append_eq_ok_iff hp hblank hseam).mpr ⟨gs, hq, rfl⟩

end DocPath.Fragment

namespace DocPath.Compiler

variable {after : Bool} {f : Fragment} {fs gs : List Fragment} {ss ts : List Step}
  {supplied further left : List Predicate}

/-- Whether the last of a row of fragments is a descent; `after` says so of the
fragment before them. -/
def endsInDescent (after : Bool) (fs : List Fragment) : Bool :=
  fs.foldl (fun _ f => f == .descent) after

theorem endsInDescent_eq_false (hfs : fs ≠ []) (hlast : fs.getLast? ≠ some .descent) :
    endsInDescent after fs = false := by
  rcases List.eq_nil_or_concat fs with rfl | ⟨fs, f, rfl⟩
  · exact absurd rfl hfs
  · have hf : f ≠ .descent := fun he => hlast (by simp [he])
    simpa [endsInDescent] using hf

theorem placeholders_plain {step : Step} (h : f.plainStep? after = some step) :
    placeholders (f :: fs) = placeholders fs := by
  cases f with
  | placeholder => cases h
  | _ => rfl

theorem placeholders_placeholder : placeholders (.placeholder :: fs) = placeholders fs + 1 :=
  List.countP_cons_of_pos rfl

theorem placeholders_expression {text : String} :
    placeholders (.expression text :: fs) = placeholders fs := rfl

/-- Placeholders take one predicate each, and no other fragment takes any, so
their number is what the supplied predicates are shortened by. -/
theorem Compiles.length_supplied (h : Compiles after fs supplied ss left) :
    supplied.length = placeholders fs + left.length := by
  induction h with
  | nil => simp [placeholders]
  | plain hp _ ih => rw [placeholders_plain hp, ih]
  | placeholder _ ih =>
    rw [List.length_cons, ih, placeholders_placeholder]
    omega
  | expression _ _ ih => rw [placeholders_expression, ih]

/-- Predicates supplied beyond the ones that are used are left over. -/
theorem Compiles.append_supplied (h : Compiles after fs supplied ss left)
    (further : List Predicate) :
    Compiles after fs (supplied ++ further) ss (left ++ further) := by
  induction h with
  | nil => exact .nil
  | plain hp _ ih => exact .plain hp ih
  | placeholder _ ih => exact .placeholder ih
  | expression hf _ ih => exact .expression hf ih

/-- A row of fragments compiles in two parts.  The second takes the predicates
that the first leaves over, and all that it needs to know of the first is
whether it ends in a descent. -/
theorem Compiles.append (h : Compiles after fs supplied ss further)
    (hg : Compiles (endsInDescent after fs) gs further ts left) :
    Compiles after (fs ++ gs) supplied (ss ++ ts) left := by
  induction h with
  | nil => exact hg
  | plain hp _ ih => exact .plain hp (ih hg)
  | placeholder _ ih => exact .placeholder (ih hg)
  | expression hf _ ih => exact .expression hf (ih hg)

/-- Fragments in a row compile part by part: the second part from the predicates
that the first one leaves, and as after its last fragment. -/
theorem Compiles.split (h : Compiles after (fs ++ gs) supplied ss left) :
    ∃ ss₁ ss₂ further, ss = ss₁ ++ ss₂ ∧ Compiles after fs supplied ss₁ further ∧
      Compiles (endsInDescent after fs) gs further ss₂ left := by
  induction fs generalizing after supplied ss with
  | nil => exact ⟨[], ss, supplied, rfl, .nil, h⟩
  | cons f fs ih =>
    cases h with
    | plain hp hrest =>
      obtain ⟨ss₁, ss₂, further, rfl, h₁, h₂⟩ := ih hrest
      exact ⟨_ :: ss₁, ss₂, further, rfl, .plain hp h₁, h₂⟩
    | placeholder hrest =>
      obtain ⟨ss₁, ss₂, further, rfl, h₁, h₂⟩ := ih hrest
      exact ⟨_ :: ss₁, ss₂, further, rfl, .placeholder h₁, h₂⟩
    | expression hf hrest =>
      obtain ⟨ss₁, ss₂, further, rfl, h₁, h₂⟩ := ih hrest
      exact ⟨_ :: ss₁, ss₂, further, rfl, .expression hf h₁, h₂⟩

theorem Compiles.length_steps (h : Compiles after fs supplied ss left) : ss.length = fs.length := by
  induction h with
  | nil => rfl
  | plain _ _ ih | placeholder _ ih | expression _ _ ih =>
    rw [List.length_cons, List.length_cons, ih]

/-- The predicates for the placeholders are taken from the front. -/
theorem Compiles.left_eq_drop (h : Compiles after fs supplied ss left) :
    left = supplied.drop (placeholders fs) := by
  induction h with
  | nil => rfl
  | plain hp _ ih =>
    rw [placeholders_plain hp]
    exact ih
  | placeholder _ ih =>
    rw [placeholders_placeholder]
    exact ih
  | expression _ _ ih => exact ih

theorem Compiles.exists_root (h : Compiles after (.root :: fs) supplied ss left) :
    ∃ ts, ss = .root :: ts ∧ Compiles false fs supplied ts left := by
  cases h with
  | plain hp hrest =>
    cases hp
    exact ⟨_, rfl, hrest⟩

/-- Fragments and predicates have one row of steps at most, so the steps of a
path can be found by any derivation of them. -/
theorem Compiles.steps_unique (h : Compiles after fs supplied ss left)
    (h' : Compiles after fs supplied ts further) : ss = ts := by
  have he : steps "" 0 0 after fs supplied = .ok (ss, left) := steps_eq_ok_iff.mpr h
  rw [steps_eq_ok_iff.mpr h'] at he
  cases he
  rfl

end DocPath.Compiler

namespace DocPath.Step

variable {shelf : Shelf} {steps further : List Step} {vs ws : List Value}

theorem nodesAfter_append :
    nodesAfter shelf (steps ++ further) vs = nodesAfter shelf further (nodesAfter shelf steps vs) :=
  List.foldl_append

theorem nodesAfter_singleton {s : Step} {v : Value} : nodesAfter shelf [s] [v] = s.nodes shelf v :=
  List.flatMap_singleton _ _

theorem nodesAfter_pair {s t : Step} {v : Value} :
    nodesAfter shelf [s, t] [v] = (s.nodes shelf v).flatMap (t.nodes shelf) := by
  rw [nodesAfter_cons, List.flatMap_singleton]
  rfl

/-- A row of steps treats each node by itself: what it selects below several
nodes is what it selects below each of them, in their order. -/
theorem nodesAfter_eq_flatMap :
    nodesAfter shelf steps vs = vs.flatMap fun v => nodesAfter shelf steps [v] := by
  induction steps generalizing vs with
  | nil => simp
  | cons step steps ih =>
    rw [nodesAfter_cons, ih, List.flatMap_assoc]
    refine List.flatMap_congr fun v _ => ?_
    rw [nodesAfter_cons, ih, List.flatMap_singleton]

end DocPath.Step

namespace DocPath.CompiledPath

open Unicode (isBlank)
open Compiler (Compiles)

/-- A compiled path goes on with fragments that compile after it.  They take the
predicates that it leaves over, and then further ones. -/
theorem compile_append {p q : String} {supplied second : List Predicate} {config : Config}
    {head : CompiledPath} {gs : List Fragment} {ts : List Step}
    (hhead : compile p supplied config = .ok head)
    (hblank : ∀ c, p.toList.getLast? = some c → isBlank c = false) (hseam : Fragment.Seam p q)
    (hq : Fragment.ofText q = .ok (.root :: gs))
    (hlength : (p ++ q).length ≤ config.maxPathLength.toNat)
    (hcount : head.fragments.length + gs.length ≤ config.maxFragments.toNat)
    (hgs : ∃ left, Compiles (Compiler.endsInDescent false head.fragments) gs
      (supplied.drop (Compiler.placeholders head.fragments) ++ second) ts left) :
    compile (p ++ q) (supplied ++ second) config =
      .ok ⟨p ++ q, head.fragments ++ gs, head.steps ++ ts⟩ := by
  obtain ⟨hv, -, hp, -, ⟨rest, hss⟩, -⟩ := compile_eq_ok_iff.mp hhead
  have htext := (Fragment.ofText_append_eq_ok_iff hp hblank hseam).mpr ⟨gs, hq, rfl⟩
  obtain ⟨left, hgs⟩ := hgs
  rw [← hss.left_eq_drop] at hgs
  rw [← List.length_append] at hcount
  exact compile_eq_ok_iff.mpr
    ⟨hv, hlength, htext, hcount, ⟨left, (hss.append_supplied second).append hgs⟩, rfl⟩

/-- Steps after those of a path go on below each of its matches.  Stopping early
where no match is left makes no difference to this. -/
theorem readList_append_steps {source : String} {fs : List Fragment} {head : CompiledPath}
    {ts : List Step} {shelf : Shelf} {document : Value} :
    readList shelf ⟨source, fs, head.steps ++ ts⟩ document =
      (head.readList shelf document).flatMap fun v => Step.nodesAfter shelf ts [v] := by
  rw [readList_eq_nodesAfter, Step.nodesAfter_append, Step.nodesAfter_eq_flatMap,
    readList_eq_nodesAfter]

/-- **A path that goes on with another one reads below each match what the other
one reads there**, in the order of the matches.  The supplied predicates are
those of the first part and then those of the second. -/
theorem readList_append {p q : String} {first second : List Predicate} {config : Config}
    {head tail whole : CompiledPath} (shelf : Shelf) (document : Value)
    (hhead : compile p first config = .ok head) (htail : compile q second config = .ok tail)
    (hwhole : compile (p ++ q) (first ++ second) config = .ok whole)
    (hfirst : first.length = Compiler.placeholders head.fragments)
    (hblank : ∀ c, p.toList.getLast? = some c → isBlank c = false)
    (hdescent : head.fragments.getLast? ≠ some .descent)
    (hseam : q.toList.head? = some '[' ∨ q.toList.head? = some '.' ∧ p.toList.getLast? ≠ some '.') :
    whole.readList shelf document =
      (head.readList shelf document).flatMap (tail.readList shelf) := by
  obtain ⟨-, -, hp, -, ⟨left, hss⟩, -⟩ := compile_eq_ok_iff.mp hhead
  obtain ⟨-, -, hq, -, ⟨left', hts⟩, -⟩ := compile_eq_ok_iff.mp htail
  obtain ⟨-, -, hpq, -, ⟨left'', hall⟩, -⟩ := compile_eq_ok_iff.mp hwhole
  obtain ⟨fs, hfs⟩ := Fragment.exists_root_of_ofText hp
  obtain ⟨gs, hgs⟩ := Fragment.exists_root_of_ofText hq
  -- the first part uses up its predicates, so the second part finds its own
  have hused : left = [] := by
    have hlen := hss.length_supplied
    exact List.eq_nil_of_length_eq_zero (by omega)
  subst hused
  rw [hfs] at hp hss hdescent
  rw [hgs] at hq hts
  obtain ⟨ts, htail', hsteps⟩ := hts.exists_root
  have hmore : Compiles (Compiler.endsInDescent false (.root :: fs)) gs second ts left' := by
    rw [Compiler.endsInDescent_eq_false (List.cons_ne_nil _ _) hdescent]
    exact hsteps
  have happend := (hss.append_supplied second).append hmore
  have htext := Fragment.ofText_append hp hq hblank hseam
  rw [hpq, Except.ok.injEq] at htext
  rw [htext] at hall
  have hone := hall.steps_unique happend
  rw [readList_eq_nodesAfter, hone, Step.nodesAfter_append, Step.nodesAfter_eq_flatMap,
    readList_eq_nodesAfter]
  refine List.flatMap_congr fun v _ => ?_
  rw [readList_eq_nodesAfter, htail', Step.nodesAfter_cons]
  rfl

/-- Predicates in both parts, with one to spare, and a descent right where the
second part begins. -/
theorem readList_append_descent :
    ∃ (has : String → Predicate) (document : Value) (head tail whole : CompiledPath),
      (has = fun key => .criterion ⟨key, .present true⟩) ∧
      document = .object [("rows", .array [.object [("a", .int 1), ("b", .int 2)],
        .object [("b", .int 3)], .object [("a", .object [("b", .int 4)])]])] ∧
      compile " $.rows[?]" [has "a"] {} = .ok head ∧
      compile "..[?]['b']" [has "b", has "c"] {} = .ok tail ∧
      compile (" $.rows[?]" ++ "..[?]['b']") ([has "a"] ++ [has "b", has "c"]) {} = .ok whole ∧
      whole.readList {} document = (head.readList {} document).flatMap (tail.readList {}) ∧
      whole.readList {} document = [.int 2, .int 4] := by
  let has : String → Predicate := fun key => .criterion ⟨key, .present true⟩
  have hhead : compile " $.rows[?]" [has "a"] {} =
      .ok ⟨_, [.root, .property "rows", .placeholder],
        [.root, .property "rows" true, .predicate (has "a") true]⟩ :=
    compile_eq_ok_iff.mpr ⟨rfl, by decide, by decide +kernel, by decide,
      ⟨_, .plain rfl (.plain rfl (.placeholder .nil))⟩, rfl⟩
  have htail : compile "..[?]['b']" [has "b", has "c"] {} =
      .ok ⟨_, [.root, .descent, .placeholder, .property "b"],
        [.root, .descent, .predicate (has "b") false, .property "b" true]⟩ :=
    compile_eq_ok_iff.mpr ⟨rfl, by decide, by decide +kernel, by decide,
      ⟨_, .plain rfl (.plain rfl (.placeholder (.plain rfl .nil)))⟩, rfl⟩
  have hwhole : compile (" $.rows[?]" ++ "..[?]['b']") ([has "a"] ++ [has "b", has "c"]) {} =
      .ok ⟨_, [.root, .property "rows", .placeholder, .descent, .placeholder, .property "b"],
        [.root, .property "rows" true, .predicate (has "a") true, .descent,
          .predicate (has "b") false, .property "b" true]⟩ :=
    compile_eq_ok_iff.mpr ⟨rfl, by decide, by decide +kernel, by decide,
      ⟨_,
        .plain rfl (.plain rfl (.placeholder (.plain rfl (.placeholder (.plain rfl .nil)))))⟩, rfl⟩
  exact ⟨has, _, _, _, _, rfl, rfl, hhead, htail, hwhole,
    readList_append {} _ hhead htail hwhole rfl (by rintro c ⟨⟩; decide) (by decide)
      (.inr (by decide)), rfl⟩

end DocPath.CompiledPath

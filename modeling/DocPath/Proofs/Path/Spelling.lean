import DocPath.Proofs.Path.Concatenation

/-! # Spellings of a path

Reading a path keeps nothing in mind between one item and the next.  So a path
may be cut at any separator and read in two parts (`ofText_continued`), and one
dot more at its end makes no difference.  The sign of the root may be written or
left out, with a dot after it or without one: the same fragments are read, and a
path that is compiled from them selects the same nodes
(`CompiledPath.rooted_alike`). -/

namespace DocPath

open Unicode (isBlank trim)

namespace Fragment

/-! ## Paths that go on -/

/-- **A path that goes on at a separator is a path exactly if it goes on with
one**, and has the fragments of both.  So a dot at its end changes nothing. -/
theorem ofText_continued {p : String} {fs : List Fragment} (hp : ofText p = .ok fs)
    (hblank : ∀ c, p.toList.getLast? = some c → isBlank c = false) :
    (∀ q, Seam p q →
      ((∃ hs, ofText (p ++ q) = .ok hs) ↔ ∃ gs, ofText q = .ok gs) ∧
        ∀ gs, ofText q = .ok (root :: gs) → ofText (p ++ q) = .ok (fs ++ gs)) ∧
    (p.toList.getLast? ≠ some '.' → ofText (p ++ ".") = .ok fs) := by
  refine ⟨fun q hseam => ⟨⟨?_, ?_⟩, ?_⟩, fun hdot => ?_⟩
  · rintro ⟨hs, h⟩
    obtain ⟨gs, hq, -⟩ := (ofText_append_eq_ok_iff hp hblank hseam).mp h
    exact ⟨_, hq⟩
  · rintro ⟨_, hq⟩
    obtain ⟨gs, rfl⟩ := exists_root_of_ofText hq
    exact ⟨_, (ofText_append_eq_ok_iff hp hblank hseam).mpr ⟨gs, hq, rfl⟩⟩
  · intro gs hq
    exact (ofText_append_eq_ok_iff hp hblank hseam).mpr ⟨gs, hq, rfl⟩
  · have hq : ofText "." = .ok [root] := by decide +kernel
    exact (ofText_append_eq_ok_iff hp hblank (.inr ⟨rfl, hdot⟩)).mpr ⟨[], hq, by simp⟩

/-- A path that ends in a quoted name with separators in it, and goes on with a
path or with none. -/
theorem ofText_continued_quoted :
    ofText " $..'a.]'" = .ok [.root, .descent, .property "a.]"] ∧
      Seam " $..'a.]'" "..[-1]. b " ∧ Seam " $..'a.]'" "[1" ∧
      ofText (" $..'a.]'" ++ "..[-1]. b ") =
        .ok [.root, .descent, .property "a.]", .descent, .index (-1), .property "b"] ∧
      (¬ ∃ hs, ofText (" $..'a.]'" ++ "[1") = .ok hs) ∧
      ofText (" $..'a.]'" ++ ".") = .ok [.root, .descent, .property "a.]"] := by
  have hp : ofText " $..'a.]'" = .ok [.root, .descent, .property "a.]"] := by decide +kernel
  have hq : ofText "..[-1]. b " = .ok [.root, .descent, .index (-1), .property "b"] := by
    decide +kernel
  have hnone : ¬ ∃ gs, ofText "[1" = .ok gs := by
    rintro ⟨gs, h⟩
    have herror : ofText "[1" = .error (.invalidPath "[1" .unterminatedBracket (some 0)) := by
      decide +kernel
    rw [herror] at h
    cases h
  have hseam : Seam " $..'a.]'" "..[-1]. b " := .inr ⟨by decide, by decide⟩
  have hseam' : Seam " $..'a.]'" "[1" := .inl (by decide)
  have hblank : ∀ c, " $..'a.]'".toList.getLast? = some c → isBlank c = false := by
    rintro c ⟨⟩
    rfl
  obtain ⟨hgoes, hdot⟩ := ofText_continued hp hblank
  exact ⟨hp, hseam, hseam', (hgoes _ hseam).2 _ hq, fun h => hnone ((hgoes _ hseam').1.mp h),
    hdot (by decide)⟩

/-! ## The sign of the root -/

/-- The texts with the sign of the root in front of `p`, and with a dot after
the sign unless `p` begins with one. -/
inductive Rooted (p : String) : String → Prop
  | sign : Rooted p ("$" ++ p)
  | signDot : p.toList.head? ≠ some '.' → Rooted p ("$." ++ p)

/-- Texts that are read to the same fragments, or refused for the same fault.
The expression and the position of the error may differ, as the texts do. -/
def Alike (p q : String) : Prop :=
  (∃ fs, ofText p = .ok fs ∧ ofText q = .ok fs) ∨
    ∃ fault m n, ofText p = .error (.invalidPath p fault (some m)) ∧
      ofText q = .error (.invalidPath q fault (some n))

variable {p q : String} {c : Char} {rest : List Char}

theorem alike_of_path_eq (h : PathReader.path (trim p.toList) = PathReader.path (trim q.toList)) :
    Alike p q := by
  simp only [Alike, ofText, h]
  cases PathReader.path (trim q.toList) with
  | ok fs => exact .inl ⟨fs, rfl, rfl⟩
  | error stop => exact .inr ⟨stop.fault, _, _, rfl, rfl⟩

/-- One dot in front of what is no dot is read as nothing. -/
theorem scan_dot {text : List Char} (h : text.head? ≠ some '.') :
    PathReader.scan ('.' :: text) = PathReader.scan text := by
  have hdot : PathReader.item ('.' :: text) = .ok ([], text) :=
    PathReader.item_of_grammar (.dot h)
  rw [PathReader.scan_cons hdot]
  cases PathReader.scan text <;> rfl

theorem Rooted.alike (hp : p.toList = c :: rest) (hblank : isBlank c = false) (hsign : c ≠ '$')
    (hq : Rooted p q) : Alike q p := by
  have hhead : ∀ d, p.toList.head? = some d → isBlank d = false := by
    intro d hd
    rw [hp] at hd
    cases hd
    exact hblank
  have hne : trim p.toList ≠ [] := by
    intro hnil
    rw [Unicode.trim_eq_nil_iff.mp hnil c (by simp [hp])] at hblank
    cases hblank
  have hfirst : (trim p.toList).head? = some c := by
    rw [Unicode.head?_trim hne hhead, hp]
    rfl
  -- the path by itself has no sign to be taken off
  have hpath : PathReader.path (trim p.toList) =
      (PathReader.scan (trim p.toList)).map (root :: ·) := by
    obtain ⟨text, htext⟩ := List.head?_eq_some_iff.mp hfirst
    rw [PathReader.path_eq_scan hne, htext]
    simp [PathReader.afterRoot, hsign]
  refine alike_of_path_eq ?_
  rw [hpath]
  cases hq with
  | sign =>
    have htrim : trim (['$'] ++ p.toList) = trim ['$'] ++ trim p.toList :=
      Unicode.trim_append (by decide) (by rintro d ⟨⟩; rfl) hne hhead
    rw [String.toList_append, show "$".toList = ['$'] from rfl, htrim]
    rfl
  | signDot hdot =>
    have htrim : trim (['$', '.'] ++ p.toList) = trim ['$', '.'] ++ trim p.toList :=
      Unicode.trim_append (by decide) (by rintro d ⟨⟩; rfl) hne hhead
    have hscan : PathReader.scan ('.' :: trim p.toList) = PathReader.scan (trim p.toList) := by
      refine scan_dot ?_
      rw [hp] at hdot
      rw [hfirst]
      exact hdot
    rw [String.toList_append, show "$.".toList = ['$', '.'] from rfl, htrim, ← hscan]
    rfl

theorem Alike.symm (h : Alike p q) : Alike q p := by
  rcases h with ⟨fs, hp, hq⟩ | ⟨fault, m, n, hp, hq⟩
  · exact .inl ⟨fs, hq, hp⟩
  · exact .inr ⟨fault, n, m, hq, hp⟩

theorem Alike.ofText_eq_ok {fs : List Fragment} (h : Alike p q) (hp : ofText p = .ok fs) :
    ofText q = .ok fs := by
  rcases h with ⟨gs, hp', hq⟩ | ⟨_, _, _, herror, -⟩
  · rw [hp] at hp'
    cases hp'
    exact hq
  · rw [hp] at herror
    cases herror

theorem Rooted.length_le (h : Rooted p q) : p.length ≤ q.length := by
  cases h <;> simp

end Fragment

namespace CompiledPath

open Fragment (Alike Rooted)

variable {p q : String} {c : Char} {rest : List Char} {supplied : List Predicate}
  {config config' : Config} {path other : CompiledPath}

/-- Texts that are read alike compile alike, apart from their lengths. -/
theorem exists_compile_of_alike (h : Alike p q) (hlen : q.length ≤ config.maxPathLength.toNat)
    (hp : compile p supplied config = .ok path) :
    ∃ other, compile q supplied config = .ok other := by
  obtain ⟨hv, -, htext, hmany, hsteps, -⟩ := compile_eq_ok_iff.mp hp
  exact ⟨⟨q, path.fragments, path.steps⟩,
    compile_eq_ok_iff.mpr ⟨hv, hlen, h.ofText_eq_ok htext, hmany, hsteps, rfl⟩⟩

theorem readList_of_alike (h : Alike p q) (hp : compile p supplied config = .ok path)
    (hq : compile q supplied config' = .ok other) (shelf : Shelf) (document : Value) :
    path.readList shelf document = other.readList shelf document := by
  obtain ⟨-, -, htext, -, ⟨left, hss⟩, -⟩ := compile_eq_ok_iff.mp hp
  obtain ⟨-, -, htext', -, ⟨left', hts⟩, -⟩ := compile_eq_ok_iff.mp hq
  have hfragments : path.fragments = other.fragments := by
    rw [h.ofText_eq_ok htext, Except.ok.injEq] at htext'
    exact htext'
  rw [hfragments] at hss
  rw [readList_eq_nodesAfter, readList_eq_nodesAfter, hss.steps_unique hts]

/-- **The sign of the root makes no difference.** A text that begins with no
blank and not with the sign is read as with the sign in front, and with the sign
and a dot unless it begins with a dot: to the same fragments, or both are
refused, for the same fault.  Within the limit on the length one compiles if the
other does, with any predicates, and then they select the same nodes in every
document. -/
theorem rooted_alike (hp : p.toList = c :: rest) (hblank : isBlank c = false) (hsign : c ≠ '$')
    (hq : Rooted p q) :
    Alike q p ∧
      (∀ supplied config, q.length ≤ config.maxPathLength.toNat →
        ((∃ path, compile q supplied config = .ok path) ↔
          ∃ path, compile p supplied config = .ok path)) ∧
      ∀ supplied config config' path other, compile q supplied config = .ok path →
        compile p supplied config' = .ok other →
          ∀ shelf document, path.readList shelf document = other.readList shelf document := by
  have halike : Alike q p := hq.alike hp hblank hsign
  refine ⟨halike, fun supplied config hlen => ⟨?_, ?_⟩, ?_⟩
  · rintro ⟨path, hpath⟩
    exact exists_compile_of_alike halike (hq.length_le.trans hlen) hpath
  · rintro ⟨path, hpath⟩
    exact exists_compile_of_alike halike.symm hlen hpath
  · intro supplied config config' path other hpath hother shelf document
    exact readList_of_alike halike hpath hother shelf document

/-- A path that begins with a bracket, after the sign and a dot, and a text that
is refused with the sign and without. -/
theorem rooted_alike_bracket :
    ∃ (has : Predicate) (document : Value) (path other : CompiledPath),
      has = .criterion ⟨"b", .present true⟩ ∧
      document = .object [("a", .array [.object [("b", .int 1)], .null, .object [("b", .null)]])] ∧
      Rooted "['a'][?]" ("$." ++ "['a'][?]") ∧ Alike ("$." ++ "['a'][?]") "['a'][?]" ∧
      compile ("$." ++ "['a'][?]") [has] {} = .ok path ∧ compile "['a'][?]" [has] {} = .ok other ∧
      path.readList {} document = other.readList {} document ∧
      other.readList {} document = [.object [("b", .int 1)], .object [("b", .null)]] ∧
      Fragment.ofText "a]" = .error (.invalidPath "a]" .strayBracket (some 1)) ∧
      Alike ("$" ++ "a]") "a]" := by
  let has : Predicate := .criterion ⟨"b", .present true⟩
  let document : Value :=
    .object [("a", .array [.object [("b", .int 1)], .null, .object [("b", .null)]])]
  have hrooted : Rooted "['a'][?]" ("$." ++ "['a'][?]") := .signDot (by decide)
  have hother : compile "['a'][?]" [has] {} = .ok ⟨_, [.root, .property "a", .placeholder],
      [.root, .property "a" true, .predicate has true]⟩ :=
    compile_eq_ok_iff.mpr ⟨rfl, by decide, by decide +kernel, by decide,
      ⟨_, .plain rfl (.plain rfl (.placeholder .nil))⟩, rfl⟩
  obtain ⟨halike, hcompile, hread⟩ := rooted_alike rfl (by decide) (by decide) hrooted
  obtain ⟨path, hpath⟩ := (hcompile [has] {} (by decide)).mpr ⟨_, hother⟩
  obtain ⟨hrefused, -, -⟩ :=
    @rooted_alike "a]" ("$" ++ "a]") 'a' [']'] rfl (by decide) (by decide) .sign
  exact ⟨has, document, path, _, rfl, rfl, hrooted, halike, hpath, hother,
    hread _ _ _ _ _ hpath hother {} document, rfl, by decide +kernel, hrefused⟩

end CompiledPath

end DocPath

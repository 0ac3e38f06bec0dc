import DocPath.Proofs.Filter.Refusal
import DocPath.Proofs.Path.Failure
import DocPath.Proofs.Path.Refusal

/-! # The number of fragments of a path

Every item of a path takes a character and has one fragment at most, so the
fragments of a path are at most as many as its characters, and the root.  The
limit on fragments is reported of paths with more fragments and of nothing else
(`compile_eq_tooManyFragments_iff`), hence never where it is as high as the
length admits. -/

namespace DocPath

namespace PathReader

variable {text rest : List Char} {fs : List Fragment} {stop : PathStop}

theorem Item.length_le_one (h : Item text fs rest) : fs.length ≤ 1 := by
  cases h with
  | dot _ => exact Nat.zero_le 1
  | dots _ | bracket _ _ _ | quoted _ _ | bare _ _ _ => exact Nat.le_refl 1

/-- An item takes a character for its fragment at least, and one that gives no
fragment takes its dot. -/
theorem Item.length_add_le (h : Item text fs rest) : fs.length + rest.length ≤ text.length := by
  obtain ⟨c, cs, rfl⟩ := List.exists_cons_of_ne_nil h.ne_nil
  have hone := h.length_le_one
  have htakes := item_length (item_of_grammar h)
  omega

theorem Splits.length_le (h : Splits text fs) : fs.length ≤ text.length := by
  induction h with
  | nil => exact Nat.le_refl 0
  | @cons text rest fs gs hi _ ih =>
    have hitem := hi.length_add_le
    rw [List.length_append]
    omega

theorem Follows.length_le (h : Follows text fs) : fs.length ≤ text.length + 1 := by
  obtain ⟨-, gs, hsplits, rfl⟩ := h
  have hroot := (afterRoot_suffix text).length_le
  have hgs := hsplits.length_le
  rw [List.length_cons]
  omega

/-- A path is never refused for its size by the reader. -/
theorem isLimit_of_path (h : path text = .error stop) : stop.fault.isLimit = false := by
  cases stop with
  | outside stop => exact (tells_of_path h).isLimit
  | inBrackets fault n =>
    obtain ⟨_, _, _, _, _, stop, _, _, htells, he⟩ := exists_inside_of_path h
    cases he
    exact htells.isLimit

end PathReader

/-- An error about what a text says, and not about its size.  The number of
fragments is checked after the whole text has been read, so such an error comes
before that one. -/
def Error.OfText (e : Error) : Prop :=
  ∃ expression fault position, e = .invalidPath expression fault position ∧ fault.isLimit = false

theorem Filter.ofText_error {source : String} {e : Error} (h : ofText source = .error e) :
    e.OfText := by
  obtain ⟨stop, inLiteral, hterms, rfl⟩ := exists_stop_of_ofText_eq_error h
  exact ⟨_, _, _, rfl, (PredicateReader.tells_of_terms hterms).isLimit⟩

namespace Fragment

variable {source : String} {fs : List Fragment} {e : Error}

theorem ofText_error (h : ofText source = .error e) : e.OfText := by
  obtain ⟨stop, hpath, rfl⟩ := exists_stop_of_ofText_eq_error h
  exact ⟨_, _, _, rfl, PathReader.isLimit_of_path hpath⟩

/-- A path has a fragment for each of its characters at most, besides the
root. -/
theorem length_le_of_ofText (h : ofText source = .ok fs) : fs.length ≤ source.length + 1 := by
  have hfollows := (ofText_eq_ok_iff_follows source fs).mp h
  obtain ⟨b, a, -, -, htext⟩ := Unicode.exists_blanks_trim source.toList
  have hlength := congrArg List.length htext
  have hfs := hfollows.length_le
  rw [String.length_toList, List.length_append, List.length_append] at hlength
  omega

end Fragment

namespace Compiler

variable {source expression : String} {fs : List Fragment} {supplied : List Predicate}
  {config : Config}
  {count bound limit n : Nat} {after : Bool} {position : Option Nat} {e : Error}

/-- Once the fragments are counted, their number is not reported any more:
binding fails for predicates alone. -/
theorem steps_ne_tooManyFragments :
    steps source count bound after fs supplied ≠
      .error (.invalidPath expression (.tooManyFragments n limit) position) := by
  intro h
  obtain ⟨before, f, rest, ss, left, -, -, hstop⟩ := steps_eq_error_iff.mp h
  cases hstop with
  | unreadable hf =>
    obtain ⟨_, _, _, he, hlimit⟩ := Filter.ofText_error hf
    cases he
    cases hlimit

theorem bind_eq_tooManyFragments_iff :
    bind config source fs supplied =
        .error (.invalidPath expression (.tooManyFragments n limit) position) ↔
      config.maxFragments.toNat < fs.length ∧
        (expression = source ∧ n = fs.length ∧ limit = config.maxFragments.toNat ∧
          position = none) := by
  unfold bind
  split
  · next hmany =>
    simp only [hmany, true_and]
    constructor
    · intro h
      cases h
      exact ⟨rfl, rfl, rfl, rfl⟩
    · rintro ⟨rfl, rfl, rfl, rfl⟩
      rfl
  · next hmany => exact iff_of_false steps_ne_tooManyFragments fun h => hmany h.1

theorem fragments_ne_tooManyFragments :
    fragments config source ≠
      .error (.invalidPath expression (.tooManyFragments n limit) position) := by
  intro h
  unfold fragments Fragment.ofTextWithin at h
  split at h
  · cases h
  · split at h
    · cases h
    · obtain ⟨_, _, _, he, hlimit⟩ := Fragment.ofText_error h
      cases he
      cases hlimit

end Compiler

namespace CompiledPath

variable {source expression : String} {supplied : List Predicate} {config : Config} {n limit : Nat}
  {position : Option Nat}

/-- **The limit on fragments is reported of paths that exceed it**, with both
numbers, and of nothing else. -/
theorem compile_eq_tooManyFragments_iff :
    compile source supplied config =
        .error (.invalidPath expression (.tooManyFragments n limit) position) ↔
      ∃ fs, Compiler.fragments config source = .ok fs ∧ config.maxFragments.toNat < fs.length ∧
        (expression = source ∧ n = fs.length ∧ limit = config.maxFragments.toNat ∧
          position = none) := by
  unfold compile
  rw [bind_eq_error_iff]
  constructor
  · rintro (h | ⟨fs, hfs, h⟩)
    · exact absurd h Compiler.fragments_ne_tooManyFragments
    · rcases bind_eq_error_iff.mp h with h | ⟨_, _, h⟩
      · exact ⟨fs, hfs, Compiler.bind_eq_tooManyFragments_iff.mp h⟩
      · cases h
  · rintro ⟨fs, hfs, h⟩
    exact .inr ⟨fs, hfs, bind_eq_error_iff.mpr (.inl (Compiler.bind_eq_tooManyFragments_iff.mpr h))⟩

/-- **A path has a fragment for each of its characters at most, besides the
root**; where the limits admit as many, no path is refused for the number of its
fragments. -/
theorem fragments_bounded_by_length :
    (∀ source fs, Fragment.ofText source = .ok fs → fs.length ≤ source.length + 1) ∧
      ∀ config : Config, config.validate = .ok () →
        config.maxFragments.toNat = config.maxPathLength.toNat + 1 →
          ∀ source supplied expression n limit position,
            compile source supplied config ≠
              .error (.invalidPath expression (.tooManyFragments n limit) position) := by
  refine ⟨fun source fs => Fragment.length_le_of_ofText, ?_⟩
  intro config _ hmost source supplied expression n limit position h
  obtain ⟨fs, hfs, hmany, -⟩ := compile_eq_tooManyFragments_iff.mp h
  obtain ⟨-, hlength, htext⟩ := Compiler.fragments_eq_ok_iff.mp hfs
  have hcount := Fragment.length_le_of_ofText htext
  omega

/-- Two fragments for one character, under limits of one character and two
fragments. -/
theorem fragments_bounded_by_length_name :
    Fragment.ofText "a" = .ok [.root, .property "a"] ∧ [Fragment.root, .property "a"].length ≤ 2 ∧
      Config.validate { maxPathLength := 1, maxFragments := 2 } = .ok () ∧
      ∀ expression n limit position,
        compile "a" [] { maxPathLength := 1, maxFragments := 2 } ≠
          .error (.invalidPath expression (.tooManyFragments n limit) position) := by
  have hread : Fragment.ofText "a" = .ok [.root, .property "a"] := by decide +kernel
  exact ⟨hread, fragments_bounded_by_length.1 "a" _ hread, by decide,
    fragments_bounded_by_length.2 { maxPathLength := 1, maxFragments := 2 } (by decide)
      (by decide) "a" []⟩

end CompiledPath

end DocPath

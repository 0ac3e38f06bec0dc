import DocPath.Path.Compiled
import DocPath.Proofs.Outcome

/-! # Compiled fragments

Each fragment compiles to one step.  `Compiles` says to which, and how the
supplied predicates are used up; `compile_eq_ok_iff` says when compiling
succeeds, and with what. -/

namespace DocPath

/-- The step of a fragment that takes no predicate.  A name is looked for in the
elements of arrays too, except directly after a descent. -/
def Fragment.plainStep? (afterDescent : Bool) : Fragment → Option Step
  | .root => some .root
  | .property name => some (.property name !afterDescent)
  | .wildcard => some .wildcard
  | .descent => some .descent
  | .index n => some (.index n)
  | .indices ns => some (.indices ns)
  | .slice start stop => some (.slice start stop)
  | .placeholder | .expression _ => none

namespace Compiler

/-- The steps of fragments, between the predicates supplied for them and the
ones left over. -/
inductive Compiles :
    (afterDescent : Bool) → List Fragment → List Predicate → List Step → List Predicate → Prop
  | nil {after : Bool} {supplied : List Predicate} : Compiles after [] supplied [] supplied
  | plain {after : Bool} {f : Fragment} {fs : List Fragment} {step : Step} {steps : List Step}
      {supplied left : List Predicate} :
      f.plainStep? after = some step → Compiles (f == .descent) fs supplied steps left →
        Compiles after (f :: fs) supplied (step :: steps) left
  | placeholder {after : Bool} {p : Predicate} {fs : List Fragment} {steps : List Step}
      {supplied left : List Predicate} :
      Compiles false fs supplied steps left →
        Compiles after (.placeholder :: fs) (p :: supplied) (.predicate p (!after) :: steps) left
  | expression {after : Bool} {e : String} {f : Filter} {fs : List Fragment} {steps : List Step}
      {supplied left : List Predicate} :
      Filter.ofText e = .ok f → Compiles false fs supplied steps left →
        Compiles after (.expression e :: fs) supplied
          (.predicate (.filter f) (!after) :: steps) left

variable {source : String} {count bound : Nat} {after : Bool} {f : Fragment} {fs : List Fragment}
  {step : Step} {ss : List Step} {supplied left : List Predicate}

theorem steps_plain (h : f.plainStep? after = some step) :
    steps source count bound after (f :: fs) supplied =
      (steps source count bound (f == .descent) fs supplied).map
        fun (rest, left) => (step :: rest, left) := by
  cases f <;> cases h <;> rfl

/-- Only placeholders and expressions take a predicate: every other fragment has
a step that its own content and the fragment before it settle. -/
theorem predicate_of_plainStep?_eq_none (h : f.plainStep? after = none) :
    f = .placeholder ∨ ∃ e, f = .expression e := by
  cases f with
  | placeholder => exact .inl rfl
  | expression e => exact .inr ⟨e, rfl⟩
  | _ => cases h

theorem compiles_of_steps (h : steps source count bound after fs supplied = .ok (ss, left)) :
    Compiles after fs supplied ss left := by
  induction fs generalizing bound after supplied ss with
  | nil => cases h; exact .nil
  | cons f fs ih =>
    cases hp : f.plainStep? after with
    | some step =>
      rw [steps_plain hp] at h
      obtain ⟨⟨rest, left⟩, hr, he⟩ := map_eq_ok_iff.mp h
      cases he
      exact .plain hp (ih hr)
    | none =>
      -- placeholders take the next supplied predicate, expressions bring their own
      rcases predicate_of_plainStep?_eq_none hp with rfl | ⟨e, rfl⟩
      · simp only [steps] at h
        split at h
        · cases h
        · obtain ⟨⟨rest, left⟩, hr, he⟩ := map_eq_ok_iff.mp h
          cases he
          exact .placeholder (ih hr)
      · simp only [steps] at h
        split at h
        · cases h
        · next f hf =>
          obtain ⟨⟨rest, left⟩, hr, he⟩ := map_eq_ok_iff.mp h
          cases he
          exact .expression hf (ih hr)

theorem steps_of_compiles (h : Compiles after fs supplied ss left) :
    steps source count bound after fs supplied = .ok (ss, left) := by
  induction h generalizing bound with
  | nil => rfl
  | plain hp _ ih => rw [steps_plain hp, ih]; rfl
  | @placeholder _ p fs _ _ _ _ ih =>
    have hbeq : (Fragment.placeholder == .descent) = false := rfl
    simp only [steps, hbeq, ih]
    rfl
  | @expression _ e f fs _ _ _ hf _ ih =>
    have hbeq : (Fragment.expression e == .descent) = false := rfl
    simp only [steps, hbeq, hf, ih]
    rfl

theorem steps_eq_ok_iff :
    steps source count bound after fs supplied = .ok (ss, left) ↔
      Compiles after fs supplied ss left :=
  ⟨compiles_of_steps, steps_of_compiles⟩

/-- A step comes from a fragment without a predicate, or holds a predicate. -/
theorem Compiles.cases_of_mem (h : Compiles after fs supplied ss left) (hmem : step ∈ ss) :
    (∃ f ∈ fs, ∃ after, f.plainStep? after = some step) ∨
      ∃ p expandArrays, step = .predicate p expandArrays := by
  induction h with
  | nil => cases hmem
  | @plain after f fs _ _ _ _ hp _ ih =>
    rcases List.mem_cons.mp hmem with rfl | hmem
    · exact .inl ⟨f, List.mem_cons_self, after, hp⟩
    · refine (ih hmem).imp_left ?_
      rintro ⟨g, hg, hstep⟩
      exact ⟨g, List.mem_cons_of_mem _ hg, hstep⟩
  | placeholder _ ih | expression _ _ ih =>
    rcases List.mem_cons.mp hmem with rfl | hmem
    · exact .inr ⟨_, _, rfl⟩
    · refine (ih hmem).imp_left ?_
      rintro ⟨g, hg, hstep⟩
      exact ⟨g, List.mem_cons_of_mem _ hg, hstep⟩

/-- A step without a predicate that only one fragment compiles to comes from
that fragment. -/
theorem Compiles.mem_fragments (h : Compiles after fs supplied ss left) (hmem : step ∈ ss)
    (hone : ∀ g after, g.plainStep? after = some step → g = f)
    (hplain : ∀ p expandArrays, step ≠ .predicate p expandArrays) : f ∈ fs := by
  rcases h.cases_of_mem hmem with ⟨g, hg, after, hstep⟩ | ⟨p, expandArrays, he⟩
  · rw [← hone g after hstep]
    exact hg
  · exact absurd he (hplain p expandArrays)

/-- Every predicate of a step was supplied, or is a filter that is written in
the path. -/
theorem Compiles.predicate_of_mem {p : Predicate} {expandArrays : Bool}
    (h : Compiles after fs supplied ss left) (hmem : .predicate p expandArrays ∈ ss) :
    p ∈ supplied ∨ ∃ f, p = .filter f := by
  induction h with
  | nil => cases hmem
  | @plain _ f _ _ _ _ _ hstep _ ih =>
    rcases List.mem_cons.mp hmem with rfl | hmem
    · cases f <;> cases hstep
    · exact ih hmem
  | placeholder _ ih =>
    rcases List.mem_cons.mp hmem with he | hmem
    · cases he
      exact .inl List.mem_cons_self
    · exact (ih hmem).imp_left (List.mem_cons_of_mem _)
  | expression _ _ ih =>
    rcases List.mem_cons.mp hmem with he | hmem
    · cases he
      exact .inr ⟨_, rfl⟩
    · exact ih hmem

variable {config : Config}

theorem fragments_eq_ok_iff :
    fragments config source = .ok fs ↔
      config.validate = .ok () ∧ source.length ≤ config.maxPathLength.toNat ∧
        Fragment.ofText source = .ok fs := by
  unfold fragments Fragment.ofTextWithin
  split
  · next h => exact iff_of_false (by simp) fun hv => by rw [h] at hv; cases hv.1
  · next h =>
    split
    · next hlong => exact iff_of_false (by simp) fun hv => absurd hv.2.1 (by omega)
    · next hlong => exact ⟨fun hf => ⟨h, by omega, hf⟩, fun hv => hv.2.2⟩

theorem bind_eq_ok_iff :
    bind config source fs supplied = .ok (ss, left) ↔
      fs.length ≤ config.maxFragments.toNat ∧ Compiles false fs supplied ss left := by
  unfold bind
  split
  · next hmany => exact iff_of_false (by simp) fun h => absurd h.1 (by omega)
  · next hmany =>
    rw [steps_eq_ok_iff]
    exact ⟨fun h => ⟨by omega, h⟩, fun h => h.2⟩

end Compiler

namespace CompiledPath

open Compiler (Compiles)

/-- **Compiling succeeds within the limits**, on texts that are paths and whose
fragments have steps, and keeps text, fragments and steps. -/
theorem compile_eq_ok_iff {source : String} {supplied : List Predicate} {config : Config}
    {path : CompiledPath} :
    compile source supplied config = .ok path ↔
      config.validate = .ok () ∧ source.length ≤ config.maxPathLength.toNat ∧
        Fragment.ofText source = .ok path.fragments ∧
        path.fragments.length ≤ config.maxFragments.toNat ∧
        (∃ left, Compiles false path.fragments supplied path.steps left) ∧
        path.source = source := by
  unfold compile
  rw [DocPath.bind_eq_ok_iff]
  constructor
  · rintro ⟨fs, hfs, h⟩
    obtain ⟨⟨ss, left⟩, hss, h⟩ := DocPath.bind_eq_ok_iff.mp h
    cases h
    obtain ⟨hv, hlen, htext⟩ := Compiler.fragments_eq_ok_iff.mp hfs
    obtain ⟨hcount, hsteps⟩ := Compiler.bind_eq_ok_iff.mp hss
    exact ⟨hv, hlen, htext, hcount, ⟨left, hsteps⟩, rfl⟩
  · rintro ⟨hv, hlen, htext, hcount, ⟨left, hsteps⟩, rfl⟩
    refine ⟨path.fragments, Compiler.fragments_eq_ok_iff.mpr ⟨hv, hlen, htext⟩, ?_⟩
    exact DocPath.bind_eq_ok_iff.mpr
      ⟨(path.steps, left), Compiler.bind_eq_ok_iff.mpr ⟨hcount, hsteps⟩, rfl⟩

end CompiledPath

end DocPath

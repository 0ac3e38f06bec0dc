import DocPath.Proofs.Filter.Grammar
import DocPath.Proofs.Path.Concatenation

/-! # Steps of fragments

A compiled path has one step for each of its fragments, at the same place.
`Fragment.HasStep` says which, and all that a step takes from its surroundings:
whether a descent stands before the fragment, and which of the supplied
predicates is next.  As placeholders alone use up predicates, the next one is
counted by the placeholders that stand before the fragment
(`Compiler.Compiles.exists_step_at`).  So the shape of the steps shows how many
of them are predicates and whether the path is definite
(`CompiledPath.compile_steps`). -/

namespace DocPath

/-- The step of a fragment.  Arrays are looked into, except directly after a
descent; `next` is the first of the supplied predicates that no fragment before
has taken. -/
inductive Fragment.HasStep (afterDescent : Bool) (next : Option Predicate) : Fragment → Step → Prop
  | root : HasStep afterDescent next .root .root
  | property (name : String) :
      HasStep afterDescent next (.property name) (.property name !afterDescent)
  | wildcard : HasStep afterDescent next .wildcard .wildcard
  | descent : HasStep afterDescent next .descent .descent
  | index (n : Int64) : HasStep afterDescent next (.index n) (.index n)
  | indices (ns : List Int64) : HasStep afterDescent next (.indices ns) (.indices ns)
  | slice (start stop : Option Int64) :
      HasStep afterDescent next (.slice start stop) (.slice start stop)
  | placeholder {p : Predicate} : next = some p →
      HasStep afterDescent next .placeholder (.predicate p !afterDescent)
  | expression {text : String} {f : Filter} : Filter.ofText text = .ok f →
      HasStep afterDescent next (.expression text) (.predicate (.filter f) !afterDescent)

namespace Step

/-- Whether a step keeps what a predicate accepts, be it supplied for a
placeholder or written in the path. -/
def isPredicate : Step → Bool
  | predicate _ _ => true
  | _ => false

/-- The steps of definite paths: the root, a name and an index.  At an object or
an element they select one node at most. -/
inductive IsDefinite : Step → Prop
  | root : IsDefinite root
  | property (name : String) (projectArrays : Bool) : IsDefinite (property name projectArrays)
  | index (n : Int64) : IsDefinite (index n)

end Step

namespace Fragment.HasStep

variable {afterDescent : Bool} {next : Option Predicate} {f : Fragment} {step : Step}

theorem of_plainStep? (h : f.plainStep? afterDescent = some step) :
    f.HasStep afterDescent next step := by
  cases f with
  | root => cases h; exact .root
  | property name => cases h; exact .property name
  | wildcard => cases h; exact .wildcard
  | descent => cases h; exact .descent
  | index n => cases h; exact .index n
  | indices ns => cases h; exact .indices ns
  | slice start stop => cases h; exact .slice start stop
  | placeholder | expression _ => cases h

theorem isPredicate_eq (h : f.HasStep afterDescent next step) :
    step.isPredicate = f.isPredicate := by
  cases h <;> rfl

theorem isDefinite_iff (h : f.HasStep afterDescent next step) :
    step.IsDefinite ↔ f.isDefinite = true := by
  cases h with
  | root => exact iff_of_true .root rfl
  | property name => exact iff_of_true (.property name _) rfl
  | index n => exact iff_of_true (.index n) rfl
  | _ => exact iff_of_false (by rintro ⟨⟩) (by simp [Fragment.isDefinite])

end Fragment.HasStep

namespace Compiler

variable {after : Bool} {f : Fragment} {fs before rest : List Fragment} {ss : List Step}
  {supplied left : List Predicate}

theorem endsInDescent_false_eq : endsInDescent false fs = (fs.getLast? == some .descent) := by
  rcases List.eq_nil_or_concat fs with rfl | ⟨fs, f, rfl⟩
  · rfl
  · simp [endsInDescent]

/-- The first of a row of fragments has the first of their steps, and the first
of the predicates is its next one. -/
theorem Compiles.exists_head (h : Compiles after (f :: fs) supplied ss left) :
    ∃ step ts, ss = step :: ts ∧ f.HasStep after supplied.head? step := by
  cases h with
  | plain hp _ => exact ⟨_, _, rfl, .of_plainStep? hp⟩
  | placeholder _ => exact ⟨_, _, rfl, .placeholder rfl⟩
  | expression hf _ => exact ⟨_, _, rfl, .expression hf⟩

/-- A fragment has its step at its own place, and the placeholders before it
count the predicates that are gone. -/
theorem Compiles.exists_step_at (h : Compiles false (before ++ f :: rest) supplied ss left) :
    ∃ step, ss[before.length]? = some step ∧
      f.HasStep (before.getLast? == some .descent) supplied[placeholders before]? step := by
  obtain ⟨ss₁, ss₂, further, rfl, h₁, h₂⟩ := h.split
  obtain ⟨step, ts, rfl, hstep⟩ := h₂.exists_head
  rw [h₁.left_eq_drop, List.head?_drop, endsInDescent_false_eq] at hstep
  exact ⟨step, by simp [← h₁.length_steps], hstep⟩

/-- Fragments and their steps stand in two rows of the same length, with the
step of each fragment at its place. -/
theorem Compiles.forall₂ (h : Compiles after fs supplied ss left) :
    List.Forall₂ (fun f step => ∃ afterDescent next, f.HasStep afterDescent next step) fs ss := by
  induction h with
  | nil => exact .nil
  | plain hp _ ih => exact .cons ⟨_, none, .of_plainStep? hp⟩ ih
  | placeholder _ ih => exact .cons ⟨_, _, .placeholder rfl⟩ ih
  | expression hf _ ih => exact .cons ⟨_, none, .expression hf⟩ ih

theorem Compiles.countP_isPredicate (h : Compiles after fs supplied ss left) :
    ss.countP (·.isPredicate) = fs.countP (·.isPredicate) := by
  have hrows := h.forall₂
  clear h
  induction hrows with
  | nil => rfl
  | cons hstep _ ih =>
    obtain ⟨_, _, hstep⟩ := hstep
    rw [List.countP_cons, List.countP_cons, ih, hstep.isPredicate_eq]

theorem Compiles.forall_isDefinite_iff (h : Compiles after fs supplied ss left) :
    (∀ step ∈ ss, step.IsDefinite) ↔ ∀ f ∈ fs, f.isDefinite = true := by
  have hrows := h.forall₂
  clear h
  induction hrows with
  | nil => simp
  | cons hstep _ ih =>
    obtain ⟨_, _, hstep⟩ := hstep
    rw [List.forall_mem_cons, List.forall_mem_cons]
    exact and_congr hstep.isDefinite_iff ih

end Compiler

namespace CompiledPath

variable {source : String} {supplied : List Predicate} {config : Config} {path : CompiledPath}

/-- **A compiled path has one step for each fragment.** The step stands at the
place of the fragment, has its shape and its payload, and does not look into
arrays exactly if the fragment before is a descent.  A placeholder has the
predicate that the placeholders before it count in the row of supplied ones, and
a predicate written in the path is the filter that is read from its text.  The
number of predicates is that of the steps with a predicate, and the path is
definite exactly if its steps are the root, names and indices. -/
theorem compile_steps (hpath : compile source supplied config = .ok path) :
    path.steps.length = path.fragments.length ∧
    (∀ before f rest, path.fragments = before ++ f :: rest →
      ∃ step, path.steps[before.length]? = some step ∧
        f.HasStep (before.getLast? == some .descent) supplied[Compiler.placeholders before]? step) ∧
    path.predicateCount = path.steps.countP (·.isPredicate) ∧
    (path.isDefinite = true ↔ ∀ step ∈ path.steps, step.IsDefinite) := by
  obtain ⟨-, -, -, -, ⟨left, hcompiles⟩, -⟩ := compile_eq_ok_iff.mp hpath
  refine ⟨hcompiles.length_steps, ?_, hcompiles.countP_isPredicate.symm, ?_⟩
  · intro before f rest hfragments
    rw [hfragments] at hcompiles
    exact hcompiles.exists_step_at
  · rw [hcompiles.forall_isDefinite_iff, isDefinite, List.all_eq_true]

/-- A path with predicates of both kinds, the first two of them behind a
descent, and with one supplied predicate to spare. -/
theorem compile_steps_mixed :
    ∃ (has : String → Predicate) (path : CompiledPath),
      (has = fun key => .criterion ⟨key, .present true⟩) ∧
      compile "$..[?(@.a)][?].b[?]..[?]" [has "x", has "y", has "z", has "w"] {} = .ok path ∧
      path.fragments = [.root, .descent, .expression "@.a", .placeholder, .property "b",
        .placeholder, .descent, .placeholder] ∧
      path.steps[2]? = some (.predicate (.filter ⟨[⟨"a", .present true⟩]⟩) false) ∧
      path.steps[5]? = some (.predicate (has "y") true) ∧
      path.steps[7]? = some (.predicate (has "z") false) ∧
      path.predicateCount = 4 ∧ path.isDefinite = false := by
  let has : String → Predicate := fun key => .criterion ⟨key, .present true⟩
  have hterm : PredicateReader.Term ['@', '.', 'a'] ⟨"a", .present true⟩ :=
    .node (.present (.name (List.cons_ne_nil _ _) (List.forall_mem_singleton.mpr (by decide))))
  have hread : Filter.ofText "@.a" = .ok ⟨[⟨"a", .present true⟩]⟩ :=
    Filter.ofText_eq_ok_iff.mpr (.last Unicode.blanks_nil hterm Unicode.blanks_nil)
  have hpath : compile "$..[?(@.a)][?].b[?]..[?]" [has "x", has "y", has "z", has "w"] {} =
      .ok ⟨_,
        [.root, .descent, .expression "@.a", .placeholder, .property "b", .placeholder, .descent,
          .placeholder],
        [.root, .descent, .predicate (.filter ⟨[⟨"a", .present true⟩]⟩) false,
          .predicate (has "x") true, .property "b" true, .predicate (has "y") true, .descent,
          .predicate (has "z") false]⟩ :=
    compile_eq_ok_iff.mpr ⟨rfl, by decide, by decide +kernel, by decide,
      ⟨_, .plain rfl (.plain rfl (.expression hread (.placeholder (.plain rfl
        (.placeholder (.plain rfl (.placeholder .nil)))))))⟩, rfl⟩
  obtain ⟨-, hsteps, hcount, hdefinite⟩ := compile_steps hpath
  obtain ⟨step₂, h₂, hs₂⟩ := hsteps [.root, .descent] (.expression "@.a") _ rfl
  obtain ⟨step₅, h₅, hs₅⟩ :=
    hsteps [.root, .descent, .expression "@.a", .placeholder, .property "b"] .placeholder _ rfl
  obtain ⟨step₇, h₇, hs₇⟩ :=
    hsteps [.root, .descent, .expression "@.a", .placeholder, .property "b", .placeholder, .descent]
      .placeholder _ rfl
  cases hs₂ with
  | expression h =>
    rw [hread] at h
    cases h
    cases hs₅ with
    | placeholder h =>
      cases hs₇ with
      | placeholder h' =>
        cases (show some (has "y") = some _ from h)
        cases (show some (has "z") = some _ from h')
        refine ⟨has, _, rfl, hpath, rfl, h₂, h₅, h₇, hcount, ?_⟩
        rw [Bool.eq_false_iff]
        intro h
        cases hdefinite.mp h .descent (by simp)

end CompiledPath

end DocPath

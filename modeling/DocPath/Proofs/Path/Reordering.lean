import DocPath.Proofs.Path.Compilation
import DocPath.Proofs.Path.Evaluation
import DocPath.Proofs.Value.Reordering

/-! # Paths and the order of entries

A path whose predicates consist of criteria selects from two documents that
differ only in the order of entries the same nodes, again up to the order of
entries, and each as often.  Only a wildcard and a descent go through the
entries of objects one after the other; without them the matches stand at the
same places.  Both are stated for one step (`Step.rel_nodes`,
`Step.forall₂_nodes`) and carried over rows of steps. -/

namespace DocPath

open Value (Reordered)

namespace Value

variable {v w : Value} {is js : List Value}

/-- Two values that are reordered, or absent alike, are at most one value on
either side. -/
theorem forall₂_toList {a b : Option Value} (h : Option.Rel Reordered a b) :
    List.Forall₂ Reordered a.toList b.toList := by
  cases h with
  | none => exact .nil
  | some h => exact .cons h .nil

/-- Rows that are reordered value by value have reordered values at each
place. -/
theorem optionRel_getElem? (h : List.Forall₂ Reordered is js) (i : Nat) :
    Option.Rel Reordered is[i]? js[i]? := by
  induction h generalizing i with
  | nil => exact .none
  | cons hv _ ih =>
    cases i with
    | zero => exact .some hv
    | succ i => exact ih i

namespace Reordered

/-- Objects that are reordered hold reordered values under each name. -/
theorem optionRel_get? (h : Reordered v w) (name : String) :
    Option.Rel Reordered (v.get? name) (w.get? name) := by
  cases h.alike with
  | same v => exact optionRel_refl _
  | array _ => exact .none
  | object hlookup _ => exact hlookup name

/-- Arrays that are reordered hold reordered values at each index, since their
elements keep their places. -/
theorem optionRel_getIndex? (h : Reordered v w) (index : Int64) :
    Option.Rel Reordered (v.getIndex? index) (w.getIndex? index) := by
  cases h.alike with
  | same v => exact optionRel_refl _
  | @array is js hi =>
    show Option.Rel Reordered
      (if place is.length index.toInt < 0 then none else is[(place is.length index.toInt).toNat]?)
      (if place js.length index.toInt < 0 then none else js[(place js.length index.toInt).toNat]?)
    rw [hi.length_eq]
    split
    · exact .none
    · exact optionRel_getElem? hi _
  | object _ _ => exact .none

/-- A name leads to reordered values in the same order, whether arrays are
looked into or not. -/
theorem forall₂_project (h : Reordered v w) (name : String) (projectArrays : Bool) :
    List.Forall₂ Reordered (v.project name projectArrays) (w.project name projectArrays) := by
  cases h.alike with
  | same v => exact List.forall₂_refl _
  | array hi =>
    cases projectArrays with
    | false => exact .nil
    | true => exact List.rel_filterMap (fun _ _ h => h.optionRel_get? name) hi
  | object hlookup _ => exact forall₂_toList (hlookup name)

/-- A slice takes the elements at the same places, so they correspond one by
one. -/
theorem forall₂_slice (h : Reordered v w) (start stop : Option Int64) :
    List.Forall₂ Reordered (v.slice start stop) (w.slice start stop) := by
  cases h.alike with
  | same v => exact List.forall₂_refl _
  | array hi =>
    simp only [slice, hi.length_eq]
    exact List.forall₂_drop _ (List.forall₂_take _ hi)
  | object _ _ => exact .nil

theorem forall₂_candidates (h : Reordered v w) (expandArrays : Bool) :
    List.Forall₂ Reordered (v.candidates expandArrays) (w.candidates expandArrays) := by
  cases h.alike with
  | same v => exact List.forall₂_refl _
  | array hi =>
    cases expandArrays with
    | false => exact .cons h .nil
    | true => exact hi
  | object _ _ => exact .cons h .nil

end Reordered

end Value

namespace Step

variable {shelf : Shelf} {step : Step} {steps : List Step} {v w : Value} {vs ws : List Value}

/-- Whether the predicate of a step, if it has one, consists of criteria.  A
predicate of another kind could look at the order of entries. -/
def OfCriteria : Step → Prop
  | predicate p _ => p.OfCriteria
  | _ => True

/-- A step other than a wildcard and a descent selects reorderings at the same
places. -/
theorem forall₂_nodes (hcriteria : step.OfCriteria) (hwildcard : step ≠ .wildcard)
    (hdescent : step ≠ .descent) (h : Reordered v w) :
    List.Forall₂ Reordered (step.nodes shelf v) (step.nodes shelf w) := by
  cases step with
  | root => exact .cons h .nil
  | property name projectArrays => exact h.forall₂_project name projectArrays
  | wildcard => exact absurd rfl hwildcard
  | descent => exact absurd rfl hdescent
  | index n => exact Value.forall₂_toList (h.optionRel_getIndex? n)
  | indices ns =>
    refine List.rel_filterMap (R := Eq) ?_ (List.forall₂_refl ns)
    rintro n _ rfl
    exact h.optionRel_getIndex? n
  | slice start stop => exact h.forall₂_slice start stop
  | predicate p expandArrays =>
    show List.Forall₂ Reordered (p.select shelf expandArrays v).value
      (p.select shelf expandArrays w).value
    rw [Predicate.value_select, Predicate.value_select]
    refine List.rel_filter ?_ (h.forall₂_candidates expandArrays)
    intro c d hcd
    show p.accepts shelf c = true ↔ p.accepts shelf d = true
    rw [Predicate.OfCriteria.accepts_eq hcriteria hcd]

/-- A step selects reorderings, each as often from both. -/
theorem rel_nodes (hcriteria : step.OfCriteria) (h : Reordered v w) :
    Multiset.Rel Reordered (step.nodes shelf v : Multiset Value) (step.nodes shelf w) := by
  by_cases hwildcard : step = .wildcard
  · subst hwildcard
    exact h.rel_children
  · by_cases hdescent : step = .descent
    · subst hdescent
      exact h.rel_descendants
    · exact Value.rel_of_forall₂ (forall₂_nodes hcriteria hwildcard hdescent h)

/-- Without wildcards and descents the nodes that are left correspond one by one
after each step. -/
theorem forall₂_nodesAfter (hcriteria : ∀ step ∈ steps, step.OfCriteria)
    (hwildcard : .wildcard ∉ steps)
    (hdescent : .descent ∉ steps) (h : List.Forall₂ Reordered vs ws) :
    List.Forall₂ Reordered (nodesAfter shelf steps vs) (nodesAfter shelf steps ws) := by
  induction steps generalizing vs ws with
  | nil => exact h
  | cons step steps ih =>
    rw [List.mem_cons, not_or] at hwildcard hdescent
    obtain ⟨hstep, hsteps⟩ := List.forall_mem_cons.mp hcriteria
    rw [nodesAfter_cons, nodesAfter_cons]
    refine ih hsteps hwildcard.2 hdescent.2 (List.rel_flatMap h ?_)
    intro v w hvw
    exact forall₂_nodes hstep (Ne.symm hwildcard.1) (Ne.symm hdescent.1) hvw

/-- With wildcards and descents the order may change, so the nodes that are left
correspond as multisets. -/
theorem rel_nodesAfter (hcriteria : ∀ step ∈ steps, step.OfCriteria)
    (h : Multiset.Rel Reordered (vs : Multiset Value) ws) :
    Multiset.Rel Reordered
    (nodesAfter shelf steps vs : Multiset Value) (nodesAfter shelf steps ws) := by
  induction steps generalizing vs ws with
  | nil => exact h
  | cons step steps ih =>
    obtain ⟨hstep, hsteps⟩ := List.forall_mem_cons.mp hcriteria
    rw [nodesAfter_cons, nodesAfter_cons]
    refine ih hsteps ?_
    rw [← Multiset.coe_bind, ← Multiset.coe_bind]
    exact Multiset.rel_bind (fun v w hvw => rel_nodes hstep hvw) h

end Step

namespace CompiledPath

variable {source : String} {supplied : List Predicate} {config : Config} {path : CompiledPath}

/-- **The order of entries decides at most about the order of matches.** A path
whose predicates consist of criteria matches in two documents that differ in the
order of entries the same values up to the order of entries, each as often; and
if it has no wildcard and no descent, it matches them in the same order. -/
theorem readList_reordered {document other : Value} (shelf : Shelf)
    (hpath : compile source supplied config = .ok path)
    (hcriteria : ∀ p expandArrays, .predicate p expandArrays ∈ path.steps → p.OfCriteria)
    (h : Reordered document other) :
    Multiset.Rel Reordered
    (path.readList shelf document : Multiset Value) (path.readList shelf other) ∧
      (.wildcard ∉ path.fragments → .descent ∉ path.fragments →
        List.Forall₂ Reordered (path.readList shelf document) (path.readList shelf other)) := by
  have hsteps : ∀ step ∈ path.steps, step.OfCriteria := by
    intro step hmem
    cases step with
    | predicate p expandArrays => exact hcriteria p expandArrays hmem
    | _ => trivial
  rw [readList_eq_nodesAfter, readList_eq_nodesAfter]
  constructor
  · exact Step.rel_nodesAfter hsteps (Value.rel_of_forall₂ (.cons h .nil))
  · intro hwildcard hdescent
    obtain ⟨-, -, -, -, ⟨left, hcompiles⟩, -⟩ := compile_eq_ok_iff.mp hpath
    -- a wildcard or descent among the steps comes from one among the fragments
    refine Step.forall₂_nodesAfter hsteps (fun hmem => hwildcard ?_) (fun hmem => hdescent ?_)
      (.cons h .nil)
    · refine hcompiles.mem_fragments hmem ?_ (by simp)
      intro g after hg
      cases g <;> cases hg
      rfl
    · refine hcompiles.mem_fragments hmem ?_ (by simp)
      intro g after hg
      cases g <;> cases hg
      rfl

/-- Entries in another order in the document, in an element of an array and in a
value that a criterion compares. -/
theorem readList_reordered_nested :
    ∃ (document other : Value) (p : Predicate) (path : CompiledPath),
      document = .object [("n", .null), ("rows", .array [
        .object [("a", .int 1), ("b", .object [("x", .int 1), ("y", .null)])]])] ∧
      other = .object [("rows", .array [
        .object [("b", .object [("y", .null), ("x", .int 1)]), ("a", .int 1)]]), ("n", .null)] ∧
      p = .filter ⟨[⟨"b", .equalTo (.object [("y", .null), ("x", .int 1)])⟩]⟩ ∧
      compile "$.rows[?]" [p] {} = .ok path ∧
      path.readList {} document =
        [.object [("a", .int 1), ("b", .object [("x", .int 1), ("y", .null)])]] ∧
      Reordered document other ∧
      Multiset.Rel Reordered (path.readList {} document : Multiset Value) (path.readList {} other) ∧
      List.Forall₂ Reordered (path.readList {} document) (path.readList {} other) := by
  have hinner :
      Reordered (.object [("x", .int 1), ("y", .null)]) (.object [("y", .null), ("x", .int 1)]) :=
    .entries (by decide) (.swap ..)
  have hrow : Reordered (.object [("a", .int 1), ("b", .object [("x", .int 1), ("y", .null)])])
      (.object [("b", .object [("y", .null), ("x", .int 1)]), ("a", .int 1)]) :=
    (Reordered.entry [("a", .int 1)] "b" [] hinner).trans (.entries (by decide) (.swap ..))
  have hdocument : Reordered
      (.object [("n", .null), ("rows", .array [
        .object [("a", .int 1), ("b", .object [("x", .int 1), ("y", .null)])]])])
      (.object [("rows", .array [
        .object [("b", .object [("y", .null), ("x", .int 1)]), ("a", .int 1)]]), ("n", .null)]) :=
    (Reordered.entry [("n", .null)] "rows" [] (.element [] [] hrow)).trans
      (.entries (by decide) (.swap ..))
  let p : Predicate := .filter ⟨[⟨"b", .equalTo (.object [("y", .null), ("x", .int 1)])⟩]⟩
  have hpath : compile "$.rows[?]" [p] {} = .ok ⟨_, [.root, .property "rows", .placeholder],
      [.root, .property "rows" true, .predicate p true]⟩ :=
    compile_eq_ok_iff.mpr ⟨rfl, by decide, by decide +kernel, by decide,
      ⟨_, .plain rfl (.plain rfl (.placeholder .nil))⟩, rfl⟩
  obtain ⟨hrel, hplaces⟩ :=
    readList_reordered {} hpath (by simp [p, Predicate.OfCriteria]) hdocument
  exact ⟨_, _, p, _, rfl, rfl, rfl, hpath, rfl, hdocument, hrel, hplaces (by decide) (by decide)⟩

end CompiledPath

end DocPath

import DocPath.Proofs.Path.Compilation
import DocPath.Proofs.Path.Located
import Mathlib.Data.List.Flatten
import Mathlib.Data.List.Pairwise

/-! # Matches in document order

A step other than a descent and a choice of several indices narrows: it selects
below a node nodes that lie apart from each other, in the order in which a visit
of the document comes to them.  So does a row of such steps, and the nodes that
it selects with all that is below them are a part of the visit of the document
(`InOrder`).  From this the matches of a path inherit that no location is
visited twice.  The matches of any path lie in the document
(`CompiledPath.above_of_mem_located`). -/

namespace DocPath

namespace Located

variable {n m : Located} {visit ns : List Located}

/-- Nodes that lie apart from each other and in the order of a visit: with all
nodes below them they are a part of it. -/
def InOrder (visit ns : List Located) : Prop := (ns.flatMap descendants).Sublist visit

theorem inOrder_self (n : Located) : InOrder n.descendants [n] := by
  rw [InOrder, List.flatMap_singleton]

theorem inOrder_children (n : Located) : InOrder n.descendants n.children := by
  rw [InOrder, descendants_eq]
  exact List.sublist_cons_self _ _

namespace InOrder

theorem sublist (h : InOrder visit ns) {ms : List Located} (hs : ms.Sublist ns) :
    InOrder visit ms :=
  (hs.flatMap descendants).trans h

/-- What is in order below each of the nodes is in order, if the nodes are: what
lies below one of them is visited before the next one. -/
theorem flatMap (h : InOrder visit ns) {f : Located → List Located}
    (hf : ∀ n, InOrder n.descendants (f n)) : InOrder visit (ns.flatMap f) := by
  have hbelow : ((ns.flatMap f).flatMap descendants).Sublist (ns.flatMap descendants) := by
    rw [List.flatMap_assoc]
    exact List.Sublist.flatMap_right ns fun n _ => hf n
  exact hbelow.trans h

/-- Each node is the first that is visited of those below it. -/
theorem sublist_visit (h : InOrder visit ns) : ns.Sublist visit := by
  have hself : (ns.flatMap fun n => [n]).Sublist (ns.flatMap descendants) := by
    refine List.Sublist.flatMap_right ns fun n _ => ?_
    rw [descendants_eq, List.singleton_sublist]
    exact List.mem_cons_self
  rw [List.flatMap_singleton'] at hself
  exact hself.trans h

theorem nodup_location (h : InOrder n.descendants ns) : (ns.map location).Nodup :=
  nodup_location_descendants.sublist (h.sublist_visit.map location)

/-- None of the nodes lies below another one. -/
theorem eq_of_above (h : InOrder n.descendants ns) {a b : Located} (ha : a ∈ ns) (hb : b ∈ ns)
    (hab : a.Above b) : a = b := by
  by_contra hne
  -- the lower one would be visited twice: by itself, and below the upper one
  have hnodup : ((ns.flatMap descendants).map location).Nodup :=
    nodup_location_descendants.sublist (h.map location)
  rw [List.map_flatMap, List.nodup_flatMap] at hnodup
  have hsymm :
      Std.Symm (Function.onFun List.Disjoint fun c : Located => c.descendants.map location) :=
    ⟨fun _ _ hd _ hb ha => hd ha hb⟩
  have hdisjoint := hnodup.2.forall ha hb hne
  have hbelow : b.location ∈ a.descendants.map location :=
    List.mem_map_of_mem (mem_descendants_iff.mpr hab)
  have hself : b.location ∈ b.descendants.map location :=
    List.mem_map_of_mem (mem_descendants_iff.mpr (.refl b))
  exact hdisjoint hbelow hself

end InOrder

theorem inOrder_project (name : String) (projectArrays : Bool) :
    InOrder n.descendants (n.project name projectArrays) := by
  have hmember : ∀ c : Located, InOrder c.descendants (c.member? name).toList :=
    fun c => (inOrder_children c).sublist (toList_member?_sublist name)
  unfold project
  split
  · exact hmember n
  · split
    · -- of each element of the array at most one member
      rw [List.filterMap_eq_flatMap_toList]
      exact (inOrder_children n).flatMap hmember
    · exact List.nil_sublist _
  · exact List.nil_sublist _

theorem inOrder_candidates (expandArrays : Bool) :
    InOrder n.descendants (n.candidates expandArrays) := by
  unfold candidates
  split
  · exact inOrder_children n
  · exact inOrder_self n

end Located

namespace Step

open Located (InOrder)

/-- Whether a step selects nodes that lie apart from each other, and in document
order: all do but the descent, which selects nodes together with the nodes below
them, and several indices, which select elements in the order of the indices and
as often as they are named. -/
def Narrows : Step → Prop
  | descent | indices _ => False
  | _ => True

variable {shelf : Shelf} {step : Step} {steps : List Step} {n : Located} {visit ns : List Located}

theorem Narrows.inOrder (h : step.Narrows) : InOrder n.descendants (step.located shelf n) := by
  cases step with
  | root => exact Located.inOrder_self n
  | property name projectArrays => exact Located.inOrder_project name projectArrays
  | wildcard => exact Located.inOrder_children n
  | descent => exact h.elim
  | index i => exact (Located.inOrder_children n).sublist (Located.toList_element?_sublist i)
  | indices is => exact h.elim
  | slice start stop =>
    exact (Located.inOrder_children n).sublist (Located.slice_sublist start stop)
  | predicate p expandArrays =>
    exact (Located.inOrder_candidates expandArrays).sublist List.filter_sublist

/-- A row of narrowing steps keeps nodes in order: each step selects, below
every node, nodes in order that lie below it. -/
theorem inOrder_locatedAfter (h : ∀ step ∈ steps, step.Narrows) (hns : InOrder visit ns) :
    InOrder visit (locatedAfter shelf steps ns) := by
  induction steps generalizing ns with
  | nil => exact hns
  | cons step steps ih =>
    have hstep := (List.forall_mem_cons.mp h).1
    exact ih (List.forall_mem_cons.mp h).2 (hns.flatMap fun n => hstep.inOrder)

/-- What a step selects below a node lies below it, whether or not it
narrows. -/
theorem above_of_mem_located {m : Located} (h : m ∈ step.located shelf n) : n.Above m := by
  by_cases hnarrows : step.Narrows
  · exact Located.mem_descendants_iff.mp (hnarrows.inOrder.sublist_visit.subset h)
  · cases step with
    | descent => exact Located.mem_descendants_iff.mp h
    | indices is =>
      obtain ⟨i, -, hm⟩ := List.mem_filterMap.mp h
      exact .of_mem_children ((Located.toList_element?_sublist i).subset (Option.mem_toList.mpr hm))
    | _ => exact absurd trivial hnarrows

theorem above_of_mem_locatedAfter {m : Located} (h : m ∈ locatedAfter shelf steps ns) :
    ∃ n ∈ ns, n.Above m := by
  induction steps generalizing ns with
  | nil => exact ⟨m, h, .refl m⟩
  | cons step steps ih =>
    obtain ⟨c, hc, hcm⟩ := ih h
    obtain ⟨n, hn, hnc⟩ := List.mem_flatMap.mp hc
    exact ⟨n, hn, (above_of_mem_located hnc).trans hcm⟩

end Step

namespace Compiler.Compiles

variable {after : Bool} {fs : List Fragment} {ss : List Step} {supplied left : List Predicate}

theorem narrows (h : Compiles after fs supplied ss left) (hdescent : .descent ∉ fs)
    (hindices : ∀ is, .indices is ∉ fs) : ∀ step ∈ ss, step.Narrows := by
  intro step hmem
  rcases h.cases_of_mem hmem with ⟨f, hf, after, hstep⟩ | ⟨p, expandArrays, rfl⟩
  · cases f with
    | descent => exact absurd hf hdescent
    | indices is => exact absurd hf (hindices is)
    | placeholder | expression _ => cases hstep
    | _ => cases hstep; trivial
  · trivial

end Compiler.Compiles

namespace CompiledPath

open Located (InOrder)

variable {source : String} {supplied : List Predicate} {config : Config} {path : CompiledPath}

/-- Every match of any path lies in the document. -/
theorem above_of_mem_located {shelf : Shelf} {document : Value} {m : Located}
    (h : m ∈ path.located shelf document) : (Located.root document).Above m := by
  obtain ⟨n, hn, hm⟩ := Step.above_of_mem_locatedAfter h
  rw [List.mem_singleton.mp hn] at hm
  exact hm

theorem inOrder_located (shelf : Shelf) (document : Value)
    (hpath : compile source supplied config = .ok path) (hdescent : .descent ∉ path.fragments)
    (hindices : ∀ is, .indices is ∉ path.fragments) :
    InOrder (Located.root document).descendants (path.located shelf document) := by
  obtain ⟨-, -, -, -, ⟨left, hsteps⟩, -⟩ := compile_eq_ok_iff.mp hpath
  exact Step.inOrder_locatedAfter (hsteps.narrows hdescent hindices) (Located.inOrder_self _)

/-- **Matches come in document order.** If a path has neither a descent nor
several indices in one pair of brackets, then its matches are at different
locations, none of them lies inside another one, and they follow one another as
in a visit of the document, in which each node comes before the nodes below it
and the children of a node come in their order.  The predicates may be any. -/
theorem located_in_document_order (shelf : Shelf) (document : Value)
    (hpath : compile source supplied config = .ok path) (hdescent : .descent ∉ path.fragments)
    (hindices : ∀ is, .indices is ∉ path.fragments) :
    path.readList shelf document = (path.located shelf document).map Located.node ∧
      ((path.located shelf document).map Located.location).Nodup ∧
      (∀ a ∈ path.located shelf document, ∀ b ∈ path.located shelf document,
        a.location <+: b.location → a.location = b.location) ∧
      (path.located shelf document).Sublist (Located.root document).descendants := by
  have horder := inOrder_located shelf document hpath hdescent hindices
  have hvisit := horder.sublist_visit
  refine ⟨readList_eq_map_located shelf path document, horder.nodup_location, ?_, hvisit⟩
  intro a ha b hb hbelow
  have hroot : ∀ c ∈ path.located shelf document, (Located.root document).Above c :=
    fun c hc => Located.mem_descendants_iff.mp (hvisit.subset hc)
  rw [horder.eq_of_above ha hb ((hroot a ha).of_location (hroot b hb) hbelow)]

/-- Equal matches in arrays and objects, through the elements of an array and a
test that takes all nodes. -/
theorem located_in_document_order_equal_nodes :
    ∃ (path : CompiledPath) (document : Value),
      document = .object [
        ("x", .array [.object [("a", .array [.int 1, .int 1])], .object [("a", .int 1)]]),
        ("y", .object [("b", .int 1), ("a", .array [.int 1])])] ∧
      compile "$[*].a[?]" [.custom fun _ => true] {} = .ok path ∧
      (path.located {} document).map Located.location = [[0, 0, 0, 0], [0, 0, 0, 1], [0, 1, 0],
        [1, 1, 0]] ∧
      ((path.located {} document).map Located.location).Nodup ∧
      (∀ a ∈ path.located {} document, ∀ b ∈ path.located {} document,
        a.location <+: b.location → a.location = b.location) ∧
      (path.located {} document).Sublist (Located.root document).descendants := by
  have hpath : compile "$[*].a[?]" [.custom fun _ => true] {} =
      .ok ⟨_, [.root, .wildcard, .property "a", .placeholder],
        [.root, .wildcard, .property "a" true, .predicate (.custom fun _ => true) true]⟩ :=
    compile_eq_ok_iff.mpr ⟨rfl, by decide, by decide +kernel, by decide,
      ⟨_, .plain rfl (.plain rfl (.plain rfl (.placeholder .nil)))⟩, rfl⟩
  exact ⟨_, _, rfl, hpath, rfl,
    (located_in_document_order {} _ hpath (by decide) (by simp)).2⟩

end CompiledPath

end DocPath

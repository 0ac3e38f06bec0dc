import DocPath.Proofs.Path.Concatenation
import DocPath.Proofs.Path.DocumentOrder
import DocPath.Proofs.Path.Rendering

/-! # What follows a descent

A descent visits the nodes that are selected so far and all nodes below them.
The step right after it looks at each visited node by itself, and at the
elements of arrays only when the visit comes to them.  So it selects nothing
twice, although nodes are selected together with the nodes below them
(`nodup_location_flatMap`); `located_descent` says what it selects. -/

namespace DocPath

namespace Located

variable {n m : Located} {ns : List Located}

/-- Different nodes have different children, told by the location, which goes on
from that of the node. -/
theorem nodup_location_flatMap_children (h : (ns.map location).Nodup) :
    ((ns.flatMap children).map location).Nodup := by
  rw [List.map_flatMap, List.nodup_flatMap]
  constructor
  · intro n _
    rw [List.nodup_iff_pairwise_ne, List.pairwise_map]
    refine pairwise_children.imp ?_
    rintro c d ⟨i, j, hne, hc, hd⟩ heq
    rw [hc, hd] at heq
    simp at heq
    exact hne heq
  · refine (List.pairwise_map.mp h).imp ?_
    intro n m hne l hn hm
    -- a location of a child holds that of its parent
    obtain ⟨c, hc, rfl⟩ := List.mem_map.mp hn
    obtain ⟨d, hd, heq⟩ := List.mem_map.mp hm
    obtain ⟨i, -, hci⟩ := mem_children_iff.mp hc
    obtain ⟨j, -, hdj⟩ := mem_children_iff.mp hd
    rw [hci, hdj] at heq
    exact hne (List.append_inj_left' heq rfl).symm

/-- What is selected among the children of different nodes is different. -/
theorem nodup_location_flatMap (h : (ns.map location).Nodup) {f : Located → List Located}
    (hf : ∀ n, (f n).Sublist n.children) : ((ns.flatMap f).map location).Nodup :=
  (nodup_location_flatMap_children h).sublist
    ((List.Sublist.flatMap_right ns fun n _ => hf n).map location)

end Located

namespace Step

open Located (location)
open Compiler (Compiles)

variable {shelf : Shelf} {ns : List Located}

theorem locatedAfter_append {steps further : List Step} :
    locatedAfter shelf (steps ++ further) ns =
      locatedAfter shelf further (locatedAfter shelf steps ns) :=
  List.foldl_append

/-- Where arrays are not looked into, a name selects what objects store under
it. -/
theorem flatMap_located_property (name : String) :
    ns.flatMap ((property name false).located shelf) = ns.filterMap (Located.member? name) := by
  rw [List.filterMap_eq_flatMap_toList]
  refine List.flatMap_congr fun n _ => ?_
  obtain ⟨l, v⟩ := n
  cases v <;> rfl

/-- Where arrays are not looked into, a predicate selects the nodes that it
accepts. -/
theorem flatMap_located_predicate (p : Predicate) :
    ns.flatMap ((predicate p false).located shelf) = ns.filter fun n => p.accepts shelf n.node := by
  have hself : ns.flatMap ((predicate p false).located shelf) =
      ns.flatMap fun n => [n].filter fun c => p.accepts shelf c.node := by
    refine List.flatMap_congr fun n _ => ?_
    obtain ⟨l, v⟩ := n
    cases v <;> rfl
  rw [hself, ← List.filter_flatMap, List.flatMap_singleton']

/-- The step right after a descent selects nothing twice, unless it is a descent
again or looks up several indices. -/
theorem nodup_location_flatMap_located {f : Fragment} {step : Step} {supplied left : List Predicate}
    (h : Compiles true [f] supplied [step] left) (hdescent : f ≠ .descent)
    (hindices : ∀ is, f ≠ .indices is) (hns : (ns.map location).Nodup) :
    ((ns.flatMap (step.located shelf)).map location).Nodup := by
  have hfilter : ∀ p : Predicate,
      ((ns.flatMap ((predicate p false).located shelf)).map location).Nodup := by
    intro p
    rw [flatMap_located_predicate]
    exact hns.sublist (List.filter_sublist.map location)
  cases h with
  | plain hp _ =>
    cases f with
    | root =>
      cases hp
      show ((ns.flatMap fun n => [n]).map location).Nodup
      rw [List.flatMap_singleton']
      exact hns
    | property name =>
      cases hp
      show ((ns.flatMap ((property name false).located shelf)).map location).Nodup
      rw [flatMap_located_property, List.filterMap_eq_flatMap_toList]
      exact Located.nodup_location_flatMap hns fun n => Located.toList_member?_sublist name
    | wildcard => cases hp; exact Located.nodup_location_flatMap_children hns
    | descent => exact absurd rfl hdescent
    | index i =>
      cases hp
      exact Located.nodup_location_flatMap hns fun n => Located.toList_element?_sublist i
    | indices is => exact absurd rfl (hindices is)
    | slice start stop =>
      cases hp
      exact Located.nodup_location_flatMap hns fun n => Located.slice_sublist start stop
    | placeholder | expression _ => cases hp
  | placeholder _ => exact hfilter _
  | expression _ _ => exact hfilter _

end Step

namespace CompiledPath

open Compiler (Compiles)
open Located (InOrder)

variable {source : String} {supplied : List Predicate} {config : Config} {path head : CompiledPath}
  {before : List Fragment} {last : Fragment}

/-- What a visit of the matches of a path and of all nodes below them comes to,
in this order. -/
def visited (shelf : Shelf) (path : CompiledPath) (document : Value) : List Located :=
  (path.located shelf document).flatMap Located.descendants

theorem mem_visited_iff {shelf : Shelf} {document : Value} {m : Located} :
    m ∈ path.visited shelf document ↔ ∃ n ∈ path.located shelf document, n.Above m := by
  rw [visited, List.mem_flatMap]
  exact exists_congr fun n => and_congr_right fun _ => Located.mem_descendants_iff

/-- The children of the visited nodes are what lies below the matches: every
node below a match is a child of one that has been visited. -/
theorem mem_flatMap_children_visited_iff {shelf : Shelf} {document : Value} {m : Located} :
    m ∈ (path.visited shelf document).flatMap Located.children ↔
      ∃ n ∈ path.located shelf document, n.Above m ∧ m.location ≠ n.location := by
  rw [List.mem_flatMap]
  constructor
  · rintro ⟨c, hc, hm⟩
    obtain ⟨n, hn, hnc⟩ := mem_visited_iff.mp hc
    refine ⟨n, hn, hnc.trans (.of_mem_children hm), ?_⟩
    obtain ⟨i, -, hmi⟩ := Located.mem_children_iff.mp hm
    obtain ⟨l, hl, -⟩ := hnc
    rw [hmi, hl]
    simp
  · rintro ⟨n, hn, hnm, hne⟩
    rcases hnm.cases_parent with rfl | ⟨c, hnc, hm⟩
    · exact absurd rfl hne
    · exact ⟨c, mem_visited_iff.mpr ⟨n, hn, hnc⟩, hm⟩

section

variable {shelf : Shelf} {document : Value} {ss further : List Step} {step : Step}

theorem located_take (hsteps : path.steps = ss ++ further) :
    (path.take ss.length).located shelf document =
      Step.locatedAfter shelf ss [Located.root document] := by
  rw [located, take, hsteps, List.take_left]

/-- The descent itself selects what is visited. -/
theorem located_take_descent (hsteps : path.steps = ss ++ .descent :: further) :
    (path.take (ss.length + 1)).located shelf document =
      (path.take ss.length).visited shelf document := by
  have hdescent : path.steps = (ss ++ [.descent]) ++ further := by rw [hsteps, List.append_cons]
  have hlength : ss.length + 1 = (ss ++ [Step.descent]).length := by simp
  rw [visited, located_take hsteps, hlength, located_take hdescent, Step.locatedAfter_append]
  rfl

/-- The step after the descent is applied to what is visited, node by node and
in the order of the visit. -/
theorem located_eq_flatMap_visited (hsteps : path.steps = ss ++ [.descent, step]) :
    path.located shelf document =
      ((path.take ss.length).visited shelf document).flatMap (step.located shelf) := by
  rw [visited, located_take hsteps, located, hsteps, Step.locatedAfter_append]
  rfl

end

/-- No path has a descent directly after a descent, so what comes before the
last descent ends in a fragment of another kind. -/
theorem ne_descent_of_compile (hpath : compile source supplied config = .ok path)
    (hfragments : path.fragments = before ++ [.descent, last]) : last ≠ .descent := by
  rintro rfl
  obtain ⟨-, -, htext, -⟩ := compile_eq_ok_iff.mp hpath
  obtain ⟨fs, hfs, -, hchain⟩ := Fragment.wellFormed_of_ofText htext
  rw [hfragments] at hfs
  cases before with
  | nil => cases hfs
  | cons f before =>
    cases hfs
    exact (List.isChain_append.mp hchain).2.1.rel ⟨rfl, rfl⟩

/-- The steps of a path whose last fragment but one is a descent. -/
theorem exists_steps_of_descent (hpath : compile source supplied config = .ok path)
    (hfragments : path.fragments = before ++ [.descent, last]) :
    ∃ ss step left, path.steps = ss ++ [.descent, step] ∧ ss.length = before.length ∧
      Compiles false before supplied ss (supplied.drop (Compiler.placeholders before)) ∧
      Compiles true [last] (supplied.drop (Compiler.placeholders before)) [step] left := by
  obtain ⟨-, -, -, -, ⟨left, hsteps⟩, -⟩ := compile_eq_ok_iff.mp hpath
  rw [hfragments] at hsteps
  obtain ⟨ss, ts, further, hss, hhead, htail⟩ := hsteps.split
  cases htail with
  | plain hp hlast =>
    cases hp
    have hone := hlast.length_steps
    obtain ⟨step, rfl⟩ := List.length_eq_one_iff.mp hone
    obtain rfl := hhead.left_eq_drop
    exact ⟨ss, step, left, hss, hhead.length_steps, hhead, hlast⟩

/-- **A descent visits every node below the matches once, and what follows it is
applied to the nodes visited.** Where the fragments before the descent are no
descent and no several indices, no location is matched twice.  A name after the
descent selects what the visited objects store under it; a wildcard selects the
children of the visited nodes, which is all that lies below the matches before
the descent; and a predicate selects the visited nodes that it accepts, without
a look into arrays. -/
theorem located_descent (shelf : Shelf) (document : Value)
    (hpath : compile source supplied config = .ok path)
    (hfragments : path.fragments = before ++ [.descent, last])
    (hhead : head = path.take before.length)
    (hdescent : .descent ∉ before) (hindices : ∀ is, .indices is ∉ before)
    (hlast : ∀ is, last ≠ .indices is) :
    path.readList shelf document = (path.located shelf document).map Located.node ∧
      ((path.located shelf document).map Located.location).Nodup ∧
      ((head.visited shelf document).map Located.location).Nodup ∧
      (∀ m, m ∈ head.visited shelf document ↔ ∃ n ∈ head.located shelf document, n.Above m) ∧
      head.visited shelf document = (path.take (before.length + 1)).located shelf document ∧
      (∀ name, last = .property name →
        path.located shelf document =
          (head.visited shelf document).filterMap (Located.member? name)) ∧
      (last = .wildcard →
        path.located shelf document = (head.visited shelf document).flatMap Located.children ∧
          ∀ m, m ∈ path.located shelf document ↔
            ∃ n ∈ head.located shelf document, n.Above m ∧ m.location ≠ n.location) ∧
      (last = .placeholder → ∃ p, supplied[Compiler.placeholders before]? = some p ∧
        path.located shelf document =
          (head.visited shelf document).filter fun n => p.accepts shelf n.node) ∧
      (∀ text, last = .expression text → ∃ f, Filter.ofText text = .ok f ∧
        path.located shelf document =
          (head.visited shelf document).filter fun n => f.accepts n.node) := by
  obtain ⟨ss, step, left, hsteps, hlength, hbefore, hstep⟩ :=
    exists_steps_of_descent hpath hfragments
  have hlocated : path.located shelf document =
      (head.visited shelf document).flatMap (step.located shelf) := by
    rw [hhead, ← hlength]
    exact located_eq_flatMap_visited hsteps
  have hvisit :
      head.visited shelf document = (path.take (before.length + 1)).located shelf document := by
    rw [hhead, ← hlength]
    exact (located_take_descent hsteps).symm
  -- what narrowing steps select lies apart, so no node is visited from two matches
  have hvisited : ((head.visited shelf document).map Located.location).Nodup := by
    have horder : InOrder (Located.root document).descendants (head.located shelf document) := by
      rw [hhead, ← hlength, located_take hsteps]
      exact Step.inOrder_locatedAfter (hbefore.narrows hdescent hindices) (Located.inOrder_self _)
    exact Located.nodup_location_descendants.sublist (horder.map Located.location)
  refine ⟨readList_eq_map_located shelf path document, ?_, hvisited, fun m => mem_visited_iff,
    hvisit, ?_, ?_, ?_, ?_⟩
  · rw [hlocated]
    exact Step.nodup_location_flatMap_located hstep (ne_descent_of_compile hpath hfragments) hlast
      hvisited
  -- the last fragment compiles to a step that does not look into arrays
  · rintro name rfl
    cases hstep with
    | plain hp _ =>
      cases hp
      rw [hlocated]
      exact Step.flatMap_located_property name
  · rintro rfl
    cases hstep with
    | plain hp _ =>
      cases hp
      exact ⟨hlocated, fun m => by rw [hlocated]; exact mem_flatMap_children_visited_iff⟩
  · rintro rfl
    generalize hsupplied : supplied.drop (Compiler.placeholders before) = further at hstep
    cases hstep with
    | plain hp _ => cases hp
    | @placeholder _ p _ _ _ _ _ =>
      refine ⟨p, ?_, ?_⟩
      · rw [← List.head?_drop, hsupplied]
        rfl
      · rw [hlocated]
        exact Step.flatMap_located_predicate p
  · rintro text rfl
    cases hstep with
    | plain hp _ => cases hp
    | expression hf _ =>
      refine ⟨_, hf, ?_⟩
      rw [hlocated]
      exact Step.flatMap_located_predicate _

/-- A name after a descent, in arrays within arrays and below what it selects
itself. -/
theorem located_descent_nested :
    ∃ (path head : CompiledPath) (document : Value),
      document = .object [("x", .array [
        .object [("a", .array [.object [("a", .int 1)]])], .array [.object [("a", .int 1)]]])] ∧
      compile "$.x..a" [] {} = .ok path ∧ head = path.take 2 ∧
      ((head.visited {} document).map Located.location =
        [[0], [0, 0], [0, 0, 0], [0, 0, 0, 0], [0, 0, 0, 0, 0], [0, 1], [0, 1, 0], [0, 1, 0, 0]]) ∧
      path.located {} document = (head.visited {} document).filterMap (Located.member? "a") ∧
      ((path.located {} document).map Located.location).Nodup ∧
      (path.located {} document).map Located.location = [[0, 0, 0], [0, 0, 0, 0, 0],
        [0, 1, 0, 0]] := by
  have hpath : compile "$.x..a" [] {} = .ok ⟨_, [.root, .property "x", .descent, .property "a"],
      [.root, .property "x" true, .descent, .property "a" false]⟩ :=
    compile_eq_ok_iff.mpr ⟨rfl, by decide, by decide +kernel, by decide,
      ⟨_, .plain rfl (.plain rfl (.plain rfl (.plain rfl .nil)))⟩, rfl⟩
  have hfragments : [Fragment.root, .property "x", .descent, .property "a"] =
      [.root, .property "x"] ++ [.descent, .property "a"] := rfl
  have hdescent := fun document =>
    located_descent {} document hpath hfragments rfl (by decide) (by simp) (by simp)
  exact ⟨_, _, _, rfl, hpath, rfl, rfl, (hdescent _).2.2.2.2.2.1 "a" rfl, (hdescent _).2.1, rfl⟩

end CompiledPath

end DocPath

import DocPath.Proofs.Filter.Acceptance
import DocPath.Proofs.Path.Concatenation

/-! # Filters one after the other

A predicate that follows another one looks into the arrays that the first one
lets through.  A filter lets none through unless it is empty, so two filters one
after the other select what one filter with the criteria of both selects
(`Step.flatMap_nodes_filter`): where arrays are looked into, and right after a
descent, where they are not.  `CompiledPath.readList_chained` says this of
paths. -/

namespace DocPath

namespace Step

variable {shelf : Shelf} {f g : Filter} {expandArrays expandArrays' : Bool} {v : Value}
  {vs : List Value}

theorem nodes_filter :
    (predicate (.filter f) expandArrays).nodes shelf v =
      (v.candidates expandArrays).filter f.accepts :=
  Predicate.value_select

/-- A filter is put to objects themselves, whether arrays are looked into or
not. -/
theorem flatMap_nodes_filter_of_objects (h : ∀ w ∈ vs, ∃ entries, w = .object entries) :
    vs.flatMap ((predicate (.filter g) expandArrays).nodes shelf) = vs.filter g.accepts := by
  have hself : ∀ w ∈ vs,
      (predicate (.filter g) expandArrays).nodes shelf w = [w].filter g.accepts := by
    intro w hw
    obtain ⟨entries, rfl⟩ := h w hw
    exact nodes_filter
  rw [List.flatMap_congr hself, ← List.filter_flatMap, List.flatMap_singleton']

/-- A filter after one that is not empty tests what that one accepts.  This is
where the first filter has to hold some criterion: the objects that it then
leaves are not looked into, and an array that it left would be. -/
theorem flatMap_nodes_filter (hf : f.criteria ≠ []) :
    ((predicate (.filter f) expandArrays).nodes shelf v).flatMap
        ((predicate (.filter g) expandArrays').nodes shelf) =
      (predicate (.filter (f.append g.criteria)) expandArrays).nodes shelf v := by
  have hobjects :
      ∀ w ∈ (v.candidates expandArrays).filter f.accepts, ∃ entries, w = .object entries :=
    fun w hw => Filter.exists_object_of_accepts hf (List.mem_filter.mp hw).2
  rw [nodes_filter, flatMap_nodes_filter_of_objects hobjects, List.filter_filter, nodes_filter]
  refine List.filter_congr fun w _ => ?_
  rw [Filter.accepts_append, Bool.and_comm]

/-- The criteria of two filters may be asked in either order, as a node passes
all of them or is left out. -/
theorem nodes_filter_append_comm :
    (predicate (.filter (f.append g.criteria)) expandArrays).nodes shelf v =
      (predicate (.filter (g.append f.criteria)) expandArrays).nodes shelf v := by
  rw [nodes_filter, nodes_filter]
  refine List.filter_congr fun w _ => ?_
  rw [Filter.accepts_append, Filter.accepts_append, Bool.and_comm]

end Step

namespace CompiledPath

open Compiler (Compiles endsInDescent placeholders)
open Unicode (isBlank)

variable {p : String} {supplied : List Predicate} {config : Config} {head : CompiledPath}
  {f g : Filter}

theorem ofText_placeholder : Fragment.ofText "[?]" = .ok [.root, .placeholder] := by decide +kernel

theorem ofText_placeholders :
    Fragment.ofText "[?][?]" = .ok [.root, .placeholder, .placeholder] := by
  decide +kernel

/-- **Two filters one after the other select what their conjunction selects**,
if the first of them is not empty.  So filters that are both not empty may be
exchanged.  The path before them may end in a descent. -/
theorem readList_chained (g : Filter) (hhead : compile p supplied config = .ok head)
    (hexact : supplied.length = placeholders head.fragments)
    (hblank : ∀ c, p.toList.getLast? = some c → isBlank c = false)
    (hlength : (p ++ "[?][?]").length ≤ config.maxPathLength.toNat)
    (hcount : head.fragments.length + 2 ≤ config.maxFragments.toNat) (hf : f.criteria ≠ []) :
    ∃ chained joined,
      compile (p ++ "[?][?]") (supplied ++ [.filter f, .filter g]) config = .ok chained ∧
      compile (p ++ "[?]") (supplied ++ [.filter (f.append g.criteria)]) config = .ok joined ∧
      (∀ shelf document, chained.readList shelf document = joined.readList shelf document) ∧
      (g.criteria ≠ [] → ∃ exchanged,
        compile (p ++ "[?][?]") (supplied ++ [.filter g, .filter f]) config = .ok exchanged ∧
        ∀ shelf document, exchanged.readList shelf document = chained.readList shelf document) := by
  let after := endsInDescent false head.fragments
  have hleft : supplied.drop (placeholders head.fragments) = [] := List.drop_eq_nil_of_le hexact.le
  have htwo : ∀ a b : Filter, compile (p ++ "[?][?]") (supplied ++ [.filter a, .filter b]) config =
      .ok ⟨p ++ "[?][?]", head.fragments ++ [.placeholder, .placeholder],
        head.steps ++ [.predicate (.filter a) !after, .predicate (.filter b) true]⟩ := by
    intro a b
    refine compile_append hhead hblank (.inl rfl) ofText_placeholders hlength hcount ⟨[], ?_⟩
    rw [hleft]
    exact .placeholder (.placeholder .nil)
  have hone : compile (p ++ "[?]") (supplied ++ [.filter (f.append g.criteria)]) config =
      .ok ⟨p ++ "[?]", head.fragments ++ [.placeholder],
        head.steps ++ [.predicate (.filter (f.append g.criteria)) !after]⟩ := by
    rw [String.length_append] at hlength
    refine compile_append hhead hblank (.inl rfl) ofText_placeholder ?_ ?_ ⟨[], ?_⟩
    · rw [String.length_append]
      exact (Nat.add_le_add_left (by decide) _).trans hlength
    · exact (Nat.add_le_add_left (by decide) _).trans hcount
    · rw [hleft]
      exact .placeholder .nil
  refine ⟨_, _, htwo f g, hone, fun shelf document => ?_,
    fun hg => ⟨_, htwo g f, fun shelf document => ?_⟩⟩
  · rw [readList_append_steps, readList_append_steps]
    refine List.flatMap_congr fun v _ => ?_
    rw [Step.nodesAfter_pair, Step.nodesAfter_singleton, Step.flatMap_nodes_filter hf]
  · rw [readList_append_steps, readList_append_steps]
    refine List.flatMap_congr fun v _ => ?_
    rw [Step.nodesAfter_pair, Step.nodesAfter_pair, Step.flatMap_nodes_filter hf,
      Step.flatMap_nodes_filter hg, Step.nodes_filter_append_comm]

/-- A path that ends in a descent, from which the filters select an object in
nested arrays. -/
theorem readList_chained_descent :
    ∃ (has : Predicate) (f g : Filter) (document : Value) (chained joined exchanged : CompiledPath),
      has = .criterion ⟨"a", .present true⟩ ∧
      f = ⟨[⟨"b", .equalTo (.int 1)⟩]⟩ ∧ g = ⟨[⟨"c", .greater (.int 2)⟩, ⟨"d", .present false⟩]⟩ ∧
      document = .array [.object [("c", .int 3)],
        .object [("a", .array [.object [("b", .int 1), ("c", .int 2)],
          .array [.object [("c", .long 3), ("b", .int 1)], .array []]])]] ∧
      compile ("$[?].." ++ "[?][?]") ([has] ++ [.filter f, .filter g]) {} = .ok chained ∧
      compile ("$[?].." ++ "[?]") ([has] ++ [.filter (f.append g.criteria)]) {} = .ok joined ∧
      compile ("$[?].." ++ "[?][?]") ([has] ++ [.filter g, .filter f]) {} = .ok exchanged ∧
      chained.readList {} document = joined.readList {} document ∧
      exchanged.readList {} document = chained.readList {} document ∧
      joined.readList {} document = [.object [("c", .long 3), ("b", .int 1)]] := by
  let has : Predicate := .criterion ⟨"a", .present true⟩
  let f : Filter := ⟨[⟨"b", .equalTo (.int 1)⟩]⟩
  let g : Filter := ⟨[⟨"c", .greater (.int 2)⟩, ⟨"d", .present false⟩]⟩
  let document : Value := .array [.object [("c", .int 3)],
    .object [("a", .array [.object [("b", .int 1), ("c", .int 2)],
      .array [.object [("c", .long 3), ("b", .int 1)], .array []]])]]
  have hhead : compile "$[?].." [has] {} = .ok ⟨_, [.root, .placeholder, .descent],
      [.root, .predicate has true, .descent]⟩ :=
    compile_eq_ok_iff.mpr ⟨rfl, by decide, by decide +kernel, by decide,
      ⟨_, .plain rfl (.placeholder (.plain rfl .nil))⟩, rfl⟩
  have hjoined : compile ("$[?].." ++ "[?]") ([has] ++ [.filter (f.append g.criteria)]) {} =
      .ok ⟨_, [.root, .placeholder, .descent, .placeholder],
        [.root, .predicate has true, .descent, .predicate (.filter (f.append g.criteria)) false]⟩ :=
    compile_eq_ok_iff.mpr ⟨rfl, by decide, by decide +kernel, by decide,
      ⟨_, .plain rfl (.placeholder (.plain rfl (.placeholder .nil)))⟩, rfl⟩
  obtain ⟨chained, joined, hchained, hjoined', hread, hswap⟩ :=
    readList_chained (f := f) g hhead rfl (by rintro c ⟨⟩; rfl) (by decide) (by decide)
      (List.cons_ne_nil _ _)
  obtain ⟨exchanged, hexchanged, hread'⟩ := hswap (List.cons_ne_nil _ _)
  rw [hjoined] at hjoined'
  cases hjoined'
  exact ⟨has, f, g, document, chained, _, exchanged, rfl, rfl, rfl, rfl, hchained,
    hjoined, hexchanged, hread {} document, hread' {} document, rfl⟩

end CompiledPath

end DocPath

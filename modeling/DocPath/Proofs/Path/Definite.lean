import DocPath.Proofs.Path.Descent

/-! # Definite paths

A path is definite if its text alone says that each of its fragments selects at
most one node below a node.  There is one exception to that, which only a
document shows: a name is looked for in all elements of an array.  So a definite
path selects several nodes only if it comes, with nothing else selected, to an
array of which several elements hold the name that follows
(`Step.length_nodesAfter`).  Where no array has such elements, a single read
never finds more than one match (`CompiledPath.read_definite`). -/

namespace DocPath

namespace Value

variable {v w : Value} {k : String} {items : List Value}

/-- No two elements of the value, if it is an array, are objects that hold the
same key. -/
def KeysApart : Value → Prop
  | array items => items.Pairwise fun v w => ∀ k, ¬(v.containsKey k = true ∧ w.containsKey k = true)
  | _ => True

theorem KeysApart.length_filter (h : (array items).KeysApart) (k : String) :
    (items.filter (·.containsKey k)).length ≤ 1 := by
  have hpair := List.Pairwise.filter (fun v => v.containsKey k) h
  rcases hfilter : items.filter (·.containsKey k) with _ | ⟨a, _ | ⟨b, rest⟩⟩
  · rw [hfilter]
    exact Nat.zero_le 1
  · rw [hfilter]
    exact Nat.le_refl 1
  · have hmem : ∀ c ∈ [a, b], c.containsKey k = true := by
      intro c hc
      have hc' : c ∈ items.filter (·.containsKey k) := by
        rw [hfilter]
        exact List.mem_append_left rest hc
      exact (List.mem_filter.mp hc').2
    rw [hfilter] at hpair
    exact absurd ⟨hmem a (by simp), hmem b (by simp)⟩ (List.rel_of_pairwise_cons hpair (by simp) k)

/-- Of an array a name selects what its elements hold under the name. -/
theorem length_project (name : String) :
    ((array items).project name true).length = (items.filter (·.containsKey name)).length := by
  show (items.filterMap (·.get? name)).length = _
  rw [List.length_filterMap_eq_countP, List.countP_eq_length_filter]
  rfl

end Value

namespace Step

open Compiler (Compiles)

variable {shelf : Shelf} {step : Step} {f : Fragment} {fs : List Fragment} {ss : List Step}
  {supplied left : List Predicate} {v : Value} {vs : List Value}

/-- The step of a definite fragment selects at most one node below a node,
unless it is a name at an array. -/
theorem length_nodes (shelf : Shelf) (v : Value) (hf : f.isDefinite = true)
    (hstep : f.plainStep? false = some step) :
    (step.nodes shelf v).length ≤ 1 ∨
      ∃ k items, f = .property k ∧ v = .array items ∧
        (step.nodes shelf v).length = (items.filter (·.containsKey k)).length := by
  cases f with
  | root =>
    cases hstep
    exact .inl (Nat.le_refl 1)
  | property k =>
    cases hstep
    cases v with
    | array items => exact .inr ⟨k, items, rfl, rfl, Value.length_project k⟩
    | object entries => exact .inl (Option.length_toList_le)
    | _ => exact .inl (Nat.zero_le 1)
  | index i =>
    cases hstep
    exact .inl (Option.length_toList_le)
  | _ => cases hf

/-- **A row of definite steps.** It selects at most one node below at most one
node, unless it comes to an array, and to nothing else, of which several
elements hold the name that follows. -/
theorem length_nodesAfter (shelf : Shelf) (h : Compiles false fs supplied ss left)
    (hdefinite : ∀ f ∈ fs, f.isDefinite = true) (hvs : vs.length ≤ 1) :
    (nodesAfter shelf ss vs).length ≤ 1 ∨
      ∃ before k after items, fs = before ++ .property k :: after ∧
        nodesAfter shelf (ss.take before.length) vs = [.array items] ∧
        2 ≤ (items.filter (·.containsKey k)).length := by
  generalize hafter : false = afterDescent at h
  induction h generalizing vs with
  | nil => exact .inl hvs
  | @plain _ f fs step ss _ _ hstep hrest ih =>
    subst hafter
    obtain ⟨hf, hdefinite⟩ := List.forall_mem_cons.mp hdefinite
    have hnext : false = (f == .descent) := by
      cases f <;> first | rfl | cases hf
    match vs, hvs with
    | [], _ =>
      left
      rw [nodesAfter_no_nodes]
      exact Nat.zero_le 1
    | [v], _ =>
      have hcons :
          nodesAfter shelf (step :: ss) [v] = nodesAfter shelf ss (step.nodes shelf v) := by
        rw [nodesAfter_cons, List.flatMap_singleton]
      rcases Nat.lt_or_ge 1 (step.nodes shelf v).length with hmany | hone
      · -- this is the first step that selects several nodes
        rcases length_nodes shelf v hf hstep with hle | ⟨k, items, rfl, rfl, hlength⟩
        · exact absurd hle (Nat.not_le.mpr hmany)
        · exact .inr ⟨[], k, fs, items, rfl, rfl, hlength ▸ hmany⟩
      · rcases ih hdefinite hone hnext with hle | ⟨before, k, after, items, rfl, hbefore, hitems⟩
        · exact .inl (hcons ▸ hle)
        · refine .inr ⟨f :: before, k, after, items, rfl, ?_, hitems⟩
          rw [← hbefore, List.length_cons, List.take_succ_cons, nodesAfter_cons,
            List.flatMap_singleton]
  | placeholder _ _ | expression _ _ _ => cases hdefinite _ List.mem_cons_self

end Step

namespace CompiledPath

variable {shelf : Shelf} {source : String} {supplied : List Predicate} {config : Config}
  {path : CompiledPath} {document : Value}

theorem isDefinite_iff : path.isDefinite = true ↔ ∀ f ∈ path.fragments, f.isDefinite = true :=
  List.all_eq_true

theorem mem_descendants_of_mem_readList {v : Value} (h : v ∈ path.readList shelf document) :
    v ∈ document.descendants := by
  rw [readList_eq_map_located] at h
  obtain ⟨m, hm, rfl⟩ := List.mem_map.mp h
  have hvisit : m ∈ (Located.root document).descendants :=
    Located.mem_descendants_iff.mpr (above_of_mem_located hm)
  have hnode := List.mem_map_of_mem (f := Located.node) hvisit
  rw [Located.map_node_descendants] at hnode
  exact hnode

/-- **How a definite path comes to several matches.** If it has two or more,
then one of its fragments is a name, the fragments before it select an array and
nothing else, and two or more elements of this array are objects that hold the
name.  So in a document in which no array has two elements that hold the same
key, a definite path has at most one match, and a single read, which is how it
is read when nothing else is asked for, gives that match, or finds nothing at
the path. -/
theorem read_definite (shelf : Shelf) (document : Value)
    (hpath : compile source supplied config = .ok path) (hdefinite : path.isDefinite = true) :
    path.readMode = .single ∧
      (2 ≤ (path.readList shelf document).length →
        ∃ before k after items, path.fragments = before ++ .property k :: after ∧
          (path.take before.length).readList shelf document = [.array items] ∧
          2 ≤ (items.filter (·.containsKey k)).length) ∧
      ((∀ v ∈ document.descendants, v.KeysApart) → ∀ trace,
        (∃ v, path.readList shelf document = [v] ∧
          (path.evaluate shelf trace document .single).value = .ok (.single v)) ∨
        (path.readList shelf document = [] ∧
          (path.evaluate shelf trace document .single).value =
            .error (.noSuchPath path.source))) := by
  obtain ⟨-, -, -, -, ⟨left, hsteps⟩, -⟩ := compile_eq_ok_iff.mp hpath
  have hmany : 2 ≤ (path.readList shelf document).length →
      ∃ before k after items, path.fragments = before ++ .property k :: after ∧
        (path.take before.length).readList shelf document = [.array items] ∧
        2 ≤ (items.filter (·.containsKey k)).length := by
    intro htwo
    rw [readList_eq_nodesAfter] at htwo
    have hlength := Step.length_nodesAfter shelf hsteps (isDefinite_iff.mp hdefinite)
      (Nat.le_refl [document].length)
    rcases hlength with hone | ⟨before, k, after, items, hfragments, hbefore, hitems⟩
    · exact absurd hone (Nat.not_le.mpr htwo)
    · exact ⟨before, k, after, items, hfragments, readList_eq_nodesAfter.trans hbefore, hitems⟩
  refine ⟨if_pos hdefinite, hmany, ?_⟩
  intro hkeys trace
  rw [value_evaluate_single]
  match hread : path.readList shelf document with
  | [] => exact .inr ⟨rfl, rfl⟩
  | [v] => exact .inl ⟨v, rfl, rfl⟩
  | v :: w :: rest =>
    have htwo : 2 ≤ (path.readList shelf document).length := by
      rw [hread]
      exact Nat.le_add_left 2 rest.length
    obtain ⟨before, k, after, items, -, hbefore, hitems⟩ := hmany htwo
    have hmem : .array items ∈ (path.take before.length).readList shelf document := by
      rw [hbefore]
      exact List.mem_singleton_self _
    have hapart : (Value.array items).KeysApart := hkeys _ (mem_descendants_of_mem_readList hmem)
    exact absurd (hapart.length_filter k) (Nat.not_le.mpr hitems)

/-- Of two documents the first has in an array two elements with one key, and
the second has none. -/
theorem read_definite_rows :
    ∃ (path : CompiledPath) (many one : Value),
      many = .object [("rows", .array [
        .object [("a", .int 1)], .null, .object [("b", .null), ("a", .int 2)]])] ∧
      one =
        .object [("rows", .array [.object [("a", .int 1)], .array [], .object [("b", .int 2)]])] ∧
      compile "$.rows.a" [] {} = .ok path ∧ path.readMode = .single ∧
      path.readList {} many = [.int 1, .int 2] ∧
      (∃ before k after items, path.fragments = before ++ .property k :: after ∧
        (path.take before.length).readList {} many = [.array items] ∧
        2 ≤ (items.filter (·.containsKey k)).length) ∧
      path.readList {} one = [.int 1] ∧
      ∀ trace, (path.evaluate {} trace one .single).value = .ok (.single (.int 1)) := by
  let many : Value :=
    .object
      [("rows", .array [.object [("a", .int 1)], .null, .object [("b", .null), ("a", .int 2)]])]
  let one : Value :=
    .object [("rows", .array [.object [("a", .int 1)], .array [], .object [("b", .int 2)]])]
  have hpath : compile "$.rows.a" [] {} = .ok ⟨_, [.root, .property "rows", .property "a"],
      [.root, .property "rows" true, .property "a" true]⟩ :=
    compile_eq_ok_iff.mpr ⟨rfl, by decide, by decide +kernel, by decide,
      ⟨_, .plain rfl (.plain rfl (.plain rfl .nil))⟩, rfl⟩
  have hapart : ∀ v ∈ one.descendants, v.KeysApart := by
    simp [one, Value.descendants, Value.descendantsOfEntries, Value.descendantsOfItems,
      Value.KeysApart, Value.containsKey, Value.get?, Value.entries?, List.lookup_cons]
    rintro _ ha rfl
    exact absurd ha (by decide)
  obtain ⟨hmode, htwo, -⟩ := read_definite {} many hpath rfl
  obtain ⟨-, -, hone⟩ := read_definite {} one hpath rfl
  refine ⟨_, many, one, rfl, rfl, hpath, hmode, rfl, htwo (by decide), rfl, fun trace => ?_⟩
  rcases hone hapart trace with ⟨v, hv, hread⟩ | ⟨hnone, -⟩
  · cases hv
    exact hread
  · cases hnone

end CompiledPath

end DocPath

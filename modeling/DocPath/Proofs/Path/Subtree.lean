import DocPath.Proofs.Path.DocumentOrder
import DocPath.Proofs.Value.Conversion

/-! # Reading trees

A read of a JSON tree goes by way of the document of the tree.  Nothing shows of
that in what the read gives: each match is the subtree at its location,
unchanged (`readTree_eq_subtrees`). -/

namespace DocPath

open Json (Tree)

variable {shelf : Shelf} {tree result : Tree} {source : String} {supplied : List Predicate}
  {path : CompiledPath}

namespace CompiledPath

/-- A match in the document of a tree has as its JSON tree the subtree at its
location. -/
theorem at?_location_of_mem_located {m : Located} (htree : tree.Proper)
    (hm : m ∈ path.located shelf (.ofTree tree)) : tree.at? m.location = some m.node.toTree := by
  obtain ⟨l, hl, hnode⟩ := above_of_mem_located hm
  have hlocation : m.location = l := hl
  have hdocument : (Value.ofTree tree).at? l = some m.node := hnode
  rw [Value.at?_ofTree, Option.map_eq_some_iff] at hdocument
  obtain ⟨s, hs, hms⟩ := hdocument
  rw [hlocation, hs, ← hms, Value.toTree_ofTree (htree.of_at? hs)]

/-- A single read succeeds on exactly one match, wherever it is. -/
theorem read_single_eq_ok_iff_located {document : Value} {r : ReadResult} :
    path.read shelf document .single = .ok r ↔
      ∃ m, path.located shelf document = [m] ∧ r = .single m.node := by
  rw [read, value_evaluate_single, readList_eq_map_located]
  rcases path.located shelf document with _ | ⟨m, _ | ⟨m', rest⟩⟩
  · simp
  · simp [eq_comm]
  · simp

end CompiledPath

theorem forall₂_eq_some_iff {α β : Type} {f : α → Option β} {g : α → β} {as : List α} {bs : List β}
    (h : ∀ a ∈ as, f a = some (g a)) :
    List.Forall₂ (fun a b => f a = some b) as bs ↔ bs = as.map g := by
  induction as generalizing bs with
  | nil => exact List.forall₂_nil_left_iff
  | cons a as ih =>
    obtain ⟨ha, has⟩ := List.forall_mem_cons.mp h
    rw [List.forall₂_cons_left_iff, List.map_cons]
    constructor
    · rintro ⟨b, cs, hb, hcs, rfl⟩
      rw [ha, Option.some.injEq] at hb
      rw [hb, (ih has).mp hcs]
    · rintro rfl
      exact ⟨g a, as.map g, ha, (ih has).mpr rfl, rfl⟩

theorem readTree_eq_ok_iff :
    readTree shelf tree source supplied = .ok result ↔
      ∃ path, CompiledPath.compile source supplied {} = .ok path ∧
        ∃ r, path.read shelf (.ofTree tree) path.readMode = .ok r ∧ r.toValue.toTree = result := by
  rw [readTree, map_eq_ok_iff]
  constructor
  · rintro ⟨r, hr, htree⟩
    obtain ⟨path, hpath, hread⟩ := bind_eq_ok_iff.mp hr
    exact ⟨path, hpath, r, hread, htree⟩
  · rintro ⟨path, hpath, r, hread, htree⟩
    exact ⟨r, bind_eq_ok_iff.mpr ⟨path, hpath, hread⟩, htree⟩

/-- A tree that is read as a whole is given as it is. -/
theorem readTree_root (shelf : Shelf) (supplied : List Predicate) (htree : tree.Proper) :
    readTree shelf tree "$" supplied = .ok tree := by
  have hpath : CompiledPath.compile "$" supplied {} = .ok ⟨"$", [.root], [.root]⟩ :=
    CompiledPath.compile_eq_ok_iff.mpr
      ⟨rfl, by decide, by decide +kernel, by decide, ⟨_, .plain rfl .nil⟩, rfl⟩
  exact readTree_eq_ok_iff.mpr ⟨_, hpath, .single (.ofTree tree), rfl, Value.toTree_ofTree htree⟩

/-- A definite path that has one match gives the subtree at its location. -/
theorem exists_read_definite_iff (htree : tree.Proper) (hdefinite : path.isDefinite = true) :
    (∃ r, path.read shelf (.ofTree tree) path.readMode = .ok r ∧ r.toValue.toTree = result) ↔
      ∃ m, path.located shelf (.ofTree tree) = [m] ∧ tree.at? m.location = some result := by
  have hmode : path.readMode = .single := if_pos hdefinite
  have hsubtree : ∀ m, path.located shelf (.ofTree tree) = [m] →
      tree.at? m.location = some m.node.toTree := fun m hm =>
    CompiledPath.at?_location_of_mem_located htree (hm ▸ List.mem_singleton_self m)
  rw [hmode]
  constructor
  · rintro ⟨r, hr, rfl⟩
    obtain ⟨m, hm, rfl⟩ := CompiledPath.read_single_eq_ok_iff_located.mp hr
    exact ⟨m, hm, hsubtree m hm⟩
  · rintro ⟨m, hm, hresult⟩
    rw [hsubtree m hm, Option.some.injEq] at hresult
    exact ⟨.single m.node, CompiledPath.read_single_eq_ok_iff_located.mpr ⟨m, hm, rfl⟩, hresult⟩

/-- Any other path gives an array of the subtrees at the locations of its
matches. -/
theorem exists_read_not_definite_iff (htree : tree.Proper) (hdefinite : path.isDefinite = false) :
    (∃ r, path.read shelf (.ofTree tree) path.readMode = .ok r ∧ r.toValue.toTree = result) ↔
      ∃ items, result = .array items ∧
        List.Forall₂ (fun m t => tree.at? m.location = some t)
          (path.located shelf (.ofTree tree)) items := by
  have hmode : path.readMode = .list := if_neg (ne_true_of_eq_false hdefinite)
  have hitems : (Value.array (path.readList shelf (.ofTree tree))).toTree =
      .array ((path.located shelf (.ofTree tree)).map fun m => m.node.toTree) := by
    rw [Value.toTree, Value.toTrees_eq, CompiledPath.readList_eq_map_located, List.map_map]
    rfl
  have hsubtrees : ∀ items, List.Forall₂ (fun m t => tree.at? m.location = some t)
      (path.located shelf (.ofTree tree)) items ↔
        items = (path.located shelf (.ofTree tree)).map fun m => m.node.toTree := fun _ =>
    forall₂_eq_some_iff fun _ hm => CompiledPath.at?_location_of_mem_located htree hm
  rw [hmode, CompiledPath.read_list]
  constructor
  · rintro ⟨r, hr, rfl⟩
    cases hr
    exact ⟨_, hitems, (hsubtrees _).mpr rfl⟩
  · rintro ⟨items, rfl, hforall⟩
    rw [(hsubtrees items).mp hforall]
    exact ⟨_, rfl, hitems⟩

/-- **A read of a tree gives subtrees, unchanged.** Converting a tree to a
document and back gives the tree, and so does reading it as a whole.  Whatever
is read in it, by any path and with any predicates: what a definite path gives
is the subtree at the location of its match, if it has one match; and any other
path gives an array of the subtrees at the locations of its matches, in their
order. -/
theorem readTree_eq_subtrees (shelf : Shelf) (htree : tree.Proper) :
    (Value.ofTree tree).toTree = tree ∧
      (∀ supplied, readTree shelf tree "$" supplied = .ok tree) ∧
      ∀ source supplied result, readTree shelf tree source supplied = .ok result ↔
        ∃ path, CompiledPath.compile source supplied {} = .ok path ∧
          ((path.isDefinite = true ∧ ∃ m, path.located shelf (.ofTree tree) = [m] ∧
              tree.at? m.location = some result) ∨
            (path.isDefinite = false ∧ ∃ items, result = .array items ∧
              List.Forall₂ (fun m t => tree.at? m.location = some t)
                (path.located shelf (.ofTree tree)) items)) := by
  refine ⟨Value.toTree_ofTree htree, fun supplied => readTree_root shelf supplied htree, ?_⟩
  intro source supplied result
  rw [readTree_eq_ok_iff]
  refine exists_congr fun path => and_congr_right fun _ => ?_
  cases hdefinite : path.isDefinite with
  | true =>
    rw [exists_read_definite_iff htree hdefinite]
    simp
  | false =>
    rw [exists_read_not_definite_iff htree hdefinite]
    simp

/-- Numbers at the edges of their widths: the negative zero, a floating point
number that is whole, and the integers on both sides of 32 bits and at the ends
of 64 bits. -/
theorem readTree_eq_subtrees_edges :
    ∃ (numbers : List Tree) (tree : Tree) (path : CompiledPath),
      numbers = [.float .negativeZero, .float ⟨0x3FF0000000000000⟩, .integer 2147483647,
        .integer 2147483648, .integer (-9223372036854775808), .integer 9223372036854775807] ∧
      tree = .object [("a", .array numbers), ("b", .object [("k", .null)])] ∧ tree.Proper ∧
      (Value.ofTree tree).toTree = tree ∧ readTree {} tree "$" [] = .ok tree ∧
      CompiledPath.compile "$.a[*]" [] {} = .ok path ∧
      readTree {} tree "$.a[*]" [] = .ok (.array numbers) ∧
      List.Forall₂ (fun m t => tree.at? m.location = some t) (path.located {} (.ofTree tree))
        numbers := by
  let numbers : List Tree :=
    [.float .negativeZero, .float ⟨0x3FF0000000000000⟩, .integer 2147483647,
    .integer 2147483648, .integer (-9223372036854775808), .integer 9223372036854775807]
  let tree : Tree := .object [("a", .array numbers), ("b", .object [("k", .null)])]
  have hnumbers : (Tree.array numbers).Proper := by
    refine .array fun t ht => ?_
    simp only [numbers, List.mem_cons, List.not_mem_nil, or_false] at ht
    rcases ht with rfl | rfl | rfl | rfl | rfl | rfl
    · exact .float (by decide)
    · exact .float (by decide)
    · exact .integer 2147483647
    · exact .integer 2147483648
    · exact .integer Int64.minValue
    · exact .integer Int64.maxValue
  have htree : tree.Proper := by
    refine .object (by decide) fun e he => ?_
    rcases List.mem_pair.mp he with rfl | rfl
    · exact hnumbers
    · exact .object (List.pairwise_singleton _ _) (by simp [Tree.Proper.null])
  have hpath : CompiledPath.compile "$.a[*]" [] {} = .ok ⟨_, [.root, .property "a", .wildcard],
      [.root, .property "a" true, .wildcard]⟩ :=
    CompiledPath.compile_eq_ok_iff.mpr ⟨rfl, by decide, by decide +kernel, by decide,
      ⟨_, .plain rfl (.plain rfl (.plain rfl .nil))⟩, rfl⟩
  have hread : readTree {} tree "$.a[*]" [] = .ok (.array numbers) :=
    readTree_eq_ok_iff.mpr ⟨_, hpath, _, rfl, rfl⟩
  obtain ⟨hback, hroot, hsubtrees⟩ := readTree_eq_subtrees {} htree
  obtain ⟨path, hpath', ⟨hdefinite, -⟩ | ⟨-, items, he, hforall⟩⟩ := (hsubtrees _ _ _).mp hread
  · rw [hpath] at hpath'
    cases hpath'
    cases hdefinite
  · rw [hpath] at hpath'
    cases hpath'
    cases he
    exact ⟨_, _, _, rfl, rfl, htree, hback, hroot [], hpath, hread, hforall⟩

end DocPath

import DocPath.Proofs.Path.Naming
import DocPath.Proofs.Path.Slicing

/-! # Names in the elements of arrays

A name is looked for in the objects among the elements of an array, though not
in arrays among them.  The wildcard takes the elements themselves, and a name
after it is looked for in each.  The two are the same on arrays without arrays
in them (`Value.project_of_flat`), and so are paths that select such arrays and
go on in the one way or in the other (`CompiledPath.readList_projected`). -/

namespace DocPath

namespace Value

variable {v : Value} {name : String}

/-- An array without arrays among its elements.  A name after it leads to the
same nodes as the wildcard and then the name, which would look into arrays once
more. -/
def Flat (v : Value) : Prop := ∃ items, v = array items ∧ ∀ w ∈ items, w.kind ≠ .array

theorem project_of_kind_ne_array (h : v.kind ≠ .array) :
    v.project name true = (v.get? name).toList := by
  cases v with
  | array items => exact absurd rfl h
  | _ => rfl

/-- A name in a flat array is the name in each of its elements. -/
theorem project_of_flat (h : v.Flat) :
    v.project name true = v.children.flatMap (project name true) := by
  obtain ⟨items, rfl, hitems⟩ := h
  calc (array items).project name true
      = items.flatMap fun w => (w.get? name).toList := List.filterMap_eq_flatMap_toList _ _
    _ = items.flatMap (project name true) :=
        List.flatMap_congr fun w hw => (project_of_kind_ne_array (hitems w hw)).symm

end Value

namespace Fragment

variable {k : String} {s : List Char}

theorem Names.ofText (h : Names k.toList s) :
    ofText (String.ofList s) = .ok [root, property k] := by
  have hreads := h.reads
  rwa [String.ofList_toList] at hreads

/-- The wildcard in brackets, and a segment for a name after it. -/
theorem Names.ofText_wildcard (h : Names k.toList s) :
    Fragment.ofText ("[*]" ++ String.ofList s) = .ok [root, wildcard, property k] := by
  have hwildcard : Fragment.ofText "[*]" = .ok [root, wildcard] := by decide +kernel
  refine ofText_append hwildcard h.ofText (by rintro c ⟨⟩; rfl) ?_
  rw [String.toList_ofList]
  exact h.head.imp_right fun hs => ⟨hs, by decide⟩

end Fragment

namespace CompiledPath

open Compiler (Compiles)
open Fragment (Names Seam)
open Unicode (isBlank)

variable {p k : String} {s t : List Char} {supplied : List Predicate} {config : Config}
  {head : CompiledPath}

/-- A compiled path goes on with fragments that take no predicates. -/
theorem compile_append_plain {q : String} {gs : List Fragment} {ts : List Step}
    (hhead : compile p supplied config = .ok head)
    (hblank : ∀ c, p.toList.getLast? = some c → isBlank c = false)
    (hdescent : head.fragments.getLast? ≠ some .descent) (hseam : Seam p q)
    (hq : Fragment.ofText q = .ok (.root :: gs))
    (hlength : (p ++ q).length ≤ config.maxPathLength.toNat)
    (hcount : head.fragments.length + gs.length ≤ config.maxFragments.toNat)
    (hgs : ∀ left, Compiles false gs left ts left) :
    compile (p ++ q) supplied config = .ok ⟨p ++ q, head.fragments ++ gs, head.steps ++ ts⟩ := by
  obtain ⟨-, -, hp, -⟩ := compile_eq_ok_iff.mp hhead
  obtain ⟨fs, hfs⟩ := Fragment.exists_root_of_ofText hp
  have hne : head.fragments ≠ [] := by
    rw [hfs]
    exact List.cons_ne_nil _ _
  have happend :=
    @compile_append p q supplied [] config head gs ts hhead hblank hseam hq hlength hcount
  rw [Compiler.endsInDescent_eq_false hne hdescent, List.append_nil, List.append_nil] at happend
  exact happend ⟨_, hgs _⟩

/-- **Where a path selects flat arrays, a name may follow it with the wildcard
or without**, and the same nodes are selected, in the same order. -/
theorem readList_projected (hhead : compile p supplied config = .ok head)
    (hblank : ∀ c, p.toList.getLast? = some c → isBlank c = false)
    (hdescent : head.fragments.getLast? ≠ some .descent) (hs : Names k.toList s)
    (ht : Names k.toList t) (hseam : Seam p (String.ofList s))
    (hlength : (p ++ String.ofList s).length ≤ config.maxPathLength.toNat)
    (hlength' : (p ++ ("[*]" ++ String.ofList t)).length ≤ config.maxPathLength.toNat)
    (hcount : head.fragments.length + 2 ≤ config.maxFragments.toNat) :
    ∃ projected expanded,
      compile (p ++ String.ofList s) supplied config = .ok projected ∧
      compile (p ++ ("[*]" ++ String.ofList t)) supplied config = .ok expanded ∧
      ∀ shelf document, (∀ v ∈ head.readList shelf document, v.Flat) →
        projected.readList shelf document = expanded.readList shelf document := by
  have hseam' : Seam p ("[*]" ++ String.ofList t) := by
    refine .inl ?_
    rw [String.toList_append]
    rfl
  have hprojected := compile_append_plain hhead hblank hdescent hseam hs.ofText hlength
    (Nat.le_of_succ_le hcount) fun left => .plain rfl .nil
  have hexpanded :=
    compile_append_plain hhead hblank hdescent hseam' ht.ofText_wildcard hlength' hcount
    fun left => .plain rfl (.plain rfl .nil)
  refine ⟨_, _, hprojected, hexpanded, fun shelf document hflat => ?_⟩
  rw [readList_append_steps, readList_append_steps]
  refine List.flatMap_congr fun v hv => ?_
  rw [Step.nodesAfter_singleton, Step.nodesAfter_pair]
  exact Value.project_of_flat (hflat v hv)

/-- Arrays of which one is empty and one holds scalars, null and objects without
the name, selected with a predicate to spare. -/
theorem readList_projected_rows :
    ∃ (has : String → Predicate) (document : Value) (head projected expanded : CompiledPath),
      (has = fun key => .criterion ⟨key, .present true⟩) ∧
      document = .array [.object [("rows", .array [.object [("k", .int 1)], .null, .string "k",
        .object [("j", .int 2)], .object [("k", .null)]])], .object [("rows", .array [])], .null,
        .object [("rows", .array [.object [("k", .array [.int 3])]])]] ∧
      compile "$[?].rows" [has "rows", has "k"] {} = .ok head ∧
      (∀ v ∈ head.readList {} document, v.Flat) ∧
      compile ("$[?].rows" ++ "[ \"k\"]") [has "rows", has "k"] {} = .ok projected ∧
      compile ("$[?].rows" ++ ("[*]" ++ ".'k'")) [has "rows", has "k"] {} = .ok expanded ∧
      projected.readList {} document = expanded.readList {} document ∧
      expanded.readList {} document = [.int 1, .null, .array [.int 3]] := by
  let has : String → Predicate := fun key => .criterion ⟨key, .present true⟩
  let first : List Value :=
    [.object [("k", .int 1)], .null, .string "k", .object [("j", .int 2)], .object [("k", .null)]]
  let last : List Value := [.object [("k", .array [.int 3])]]
  let document : Value :=
    .array [.object [("rows", .array first)], .object [("rows", .array [])], .null,
    .object [("rows", .array last)]]
  let head : CompiledPath := ⟨"$[?].rows", [.root, .placeholder, .property "rows"],
    [.root, .predicate (has "rows") true, .property "rows" true]⟩
  have hhead : compile "$[?].rows" [has "rows", has "k"] {} = .ok head :=
    compile_eq_ok_iff.mpr ⟨rfl, by decide, by decide +kernel, by decide,
      ⟨_, .plain rfl (.placeholder (.plain rfl .nil))⟩, rfl⟩
  have hread : head.readList {} document = [.array first, .array [], .array last] := rfl
  have hflat : ∀ v ∈ head.readList {} document, v.Flat := by
    rw [hread]
    simp [Value.Flat, first, last, Value.kind]
  have hbracket : Names "k".toList "[ \"k\"]".toList :=
    @Names.bracket _ '"' [' '] [] rfl (by simp [Unicode.Blanks, isBlank]) Unicode.blanks_nil
  have hquoted : Names "k".toList ".'k'".toList := @Names.quoted _ '\'' rfl
  have hexpanded : compile ("$[?].rows" ++ ("[*]" ++ ".'k'")) [has "rows", has "k"] {} =
      .ok ⟨_, [.root, .placeholder, .property "rows", .wildcard, .property "k"],
        [.root, .predicate (has "rows") true, .property "rows" true, .wildcard,
          .property "k" true]⟩ :=
    compile_eq_ok_iff.mpr ⟨rfl, by decide, by decide +kernel, by decide,
      ⟨_, .plain rfl (.placeholder (.plain rfl (.plain rfl (.plain rfl .nil))))⟩, rfl⟩
  obtain ⟨projected, expanded, hprojected, hexpanded', hsame⟩ :=
    readList_projected hhead (by rintro c ⟨⟩; rfl) (by decide) hbracket hquoted
      (.inl (by decide)) (by decide) (by decide) (by decide)
  rw [String.ofList_toList] at hprojected hexpanded'
  rw [hexpanded] at hexpanded'
  cases hexpanded'
  exact ⟨has, document, head, projected, _, rfl, rfl, hhead, hflat, hprojected, hexpanded,
    hsame {} document hflat, rfl⟩

end CompiledPath

end DocPath

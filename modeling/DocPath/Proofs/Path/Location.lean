import DocPath.Proofs.Path.Compilation
import DocPath.Proofs.Path.Evaluation
import DocPath.Proofs.Path.Rendering

/-! # Locations

The location of a node is the row of keys and places on the way down to it.
`Leads` says which fragments write it; the path that they render to is definite,
and a single read of it gives the node that they lead to. -/

namespace DocPath

/-- An index means the same element from either side: counted from the start, or
less the length, from the end. -/
theorem Value.getIndex?_eq_some {items : List Value} {i : Nat} {n : Int64} {v : Value}
    (hi : items[i]? = some v) (hn : n.toInt = i ∨ n.toInt = i - items.length) :
    (array items).getIndex? n = some v := by
  have hlt : i < items.length := (List.getElem?_eq_some_iff.mp hi).1
  have hplace : place items.length n.toInt = i := by
    unfold place
    rcases hn with hn | hn <;> split <;> omega
  show (if place items.length n.toInt < 0 then none else
    items[(place items.length n.toInt).toNat]?) = _
  rw [hplace, if_neg (by omega)]
  exact hi

/-- Fragments that lead from a node down to another one, by what objects store
under keys and by the elements of arrays.  An element is counted from the start
of its array, or from the end. -/
inductive Leads : Value → List Fragment → Value → Prop
  | here {v : Value} : Leads v [] v
  | key {entries : List (String × Value)} {name : String} {v w : Value} {fs : List Fragment} :
      entries.lookup name = some v → Leads v fs w →
        Leads (.object entries) (.property name :: fs) w
  | element {items : List Value} {i : Nat} {n : Int64} {v w : Value} {fs : List Fragment} :
      items[i]? = some v → n.toInt = i ∨ n.toInt = i - items.length → Leads v fs w →
        Leads (.array items) (.index n :: fs) w

namespace Leads

open Compiler (Compiles)

variable {v w node document : Value} {fs : List Fragment} {config : Config}

theorem fits (h : Leads v fs w) : ∀ f ∈ fs, f.Fits := by
  induction h with
  | here => exact fun _ hf => by cases hf
  | key _ _ ih | element _ _ _ ih => exact List.forall_mem_cons.mpr ⟨trivial, ih⟩

theorem isDefinite (h : Leads v fs w) : fs.all (·.isDefinite) = true := by
  induction h with
  | here => rfl
  | key _ _ ih | element _ _ _ ih => exact ih

/-- There is no descent on the way, let alone two. -/
theorem chain (h : Leads v fs w) :
    fs.IsChain fun f g => ¬ (f = .descent ∧ g = .descent) := by
  induction h with
  | here => exact .nil
  | key _ _ ih | element _ _ _ ih => exact ih.cons fun _ _ h => by cases h.1

theorem wellFormed (h : Leads v fs w) : Fragment.WellFormed (.root :: fs) :=
  ⟨fs, rfl, h.fits, h.chain⟩

/-- Every step on the way selects the one node that it leads to, as it is a name
of an object or an index of an array. -/
theorem exists_steps (h : Leads v fs w) (shelf : Shelf) :
    ∃ ss, Compiles false fs [] ss [] ∧ Step.nodesAfter shelf ss [v] = [w] := by
  induction h with
  | here => exact ⟨[], .nil, rfl⟩
  | @key entries name v w fs hv _ ih =>
    obtain ⟨ss, hss, hnodes⟩ := ih
    -- the step would look into arrays, but the node here is an object
    have hone : (Step.property name true).nodes shelf (.object entries) = [v] := by
      show (entries.lookup name).toList = _
      rw [hv]
      rfl
    exact ⟨.property name true :: ss, .plain rfl hss, by simp [hone, hnodes]⟩
  | @element items i n v w fs hi hn _ ih =>
    obtain ⟨ss, hss, hnodes⟩ := ih
    have hone : (Step.index n).nodes shelf (.array items) = [v] := by
      show ((Value.array items).getIndex? n).toList = _
      rw [Value.getIndex?_eq_some hi hn]
      rfl
    exact ⟨.index n :: ss, .plain rfl hss, by simp [hone, hnodes]⟩

/-- **A single read of a location gives the node there**, null or not.  Keys may
hold any characters, and elements count from either end of their arrays. -/
theorem read_render (shelf : Shelf) (h : Leads document fs node)
    (hvalid : config.validate = .ok ())
    (hlength : (Fragment.render (.root :: fs)).length ≤ config.maxPathLength.toNat)
    (hcount : fs.length + 1 ≤ config.maxFragments.toNat) :
    ∃ path, CompiledPath.compile (Fragment.render (.root :: fs)) [] config = .ok path ∧
      path.isDefinite = true ∧ path.read shelf document .single = .ok (.single node) := by
  obtain ⟨ss, hss, hnodes⟩ := h.exists_steps shelf
  refine ⟨⟨Fragment.render (.root :: fs), .root :: fs, .root :: ss⟩, ?_, ?_, ?_⟩
  · exact CompiledPath.compile_eq_ok_iff.mpr ⟨hvalid, hlength,
      Fragment.ofText_render_of_wellFormed h.wellFormed, hcount, ⟨[], .plain rfl hss⟩, rfl⟩
  · exact h.isDefinite
  · rw [CompiledPath.read_single_eq_ok_iff, CompiledPath.readList_eq_nodesAfter]
    exact hnodes

/-- The null below a key that holds quotes, brackets and a backslash, in the
last element of an array. -/
theorem read_render_null :
    ∃ path, CompiledPath.compile "$['it\\'s [\\\\]'][-1]['']" [] {} = .ok path ∧
      path.isDefinite = true ∧
        path.read {} (.object [("it's [\\]", .array [.int 1, .object [("", .null)]])]) .single =
          .ok (.single .null) := by
  have hlead : Leads (.object [("it's [\\]", .array [.int 1, .object [("", .null)]])])
      [.property "it's [\\]", .index (-1), .property ""] .null :=
    .key rfl (.element (i := 1) rfl (.inr (by decide)) (.key rfl .here))
  have hrender : Fragment.render [.root, .property "it's [\\]", .index (-1), .property ""] =
      "$['it\\'s [\\\\]'][-1]['']" := by
    decide +kernel
  rw [← hrender]
  exact hlead.read_render {} rfl (by rw [hrender]; decide) (by decide)

end Leads

end DocPath

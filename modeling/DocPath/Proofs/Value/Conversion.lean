import DocPath.Proofs.Number.Integer
import DocPath.Proofs.Value.Tree
import DocPath.Value.Conversion

/-! # Trees and back

A JSON tree whose integers have 64 bits, whose floating point numbers are finite
and whose objects list their entries in the order of the keys is `Proper`.  The
document of a proper tree has the tree again as its JSON tree (`toTree_ofTree`),
and at each location it has the document of what the tree has there
(`at?_ofTree`). -/

namespace DocPath

namespace Json.Tree

/-- A tree as it is held for a JSON text without integers of more than 64
bits. -/
inductive Proper : Tree → Prop
  | null : Proper .null
  | bool (b : Bool) : Proper (.bool b)
  | integer (n : Int64) : Proper (.integer n.toInt)
  | float {x : Binary64} : x.isFinite = true → Proper (.float x)
  | string (s : String) : Proper (.string s)
  | array {items : List Tree} : (∀ t ∈ items, Proper t) → Proper (.array items)
  | object {entries : List (String × Tree)} :
      entries.Pairwise (fun e f => e.1 < f.1) → (∀ e ∈ entries, Proper e.2) →
        Proper (.object entries)

/-- The elements of an array or the values of an object, in order.  Keys do not
show in them, so a location leads through trees and documents alike. -/
def children : Tree → List Tree
  | array items => items
  | object entries => entries.map (·.2)
  | _ => []

/-- The subtree that is reached by the positions of the children on the way
down. -/
def at? : Tree → List Nat → Option Tree
  | t, [] => some t
  | t, i :: location => t.children[i]?.bind (·.at? location)

variable {t s : Tree}

theorem Proper.of_mem_children (h : t.Proper) (hs : s ∈ t.children) : s.Proper := by
  cases h with
  | array hitems => exact hitems s hs
  | object _ hentries =>
    obtain ⟨e, he, rfl⟩ := List.mem_map.mp hs
    exact hentries e he
  | _ => cases hs

/-- All trees in a proper tree are proper. -/
theorem Proper.of_at? {location : List Nat} (h : t.Proper) (hs : t.at? location = some s) :
    s.Proper := by
  induction location generalizing t with
  | nil =>
    cases hs
    exact h
  | cons i location ih =>
    obtain ⟨c, hc, hs⟩ := Option.bind_eq_some_iff.mp hs
    exact ih (h.of_mem_children (List.mem_of_getElem? hc)) hs

/-! ## Objects in the order of their keys -/

/-- A key that is greater than all others is put at the end. -/
theorem insertSorted_after {entries : List (String × Tree)} {key : String} {t : Tree}
    (h : ∀ e ∈ entries, e.1 < key) : insertSorted key t entries = entries ++ [(key, t)] := by
  induction entries with
  | nil => rfl
  | cons e rest ih =>
    obtain ⟨he, hrest⟩ := List.forall_mem_cons.mp h
    have hnot : ¬ key < e.1 := String.lt_asymm he
    have hne : e.1 ≠ key := fun heq => String.lt_irrefl _ (heq ▸ he)
    rw [insertSorted, if_neg hnot, if_neg hne, ih hrest, List.cons_append]

/-- Entries that are stored in the order of their keys stay in their places,
since each key is greater than those before it. -/
theorem foldl_insertSorted {entries stored : List (String × Tree)}
    (h : (stored ++ entries).Pairwise fun e f => e.1 < f.1) :
    entries.foldl (fun es e => insertSorted e.1 e.2 es) stored = stored ++ entries := by
  induction entries generalizing stored with
  | nil => rw [List.foldl_nil, List.append_nil]
  | cons e rest ih =>
    have hbefore : ∀ f ∈ stored, f.1 < e.1 := fun f hf =>
      (List.pairwise_append.mp h).2.2 f hf e List.mem_cons_self
    rw [List.append_cons] at h
    rw [List.foldl_cons, insertSorted_after hbefore, ih h, List.append_assoc]
    rfl

/-- Entries in the order of their keys make an object of these entries. -/
theorem ofEntries_eq_object {entries : List (String × Tree)}
    (h : entries.Pairwise fun e f => e.1 < f.1) : ofEntries entries = object entries := by
  rw [ofEntries, foldl_insertSorted (by rwa [List.nil_append]), List.nil_append]

end Json.Tree

namespace Value

open Json (Tree)

variable {t : Tree}

theorem ofTrees_eq (items : List Tree) : ofTrees items = items.map ofTree := by
  induction items with
  | nil => rfl
  | cons t rest ih => rw [ofTrees, ih, List.map_cons]

theorem ofTreeEntries_eq (entries : List (String × Tree)) :
    ofTreeEntries entries = entries.map fun e => (e.1, ofTree e.2) := by
  induction entries with
  | nil => rfl
  | cons e rest ih => rw [ofTreeEntries, ih, List.map_cons]

theorem toTrees_eq (items : List Value) : toTrees items = items.map toTree := by
  induction items with
  | nil => rfl
  | cons v rest ih => rw [toTrees, ih, List.map_cons]

theorem toTreeEntries_eq (entries : List (String × Value)) :
    toTreeEntries entries = entries.map fun e => (e.1, toTree e.2) := by
  induction entries with
  | nil => rfl
  | cons e rest ih => rw [toTreeEntries, ih, List.map_cons]

/-- An integer of 64 bits stays what it is, also where it is held in 32 bits. -/
theorem toTree_ofInteger (n : Int64) : (ofInteger n.toInt).toTree = .integer n.toInt := by
  rw [ofInteger]
  split
  · next k hk => rw [toTree, int32OfInt?_eq_some_iff.mp hk]
  · rw [int64OfInt?_eq_some_iff.mpr rfl]
    rfl

/-- **A tree comes back from its document**, if its objects have their keys in
order, as the trees that are read do. -/
theorem toTree_ofTree (h : t.Proper) : (ofTree t).toTree = t := by
  induction h with
  | null | bool b | string s => rfl
  | integer n => exact toTree_ofInteger n
  | float hx => exact if_pos hx
  | @array items _ ih =>
    have hitems : items.map (toTree ∘ ofTree) = items :=
      (List.map_congr_left ih).trans (List.map_id _)
    rw [ofTree, toTree, ofTrees_eq, toTrees_eq, List.map_map, hitems]
  | @object entries hsorted _ ih =>
    have hentries : entries.map (fun e => (e.1, (ofTree e.2).toTree)) = entries := by
      have hsame : ∀ e ∈ entries, (e.1, (ofTree e.2).toTree) = id e := fun e he =>
        Prod.ext rfl (ih e he)
      exact (List.map_congr_left hsame).trans (List.map_id _)
    rw [ofTree, toTree, ofTreeEntries_eq, toTreeEntries_eq, List.map_map]
    show Tree.ofEntries (entries.map fun e => (e.1, (ofTree e.2).toTree)) = _
    rw [hentries, Tree.ofEntries_eq_object hsorted]

/-- The children of a converted tree are the converted children, in the same
order. -/
theorem children_ofTree (t : Tree) : (ofTree t).children = t.children.map ofTree := by
  cases t with
  | array items => exact ofTrees_eq items
  | object entries =>
    rw [ofTree, ofTreeEntries_eq]
    show (entries.map _).map _ = (entries.map _).map _
    rw [List.map_map, List.map_map]
    rfl
  | integer n =>
    rw [ofTree, ofInteger]
    split
    · rfl
    · split <;> rfl
  | _ => rfl

/-- Under a key a document has the document of what the tree has there. -/
theorem get?_ofTree (entries : List (String × Tree)) (key : String) :
    (ofTree (.object entries)).get? key = (entries.lookup key).map ofTree := by
  show (ofTreeEntries entries).lookup key = (entries.lookup key).map ofTree
  induction entries with
  | nil => rfl
  | cons e rest ih =>
    rw [ofTreeEntries, List.lookup_cons, List.lookup_cons]
    split
    · rfl
    · exact ih

/-- What a document has at a location is the document of what the tree has
there. -/
theorem at?_ofTree (t : Tree) (location : List Nat) :
    (ofTree t).at? location = (t.at? location).map ofTree := by
  induction location generalizing t with
  | nil => rw [at?_nil, Tree.at?, Option.map_some]
  | cons i location ih =>
    rw [at?_cons, children_ofTree, List.getElem?_map, Tree.at?]
    cases t.children[i]? with
    | none => rfl
    | some c => exact ih c

end Value

end DocPath

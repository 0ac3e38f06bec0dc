import DocPath.Proofs.Value.Conversion
import Mathlib.Algebra.Group.Int.Defs

/-! # Trees kind by kind

A document is made from a JSON tree in two ways: at once, by what the tree is
(`Value.ofTree`), and by trying the kinds of nodes one after the other until the
tree fits one (`Value.decode?`).  Which numbers fit a kind is said for each kind
by itself, and the first that a number fits is the one that `ofTree` chooses by
ranges.  So both ways lead to the same document (`Value.decode?_eq_ofTree`), if
no object of the tree lists a key twice. -/

namespace DocPath

namespace Json.Tree

/-- A tree as it is held, whatever its numbers and the order of its entries: no
object lists a key twice. -/
inductive DistinctKeys : Tree → Prop
  | null : DistinctKeys .null
  | bool (b : Bool) : DistinctKeys (.bool b)
  | integer (n : Int) : DistinctKeys (.integer n)
  | float (x : Binary64) : DistinctKeys (.float x)
  | string (s : String) : DistinctKeys (.string s)
  | array {items : List Tree} : (∀ t ∈ items, DistinctKeys t) → DistinctKeys (.array items)
  | object {entries : List (String × Tree)} :
      (entries.map (·.1)).Nodup → (∀ e ∈ entries, DistinctKeys e.2) → DistinctKeys (.object entries)

end Json.Tree

/-- The kinds in the order in which they are tried.  Integers come before
floating point numbers, and the narrow ones before the wide ones. -/
def Kind.order : List Kind := [.null, .bool, .int, .long, .double, .string, .array, .object]

namespace Value

open Json (Tree)

/-- The document of a kind that a tree fits.  For the kinds with parts all parts
have to fit some kind in turn. -/
def decodeAs? (t : Tree) : Kind → Option Value
  | .null => match t with | .null => some null | _ => none
  | .bool => match t with | .bool b => some (bool b) | _ => none
  | .int => (decodeInt? t).map int
  | .long => (decodeLong? t).map long
  | .double => (decodeDouble? t).map double
  | .string => match t with | .string s => some (string s) | _ => none
  | .array => match t with | .array items => (decodeItems? items).map array | _ => none
  | .object => match t with | .object entries => (decodeEntries? entries []).map object | _ => none

variable {t : Tree} {n : Int}

/-- What is decoded is of the first kind in the order that the tree fits. -/
theorem decode?_eq_findSome? (t : Tree) : decode? t = Kind.order.findSome? (decodeAs? t) := by
  cases t with
  | integer n =>
    show decodeScalar? (.integer n) = _
    simp only [decodeScalar?, Kind.order, List.findSome?_cons, decodeAs?]
    cases decodeInt? (.integer n) <;> cases decodeLong? (.integer n) <;> rfl
  | array items =>
    show (decodeItems? items).map array = _
    simp only [Kind.order, List.findSome?_cons, decodeAs?]
    cases decodeItems? items <;> rfl
  | object entries =>
    show (decodeEntries? entries []).map object = _
    simp only [Kind.order, List.findSome?_cons, decodeAs?]
    cases decodeEntries? entries [] <;> rfl
  | _ => rfl

/-! ## Numbers -/

theorem decode?_integer (n : Int) : decode? (.integer n) = some (ofInteger n) := by
  show decodeScalar? (.integer n) = _
  simp only [decodeScalar?, decodeInt?, decodeLong?, decodeDouble?, ofInteger]
  cases int32OfInt? n <;> cases int64OfInt? n <;> rfl

/-- The kind of a number by its value. -/
theorem kind_ofInteger (n : Int) :
    (ofInteger n).kind = if -2 ^ 31 ≤ n ∧ n < 2 ^ 31 then .int
      else if -2 ^ 63 ≤ n ∧ n < 2 ^ 63 then .long else .double := by
  have h32 : Int32.minValue.toInt = -2 ^ 31 ∧ Int32.maxValue.toInt = 2 ^ 31 - 1 := ⟨rfl, rfl⟩
  have h64 : Int64.minValue.toInt = -2 ^ 63 ∧ Int64.maxValue.toInt = 2 ^ 63 - 1 := ⟨rfl, rfl⟩
  unfold ofInteger int32OfInt? int64OfInt?
  rw [h32.1, h32.2, h64.1, h64.2]
  by_cases hnarrow : -2 ^ 31 ≤ n ∧ n < 2 ^ 31
  · rw [if_pos hnarrow, if_pos (by omega)]
    rfl
  · rw [if_neg hnarrow, if_neg (by omega)]
    by_cases hwide : -2 ^ 63 ≤ n ∧ n < 2 ^ 63
    · rw [if_pos hwide, if_pos (by omega)]
      rfl
    · rw [if_neg hwide, if_neg (by omega)]
      rfl

/-! ## Entries -/

/-- An entry under a new key comes after the others. -/
theorem insertEntry_absent {α : Type} {key : String} {v : α} {stored : List (String × α)}
    (h : key ∉ stored.map (·.1)) : insertEntry key v stored = stored ++ [(key, v)] := by
  induction stored with
  | nil => rfl
  | cons e rest ih =>
    rw [List.map_cons, List.mem_cons, not_or] at h
    rw [insertEntry, if_neg (Ne.symm h.1), ih h.2, List.cons_append]

theorem decodeItems?_eq {items : List Tree} (h : ∀ t ∈ items, decode? t = some (ofTree t)) :
    decodeItems? items = some (items.map ofTree) := by
  induction items with
  | nil => rfl
  | cons t rest ih =>
    obtain ⟨ht, hrest⟩ := List.forall_mem_cons.mp h
    rw [decodeItems?, ht, ih hrest]
    rfl

/-- Entries with keys of their own are stored in their order, after those that
have been stored before. -/
theorem decodeEntries?_eq {entries : List (String × Tree)} {stored : List (String × Value)}
    (hkeys : (stored.map (·.1) ++ entries.map (·.1)).Nodup)
    (h : ∀ e ∈ entries, decode? e.2 = some (ofTree e.2)) :
    decodeEntries? entries stored = some (stored ++ entries.map fun e => (e.1, ofTree e.2)) := by
  induction entries generalizing stored with
  | nil => simp [decodeEntries?]
  | cons e rest ih =>
    obtain ⟨he, hrest⟩ := List.forall_mem_cons.mp h
    have habsent : e.1 ∉ stored.map (·.1) := fun hmem =>
      (List.nodup_append.mp hkeys).2.2 _ hmem _ List.mem_cons_self rfl
    have hstored : ((stored ++ [(e.1, ofTree e.2)]).map (·.1) ++ rest.map (·.1)).Nodup := by
      simpa using hkeys
    rw [decodeEntries?, he]
    show decodeEntries? rest (insertEntry e.1 (ofTree e.2) stored) = _
    rw [insertEntry_absent habsent, ih hstored hrest, List.append_assoc]
    rfl

/-! ## Trees -/

theorem decode?_eq_some_ofTree (h : t.DistinctKeys) : decode? t = some (ofTree t) := by
  induction h with
  | null | bool b | float x | string s => rfl
  | integer n => exact decode?_integer n
  | array _ ih =>
    rw [decode?, decodeItems?_eq ih, ofTree, ofTrees_eq]
    rfl
  | object hkeys _ ih =>
    rw [decode?, decodeEntries?_eq (by simpa using hkeys) ih, ofTree, ofTreeEntries_eq]
    rfl

/-- **Trying the kinds one after the other makes the document that is made at
once**, kinds and order of entries included, whatever the size of the integers
and however deep they stand: 32 bits where they do, then 64 bits, and a floating
point number beyond. -/
theorem decode?_eq_ofTree (h : t.DistinctKeys) :
    decode? t = some (ofTree t) ∧ Kind.order.findSome? (decodeAs? t) = some (ofTree t) ∧
      ∀ location n, t.at? location = some (.integer n) →
        ((ofTree t).at? location).map kind = some (if -2 ^ 31 ≤ n ∧ n < 2 ^ 31 then .int
          else if -2 ^ 63 ≤ n ∧ n < 2 ^ 63 then .long else .double) := by
  have hdecode := decode?_eq_some_ofTree h
  refine ⟨hdecode, by rw [← decode?_eq_findSome?, hdecode], fun location n hn => ?_⟩
  rw [at?_ofTree, hn, Option.map_some, Option.map_some, ofTree, kind_ofInteger]

/-- Numbers on either side of each bound, below an object whose keys are out of
order. -/
theorem decode?_eq_ofTree_bounds :
    ∃ t : Tree, t = .object
        [("b", .array [.integer 2147483647, .integer 2147483648, .float Binary64.negativeZero]),
          ("a", .object [("", .integer (-9223372036854775808)),
            ("u", .integer 18446744073709551615)])] ∧
      t.DistinctKeys ∧
      decode? t = some (.object
        [("b", .array [.int 2147483647, .long 2147483648, .double Binary64.negativeZero]),
          ("a", .object [("", .long (-9223372036854775808)),
            ("u", .double (.ofInt 18446744073709551615))])]) ∧
      ((ofTree t).at? [1, 1]).map kind = some .double := by
  have hkeys : Tree.DistinctKeys (.object
      [("b", .array [.integer 2147483647, .integer 2147483648, .float Binary64.negativeZero]),
        ("a", .object [("", .integer (-9223372036854775808)),
          ("u", .integer 18446744073709551615)])]) := by
    refine .object (by decide) ?_
    simp only [List.forall_mem_cons, List.not_mem_nil, false_implies, implies_true, and_true]
    refine ⟨.array ?_, .object (by decide) ?_⟩
    · simp only [List.forall_mem_cons, List.not_mem_nil, false_implies, implies_true, and_true]
      exact ⟨.integer _, .integer _, .float _⟩
    · simp only [List.forall_mem_cons, List.not_mem_nil, false_implies, implies_true, and_true]
      exact ⟨.integer _, .integer _⟩
  obtain ⟨hdecode, -, hkind⟩ := decode?_eq_ofTree hkeys
  exact ⟨_, rfl, hkeys, hdecode.trans rfl, (hkind [1, 1] 18446744073709551615 rfl).trans rfl⟩

end Value
end DocPath

import DocPath.Proofs.Path.Evaluation
import Mathlib.Data.Int.Range
import Mathlib.Data.List.Basic

/-! # Slices and indices

A slice puts its bounds into the array that it is taken from, and an index out
of an array means no element.  Both come to the same: a run of places is
selected as far as it lies in the array (`filterMap_item?`).  So a slice selects
what the row of its indices selects, and two slices that meet make up the array
(`Step.nodes_slice`). -/

namespace DocPath

namespace Slice

/-! ## Runs of places -/

/-- The element at a place of a row, if the place lies in it.  Places are
integers here, so that one before the row can be spoken of. -/
def item? {α : Type} (items : List α) (p : Int) : Option α :=
  if p < 0 then none else items[p.toNat]?

/-- The place in a row of `length` elements, or at its end, that is nearest to
`p`. -/
def nearest (length : Nat) (p : Int) : Nat := (max 0 (min p length)).toNat

section Places

variable {α : Type} {items : List α} {p q : Int} {n : Nat}

theorem drop_nearest_of_le (h : q ≤ p) :
    (items.take (nearest items.length q)).drop (nearest items.length p) = [] := by
  refine List.drop_eq_nil_of_le ?_
  rw [List.length_take]
  unfold nearest
  omega

/-- A run that is one place longer has one element more, if that place lies in
the row. -/
theorem drop_nearest_succ (h : p ≤ q) :
    (items.take (nearest items.length (q + 1))).drop (nearest items.length p) =
      (items.take (nearest items.length q)).drop (nearest items.length p) ++
        (item? items q).toList := by
  -- the place lies before the row, in it, or past its end
  by_cases hneg : q < 0
  · have hzero : nearest items.length (q + 1) = 0 ∧ nearest items.length q = 0 := by
      unfold nearest
      omega
    rw [hzero.1, hzero.2, item?, if_pos hneg]
    simp
  · rw [item?, if_neg hneg]
    by_cases hlen : q < items.length
    · have hplace : nearest items.length (q + 1) = q.toNat + 1 ∧
          nearest items.length q = q.toNat := by
        unfold nearest
        omega
      have hfirst : nearest items.length p ≤ (items.take q.toNat).length := by
        rw [List.length_take]
        unfold nearest
        omega
      rw [hplace.1, hplace.2, List.take_add_one, List.drop_append_of_le_length hfirst]
    · have hend : nearest items.length (q + 1) = items.length ∧
          nearest items.length q = items.length := by
        unfold nearest
        omega
      have hnone : items[q.toNat]? = none := List.getElem?_eq_none (by omega)
      rw [hend.1, hend.2, hnone]
      simp

/-- The elements of a run of places are those between its ends, as far as the
row goes.  Places before the row and after it have no element. -/
theorem filterMap_item? (items : List α) (p : Int) (n : Nat) :
    (List.range n).filterMap (fun i : Nat => item? items (p + i)) =
      (items.take (nearest items.length (p + n))).drop (nearest items.length p) := by
  induction n with
  | zero => exact (drop_nearest_of_le (by omega)).symm
  | succ n ih =>
    have hone :
        ([n].filterMap fun i : Nat => item? items (p + i)) = (item? items (p + n)).toList := by
      cases h : item? items (p + n) <;> simp [h]
    rw [List.range_succ, List.filterMap_append, ih, hone, Int.natCast_succ, ← Int.add_assoc,
      drop_nearest_succ (by omega)]

end Places

/-! ## Rows of indices -/

/-- The indices from one up to another, one after the other, without the last
one. -/
def indices (a b : Int64) : List Int64 := (Int.range a.toInt b.toInt).map Int64.ofInt

/-- No index on the way overflows, as all of them lie between two words. -/
theorem map_toInt_indices (a b : Int64) :
    (indices a b).map Int64.toInt = Int.range a.toInt b.toInt := by
  rw [indices, List.map_map, List.map_congr_left, List.map_id]
  intro i hi
  have hi := Int.mem_range_iff.mp hi
  have hlow := a.le_toInt
  have hhigh := b.toInt_lt
  exact Int64.toInt_ofInt_of_le (by omega) (by omega)

theorem indices_eq_nil {a b : Int64} (h : b ≤ a) : indices a b = [] := by
  have hle := Int64.le_iff_toInt_le.mp h
  rw [indices, Int.range, Int.toNat_of_nonpos (by omega)]
  rfl

end Slice

namespace Value

open Slice (item? nearest)

variable {items : List Value} {a b : Int64} {shift : Int}

/-- Indices that all count from the same end select a run of elements. -/
theorem filterMap_getIndex?
    (hplace : ∀ i, a.toInt ≤ i → i < b.toInt → place items.length i = shift + i) :
    (Slice.indices a b).filterMap (array items).getIndex? =
      (items.take (nearest items.length (shift + b.toInt))).drop
        (nearest items.length (shift + a.toInt)) := by
  have hitems : (Slice.indices a b).filterMap (array items).getIndex? =
      (Int.range a.toInt b.toInt).filterMap fun i => item? items (shift + i) := by
    rw [← Slice.map_toInt_indices, List.filterMap_map]
    refine List.filterMap_congr fun n hn => ?_
    have hn := List.mem_map_of_mem (f := Int64.toInt) hn
    rw [Slice.map_toInt_indices, Int.mem_range_iff] at hn
    show item? items (place items.length n.toInt) = _
    rw [hplace _ hn.1 hn.2]
    rfl
  rw [hitems, Int.range, List.filterMap_map]
  by_cases hle : a.toInt ≤ b.toInt
  · have hend : shift + b.toInt = shift + a.toInt + ((b.toInt - a.toInt).toNat : Int) := by omega
    rw [hend, ← Slice.filterMap_item?]
    refine List.filterMap_congr fun i _ => ?_
    rw [Function.comp_apply, Int.add_assoc]
  · rw [Slice.drop_nearest_of_le (by omega), Int.toNat_of_nonpos (by omega)]
    rfl

/-- Whether each element of a node has an index.  An array with more elements
does not fit into memory. -/
def Indexable (v : Value) : Prop :=
  ∀ items, v = array items → (items.length : Int) ≤ Int64.maxValue.toInt

/-! ## Bounds of slices -/

/-- A bound that counts from the start is put between the ends of the array
itself. -/
theorem clamp_of_nonneg (ha : 0 ≤ a.toInt) :
    Slice.clamp (min items.length Int64.maxValue.toInt) a.toInt = nearest items.length a.toInt := by
  have hmax := a.toInt_le
  unfold Slice.clamp Value.place nearest
  rw [if_neg (by omega)]
  omega

/-- A bound that counts from the end is put between the ends of an array of
which each element has an index. -/
theorem clamp_of_neg (hitems : (items.length : Int) ≤ Int64.maxValue.toInt) (ha : a.toInt < 0) :
    Slice.clamp (min items.length Int64.maxValue.toInt) a.toInt =
      nearest items.length (items.length + a.toInt) := by
  unfold Slice.clamp Value.place nearest
  rw [if_pos ha, Int.min_eq_left hitems, Int.toNat_natCast]

/-! ## Slices of arrays -/

theorem slice_of_nonneg (ha : 0 ≤ a.toInt) (hb : 0 ≤ b.toInt) :
    (array items).slice (some a) (some b) =
      (Slice.indices a b).filterMap (array items).getIndex? := by
  have hplace : ∀ i, a.toInt ≤ i → i < b.toInt → place items.length i = 0 + i := by
    intro i hi _
    rw [place, if_neg (by omega), Int.zero_add]
  rw [filterMap_getIndex? hplace, Int.zero_add, Int.zero_add, ← clamp_of_nonneg ha,
    ← clamp_of_nonneg hb]
  rfl

/-- Negative indices count from the end, all of them alike. -/
theorem filterMap_getIndex?_of_neg (hb : b.toInt ≤ 0) :
    (Slice.indices a b).filterMap (array items).getIndex? =
      (items.take (nearest items.length (items.length + b.toInt))).drop
        (nearest items.length (items.length + a.toInt)) := by
  refine filterMap_getIndex? fun i _ hi => ?_
  rw [place, if_pos (by omega)]

theorem slice_of_neg (hitems : (items.length : Int) ≤ Int64.maxValue.toInt) (ha : a.toInt < 0)
    (hb : b.toInt < 0) :
    (array items).slice (some a) (some b) =
      (Slice.indices a b).filterMap (array items).getIndex? := by
  rw [filterMap_getIndex?_of_neg (by omega), ← clamp_of_neg hitems ha, ← clamp_of_neg hitems hb]
  rfl

theorem slice_to_end (hitems : (items.length : Int) ≤ Int64.maxValue.toInt) (ha : a.toInt < 0) :
    (array items).slice (some a) none = (Slice.indices a 0).filterMap (array items).getIndex? := by
  have hend : nearest items.length (items.length + (0 : Int64).toInt) = items.length := by
    show nearest items.length (items.length + 0) = items.length
    unfold nearest
    omega
  rw [filterMap_getIndex?_of_neg (by decide), hend, ← clamp_of_neg hitems ha]
  rfl

/-- A slice up to a bound and the slice from there on make up the array,
wherever the bound lies. -/
theorem slice_append_slice (k : Int64) :
    (array items).slice none (some k) ++ (array items).slice (some k) none = items := by
  show (items.take _).drop 0 ++ (items.take items.length).drop _ = items
  rw [List.drop_zero, List.take_length]
  exact List.take_append_drop _ _

theorem slice_none_none : (array items).slice none none = items := by
  show (items.take items.length).drop 0 = items
  rw [List.drop_zero, List.take_length]

/-! ## Nodes that are no arrays -/

theorem kind_eq_array_iff {v : Value} : v.kind = .array ↔ ∃ items, v = array items := by
  cases v <;> simp [kind]

theorem slice_eq_nil {v : Value} (h : v.kind ≠ .array) (start stop : Option Int64) :
    v.slice start stop = [] := by
  cases v with
  | array items => exact absurd rfl h
  | _ => rfl

theorem filterMap_getIndex?_eq_nil {v : Value} (h : v.kind ≠ .array) (ns : List Int64) :
    ns.filterMap v.getIndex? = [] := by
  refine List.filterMap_eq_nil_iff.mpr fun n _ => ?_
  cases v with
  | array items => exact absurd rfl h
  | _ => rfl

/-- Slices and indices have to be compared on arrays alone, as both select
nothing at any other node. -/
theorem slice_eq_filterMap_getIndex? {v : Value} {start stop : Option Int64} {ns : List Int64}
    (h : ∀ items, v = array items →
      (array items).slice start stop = ns.filterMap (array items).getIndex?) :
    v.slice start stop = ns.filterMap v.getIndex? := by
  by_cases hv : v.kind = .array
  · obtain ⟨items, rfl⟩ := kind_eq_array_iff.mp hv
    exact h items rfl
  · rw [slice_eq_nil hv, filterMap_getIndex?_eq_nil hv]

end Value

namespace Step

open Value (Indexable)

variable {shelf : Shelf} {v : Value} {a b : Int64}

theorem nodes_slice_eq_nodes_indices (h : 0 ≤ a ∧ 0 ≤ b ∨ v.Indexable ∧ a < 0 ∧ b < 0) :
    (slice (some a) (some b)).nodes shelf v = (indices (Slice.indices a b)).nodes shelf v := by
  refine Value.slice_eq_filterMap_getIndex? fun items hv => ?_
  rcases h with ⟨ha, hb⟩ | ⟨hitems, ha, hb⟩
  · exact Value.slice_of_nonneg (Int64.le_iff_toInt_le.mp ha) (Int64.le_iff_toInt_le.mp hb)
  · exact Value.slice_of_neg (hitems items hv) (Int64.lt_iff_toInt_lt.mp ha)
      (Int64.lt_iff_toInt_lt.mp hb)

theorem nodes_slice_to_end (hitems : v.Indexable) (ha : a < 0) :
    (slice (some a) none).nodes shelf v = (indices (Slice.indices a 0)).nodes shelf v := by
  refine Value.slice_eq_filterMap_getIndex? fun items hv => ?_
  exact Value.slice_to_end (hitems items hv) (Int64.lt_iff_toInt_lt.mp ha)

theorem nodes_slice_none_none :
    (slice none none).nodes shelf v = if v.kind = .array then wildcard.nodes shelf v else [] := by
  show v.slice none none = if v.kind = .array then v.children else []
  by_cases hv : v.kind = .array
  · obtain ⟨items, rfl⟩ := Value.kind_eq_array_iff.mp hv
    exact Value.slice_none_none
  · rw [if_neg hv, Value.slice_eq_nil hv]

theorem nodes_slice_append (k : Int64) :
    (slice none (some k)).nodes shelf v ++ (slice (some k) none).nodes shelf v =
      (slice none none).nodes shelf v := by
  show v.slice none (some k) ++ v.slice (some k) none = v.slice none none
  by_cases hv : v.kind = .array
  · obtain ⟨items, rfl⟩ := Value.kind_eq_array_iff.mp hv
    rw [Value.slice_append_slice, Value.slice_none_none]
  · rw [Value.slice_eq_nil hv, Value.slice_eq_nil hv, Value.slice_eq_nil hv, List.append_nil]

/-- **A slice selects what the row of its indices selects**, in the same order:
if both bounds count from the start of the array, or both from its end, or if
one counts from the end and there is no other.  And wherever an array is cut,
the two slices select its elements together, as the wildcard does; where there
is no array, they select nothing. -/
theorem nodes_slice (shelf : Shelf) (v : Value) :
    (∀ a b : Int64, 0 ≤ a ∧ 0 ≤ b ∨ v.Indexable ∧ a < 0 ∧ b < 0 →
      (slice (some a) (some b)).nodes shelf v = (indices (Slice.indices a b)).nodes shelf v ∧
        (b ≤ a → (slice (some a) (some b)).nodes shelf v = [])) ∧
    (∀ a : Int64, v.Indexable → a < 0 →
      (slice (some a) none).nodes shelf v = (indices (Slice.indices a 0)).nodes shelf v) ∧
    (∀ k : Int64, (slice none (some k)).nodes shelf v ++ (slice (some k) none).nodes shelf v =
      (slice none none).nodes shelf v) ∧
    (slice none none).nodes shelf v = if v.kind = .array then wildcard.nodes shelf v else [] := by
  refine ⟨fun a b h => ⟨nodes_slice_eq_nodes_indices h, fun hle => ?_⟩,
    fun a hitems ha => ?_, ?_, ?_⟩
  · rw [nodes_slice_eq_nodes_indices h, Slice.indices_eq_nil hle]
    rfl
  · exact nodes_slice_to_end hitems ha
  · exact nodes_slice_append
  · exact nodes_slice_none_none

/-- A slice that begins before the array and ends before its last element, at
the least index there is, and one that would end before it begins. -/
theorem nodes_slice_extreme :
    Value.Indexable (.array [.int 1, .int 2, .int 3]) ∧
      (slice (some Int64.minValue) (some (-1))).nodes {} (.array [.int 1, .int 2, .int 3]) =
        (indices (Slice.indices Int64.minValue (-1))).nodes {} (.array [.int 1, .int 2, .int 3]) ∧
      (slice (some Int64.minValue) (some (-1))).nodes {} (.array [.int 1, .int 2, .int 3]) =
        [.int 1, .int 2] ∧
      (slice (some (-2)) none).nodes {} (.array [.int 1, .int 2, .int 3]) =
        (indices (Slice.indices (-2) 0)).nodes {} (.array [.int 1, .int 2, .int 3]) ∧
      (slice (some Int64.maxValue) (some 0)).nodes {} (.array [.int 1, .int 2, .int 3]) = [] := by
  have hitems : Value.Indexable (.array [.int 1, .int 2, .int 3]) := by
    rintro items ⟨⟩
    decide
  obtain ⟨hrow, hend, -, -⟩ := nodes_slice {} (.array [.int 1, .int 2, .int 3])
  exact ⟨hitems, (hrow _ _ (.inr ⟨hitems, by decide, by decide⟩)).1, rfl, hend _ hitems (by decide),
    (hrow _ _ (.inl ⟨by decide, by decide⟩)).2 (by decide)⟩

end Step

end DocPath

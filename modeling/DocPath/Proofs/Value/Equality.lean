import DocPath.Proofs.Value.Reordering

/-! # Equality of documents

Objects are equal if they have the same number of entries and each entry of the
one has an equal value in the other.  Where the keys of objects are distinct
this is the same from both sides (`equal_symm`), and a document is equal to
itself exactly if no floating point number in it is none (`equal_self_iff`).
The order of entries does not matter on either side (`Reordered.equal_congr`),
and so neither does it in a node or in the operand of a criterion that tests for
equality (`Criterion.accepts_of_reordered`). -/

namespace DocPath

namespace Binary64

variable {x y z : Binary64}

/-- Floating point numbers are equal if both are numbers and have the same rank,
so the two zeros are equal. -/
theorem equal_iff : x.equal y = true ↔ x.isNaN = false ∧ y.isNaN = false ∧ x.rank = y.rank := by
  cases hx : x.isNaN <;> cases hy : y.isNaN <;> simp [equal, compare?, hx, hy]

/-- Only a NaN is not equal to itself. -/
theorem equal_self_iff : x.equal x = true ↔ x.isNaN = false := by
  simp [equal_iff]

theorem equal_symm (h : x.equal y = true) : y.equal x = true := by
  obtain ⟨hx, hy, hrank⟩ := equal_iff.mp h
  exact equal_iff.mpr ⟨hy, hx, hrank.symm⟩

/-- Equality of floating point numbers is transitive. -/
theorem equal_trans (h : x.equal y = true) (h' : y.equal z = true) : x.equal z = true := by
  obtain ⟨hx, -, hxy⟩ := equal_iff.mp h
  obtain ⟨-, hz, hyz⟩ := equal_iff.mp h'
  exact equal_iff.mpr ⟨hx, hz, hxy.trans hyz⟩

end Binary64

namespace Value

variable {u v w : Value} {es fs gs : List (String × Value)} {is js ks : List Value}

/-! ## All nodes of a document -/

/-- A property of a node and of all nodes below it, which is how conditions on
whole documents are said. -/
def Throughout (P : Value → Prop) (v : Value) : Prop := ∀ w ∈ v.descendants, P w

/-- The keys of a node, if it is an object, are distinct, as they are in every
document that comes from a map. -/
def KeysDistinct : Value → Prop
  | object entries => (entries.map (·.1)).Nodup
  | _ => True

/-- A node, if it is a floating point number, is a number indeed.  Nodes of
other kinds all have the property. -/
def NotNaN : Value → Prop
  | double x => x.isNaN = false
  | _ => True

/-- What holds throughout a document holds of its root and throughout its
children. -/
theorem throughout_iff {P : Value → Prop} :
    v.Throughout P ↔ P v ∧ ∀ w ∈ v.children, w.Throughout P := by
  rw [Throughout, descendants_eq, List.forall_mem_cons]
  simp only [List.forall_mem_flatMap, Throughout]

theorem Throughout.of_mem_children {P : Value → Prop} (h : v.Throughout P) (hw : w ∈ v.children) :
    w.Throughout P :=
  (throughout_iff.mp h).2 w hw

/-- What holds throughout an object holds throughout each of its values. -/
theorem Throughout.of_mem_entries {P : Value → Prop} {key : String} (h : (object es).Throughout P)
    (hv : (key, v) ∈ es) : v.Throughout P :=
  h.of_mem_children (List.mem_map.mpr ⟨_, hv, rfl⟩)

theorem Throughout.nodup_keys (h : (object es).Throughout KeysDistinct) : (es.map (·.1)).Nodup :=
  (throughout_iff.mp h).1

/-- What is found under a key is an entry, also where keys are repeated. -/
theorem mem_of_lookup_eq_some {key : String} (h : es.lookup key = some v) : (key, v) ∈ es := by
  obtain ⟨before, after, rfl, -⟩ := List.lookup_eq_some_iff.mp h
  exact List.mem_append_right before List.mem_cons_self

/-- Among distinct keys an entry is what is found under its key. -/
theorem lookup_eq_some_iff_mem (hn : (es.map (·.1)).Nodup) {key : String} :
    es.lookup key = some v ↔ (key, v) ∈ es := by
  induction es with
  | nil => simp
  | cons e es ih =>
    obtain ⟨k, w⟩ := e
    rw [List.map_cons, List.nodup_cons] at hn
    rw [List.lookup_cons, List.mem_cons, Prod.mk.injEq]
    by_cases hkey : key = k
    · subst hkey
      have hfresh : (key, v) ∉ es := fun h => hn.1 (List.mem_map.mpr ⟨_, h, rfl⟩)
      simp [hfresh, eq_comm]
    · simp [beq_false_of_ne hkey, hkey, ih hn.2]

/-! ## What equality comes to -/

/-- Each of the entries has an equal value under its key in `others`.  Only the
first entry with a key is found there. -/
def Covered (es others : List (String × Value)) : Prop :=
  ∀ key v, (key, v) ∈ es → ∃ w, others.lookup key = some w ∧ v.equal w = true

/-- Two equal documents, by their kind.  Numbers of different kinds are not
equal, whatever their values are. -/
inductive EqualAtTop : Value → Value → Prop
  | null : EqualAtTop null null
  | bool (b : Bool) : EqualAtTop (bool b) (bool b)
  | int (n : Int32) : EqualAtTop (int n) (int n)
  | long (n : Int64) : EqualAtTop (long n) (long n)
  | double {x y : Binary64} : x.equal y = true → EqualAtTop (double x) (double y)
  | string (s : String) : EqualAtTop (string s) (string s)
  | array {is js : List Value} :
      List.Forall₂ (fun v w => v.equal w = true) is js → EqualAtTop (array is) (array js)
  | object {es fs : List (String × Value)} :
      es.length = fs.length → Covered es fs → EqualAtTop (object es) (object fs)

/-- Rows are equal if they have the same length and equal values at each
place. -/
theorem equalItems_iff :
    equalItems is js = true ↔ List.Forall₂ (fun v w => v.equal w = true) is js := by
  induction is generalizing js with
  | nil => cases js <;> simp [equalItems]
  | cons v is ih => cases js <;> simp [equalItems, ih]

/-- The comparison of entries looks for each of them among the others. -/
theorem equalEntries_iff : equalEntries es fs = true ↔ Covered es fs := by
  rw [equalEntries_eq_all, List.all_eq_true, Prod.forall]
  refine forall₃_congr fun key v _ => ?_
  cases fs.lookup key <;> simp

/-- Two documents are equal exactly if they are of the same kind and their parts
are equal. -/
theorem equal_iff : v.equal w = true ↔ EqualAtTop v w := by
  constructor
  · intro h
    fun_cases equal v w with
    | case1 => exact .null
    | case2 a b =>
      cases beq_iff_eq.mp h
      exact .bool a
    | case3 a b =>
      cases beq_iff_eq.mp h
      exact .int a
    | case4 a b =>
      cases beq_iff_eq.mp h
      exact .long a
    | case5 x y => exact .double h
    | case6 a b =>
      cases beq_iff_eq.mp h
      exact .string a
    | case7 is js => exact .array (equalItems_iff.mp h)
    | case8 es fs =>
      obtain ⟨hlength, hes⟩ := Bool.and_eq_true_iff.mp h
      exact .object (beq_iff_eq.mp hlength) (equalEntries_iff.mp hes)
    | case9 => simp_all [equal]
  · intro h
    cases h with
    | double hx => exact hx
    | array hi => exact equalItems_iff.mpr hi
    | object hlength hes => simp [equal, hlength, equalEntries_iff.mpr hes]
    | _ => simp [equal]

/-! ## An equivalence -/

/-- A document is equal to itself exactly if no floating point number in it is
none. -/
theorem equal_self_iff (hv : v.Throughout KeysDistinct) :
    v.equal v = true ↔ v.Throughout NotNaN := by
  induction v using children_induction with
  | step v ih =>
    have hchildren : ∀ w ∈ v.children, (w.equal w = true ↔ w.Throughout NotNaN) :=
      fun w hw => ih w hw (hv.of_mem_children hw)
    rw [throughout_iff, ← forall₂_congr hchildren]
    cases v with
    | double x => simp [equal, NotNaN, children, Binary64.equal_self_iff]
    | array items => simp [equal, NotNaN, children, equalItems_iff, List.forall₂_same]
    | object entries =>
      have hself : Covered entries entries ↔ ∀ w ∈ (object entries).children, w.equal w = true := by
        simp only [Covered, children, List.forall_mem_map, Prod.forall]
        refine forall₃_congr fun key v hmem => ?_
        rw [(lookup_eq_some_iff_mem hv.nodup_keys).mpr hmem]
        simp
      simp [equal, equalEntries_iff, hself, NotNaN]
    | _ => simp [equal, NotNaN, children]

/-- Distinct keys that are covered by no more entries cover these in turn: as
many distinct keys as there are entries leave none of them out. -/
theorem Covered.symm (h : Covered es fs) (hlength : es.length = fs.length)
    (hes : (es.map (·.1)).Nodup) (hfs : (fs.map (·.1)).Nodup)
    (hsymm : ∀ key v w, (key, v) ∈ es → (key, w) ∈ fs → v.equal w = true → w.equal v = true) :
    Covered fs es := by
  -- as many distinct keys as there are entries in `fs` leave no key of `fs` out
  have hsubset : es.map (·.1) ⊆ fs.map (·.1) := by
    intro key hkey
    obtain ⟨⟨key, v⟩, hv, rfl⟩ := List.mem_map.mp hkey
    obtain ⟨w, hw, -⟩ := h key v hv
    exact List.mem_map.mpr ⟨_, (lookup_eq_some_iff_mem hfs).mp hw, rfl⟩
  have hkeys : (es.map (·.1)).Perm (fs.map (·.1)) :=
    (hes.subperm hsubset).perm_of_length_le (by simp [hlength])
  intro key w hw
  obtain ⟨⟨key, v⟩, hv, rfl⟩ := List.mem_map.mp (hkeys.mem_iff.mpr (List.mem_map.mpr ⟨_, hw, rfl⟩))
  obtain ⟨w', hw', hequal⟩ := h key v hv
  rw [(lookup_eq_some_iff_mem hfs).mpr hw] at hw'
  cases hw'
  exact ⟨v, (lookup_eq_some_iff_mem hes).mpr hv, hsymm key v w hv hw hequal⟩

/-- Equality is symmetric where no object repeats a key: the same number of keys
leaves none of the other object out. -/
theorem equal_of_equal (hv : v.Throughout KeysDistinct) (hw : w.Throughout KeysDistinct)
    (h : v.equal w = true) : w.equal v = true := by
  induction v using children_induction generalizing w with
  | step v ih =>
    rw [equal_iff] at h ⊢
    cases h with
    | double hx => exact .double (Binary64.equal_symm hx)
    | array hi =>
      obtain ⟨hlength, hget⟩ := List.forall₂_iff_get.mp hi
      refine .array (List.forall₂_iff_get.mpr ⟨hlength.symm, fun i hj hi => ?_⟩)
      exact ih _ (List.get_mem ..) (hv.of_mem_children (List.get_mem ..))
        (hw.of_mem_children (List.get_mem ..)) (hget i hi hj)
    | object hlength hes =>
      refine .object hlength.symm (hes.symm hlength hv.nodup_keys hw.nodup_keys ?_)
      intro key a b ha hb hab
      exact ih a (List.mem_map.mpr ⟨_, ha, rfl⟩) (hv.of_mem_entries ha) (hw.of_mem_entries hb) hab
    | null => exact .null
    | bool b => exact .bool b
    | int n => exact .int n
    | long n => exact .long n
    | string s => exact .string s

/-- Equality is the same from both sides. -/
theorem equal_symm (hv : v.Throughout KeysDistinct) (hw : w.Throughout KeysDistinct) :
    v.equal w = w.equal v := by
  rw [Bool.eq_iff_iff]
  exact ⟨equal_of_equal hv hw, equal_of_equal hw hv⟩

/-- Equality is transitive, as what is found under a key has its equal in
turn. -/
theorem equal_trans (h : u.equal v = true) (h' : v.equal w = true) : u.equal w = true := by
  induction u using children_induction generalizing v w with
  | step u ih =>
    rw [equal_iff] at h h' ⊢
    cases h with
    | double hx => cases h' with
      | double hy => exact .double (Binary64.equal_trans hx hy)
    | array hi => cases h' with
      | array hj =>
        obtain ⟨hlength, hget⟩ := List.forall₂_iff_get.mp hi
        obtain ⟨hlength', hget'⟩ := List.forall₂_iff_get.mp hj
        refine .array (List.forall₂_iff_get.mpr ⟨hlength.trans hlength', fun i hi hk => ?_⟩)
        exact ih _ (List.get_mem ..) (hget i hi (hlength ▸ hi)) (hget' i (hlength ▸ hi) hk)
    | object hlength hes => cases h' with
      | object hlength' hfs =>
        refine .object (hlength.trans hlength') ?_
        intro key a ha
        obtain ⟨b, hb, hab⟩ := hes key a ha
        obtain ⟨c, hc, hbc⟩ := hfs key b (mem_of_lookup_eq_some hb)
        exact ⟨c, hc, ih a (List.mem_map.mpr ⟨_, ha, rfl⟩) hab hbc⟩
    | _ => exact h'

/-! ## The order of entries -/

/-- A row equals rows alike whose values it cannot tell apart. -/
theorem equalItems_congr {us : List Value} (hi : List.Forall₂ Reordered is js)
    (h : ∀ u ∈ us, ∀ v w, Reordered v w → u.equal v = u.equal w) :
    equalItems us is = equalItems us js := by
  induction hi generalizing us with
  | nil => rfl
  | @cons v w is js hvw _ ih =>
    cases us with
    | nil => rfl
    | cons u us =>
      obtain ⟨hu, hus⟩ := List.forall_mem_cons.mp h
      rw [equalItems, equalItems, hu v w hvw, ih hus]

/-- Equality of a further document with a document does not depend on the order
of entries. -/
theorem Reordered.equal_eq_right (h : Reordered v w) (u : Value) : u.equal v = u.equal w := by
  induction u using children_induction generalizing v w with
  | step u ih =>
    cases h.alike with
    | same v => rfl
    | array hi =>
      cases u with
      | array us => exact equalItems_congr hi fun u hu v w hvw => ih u hu hvw
      | _ => rfl
    | @object es fs hlookup hvalues =>
      cases u with
      | object us =>
        have hlength : es.length = fs.length := by simpa using Multiset.card_eq_card_of_rel hvalues
        have hcovered : Covered us es ↔ Covered us fs := by
          refine forall₃_congr fun key u hu => ?_
          have hrel := hlookup key
          generalize es.lookup key = a at hrel ⊢
          generalize fs.lookup key = b at hrel ⊢
          cases hrel with
          | none => simp
          | some hvw => simp [ih u (List.mem_map.mpr ⟨_, hu, rfl⟩) hvw]
        rw [Bool.eq_iff_iff]
        simp only [equal, hlength, Bool.and_eq_true, equalEntries_iff, hcovered]
      | _ => rfl

/-- **Equality does not see the order of entries**, on neither side and at no
depth. -/
theorem Reordered.equal_congr {v' w' : Value} (hv : Reordered v v') (hw : Reordered w w') :
    v.equal w = v'.equal w' :=
  (hv.equal_eq w).trans (hw.equal_eq_right v')

end Value

namespace Operator

/-- Tests for equality whose operands differ in the order of the entries of
objects, at any depth. -/
inductive Reordered : Operator → Operator → Prop
  | equalTo {v w : Value} : Value.Reordered v w → Reordered (equalTo v) (equalTo w)
  | notEqualTo {v w : Value} : Value.Reordered v w → Reordered (notEqualTo v) (notEqualTo w)
  | oneOf {vs ws : List Value} : List.Forall₂ Value.Reordered vs ws →
      Reordered (oneOf vs) (oneOf ws)
  | noneOf {vs ws : List Value} : List.Forall₂ Value.Reordered vs ws →
      Reordered (noneOf vs) (noneOf ws)
  | containsAll {vs ws : List Value} :
      List.Forall₂ Value.Reordered vs ws → Reordered (containsAll vs) (containsAll ws)

/-- Tests for equality do not see the order of entries in their operands. -/
theorem Reordered.accepts_eq {o o' : Operator} (h : Reordered o o') (actual : Option Value) :
    o.accepts actual = o'.accepts actual := by
  have hequals : ∀ v w, Value.Reordered v w → equalsOrNull actual v = equalsOrNull actual w :=
    fun v w hvw => hvw.equal_eq_right _
  cases h with
  | equalTo h | notEqualTo h => simp only [accepts, hequals _ _ h]
  | oneOf h | noneOf h => simp only [accepts, Value.any_eq_of_forall₂ h hequals]
  | @containsAll vs ws h =>
    have hall : ∀ items : List Value,
        (vs.all fun v => items.any (·.equal v)) = ws.all fun w => items.any (·.equal w) := by
      intro items
      refine Value.all_eq_of_forall₂ h fun v w hvw => ?_
      simp only [hvw.equal_eq_right]
    simp only [accepts, hall]

end Operator

open Value (Reordered KeysDistinct NotNaN)

variable {u v w : Value}

/-- Tests for equality depend on the order of entries neither in the operand nor
in the node. -/
theorem Criterion.accepts_of_reordered {o o' : Operator} (ho : o.Reordered o') (h : Reordered v w)
    (key : String) : accepts ⟨key, o⟩ v = accepts ⟨key, o'⟩ w := by
  rw [accepts_eq h]
  cases w with
  | object entries => exact ho.accepts_eq _
  | _ => rfl

/-- **Equality is an equivalence that does not see the order of entries.** The
keys of objects are distinct throughout.  Equality is then reflexive exactly on
documents without a floating point number that is none, and it is symmetric and
transitive.  Entries in another order, at any depth and on either side, do not
change its outcome, and so they change the outcome of no criterion that tests
for equality, whether they are those of its operand or of the node. -/
theorem Value.equality_regardless_of_order (hu : u.Throughout KeysDistinct)
    (hv : v.Throughout KeysDistinct) :
    ((u == u) = true ↔ u.Throughout NotNaN) ∧ (u == v) = (v == u) ∧
    (∀ w, (u == v) = true → (v == w) = true → (u == w) = true) ∧
    ∀ u', Reordered u u' →
      (∀ v', Reordered v v' → (u == v) = (u' == v')) ∧
      ∀ key o o', Operator.Reordered o o' →
        Criterion.accepts ⟨key, o⟩ u = Criterion.accepts ⟨key, o'⟩ u' :=
  ⟨equal_self_iff hu, equal_symm hu hv, fun _ => equal_trans, fun _ hu' =>
    ⟨fun _ hv' => hu'.equal_congr hv', fun key _ _ ho => Criterion.accepts_of_reordered ho hu' key⟩⟩

/-- Both zeros, and entries that change places at two depths of a node and in
the operand of a criterion. -/
theorem Value.equality_regardless_of_order_nested :
    ∃ u v u' : Value,
      u = .object [("n", .double .zero), ("rows", .array [.object [("x", .int 1), ("y", .null)]])] ∧
      v = .object [("rows", .array [.object [("y", .null), ("x", .int 1)]]),
        ("n", .double .negativeZero)] ∧
      u' = .object [("rows", .array [.object [("y", .null), ("x", .int 1)]]),
        ("n", .double .zero)] ∧
      u.Throughout KeysDistinct ∧ v.Throughout KeysDistinct ∧ Reordered u u' ∧
      (u == u) = true ∧ (u == v) = true ∧ (v == u) = true ∧ (u' == v) = true ∧
      Criterion.accepts ⟨"rows", .containsAll [.object [("x", .int 1), ("y", .null)]]⟩ u = true ∧
      Criterion.accepts ⟨"rows", .containsAll [.object [("y", .null), ("x", .int 1)]]⟩ u' =
        true := by
  let row : Value := .object [("x", .int 1), ("y", .null)]
  let row' : Value := .object [("y", .null), ("x", .int 1)]
  have hrow : Reordered row row' := .entries (by decide) (.swap ..)
  let u : Value := .object [("n", .double .zero), ("rows", .array [row])]
  let v : Value := .object [("rows", .array [row']), ("n", .double .negativeZero)]
  have hu : u.Throughout KeysDistinct := by
    simp [u, row, Throughout, descendants, descendantsOfEntries, descendantsOfItems, KeysDistinct]
  have hv : v.Throughout KeysDistinct := by
    simp [v, row', Throughout, descendants, descendantsOfEntries, descendantsOfItems, KeysDistinct]
  have hnan : u.Throughout NotNaN := by
    simp [u, row, Throughout, descendants, descendantsOfEntries, descendantsOfItems, NotNaN]
    decide +kernel
  have hu' : Reordered u (.object [("rows", .array [row']), ("n", .double .zero)]) :=
    (Reordered.entry [("n", .double .zero)] "rows" [] (.element [] [] hrow)).trans
      (.entries (by decide) (.swap ..))
  have huv : (u == v) = true := by decide +kernel
  have haccepts : Criterion.accepts ⟨"rows", .containsAll [row]⟩ u = true := by decide +kernel
  obtain ⟨hself, hsymm, -, hreordered⟩ := equality_regardless_of_order hu hv
  obtain ⟨hequal, hcriteria⟩ := hreordered _ hu'
  exact ⟨u, v, _, rfl, rfl, rfl, hu, hv, hu', hself.mpr hnan, huv, hsymm ▸ huv,
    (hequal v (.refl v)).symm.trans huv, haccepts,
    (hcriteria "rows" _ _ (.containsAll (.cons hrow .nil))).symm.trans haccepts⟩

end DocPath

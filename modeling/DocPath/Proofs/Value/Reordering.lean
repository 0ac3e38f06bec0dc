import DocPath.Filter.Predicate
import DocPath.Proofs.Value.Tree
import Mathlib.Data.List.Forall2
import Mathlib.Data.Multiset.Bind

/-! # The order of entries

Documents that differ in nothing but the order of the entries of objects are
reorderings of each other (`Value.Reordered`), and `Reordered.alike` says what
they have in common at the top: objects store reorderings under the same keys,
and arrays hold reorderings at the same places.  Equality with a further
document and the order of numbers do not depend on the order of entries, and so
no criterion does (`Reordered.accepts`).  A visit comes to reorderings of the
same nodes, though not in the same order (`Reordered.rel_descendants`). -/

namespace DocPath.Value

variable {u v w : Value} {es fs : List (String × Value)} {is js : List Value}

/-- Documents that differ in the order of the entries of objects, at any depth.
The keys of an object whose entries change places are distinct. -/
inductive Reordered : Value → Value → Prop
  | refl (v : Value) : Reordered v v
  | trans {u v w : Value} : Reordered u v → Reordered v w → Reordered u w
  | entries {es fs : List (String × Value)} :
      (es.map (·.1)).Nodup → es.Perm fs → Reordered (object es) (object fs)
  | element {v w : Value} (before after : List Value) : Reordered v w →
      Reordered (array (before ++ v :: after)) (array (before ++ w :: after))
  | entry {v w : Value} (before : List (String × Value)) (key : String)
      (after : List (String × Value)) : Reordered v w →
      Reordered (object (before ++ (key, v) :: after)) (object (before ++ (key, w) :: after))

instance : Std.Refl Reordered := ⟨.refl⟩

instance : IsTrans Value Reordered := ⟨fun _ _ _ => .trans⟩

/-! ## Equality -/

/-- Entries equal others if each of them has its equal there. -/
theorem equalEntries_eq_all {others : List (String × Value)} :
    equalEntries es others = es.all fun e =>
      match others.lookup e.1 with
      | some w => e.2.equal w
      | none => false := by
  induction es with
  | nil => rfl
  | cons e es ih => cases hl : others.lookup e.1 <;> simp [equalEntries, hl, ih]

/-- An element can be replaced in a comparison of rows by one that equals the
same values. -/
theorem equalItems_element (before after : List Value) (h : ∀ u, v.equal u = w.equal u) :
    equalItems (before ++ v :: after) is = equalItems (before ++ w :: after) is := by
  induction before generalizing is with
  | nil =>
    cases is with
    | nil => rfl
    | cons i is => simp only [List.nil_append, equalItems, h]
  | cons b before ih =>
    cases is with
    | nil => rfl
    | cons i is => simp only [List.cons_append, equalItems, ih]

/-- Equality with a document does not depend on the order of entries. -/
theorem Reordered.equal_eq (h : Reordered v w) (u : Value) : v.equal u = w.equal u := by
  induction h generalizing u with
  | refl => rfl
  | trans _ _ ih₁ ih₂ => exact (ih₁ u).trans (ih₂ u)
  | entries _ hp =>
    cases u with
    | object gs => simp only [equal, equalEntries_eq_all, hp.length_eq, hp.all_eq]
    | _ => rfl
  | element before after _ ih =>
    cases u with
    | array us => exact equalItems_element before after ih
    | _ => rfl
  | entry before key after _ ih =>
    cases u with
    | object gs =>
      simp only [equal, equalEntries_eq_all, List.length_append, List.length_cons, List.all_append,
        List.all_cons, ih]
    | _ => rfl

/-! ## What reorderings have in common -/

/-- Among distinct keys the order does not matter for what is found under a
key. -/
theorem lookup_eq_of_perm (hp : es.Perm fs) (hn : (es.map (·.1)).Nodup) (key : String) :
    es.lookup key = fs.lookup key := by
  induction hp with
  | nil => rfl
  | cons e _ ih =>
    rw [List.map_cons, List.nodup_cons] at hn
    rw [List.lookup_cons, List.lookup_cons, ih hn.2]
  | swap e f es =>
    obtain ⟨k, v⟩ := e
    obtain ⟨l, w⟩ := f
    have hne : k ≠ l := by
      rintro rfl
      simp at hn
    rw [List.lookup_cons, List.lookup_cons, List.lookup_cons, List.lookup_cons]
    by_cases hk : key = k
    · subst hk
      rw [beq_false_of_ne hne]
    · rw [beq_false_of_ne hk]
  | trans h₁ _ ih₁ ih₂ => exact (ih₁ hn).trans (ih₂ ((h₁.map _).nodup_iff.mp hn))

/-- Nodes of the same kind whose children are reorderings: at the same places of
arrays, and under the same keys of objects. -/
inductive Alike : Value → Value → Prop
  | same (v : Value) : Alike v v
  | array {is js : List Value} : List.Forall₂ Reordered is js → Alike (array is) (array js)
  | object {es fs : List (String × Value)} :
      (∀ key, Option.Rel Reordered (es.lookup key) (fs.lookup key)) →
      Multiset.Rel Reordered (es.map (·.2)) (fs.map (·.2)) → Alike (object es) (object fs)

theorem optionRel_refl (a : Option Value) : Option.Rel Reordered a a := by
  cases a with
  | none => exact .none
  | some v => exact .some (.refl v)

theorem optionRel_trans {a b c : Option Value} (h : Option.Rel Reordered a b)
    (h' : Option.Rel Reordered b c) : Option.Rel Reordered a c := by
  cases h with
  | none => exact h'
  | some h => cases h' with
    | some h' => exact .some (h.trans h')

theorem forall₂_trans {ks : List Value} (h : List.Forall₂ Reordered is js)
    (h' : List.Forall₂ Reordered js ks) : List.Forall₂ Reordered is ks := by
  induction h generalizing ks with
  | nil => exact h'
  | cons hv _ ih =>
    cases h' with
    | cons hw hrest => exact .cons (hv.trans hw) (ih hrest)

theorem rel_refl (s : Multiset Value) : Multiset.Rel Reordered s s :=
  Multiset.rel_refl_of_refl_on fun v _ => .refl v

theorem rel_of_forall₂ (h : List.Forall₂ Reordered is js) :
    Multiset.Rel Reordered (is : Multiset Value) js := by
  induction h with
  | nil => exact .zero
  | cons hv _ ih => exact .cons hv ih

theorem Alike.trans (h : Alike u v) (h' : Alike v w) : Alike u w := by
  cases h with
  | same _ => exact h'
  | array h => cases h' with
    | same _ => exact .array h
    | array h' => exact .array (forall₂_trans h h')
  | object h hr => cases h' with
    | same _ => exact .object h hr
    | object h' hr' =>
      exact .object (fun key => optionRel_trans (h key) (h' key)) (hr.trans _ hr')

/-- Reordered values behave alike under comparison, by each step of reordering
and then by the row of steps. -/
theorem Reordered.alike (h : Reordered v w) : Alike v w := by
  induction h with
  | refl v => exact .same v
  | trans _ _ ih₁ ih₂ => exact ih₁.trans ih₂
  | @entries es fs hn hp =>
    refine .object (fun key => ?_) ?_
    · rw [lookup_eq_of_perm hp hn key]
      exact optionRel_refl _
    · rw [Multiset.coe_eq_coe.mpr (hp.map _)]
      exact rel_refl _
  | element before after h _ =>
    exact .array (List.rel_append (List.forall₂_refl before) (.cons h (List.forall₂_refl after)))
  | @entry v w before key after h _ =>
    refine .object (fun k => ?_) ?_
    · induction before with
      | nil =>
        rw [List.nil_append, List.nil_append, List.lookup_cons, List.lookup_cons]
        split
        · exact .some h
        · exact optionRel_refl _
      | cons e before ih =>
        rw [List.cons_append, List.cons_append, List.lookup_cons, List.lookup_cons]
        split
        · exact optionRel_refl _
        · exact ih
    · rw [List.map_append, List.map_append]
      exact rel_of_forall₂
        (List.rel_append (List.forall₂_refl _) (.cons h (List.forall₂_refl _)))

/-! ## Visits -/

/-- The children of reordered values correspond, though perhaps in another
order. -/
theorem Reordered.rel_children (h : Reordered v w) :
    Multiset.Rel Reordered (v.children : Multiset Value) w.children := by
  cases h.alike with
  | same v => exact rel_refl _
  | array hi => exact rel_of_forall₂ hi
  | object _ hr => exact hr

/-- If the nodes below one element correspond, so do the nodes below the
array. -/
theorem rel_flatMap_descendants_element (before after : List Value)
    (h : Multiset.Rel Reordered (v.descendants : Multiset Value) w.descendants) :
    Multiset.Rel Reordered
      (((before ++ v :: after).flatMap descendants : List Value) : Multiset Value)
      ((before ++ w :: after).flatMap descendants) := by
  simp only [List.flatMap_append, List.flatMap_cons, ← Multiset.coe_add]
  exact (rel_refl _).add (h.add (rel_refl _))

/-- Visits of reorderings come to reorderings, each as often as to the other,
though in another order where entries are. -/
theorem Reordered.rel_descendants (h : Reordered v w) :
    Multiset.Rel Reordered (v.descendants : Multiset Value) w.descendants := by
  induction h with
  | refl v => exact rel_refl _
  | trans _ _ ih₁ ih₂ => exact ih₁.trans _ ih₂
  | @entries es fs hn hp =>
    -- the same children in another order, each with the same nodes below it
    have hchildren : (object es).children.Perm (object fs).children := hp.map Prod.snd
    rw [descendants_eq, descendants_eq, ← Multiset.cons_coe, ← Multiset.cons_coe,
      Multiset.coe_eq_coe.mpr (hchildren.flatMap_right descendants)]
    exact .cons (.entries hn hp) (rel_refl _)
  | element before after h ih =>
    rw [descendants_eq, descendants_eq, ← Multiset.cons_coe, ← Multiset.cons_coe]
    exact .cons (.element before after h) (rel_flatMap_descendants_element before after ih)
  | @entry v w before key after h ih =>
    rw [descendants_eq, descendants_eq, ← Multiset.cons_coe, ← Multiset.cons_coe]
    refine .cons (.entry before key after h) ?_
    simp only [children, List.map_append, List.map_cons]
    exact rel_flatMap_descendants_element _ _ ih

/-! ## Criteria -/

/-- Objects and arrays have no order as numbers. -/
theorem Reordered.compare?_eq (h : Reordered v w) (u : Value) : v.compare? u = w.compare? u := by
  -- numbers have no entries, so reorderings of them are equal
  cases h.alike with
  | same v => rfl
  | array _ | object _ _ => cases u <;> rfl

/-- A test that reordered values pass alike is passed by some value of both rows
or of neither. -/
theorem any_eq_of_forall₂ {p : Value → Bool} (h : List.Forall₂ Reordered is js)
    (hp : ∀ v w, Reordered v w → p v = p w) : is.any p = js.any p := by
  induction h with
  | nil => rfl
  | cons hv _ ih => rw [List.any_cons, List.any_cons, hp _ _ hv, ih]

/-- A test that reordered values pass alike is passed by all values of both rows
or of neither. -/
theorem all_eq_of_forall₂ {p : Value → Bool} (h : List.Forall₂ Reordered is js)
    (hp : ∀ v w, Reordered v w → p v = p w) : is.all p = js.all p := by
  rw [List.all_eq_not_any_not, List.all_eq_not_any_not,
    any_eq_of_forall₂ h fun v w hvw => congrArg not (hp v w hvw)]

end DocPath.Value

namespace DocPath

open Value (Reordered)

variable {v w : Value}

/-- An operator accepts a value exactly if it accepts it reordered. -/
theorem Operator.accepts_eq {a b : Option Value} (hab : Option.Rel Reordered a b) (o : Operator) :
    o.accepts a = o.accepts b := by
  cases hab with
  | none => rfl
  | @some v w h =>
    cases o with
    | equalTo u | notEqualTo u => simp only [accepts, equalsOrNull, Option.getD_some, h.equal_eq]
    | greater u | greaterOrEqual u | less u | lessOrEqual u =>
      simp only [accepts, order?, Option.bind_some, h.compare?_eq]
    | oneOf us | noneOf us =>
      have hequal : equalsOrNull (some v) = equalsOrNull (some w) := funext h.equal_eq
      simp only [accepts, hequal]
    | containsAll us =>
      cases h.alike with
      | array hi => simp only [accepts, Value.any_eq_of_forall₂ hi fun _ _ h => h.equal_eq _]
      | same _ | object _ _ => rfl
    | hasSize size =>
      cases h.alike with
      | array hi => simp only [accepts, hi.length_eq]
      | same _ | object _ _ => rfl
    | present expected => rfl
    | hasKind kind | matching pattern => cases h.alike <;> rfl

/-- No criterion depends on the order of entries. -/
theorem Criterion.accepts_eq (h : Reordered v w) (c : Criterion) : c.accepts v = c.accepts w := by
  cases h.alike with
  | same v => rfl
  | array _ => rfl
  | object hlookup _ => exact c.operator.accepts_eq (hlookup c.key)

namespace Predicate

variable {shelf : Shelf}

/-- A predicate that consists of criteria: a filter, shared or not, a single
criterion, or a row of criteria. -/
def OfCriteria : Predicate → Prop
  | custom accepts => ∃ criteria : List Criterion, custom accepts = ofChain criteria
  | _ => True

/-- No predicate that consists of criteria depends on the order of entries. -/
theorem OfCriteria.accepts_eq {p : Predicate} (hp : p.OfCriteria) (h : Reordered v w) :
    p.accepts shelf v = p.accepts shelf w := by
  have hfilter : ∀ f : Filter, f.accepts v = f.accepts w := by
    intro f
    simp only [Filter.accepts, Filter.rejectedBy?, Criterion.accepts_eq h]
  cases p with
  | filter f => exact hfilter f
  | criterion c => exact Criterion.accepts_eq h c
  | custom accepts =>
    obtain ⟨criteria, he⟩ := hp
    cases he
    show criteria.all (·.accepts v) = criteria.all (·.accepts w)
    simp only [Criterion.accepts_eq h]
  | shared handle =>
    show (test shelf (shared handle) v).value = (test shelf (shared handle) w).value
    simp only [test]
    split
    · next f _ => exact hfilter f
    · rfl

end Predicate

end DocPath

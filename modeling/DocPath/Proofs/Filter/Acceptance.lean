import DocPath.Filter.Basic

/-! # What filters accept

A filter accepts what passes each of its criteria, and only objects do if it has
any.  It looks at an object under the keys of its criteria alone, and there the
tests pass an absent key as they pass null, except those that ask for presence
(`Operator.accepts_null_iff`).  So objects that agree under these keys are
accepted or rejected together (`Filter.accepts_of_agree`). -/

namespace DocPath

namespace Filter

variable {f : Filter} {u v : Value} {criteria : List Criterion}

theorem accepts_iff : f.accepts v = true ↔ ∀ c ∈ f.criteria, c.accepts v = true := by
  simp [accepts, rejectedBy?]

/-- Nodes that no criterion tells apart are accepted or rejected together. -/
theorem accepts_congr (h : ∀ c ∈ f.criteria, c.accepts u = c.accepts v) :
    f.accepts u = f.accepts v := by
  rw [Bool.eq_iff_iff, accepts_iff, accepts_iff]
  constructor
  · intro hu c hc
    rw [← h c hc]
    exact hu c hc
  · intro hv c hc
    rw [h c hc]
    exact hv c hc

/-- Further criteria are a further filter: a node has to pass the criteria of
both, whichever are asked first. -/
theorem accepts_append : (f.append criteria).accepts v = (f.accepts v && accepts ⟨criteria⟩ v) := by
  rw [Bool.eq_iff_iff, Bool.and_eq_true, accepts_iff, accepts_iff, accepts_iff]
  exact List.forall_mem_append

/-- A filter that is not empty accepts objects alone, since each criterion looks
for a key.  The empty filter accepts nodes of every kind. -/
theorem exists_object_of_accepts (hf : f.criteria ≠ []) (h : f.accepts v = true) :
    ∃ entries, v = .object entries := by
  obtain ⟨c, hc⟩ := List.exists_mem_of_ne_nil _ hf
  have hv := accepts_iff.mp h c hc
  cases v with
  | object entries => exact ⟨entries, rfl⟩
  | _ => cases hv

end Filter

/-! ## Absent keys -/

/-- Nothing is stored, or null.  Every test but the one for presence takes the
two for the same. -/
inductive Vacant : Option Value → Prop
  | absent : Vacant none
  | null : Vacant (some .null)

/-- Two objects store the same value under a key, or nothing or null each.  They
need not store the same in the latter case: one may hold null where the other
has no such key. -/
def AgreeAt (key : String) (es fs : List (String × Value)) : Prop :=
  (∃ v, es.lookup key = some v ∧ fs.lookup key = some v) ∨
    Vacant (es.lookup key) ∧ Vacant (fs.lookup key)

namespace Operator

variable {o : Operator} {a b : Option Value}

/-- Whether a test asks for presence, whatever is stored.  Only such a test
tells null from a key that is absent. -/
def AsksPresence (o : Operator) : Prop := ∃ expected, o = present expected

/-- An absent key passes the tests that null passes, unless presence is asked
for. -/
theorem accepts_null_iff : o.accepts (some .null) = o.accepts none ↔ ¬ o.AsksPresence := by
  cases o with
  | present expected =>
    refine iff_of_false ?_ (not_not_intro ⟨expected, rfl⟩)
    cases expected <;> decide
  | _ =>
    refine iff_of_true rfl ?_
    rintro ⟨expected, he⟩
    cases he

theorem accepts_of_vacant (ho : ¬ o.AsksPresence) (ha : Vacant a) (hb : Vacant b) :
    o.accepts a = o.accepts b := by
  have hnull := accepts_null_iff.mpr ho
  cases ha <;> cases hb
  · rfl
  · exact hnull.symm
  · exact hnull
  · rfl

end Operator

variable {es fs : List (String × Value)}

theorem Criterion.accepts_of_agreeAt {c : Criterion} (hc : ¬ c.operator.AsksPresence)
    (h : AgreeAt c.key es fs) : c.accepts (.object es) = c.accepts (.object fs) := by
  show c.operator.accepts (es.lookup c.key) = c.operator.accepts (fs.lookup c.key)
  rcases h with ⟨v, he, hf⟩ | ⟨he, hf⟩
  · rw [he, hf]
  · exact Operator.accepts_of_vacant hc he hf

namespace Filter

/-- **Objects that agree under the keys of a filter are accepted or rejected
together**, where null counts as an absent key unless a criterion asks for
presence.  Null and an absent key are the same to every other test.  And
whatever its criteria ask for, a filter depends on nothing that is stored under
another key. -/
theorem accepts_of_agree (f : Filter) :
    ((∀ c ∈ f.criteria, ¬ c.operator.AsksPresence) →
      ∀ es fs, (∀ c ∈ f.criteria, AgreeAt c.key es fs) →
        f.accepts (.object es) = f.accepts (.object fs)) ∧
    (∀ o : Operator, o.accepts (some .null) = o.accepts none ↔ ¬ o.AsksPresence) ∧
    ∀ es fs, (∀ c ∈ f.criteria, es.lookup c.key = fs.lookup c.key) →
      f.accepts (.object es) = f.accepts (.object fs) := by
  refine ⟨fun hf es fs h => ?_, fun o => Operator.accepts_null_iff, fun es fs h => ?_⟩
  · exact accepts_congr fun c hc => Criterion.accepts_of_agreeAt (hf c hc) (h c hc)
  · refine accepts_congr fun c hc => ?_
    show c.operator.accepts (es.lookup c.key) = c.operator.accepts (fs.lookup c.key)
    rw [h c hc]

/-- Null stands against an absent key under `a` and under `b`, and only the
first filter takes it for a value that it asks for.  A key that no criterion
names makes no difference. -/
theorem accepts_of_agree_vacant :
    ∃ (f g : Filter) (es fs : List (String × Value)),
      f =
        ⟨[⟨"a", .oneOf [.int 1, .null]⟩, ⟨"b", .notEqualTo (.int 0)⟩, ⟨"c", .greater (.long 4)⟩]⟩ ∧
      g = ⟨[⟨"c", .equalTo (.int 5)⟩, ⟨"b", .hasKind .null⟩, ⟨"a", .containsAll []⟩]⟩ ∧
      es = [("c", .int 5), ("a", .null), ("x", .bool true)] ∧ fs = [("b", .null), ("c", .int 5)] ∧
      (∀ c ∈ f.criteria, ¬ c.operator.AsksPresence) ∧ (∀ c ∈ f.criteria, AgreeAt c.key es fs) ∧
      f.accepts (.object es) = f.accepts (.object fs) ∧ f.accepts (.object fs) = true ∧
      (∀ c ∈ g.criteria, ¬ c.operator.AsksPresence) ∧ (∀ c ∈ g.criteria, AgreeAt c.key es fs) ∧
      g.accepts (.object es) = g.accepts (.object fs) ∧ g.accepts (.object fs) = false ∧
      Criterion.accepts ⟨"a", .present true⟩ (.object es) = true ∧
      Criterion.accepts ⟨"a", .present true⟩ (.object fs) = false := by
  let f : Filter :=
    ⟨[⟨"a", .oneOf [.int 1, .null]⟩, ⟨"b", .notEqualTo (.int 0)⟩, ⟨"c", .greater (.long 4)⟩]⟩
  let g : Filter := ⟨[⟨"c", .equalTo (.int 5)⟩, ⟨"b", .hasKind .null⟩, ⟨"a", .containsAll []⟩]⟩
  let es : List (String × Value) := [("c", .int 5), ("a", .null), ("x", .bool true)]
  let fs : List (String × Value) := [("b", .null), ("c", .int 5)]
  have ha : AgreeAt "a" es fs := .inr ⟨.null, .absent⟩
  have hb : AgreeAt "b" es fs := .inr ⟨.absent, .null⟩
  have hc : AgreeAt "c" es fs := .inl ⟨.int 5, rfl, rfl⟩
  have hf : ∀ c ∈ f.criteria, ¬ c.operator.AsksPresence := by simp [f, Operator.AsksPresence]
  have hg : ∀ c ∈ g.criteria, ¬ c.operator.AsksPresence := by simp [g, Operator.AsksPresence]
  have hfagree : ∀ c ∈ f.criteria, AgreeAt c.key es fs := by simp [f, ha, hb, hc]
  have hgagree : ∀ c ∈ g.criteria, AgreeAt c.key es fs := by simp [g, ha, hb, hc]
  exact ⟨f, g, es, fs, rfl, rfl, rfl, rfl, hf, hfagree, (accepts_of_agree f).1 hf es fs hfagree,
    by decide +kernel, hg, hgagree, (accepts_of_agree g).1 hg es fs hgagree,
      by decide +kernel, rfl, rfl⟩

end Filter

end DocPath

import DocPath.Filter.Criterion

/-! # Filters

A filter is a row of criteria, all of which a node has to pass.  It grows by
criteria at its end. -/

namespace DocPath

/-- A conjunction of criteria. -/
structure Filter where
  criteria : List Criterion := []

namespace Filter

/-- The place of the first criterion that a node fails. -/
def rejectedBy? (f : Filter) (node : Value) : Option Nat :=
  f.criteria.findIdx? fun c => !c.accepts node

/-- Whether a node passes every criterion. -/
def accepts (f : Filter) (node : Value) : Bool :=
  (f.rejectedBy? node).isNone

/-- The filter with further criteria at its end. -/
def append (f : Filter) (criteria : List Criterion) : Filter :=
  ⟨f.criteria ++ criteria⟩

instance : BEq Filter := ⟨fun f g => f.criteria == g.criteria⟩

/-- The texts of the criteria, joined as a conjunction. -/
def text (f : Filter) : String :=
  if f.criteria.isEmpty then "<accept all>"
  else " && ".intercalate (f.criteria.map Criterion.text)

end Filter

end DocPath

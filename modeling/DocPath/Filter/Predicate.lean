import DocPath.Event
import DocPath.Filter.Basic

/-! # Predicates

A predicate accepts or rejects nodes.  It is a filter, a single criterion or any
test; or it is a shared filter, which is known by its handle, may still grow,
and can be poisoned, after which it rejects every node. -/

namespace DocPath

/-- The name by which a shared filter is known, also after another filter has
taken its place. -/
structure Handle where
  number : Nat
deriving DecidableEq, Repr

/-- A filter that several paths share. -/
structure SharedFilter where
  filter : Filter
  poisoned : Bool := false

/-- The shared filters, each under the number of its handle. -/
structure Shelf where
  filters : List SharedFilter := []

namespace Shelf

/-- The shared filter of a handle. -/
def get? (shelf : Shelf) (h : Handle) : Option SharedFilter := shelf.filters[h.number]?

/-- Shares a further filter. -/
def add (shelf : Shelf) (f : Filter) : Handle × Shelf :=
  (⟨shelf.filters.length⟩, ⟨shelf.filters ++ [{ filter := f }]⟩)

/-- Changes the shared filter of a handle. -/
def modify (shelf : Shelf) (h : Handle) (change : SharedFilter → SharedFilter) : Shelf :=
  ⟨shelf.filters.modify h.number change⟩

/-- Adds criteria at the end of a shared filter. -/
def append (shelf : Shelf) (h : Handle) (criteria : List Criterion) : Shelf :=
  shelf.modify h fun s => { s with filter := s.filter.append criteria }

/-- Makes a shared filter useless. -/
def poison (shelf : Shelf) (h : Handle) : Shelf :=
  shelf.modify h fun s => { s with poisoned := true }

end Shelf

namespace Filter

/-- Puts the filter to a node and reports that. -/
def test (f : Filter) (node : Value) : Traced Bool :=
  let rejectedBy := f.rejectedBy? node
  ⟨rejectedBy.isNone, [.filterEvaluated f.criteria.length rejectedBy]⟩

end Filter

/-- A test of nodes. -/
inductive Predicate where
  | filter (f : Filter)
  | criterion (c : Criterion)
  | custom (accepts : Value → Bool)
  | shared (h : Handle)

namespace Predicate

/-- All of the criteria, as a test that does not say what it consists of. -/
def ofChain (criteria : List Criterion) : Predicate :=
  custom fun node => criteria.all (·.accepts node)

/-- Puts a predicate to a node. -/
def test (shelf : Shelf) (p : Predicate) (node : Value) : Traced Bool :=
  match p with
  | filter f => f.test node
  | criterion c => .pure (c.accepts node)
  | custom accepts => .pure (accepts node)
  | shared h =>
    match shelf.get? h with
    | some ⟨f, false⟩ => f.test node
    | _ => ⟨false, [.filterPoisoned]⟩

/-- Whether a predicate accepts a node. -/
def accepts (shelf : Shelf) (p : Predicate) (node : Value) : Bool :=
  (p.test shelf node).value

/-- What a predicate says of itself. -/
def text (shelf : Shelf) : Predicate → String
  | filter f => f.text
  | criterion c => c.text
  | custom _ => "custom predicate"
  | shared h =>
    match shelf.get? h with
    | some ⟨f, false⟩ => f.text
    | _ => "poisoned predicate"

end Predicate

end DocPath

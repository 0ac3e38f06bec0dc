import DocPath.Path.Compiled
import DocPath.Text.Inspect

/-! # Applying steps

A step takes a node to the nodes that it selects below it, in document order;
where it does not apply it selects nothing. -/

namespace DocPath

namespace Slice

/-- The place that a bound of a slice means in a row of `length` elements,
within the row. -/
def clamp (length : Int) (bound : Int) : Nat :=
  (max 0 (min (Value.place length.toNat bound) length)).toNat

/-- The first place of a slice and the place after its last one.  Lengths beyond
the range of indices count as the greatest index. -/
def bounds (length : Nat) (start stop : Option Int64) : Nat × Nat :=
  let counted : Int := min length Int64.maxValue.toInt
  let place (bound : Int64) : Nat := clamp counted bound.toInt
  ((start.map place).getD 0, (stop.map place).getD length)

end Slice

namespace Value

/-- The value under a name in an object, or in the objects among the elements of
an array if these are looked into. -/
def project (name : String) (projectArrays : Bool) (v : Value) : List Value :=
  match v with
  | object entries => (entries.lookup name).toList
  | array items => if projectArrays then items.filterMap (·.get? name) else []
  | _ => []

/-- The elements of an array within the bounds of a slice. -/
def slice (start stop : Option Int64) (v : Value) : List Value :=
  match v with
  | array items =>
    let (first, last) := Slice.bounds items.length start stop
    (items.take last).drop first
  | _ => []

end Value

namespace Predicate

/-- Those of the nodes that a predicate accepts. -/
def keep (shelf : Shelf) (p : Predicate) : List Value → Traced (List Value)
  | [] => pure []
  | v :: vs => do
    let accepted ← p.test shelf v
    let rest ← keep shelf p vs
    pure (if accepted then v :: rest else rest)

/-- The elements of an array that a predicate accepts if arrays are looked into,
otherwise the node itself if it is accepted. -/
def select (shelf : Shelf) (p : Predicate) (expandArrays : Bool) (v : Value) :
    Traced (List Value) :=
  match v, expandArrays with
  | .array items, true => p.keep shelf items
  | v, _ => p.keep shelf [v]

end Predicate

namespace Step

/-- The nodes that a step selects below a node. -/
def apply (shelf : Shelf) (v : Value) : Step → Traced (List Value)
  | root => pure [v]
  | property name projectArrays => pure (v.project name projectArrays)
  | wildcard => pure v.children
  | descent => pure v.descendants
  | index n => pure (v.getIndex? n).toList
  | indices ns => pure (ns.filterMap v.getIndex?)
  | slice start stop => pure (v.slice start stop)
  | predicate p expandArrays => p.select shelf expandArrays v

/-- The nodes that a step selects below each of the nodes, one after the
other. -/
def applyAll (shelf : Shelf) (step : Step) : List Value → Traced (List Value)
  | [] => pure []
  | v :: vs => do
    let selected ← step.apply shelf v
    let rest ← applyAll shelf step vs
    pure (selected ++ rest)

/-- A bound of a slice for developers. -/
def inspectBound (bound : Option Int64) : String :=
  Inspect.option (bound.map fun n => textOfInt n.toInt)

/-- A step for developers. -/
def inspect (shelf : Shelf) : Step → String
  | root => "Root"
  | property name projectArrays =>
    Inspect.record "Property" [("name", Inspect.string name),
      ("project_arrays", Inspect.bool projectArrays)]
  | wildcard => "Wildcard"
  | descent => "RecursiveDescent"
  | index n => Inspect.tagged "Index" (textOfInt n.toInt)
  | indices ns => Inspect.tagged "Indices" (Inspect.list (ns.map fun n => textOfInt n.toInt))
  | slice start stop =>
    Inspect.record "Slice" [("start", inspectBound start), ("end", inspectBound stop)]
  | predicate p expandArrays =>
    Inspect.record "Predicate" [("predicate", Inspect.string (p.text shelf)),
      ("expand_arrays", Inspect.bool expandArrays)]

end Step

namespace CompiledPath

/-- A compiled path for developers. -/
def inspect (shelf : Shelf) (path : CompiledPath) : String :=
  Inspect.record "CompiledPath" [("original", Inspect.string path.source),
    ("steps", Inspect.list (path.steps.map (·.inspect shelf))),
    ("definite", Inspect.bool path.isDefinite)]

end CompiledPath

end DocPath

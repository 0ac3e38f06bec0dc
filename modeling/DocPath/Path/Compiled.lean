import DocPath.Filter.Predicate
import DocPath.Filter.Reader
import DocPath.Path.Reader

/-! # Compiled paths

Compiling turns each fragment of a path into a step.  Placeholders take the
supplied predicates in their order, and predicates written in the path become
filters. -/

namespace DocPath

/-- What a path does to the nodes that are selected so far. -/
inductive Step where
  | root
  /-- The value under a name in each object; in the elements of arrays too, if
  `projectArrays`. -/
  | property (name : String) (projectArrays : Bool)
  | wildcard
  | descent
  | index (n : Int64)
  | indices (ns : List Int64)
  | slice (start stop : Option Int64)
  /-- The accepted nodes; of arrays the accepted elements, if `expandArrays`. -/
  | predicate (p : Predicate) (expandArrays : Bool)

/-- A path that is ready to be read. -/
structure CompiledPath where
  source : String
  fragments : List Fragment
  steps : List Step

namespace CompiledPath

/-- Whether no fragment selects more than one node below a node. -/
def isDefinite (path : CompiledPath) : Bool := path.fragments.all (·.isDefinite)

/-- The number of predicates, supplied or written in the path. -/
def predicateCount (path : CompiledPath) : Nat := path.fragments.countP (·.isPredicate)

/-- How a path is read when nothing else is asked for. -/
def readMode (path : CompiledPath) : ReadMode := if path.isDefinite then .single else .list

end CompiledPath

namespace Compiler

/-- The steps of fragments, and the predicates that are left over.  `bound`
predicates are already taken.  Directly after a descent, which has visited the
elements of arrays by itself, arrays are not looked into. -/
def steps (source : String) (placeholders : Nat) :
    (bound : Nat) → (afterDescent : Bool) → List Fragment → List Predicate →
      Except Error (List Step × List Predicate)
  | _, _, [], supplied => .ok ([], supplied)
  | bound, afterDescent, fragment :: fragments, supplied =>
    let next (step : Step) (bound : Nat) (supplied : List Predicate) :
        Except Error (List Step × List Predicate) :=
      (steps source placeholders bound (fragment == .descent) fragments supplied).map
        fun (rest, left) => (step :: rest, left)
    match fragment with
    | .root => next .root bound supplied
    | .property name => next (.property name !afterDescent) bound supplied
    | .wildcard => next .wildcard bound supplied
    | .descent => next .descent bound supplied
    | .index n => next (.index n) bound supplied
    | .indices ns => next (.indices ns) bound supplied
    | .slice start stop => next (.slice start stop) bound supplied
    | .placeholder =>
      match supplied with
      | [] => .error (.bindingMismatch source placeholders bound)
      | p :: supplied => next (.predicate p !afterDescent) (bound + 1) supplied
    | .expression text =>
      match Filter.ofText text with
      | .error e => .error e
      | .ok f => next (.predicate (.filter f) !afterDescent) bound supplied

/-- The number of placeholders among fragments. -/
def placeholders (fragments : List Fragment) : Nat := fragments.countP (· == .placeholder)

/-- The fragments of a path within the limits. -/
def fragments (config : Config) (source : String) : Except Error (List Fragment) :=
  match config.validate with
  | .error fault => .error (.invalidConfig fault)
  | .ok () => Fragment.ofTextWithin config source

/-- The steps of fragments that are not too many, and the predicates left
over. -/
def bind (config : Config) (source : String) (fragments : List Fragment)
    (supplied : List Predicate) : Except Error (List Step × List Predicate) :=
  if config.maxFragments.toNat < fragments.length then
    .error (.invalidPath source
      (.tooManyFragments fragments.length config.maxFragments.toNat) none)
  else steps source (placeholders fragments) 0 false fragments supplied

end Compiler

namespace CompiledPath

/-- Compiles a path under limits with the predicates for its placeholders;
further ones are ignored. -/
def compile (source : String) (supplied : List Predicate) (config : Config) :
    Except Error CompiledPath := do
  let fragments ← Compiler.fragments config source
  let (steps, _) ← Compiler.bind config source fragments supplied
  pure ⟨source, fragments, steps⟩

/-- What compiling reports, whether or not it succeeds. -/
def compileEvents (source : String) (supplied : List Predicate) (config : Config) : List Event :=
  match Compiler.fragments config source with
  | .error _ => []
  | .ok fragments =>
    .tokenized source fragments.length ::
      match Compiler.bind config source fragments supplied with
      | .error _ => []
      | .ok (steps, left) =>
        (if left.isEmpty then [] else [.unbound left.length source]) ++
          [.compiled source steps.length (supplied.length - left.length)]

end CompiledPath

namespace Fragment

/-- Whether fragments hold predicates that can be read; the first fault, if
not. -/
def validatePredicates : List Fragment → Except Error Unit
  | [] => .ok ()
  | .expression text :: rest =>
    match Filter.ofText text with
    | .error e => .error e
    | .ok _ => validatePredicates rest
  | _ :: rest => validatePredicates rest

/-- Whether a path follows the grammar, whatever its length and its
placeholders. -/
def validate (source : String) : Except Error Unit := do
  validatePredicates (← ofText source)

end Fragment

end DocPath

import DocPath.Path.Step

/-! # Reading documents

Reading a path applies its steps one after the other to the nodes selected so
far, which at first is the document alone.  What is left is the list of matches,
in the order of the steps and with repetitions; a single read wants exactly
one. -/

namespace DocPath

/-- What a read gives. -/
inductive ReadResult where
  | list (matched : List Value)
  | single (matched : Value)

namespace ReadResult

/-- The matches; a single one is a list of one. -/
def toList : ReadResult → List Value
  | list vs => vs
  | single v => [v]

/-- The value of a single read. -/
def single? : ReadResult → Option Value
  | list _ => none
  | single v => some v

/-- The result as a document: a list becomes an array. -/
def toValue : ReadResult → Value
  | list vs => .array vs
  | single v => v

end ReadResult

/-- A list came out where the only match was to be read. -/
def Inconsistency.listForSingle : Inconsistency := .stated "single read produced a list"

namespace CompiledPath

/-- The nodes that steps select from nodes.  Nothing more is done once no node
is left. -/
def run (shelf : Shelf) (trace : Bool) (source : String) :
    (position : Nat) → List Step → List Value → Traced (List Value)
  | _, [], nodes => pure nodes
  | position, step :: steps, nodes => do
    let next ← step.applyAll shelf nodes
    if trace then Traced.emit (.stepApplied source position (step.inspect shelf) next.length)
    if next.isEmpty then pure next else run shelf trace source (position + 1) steps next

/-- The matches of a path in a document. -/
def select (shelf : Shelf) (trace : Bool) (path : CompiledPath) (document : Value) :
    Traced (List Value) :=
  run shelf trace path.source 0 path.steps [document]

/-- Reads all matches of a path, or the only one. -/
def evaluate (shelf : Shelf) (trace : Bool) (path : CompiledPath) (document : Value)
    (mode : ReadMode) : Traced (Except Error ReadResult) := do
  let matched ← path.select shelf trace document
  match mode, matched with
  | .list, _ => pure (.ok (.list matched))
  | .single, [] => pure (.error (.noSuchPath path.source))
  | .single, [v] => pure (.ok (.single v))
  | .single, _ =>
    Traced.emit (.severalMatches path.source path.isDefinite matched.length)
    pure (.error (.inconsistent path.source (.severalMatches matched.length)))

/-- All matches of a path. -/
def readList (shelf : Shelf) (path : CompiledPath) (document : Value) : List Value :=
  (path.select shelf false document).value

/-- Reads a path in the given mode. -/
def read (shelf : Shelf) (path : CompiledPath) (document : Value) (mode : ReadMode) :
    Except Error ReadResult :=
  (path.evaluate shelf false document mode).value

/-- The only match of a path. -/
def readSingle (shelf : Shelf) (path : CompiledPath) (document : Value) : Except Error Value :=
  match path.read shelf document .single with
  | .error e => .error e
  | .ok (.single v) => .ok v
  | .ok (.list _) => .error (.inconsistent path.source .listForSingle)

end CompiledPath

/-- A path with the predicates for its placeholders and its limits. -/
structure Query where
  path : String
  predicates : List Predicate := []
  config : Config := {}

namespace Query

/-- The query with a predicate for the next placeholder. -/
def bind (q : Query) (p : Predicate) : Query := { q with predicates := q.predicates ++ [p] }

/-- The query with predicates for the next placeholders. -/
def bindAll (q : Query) (ps : List Predicate) : Query := { q with predicates := q.predicates ++ ps }

/-- The query with steps reported or not. -/
def trace (q : Query) (on : Bool) : Query :=
  { q with config := { q.config with traceEvaluation := on } }

/-- Compiles the path of a query. -/
def compile (q : Query) : Except Error CompiledPath :=
  CompiledPath.compile q.path q.predicates q.config

/-- What compiling the path of a query reports. -/
def compileEvents (q : Query) : List Event :=
  CompiledPath.compileEvents q.path q.predicates q.config

/-- Compiles the path and goes on with it. -/
def compiled {α : Type} (q : Query) (use : CompiledPath → Traced (Except Error α)) :
    Traced (Except Error α) := do
  Traced.emitAll q.compileEvents
  match q.compile with
  | .error e => pure (.error e)
  | .ok path => use path

/-- Reads the only match if the path is definite, otherwise all matches. -/
def read (shelf : Shelf) (q : Query) (document : Value) : Traced (Except Error ReadResult) :=
  q.compiled fun path => do
    Traced.emit (.reading path.source path.readMode)
    path.evaluate shelf q.config.traceEvaluation document path.readMode

/-- Reads all matches. -/
def readList (shelf : Shelf) (q : Query) (document : Value) : Traced (Except Error (List Value)) :=
  q.compiled fun path => do
    let matched ← path.select shelf q.config.traceEvaluation document
    pure (.ok matched)

/-- Reads the only match. -/
def readSingle (shelf : Shelf) (q : Query) (document : Value) : Traced (Except Error Value) :=
  q.compiled fun path => do
    match ← path.evaluate shelf q.config.traceEvaluation document .single with
    | .error e => pure (.error e)
    | .ok result =>
      match result.single? with
      | some v => pure (.ok v)
      | none => pure (.error (.inconsistent q.path .listForSingle))

/-- A query for developers. -/
def inspect (shelf : Shelf) (q : Query) : String :=
  Inspect.record "JsonPathBuilder" [("path", Inspect.string q.path),
    ("filters", Inspect.list (q.predicates.map fun p => Inspect.string (p.text shelf))),
    ("config", Inspect.record "PathConfig" [
      ("max_path_length", toString q.config.maxPathLength.toNat),
      ("max_fragments", toString q.config.maxFragments.toNat),
      ("trace_evaluation", Inspect.bool q.config.traceEvaluation)])]

end Query

/-- Reads a path in a document as its shape asks for, under the usual limits. -/
def readPath (shelf : Shelf) (document : Value) (path : String) (supplied : List Predicate) :
    Except Error ReadResult := do
  let compiled ← CompiledPath.compile path supplied {}
  compiled.read shelf document compiled.readMode

/-- Reads a path in a JSON tree, and gives the result as one. -/
def readTree (shelf : Shelf) (tree : Json.Tree) (path : String) (supplied : List Predicate) :
    Except Error Json.Tree :=
  (readPath shelf (.ofTree tree) path supplied).map fun result => result.toValue.toTree

end DocPath

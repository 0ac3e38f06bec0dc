import DocPath.Path.Read

/-! # Workspaces

A workspace keeps documents, shared filters, compiled paths and queries under
names.  A name that is given again goes over to the new thing; the paths and
queries that a shared filter is bound to keep that filter, and see every
criterion that is added to it. -/

namespace DocPath

/-- Why something cannot be done in a workspace. -/
inductive WorkspaceError where
  | unknownName (name : String)
  /-- The shared filter is poisoned and takes no more criteria. -/
  | poisoned
  | failed (e : Error)
deriving DecidableEq, Repr

/-- Named things, with the shared filters that they use. -/
structure Workspace where
  documents : List (String × Value) := []
  filters : List (String × Handle) := []
  paths : List (String × CompiledPath) := []
  queries : List (String × Query) := []
  shelf : Shelf := {}

namespace Workspace

/-- What is kept under a name. -/
def find {α : Type} (named : List (String × α)) (name : String) : Except WorkspaceError α :=
  match named.lookup name with
  | some a => .ok a
  | none => .error (.unknownName name)

def document (w : Workspace) (name : String) : Except WorkspaceError Value := find w.documents name
def handle (w : Workspace) (name : String) : Except WorkspaceError Handle := find w.filters name
def path (w : Workspace) (name : String) : Except WorkspaceError CompiledPath := find w.paths name
def query (w : Workspace) (name : String) : Except WorkspaceError Query := find w.queries name

/-- Keeps a document under a name. -/
def putDocument (w : Workspace) (name : String) (v : Value) : Workspace :=
  { w with documents := insertEntry name v w.documents }

/-- Keeps a compiled path under a name. -/
def putPath (w : Workspace) (name : String) (path : CompiledPath) : Workspace :=
  { w with paths := insertEntry name path w.paths }

/-- Keeps a query under a name. -/
def putQuery (w : Workspace) (name : String) (query : Query) : Workspace :=
  { w with queries := insertEntry name query w.queries }

/-- Shares a further filter and keeps it under a name. -/
def share (w : Workspace) (name : String) (f : Filter) : Workspace :=
  let (h, shelf) := w.shelf.add f
  { w with filters := insertEntry name h w.filters, shelf := shelf }

/-- A shared filter that still takes criteria. -/
def growing (w : Workspace) (name : String) : Except WorkspaceError (Handle × Filter) := do
  let h ← w.handle name
  match w.shelf.get? h with
  | some ⟨f, false⟩ => .ok (h, f)
  | _ => .error .poisoned

/-- Adds criteria to the filter that is kept under a name. -/
def append (w : Workspace) (name : String) (criteria : List Criterion) :
    Except WorkspaceError Workspace := do
  let (h, _) ← w.growing name
  .ok { w with shelf := w.shelf.append h criteria }

/-- Adds criteria to the filter that is kept under a name, one at a time. -/
def appendEach (w : Workspace) (name : String) (criteria : List Criterion) :
    Except WorkspaceError Workspace :=
  criteria.foldlM (fun w c => w.append name [c]) w

/-- Poisons the filter that is kept under a name. -/
def poison (w : Workspace) (name : String) : Except WorkspaceError Workspace := do
  let h ← w.handle name
  .ok { w with shelf := w.shelf.poison h }

/-- Compiles a path under the usual limits and keeps it under a name. -/
def compile (w : Workspace) (name source : String) (supplied : List Predicate) :
    Except WorkspaceError Workspace :=
  match CompiledPath.compile source supplied {} with
  | .error e => .error (.failed e)
  | .ok path => .ok (w.putPath name path)

/-- Compiles the query that is kept under a name and keeps the path under
another. -/
def build (w : Workspace) (queryName pathName : String) : Except WorkspaceError Workspace := do
  let q ← w.query queryName
  match q.compile with
  | .error e => .error (.failed e)
  | .ok path => .ok (w.putPath pathName path)

/-- Keeps a copy of a query under a further name. -/
def copyQuery (w : Workspace) (source name : String) : Except WorkspaceError Workspace := do
  let q ← w.query source
  .ok (w.putQuery name q)

/-- Changes the query that is kept under a name. -/
def modifyQuery (w : Workspace) (name : String) (change : Query → Query) :
    Except WorkspaceError Workspace := do
  let q ← w.query name
  .ok (w.putQuery name (change q))

end Workspace

end DocPath

import DocPath.Error

/-! # Events

Compiling and reading report what they do as events.  An outcome with its events
is a `Traced` value, and running one after the other puts their events in a
row. -/

namespace DocPath

/-- How the matches of a path are wanted: all of them, or the only one. -/
inductive ReadMode where
  | list | single
deriving DecidableEq, Repr

namespace ReadMode

def name : ReadMode → String
  | list => "List"
  | single => "Single"

end ReadMode

/-- Something that was done. -/
inductive Event where
  /-- A path was split into fragments. -/
  | tokenized (path : String) (fragments : Nat)
  /-- Some of the supplied predicates had no placeholder. -/
  | unbound (count : Nat) (path : String)
  /-- A path was compiled. -/
  | compiled (path : String) (steps bound : Nat)
  /-- The shape of a path decided how it is read. -/
  | reading (path : String) (mode : ReadMode)
  /-- A filter was put to a node; the first criterion that rejected the node, if
  any. -/
  | filterEvaluated (criteria : Nat) (rejectedBy : Option Nat)
  /-- A shared filter could not be used any more. -/
  | filterPoisoned
  /-- A step was applied; the number of nodes that are left. -/
  | stepApplied (path : String) (position : Nat) (step : String) (nodes : Nat)
  /-- A single value was to be read, and there were several. -/
  | severalMatches (path : String) (definite : Bool) (count : Nat)
deriving DecidableEq, Repr

/-- How much an event matters. -/
inductive Level where
  | trace | debug | warn | error
deriving DecidableEq, Repr

namespace Level

def name : Level → String
  | trace => "TRACE"
  | debug => "DEBUG"
  | warn => "WARN"
  | error => "ERROR"

end Level

/-- How an event is recorded: as a line of a log, or as named fields for a
target, sorted by name. -/
inductive Record where
  | line (level : Level) (message : String)
  | fields (level : Level) (target : String) (fields : List (String × String))
deriving DecidableEq, Repr

namespace Event

def filterTarget : String := "waypath::jsonpath::filter"
def evaluatorTarget : String := "waypath::jsonpath::evaluator"

/-- The place of a rejecting criterion, or none. -/
def placeText : Option Nat → String
  | none => "None"
  | some n => s!"Some({n})"

def boolText (b : Bool) : String := if b then "true" else "false"

/-- The record of an event. -/
def record : Event → Record
  | tokenized path fragments =>
    .line .debug ("tokenized path '" ++ path ++ s!"' into {fragments} fragments")
  | unbound count path =>
    .line .debug (s!"{count} supplied filters left unbound by path '" ++ path ++ "'")
  | compiled path steps bound =>
    .line .debug ("compiled path '" ++ path ++ s!"' into {steps} steps ({bound} bound filters)")
  | reading path mode =>
    .line .debug ("reading '" ++ path ++ "' in " ++ mode.name ++ " mode")
  | filterEvaluated criteria rejectedBy =>
    .fields .trace filterTarget [("criteria", toString criteria),
      ("message", "filter evaluated"), ("rejected_by", placeText rejectedBy)]
  | filterPoisoned =>
    .fields .warn filterTarget [("message", "predicate lock poisoned, rejecting node")]
  | stepApplied path position step nodes =>
    .fields .trace evaluatorTarget [("message", "applied step"), ("nodes", toString nodes),
      ("path", path), ("position", toString position), ("step", step)]
  | severalMatches path definite count =>
    .fields .error evaluatorTarget [("definite", boolText definite), ("matches", toString count),
      ("message", "single read matched more than one value"), ("path", path)]

end Event

/-- An outcome with the events on the way to it. -/
structure Traced (α : Type) where
  value : α
  events : List Event
deriving Repr

namespace Traced

variable {α β : Type}

def pure (a : α) : Traced α := ⟨a, []⟩

def bind (x : Traced α) (f : α → Traced β) : Traced β :=
  let y := f x.value
  ⟨y.value, x.events ++ y.events⟩

instance : Monad Traced where
  pure := pure
  bind := bind

/-- Reports one event. -/
def emit (e : Event) : Traced Unit := ⟨(), [e]⟩

/-- Reports events in a row. -/
def emitAll (es : List Event) : Traced Unit := ⟨(), es⟩

end Traced

end DocPath

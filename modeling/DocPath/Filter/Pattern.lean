import DocPath.Error

/-! # Patterns

A pattern is a regular expression that has to match the whole of a text.  It is
compiled once, together with its flags, and goes by its source and flags alone.
What a regular expression is, and how a text is searched for it, is up to an
engine, which is a parameter here. -/

namespace DocPath

/-- How a pattern is compiled. -/
structure PatternFlags where
  caseInsensitive : Bool := false
  multiLine : Bool := false
  dotMatchesNewLine : Bool := false
deriving DecidableEq, Repr

/-- What builds regular expressions from their texts and searches other texts
for them. -/
structure Engine where
  /-- A regular expression in the form that the engine runs. -/
  Program : Type
  /-- The program for the text of a regular expression, unless the engine
  refuses the text. -/
  build? : PatternFlags → List Char → Option Program
  /-- Whether some part of a text matches. -/
  isMatch : Program → List Char → Bool

/-- The source between the marks for the start and the end of the text. -/
def anchored (source : String) : List Char :=
  "\\A(?:".toList ++ source.toList ++ ")\\z".toList

namespace Engine

/-- A pattern that an engine has compiled. -/
structure Pattern (engine : Engine) where
  source : String
  flags : PatternFlags
  program : engine.Program
  built : engine.build? flags (anchored source) = some program

variable {engine : Engine}

/-- Compiles a pattern.  The source is put between the marks as it stands. -/
def compile (engine : Engine) (source : String) (flags : PatternFlags) :
    Except Error engine.Pattern :=
  match h : engine.build? flags (anchored source) with
  | some program => .ok ⟨source, flags, program, h⟩
  | none => .error (.invalidPattern source)

namespace Pattern

/-- Whether the whole of a text matches. -/
def matches? (p : engine.Pattern) (text : String) : Bool :=
  engine.isMatch p.program text.toList

/-- Two patterns are the same when their sources and flags are. -/
instance : BEq engine.Pattern := ⟨fun p q => p.source == q.source && p.flags == q.flags⟩

/-- The source between slashes, marked where case makes no difference. -/
def text (p : engine.Pattern) : String :=
  "/" ++ p.source ++ "/" ++ (if p.flags.caseInsensitive then "i" else "")

end Pattern

end Engine

end DocPath

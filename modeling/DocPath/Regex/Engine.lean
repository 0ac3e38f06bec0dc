import DocPath.Filter.Pattern
import DocPath.Regex.Compile

/-! # The engine that patterns run on

The reader, the expressions and the matcher of this directory make up an engine.
The patterns of filters are compiled by it. -/

namespace DocPath

/-- The flags in force at the start of a pattern. -/
def PatternFlags.initial (f : PatternFlags) : Regex.Flags :=
  { ignoreCase := f.caseInsensitive, multiLine := f.multiLine, dotAll := f.dotMatchesNewLine }

/-- Patterns are read to expressions, which search a text from all its places at
once. -/
def Regex.engine : Engine where
  Program := Regex.Expr
  build? flags text := Regex.Expr.ofText? flags.initial text
  isMatch e text := e.isMatch text

/-- A pattern of a filter. -/
abbrev Pattern := Engine.Pattern Regex.engine

/-- Compiles a pattern of a filter. -/
def Pattern.compile (source : String) (flags : PatternFlags) : Except Error Pattern :=
  Regex.engine.compile source flags

end DocPath

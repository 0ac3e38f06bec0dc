import DocPath.Fault

/-! # Errors

An error says why a path does not compile, or why a single value cannot be read.
Each error has a kind, and its message names the path or pattern at fault. -/

namespace DocPath

/-- The kinds of errors. -/
inductive ErrorKind where
  | invalidPath | bindingMismatch | noSuchPath | invalidPattern | invalidConfig | inconsistent
deriving DecidableEq, Repr

namespace ErrorKind

/-- The words for a kind. -/
def text : ErrorKind → String
  | invalidPath => "invalid path format"
  | bindingMismatch => "filter binding mismatch"
  | noSuchPath => "no such path"
  | invalidPattern => "invalid pattern"
  | invalidConfig => "invalid configuration"
  | inconsistent => "internal error"

/-- Whether errors of a kind arise before any document is read. -/
def isCompileTime : ErrorKind → Bool
  | noSuchPath | inconsistent => false
  | _ => true

end ErrorKind

/-- Why limits are refused. -/
inductive ConfigFault where
  | zeroLength
  | zeroFragments
  | fragmentsBeyondLength (fragments limit : Nat)
  | stated (reason : String)
deriving DecidableEq, Repr

namespace ConfigFault

/-- The words for a fault of limits. -/
def message : ConfigFault → String
  | zeroLength => "max_path_length must be greater than 0"
  | zeroFragments => "max_fragments must be greater than 0"
  | fragmentsBeyondLength fragments limit =>
    s!"max_fragments ({fragments}) cannot exceed max_path_length + 1 ({limit})"
  | stated reason => reason

end ConfigFault

/-- What the shape of a path should have ruled out. -/
inductive Inconsistency where
  | severalMatches (count : Nat)
  | stated (reason : String)
deriving DecidableEq, Repr

namespace Inconsistency

/-- The words for an inconsistency. -/
def message : Inconsistency → String
  | severalMatches count => s!"single read matched {count} values"
  | stated reason => reason

end Inconsistency

/-- An error, with the text that it is about. -/
inductive Error where
  /-- The text breaks the grammar or a limit, at a position if there is one. -/
  | invalidPath (expression : String) (fault : Fault) (position : Option Nat)
  /-- A path has more placeholders than predicates were supplied. -/
  | bindingMismatch (expression : String) (placeholders supplied : Nat)
  /-- A single value was to be read, and there is none. -/
  | noSuchPath (expression : String)
  /-- The text is no regular expression. -/
  | invalidPattern (source : String)
  | invalidConfig (fault : ConfigFault)
  /-- A read had an outcome that the path should have ruled out. -/
  | inconsistent (expression : String) (cause : Inconsistency)
deriving DecidableEq, Repr

namespace Error

def kind : Error → ErrorKind
  | invalidPath .. => .invalidPath
  | bindingMismatch .. => .bindingMismatch
  | noSuchPath _ => .noSuchPath
  | invalidPattern _ => .invalidPattern
  | invalidConfig _ => .invalidConfig
  | inconsistent .. => .inconsistent

/-- The message of an error. -/
def message : Error → String
  | invalidPath expression fault position =>
    "invalid path '" ++ expression ++ "': " ++ fault.message ++
      match position with
      | some n => s!" at position {n}"
      | none => ""
  | bindingMismatch expression placeholders supplied =>
    "path '" ++ expression ++ "' has " ++
      s!"{placeholders} filter placeholders but only {supplied} filters were supplied"
  | noSuchPath expression => "no value found at path '" ++ expression ++ "'"
  | invalidPattern source => "pattern '" ++ source ++ "' failed to compile"
  | invalidConfig fault => fault.message
  | inconsistent expression cause => "'" ++ expression ++ "': " ++ cause.message

/-- The error as one line: its kind and its message. -/
def display (e : Error) : String :=
  "JSON Path Error (" ++ e.kind.text ++ "): " ++ e.message

/-- Whether the error arises before any document is read. -/
def isCompileTime (e : Error) : Bool := e.kind.isCompileTime

end Error

end DocPath

/-! # Faults in paths and predicates

A fault is the reason why the text of a path or of a predicate is refused.  A
reader that meets one says where: by the number of characters that were left to
read, or, inside the brackets of a path, by the place in their content. -/

namespace DocPath

/-- What the sign after which a separator is missing closes. -/
inductive Closed where
  | bracket | quotedName
deriving DecidableEq, Repr

/-- Why a text is refused. -/
inductive Fault where
  | emptyPath
  | dots (count : Nat)
  | strayBracket
  | unterminatedBracket
  | unterminatedQuote
  | incompleteUnicode
  | invalidUnicode
  | invalidEscape (c : Char)
  | missingSeparator (c : Char) (after : Closed)
  | quoteInName (c : Char)
  | emptyName
  | emptyBrackets
  | contentAfterQuote (literal : String)
  | malformedPredicate (rest : String)
  | sliceStep (content : String)
  | unrecognizedSegment (text : String)
  | pathTooLong (length limit : Nat)
  | tooManyFragments (count limit : Nat)
  | expectedNode
  | expectedAccessor
  | expectedName
  | expectedQuotedName
  | expectedClosingBracket
  | nestedAccessor
  | negatedComparison
  | expectedLiteral
  | noLiteral (c : Char)
  | unknownWord (word : String)
  | invalidNumber (text : String)
  | disjunction
  | unexpected (c : Char)
  | stated (reason : String)
deriving DecidableEq, Repr

namespace Closed

def text : Closed → String
  | bracket => "']'"
  | quotedName => "quoted name"

end Closed

namespace Fault

/-- A character in quotes. -/
def quoted (c : Char) : String := "'" ++ String.singleton c ++ "'"

/-- The words for a fault. -/
def message : Fault → String
  | emptyPath => "empty path"
  | dots count => s!"{count} consecutive dots, use '.' or '..'"
  | strayBracket => "unexpected ']' without matching '['"
  | unterminatedBracket => "unterminated bracket"
  | unterminatedQuote => "unterminated quote"
  | incompleteUnicode => "incomplete unicode escape sequence"
  | invalidUnicode => "invalid unicode escape sequence"
  | invalidEscape c => "invalid escape sequence '\\" ++ String.singleton c ++ "'"
  | missingSeparator c after =>
    "unexpected " ++ quoted c ++ " after " ++ after.text ++ ", expected '.' or '['"
  | quoteInName c => "unexpected quote " ++ quoted c ++ " inside name"
  | emptyName => "empty property name"
  | emptyBrackets => "empty brackets"
  | contentAfterQuote literal => "unexpected content after quoted name in '[" ++ literal ++ "]'"
  | malformedPredicate rest =>
    "malformed predicate '[?" ++ rest ++ "]', expected '[?]' or '[?(expression)]'"
  | sliceStep content => "slice step is not supported in '[" ++ content ++ "]'"
  | unrecognizedSegment text => "unrecognized bracket segment '[" ++ text ++ "]'"
  | pathTooLong length limit => s!"path length {length} exceeds configured maximum {limit}"
  | tooManyFragments count limit => s!"{count} fragments exceed configured maximum {limit}"
  | expectedNode => "expected '@'"
  | expectedAccessor => "'@' must be followed by a property accessor"
  | expectedName => "expected property name after '@.'"
  | expectedQuotedName => "expected quoted property name after '@['"
  | expectedClosingBracket => "expected ']' after quoted property name"
  | nestedAccessor => "nested property paths are not supported"
  | negatedComparison => "'!' only applies to existence tests"
  | expectedLiteral => "expected a literal"
  | noLiteral c => "unexpected " ++ quoted c ++ ", expected a literal"
  | unknownWord word => "unknown literal '" ++ word ++ "'"
  | invalidNumber text => "invalid number '" ++ text ++ "'"
  | disjunction => "'||' is not supported, predicates are conjunctions"
  | unexpected c => "unexpected " ++ quoted c
  | stated reason => reason

end Fault

/-- A fault with the number of characters that were left to read when it was
met. -/
structure Stop where
  fault : Fault
  remaining : Nat
deriving DecidableEq, Repr

namespace Stop

/-- The position of the fault in a text of the given length. -/
def position (s : Stop) (length : Nat) : Nat := length - s.remaining

end Stop

/-- A mapped outcome is a success only of a success. -/
theorem eq_ok_of_map_eq_ok {ε α β : Type} {f : α → β} {x : Except ε α} {b : β}
    (h : x.map f = .ok b) : ∃ a, x = .ok a ∧ f a = b := by
  cases x with
  | error e => simp [Except.map] at h
  | ok a => exact ⟨a, rfl, by simpa [Except.map] using h⟩

end DocPath

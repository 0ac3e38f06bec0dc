import DocPath.Regex.Matcher
import DocPath.Regex.Reader

/-! # Compiling patterns

A pattern compiles when it has a tree, the tree has an expression under the
flags, and neither is beyond the limits: repetitions that multiply make a short
pattern stand for a huge one.  The size of an expression is an estimate, and no
property of patterns rests on it. -/

namespace DocPath.Regex

/-- How deep a pattern may be nested. -/
def maxDepth : Nat := 250

/-- The greatest size of an expression, in bytes. -/
def maxSize : Nat := 10 * 1024 * 1024

namespace Expr

/-- About how many bytes an automaton for the expression takes: a state for each
byte of a character, more for sets of many ranges, and copies of a body for the
rounds of a repetition. -/
def size : Expr → Nat
  | empty => 0
  | set s => 32 * max s.states 1
  | look _ => 32
  | seq a b => a.size + b.size
  | alt a b => a.size + b.size + 40
  | repetition min none body => max min 1 * body.size + 40
  | repetition min (some max) body => max * body.size + 40 * (max - min)

/-- The expression of a pattern text under the flags, however deep and large. -/
def read? (f : Flags) (text : List Char) : Option Expr := do
  (ofTree? f (← Tree.read? text)).map Prod.fst

/-- Whether the tree and the expression of a pattern text keep to the limits. -/
def fits (f : Flags) (text : List Char) : Bool :=
  (Tree.read? text).all (·.depth ≤ maxDepth) && (read? f text).all (·.size ≤ maxSize)

/-- The expression of a pattern text within the limits. -/
def ofText? (f : Flags) (text : List Char) : Option Expr :=
  if fits f text then read? f text else none

end Expr

end DocPath.Regex

import DocPath.Unicode.Query

/-! # Pattern trees

The tree of a pattern as it is written: literals, classes, assertions, groups,
repetitions and alternatives, with the flags where they are switched.  What a
tree means depends on the flags in force and is settled by `Regex.Expr`. -/

namespace DocPath.Regex

/-- What a pattern can switch: letter case, lines, the dot, greed, Unicode, line
ends, and blanks and comments inside the pattern. -/
inductive Flag where
  | ignoreCase | multiLine | dotAll | swapGreed | unicode | crlf | verbose
deriving DecidableEq, Repr

namespace Flag

/-- The flag that a letter stands for. -/
def ofChar? : Char → Option Flag
  | 'i' => some ignoreCase
  | 'm' => some multiLine
  | 's' => some dotAll
  | 'U' => some swapGreed
  | 'u' => some unicode
  | 'R' => some crlf
  | 'x' => some verbose
  | _ => none

end Flag

/-- A flag together with the value it is switched to. -/
abbrev FlagChange := Flag × Bool

/-- A character of a pattern.  `byte` marks one written by two hexadecimal
digits, which stands for a byte where Unicode is switched off. -/
structure Literal where
  char : Char
  byte : Bool
deriving DecidableEq, Repr

/-- A place in the text, by what lies before and after it. -/
inductive Assertion where
  | lineStart | lineEnd | textStart | textEnd
  | wordBoundary | notWordBoundary | wordStart | wordEnd | wordStartHalf | wordEndHalf
deriving DecidableEq, Repr

/-- The classes with a letter of their own. -/
inductive LetterClass where
  | digit | blank | word
deriving DecidableEq, Repr

/-- The classes with a bracketed name such as `[:alpha:]`, which hold ASCII
characters only. -/
inductive NamedClass where
  | alnum | alpha | ascii | blank | cntrl | digit | graph | lower | print | punct | space | upper
  | word | xdigit
deriving DecidableEq, Repr

namespace NamedClass

def ofName? : String → Option NamedClass
  | "alnum" => some alnum
  | "alpha" => some alpha
  | "ascii" => some ascii
  | "blank" => some blank
  | "cntrl" => some cntrl
  | "digit" => some digit
  | "graph" => some graph
  | "lower" => some lower
  | "print" => some print
  | "punct" => some punct
  | "space" => some space
  | "upper" => some upper
  | "word" => some word
  | "xdigit" => some xdigit
  | _ => none

/-- The ranges of the class. -/
def ranges : NamedClass → List (Char × Char)
  | alnum => [('0', '9'), ('A', 'Z'), ('a', 'z')]
  | alpha => [('A', 'Z'), ('a', 'z')]
  | ascii => [('\x00', '\x7F')]
  | blank => [('\t', '\t'), (' ', ' ')]
  | cntrl => [('\x00', '\x1F'), ('\x7F', '\x7F')]
  | digit => [('0', '9')]
  | graph => [('!', '~')]
  | lower => [('a', 'z')]
  | print => [(' ', '~')]
  | punct => [('!', '/'), (':', '@'), ('[', '\x60'), ('\x7B', '~')]
  | space => [('\t', '\r'), (' ', ' ')]
  | upper => [('A', 'Z')]
  | word => [('0', '9'), ('A', 'Z'), ('_', '_'), ('a', 'z')]
  | xdigit => [('0', '9'), ('A', 'F'), ('a', 'f')]

end NamedClass

/-- The operations between the parts of a bracketed class. -/
inductive SetOperation where
  | intersection | difference | symmetricDifference
deriving DecidableEq, Repr

/-- The content of a bracketed class. -/
inductive ClassTree where
  | empty
  | literal (l : Literal)
  | range (lo hi : Literal)
  | named (negated : Bool) (kind : NamedClass)
  | letter (negated : Bool) (kind : LetterClass)
  | property (negated : Bool) (query : Unicode.Query)
  | bracket (negated : Bool) (content : ClassTree)
  | union (items : List ClassTree)
  | operation (kind : SetOperation) (left right : ClassTree)

/-- A pattern as it is written. -/
inductive Tree where
  | empty
  | flags (changes : List FlagChange)
  | literal (l : Literal)
  | dot
  | assertion (a : Assertion)
  | letter (negated : Bool) (kind : LetterClass)
  | property (negated : Bool) (query : Unicode.Query)
  | bracket (negated : Bool) (content : ClassTree)
  | repetition (min : Nat) (max : Option Nat) (body : Tree)
  | group (changes : List FlagChange) (body : Tree)
  | concat (items : List Tree)
  | alternation (branches : List Tree)

namespace ClassTree

/-- The union of items listed from the last to the first. -/
def ofItems : List ClassTree → ClassTree
  | [] => empty
  | [item] => item
  | items => union items.reverse

mutual

/-- How deep brackets, unions and operations are nested. -/
def depth : ClassTree → Nat
  | bracket _ content => content.depth + 1
  | union items => depthAll items + 1
  | operation _ left right => max left.depth right.depth + 1
  | _ => 0

def depthAll : List ClassTree → Nat
  | [] => 0
  | item :: items => max item.depth (depthAll items)

end

end ClassTree

namespace Tree

/-- The concatenation of items listed from the last to the first. -/
def ofItems : List Tree → Tree
  | [] => empty
  | [item] => item
  | items => concat items.reverse

mutual

/-- How deep groups, repetitions, classes, concatenations and alternatives are
nested. -/
def depth : Tree → Nat
  | bracket _ content => content.depth + 1
  | repetition _ _ body => body.depth + 1
  | group _ body => body.depth + 1
  | concat items => depthAll items + 1
  | alternation branches => depthAll branches + 1
  | _ => 0

def depthAll : List Tree → Nat
  | [] => 0
  | item :: items => max item.depth (depthAll items)

end

end Tree

end DocPath.Regex

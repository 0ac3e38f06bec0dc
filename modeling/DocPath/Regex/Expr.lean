import DocPath.Regex.CharSet
import DocPath.Regex.Tree

/-! # Regular expressions

A regular expression consumes characters from sets and looks at the places
between characters.  `Expr.ofTree?` settles what a pattern tree means under the
flags in force, and refuses classes that do not exist or that Unicode, where it
is switched off, cannot do without. -/

namespace DocPath.Regex

/-- The flags in force. -/
structure Flags where
  ignoreCase : Bool := false
  multiLine : Bool := false
  dotAll : Bool := false
  unicode : Bool := true
  crlf : Bool := false
deriving DecidableEq, Repr

namespace Flags

/-- Switches one flag.  Greed and verbosity do not bear on what an expression
means. -/
def switch (f : Flags) : FlagChange → Flags
  | (.ignoreCase, v) => { f with ignoreCase := v }
  | (.multiLine, v) => { f with multiLine := v }
  | (.dotAll, v) => { f with dotAll := v }
  | (.unicode, v) => { f with unicode := v }
  | (.crlf, v) => { f with crlf := v }
  | (.swapGreed, _) | (.verbose, _) => f

def switchAll (f : Flags) (changes : List FlagChange) : Flags :=
  changes.foldl switch f

end Flags

/-- A property of a place in the text. -/
inductive Look where
  | textStart | textEnd
  | lineStart (crlf : Bool) | lineEnd (crlf : Bool)
  | wordBoundary (unicode : Bool) | notWordBoundary (unicode : Bool)
  | wordStart (unicode : Bool) | wordEnd (unicode : Bool)
  | wordStartHalf (unicode : Bool) | wordEndHalf (unicode : Bool)
deriving DecidableEq, Repr

namespace Look

/-- Whether the character on one side of a place belongs to a word. -/
def isWord (unicode : Bool) : Option Char → Bool
  | none => false
  | some c =>
    if unicode then CharSet.wordCharacters.contains c else CharSet.asciiWordCharacters.contains c

/-- Whether a place has the property, given the characters before and after
it. -/
def holds (before after : Option Char) : Look → Bool
  | textStart => before.isNone
  | textEnd => after.isNone
  | lineStart false => before.isNone || before == some '\n'
  | lineEnd false => after.isNone || after == some '\n'
  | lineStart true =>
    before.isNone || before == some '\n' || (before == some '\r' && after != some '\n')
  | lineEnd true =>
    after.isNone || after == some '\r' || (after == some '\n' && before != some '\r')
  | wordBoundary u => isWord u before != isWord u after
  | notWordBoundary u => isWord u before == isWord u after
  | wordStart u => !isWord u before && isWord u after
  | wordEnd u => isWord u before && !isWord u after
  | wordStartHalf u => !isWord u before
  | wordEndHalf u => !isWord u after

/-- The property that an assertion stands for under the flags. -/
def ofAssertion (f : Flags) : Assertion → Look
  | .textStart => textStart
  | .textEnd => textEnd
  | .lineStart => if f.multiLine then lineStart f.crlf else textStart
  | .lineEnd => if f.multiLine then lineEnd f.crlf else textEnd
  | .wordBoundary => wordBoundary f.unicode
  | .notWordBoundary => notWordBoundary f.unicode
  | .wordStart => wordStart f.unicode
  | .wordEnd => wordEnd f.unicode
  | .wordStartHalf => wordStartHalf f.unicode
  | .wordEndHalf => wordEndHalf f.unicode

end Look

namespace CharSet

/-- The set closed under case, if the flags ask for that. -/
def folded (f : Flags) (s : CharSet) : CharSet :=
  if f.ignoreCase then (if f.unicode then s.foldCase else s.foldAsciiCase) else s

/-- The set closed under case as the flags ask, and then its complement if
`negated` is set.  Without Unicode a complement would hold bytes that are no
characters and is refused. -/
def finish? (f : Flags) (negated : Bool) (s : CharSet) : Option CharSet :=
  if negated && !f.unicode then none else some (negateIf negated (s.folded f))

def ofLetterClass (f : Flags) : LetterClass → CharSet
  | .digit => if f.unicode then decimalDigits else asciiDigits
  | .blank => if f.unicode then blanks else asciiBlanks
  | .word => if f.unicode then wordCharacters else asciiWordCharacters

/-- The class of a letter or its complement, which without Unicode is
refused. -/
def letter? (f : Flags) (negated : Bool) (kind : LetterClass) : Option CharSet :=
  if negated && !f.unicode then none else some (negateIf negated (ofLetterClass f kind))

/-- The class that a query asks for or its complement, which both need
Unicode. -/
def property? (f : Flags) (negated : Bool) (q : Unicode.Query) : Option CharSet := do
  if f.unicode then (← ofQuery? q).finish? f negated else none

/-- The character of a literal inside a class, which without Unicode has to be
ASCII. -/
def classChar? (f : Flags) (l : Literal) : Option Char :=
  if f.unicode || l.char.toNat < 128 then some l.char else none

def combine : SetOperation → CharSet → CharSet → CharSet
  | .intersection => inter
  | .difference => diff
  | .symmetricDifference => symmDiff

mutual

/-- The characters of a class under the flags.  The sides of an operation are
closed under case before they are combined. -/
def ofTree? (f : Flags) : ClassTree → Option CharSet
  | .empty => some empty
  | .literal l => (classChar? f l).map singleton
  | .range lo hi => do some (range (← classChar? f lo) (← classChar? f hi))
  | .named negated kind => (ofRanges kind.ranges).finish? f negated
  | .letter negated kind => letter? f negated kind
  | .property negated q => property? f negated q
  | .bracket negated content => do (← ofTree? f content).finish? f negated
  | .union items => ofTrees? f items
  | .operation kind left right => do
    some (combine kind ((← ofTree? f left).folded f) ((← ofTree? f right).folded f))

def ofTrees? (f : Flags) : List ClassTree → Option CharSet
  | [] => some empty
  | item :: items => do some (union (← ofTree? f item) (← ofTrees? f items))

end

/-- The set of a literal outside of classes.  Without Unicode a byte beyond
ASCII is no character and is refused. -/
def ofLiteral? (f : Flags) (l : Literal) : Option CharSet :=
  if !f.unicode && l.byte && 128 ≤ l.char.toNat then none
  else some ((singleton l.char).folded f)

/-- The set of the dot: every character but the ends of lines.  It needs
Unicode. -/
def ofDot? (f : Flags) : Option CharSet :=
  if !f.unicode then none
  else if f.dotAll then some empty.compl
  else if f.crlf then some (ofRanges [('\n', '\n'), ('\r', '\r')]).compl
  else some (singleton '\n').compl

end CharSet

/-- A regular expression. -/
inductive Expr where
  | empty
  | set (s : CharSet)
  | look (l : Look)
  | seq (first second : Expr)
  | alt (left right : Expr)
  | repetition (min : Nat) (max : Option Nat) (body : Expr)

namespace Expr

mutual

/-- The expression of a tree and the flags in force after it.  Flags that are
switched hold up to the end of the group around them, also in the alternatives
that follow. -/
def ofTree? (f : Flags) : Tree → Option (Expr × Flags)
  | .empty => some (empty, f)
  | .flags changes => some (empty, f.switchAll changes)
  | .literal l => (CharSet.ofLiteral? f l).map fun s => (set s, f)
  | .dot => (CharSet.ofDot? f).map fun s => (set s, f)
  | .assertion a => some (look (.ofAssertion f a), f)
  | .letter negated kind => (CharSet.letter? f negated kind).map fun s => (set s, f)
  | .property negated q => (CharSet.property? f negated q).map fun s => (set s, f)
  | .bracket negated content => do
    let s ← CharSet.ofTree? f content
    (s.finish? f negated).map fun s => (set s, f)
  | .repetition min max body => do
    let (e, f) ← ofTree? f body
    some (repetition min max e, f)
  | .group changes body => do
    let (e, _) ← ofTree? (f.switchAll changes) body
    some (e, f)
  | .concat items => ofItems? f items
  | .alternation branches => ofBranches? f branches

def ofItems? (f : Flags) : List Tree → Option (Expr × Flags)
  | [] => some (empty, f)
  | item :: items => do
    let (e, f) ← ofTree? f item
    let (rest, f) ← ofItems? f items
    some (seq e rest, f)

def ofBranches? (f : Flags) : List Tree → Option (Expr × Flags)
  | [] => some (set .empty, f)
  | branch :: branches => do
    let (e, f) ← ofTree? f branch
    let (rest, f) ← ofBranches? f branches
    some (alt e rest, f)

end

end Expr

end DocPath.Regex

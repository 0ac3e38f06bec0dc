import DocPath.Unicode.CaseFolding
import DocPath.Unicode.Query

/-! # Sets of characters

A set of characters is its membership test.  Beside the test it carries the
number of states that an automaton over bytes takes for it, about, which is what
the size of a pattern is estimated by. -/

namespace DocPath.Regex

/-- A set of characters. -/
structure CharSet where
  contains : Char → Bool
  states : Nat

namespace CharSet

def empty : CharSet := ⟨fun _ => false, 0⟩

def range (lo hi : Char) : CharSet := ⟨fun c => lo ≤ c && c ≤ hi, 2⟩

/-- One character, which is read byte by byte. -/
def singleton (c : Char) : CharSet := ⟨(· == c), c.utf8Size⟩

def union (s t : CharSet) : CharSet :=
  ⟨fun c => s.contains c || t.contains c, s.states + t.states⟩

def inter (s t : CharSet) : CharSet :=
  ⟨fun c => s.contains c && t.contains c, s.states + t.states⟩

def diff (s t : CharSet) : CharSet :=
  ⟨fun c => s.contains c && !t.contains c, s.states + t.states⟩

def symmDiff (s t : CharSet) : CharSet :=
  ⟨fun c => s.contains c != t.contains c, s.states + t.states⟩

def compl (s : CharSet) : CharSet :=
  ⟨fun c => !s.contains c, s.states + 16⟩

/-- The characters that equal a member without regard to case. -/
def foldCase (s : CharSet) : CharSet :=
  ⟨fun c => s.contains c || (Unicode.foldingGroup c).any s.contains, 2 * s.states⟩

/-- As `foldCase`, with regard to the ASCII letters only. -/
def foldAsciiCase (s : CharSet) : CharSet :=
  ⟨fun c => s.contains c || (Unicode.asciiFoldingGroup c).any s.contains, 2 * s.states⟩

/-- The union of ranges. -/
def ofRanges (rs : List (Char × Char)) : CharSet :=
  rs.foldr (fun r s => union (range r.1 r.2) s) empty

/-- The complement when `negated` is set. -/
def negateIf (negated : Bool) (s : CharSet) : CharSet :=
  if negated then s.compl else s

def decimalDigits : CharSet := ⟨fun c => Unicode.generalCategory c == .decimalNumber, 142⟩
def blanks : CharSet := ⟨Unicode.isBlank, 20⟩
def wordCharacters : CharSet := ⟨Unicode.isWordCharacter, 1592⟩

def asciiDigits : CharSet := range '0' '9'
def asciiBlanks : CharSet := ofRanges [('\t', '\r'), (' ', ' ')]
def asciiWordCharacters : CharSet := ofRanges [('0', '9'), ('A', 'Z'), ('_', '_'), ('a', 'z')]

/-- The class of characters that a query asks for. -/
def ofQuery? (q : Unicode.Query) : Option CharSet :=
  q.test?.map fun test => ⟨test, 1200⟩

end CharSet

end DocPath.Regex

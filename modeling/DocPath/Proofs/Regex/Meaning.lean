import DocPath.Filter.Pattern

/-! # What an engine is documented to do

An engine documents which texts are regular expressions and between which places
of a text each of them matches.  `Engine.Follows` puts down the points of this
that a pattern between marks touches on: building and searching, groups, the
marks for the start and the end of a text, and what it means that a mark stands
beside a group.  Everything else about an engine is left open. -/

namespace DocPath

namespace Regex

/-- What the documentation of an engine speaks of: which texts are regular
expressions, which of these keep to the limits, and what they match. -/
structure Meaning where
  /-- The text is a regular expression under the flags. -/
  Valid : PatternFlags → List Char → Prop
  /-- The nesting of a regular expression and the size of its program keep to
  the limits. -/
  Fits : PatternFlags → List Char → Prop
  /-- The regular expression ends in a comment, which runs to the end of the
  line and so takes in whatever is written behind it on that line. -/
  OpenComment : List Char → Prop
  /-- The regular expression can match the characters of a text from one place
  up to another. -/
  Matches : PatternFlags → List Char → List Char → Nat → Nat → Prop

/-- The marks for the two ends of a text, which no flag changes.  The signs that
are more usual for the ends also match at line ends if a flag says so. -/
inductive Mark where
  | textStart
  | textEnd

namespace Mark

/-- How a mark is written, which is with a backslash before a letter. -/
def text : Mark → List Char
  | textStart => "\\A".toList
  | textEnd => "\\z".toList

/-- The place that a mark stands for in a text: its start, or the place after
its last character. -/
def Holds (text : List Char) (i : Nat) : Mark → Prop
  | textStart => i = 0
  | textEnd => i = text.length

end Mark

/-- A regular expression in a group of its own, which captures nothing.  The
group keeps branches of the expression together. -/
def grouped (source : List Char) : List Char := "(?:".toList ++ source ++ [')']

/-- A regular expression in a group, with marks before and after the group.  It
has to match between places that the marks stand for. -/
inductive Framed (source : List Char) : List Char → Prop where
  | group : Framed source (grouped source)
  | before {text : List Char} (m : Mark) : Framed source text → Framed source (m.text ++ text)
  | after {text : List Char} (m : Mark) : Framed source text → Framed source (text ++ m.text)

end Regex

open Regex

/-- An engine does what its documentation says.  The points about groups and
marks speak of a source that is a regular expression by itself; of any other
source nothing is said. -/
structure Engine.Follows (engine : Engine) (meaning : Meaning) : Prop where
  /-- A text is built if it is a regular expression within the limits, and
  otherwise refused. -/
  build_iff : ∀ {flags : PatternFlags} {text : List Char},
    (∃ program, engine.build? flags text = some program) ↔
      meaning.Valid flags text ∧ meaning.Fits flags text
  /-- A search tells whether there is a match anywhere in the text. -/
  isMatch_iff : ∀ {flags : PatternFlags} {pattern : List Char} {program : engine.Program},
    engine.build? flags pattern = some program → ∀ text : List Char,
      engine.isMatch program text = true ↔ ∃ i j, meaning.Matches flags pattern text i j
  /-- A group closes at its parenthesis, unless that belongs to a comment. -/
  valid_group : ∀ {flags : PatternFlags} {source : List Char}, meaning.Valid flags source →
    (meaning.Valid flags (grouped source) ↔ ¬ meaning.OpenComment source)
  /-- A group that captures nothing matches what the regular expression in it
  matches. -/
  matches_group : ∀ {flags : PatternFlags} {source : List Char}, meaning.Valid flags source →
    meaning.Valid flags (grouped source) → ∀ {text : List Char} {i j : Nat},
      meaning.Matches flags (grouped source) text i j ↔ meaning.Matches flags source text i j
  /-- A mark matches no characters, at the one place that it stands for. -/
  matches_mark : ∀ {flags : PatternFlags} (m : Mark) {text : List Char} {i j : Nat},
    meaning.Matches flags m.text text i j ↔ i = j ∧ m.Holds text i
  /-- A mark may stand before whatever else the regular expression consists
  of. -/
  valid_before : ∀ {flags : PatternFlags} {source pattern : List Char} (m : Mark),
    meaning.Valid flags source → Framed source pattern →
      (meaning.Valid flags (m.text ++ pattern) ↔ meaning.Valid flags pattern)
  /-- A mark may stand behind whatever else the regular expression consists
  of. -/
  valid_after : ∀ {flags : PatternFlags} {source pattern : List Char} (m : Mark),
    meaning.Valid flags source → Framed source pattern →
      (meaning.Valid flags (pattern ++ m.text) ↔ meaning.Valid flags pattern)
  /-- Two regular expressions in a row match one after the other: a mark and
  what follows it. -/
  matches_before : ∀ {flags : PatternFlags} {source pattern : List Char} (m : Mark),
    meaning.Valid flags source → Framed source pattern → meaning.Valid flags pattern →
      ∀ {text : List Char} {i k : Nat}, meaning.Matches flags (m.text ++ pattern) text i k ↔
        ∃ j, meaning.Matches flags m.text text i j ∧ meaning.Matches flags pattern text j k
  /-- Two regular expressions in a row match one after the other: what precedes
  a mark and the mark. -/
  matches_after : ∀ {flags : PatternFlags} {source pattern : List Char} (m : Mark),
    meaning.Valid flags source → Framed source pattern → meaning.Valid flags pattern →
      ∀ {text : List Char} {i k : Nat}, meaning.Matches flags (pattern ++ m.text) text i k ↔
        ∃ j, meaning.Matches flags pattern text i j ∧ meaning.Matches flags m.text text j k

end DocPath

import DocPath.Unicode.RangeTable
import DocPath.Unicode.Tables.Age
import DocPath.Unicode.Tables.Segmentation

/-! # Text segmentation classes and ages

The classes by which text falls into grapheme clusters, words and sentences, and
the version that first assigned a code point.  Classes go by their codes. -/

namespace DocPath.Unicode

def graphemeBreakTable : RunTable String := .ofRows id Tables.graphemeBreak
def wordBreakTable : RunTable String := .ofRows id Tables.wordBreak
def sentenceBreakTable : RunTable String := .ofRows id Tables.sentenceBreak
def ageTable : RunTable String := .ofRows id Tables.age

/-- The grapheme cluster class of a character.  A precomposed Hangul syllable
ends in a vowel when its place in the block is a multiple of the number of final
consonants. -/
def graphemeBreak (c : Char) : String :=
  match graphemeBreakTable.find? c.toNat with
  | some "HS" => if (c.toNat - 0xAC00) % 28 = 0 then "LV" else "LVT"
  | some code => code
  | none => "XX"

def wordBreak (c : Char) : String :=
  (wordBreakTable.find? c.toNat).getD "XX"

def sentenceBreak (c : Char) : String :=
  (sentenceBreakTable.find? c.toNat).getD "XX"

/-- The code of a grapheme cluster class, by its normalized name. -/
def graphemeBreakOfName? : String → Option String
  | "cn" | "control" => some "CN"
  | "cr" => some "CR"
  | "ex" | "extend" => some "EX"
  | "l" => some "L"
  | "lf" => some "LF"
  | "lv" => some "LV"
  | "lvt" => some "LVT"
  | "pp" | "prepend" => some "PP"
  | "ri" | "regionalindicator" => some "RI"
  | "sm" | "spacingmark" => some "SM"
  | "t" => some "T"
  | "v" => some "V"
  | "zwj" => some "ZWJ"
  | _ => none

/-- The code of a word break class, by its normalized name. -/
def wordBreakOfName? : String → Option String
  | "le" | "aletter" => some "LE"
  | "cr" => some "CR"
  | "dq" | "doublequote" => some "DQ"
  | "extend" => some "Extend"
  | "ex" | "extendnumlet" => some "EX"
  | "fo" | "format" => some "FO"
  | "hl" | "hebrewletter" => some "HL"
  | "ka" | "katakana" => some "KA"
  | "lf" => some "LF"
  | "ml" | "midletter" => some "ML"
  | "mn" | "midnum" => some "MN"
  | "mb" | "midnumlet" => some "MB"
  | "nl" | "newline" => some "NL"
  | "nu" | "numeric" => some "NU"
  | "ri" | "regionalindicator" => some "RI"
  | "sq" | "singlequote" => some "SQ"
  | "wsegspace" => some "WSegSpace"
  | "zwj" => some "ZWJ"
  | _ => none

/-- The code of a sentence break class, by its normalized name. -/
def sentenceBreakOfName? : String → Option String
  | "at" | "aterm" => some "AT"
  | "cr" => some "CR"
  | "cl" | "close" => some "CL"
  | "ex" | "extend" => some "EX"
  | "fo" | "format" => some "FO"
  | "lf" => some "LF"
  | "lo" | "lower" => some "LO"
  | "nu" | "numeric" => some "NU"
  | "le" | "oletter" => some "LE"
  | "sc" | "scontinue" => some "SC"
  | "st" | "sterm" => some "ST"
  | "se" | "sep" => some "SE"
  | "sp" => some "SP"
  | "up" | "upper" => some "UP"
  | _ => none

/-- The versions in order. -/
def versions : List String := [
  "1.1", "2.0", "2.1", "3.0", "3.1", "3.2", "4.0", "4.1", "5.0", "5.1", "5.2", "6.0", "6.1", "6.2",
  "6.3", "7.0", "8.0", "9.0", "10.0", "11.0", "12.0", "12.1", "13.0", "14.0", "15.0", "15.1",
  "16.0", "17.0"]

/-- The place of a version in the order, by its number such as `3.1` or its name
such as `v31`. -/
def versionOfName? (name : String) : Option Nat :=
  versions.findIdx? fun v => name == v || name == "v" ++ v.replace "." ""

/-- Whether a character was assigned in the version at the given place, or
before. -/
def assignedBy (place : Nat) (c : Char) : Bool :=
  match ageTable.find? c.toNat with
  | some age => (versions.take (place + 1)).contains age
  | none => false

end DocPath.Unicode

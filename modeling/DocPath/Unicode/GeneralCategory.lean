import DocPath.Unicode.RangeTable
import DocPath.Unicode.Tables.GeneralCategory

/-! # General categories

Every character belongs to exactly one general category, and a category belongs
to one of seven groups that the first letter of its code names. -/

namespace DocPath.Unicode

/-- The general category of a code point. -/
inductive GeneralCategory where
  | uppercaseLetter | lowercaseLetter | titlecaseLetter | modifierLetter | otherLetter
  | nonspacingMark | spacingMark | enclosingMark
  | decimalNumber | letterNumber | otherNumber
  | connectorPunctuation | dashPunctuation | openPunctuation | closePunctuation
  | initialPunctuation | finalPunctuation | otherPunctuation
  | mathSymbol | currencySymbol | modifierSymbol | otherSymbol
  | spaceSeparator | lineSeparator | paragraphSeparator
  | control | format | surrogate | privateUse | unassigned
deriving DecidableEq, Repr

namespace GeneralCategory

/-- The two-letter codes of the categories. -/
def codes : List (String × GeneralCategory) := [
  ("Lu", uppercaseLetter), ("Ll", lowercaseLetter), ("Lt", titlecaseLetter),
  ("Lm", modifierLetter), ("Lo", otherLetter),
  ("Mn", nonspacingMark), ("Mc", spacingMark), ("Me", enclosingMark),
  ("Nd", decimalNumber), ("Nl", letterNumber), ("No", otherNumber),
  ("Pc", connectorPunctuation), ("Pd", dashPunctuation), ("Ps", openPunctuation),
  ("Pe", closePunctuation), ("Pi", initialPunctuation), ("Pf", finalPunctuation),
  ("Po", otherPunctuation),
  ("Sm", mathSymbol), ("Sc", currencySymbol), ("Sk", modifierSymbol), ("So", otherSymbol),
  ("Zs", spaceSeparator), ("Zl", lineSeparator), ("Zp", paragraphSeparator),
  ("Cc", control), ("Cf", format), ("Cs", surrogate), ("Co", privateUse), ("Cn", unassigned)]

/-- The category with the given code; an unknown code stands for no
assignment. -/
def ofCode (code : String) : GeneralCategory :=
  (codes.lookup code).getD unassigned

def isLetter : GeneralCategory → Bool
  | uppercaseLetter | lowercaseLetter | titlecaseLetter | modifierLetter | otherLetter => true
  | _ => false

def isCasedLetter : GeneralCategory → Bool
  | uppercaseLetter | lowercaseLetter | titlecaseLetter => true
  | _ => false

def isMark : GeneralCategory → Bool
  | nonspacingMark | spacingMark | enclosingMark => true
  | _ => false

def isNumber : GeneralCategory → Bool
  | decimalNumber | letterNumber | otherNumber => true
  | _ => false

def isPunctuation : GeneralCategory → Bool
  | connectorPunctuation | dashPunctuation | openPunctuation | closePunctuation
  | initialPunctuation | finalPunctuation | otherPunctuation => true
  | _ => false

def isSymbol : GeneralCategory → Bool
  | mathSymbol | currencySymbol | modifierSymbol | otherSymbol => true
  | _ => false

def isSeparator : GeneralCategory → Bool
  | spaceSeparator | lineSeparator | paragraphSeparator => true
  | _ => false

def isOther : GeneralCategory → Bool
  | control | format | surrogate | privateUse | unassigned => true
  | _ => false

/-- The test that a name stands for: a category or a group of categories, by
code or in full, written in lower case without blanks, hyphens and
underscores. -/
def testOfName? (name : String) : Option (GeneralCategory → Bool) :=
  match name with
  | "l" | "letter" => some isLetter
  | "lc" | "casedletter" => some isCasedLetter
  | "m" | "mark" | "combiningmark" => some isMark
  | "n" | "number" => some isNumber
  | "p" | "punctuation" | "punct" => some isPunctuation
  | "s" | "symbol" => some isSymbol
  | "z" | "separator" => some isSeparator
  | "c" | "other" => some isOther
  | "lu" | "uppercaseletter" => some (· == uppercaseLetter)
  | "ll" | "lowercaseletter" => some (· == lowercaseLetter)
  | "lt" | "titlecaseletter" => some (· == titlecaseLetter)
  | "lm" | "modifierletter" => some (· == modifierLetter)
  | "lo" | "otherletter" => some (· == otherLetter)
  | "mn" | "nonspacingmark" => some (· == nonspacingMark)
  | "mc" | "spacingmark" => some (· == spacingMark)
  | "me" | "enclosingmark" => some (· == enclosingMark)
  | "nd" | "decimalnumber" | "digit" => some (· == decimalNumber)
  | "nl" | "letternumber" => some (· == letterNumber)
  | "no" | "othernumber" => some (· == otherNumber)
  | "pc" | "connectorpunctuation" => some (· == connectorPunctuation)
  | "pd" | "dashpunctuation" => some (· == dashPunctuation)
  | "ps" | "openpunctuation" => some (· == openPunctuation)
  | "pe" | "closepunctuation" => some (· == closePunctuation)
  | "pi" | "initialpunctuation" => some (· == initialPunctuation)
  | "pf" | "finalpunctuation" => some (· == finalPunctuation)
  | "po" | "otherpunctuation" => some (· == otherPunctuation)
  | "sm" | "mathsymbol" => some (· == mathSymbol)
  | "sc" | "currencysymbol" => some (· == currencySymbol)
  | "sk" | "modifiersymbol" => some (· == modifierSymbol)
  | "so" | "othersymbol" => some (· == otherSymbol)
  | "zs" | "spaceseparator" => some (· == spaceSeparator)
  | "zl" | "lineseparator" => some (· == lineSeparator)
  | "zp" | "paragraphseparator" => some (· == paragraphSeparator)
  | "cc" | "control" | "cntrl" => some (· == control)
  | "cf" | "format" => some (· == format)
  | "co" | "privateuse" => some (· == privateUse)
  | "cn" | "unassigned" => some (· == unassigned)
  | _ => none

end GeneralCategory

/-- The runs of the code points that share a general category. -/
def generalCategoryTable : RunTable GeneralCategory :=
  .ofRows .ofCode Tables.generalCategory

/-- The general category of a character. -/
def generalCategory (c : Char) : GeneralCategory :=
  (generalCategoryTable.find? c.toNat).getD .unassigned

/-- Whether a character takes part in no text that a reader sees: a control or
format character, a separator other than the plain blank, or a code point
without a character of its own. -/
def isInvisible (c : Char) : Bool :=
  let category := generalCategory c
  c != ' ' && (category.isOther || category.isSeparator)

end DocPath.Unicode

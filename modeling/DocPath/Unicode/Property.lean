import DocPath.Unicode.Blank
import DocPath.Unicode.GeneralCategory
import DocPath.Unicode.Tables.Property

/-! # Yes-or-no properties of characters

A property is either listed range by range or derived from the general category
and a short list of exceptions.  `propertyOfName?` finds the property that a
name stands for. -/

namespace DocPath.Unicode

def otherLowercaseTable : RangeTable := .ofRows Tables.otherLowercase
def otherUppercaseTable : RangeTable := .ofRows Tables.otherUppercase
def otherAlphabeticTable : RangeTable := .ofRows Tables.otherAlphabetic
def otherMathTable : RangeTable := .ofRows Tables.otherMath
def otherGraphemeExtendTable : RangeTable := .ofRows Tables.otherGraphemeExtend
def otherIdStartTable : RangeTable := .ofRows Tables.otherIdStart
def otherIdContinueTable : RangeTable := .ofRows Tables.otherIdContinue
def otherDefaultIgnorableTable : RangeTable := .ofRows Tables.otherDefaultIgnorable
def joinControlTable : RangeTable := .ofRows Tables.joinControl
def patternSyntaxTable : RangeTable := .ofRows Tables.patternSyntax
def patternWhiteSpaceTable : RangeTable := .ofRows Tables.patternWhiteSpace
def variationSelectorTable : RangeTable := .ofRows Tables.variationSelector
def caseIgnorableMarkTable : RangeTable := .ofRows Tables.caseIgnorableMark
def notXidStartTable : RangeTable := .ofRows Tables.notXidStart
def notXidContinueTable : RangeTable := .ofRows Tables.notXidContinue
def visibleFormatTable : RangeTable := .ofRows Tables.visibleFormat
def changesWhenLowercasedTable : RangeTable := .ofRows Tables.changesWhenLowercased
def changesWhenTitlecasedTable : RangeTable := .ofRows Tables.changesWhenTitlecased
def changesWhenUppercasedTable : RangeTable := .ofRows Tables.changesWhenUppercased

/-- Whether a table of ranges holds a character. -/
def RangeTable.holds (t : RangeTable) (c : Char) : Bool :=
  t.contains c.toNat

def isLowercase (c : Char) : Bool :=
  generalCategory c == .lowercaseLetter || otherLowercaseTable.holds c

def isUppercase (c : Char) : Bool :=
  generalCategory c == .uppercaseLetter || otherUppercaseTable.holds c

/-- Letters and what is written like letters. -/
def isAlphabetic (c : Char) : Bool :=
  let category := generalCategory c
  category.isLetter || category == .letterNumber ||
    otherAlphabeticTable.holds c || otherLowercaseTable.holds c || otherUppercaseTable.holds c

/-- Alphabetic characters and numbers of every kind. -/
def isAlphanumeric (c : Char) : Bool :=
  isAlphabetic c || (generalCategory c).isNumber

def isCased (c : Char) : Bool :=
  isLowercase c || isUppercase c || generalCategory c == .titlecaseLetter

def isCaseIgnorable (c : Char) : Bool :=
  match generalCategory c with
  | .nonspacingMark | .enclosingMark | .format | .modifierLetter | .modifierSymbol => true
  | _ => caseIgnorableMarkTable.holds c

def isMath (c : Char) : Bool :=
  generalCategory c == .mathSymbol || otherMathTable.holds c

/-- Marks that belong to the character before them. -/
def isGraphemeExtend (c : Char) : Bool :=
  match generalCategory c with
  | .enclosingMark | .nonspacingMark => true
  | _ => otherGraphemeExtendTable.holds c

def isGraphemeBase (c : Char) : Bool :=
  match generalCategory c with
  | .control | .format | .surrogate | .privateUse | .unassigned
  | .lineSeparator | .paragraphSeparator => false
  | _ => !isGraphemeExtend c

def isDefaultIgnorable (c : Char) : Bool :=
  (generalCategory c == .format || variationSelectorTable.holds c ||
    otherDefaultIgnorableTable.holds c) && !visibleFormatTable.holds c

/-- Characters that belong to the syntax of formal languages. -/
def isPatternCharacter (c : Char) : Bool :=
  patternSyntaxTable.holds c || patternWhiteSpaceTable.holds c

def isIdStart (c : Char) : Bool :=
  let category := generalCategory c
  (category.isLetter || category == .letterNumber || otherIdStartTable.holds c) &&
    !isPatternCharacter c

def isIdContinue (c : Char) : Bool :=
  isIdStart c ||
    ((match generalCategory c with
      | .nonspacingMark | .spacingMark | .decimalNumber | .connectorPunctuation => true
      | _ => otherIdContinueTable.holds c) && !isPatternCharacter c)

def isXidStart (c : Char) : Bool :=
  isIdStart c && !notXidStartTable.holds c

def isXidContinue (c : Char) : Bool :=
  isIdContinue c && !notXidContinueTable.holds c

def changesWhenCasemapped (c : Char) : Bool :=
  changesWhenLowercasedTable.holds c || changesWhenUppercasedTable.holds c ||
    changesWhenTitlecasedTable.holds c

/-- Characters that make up words: alphabetic characters, marks, decimal digits,
connectors such as the underscore, and the invisible joiners. -/
def isWordCharacter (c : Char) : Bool :=
  let category := generalCategory c
  isAlphabetic c || category.isMark || category == .decimalNumber ||
    category == .connectorPunctuation || joinControlTable.holds c

/-- The table of a property that is listed range by range, by its short or long
name in lower case without blanks, hyphens and underscores. -/
def propertyTable? (name : String) : Option RangeTable :=
  match name with
  | "olower" | "otherlowercase" => some otherLowercaseTable
  | "oupper" | "otheruppercase" => some otherUppercaseTable
  | "oalpha" | "otheralphabetic" => some otherAlphabeticTable
  | "omath" | "othermath" => some otherMathTable
  | "ogrext" | "othergraphemeextend" => some otherGraphemeExtendTable
  | "oids" | "otheridstart" => some otherIdStartTable
  | "oidc" | "otheridcontinue" => some otherIdContinueTable
  | "odi" | "otherdefaultignorablecodepoint" => some otherDefaultIgnorableTable
  | "ahex" | "asciihexdigit" => some (.ofRows Tables.asciiHexDigit)
  | "bidic" | "bidicontrol" => some (.ofRows Tables.bidiControl)
  | "bidim" | "bidimirrored" => some (.ofRows Tables.bidiMirrored)
  | "cwcf" | "changeswhencasefolded" => some (.ofRows Tables.changesWhenCasefolded)
  | "cwl" | "changeswhenlowercased" => some changesWhenLowercasedTable
  | "cwt" | "changeswhentitlecased" => some changesWhenTitlecasedTable
  | "cwu" | "changeswhenuppercased" => some changesWhenUppercasedTable
  | "dash" => some (.ofRows Tables.dash)
  | "dep" | "deprecated" => some (.ofRows Tables.deprecated)
  | "dia" | "diacritic" => some (.ofRows Tables.diacritic)
  | "emoji" => some (.ofRows Tables.emoji)
  | "ecomp" | "emojicomponent" => some (.ofRows Tables.emojiComponent)
  | "emod" | "emojimodifier" => some (.ofRows Tables.emojiModifier)
  | "ebase" | "emojimodifierbase" => some (.ofRows Tables.emojiModifierBase)
  | "epres" | "emojipresentation" => some (.ofRows Tables.emojiPresentation)
  | "extpict" | "extendedpictographic" => some (.ofRows Tables.extendedPictographic)
  | "ext" | "extender" => some (.ofRows Tables.extender)
  | "hex" | "hexdigit" => some (.ofRows Tables.hexDigit)
  | "idsb" | "idsbinaryoperator" => some (.ofRows Tables.idsBinaryOperator)
  | "idst" | "idstrinaryoperator" => some (.ofRows Tables.idsTrinaryOperator)
  | "ideo" | "ideographic" => some (.ofRows Tables.ideographic)
  | "joinc" | "joincontrol" => some joinControlTable
  | "loe" | "logicalorderexception" => some (.ofRows Tables.logicalOrderException)
  | "nchar" | "noncharactercodepoint" => some (.ofRows Tables.noncharacterCodePoint)
  | "patsyn" | "patternsyntax" => some patternSyntaxTable
  | "patws" | "patternwhitespace" => some patternWhiteSpaceTable
  | "qmark" | "quotationmark" => some (.ofRows Tables.quotationMark)
  | "radical" => some (.ofRows Tables.radical)
  | "ri" | "regionalindicator" => some (.ofRows Tables.regionalIndicator)
  | "sterm" | "sentenceterminal" => some (.ofRows Tables.sentenceTerminal)
  | "sd" | "softdotted" => some (.ofRows Tables.softDotted)
  | "term" | "terminalpunctuation" => some (.ofRows Tables.terminalPunctuation)
  | "uideo" | "unifiedideograph" => some (.ofRows Tables.unifiedIdeograph)
  | "vs" | "variationselector" => some variationSelectorTable
  | "hyphen" => some (.ofRows Tables.hyphen)
  | "pcm" | "prependedconcatenationmark" => some (.ofRows Tables.prependedConcatenationMark)
  | "idsu" | "idsunaryoperator" => some (.ofRows Tables.idsUnaryOperator)
  | "idcompatmathstart" => some (.ofRows Tables.idCompatMathStart)
  | "idcompatmathcontinue" => some (.ofRows Tables.idCompatMathContinue)
  | "mcm" | "modifiercombiningmark" => some (.ofRows Tables.modifierCombiningMark)
  | "grlink" | "graphemelink" => some (.ofRows Tables.graphemeLink)
  | _ => none

/-- The property that a name stands for, in lower case without blanks, hyphens
and underscores. -/
def propertyOfName? (name : String) : Option (Char → Bool) :=
  match name with
  | "alpha" | "alphabetic" => some isAlphabetic
  | "lower" | "lowercase" => some isLowercase
  | "upper" | "uppercase" => some isUppercase
  | "cased" => some isCased
  | "ci" | "caseignorable" => some isCaseIgnorable
  | "cwcm" | "changeswhencasemapped" => some changesWhenCasemapped
  | "di" | "defaultignorablecodepoint" => some isDefaultIgnorable
  | "grbase" | "graphemebase" => some isGraphemeBase
  | "grext" | "graphemeextend" => some isGraphemeExtend
  | "ids" | "idstart" => some isIdStart
  | "idc" | "idcontinue" => some isIdContinue
  | "xids" | "xidstart" => some isXidStart
  | "xidc" | "xidcontinue" => some isXidContinue
  | "math" => some isMath
  | "wspace" | "whitespace" | "space" => some isBlank
  | _ => (propertyTable? name).map RangeTable.holds

end DocPath.Unicode

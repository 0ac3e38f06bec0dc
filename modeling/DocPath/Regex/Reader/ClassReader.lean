import DocPath.Regex.Reader.Escape

/-! # Reading bracketed classes

A bracketed class lists characters, ranges and further classes, which may be
bracketed themselves and combined by `&&`, `--` and `~~`.  The reader keeps the
classes that are still open on a stack. -/

namespace DocPath.Regex.Reader

/-- What encloses the items that are being read: an open bracket with the items
left of it, or an operation with its left side. -/
inductive OpenClass where
  | bracket (outer : List ClassTree) (negated : Bool)
  | operation (kind : SetOperation) (left : ClassTree)

/-- The start of a class, after its opening bracket: the sign of negation, and
the hyphens or the closing bracket that stand for themselves in first place. -/
def classStart? (verbose : Bool) (text : List Char) :
    Option (Bool × List ClassTree × List Char) :=
  let inside : Option (Bool × List Char) :=
    match skip verbose text with
    | [] => none
    | '^' :: rest => some (true, skip verbose rest)
    | start => some (false, start)
  match inside with
  | none => none
  | some (negated, start) =>
    let (hyphens, rest) := run verbose (· == '-') start
    let items := hyphens.map fun c => ClassTree.literal ⟨c, false⟩
    match items, rest with
    | _, [] => none
    | [], ']' :: after =>
      match skip verbose after with
      | [] => none
      | after => some (negated, [.literal ⟨']', false⟩], after)
    | _, _ => some (negated, items, rest)

/-- A named class such as `[:alpha:]`; `text` is what follows its opening
bracket.  Anything else is left to be read as a class of characters. -/
def namedClass? (text : List Char) : Option (ClassTree × List Char) :=
  match text with
  | ':' :: start =>
    let (negated, body) := match start with
      | '^' :: body => (true, body)
      | body => (false, body)
    match body.span (· != ':') with
    | (name, ':' :: ']' :: after) =>
      (NamedClass.ofName? (String.ofList name)).map fun kind => (.named negated kind, after)
    | _ => none
  | _ => none

/-- The innermost operation applied to its right side, and the classes around
it. -/
def closeOperation (right : ClassTree) : List OpenClass → ClassTree × List OpenClass
  | .operation kind left :: stack => (.operation kind left right, stack)
  | stack => (right, stack)

/-- One sign of a class: an escape or a character that stands for itself. -/
def classSign? (verbose : Bool) : List Char → Option (Tree × List Char)
  | [] => none
  | '\\' :: rest => escape? verbose rest
  | c :: rest => some (.literal ⟨c, false⟩, rest)

/-- The character after a hyphen, past blanks and the sign of a comment in a
verbose pattern. -/
def afterHyphen? (verbose : Bool) (rest : List Char) : Option Char :=
  let rec past : Bool → List Char → Option Char
    | _, [] => none
    | inComment, c :: cs =>
      if Unicode.isBlank c then past inComment cs
      else if !inComment && c == '#' then past true cs
      else some c
  if verbose then past false rest <|> rest.head? else rest.head?

/-- The sign as an item of a class; places in the text are no characters. -/
def itemOfSign? : Tree → Option ClassTree
  | .literal l => some (.literal l)
  | .letter negated kind => some (.letter negated kind)
  | .property negated q => some (.property negated q)
  | _ => none

/-- One sign of a class, or a range between two literals in order. -/
def classItem? (verbose : Bool) (text : List Char) : Option (ClassTree × List Char) := do
  let (first, rest) ← classSign? verbose text
  match skip verbose rest with
  | [] => none
  | '-' :: after =>
    let next := afterHyphen? verbose after
    if next == some ']' || next == some '-' then
      pure (← itemOfSign? first, '-' :: after)
    else
      let (second, rest) ← classSign? verbose (skip verbose after)
      match first, second with
      | .literal lo, .literal hi => if lo.char ≤ hi.char then some (.range lo hi, rest) else none
      | _, _ => none
  | rest => pure (← itemOfSign? first, rest)

/-- Reads the items of the innermost open class and closes classes up to the
outermost one. -/
def classItems? (verbose : Bool) :
    Nat → List OpenClass → List ClassTree → List Char → Option (Tree × List Char)
  | 0, _, _, _ => none
  | fuel + 1, stack, items, text =>
    let operate (kind : SetOperation) (rest : List Char) : Option (Tree × List Char) :=
      let (left, stack) := closeOperation (.ofItems items) stack
      classItems? verbose fuel (.operation kind left :: stack) [] rest
    match skip verbose text with
    | [] => none
    | '[' :: rest =>
      match namedClass? rest with
      | some (item, after) => classItems? verbose fuel stack (item :: items) after
      | none => do
        let (negated, inner, after) ← classStart? verbose rest
        classItems? verbose fuel (.bracket items negated :: stack) inner after
    | ']' :: rest =>
      match closeOperation (.ofItems items) stack with
      | (content, [.bracket _ negated]) => some (.bracket negated content, rest)
      | (content, .bracket outer negated :: stack) =>
        classItems? verbose fuel stack (.bracket negated content :: outer) rest
      | _ => none
    | '&' :: '&' :: rest => operate .intersection rest
    | '-' :: '-' :: rest => operate .difference rest
    | '~' :: '~' :: rest => operate .symmetricDifference rest
    | start => do
      let (item, rest) ← classItem? verbose start
      classItems? verbose fuel stack (item :: items) rest

/-- The bracketed class whose opening bracket precedes the text. -/
def class? (verbose : Bool) (text : List Char) : Option (Tree × List Char) := do
  let (negated, items, rest) ← classStart? verbose text
  classItems? verbose (text.length + 1) [.bracket [] negated] items rest

end DocPath.Regex.Reader

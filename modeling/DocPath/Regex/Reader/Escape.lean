import DocPath.Regex.Tree

/-! # Blanks, comments and escapes in patterns

With the flag `x` a pattern may hold blanks and comments between its signs, and
`skip` passes over them.  A backslash introduces a literal, a class or an
assertion, which `escape?` reads. -/

namespace DocPath.Regex.Reader

/-- The text from the first character that is neither blank nor inside a
comment.  A comment runs from `#` to the end of the line. -/
def skipBlanksAndComments : Bool → List Char → List Char
  | _, [] => []
  | true, c :: rest => skipBlanksAndComments (c != '\n') rest
  | false, c :: rest =>
    if Unicode.isBlank c then skipBlanksAndComments false rest
    else if c = '#' then skipBlanksAndComments true rest
    else c :: rest

/-- The text after what may be passed over: blanks and comments in a verbose
pattern, otherwise nothing. -/
def skip (verbose : Bool) (text : List Char) : List Char :=
  if verbose then skipBlanksAndComments false text else text

/-- The longest run of characters that satisfy `p`, with anything that may be
passed over between them, and the text after it. -/
def takeRun (verbose : Bool) (p : Char → Bool) : Nat → List Char → List Char × List Char
  | fuel + 1, c :: rest =>
    if p c then
      let (taken, after) := takeRun verbose p fuel (skip verbose rest)
      (c :: taken, after)
    else ([], c :: rest)
  | _, text => ([], text)

/-- As `takeRun`, to the end of the text if need be. -/
def run (verbose : Bool) (p : Char → Bool) (text : List Char) : List Char × List Char :=
  takeRun verbose p text.length text

def isHexDigit (c : Char) : Bool :=
  ('0' ≤ c && c ≤ '9') || ('a' ≤ c && c ≤ 'f') || ('A' ≤ c && c ≤ 'F')

/-- The signs with a meaning of their own, which a backslash makes literal. -/
def isMeta (c : Char) : Bool :=
  "\\.+*?()|[]\x7B\x7D^$#&-~".toList.contains c

/-- Whether a backslash before a character leaves its meaning alone: any ASCII
character but letters, digits and the angle brackets. -/
def isEscapable (c : Char) : Bool :=
  isMeta c || (c.toNat < 128 && !c.isAlphanum && c != '<' && c != '>')

/-- The character with a code point, unless the number is none. -/
def charOfNat? (n : Nat) : Option Char :=
  if n.isValidChar then some (Char.ofNat n) else none

/-- The number written by hexadecimal digits. -/
def hexNumber (digits : List Char) : Nat :=
  digits.foldl (fun n c => 16 * n + Unicode.hexDigitValue c) 0

/-- The given number of hexadecimal digits. -/
def hexDigits? (verbose : Bool) : Nat → List Char → Option (List Char × List Char)
  | 0, text => some ([], text)
  | n + 1, c :: rest =>
    if isHexDigit c then
      (hexDigits? verbose n (skip verbose rest)).map fun (ds, after) => (c :: ds, after)
    else none
  | _ + 1, [] => none

/-- The literal after `\x`, `\u` or `\U`: two, four or eight hexadecimal digits,
or any number of them in braces. -/
def hexLiteral? (verbose : Bool) (digits : Nat) (text : List Char) :
    Option (Literal × List Char) :=
  match skip verbose text with
  | '\x7B' :: rest =>
    match run verbose isHexDigit (skip verbose rest) with
    | (ds@(_ :: _), '\x7D' :: after) =>
      (charOfNat? (hexNumber ds)).map fun c => (⟨c, false⟩, skip verbose after)
    | _ => none
  | start => do
    let (ds, after) ← hexDigits? verbose digits start
    let c ← charOfNat? (hexNumber ds)
    pure (⟨c, digits == 2⟩, after)

/-- The characters before and after the first occurrence of `separator`. -/
def splitAt? (separator : List Char) : List Char → Option (List Char × List Char)
  | [] => if separator.isEmpty then some ([], []) else none
  | c :: rest =>
    if separator.isPrefixOf (c :: rest) then some ([], (c :: rest).drop separator.length)
    else (splitAt? separator rest).map fun (before, after) => (c :: before, after)

/-- The query in the braces of a property, and whether it asks for the
complement. -/
def query (name : List Char) : Bool × Unicode.Query :=
  let valued (p : List Char × List Char) : Unicode.Query :=
    .valued (String.ofList p.1) (String.ofList p.2)
  match splitAt? ['!', '='] name with
  | some p => (true, valued p)
  | none =>
    match splitAt? [':'] name <|> splitAt? ['='] name with
    | some p => (false, valued p)
    | none => (false, .named (String.ofList name))

/-- The property after `\p` or `\P`: one letter, or a query in braces. -/
def property? (verbose negated : Bool) (text : List Char) :
    Option ((Bool × Unicode.Query) × List Char) :=
  match skip verbose text with
  | '\x7B' :: rest =>
    match run verbose (· != '\x7D') (skip verbose rest) with
    | (name, _ :: after) =>
      let (complement, q) := query name
      some ((negated != complement, q), after)
    | (_, []) => none
  | '\\' :: _ => none
  | c :: rest => some ((negated, .letter c), skip verbose rest)
  | [] => none

/-- The word boundary after `\b`: plain, or of the kind named in braces.  Braces
that do not open with a letter or a hyphen belong to a repetition. -/
def boundary? (verbose : Bool) (text : List Char) : Option (Assertion × List Char) :=
  let isNameChar (c : Char) : Bool := c.isAlpha || c == '-'
  match text with
  | '\x7B' :: rest =>
    match skip verbose rest with
    | [] => none
    | c :: inner =>
      if isNameChar c then
        match run verbose isNameChar (c :: inner) with
        | (name, '\x7D' :: after) =>
          match String.ofList name with
          | "start" => some (.wordStart, after)
          | "end" => some (.wordEnd, after)
          | "start-half" => some (.wordStartHalf, after)
          | "end-half" => some (.wordEndHalf, after)
          | _ => none
        | _ => none
      else some (.wordBoundary, text)
  | _ => some (.wordBoundary, text)

/-- The item that a backslash introduces; `text` is what follows the backslash.
Digits would refer back to groups, which patterns cannot do. -/
def escape? (verbose : Bool) (text : List Char) : Option (Tree × List Char) :=
  let literal (c : Char) (rest : List Char) : Option (Tree × List Char) :=
    some (.literal ⟨c, false⟩, rest)
  match text with
  | [] => none
  | c :: rest =>
    match c with
    | 'x' => (hexLiteral? verbose 2 rest).map fun (l, after) => (.literal l, after)
    | 'u' => (hexLiteral? verbose 4 rest).map fun (l, after) => (.literal l, after)
    | 'U' => (hexLiteral? verbose 8 rest).map fun (l, after) => (.literal l, after)
    | 'p' => (property? verbose false rest).map fun ((n, q), after) => (.property n q, after)
    | 'P' => (property? verbose true rest).map fun ((n, q), after) => (.property n q, after)
    | 'd' => some (.letter false .digit, rest)
    | 'D' => some (.letter true .digit, rest)
    | 's' => some (.letter false .blank, rest)
    | 'S' => some (.letter true .blank, rest)
    | 'w' => some (.letter false .word, rest)
    | 'W' => some (.letter true .word, rest)
    | 'a' => literal '\x07' rest
    | 'f' => literal '\x0C' rest
    | 't' => literal '\t' rest
    | 'n' => literal '\n' rest
    | 'r' => literal '\r' rest
    | 'v' => literal '\x0B' rest
    | 'A' => some (.assertion .textStart, rest)
    | 'z' => some (.assertion .textEnd, rest)
    | 'b' => (boundary? verbose rest).map fun (a, after) => (.assertion a, after)
    | 'B' => some (.assertion .notWordBoundary, rest)
    | '<' => some (.assertion .wordStart, rest)
    | '>' => some (.assertion .wordEnd, rest)
    | _ => if isEscapable c then literal c rest else none

end DocPath.Regex.Reader

import DocPath.Json.Number
import DocPath.Unicode.RangeTable

/-! # Reading JSON texts

`Value.ofJson?` reads a document from a JSON text.  The entries of objects keep
the order of the text, and a key that is given again takes its last value in its
first place. -/

namespace DocPath.Json.Reader

/-- Whether a character may stand between the signs of a JSON text. -/
def isSpace (c : Char) : Bool := c == ' ' || c == '\n' || c == '\t' || c == '\r'

def skipSpace (text : List Char) : List Char := text.dropWhile isSpace

def isHexDigit (c : Char) : Bool :=
  ('0' ≤ c && c ≤ '9') || ('a' ≤ c && c ≤ 'f') || ('A' ≤ c && c ≤ 'F')

/-- The number of the four hexadecimal digits at the head of a text. -/
def hex? : List Char → Option (Nat × List Char)
  | a :: b :: c :: d :: rest =>
    if [a, b, c, d].all isHexDigit then
      some ([a, b, c, d].foldl (fun n c => 16 * n + Unicode.hexDigitValue c) 0, rest)
    else none
  | _ => none

/-- The character of the escape `\u`, of which a character beyond `U+FFFF` takes
two; `text` is what follows the letter. -/
def unicodeEscape? (text : List Char) : Option (Char × List Char) := do
  let (first, rest) ← hex? text
  if 0xDC00 ≤ first ∧ first ≤ 0xDFFF then none
  else if 0xD800 ≤ first ∧ first ≤ 0xDBFF then
    match rest with
    | '\\' :: 'u' :: rest => do
      let (second, rest) ← hex? rest
      if 0xDC00 ≤ second ∧ second ≤ 0xDFFF then
        some (Char.ofNat (0x10000 + (first - 0xD800) * 0x400 + (second - 0xDC00)), rest)
      else none
    | _ => none
  else some (Char.ofNat first, rest)

/-- The characters of a string up to its closing quote. -/
def characters? : Nat → List Char → Option (List Char × List Char)
  | 0, _ => none
  | _, [] => none
  | fuel + 1, c :: rest =>
    let continue? (c : Char) (rest : List Char) : Option (List Char × List Char) :=
      (characters? fuel rest).map fun (cs, after) => (c :: cs, after)
    if c = '"' then some ([], rest)
    else if c = '\\' then
      match rest with
      | '"' :: rest => continue? '"' rest
      | '\\' :: rest => continue? '\\' rest
      | '/' :: rest => continue? '/' rest
      | 'b' :: rest => continue? '\x08' rest
      | 'f' :: rest => continue? '\x0C' rest
      | 'n' :: rest => continue? '\n' rest
      | 'r' :: rest => continue? '\r' rest
      | 't' :: rest => continue? '\t' rest
      | 'u' :: rest => do
        let (c, rest) ← unicodeEscape? rest
        continue? c rest
      | _ => none
    else if c.toNat < 0x20 then none
    else continue? c rest

/-- The string whose opening quote precedes the text. -/
def string? (text : List Char) : Option (String × List Char) :=
  (characters? text.length text).map fun (cs, rest) => (String.ofList cs, rest)

mutual

/-- The value at the head of a text, with arrays and objects nested up to the
given depth. -/
def value? : Nat → Nat → List Char → Option (Value × List Char)
  | 0, _, _ => none
  | fuel + 1, depth, text =>
    match skipSpace text with
    | 'n' :: 'u' :: 'l' :: 'l' :: rest => some (.null, rest)
    | 't' :: 'r' :: 'u' :: 'e' :: rest => some (.bool true, rest)
    | 'f' :: 'a' :: 'l' :: 's' :: 'e' :: rest => some (.bool false, rest)
    | '"' :: rest => (string? rest).map fun (s, rest) => (.string s, rest)
    | '[' :: rest =>
      match depth with
      | 0 => none
      | depth + 1 =>
        match skipSpace rest with
        | ']' :: rest => some (.array [], rest)
        | rest => (items? fuel depth rest).map fun (items, rest) => (.array items, rest)
    | '\x7B' :: rest =>
      match depth with
      | 0 => none
      | depth + 1 =>
        match skipSpace rest with
        | '\x7D' :: rest => some (.object [], rest)
        | rest => (members? fuel depth rest).map fun (es, rest) => (Value.ofEntries es, rest)
    | text => number? text

/-- The elements of an array up to its closing bracket. -/
def items? : Nat → Nat → List Char → Option (List Value × List Char)
  | 0, _, _ => none
  | fuel + 1, depth, text => do
    let (v, rest) ← value? fuel depth text
    match skipSpace rest with
    | ',' :: rest => (items? fuel depth rest).map fun (vs, rest) => (v :: vs, rest)
    | ']' :: rest => some ([v], rest)
    | _ => none

/-- The entries of an object up to its closing brace. -/
def members? : Nat → Nat → List Char → Option (List (String × Value) × List Char)
  | 0, _, _ => none
  | fuel + 1, depth, text =>
    match skipSpace text with
    | '"' :: rest => do
      let (key, rest) ← string? rest
      match skipSpace rest with
      | ':' :: rest => do
        let (v, rest) ← value? fuel depth rest
        match skipSpace rest with
        | ',' :: rest => (members? fuel depth rest).map fun (es, rest) => ((key, v) :: es, rest)
        | '\x7D' :: rest => some ([(key, v)], rest)
        | _ => none
      | _ => none
    | _ => none

end

/-- How deep arrays and objects may be nested. -/
def maxDepth : Nat := 127

end DocPath.Json.Reader

namespace DocPath

/-- The document that a JSON text writes. -/
def Value.ofJson? (text : String) : Option Value :=
  let cs := text.toList
  match Json.Reader.value? (2 * cs.length + 2) Json.Reader.maxDepth cs with
  | some (v, rest) => if (Json.Reader.skipSpace rest).isEmpty then some v else none
  | none => none

end DocPath

import DocPath.Json.Tree
import DocPath.Number.Integer
import DocPath.Number.Layout
import DocPath.Value.Basic

/-! # JSON texts

A JSON text is written without blanks.  In strings a quote, a backslash and the
characters below the blank are escaped, the latter by a letter where they have
one. -/

namespace DocPath.Json

/-- The digit of a number below sixteen, in lower case. -/
def hexDigit (n : Nat) : Char :=
  if n < 10 then Char.ofNat ('0'.toNat + n) else Char.ofNat ('a'.toNat + (n - 10))

/-- How a character stands in a string. -/
def escapeChar (c : Char) : List Char :=
  match c with
  | '"' => ['\\', '"']
  | '\\' => ['\\', '\\']
  | '\x08' => ['\\', 'b']
  | '\x0C' => ['\\', 'f']
  | '\n' => ['\\', 'n']
  | '\r' => ['\\', 'r']
  | '\t' => ['\\', 't']
  | c =>
    if c.toNat < 0x20 then
      ['\\', 'u', '0', '0', hexDigit (c.toNat / 16), hexDigit (c.toNat % 16)]
    else [c]

/-- The text of a string, in quotes. -/
def stringText (s : String) : String :=
  "\"" ++ String.ofList (s.toList.flatMap escapeChar) ++ "\""

/-- The text of a floating point number; one that is not finite is written as
null. -/
def floatText (x : Binary64) : String :=
  if x.isFinite then FloatLayout.json.text x else "null"

/-- Texts with commas between them and brackets around them. -/
def arrayText (items : List String) : String :=
  "[" ++ ",".intercalate items ++ "]"

/-- Keys with their texts, with commas between them and braces around them. -/
def objectText (entries : List (String × String)) : String :=
  "\x7B" ++ ",".intercalate (entries.map fun (k, t) => stringText k ++ ":" ++ t) ++ "\x7D"

namespace Tree

mutual

/-- The text of a JSON tree. -/
def text : Tree → String
  | null => "null"
  | bool b => if b then "true" else "false"
  | integer n => textOfInt n
  | float x => floatText x
  | string s => stringText s
  | array items => arrayText (textItems items)
  | object entries => objectText (textEntries entries)

def textItems : List Tree → List String
  | [] => []
  | t :: rest => t.text :: textItems rest

def textEntries : List (String × Tree) → List (String × String)
  | [] => []
  | (k, t) :: rest => (k, t.text) :: textEntries rest

end

end Tree

end DocPath.Json

namespace DocPath.Value

mutual

/-- The JSON text of a document, with the entries of objects in their own
order. -/
def text : Value → String
  | null => "null"
  | bool b => if b then "true" else "false"
  | int n => textOfInt n.toInt
  | long n => textOfInt n.toInt
  | double x => Json.floatText x
  | string s => Json.stringText s
  | array items => Json.arrayText (textItems items)
  | object entries => Json.objectText (textEntries entries)

def textItems : List Value → List String
  | [] => []
  | v :: rest => v.text :: textItems rest

def textEntries : List (String × Value) → List (String × String)
  | [] => []
  | (k, v) :: rest => (k, v.text) :: textEntries rest

end

end DocPath.Value

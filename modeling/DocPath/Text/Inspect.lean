import DocPath.Json.Printer
import DocPath.Unicode.Property

/-! # Texts for developers

A value shows its structure to a developer as the name of its kind with its
parts: named fields in braces, or a row of parts in parentheses or brackets.
Strings are quoted, and characters that would not show are written by their code
points. -/

namespace DocPath.Inspect

/-- The digits of a number in base sixteen, in lower case. -/
def hexText (n : Nat) : List Char := (Nat.toDigits 16 n).map Char.toLower

/-- How a character stands in a string. -/
def char (c : Char) : List Char :=
  match c with
  | '\x00' => ['\\', '0']
  | '\t' => ['\\', 't']
  | '\r' => ['\\', 'r']
  | '\n' => ['\\', 'n']
  | '\\' => ['\\', '\\']
  | '"' => ['\\', '"']
  | c =>
    if Unicode.isGraphemeExtend c || Unicode.isInvisible c then
      '\\' :: 'u' :: '\x7B' :: hexText c.toNat ++ ['\x7D']
    else [c]

/-- A string in quotes. -/
def string (s : String) : String :=
  "\"" ++ String.ofList (s.toList.flatMap char) ++ "\""

def bool (b : Bool) : String := if b then "true" else "false"

/-- Parts in a row, in brackets. -/
def list (items : List String) : String := "[" ++ ", ".intercalate items ++ "]"

/-- Keys with their parts, in braces. -/
def map (entries : List (String × String)) : String :=
  "\x7B" ++ ", ".intercalate (entries.map fun (k, v) => string k ++ ": " ++ v) ++ "\x7D"

/-- A name with a part in parentheses. -/
def tagged (name part : String) : String := name ++ "(" ++ part ++ ")"

/-- A part that may be missing. -/
def option : Option String → String
  | none => "None"
  | some part => tagged "Some" part

/-- A name with named fields. -/
def record (name : String) (fields : List (String × String)) : String :=
  name ++ " \x7B " ++ ", ".intercalate (fields.map fun (f, v) => f ++ ": " ++ v) ++ " \x7D"

/-- A floating point number. -/
def float (x : Binary64) : String :=
  if x.isNaN then "NaN"
  else if x.isFinite then FloatLayout.plain.text x
  else if x.isNegative then "-inf" else "inf"

mutual

/-- A document. -/
def value : Value → String
  | .null => "Null"
  | .bool b => tagged "Bool" (bool b)
  | .int n => tagged "Int" (textOfInt n.toInt)
  | .long n => tagged "Long" (textOfInt n.toInt)
  | .double x => tagged "Double" (float x)
  | .string s => tagged "String" (string s)
  | .array items => tagged "Array" (list (values items))
  | .object es => tagged "Object" (map (entries es))

def values : List Value → List String
  | [] => []
  | v :: rest => value v :: values rest

def entries : List (String × Value) → List (String × String)
  | [] => []
  | (k, v) :: rest => (k, value v) :: entries rest

end

end DocPath.Inspect

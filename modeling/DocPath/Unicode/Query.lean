import DocPath.Unicode.Property
import DocPath.Unicode.Script
import DocPath.Unicode.Segmentation

/-! # Classes of characters by name

A query asks for a class of characters by the name of a property, a general
category or a script, or by a property and one of its values.  Case, blanks,
hyphens, underscores and a leading `is` make no difference to a name. -/

namespace DocPath.Unicode

/-- A class of characters, as a reader names it. -/
inductive Query where
  | letter (c : Char)
  | named (name : String)
  | valued (property value : String)
deriving DecidableEq, Repr

namespace Query

/-- A name in lower case, without a leading `is` and without blanks, hyphens,
underscores and characters beyond ASCII.  `isc` keeps its `is`, as it
abbreviates another property than `c`. -/
def normalize (name : String) : String :=
  let cs := name.toList
  let (stripped, body) := match cs with
    | i :: s :: rest => if i.toLower = 'i' ∧ s.toLower = 's' then (true, rest) else (false, cs)
    | _ => (false, cs)
  let kept := (body.filter fun c => c.toNat < 128 && c != ' ' && c != '_' && c != '-').map
    Char.toLower
  if stripped && kept == ['c'] then "isc" else String.ofList kept

/-- The test of a general category, of which three names stand for sets of code
points. -/
def categoryTest? (name : String) : Option (Char → Bool) :=
  match name with
  | "any" => some fun _ => true
  | "assigned" => some fun c => generalCategory c != .unassigned
  | "ascii" => some fun c => c.toNat < 128
  | _ => (GeneralCategory.testOfName? name).map fun test c => test (generalCategory c)

def scriptTest? (name : String) : Option (Char → Bool) :=
  (Script.ofName? name).map fun s c => script c == s

/-- The test of a single name: a property, a general category or a script, in
this order.  Three abbreviations of categories are not taken for the properties
that they abbreviate too. -/
def namedTest? (name : String) : Option (Char → Bool) :=
  let property := if name = "cf" ∨ name = "sc" ∨ name = "lc" then none else propertyOfName? name
  property <|> categoryTest? name <|> scriptTest? name

/-- The test of a property with a value. -/
def valuedTest? (property value : String) : Option (Char → Bool) :=
  match property with
  | "gc" | "generalcategory" => categoryTest? value
  | "sc" | "script" => scriptTest? value
  | "scx" | "scriptextensions" =>
    (Script.ofName? value).map fun s c => (scriptExtensions c).contains s
  | "age" => (versionOfName? value).map assignedBy
  | "gcb" | "graphemeclusterbreak" =>
    (graphemeBreakOfName? value).map fun code c => graphemeBreak c == code
  | "wb" | "wordbreak" => (wordBreakOfName? value).map fun code c => wordBreak c == code
  | "sb" | "sentencebreak" =>
    (sentenceBreakOfName? value).map fun code c => sentenceBreak c == code
  | _ => none

/-- The characters that a query asks for, unless it names no class. -/
def test? : Query → Option (Char → Bool)
  | letter c => namedTest? (normalize (String.singleton c))
  | named name => namedTest? (normalize name)
  | valued property value => valuedTest? (normalize property) (normalize value)

end Query

end DocPath.Unicode

import DocPath.Json.Printer
import DocPath.Regex.Engine
import DocPath.Value.Conversion

/-! # Criteria

A criterion tests what an object stores under one key.  A key that is absent
differs from one that stores null in the test for presence only; a test that
does not fit the kind of a value fails. -/

namespace DocPath

/-- A test together with its operand. -/
inductive Operator where
  | equalTo (operand : Value)
  | notEqualTo (operand : Value)
  | greater (operand : Value)
  | greaterOrEqual (operand : Value)
  | less (operand : Value)
  | lessOrEqual (operand : Value)
  /-- Equal to one of the values. -/
  | oneOf (values : List Value)
  /-- Equal to none of the values. -/
  | noneOf (values : List Value)
  /-- An array that holds each of the values. -/
  | containsAll (values : List Value)
  /-- An array of so many elements or a string of so many characters. -/
  | hasSize (size : UInt64)
  /-- Present, or absent. -/
  | present (expected : Bool)
  /-- Of a kind, and not null. -/
  | hasKind (kind : Kind)
  /-- A string that matches. -/
  | matching (pattern : Pattern)

namespace Operator

/-- The word for an operator. -/
def name : Operator → String
  | equalTo _ => "is"
  | notEqualTo _ => "ne"
  | greater _ => "gt"
  | greaterOrEqual _ => "gte"
  | less _ => "lt"
  | lessOrEqual _ => "lte"
  | oneOf _ => "in"
  | noneOf _ => "nin"
  | containsAll _ => "all"
  | hasSize _ => "size"
  | present _ => "exists"
  | hasKind _ => "type"
  | matching _ => "regex"

/-- Equality with a value that may be absent, which counts as null. -/
def equalsOrNull (actual : Option Value) (expected : Value) : Bool :=
  (actual.getD .null).equal expected

/-- The order between a value that may be absent and an operand. -/
def order? (actual : Option Value) (operand : Value) : Option Ordering :=
  actual.bind (·.compare? operand)

/-- Whether the value under the key passes the test; `none` is an absent key. -/
def accepts (actual : Option Value) : Operator → Bool
  | equalTo expected => equalsOrNull actual expected
  | notEqualTo expected => !equalsOrNull actual expected
  | greater operand => order? actual operand == some .gt
  | greaterOrEqual operand =>
    order? actual operand == some .gt || order? actual operand == some .eq
  | less operand => order? actual operand == some .lt
  | lessOrEqual operand =>
    order? actual operand == some .lt || order? actual operand == some .eq
  | oneOf values => values.any (equalsOrNull actual)
  | noneOf values => !values.any (equalsOrNull actual)
  | containsAll values =>
    match actual with
    | some (.array items) => values.all fun v => items.any (·.equal v)
    | _ => false
  | hasSize size =>
    match actual with
    | some (.array items) => items.length == size.toNat
    | some (.string s) => s.length == size.toNat
    | _ => false
  | present expected => actual.isSome == expected
  | hasKind kind =>
    match actual with
    | some v => !v.isNull && v.kind == kind
    | none => false
  | matching pattern =>
    match actual with
    | some (.string s) => pattern.matches? s
    | _ => false

/-- Equality of operators, with operands compared as values. -/
def equal : Operator → Operator → Bool
  | equalTo a, equalTo b | notEqualTo a, notEqualTo b | greater a, greater b
  | greaterOrEqual a, greaterOrEqual b | less a, less b | lessOrEqual a, lessOrEqual b => a == b
  | oneOf a, oneOf b | noneOf a, noneOf b | containsAll a, containsAll b => a == b
  | hasSize a, hasSize b => a == b
  | present a, present b => a == b
  | hasKind a, hasKind b => a == b
  | matching a, matching b => a == b
  | _, _ => false

instance : BEq Operator := ⟨equal⟩

/-- The text of an operand: its JSON text. -/
def operandText (v : Value) : String := v.toTree.text

/-- The texts of operands in brackets. -/
def operandsText (vs : List Value) : String :=
  "[" ++ ", ".intercalate (vs.map operandText) ++ "]"

/-- The text of the operand of an operator. -/
def argumentText : Operator → String
  | equalTo v | notEqualTo v | greater v | greaterOrEqual v | less v | lessOrEqual v =>
    operandText v
  | oneOf vs | noneOf vs | containsAll vs => operandsText vs
  | hasSize size => toString size.toNat
  | present expected => if expected then "true" else "false"
  | hasKind kind => kind.name
  | matching pattern => pattern.text

end Operator

/-- A test of what an object stores under a key. -/
structure Criterion where
  key : String
  operator : Operator

namespace Criterion

/-- Whether a node passes; only objects do. -/
def accepts (c : Criterion) (node : Value) : Bool :=
  match node with
  | .object entries => c.operator.accepts (entries.lookup c.key)
  | _ => false

instance : BEq Criterion := ⟨fun c d => c.key == d.key && c.operator == d.operator⟩

/-- The key, the operator and its operand. -/
def text (c : Criterion) : String :=
  c.key ++ " " ++ c.operator.name ++ " " ++ c.operator.argumentText

end Criterion

end DocPath

import DocPath.Filter.Predicate
import DocPath.Text.Inspect

/-! # Filters for developers

The structure of a filter: its criteria with their keys, and each operator with
its operand. -/

namespace DocPath

namespace Kind

/-- A kind for developers. -/
def inspect : Kind → String
  | null => "Null"
  | bool => "Bool"
  | int => "Int"
  | long => "Long"
  | double => "Double"
  | string => "String"
  | array => "Array"
  | object => "Object"

end Kind

namespace Pattern

/-- A pattern for developers. -/
def inspect (p : Pattern) : String :=
  Inspect.record "Pattern" [("source", Inspect.string p.source),
    ("flags", Inspect.record "PatternFlags" [
      ("case_insensitive", Inspect.bool p.flags.caseInsensitive),
      ("multi_line", Inspect.bool p.flags.multiLine),
      ("dot_matches_new_line", Inspect.bool p.flags.dotMatchesNewLine)])]

end Pattern

namespace Operator

/-- An operator for developers. -/
def inspect : Operator → String
  | equalTo v => Inspect.tagged "Is" (Inspect.value v)
  | notEqualTo v => Inspect.tagged "Ne" (Inspect.value v)
  | greater v => Inspect.tagged "Gt" (Inspect.value v)
  | greaterOrEqual v => Inspect.tagged "Gte" (Inspect.value v)
  | less v => Inspect.tagged "Lt" (Inspect.value v)
  | lessOrEqual v => Inspect.tagged "Lte" (Inspect.value v)
  | oneOf vs => Inspect.tagged "In" (Inspect.list (vs.map Inspect.value))
  | noneOf vs => Inspect.tagged "Nin" (Inspect.list (vs.map Inspect.value))
  | containsAll vs => Inspect.tagged "All" (Inspect.list (vs.map Inspect.value))
  | hasSize size => Inspect.tagged "Size" (toString size.toNat)
  | present expected => Inspect.tagged "Exists" (Inspect.bool expected)
  | hasKind kind => Inspect.tagged "Type" kind.inspect
  | matching pattern => Inspect.tagged "Regex" pattern.inspect

end Operator

namespace Criterion

/-- A criterion for developers. -/
def inspect (c : Criterion) : String :=
  Inspect.record "Criteria" [("key", Inspect.string c.key), ("operator", c.operator.inspect)]

end Criterion

namespace Filter

/-- A filter for developers. -/
def inspect (f : Filter) : String :=
  Inspect.record "Filter" [("criteria", Inspect.list (f.criteria.map Criterion.inspect))]

end Filter

namespace Predicate

/-- A test that does not say what it consists of, for developers. -/
def inspectCustom : String := "FnPredicate"

end Predicate

end DocPath

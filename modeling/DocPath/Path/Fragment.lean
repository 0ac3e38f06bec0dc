import DocPath.Number.Integer

/-! # Fragments

A fragment is one operation of a path.  However a path spells it, by a dot or in
brackets, the fragment is the same. -/

namespace DocPath

/-- One operation of a path. -/
inductive Fragment where
  /-- The document itself. -/
  | root
  /-- What is stored under a name. -/
  | property (name : String)
  /-- All children. -/
  | wildcard
  /-- The nodes together with all nodes below them. -/
  | descent
  /-- The element at an index, counted from the end if it is negative. -/
  | index (n : Int64)
  /-- The elements at several indices. -/
  | indices (ns : List Int64)
  /-- The elements from one index up to another. -/
  | slice (start stop : Option Int64)
  /-- The nodes that a predicate supplied with the path accepts. -/
  | placeholder
  /-- The nodes that the predicate written in the path accepts. -/
  | expression (text : String)
deriving DecidableEq, Repr

namespace Fragment

/-- Whether a fragment selects at most one node below a node. -/
def isDefinite : Fragment → Bool
  | root | property _ | index _ => true
  | _ => false

/-- Whether a fragment keeps what a predicate accepts. -/
def isPredicate : Fragment → Bool
  | placeholder | expression _ => true
  | _ => false

/-- The digits of a bound, or nothing where there is none. -/
def boundText : Option Int64 → String
  | some n => textOfInt n.toInt
  | none => ""

/-- The text of a fragment by itself. -/
def text : Fragment → String
  | root => "$"
  | property name => name
  | wildcard => "*"
  | descent => ".."
  | index n => "[" ++ textOfInt n.toInt ++ "]"
  | indices ns => "[" ++ ",".intercalate (ns.map fun n => textOfInt n.toInt) ++ "]"
  | slice start stop => "[" ++ boundText start ++ ":" ++ boundText stop ++ "]"
  | placeholder => "[?]"
  | expression text => "[?(" ++ text ++ ")]"

end Fragment

end DocPath

import DocPath.Json.Tree
import DocPath.Number.Integer
import DocPath.Value.Basic

/-! # Documents and JSON trees

`Value.ofTree` turns a JSON tree into a document and `Value.toTree` a document
into a JSON tree.  `Value.decode?` reads a tree by trying the kinds of nodes one
after the other; every tree fits one of them. -/

namespace DocPath.Value

/-- The narrowest number that an integer fits; beyond 64 bits it becomes a
floating point number. -/
def ofInteger (n : Int) : Value :=
  match int32OfInt? n with
  | some k => int k
  | none =>
    match int64OfInt? n with
    | some k => long k
    | none => double (.ofInt n)

mutual

/-- The document that a JSON tree stands for. -/
def ofTree : Json.Tree → Value
  | .null => null
  | .bool b => bool b
  | .integer n => ofInteger n
  | .float x => double x
  | .string s => string s
  | .array items => array (ofTrees items)
  | .object entries => object (ofTreeEntries entries)

def ofTrees : List Json.Tree → List Value
  | [] => []
  | t :: rest => ofTree t :: ofTrees rest

def ofTreeEntries : List (String × Json.Tree) → List (String × Value)
  | [] => []
  | (k, t) :: rest => (k, ofTree t) :: ofTreeEntries rest

end

mutual

/-- The JSON tree of a document.  A floating point number that is not finite has
none and becomes null. -/
def toTree : Value → Json.Tree
  | null => .null
  | bool b => .bool b
  | int n => .integer n.toInt
  | long n => .integer n.toInt
  | double x => if x.isFinite then .float x else .null
  | string s => .string s
  | array items => .array (toTrees items)
  | object entries => .ofEntries (toTreeEntries entries)

def toTrees : List Value → List Json.Tree
  | [] => []
  | v :: rest => toTree v :: toTrees rest

def toTreeEntries : List (String × Value) → List (String × Json.Tree)
  | [] => []
  | (k, v) :: rest => (k, toTree v) :: toTreeEntries rest

end

/-- The integer of 32 bits that a tree holds. -/
def decodeInt? : Json.Tree → Option Int32
  | .integer n => int32OfInt? n
  | _ => none

/-- The integer of 64 bits that a tree holds. -/
def decodeLong? : Json.Tree → Option Int64
  | .integer n => int64OfInt? n
  | _ => none

/-- The floating point number nearest to the number that a tree holds. -/
def decodeDouble? : Json.Tree → Option Binary64
  | .integer n => some (.ofInt n)
  | .float x => some x
  | _ => none

/-- The scalar that a tree holds, as the first kind in their order that it
fits. -/
def decodeScalar? (t : Json.Tree) : Option Value :=
  (match t with | .null => some null | _ => none) <|>
  (match t with | .bool b => some (bool b) | _ => none) <|>
  (decodeInt? t).map int <|>
  (decodeLong? t).map long <|>
  (decodeDouble? t).map double <|>
  (match t with | .string s => some (string s) | _ => none)

mutual

/-- The document that a tree holds, node by node as the first kind that it fits:
a scalar, an array or an object. -/
def decode? : Json.Tree → Option Value
  | .array items => (decodeItems? items).map array
  | .object entries => (decodeEntries? entries []).map object
  | t => decodeScalar? t

def decodeItems? : List Json.Tree → Option (List Value)
  | [] => some []
  | t :: rest => do some ((← decode? t) :: (← decodeItems? rest))

/-- Stores the entries one after the other. -/
def decodeEntries? : List (String × Json.Tree) → List (String × Value) →
    Option (List (String × Value))
  | [], stored => some stored
  | (k, t) :: rest, stored => do decodeEntries? rest (insertEntry k (← decode? t) stored)

end

end DocPath.Value

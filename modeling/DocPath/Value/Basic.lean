import DocPath.Number.Binary64

/-! # Document values

A document is a tree of objects, arrays and scalars.  Integers of 32 bits,
integers of 64 bits and floating point numbers are kinds of their own, which
equality never mixes.  The entries of an object keep the order in which they
were inserted. -/

namespace DocPath

/-- A node of a document. -/
inductive Value where
  | null
  | bool (b : Bool)
  | int (n : Int32)
  | long (n : Int64)
  | double (x : Binary64)
  | string (s : String)
  | array (items : List Value)
  | object (entries : List (String × Value))
deriving Inhabited

/-- The kind of a node. -/
inductive Kind where
  | null | bool | int | long | double | string | array | object
deriving DecidableEq, Repr

namespace Kind

/-- The name of a kind. -/
def name : Kind → String
  | null => "null"
  | bool => "bool"
  | int => "int"
  | long => "long"
  | double => "double"
  | string => "string"
  | array => "array"
  | object => "object"

end Kind

/-- The entries after `v` is stored under `key`: in the place of the value that
was there, or at the end. -/
def insertEntry {α : Type} (key : String) (v : α) : List (String × α) → List (String × α)
  | [] => [(key, v)]
  | (k, w) :: rest => if k = key then (key, v) :: rest else (k, w) :: insertEntry key v rest

namespace Value

/-- The object with the given entries; a key that is given again takes its last
value. -/
def ofEntries (entries : List (String × Value)) : Value :=
  object (entries.foldl (fun es e => insertEntry e.1 e.2 es) [])

def kind : Value → Kind
  | null => .null
  | bool _ => .bool
  | int _ => .int
  | long _ => .long
  | double _ => .double
  | string _ => .string
  | array _ => .array
  | object _ => .object

def isNull : Value → Bool
  | null => true
  | _ => false

/-- The entries of an object. -/
def entries? : Value → Option (List (String × Value))
  | object entries => some entries
  | _ => none

/-- The elements of an array. -/
def items? : Value → Option (List Value)
  | array items => some items
  | _ => none

/-- The text of a string. -/
def text? : Value → Option String
  | string s => some s
  | _ => none

/-- The value of an integer of either width. -/
def integer? : Value → Option Int
  | int n => some n.toInt
  | long n => some n.toInt
  | _ => none

/-- The floating point number nearest to a number of any kind. -/
def number? : Value → Option Binary64
  | int n => some (.ofInt n.toInt)
  | long n => some (.ofInt n.toInt)
  | double x => some x
  | _ => none

/-- The order of two values as numbers: exact between integers, and as floating
point numbers where one of them is.  What is no number has no order. -/
def compare? (a b : Value) : Option Ordering :=
  match a.integer?, b.integer? with
  | some m, some n => some (compare m n)
  | _, _ => do (← a.number?).compare? (← b.number?)

/-- What an object stores under a key. -/
def get? (v : Value) (key : String) : Option Value :=
  v.entries?.bind (·.lookup key)

/-- Whether a node is an object that stores something under a key. -/
def containsKey (v : Value) (key : String) : Bool :=
  (v.get? key).isSome

/-- The place in a row of `length` elements that an index means: from the start,
or from the end if it is negative. -/
def place (length : Nat) (index : Int) : Int :=
  if index < 0 then length + index else index

/-- The element of an array at an index, which counts from the end if it is
negative. -/
def getIndex? (v : Value) (index : Int64) : Option Value :=
  v.items?.bind fun items =>
    let p := place items.length index.toInt
    if p < 0 then none else items[p.toNat]?

/-- The number of elements of an array or entries of an object, or of characters
of a string. -/
def size? : Value → Option Nat
  | array items => some items.length
  | object entries => some entries.length
  | string s => some s.length
  | _ => none

/-- The elements of an array or the values of an object, in order. -/
def children : Value → List Value
  | array items => items
  | object entries => entries.map (·.2)
  | _ => []

mutual

/-- A node and all nodes below it, each before the nodes below it. -/
def descendants : Value → List Value
  | array items => array items :: descendantsOfItems items
  | object entries => object entries :: descendantsOfEntries entries
  | v => [v]

def descendantsOfItems : List Value → List Value
  | [] => []
  | v :: rest => v.descendants ++ descendantsOfItems rest

def descendantsOfEntries : List (String × Value) → List Value
  | [] => []
  | (_, v) :: rest => v.descendants ++ descendantsOfEntries rest

end

mutual

/-- Equality of documents: of the same kind throughout, and regardless of the
order of entries.  Floating point numbers are equal as numbers. -/
def equal : Value → Value → Bool
  | null, null => true
  | bool a, bool b => a == b
  | int a, int b => a == b
  | long a, long b => a == b
  | double a, double b => a.equal b
  | string a, string b => a == b
  | array a, array b => equalItems a b
  | object a, object b => a.length == b.length && equalEntries a b
  | _, _ => false

def equalItems : List Value → List Value → Bool
  | [], [] => true
  | v :: vs, w :: ws => v.equal w && equalItems vs ws
  | _, _ => false

/-- Whether each of the entries has an equal value under its key in `others`. -/
def equalEntries : List (String × Value) → List (String × Value) → Bool
  | [], _ => true
  | (k, v) :: rest, others =>
    (match others.lookup k with
      | some w => v.equal w
      | none => false) && equalEntries rest others

end

instance : BEq Value := ⟨equal⟩

end Value

end DocPath

import DocPath.Number.Binary64

/-! # JSON trees

A JSON tree is what a JSON text says: its numbers are integers or floating point
numbers, and its objects are maps, which list their entries in the order of
their keys. -/

namespace DocPath.Json

/-- A JSON document. -/
inductive Tree where
  | null
  | bool (b : Bool)
  | integer (n : Int)
  | float (x : Binary64)
  | string (s : String)
  | array (items : List Tree)
  | object (entries : List (String × Tree))
deriving Inhabited

namespace Tree

/-- The entries after `v` is stored under `key`, in the order of the keys. -/
def insertSorted (key : String) (v : Tree) : List (String × Tree) → List (String × Tree)
  | [] => [(key, v)]
  | (k, w) :: rest =>
    if key < k then (key, v) :: (k, w) :: rest
    else if k = key then (key, v) :: rest
    else (k, w) :: insertSorted key v rest

/-- The object with the given entries; a key that is given again takes its last
value. -/
def ofEntries (entries : List (String × Tree)) : Tree :=
  object (entries.foldl (fun es e => insertSorted e.1 e.2 es) [])

end Tree

end DocPath.Json

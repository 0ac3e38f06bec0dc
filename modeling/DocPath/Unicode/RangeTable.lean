/-! # Tables over the code points

A `RangeTable` is a set of code points given by its ranges, and a `RunTable`
labels every code point by the run it lies in.  Both are written as rows of
short entries and searched by halving. -/

namespace DocPath.Unicode

/-- The value of one hexadecimal digit; any other character counts as zero. -/
def hexDigitValue (c : Char) : Nat :=
  if '0' ≤ c ∧ c ≤ '9' then c.toNat - '0'.toNat
  else if 'a' ≤ c ∧ c ≤ 'f' then c.toNat - 'a'.toNat + 10
  else if 'A' ≤ c ∧ c ≤ 'F' then c.toNat - 'A'.toNat + 10
  else 0

/-- The number written by hexadecimal digits. -/
def hexNumber (text : String) : Nat :=
  text.toList.foldl (fun n c => 16 * n + hexDigitValue c) 0

/-- The entries of the rows of a table, which blanks separate. -/
def entries (rows : List String) : List String :=
  rows.flatMap (·.splitOn " ")

/-- The first and last code point of an entry `first-last` or of a single code
point. -/
def rangeOfEntry (entry : String) : Nat × Nat :=
  match entry.splitOn "-" with
  | [lo, hi] => (hexNumber lo, hexNumber hi)
  | _ => (hexNumber entry, hexNumber entry)

/-- The largest index `i` in `[lo, hi)` whose key is at most `n`, provided that
the keys increase and that the key at `lo` is at most `n`. -/
def lastAtMost (key : Nat → Nat) (n : Nat) (lo hi : Nat) : Nat :=
  if lo + 1 < hi then
    let mid := (lo + hi) / 2
    if key mid ≤ n then lastAtMost key n mid hi else lastAtMost key n lo mid
  else lo
termination_by hi - lo

/-- A set of code points, as its ranges in increasing order. -/
structure RangeTable where
  ranges : Array (Nat × Nat)

namespace RangeTable

def ofRows (rows : List String) : RangeTable :=
  ⟨((entries rows).map rangeOfEntry).toArray⟩

/-- Whether the code point `n` lies in one of the ranges. -/
def contains (t : RangeTable) (n : Nat) : Bool :=
  let i := lastAtMost (fun i => (t.ranges[i]?.getD (0, 0)).1) n 0 t.ranges.size
  match t.ranges[i]? with
  | some (lo, hi) => lo ≤ n && n ≤ hi
  | none => false

end RangeTable

/-- A labelling of the code points, as the starts of its runs in increasing
order. -/
structure RunTable (α : Type) where
  runs : Array (Nat × α)

namespace RunTable

variable {α : Type}

/-- The table whose entries are `start:label`. -/
def ofRows (label : String → α) (rows : List String) : RunTable α :=
  ⟨((entries rows).map fun entry =>
    match entry.splitOn ":" with
    | [start, name] => (hexNumber start, label name)
    | _ => (0, label "")).toArray⟩

/-- The label of the run in which the code point `n` lies. -/
def find? (t : RunTable α) (n : Nat) : Option α :=
  let i := lastAtMost (fun i => (t.runs[i]?.map (·.1)).getD 0) n 0 t.runs.size
  (t.runs[i]?).map (·.2)

end RunTable

end DocPath.Unicode

import DocPath.Unicode.RangeTable
import DocPath.Unicode.Tables.CaseFolding

/-! # Case-insensitive equality of characters

Two characters are equal without regard to case when simple case folding maps
them to the same character.  `foldingGroup` lists the characters equal to a
given one; a set of characters is closed under case when it holds with a
character its whole group. -/

namespace DocPath.Unicode

/-- The groups of code points that are equal without regard to case. -/
def foldingGroups : List (List Nat) :=
  (entries Tables.foldingGroups).map fun entry => (entry.splitOn "=").map hexNumber

/-- Each code point that has others equal to it, with its group, in increasing
order. -/
def foldingTable : Array (Nat × List Nat) :=
  ((foldingGroups.flatMap fun group => group.map fun n => (n, group)).mergeSort
    fun a b => a.1 ≤ b.1).toArray

/-- The characters that equal `c` without regard to case, `c` among them. -/
def foldingGroup (c : Char) : List Char :=
  let i := lastAtMost (fun i => (foldingTable[i]?.map (·.1)).getD 0) c.toNat 0 foldingTable.size
  match foldingTable[i]? with
  | some (n, group) => if n = c.toNat then group.map Char.ofNat else [c]
  | none => [c]

/-- The other case of an ASCII letter, beside the character itself. -/
def asciiFoldingGroup (c : Char) : List Char :=
  if c.isLower then [c, c.toUpper] else if c.isUpper then [c, c.toLower] else [c]

end DocPath.Unicode

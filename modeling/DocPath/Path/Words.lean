import DocPath.Number.Integer
import DocPath.Path.Step

/-! # Places in words

The bounds of a slice and the place of an index, computed in words.  A length is
a word of 64 bits, a bound or an index is one with a sign, and two words with a
sign have no sum where none of these words is it (`addInt64?`).  Whatever
contains such a sum then has no outcome either, so an outcome that exists has
met no overflow on the way. -/

namespace DocPath

/-- The sum of two words with a sign, unless it overflows. -/
def addInt64? (a b : Int64) : Option Int64 := int64OfInt? (a.toInt + b.toInt)

/-- The length that a word with a sign counts, unless it is negative. -/
def lengthOfInt64? (n : Int64) : Option UInt64 :=
  if n.toInt < 0 then none else some (.ofNat n.toInt.toNat)

/-- The place in a row of `length` elements that an index means: from the start,
or from the end if it is negative.  There is none if a sum overflows. -/
def placeWord? (length index : Int64) : Option Int64 :=
  if index.toInt < 0 then addInt64? length index else some index

namespace Slice

/-- The length of a row as a word with a sign.  A length beyond these counts as
the greatest one. -/
def countedWord (length : UInt64) : Int64 := (int64OfInt? length.toNat).getD Int64.maxValue

/-- A place, put between the ends of a row. -/
def clampWord (length place : Int64) : Int64 :=
  if place.toInt < 0 then 0 else if length.toInt < place.toInt then length else place

/-- The place within a row that a bound means. -/
def boundWord? (length : UInt64) (bound : Int64) : Option UInt64 :=
  (placeWord? (countedWord length) bound).map fun p =>
    (lengthOfInt64? (clampWord (countedWord length) p)).getD length

/-- The first place of a slice and the place after its last one. -/
def boundsWords? (length : UInt64) (start stop : Option Int64) : Option (UInt64 × UInt64) := do
  let first ← start.elim (some 0) (boundWord? length)
  let last ← stop.elim (some length) (boundWord? length)
  some (first, last)

end Slice

/-- The element of an array at an index; none altogether if a sum overflows. -/
def Value.elementWord? (items : List Value) (index : Int64) : Option (Option Value) :=
  match int64OfInt? items.length with
  | none => some none
  | some length => (placeWord? length index).map fun p => (lengthOfInt64? p).bind fun w =>
    items[w.toNat]?

end DocPath

import DocPath.Path.Words
import DocPath.Proofs.Number.Integer
import DocPath.Proofs.Path.Slicing

/-! # Sums of words do not overflow

The bounds of a slice and the place of an index are integers, and a program
computes them in words (`Slice.boundsWords?`, `Value.elementWord?`).  However
long an array is and whatever the bounds are, all the sums that are met on the
way exist (`exists_placeWord?`), and the words that come out count the integers
(`Slice.exists_boundsWords?`, `Value.exists_elementWord?`). -/

namespace DocPath

variable {length index : Int64}

/-- A sum exists: a negative index takes a length at most down to the least
word. -/
theorem exists_placeWord? (hlength : 0 ≤ length.toInt) (index : Int64) :
    ∃ p, placeWord? length index = some p ∧
      p.toInt = Value.place length.toInt.toNat index.toInt := by
  have hcast : (length.toInt.toNat : Int) = length.toInt := Int.toNat_of_nonneg hlength
  unfold placeWord? Value.place
  split
  · have hlow := index.le_toInt
    have hhigh := length.toInt_lt
    have hsum : (Int64.ofInt (length.toInt + index.toInt)).toInt = length.toInt + index.toInt :=
      Int64.toInt_ofInt_of_le (by omega) (by omega)
    exact ⟨_, int64OfInt?_eq_some_iff.mpr hsum, by rw [hsum, hcast]⟩
  · exact ⟨index, rfl, rfl⟩

/-- A word that is not negative counts a length. -/
theorem lengthOfInt64?_eq_some {n : Int64} (hn : 0 ≤ n.toInt) :
    ∃ w, lengthOfInt64? n = some w ∧ w.toNat = n.toInt.toNat := by
  have hhigh := n.toInt_lt
  refine ⟨_, if_neg (by omega), ?_⟩
  exact UInt64.toNat_ofNat_of_lt (show n.toInt.toNat < 2 ^ 64 by omega)

namespace Slice

/-- The length of a row as it is counted, or the greatest word for a length
beyond it. -/
theorem toInt_countedWord (length : UInt64) :
    (countedWord length).toInt = min (length.toNat : Int) Int64.maxValue.toInt := by
  have hmax : Int64.maxValue.toInt = 2 ^ 63 - 1 := rfl
  have hmin : Int64.minValue.toInt = - 2 ^ 63 := rfl
  unfold countedWord int64OfInt?
  split
  · next h =>
    rw [Option.getD_some, Int64.toInt_ofInt_of_le (by omega) (by omega)]
    omega
  · rw [Option.getD_none]
    omega

/-- A place between the ends of a row is left as it is, and any other one is put
at the nearest end. -/
theorem toInt_clampWord (length place : Int64) (hlength : 0 ≤ length.toInt) :
    (clampWord length place).toInt = max 0 (min place.toInt length.toInt) := by
  have hzero : (0 : Int64).toInt = 0 := rfl
  unfold clampWord
  split
  · omega
  · split <;> omega

/-- The place of a bound exists, and is the one that is computed among the
integers. -/
theorem exists_boundWord? (length : UInt64) (bound : Int64) :
    ∃ w, boundWord? length bound = some w ∧
      w.toNat = clamp (min length.toNat Int64.maxValue.toInt) bound.toInt := by
  have hcounted := toInt_countedWord length
  have hmax : Int64.maxValue.toInt = 2 ^ 63 - 1 := rfl
  have hnonneg : 0 ≤ (countedWord length).toInt := by omega
  obtain ⟨p, hp, hplace⟩ := exists_placeWord? hnonneg bound
  have hclamp := toInt_clampWord (countedWord length) p hnonneg
  obtain ⟨w, hw, hvalue⟩ :=
    lengthOfInt64?_eq_some (n := clampWord (countedWord length) p) (by omega)
  refine ⟨w, ?_, ?_⟩
  · rw [boundWord?, hp, Option.map_some, hw, Option.getD_some]
  · rw [hvalue, hclamp, hplace, hcounted]
    rfl

/-- A bound, put between the ends of a row of `length` elements: from the start,
or from the end if it is negative. -/
def inRow (length bound : Int) : Int :=
  min (max (if bound < 0 then bound + length else bound) 0) length

/-- A place within the row does not lie behind it, also where the row is longer
than what is counted. -/
theorem clamp_le (length : Nat) (bound : Int) :
    clamp (min length Int64.maxValue.toInt) bound ≤ length := by
  unfold clamp
  omega

/-- In a row whose length is counted, the place of a bound is the bound put
between the ends of the row. -/
theorem clamp_eq_inRow {length : Nat} (h : (length : Int) ≤ Int64.maxValue.toInt) (bound : Int) :
    (clamp (min length Int64.maxValue.toInt) bound : Int) = inRow length bound := by
  rw [Int.min_eq_left h]
  unfold clamp Value.place inRow
  rw [Int.toNat_natCast]
  split <;> omega

/-- A bound that may be absent means a place in the row. -/
theorem getD_clamp {length absent : Nat} (habsent : absent ≤ length) (bound : Option Int64) :
    (bound.map fun b => clamp (min length Int64.maxValue.toInt) b.toInt).getD absent ≤ length ∧
      ((length : Int) ≤ Int64.maxValue.toInt →
        ((bound.map fun b => clamp (min length Int64.maxValue.toInt) b.toInt).getD absent : Int) =
          bound.elim (absent : Int) fun b => inRow length b.toInt) := by
  cases bound with
  | none => exact ⟨habsent, fun _ => rfl⟩
  | some b => exact ⟨clamp_le length b.toInt, fun h => clamp_eq_inRow h b.toInt⟩

/-- The words of a slice are the bounds that are computed among the integers,
for every length and with or without each of the bounds. -/
theorem exists_boundsWords? (length : UInt64) (start stop : Option Int64) :
    ∃ first last : UInt64, boundsWords? length start stop = some (first, last) ∧
      bounds length.toNat start stop = (first.toNat, last.toNat) := by
  have hbound : ∀ (absent : UInt64) (bound : Option Int64), ∃ w : UInt64,
      bound.elim (some absent) (boundWord? length) = some w ∧
        w.toNat = (bound.map fun b => clamp (min length.toNat Int64.maxValue.toInt) b.toInt).getD
          absent.toNat := by
    intro absent bound
    cases bound with
    | none => exact ⟨absent, rfl, rfl⟩
    | some b => exact exists_boundWord? length b
  obtain ⟨first, hfirst, hstart⟩ := hbound 0 start
  obtain ⟨last, hlast, hstop⟩ := hbound length stop
  refine ⟨first, last, ?_, ?_⟩
  · rw [boundsWords?, hfirst, hlast]
    rfl
  · rw [hstart, hstop]
    rfl

end Slice

namespace Value

/-- The place of an index exists, and means the element that it means among the
integers. -/
theorem exists_elementWord? (items : List Value) (index : Int64) :
    ∃ r, elementWord? items index = some r ∧
      ((items.length : Int) ≤ Int64.maxValue.toInt → r = (array items).getIndex? index) := by
  unfold elementWord?
  split
  · next hnone =>
    refine ⟨none, rfl, fun hlength => ?_⟩
    -- an array of which each element has an index has a length with a sign
    have hmin : Int64.minValue.toInt = - 2 ^ 63 := rfl
    rw [int64OfInt?, if_pos ⟨by omega, hlength⟩] at hnone
    cases hnone
  · next length hlength =>
    have hvalue : length.toInt = items.length := int64OfInt?_eq_some_iff.mp hlength
    have hnonneg : 0 ≤ length.toInt := by omega
    obtain ⟨p, hp, hplace⟩ := exists_placeWord? hnonneg index
    rw [hvalue, Int.toNat_natCast] at hplace
    refine ⟨_, by rw [hp, Option.map_some], fun _ => ?_⟩
    show _ = if place items.length index.toInt < 0 then none else
      items[(place items.length index.toInt).toNat]?
    rw [← hplace]
    split
    · next hneg => rw [lengthOfInt64?, if_pos hneg, Option.bind_none]
    · next hneg =>
      obtain ⟨w, hw, hcount⟩ := lengthOfInt64?_eq_some (n := p) (by omega)
      rw [hw, Option.bind_some, hcount]

end Value

/-- **Every place is computed without a sum that overflows**: the bounds of a
slice, whatever the length and the bounds are, and the place of every index.
The bounds lie within the row.  Where the length is one that a word with a sign
counts, a bound that is given is put between the ends of the row, and an index
means the element that it means among the integers. -/
theorem places_in_words :
    (∀ (length : UInt64) (start stop : Option Int64), ∃ first last : UInt64,
      Slice.boundsWords? length start stop = some (first, last) ∧
        Slice.bounds length.toNat start stop = (first.toNat, last.toNat) ∧
        first ≤ length ∧ last ≤ length ∧
        ((length.toNat : Int) ≤ Int64.maxValue.toInt →
          (first.toNat : Int) = start.elim 0 (fun b => Slice.inRow length.toNat b.toInt) ∧
          (last.toNat : Int) = stop.elim (length.toNat : Int) fun b =>
            Slice.inRow length.toNat b.toInt)) ∧
    ∀ (items : List Value) (index : Int64), ∃ r, Value.elementWord? items index = some r ∧
      ((items.length : Int) ≤ Int64.maxValue.toInt → r = (Value.array items).getIndex? index) := by
  refine ⟨fun length start stop => ?_, Value.exists_elementWord?⟩
  obtain ⟨first, last, hwords, hbounds⟩ := Slice.exists_boundsWords? length start stop
  obtain ⟨hstart, hstop⟩ := Prod.mk.inj hbounds
  obtain ⟨hfirst, hfirstRow⟩ := Slice.getD_clamp (Nat.zero_le length.toNat) start
  obtain ⟨hlast, hlastRow⟩ := Slice.getD_clamp (le_refl length.toNat) stop
  rw [hstart] at hfirst hfirstRow
  rw [hstop] at hlast hlastRow
  exact ⟨first, last, hwords, hbounds, UInt64.le_iff_toNat_le.mpr hfirst,
    UInt64.le_iff_toNat_le.mpr hlast, fun hlength => ⟨hfirstRow hlength, hlastRow hlength⟩⟩

/-- The least and the greatest bound of three elements, and the least index of
three. -/
theorem places_in_words_extremes :
    ((3 : UInt64).toNat : Int) ≤ Int64.maxValue.toInt ∧
      Slice.boundsWords? 3 (some Int64.minValue) (some Int64.maxValue) = some (0, 3) ∧
      Slice.bounds 3 (some Int64.minValue) (some Int64.maxValue) = (0, 3) ∧
      (([.null, .bool true, .int 2] : List Value).length : Int) ≤ Int64.maxValue.toInt ∧
      Value.elementWord? [.null, .bool true, .int 2] Int64.minValue = some none := by
  have hthree : ((3 : UInt64).toNat : Int) ≤ Int64.maxValue.toInt := by decide
  have hitems :
      (([.null, .bool true, .int 2] : List Value).length : Int) ≤ Int64.maxValue.toInt := by decide
  obtain ⟨first, last, hwords, hbounds, -, -, hrow⟩ :=
    places_in_words.1 3 (some Int64.minValue) (some Int64.maxValue)
  obtain ⟨hfirst, hlast⟩ := hrow hthree
  have hzero : first = 0 := UInt64.toNat_inj.mp (Int.ofNat.inj hfirst)
  have hend : last = 3 := UInt64.toNat_inj.mp (Int.ofNat.inj hlast)
  obtain ⟨r, hr, hindex⟩ := places_in_words.2 [.null, .bool true, .int 2] Int64.minValue
  rw [hzero, hend] at hwords hbounds
  exact ⟨hthree, hwords, hbounds, hitems, by rw [hr, hindex hitems]; rfl⟩

end DocPath

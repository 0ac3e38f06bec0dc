import Mathlib.Data.Finset.Card
import Mathlib.Data.Nat.Bitwise
import Mathlib.Logic.Function.Iterate
import DocPath.Regex.Matcher

/-! # What an expression matches

`Expr.Matches` says, by the structure of an expression, between which places of
a text it matches.  A plan finds the same (`Expr.carries`): it takes the places
where a match may begin to exactly those where one may end.  The point that is
not by structure is the repetition without an upper bound, where the plan stops
after one round more than the text has characters.  Every round that changes
anything reaches a new place, so by then nothing is left to reach
(`Carries.all`). -/

namespace DocPath.Regex

variable {n : Nat} {R S : Nat → Nat → Prop} {f g : Nat → Nat}

/-! ### Places as bits -/

/-- The bits of a set of places, by the character that comes after each
place. -/
theorem testBit_placesBefore (p : Char → Bool) (text : List Char) (i : Nat) :
    (placesBefore p text).testBit i = text[i]?.any p := by
  induction text generalizing i with
  | nil => simp [placesBefore]
  | cons c rest ih =>
    rw [placesBefore, ← Nat.bit_val]
    cases i with
    | zero => simp
    | succ i => simp [Nat.testBit_bit_succ, ih]

/-- The character before a place, of which there is none at the start of the
text. -/
def charBefore (text : List Char) (i : Nat) : Option Char := (text.take i).getLast?

/-- The character before a place that is not the first one, with one more
character in front of the text. -/
theorem charBefore_cons_succ (c : Char) (text : List Char) (i : Nat) :
    charBefore (c :: text) (i + 1) = some ((charBefore text i).getD c) := by
  rw [charBefore, List.take_succ_cons, List.getLast?_cons, charBefore]

/-- The places where an assertion holds, by the characters on both sides, one of
which may lie before the text. -/
theorem testBit_placesWhere (l : Look) (before : Option Char) (text : List Char) (i : Nat) :
    (placesWhere l before text).testBit i =
      (decide (i ≤ text.length) && l.holds ((charBefore text i).or before) text[i]?) := by
  induction text generalizing before i with
  | nil =>
    cases i <;> cases h : l.holds before none <;>
      simp [placesWhere, charBefore, Nat.testBit_succ, h]
  | cons c rest ih =>
    rw [placesWhere, ← Nat.bit_val]
    cases i with
    | zero => simp [charBefore]
    | succ i =>
      rw [Nat.testBit_bit_succ, ih, charBefore_cons_succ]
      cases charBefore rest i <;> simp

/-! ### Rounds -/

/-- Two places that a number of rounds of a relation lead from one to the
other. -/
def Rounds (R : Nat → Nat → Prop) : Nat → Nat → Nat → Prop
  | 0, i, k => i = k
  | m + 1, i, k => ∃ j, R i j ∧ Rounds R m j k

/-- Rounds that may also stay where they are are so many rounds or fewer. -/
theorem rounds_eq_or_iff {m i k : Nat} :
    Rounds (fun i j => i = j ∨ R i j) m i k ↔ ∃ l ≤ m, Rounds R l i k := by
  induction m generalizing i with
  | zero =>
    constructor
    · intro h
      exact ⟨0, Nat.le_refl 0, h⟩
    · rintro ⟨l, hl, h⟩
      obtain rfl : l = 0 := Nat.le_zero.mp hl
      exact h
  | succ m ih =>
    constructor
    · rintro ⟨j, rfl | hij, hjk⟩
      · obtain ⟨l, hl, h⟩ := ih.mp hjk
        exact ⟨l, by omega, h⟩
      · obtain ⟨l, hl, h⟩ := ih.mp hjk
        exact ⟨l + 1, by omega, j, hij, h⟩
    · rintro ⟨l, hl, h⟩
      cases l with
      | zero => exact ⟨i, .inl rfl, ih.mpr ⟨0, by omega, h⟩⟩
      | succ l =>
        obtain ⟨j, hij, hjk⟩ := h
        exact ⟨j, .inr hij, ih.mpr ⟨l, by omega, hjk⟩⟩

namespace Plan

theorem times_eq_iterate (f : Nat → Nat) (m s : Nat) : times f m s = f^[m] s := by
  induction m generalizing s with
  | zero => rfl
  | succ m ih =>
    simp only [times, Function.iterate_succ_apply]
    split
    · next h => rw [h, Function.iterate_fixed h]
    · exact ih (f s)

/-- Repeating up to a given number of times is iterating with all places
kept. -/
theorem gather_eq_iterate (f : Nat → Nat) (m s : Nat) :
    gather f m s = (fun t => t ||| f t)^[m] s := by
  rw [← times_eq_iterate]
  induction m generalizing s with
  | zero => rfl
  | succ m ih =>
    simp only [gather, times]
    split
    · rfl
    · exact ih _

end Plan

/-! ### Functions that follow a relation -/

/-- The places of a set lie in a text of `n` characters, which has one place
more than characters. -/
def Within (n s : Nat) : Prop := ∀ i, s.testBit i → i ≤ n

/-- A function takes a set of places to all that a relation leads to from
there. -/
structure Carries (n : Nat) (R : Nat → Nat → Prop) (f : Nat → Nat) : Prop where
  le_of_le : ∀ {i j}, R i j → i ≤ n → j ≤ n
  testBit_iff : ∀ {s}, Within n s → ∀ j, (f s).testBit j ↔ ∃ i, s.testBit i ∧ R i j

namespace Carries

/-- What is carried over stays within the text. -/
theorem within (h : Carries n R f) {s : Nat} (hs : Within n s) : Within n (f s) := by
  intro j hj
  obtain ⟨i, hi, hij⟩ := (h.testBit_iff hs j).mp hj
  exact h.le_of_le hij (hs i hi)

theorem congr (h : Carries n R f) (hRS : ∀ i j, R i j ↔ S i j) : Carries n S f where
  le_of_le hij := h.le_of_le ((hRS _ _).mpr hij)
  testBit_iff hs j := by simp only [h.testBit_iff hs j, hRS]

/-- Without anything to match every place is kept. -/
theorem refl : Carries n (fun i j => i = j) id where
  le_of_le := by rintro i j rfl h; exact h
  testBit_iff _ j := by simp

/-- Two functions one after the other carry over one relation after the
other. -/
theorem comp (hf : Carries n R f) (hg : Carries n S g) :
    Carries n (fun i k => ∃ j, R i j ∧ S j k) (fun s => g (f s)) where
  le_of_le := by
    rintro i k ⟨j, hij, hjk⟩ hi
    exact hg.le_of_le hjk (hf.le_of_le hij hi)
  testBit_iff {s} hs k := by
    rw [hg.testBit_iff (hf.within hs) k]
    constructor
    · rintro ⟨j, hj, hjk⟩
      obtain ⟨i, hi, hij⟩ := (hf.testBit_iff hs j).mp hj
      exact ⟨i, hi, j, hij, hjk⟩
    · rintro ⟨i, hi, j, hij, hjk⟩
      exact ⟨j, (hf.testBit_iff hs j).mpr ⟨i, hi, hij⟩, hjk⟩

theorem or (hf : Carries n R f) (hg : Carries n S g) :
    Carries n (fun i j => R i j ∨ S i j) (fun s => f s ||| g s) where
  le_of_le := by
    rintro i j (hij | hij) hi
    · exact hf.le_of_le hij hi
    · exact hg.le_of_le hij hi
  testBit_iff {s} hs j := by
    rw [Nat.testBit_or, Bool.or_eq_true, hf.testBit_iff hs, hg.testBit_iff hs]
    simp only [and_or_left, exists_or]

/-- A function that is iterated carries over so many rounds. -/
theorem iterate (h : Carries n R f) (m : Nat) : Carries n (Rounds R m) (f^[m]) := by
  induction m with
  | zero => exact refl
  | succ m ih => exact h.comp ih

/-- A round that may also stay where it is. -/
theorem stay (h : Carries n R f) : Carries n (fun i j => i = j ∨ R i j) (fun t => t ||| f t) :=
  refl.or h

/-- With the option to stay, `m` rounds are up to `m` rounds. -/
theorem upTo (h : Carries n R f) (m : Nat) :
    Carries n (fun i k => ∃ l ≤ m, Rounds R l i k) ((fun t => t ||| f t)^[m]) :=
  (h.stay.iterate m).congr fun _ _ => rounds_eq_or_iff

end Carries

/-! ### Saturation -/

/-- The places of a text of `n` characters that a set leaves out.  There are
fewer of them after each round that reaches a place, so the rounds come to an
end. -/
def missing (n s : Nat) : Finset Nat := {i ∈ Finset.range (n + 1) | ¬ s.testBit i}

/-- There are not more places to reach than the text has. -/
theorem card_missing_le (n s : Nat) : (missing n s).card ≤ n + 1 :=
  (Finset.card_filter_le _ _).trans_eq (Finset.card_range (n + 1))

/-- A round that changes a set reaches a place that the set left out, so the
rounds that change anything can be counted. -/
theorem card_missing_lt (h : Carries n R f) {s : Nat} (hs : Within n s) (hne : s ||| f s ≠ s) :
    (missing n (s ||| f s)).card < (missing n s).card := by
  obtain ⟨j, hj⟩ := Nat.exists_testBit_ne_of_ne hne
  rw [Nat.testBit_or] at hj
  have hnew : s.testBit j = false ∧ (f s).testBit j = true := by
    cases hsj : s.testBit j <;> simp_all
  refine Finset.card_lt_card ⟨?_, fun hback => ?_⟩
  · intro i hi
    simp only [missing, Finset.mem_filter, Nat.testBit_or, Bool.or_eq_true, not_or] at hi ⊢
    exact ⟨hi.1, hi.2.1⟩
  · have hle := h.within hs j hnew.2
    have hleft : j ∈ missing n s := by simp [missing, hnew.1]; omega
    simpa [missing, hnew.2] using hback hleft

/-- After as many rounds as there are places to reach, a further round reaches
nothing. -/
theorem iterate_fixed_of_missing (h : Carries n R f) {m s : Nat} (hs : Within n s)
    (hm : (missing n s).card ≤ m) :
    (fun t => t ||| f t) ((fun t => t ||| f t)^[m] s) = (fun t => t ||| f t)^[m] s := by
  induction m generalizing s with
  | zero =>
    by_contra hne
    have := card_missing_lt h hs hne
    omega
  | succ m ih =>
    by_cases hfix : s ||| f s = s
    · rw [Function.iterate_fixed (f := fun t => t ||| f t) hfix]
      exact hfix
    · have := card_missing_lt h hs hfix
      exact ih (h.stay.within hs) (Nat.le_of_lt_succ (this.trans_le hm))

/-- One round for every place is as good as any number of rounds: a round that
adds no place is followed by none that does, and there are no more places to
add. -/
theorem Carries.all (h : Carries n R f) :
    Carries n (fun i k => ∃ l, Rounds R l i k) ((fun t => t ||| f t)^[n + 1]) where
  le_of_le := by
    rintro i k ⟨l, hl⟩ hi
    exact (h.iterate l).le_of_le hl hi
  testBit_iff {s} hs k := by
    constructor
    · intro hk
      obtain ⟨i, hi, l, -, hl⟩ := ((h.upTo (n + 1)).testBit_iff hs k).mp hk
      exact ⟨i, hi, l, hl⟩
    · rintro ⟨i, hi, l, hl⟩
      -- the rounds beyond those of the function change nothing, so they may be added
      have hfix := iterate_fixed_of_missing h hs (card_missing_le n s)
      have hlong : (fun t => t ||| f t)^[l + (n + 1)] s = (fun t => t ||| f t)^[n + 1] s := by
        rw [Function.iterate_add_apply, Function.iterate_fixed hfix]
      rw [← hlong]
      exact ((h.upTo (l + (n + 1))).testBit_iff hs k).mpr ⟨i, hi, l, by omega, hl⟩

/-! ### Expressions -/

namespace Expr

/-- Between which places of a text an expression matches.  A repetition takes
its least number of rounds and then any number that its bounds leave. -/
def Matches (text : List Char) : Expr → Nat → Nat → Prop
  | empty, i, j => i = j
  | set s, i, j => j = i + 1 ∧ ∃ c, text[i]? = some c ∧ s.contains c
  | look l, i, j => i = j ∧ i ≤ text.length ∧ l.holds (charBefore text i) text[i]?
  | seq a b, i, k => ∃ j, a.Matches text i j ∧ b.Matches text j k
  | alt a b, i, j => a.Matches text i j ∨ b.Matches text i j
  | repetition min max body, i, k =>
    ∃ l, (∀ m, max = some m → l ≤ m - min) ∧
      ∃ j, Rounds (fun i j => body.Matches text i j) min i j ∧
        Rounds (fun i j => body.Matches text i j) l j k

/-- A set of characters leads from each place over one character of the set. -/
theorem carries_set (text : List Char) (s : CharSet) :
    Carries text.length ((set s).Matches text) (fun t =>
      2 * (t &&& placesBefore s.contains text)) where
  le_of_le := by
    rintro i j ⟨rfl, c, hc, -⟩ -
    have := (List.getElem?_eq_some_iff.mp hc).1
    omega
  testBit_iff {t} _ j := by
    cases j with
    | zero => simp [Matches]
    | succ j =>
      simp [Matches, Nat.testBit_succ, testBit_placesBefore, Option.any_eq_true]

/-- An assertion keeps the places where it holds. -/
theorem carries_look (text : List Char) (l : Look) :
    Carries text.length ((look l).Matches text) (fun t => t &&& placesWhere l none text) where
  le_of_le := by
    rintro i j ⟨rfl, h, -⟩ -
    exact h
  testBit_iff {t} _ j := by
    simp [Matches, testBit_placesWhere]

/-- **A plan takes the places where a match may begin to those where one may
end.** -/
theorem carries (text : List Char) (e : Expr) :
    Carries text.length (e.Matches text) (fun s => (Plan.ofExpr text e).advance s) := by
  induction e with
  | empty => exact .refl
  | set s => exact carries_set text s
  | look l => exact carries_look text l
  | seq a b iha ihb => exact iha.comp ihb
  | alt a b iha ihb => exact iha.or ihb
  | repetition min max body ih =>
    simp only [Plan.ofExpr, Plan.advance, Plan.times_eq_iterate, Plan.gather_eq_iterate]
    cases max with
    | none =>
      refine ((ih.iterate min).comp ih.all).congr fun i k => ?_
      simp only [Matches]
      grind
    | some m =>
      refine ((ih.iterate min).comp (ih.upTo (m - min))).congr fun i k => ?_
      simp only [Matches]
      grind

/-- An expression matches in a text exactly if there are two places between
which it matches. -/
theorem isMatch_iff (e : Expr) (text : List Char) :
    e.isMatch text = true ↔ ∃ i j, i ≤ text.length ∧ e.Matches text i j := by
  have hbit : ∀ i, (Nat.pow 2 (text.length + 1) - 1).testBit i = decide (i < text.length + 1) :=
    fun i => Nat.testBit_two_pow_sub_one (text.length + 1) i
  have hs : Within text.length (Nat.pow 2 (text.length + 1) - 1) := by
    intro i hi
    rw [hbit] at hi
    simpa [Nat.lt_succ_iff] using hi
  rw [isMatch, bne_iff_ne]
  constructor
  · intro hne
    obtain ⟨j, hj⟩ := Nat.exists_testBit_of_ne_zero hne
    obtain ⟨i, hi, hij⟩ := ((carries text e).testBit_iff hs j).mp hj
    exact ⟨i, j, hs i hi, hij⟩
  · rintro ⟨i, j, hi, hij⟩ hzero
    have hj := ((carries text e).testBit_iff hs j).mpr ⟨i, by rw [hbit]; simpa using by omega, hij⟩
    rw [hzero, Nat.zero_testBit] at hj
    exact Bool.false_ne_true hj

end Expr

end DocPath.Regex

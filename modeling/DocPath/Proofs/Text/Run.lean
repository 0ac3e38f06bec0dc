import Mathlib.Data.List.TakeWhile

/-! # Runs

A run is a stretch of characters of one kind that is as long as possible: the
characters are of that kind, and the one after them is not. -/

namespace DocPath

/-- The text begins with no character of a kind, so a run of this kind before it
ends where the text begins. -/
def Ends (p : Char → Bool) (text : List Char) : Prop := ∀ c, text.head? = some c → p c = false

variable {p : Char → Bool} {c : Char} {run text rest : List Char}

/-- Nothing is taken of a text that does not begin with a character of the
run. -/
theorem Ends.takeWhile_eq_nil (h : Ends p rest) : rest.takeWhile p = [] := by
  cases rest with
  | nil => rfl
  | cons c rest => exact List.takeWhile_cons_of_neg (by simp [h c rfl])

/-- Nothing is dropped from a text that does not begin with a character of the
run. -/
theorem Ends.dropWhile_eq_self (h : Ends p rest) : rest.dropWhile p = rest := by
  cases rest with
  | nil => rfl
  | cons c rest => exact List.dropWhile_cons_of_neg (by simp [h c rfl])

/-- What is left after the longest run does not go on with it. -/
theorem ends_dropWhile (p : Char → Bool) (text : List Char) : Ends p (text.dropWhile p) := by
  intro c h
  have := List.head?_dropWhile_not p text
  rw [h] at this
  exact this

/-- A run before a text that does not go on with it is taken as a whole, and
nothing more. -/
theorem takeWhile_run (hrun : ∀ c ∈ run, p c = true) (hrest : Ends p rest) :
    (run ++ rest).takeWhile p = run := by
  rw [List.takeWhile_append_of_pos hrun, hrest.takeWhile_eq_nil, List.append_nil]

/-- A run before a text that does not go on with it is dropped as a whole, and
nothing more. -/
theorem dropWhile_run (hrun : ∀ c ∈ run, p c = true) (hrest : Ends p rest) :
    (run ++ rest).dropWhile p = rest := by
  rw [List.dropWhile_append_of_pos hrun, hrest.dropWhile_eq_self]

theorem mem_takeWhile (h : c ∈ text.takeWhile p) : p c = true := List.mem_takeWhile_imp h

end DocPath

import DocPath.Unicode.Blank
import Mathlib.Data.List.DropRight
import Mathlib.Data.List.TakeWhile

/-! # Trimmed texts

Trimming takes blanks off both ends of a text and nothing else.
`exists_blanks_trim` says what it takes off and `trimmed_trim` that nothing is
left to take; together they determine the trimmed text (`trim_eq_of_blanks`). -/

namespace DocPath.Unicode

/-- A text of blanks alone, or without any character. -/
def Blanks (cs : List Char) : Prop := ∀ c ∈ cs, isBlank c = true

instance (cs : List Char) : Decidable (Blanks cs) :=
  decidable_of_iff (cs.all isBlank = true) List.all_eq_true

/-- A text with no blank at either end.  There may be blanks inside, and the
text may be empty. -/
structure Trimmed (cs : List Char) : Prop where
  head : ∀ c, cs.head? = some c → isBlank c = false
  last : ∀ c, cs.getLast? = some c → isBlank c = false

variable {b a cs : List Char}

theorem blanks_nil : Blanks [] := fun _ hc => by cases hc

theorem Blanks.append (hb : Blanks b) (ha : Blanks a) : Blanks (b ++ a) := by
  intro c hc
  rcases List.mem_append.mp hc with hc | hc
  · exact hb c hc
  · exact ha c hc

theorem ne_of_isBlank {c d : Char} (hc : isBlank c = true) (hd : isBlank d = false) : c ≠ d := by
  rintro rfl
  rw [hc] at hd
  cases hd

/-- Blanks in front of a text are not seen by what is left of it. -/
theorem trimStart_blanks_append (hb : Blanks b) : trimStart (b ++ cs) = trimStart cs :=
  List.dropWhile_append_of_pos hb

/-- Nothing is left out before a text that does not begin with a blank. -/
theorem trimStart_eq_self (h : ∀ c, cs.head? = some c → isBlank c = false) : trimStart cs = cs := by
  cases cs with
  | nil => rfl
  | cons c cs => exact List.dropWhile_cons_of_neg (by simp [h c rfl])

/-- Exactly the blanks in front of a character that is none are left out. -/
theorem trimStart_blanks_cons {c : Char} (hb : Blanks b) (hc : isBlank c = false) :
    trimStart (b ++ c :: cs) = c :: cs := by
  rw [trimStart_blanks_append hb]
  exact trimStart_eq_self fun d hd => by cases hd; exact hc

theorem head_trimStart {c : Char} (h : (trimStart cs).head? = some c) : isBlank c = false := by
  have := List.head?_dropWhile_not isBlank cs
  rw [show cs.dropWhile isBlank = trimStart cs from rfl, h] at this
  exact this

@[simp] theorem trimStart_trimStart (cs : List Char) : trimStart (trimStart cs) = trimStart cs :=
  trimStart_eq_self fun _ h => head_trimStart h

/-- A text after blanks begins with a blank, or as it begins itself. -/
theorem head_blanks_append {c : Char} (hb : Blanks b) (h : (b ++ cs).head? = some c) :
    isBlank c = true ∨ cs.head? = some c := by
  cases b with
  | nil => exact .inr h
  | cons d b =>
    cases h
    exact .inl (hb c (List.mem_cons_self ..))

theorem exists_blanks_trimStart (cs : List Char) : ∃ b, Blanks b ∧ cs = b ++ trimStart cs :=
  ⟨cs.takeWhile isBlank, fun _ hc => List.mem_takeWhile_imp hc,
    List.takeWhile_append_dropWhile.symm⟩

/-- Blanks after a text are not seen by what is left of it. -/
theorem trimEnd_append_blanks (ha : Blanks a) : trimEnd (cs ++ a) = trimEnd cs := by
  have hr : ∀ c ∈ a.reverse, isBlank c = true := fun c hc => ha c (List.mem_reverse.mp hc)
  simp only [trimEnd, List.reverse_append]
  rw [List.dropWhile_append_of_pos hr]

theorem trimEnd_eq_self (h : ∀ c, cs.getLast? = some c → isBlank c = false) : trimEnd cs = cs :=
  List.rdropWhile_eq_self_iff.mpr fun hl => by simp [h _ (List.getLast?_eq_some_getLast hl)]

theorem last_trimEnd {c : Char} (h : (trimEnd cs).getLast? = some c) : isBlank c = false := by
  have hl : trimEnd cs ≠ [] := by
    intro hn
    rw [hn] at h
    cases h
  have hnot := List.rdropWhile_last_not isBlank cs hl
  rw [List.getLast?_eq_some_getLast hl] at h
  cases h
  simpa [trimEnd, List.rdropWhile] using hnot

theorem exists_trimEnd_blanks (cs : List Char) : ∃ a, Blanks a ∧ cs = trimEnd cs ++ a := by
  obtain ⟨b, hb, he⟩ := exists_blanks_trimStart cs.reverse
  refine ⟨b.reverse, fun c hc => hb c (List.mem_reverse.mp hc), ?_⟩
  have := congrArg List.reverse he
  simpa [trimEnd, trimStart] using this

/-- A text is its trimmed text with blanks on both sides. -/
theorem exists_blanks_trim (cs : List Char) :
    ∃ b a, Blanks b ∧ Blanks a ∧ cs = b ++ trim cs ++ a := by
  obtain ⟨b, hb, hs⟩ := exists_blanks_trimStart cs
  obtain ⟨a, ha, he⟩ := exists_trimEnd_blanks (trimStart cs)
  refine ⟨b, a, hb, ha, ?_⟩
  rw [List.append_assoc, trim, ← he, ← hs]

/-- No blank is left at either end. -/
theorem trimmed_trim (cs : List Char) : Trimmed (trim cs) where
  head c h := by
    -- what is left after the blanks at the end are gone still begins where it began
    obtain ⟨a, -, he⟩ := exists_trimEnd_blanks (trimStart cs)
    have hhead : (trimStart cs).head? = some c := by
      rw [he, List.head?_append, show (trimEnd (trimStart cs)).head? = some c from h]
      rfl
    exact head_trimStart hhead
  last _ h := last_trimEnd h

theorem trim_eq_self (h : Trimmed cs) : trim cs = cs := by
  rw [trim, trimStart_eq_self h.head, trimEnd_eq_self h.last]

/-- Nothing is left exactly of blanks. -/
theorem trim_eq_nil_iff : trim cs = [] ↔ Blanks cs := by
  constructor
  · intro h
    obtain ⟨b, a, hb, ha, he⟩ := exists_blanks_trim cs
    rw [he, h, List.append_nil]
    exact hb.append ha
  · intro h
    have : trimStart cs = [] := List.dropWhile_eq_nil_iff.mpr h
    rw [trim, this]
    rfl

/-- Blanks around a text are no part of what is left of it. -/
theorem trim_blanks_append_blanks (hb : Blanks b) (ha : Blanks a) :
    trim (b ++ cs ++ a) = trim cs := by
  rw [List.append_assoc, trim, trimStart_blanks_append hb]
  by_cases hcs : Blanks cs
  · have h := trim_eq_nil_iff.mpr (hcs.append ha)
    rw [trim] at h
    rw [h, trim_eq_nil_iff.mpr hcs]
  · have hne : (cs.dropWhile isBlank).isEmpty = false := by
      rw [List.isEmpty_eq_false_iff]
      exact fun h => hcs (List.dropWhile_eq_nil_iff.mp h)
    have hsplit : trimStart (cs ++ a) = trimStart cs ++ a := by
      simp [trimStart, List.dropWhile_append, hne]
    rw [hsplit, trimEnd_append_blanks ha, trim]

/-- A text without blanks at its ends, found between blanks, is the trimmed
text. -/
theorem trim_eq_of_blanks (hb : Blanks b) (ha : Blanks a) (h : Trimmed cs) :
    trim (b ++ cs ++ a) = cs := by
  rw [trim_blanks_append_blanks hb ha, trim_eq_self h]

theorem trimmed_of_forall (h : ∀ c ∈ cs, isBlank c = false) : Trimmed cs where
  head c hc := h c (List.mem_of_head? hc)
  last c hc := h c (List.mem_of_getLast? hc)

/-- What stands between two texts does not matter: the ends of the whole are
those of the two. -/
theorem Trimmed.append {ds : List Char} (hc : Trimmed cs) (hd : Trimmed ds) (hcn : cs ≠ [])
    (hdn : ds ≠ []) (m : List Char) : Trimmed (cs ++ (m ++ ds)) where
  head x hx := by
    rw [List.head?_append_of_ne_nil _ hcn] at hx
    exact hc.head x hx
  last x hx := by
    rw [← List.append_assoc, List.getLast?_append_of_ne_nil _ hdn] at hx
    exact hd.last x hx

/-- A text is trimmed if it begins with a character that is no blank and if what
follows it does not end in one. -/
theorem trimmed_cons {c : Char} (hc : isBlank c = false)
    (hlast : ∀ d, cs.getLast? = some d → isBlank d = false) : Trimmed (c :: cs) where
  head x hx := by cases hx; exact hc
  last x hx := by
    rw [List.getLast?_cons] at hx
    cases hd : cs.getLast? with
    | none =>
      rw [hd] at hx
      cases hx
      exact hc
    | some d =>
      rw [hd] at hx
      cases hx
      exact hlast d hd

/-- The ends of a text decide whether it is trimmed. -/
theorem trimmed_cons_concat {c d : Char} (hc : isBlank c = false) (hd : isBlank d = false)
    (cs : List Char) : Trimmed (c :: (cs ++ [d])) where
  head x hx := by cases hx; exact hc
  last x hx := by
    rw [← List.cons_append, List.getLast?_append] at hx
    cases hx
    exact hd

/-! ## Texts one after the other -/

/-- The end of two texts is trimmed in the second one, unless this consists of
blanks. -/
theorem trimEnd_append (h : ¬ Blanks cs) (bs : List Char) :
    trimEnd (bs ++ cs) = bs ++ trimEnd cs := by
  obtain ⟨a, ha, he⟩ := exists_trimEnd_blanks cs
  have hne : trimEnd cs ≠ [] := by
    intro hn
    rw [hn, List.nil_append] at he
    exact h (he ▸ ha)
  have hlast : ∀ c, (bs ++ trimEnd cs).getLast? = some c → isBlank c = false := by
    intro c hc
    rw [List.getLast?_append_of_ne_nil _ hne] at hc
    exact last_trimEnd hc
  conv => lhs; rw [he, ← List.append_assoc]
  rw [trimEnd_append_blanks ha, trimEnd_eq_self hlast]

/-- Only the start of a text is trimmed if it does not end in a blank. -/
theorem exists_blanks_append_trim (hlast : ∀ c, cs.getLast? = some c → isBlank c = false) :
    ∃ b, Blanks b ∧ cs = b ++ trim cs := by
  obtain ⟨b, a, hb, ha, he⟩ := exists_blanks_trim cs
  rcases List.eq_nil_or_concat a with rfl | ⟨a, c, rfl⟩
  · exact ⟨b, hb, by simpa using he⟩
  · have hc := hlast c (by rw [he]; simp)
    rw [ha c (by simp)] at hc
    cases hc

/-- Only the end of a text is trimmed if it does not begin with a blank. -/
theorem exists_trim_append_blanks (hhead : ∀ c, cs.head? = some c → isBlank c = false) :
    ∃ a, Blanks a ∧ cs = trim cs ++ a := by
  obtain ⟨a, ha, he⟩ := exists_trimEnd_blanks cs
  refine ⟨a, ha, ?_⟩
  rwa [trim, trimStart_eq_self hhead]

theorem getLast?_trim (hcs : trim cs ≠ []) (hlast : ∀ c, cs.getLast? = some c → isBlank c = false) :
    (trim cs).getLast? = cs.getLast? := by
  obtain ⟨b, -, he⟩ := exists_blanks_append_trim hlast
  conv => rhs; rw [he, List.getLast?_append_of_ne_nil _ hcs]

theorem head?_trim (hcs : trim cs ≠ []) (hhead : ∀ c, cs.head? = some c → isBlank c = false) :
    (trim cs).head? = cs.head? := by
  obtain ⟨a, -, he⟩ := exists_trim_append_blanks hhead
  conv => rhs; rw [he, List.head?_append_of_ne_nil _ hcs]

/-- Where two texts meet without blanks, nothing is trimmed: each text loses the
blanks of its outer end only. -/
theorem trim_append {ds : List Char} (hcs : trim cs ≠ [])
    (hlast : ∀ c, cs.getLast? = some c → isBlank c = false) (hds : trim ds ≠ [])
    (hhead : ∀ c, ds.head? = some c → isBlank c = false) :
    trim (cs ++ ds) = trim cs ++ trim ds := by
  obtain ⟨b, hb, hc⟩ := exists_blanks_append_trim hlast
  obtain ⟨a, ha, hd⟩ := exists_trim_append_blanks hhead
  have htrimmed : Trimmed (trim cs ++ trim ds) :=
    (trimmed_trim cs).append (trimmed_trim ds) hcs hds []
  have htext : cs ++ ds = b ++ (trim cs ++ trim ds) ++ a := by
    conv => lhs; rw [hc, hd]
    simp
  rw [htext, trim_eq_of_blanks hb ha htrimmed]

end DocPath.Unicode

import DocPath.Proofs.Text.Quoted

/-! # Texts between quotes

A text between quotes ends at the first quote of the kind that no backslash
hides, whatever the escapes in it mean.  `Enclosed` texts are those that end
there, and literals are among them (`enclosed_of_literal`).  Reading one either
takes the whole of it or fails, and what follows it has no part in this
(`read_inside_eq_ok_iff`). -/

namespace DocPath.Quoted

/-- A text without a quote of the kind, apart from characters right after a
backslash. -/
inductive Inside (quote : Char) : List Char → Prop
  | nil : Inside quote []
  | plain {c : Char} {cs : List Char} : c ≠ quote → c ≠ '\\' → Inside quote cs →
      Inside quote (c :: cs)
  | hidden {e : Char} {cs : List Char} : Inside quote cs → Inside quote ('\\' :: e :: cs)

/-- A text between two quotes of one kind, in which a quote of this kind stands
only after a backslash. -/
def Enclosed (l : List Char) : Prop :=
  ∃ quote body, isQuote quote = true ∧ Inside quote body ∧ l = quote :: (body ++ [quote])

variable {quote c : Char} {cs s t l name text rest after : List Char}

theorem Inside.append (hs : Inside quote s) (ht : Inside quote t) : Inside quote (s ++ t) := by
  induction hs with
  | nil => exact ht
  | plain hc hb _ ih => exact .plain hc hb ih
  | hidden _ ih => exact .hidden ih

/-- The digits of a code point hide no quote. -/
theorem inside_codePoint (hq : isQuote quote = true) (h : codePoint? cs = some c) :
    Inside quote cs := by
  have hdigits := isHexDigit_of_codePoint? h
  clear h
  induction cs with
  | nil => exact .nil
  | cons d cs ih =>
    have hd : d ≠ quote ∧ d ≠ '\\' := by
      refine ⟨?_, ?_⟩
      · rintro rfl
        rcases isQuote_iff.mp hq with rfl | rfl <;>
          exact absurd (hdigits _ List.mem_cons_self) (by decide)
      · rintro rfl
        exact absurd (hdigits _ List.mem_cons_self) (by decide)
    exact .plain hd.1 hd.2 (ih fun e he => hdigits e (List.mem_cons_of_mem _ he))

theorem Spelling.inside (hq : isQuote quote = true) (h : Spelling quote c s) : Inside quote s := by
  cases h with
  | itself hc hb => exact .plain hc hb .nil
  | sign _ => exact .hidden .nil
  | codePoint hp => exact .hidden (inside_codePoint hq hp)

theorem Spells.inside (hq : isQuote quote = true) (h : Spells quote cs s) : Inside quote s := by
  induction h with
  | nil => exact .nil
  | cons hs _ ih => exact (hs.inside hq).append ih

theorem enclosed_of_literal (h : Literal l name) : Enclosed l := by
  obtain ⟨quote, body, hq, hs, rfl⟩ := h
  exact ⟨quote, body, hq, hs.inside hq, rfl⟩

/-- The quote that ends a text is determined by the text: two ways of closing
the same text close it at the same place. -/
theorem Inside.append_quote_inj (hq : quote ≠ '\\') (hs : Inside quote s) (ht : Inside quote t)
    (h : s ++ quote :: rest = t ++ quote :: after) : s = t ∧ rest = after := by
  induction hs generalizing t with
  | nil =>
    cases ht with
    | nil => exact ⟨rfl, (List.cons.inj h).2⟩
    | plain hc _ _ => exact absurd (List.cons.inj h).1.symm hc
    | hidden _ => exact absurd (List.cons.inj h).1 hq
  | plain hc hb _ ih =>
    cases ht with
    | nil => exact absurd (List.cons.inj h).1 hc
    | plain _ _ ht =>
      obtain ⟨rfl, htail⟩ := List.cons.inj h
      obtain ⟨rfl, he⟩ := ih ht htail
      exact ⟨rfl, he⟩
    | hidden _ => exact absurd (List.cons.inj h).1 hb
  | hidden _ ih =>
    cases ht with
    | nil => exact absurd (List.cons.inj h).1.symm hq
    | plain _ hb _ => exact absurd (List.cons.inj h).1.symm hb
    | hidden ht =>
      obtain ⟨rfl, htail⟩ := List.cons.inj (List.cons.inj h).2
      obtain ⟨rfl, he⟩ := ih ht htail
      exact ⟨rfl, he⟩

/-- **Reading takes the whole of a text between quotes or fails**, whatever
follows the text. -/
theorem read_inside_eq_ok_iff (start : Nat) (hq : isQuote quote = true) (hs : Inside quote s) :
    read quote start (s ++ quote :: rest) = .ok (cs, after) ↔ Spells quote cs s ∧ after = rest := by
  have hne := ne_backslash_of_isQuote hq
  rw [read_eq_ok_iff hne]
  constructor
  · rintro ⟨body, htext, hbody⟩
    obtain ⟨rfl, rfl⟩ := hs.append_quote_inj hne (hbody.inside hq) htext
    exact ⟨hbody, rfl⟩
  · rintro ⟨h, rfl⟩
    exact ⟨s, rfl, h⟩

/-- A text between quotes spells one row of characters, or none if it holds an
escape that is no escape. -/
theorem exists_spelled? (hq : isQuote quote = true) (hs : Inside quote s) :
    ∃ cs? : Option (List Char), ∀ cs, cs? = some cs ↔ Spells quote cs s := by
  have hread : ∀ cs, read quote 0 (s ++ [quote]) = .ok (cs, []) ↔ Spells quote cs s := by
    intro cs
    rw [read_inside_eq_ok_iff 0 hq hs]
    exact and_iff_left rfl
  cases h : read quote 0 (s ++ [quote]) with
  | error stop =>
    refine ⟨none, fun cs => iff_of_false (by simp) fun hcs => ?_⟩
    rw [(hread cs).mpr hcs] at h
    cases h
  | ok p =>
    obtain ⟨name, after⟩ := p
    obtain ⟨-, rfl⟩ := (read_inside_eq_ok_iff 0 hq hs).mp h
    refine ⟨some name, fun cs => ?_⟩
    rw [← hread, h]
    simp

end DocPath.Quoted

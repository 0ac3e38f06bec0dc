import DocPath.Proofs.Number.Integer
import DocPath.Proofs.Outcome
import DocPath.Proofs.Text.Quoted
import DocPath.Proofs.Text.Trim
import DocPath.Path.Bracket

/-! # The content of brackets

`Means` is the grammar of what may stand in brackets, with the fragment that it
stands for.  `classify_eq_ok_iff` says that `classify` follows it. -/

namespace DocPath.Bracket

open Quoted (isQuote Literal)
open Unicode (trim trimStart Blanks Trimmed)

/-- The bound of a slice: blanks for none, or an integer between blanks, which
has to fit into 64 bits. -/
inductive Bound : List Char → Option Int64 → Prop
  | blank {s : List Char} : Blanks s → Bound s none
  | number {s : List Char} {n : Int64} : Writes (trim s) n.toInt → Bound s (some n)

/-- What stands in brackets, without the blanks around it, and the fragment that
it means. -/
inductive Means : List Char → Fragment → Prop
  | name {text name : List Char} :
      Literal text name → Means text (.property (String.ofList name))
  | wildcard : Means ['*'] .wildcard
  | placeholder : Means ['?'] .placeholder
  | expression {b e : List Char} :
      Blanks b → ¬ Blanks e →
        Means ('?' :: (b ++ '(' :: (e ++ [')']))) (.expression (String.ofList (trim e)))
  | slice {s t : List Char} {start stop : Option Int64} :
      Bound s start → Bound t stop → Means (s ++ ':' :: t) (.slice start stop)
  | indices {parts : List (List Char)} {ns : List Int64} :
      2 ≤ parts.length → List.Forall₂ (fun part n => Writes (trim part) n.toInt) parts ns →
        Means ([','].intercalate parts) (.indices ns)
  | index {text : List Char} {n : Int64} : Writes text n.toInt → Means text (.index n)

variable {text rest s t : List Char} {f : Fragment}

/-! ## Numbers and bounds -/

/-- A text is read as an index exactly if it writes an integer that a word of 64
bits holds. -/
theorem index_eq_ok_iff {n : Int64} : index text = .ok n ↔ Writes text n.toInt := by
  rw [← int64OfText?_eq_some_iff, index]
  split
  · next k h => simp [h]
  · next h => simp [h]

/-- A text is read as the bound of a slice exactly if it is one: blank, or an
integer with blanks around it. -/
theorem bound_eq_ok_iff {b : Option Int64} : bound text = .ok b ↔ Bound text b := by
  unfold bound
  split
  · next h =>
    have hb := Unicode.trim_eq_nil_iff.mp h
    constructor
    · intro he
      cases he
      exact .blank hb
    · intro he
      cases he with
      | blank _ => rfl
      | number hw => exact absurd h hw.ne_nil
  · next h =>
    constructor
    · intro he
      obtain ⟨n, hn, rfl⟩ := map_eq_ok_iff.mp he
      exact .number (index_eq_ok_iff.mp hn)
    · intro he
      cases he with
      | blank hb => exact absurd (Unicode.trim_eq_nil_iff.mpr hb) h
      | number hw => rw [index_eq_ok_iff.mpr hw]; rfl

/-! ## Names and predicates -/

/-- Brackets that begin with a quote name a property, and only if nothing stands
after the literal. -/
theorem quotedName_eq_ok_iff {quote : Char} (hq : isQuote quote = true) :
    quotedName quote (quote :: rest) = .ok f ↔
      ∃ name, Literal (quote :: rest) name ∧ f = .property (String.ofList name) := by
  constructor
  · intro h
    unfold quotedName at h
    split at h
    · cases h
    · next name hr =>
      cases h
      obtain ⟨l, he, hl⟩ := (Quoted.read_eq_ok_iff_literal _ hq).mp hr
      rw [List.append_nil] at he
      exact ⟨name, he ▸ hl, rfl⟩
    · cases h
  · rintro ⟨name, hl, rfl⟩
    have hr := (Quoted.read_eq_ok_iff_literal (quote :: rest).length hq).mpr
      ⟨quote :: rest, (List.append_nil _).symm, hl⟩
    simp only [quotedName, List.tail_cons, hr]

/-- What follows the question mark of a predicate, in a text without blanks at
its end. -/
theorem predicate_eq_ok_iff (ht : Trimmed ('?' :: rest)) :
    predicate rest = .ok f ↔
      (rest = [] ∧ f = .placeholder) ∨
        ∃ b e, Blanks b ∧ ¬ Blanks e ∧ rest = b ++ '(' :: (e ++ [')']) ∧
          f = .expression (String.ofList (trim e)) := by
  have hopen : ∀ b e, Blanks b →
      trimStart (b ++ '(' :: (e ++ [')'])) = '(' :: (e ++ [')']) :=
    fun _ _ hb => Unicode.trimStart_blanks_cons hb rfl
  constructor
  · intro h
    obtain ⟨b, hb, hrest⟩ := Unicode.exists_blanks_trimStart rest
    unfold predicate at h
    simp only at h
    split at h
    · next hnil =>
      cases h
      -- blanks alone would be blanks at the end
      rw [hnil, List.append_nil] at hrest
      left
      refine ⟨?_, rfl⟩
      rw [← hrest] at hb
      cases hl : rest.getLast? with
      | none => exact List.getLast?_eq_none_iff.mp hl
      | some c =>
        have hlast := ht.last c (by rw [List.getLast?_cons, hl]; rfl)
        rw [hb c (List.mem_of_getLast? hl)] at hlast
        cases hlast
    · next inner hinner =>
      split at h
      · next hclose =>
        split at h
        · cases h
        · next hne =>
          cases h
          right
          refine ⟨b, inner.dropLast, hb, ?_, ?_, rfl⟩
          · exact fun hblank => hne (Unicode.trim_eq_nil_iff.mpr hblank)
          · rw [List.dropLast_append_getLast? _ hclose, ← hinner, ← hrest]
      · cases h
    · cases h
  · rintro (⟨rfl, rfl⟩ | ⟨b, e, hb, he, rfl, rfl⟩)
    · rfl
    · have hne : trim e ≠ [] := fun h => he (Unicode.trim_eq_nil_iff.mp h)
      unfold predicate
      simp only [hopen b e hb, List.getLast?_append, List.getLast?_singleton, List.dropLast_concat]
      split
      · rfl
      · next hclose => exact absurd rfl hclose

/-! ## Slices and indices -/

/-- A character of an integer, or of the blanks around it.  All that can stand
in a slice or in a row of indices is made of these, colons and commas apart. -/
def BoundChar (c : Char) : Prop := Unicode.isBlank c = true ∨ IsIntegerChar c

instance (c : Char) : Decidable (BoundChar c) :=
  inferInstanceAs (Decidable (Unicode.isBlank c = true ∨ IsIntegerChar c))

/-- An integer with blanks around it consists of blanks, digits and signs. -/
theorem boundChar_of_writes {n : Int} (h : Writes (trim text) n) : ∀ c ∈ text, BoundChar c := by
  obtain ⟨b, a, hb, ha, he⟩ := Unicode.exists_blanks_trim text
  intro c hc
  rw [he, List.append_assoc, List.mem_append, List.mem_append] at hc
  rcases hc with hc | hc | hc
  · exact .inl (hb c hc)
  · exact .inr (h.isIntegerChar c hc)
  · exact .inl (ha c hc)

/-- The bound of a slice consists of blanks, digits and signs. -/
theorem Bound.boundChar {b : Option Int64} (h : Bound text b) : ∀ c ∈ text, BoundChar c := by
  cases h with
  | blank hb => exact fun c hc => .inl (hb c hc)
  | number hw => exact boundChar_of_writes hw

/-- No bound holds a colon, so the first colon of a slice is the one between its
bounds. -/
theorem Bound.colon_not_mem {b : Option Int64} (h : Bound text b) : ':' ∉ text :=
  fun hm => absurd (h.boundChar _ hm) (by decide)

/-- No index holds a comma, so the commas of a row of indices all stand between
them. -/
theorem comma_not_mem {n : Int} (h : Writes (trim text) n) : ',' ∉ text :=
  fun hm => absurd (boundChar_of_writes h _ hm) (by decide)

/-- A slice is read from the two sides of its first colon, and a further colon
on the second side is refused. -/
theorem slice_colon (hs : ':' ∉ s) :
    slice (s ++ ':' :: t) =
      if ':' ∈ t then .error { fault := .sliceStep (String.ofList (s ++ ':' :: t)) }
      else do return .slice (← bound s) (← bound t) := by
  have hall : ∀ c ∈ s, (c != ':') = true := fun c hc => by
    rw [bne_iff_ne]
    rintro rfl
    exact hs hc
  have htake : (s ++ ':' :: t).takeWhile (· != ':') = s := by
    rw [List.takeWhile_append_of_pos hall]
    simp
  have hdrop : (s ++ ':' :: t).dropWhile (· != ':') = ':' :: t := by
    rw [List.dropWhile_append_of_pos hall]
    simp
  simp only [slice, htake, hdrop, List.tail_cons, List.contains_iff_mem]

/-- A text with a colon is read as a slice exactly if it has one colon, with a
bound on either side. -/
theorem slice_eq_ok_iff (hc : ':' ∈ text) :
    slice text = .ok f ↔
      ∃ s t start stop, text = s ++ ':' :: t ∧ Bound s start ∧ Bound t stop ∧
        f = .slice start stop := by
  constructor
  · obtain ⟨s, t, rfl, hs⟩ := List.eq_append_cons_of_mem hc
    intro h
    rw [slice_colon hs] at h
    split at h
    · cases h
    · obtain ⟨start, hstart, h⟩ := bind_eq_ok_iff.mp h
      obtain ⟨stop, hstop, h⟩ := bind_eq_ok_iff.mp h
      cases h
      exact ⟨s, t, start, stop, rfl, bound_eq_ok_iff.mp hstart, bound_eq_ok_iff.mp hstop, rfl⟩
  · rintro ⟨s, t, start, stop, rfl, hstart, hstop, rfl⟩
    rw [slice_colon hstart.colon_not_mem, if_neg hstop.colon_not_mem,
      bound_eq_ok_iff.mpr hstart, bound_eq_ok_iff.mpr hstop]
    rfl

/-- The reader splits at commas as lists are split at an element. -/
theorem splitCommas_eq_splitOn (text : List Char) : splitCommas text = text.splitOn ',' := by
  induction text with
  | nil => rfl
  | cons c text ih =>
    rw [List.splitOn_cons_eq_if_modifyHead, ← ih, splitCommas]
    simp only [beq_iff_eq]
    split
    · rfl
    · split
      · next h => exact absurd (ih.symm.trans h) (List.splitOn_ne_nil ',' text)
      · next part parts h => rw [h]; rfl

/-- The parts between commas, put together again. -/
theorem intercalate_splitCommas (text : List Char) :
    [','].intercalate (splitCommas text) = text := by
  rw [splitCommas_eq_splitOn, List.intercalate_splitOn]

/-- Parts without commas are found again when they are put together with
commas. -/
theorem splitCommas_intercalate {parts : List (List Char)} (hne : parts ≠ [])
    (h : ∀ part ∈ parts, ',' ∉ part) : splitCommas ([','].intercalate parts) = parts := by
  rw [splitCommas_eq_splitOn, List.splitOn_intercalate _ h hne]

theorem two_le_length_splitCommas : 2 ≤ (splitCommas text).length ↔ ',' ∈ text := by
  rw [splitCommas_eq_splitOn]
  constructor
  · intro h
    by_contra hn
    rw [List.splitOn_eq_singleton hn] at h
    simp at h
  · intro h
    obtain ⟨s, t, rfl⟩ := List.append_of_mem h
    rw [List.splitOn_append_cons_self, List.length_append]
    have hs := List.length_pos_iff.mpr (List.splitOn_ne_nil ',' s)
    have ht := List.length_pos_iff.mpr (List.splitOn_ne_nil ',' t)
    omega

/-- A text with a comma is read as a row of indices exactly if all its parts are
indices, each with blanks around it. -/
theorem indices_eq_ok_iff (hc : ',' ∈ text) :
    ((splitCommas text).mapM fun part => index (trim part)).map Fragment.indices = .ok f ↔
      ∃ parts ns, 2 ≤ parts.length ∧ text = [','].intercalate parts ∧
        List.Forall₂ (fun part n => Writes (trim part) n.toInt) parts ns ∧ f = .indices ns := by
  constructor
  · intro h
    obtain ⟨ns, hns, rfl⟩ := map_eq_ok_iff.mp h
    refine ⟨splitCommas text, ns, two_le_length_splitCommas.mpr hc,
      (intercalate_splitCommas text).symm, ?_, rfl⟩
    exact (mapM_eq_ok_iff.mp hns).imp fun _ _ hn => index_eq_ok_iff.mp hn
  · rintro ⟨parts, ns, hlen, rfl, hns, rfl⟩
    have hne : parts ≠ [] := by
      rintro rfl
      simp at hlen
    have hcomma := (List.forall₂_and_left (p := (',' ∉ ·)) parts ns).mp
      (hns.imp fun _ _ hw => ⟨comma_not_mem hw, hw⟩)
    rw [splitCommas_intercalate hne hcomma.1,
      mapM_eq_ok_iff.mpr (hns.imp fun _ _ hw => index_eq_ok_iff.mpr hw)]
    rfl

/-! ## The grammar is followed -/

/-- A character of texts that are put together is one of the texts or of what
stands between them. -/
theorem mem_of_mem_intercalate {sep : List Char} {parts : List (List Char)} {c : Char}
    (h : c ∈ sep.intercalate parts) : c ∈ sep ∨ ∃ part ∈ parts, c ∈ part := by
  induction parts with
  | nil => simp at h
  | cons part parts ih =>
    cases parts with
    | nil => exact .inr ⟨part, List.mem_cons_self .., by simpa using h⟩
    | cons part' parts =>
      rw [List.intercalate_cons_cons, List.append_assoc, List.mem_append, List.mem_append] at h
      rcases h with h | h | h
      · exact .inr ⟨part, List.mem_cons_self .., h⟩
      · exact .inl h
      · rcases ih h with h | ⟨p, hp, hc⟩
        · exact .inl h
        · exact .inr ⟨p, List.mem_cons_of_mem _ hp, hc⟩

/-- A character that begins no name, no wildcard and no predicate.  What begins
with it has to be an index, a row of indices or a slice. -/
def Numeric (c : Char) : Prop := isQuote c = false ∧ c ≠ '?' ∧ c ≠ '*'

/-- Blanks, digits and signs begin no name, no wildcard and no predicate. -/
theorem BoundChar.numeric {c : Char} (h : BoundChar c) : Numeric c := by
  refine ⟨?_, ?_, ?_⟩
  · rw [Bool.eq_false_iff]
    intro hq
    rcases Quoted.isQuote_iff.mp hq with rfl | rfl <;> exact absurd h (by decide)
  · rintro rfl
    exact absurd h (by decide)
  · rintro rfl
    exact absurd h (by decide)

/-- What is no name, no wildcard and no predicate can only be made of
numbers. -/
theorem classify_numbers {content : List Char} (hne : trim content ≠ [])
    (h : ∀ c ∈ trim content, Numeric c) :
    classify content =
      if ':' ∈ trim content then slice (trim content)
      else if ',' ∈ trim content then
        ((splitCommas (trim content)).mapM fun part => index (trim part)).map .indices
      else (index (trim content)).map .index := by
  unfold classify
  -- the first character rules out every pattern but the last
  split
  · next he => exact absurd he hne
  · next he => rw [he] at h; exact absurd (h _ (List.mem_cons_self ..)).1 (by decide)
  · next he => rw [he] at h; exact absurd (h _ (List.mem_cons_self ..)).1 (by decide)
  · next he => rw [he] at h; exact absurd rfl (h _ (List.mem_cons_self ..)).2.2
  · next he => rw [he] at h; exact absurd rfl (h _ (List.mem_cons_self ..)).2.1
  · simp only [List.contains_iff_mem]

/-- What the reader gives for the content of brackets is what the content means,
once the blanks around it are left out. -/
theorem means_of_classify {content : List Char} (h : classify content = .ok f) :
    Means (trim content) f := by
  unfold classify at h
  split at h
  · cases h
  · next rest he =>
    obtain ⟨name, hn, rfl⟩ := (quotedName_eq_ok_iff (by decide)).mp h
    rw [he]
    exact .name hn
  · next rest he =>
    obtain ⟨name, hn, rfl⟩ := (quotedName_eq_ok_iff (by decide)).mp h
    rw [he]
    exact .name hn
  · next he =>
    cases h
    rw [he]
    exact .wildcard
  · next rest he =>
    have ht := Unicode.trimmed_trim content
    rw [he] at ht ⊢
    rcases (predicate_eq_ok_iff ht).mp h with ⟨rfl, rfl⟩ | ⟨b, e, hb, hne, rfl, rfl⟩
    · exact .placeholder
    · exact .expression hb hne
  · simp only [List.contains_iff_mem] at h
    split at h
    · next hc =>
      obtain ⟨s, t, start, stop, he, hstart, hstop, rfl⟩ := (slice_eq_ok_iff hc).mp h
      rw [he]
      exact .slice hstart hstop
    · split at h
      · next hc =>
        obtain ⟨parts, ns, hlen, he, hns, rfl⟩ := (indices_eq_ok_iff hc).mp h
        rw [he]
        exact .indices hlen hns
      · obtain ⟨n, hn, rfl⟩ := map_eq_ok_iff.mp h
        exact .index (index_eq_ok_iff.mp hn)

/-- The bounds of a slice are read as such, since no other content of brackets
is made of the same characters. -/
theorem classify_slice {content : List Char} {start stop : Option Int64}
    (he : trim content = s ++ ':' :: t) (hs : Bound s start) (ht : Bound t stop) :
    classify content = .ok (.slice start stop) := by
  have hnum : ∀ c ∈ trim content, Numeric c := by
    intro c hc
    rw [he, List.mem_append, List.mem_cons] at hc
    rcases hc with hc | rfl | hc
    · exact (hs.boundChar c hc).numeric
    · exact ⟨rfl, by decide, by decide⟩
    · exact (ht.boundChar c hc).numeric
  rw [classify_numbers (by simp [he]) hnum, he, if_pos (by simp)]
  exact (slice_eq_ok_iff (by simp)).mpr ⟨s, t, start, stop, rfl, hs, ht, rfl⟩

theorem comma_mem_intercalate {parts : List (List Char)} (h : 2 ≤ parts.length) :
    ',' ∈ [','].intercalate parts := by
  match parts, h with
  | p :: q :: ps, _ => simp [List.intercalate_cons_cons]

theorem classify_indices {content : List Char} {parts : List (List Char)} {ns : List Int64}
    (he : trim content = [','].intercalate parts) (hlen : 2 ≤ parts.length)
    (hns : List.Forall₂ (fun part n => Writes (trim part) n.toInt) parts ns) :
    classify content = .ok (.indices ns) := by
  have hparts : ∀ part ∈ parts, ∀ c ∈ part, BoundChar c :=
    ((List.forall₂_and_left parts ns).mp (hns.imp fun _ _ hw => ⟨boundChar_of_writes hw, hw⟩)).1
  have hmem : ∀ c ∈ [','].intercalate parts, c = ',' ∨ BoundChar c := by
    intro c hc
    rcases mem_of_mem_intercalate hc with hc | ⟨part, hp, hc⟩
    · exact .inl (List.mem_singleton.mp hc)
    · exact .inr (hparts part hp c hc)
  have hcomma := comma_mem_intercalate hlen
  have hcolon : ':' ∉ [','].intercalate parts := fun hm => absurd (hmem _ hm) (by decide)
  have hnum : ∀ c ∈ trim content, Numeric c := by
    intro c hc
    rw [he] at hc
    rcases hmem c hc with rfl | hc
    · exact ⟨rfl, by decide, by decide⟩
    · exact hc.numeric
  rw [classify_numbers (by rw [he]; exact List.ne_nil_of_mem hcomma) hnum, he, if_neg hcolon,
    if_pos hcomma]
  exact (indices_eq_ok_iff hcomma).mpr ⟨parts, ns, hlen, rfl, hns, rfl⟩

theorem classify_index {content : List Char} {n : Int64} (hw : Writes (trim content) n.toInt) :
    classify content = .ok (.index n) := by
  have hchar : ∀ c ∈ trim content, BoundChar c := fun c hc => .inr (hw.isIntegerChar c hc)
  have hcolon : ':' ∉ trim content := fun hm => absurd (hchar _ hm) (by decide)
  have hcomma : ',' ∉ trim content := fun hm => absurd (hchar _ hm) (by decide)
  rw [classify_numbers hw.ne_nil fun c hc => (hchar c hc).numeric, if_neg hcolon, if_neg hcomma,
    index_eq_ok_iff.mpr hw]
  rfl

/-- What a content means is what the reader gives for it, with any blanks around
it. -/
theorem classify_of_means {content : List Char} (h : Means (trim content) f) :
    classify content = .ok f := by
  generalize htext : trim content = text at h
  cases h with
  | name hl =>
    obtain ⟨quote, body, hq, hs, rfl⟩ := hl
    have hread : quotedName quote (quote :: (body ++ [quote])) = _ :=
      (quotedName_eq_ok_iff hq).mpr ⟨_, ⟨quote, body, hq, hs, rfl⟩, rfl⟩
    rcases Quoted.isQuote_iff.mp hq with rfl | rfl <;> rw [classify, htext] <;> exact hread
  | wildcard => rw [classify, htext]; rfl
  | placeholder => rw [classify, htext]; rfl
  | expression hb he =>
    have ht := Unicode.trimmed_trim content
    rw [htext] at ht
    rw [classify, htext]
    exact (predicate_eq_ok_iff ht).mpr (.inr ⟨_, _, hb, he, rfl, rfl⟩)
  | slice hstart hstop => exact classify_slice htext hstart hstop
  | indices hlen hns => exact classify_indices htext hlen hns
  | index hw => exact classify_index (htext ▸ hw)

/-- **`classify` reads the content of brackets as the grammar says**, without
the blanks around it.  The first character tells names, wildcards and
predicates, and a colon or a comma tells slices and rows of indices. -/
theorem classify_eq_ok_iff {content : List Char} :
    classify content = .ok f ↔ Means (trim content) f :=
  ⟨means_of_classify, classify_of_means⟩

end DocPath.Bracket

import DocPath.Proofs.Path.Closing
import DocPath.Proofs.Text.Enclosed
import DocPath.Proofs.Text.Form

/-! # A quoted name and the scan around it

The content of brackets that begins with a quote is gone through twice: by the
scan for the closing bracket, which takes a backslash and the character after it
for nothing, and then by the reader of literals, which takes up to five
characters after a backslash.  Both see the literal end at the same quote, as no
code point that is read holds a quote or a backslash.  So a literal in closed
brackets is never left open, and it is refused only for an escape in it
(`read_of_content`). -/

namespace DocPath

namespace Quoted

/-- A character after a backslash that opens no escape, with the text after it
and the fault that is reported: no sign, or a `u` without the digits of a code
point. -/
inductive BadEscape : Char → List Char → Fault → Prop
  | sign {e : Char} {rest : List Char} :
      (∀ c, (e, c) ∉ signs) → e ≠ 'u' → BadEscape e rest (.invalidEscape e)
  | short {rest : List Char} : rest.length < 4 → BadEscape 'u' rest .incompleteUnicode
  | code {w x y z : Char} {rest : List Char} :
      (∀ c : Char, ¬ Hex [w, x, y, z] c.toNat) → (∀ c : Char, w = '+' → ¬ Hex [x, y, z] c.toNat) →
        BadEscape 'u' (w :: x :: y :: z :: rest) .invalidUnicode

variable {start : Nat} {text rest : List Char} {stop : Stop} {e : Char} {fault : Fault}

theorem BadEscape.ne_unterminatedQuote (h : BadEscape e rest fault) :
    fault ≠ .unterminatedQuote := by
  cases h <;> simp

/-- Apart from the end of the text, only an escape is refused. -/
theorem Refused.exists_badEscape (h : Refused start text stop) (hnil : text ≠ [])
    (hcut : text ≠ ['\\']) :
    ∃ e rest, text = '\\' :: e :: rest ∧ BadEscape e rest stop.fault ∧
      stop = ⟨stop.fault, (e :: rest).length⟩ := by
  cases h with
  | unclosed => exact absurd rfl hnil
  | cut => exact absurd rfl hcut
  | sign he hu => exact ⟨_, _, rfl, .sign he hu, rfl⟩
  | short hlen => exact ⟨_, _, rfl, .short hlen, rfl⟩
  | code hd hp => exact ⟨_, _, rfl, .code hd hp, rfl⟩

end Quoted

namespace Bracket

open Quoted (isQuote Inside Spells Refused BadEscape)
open Unicode (Blanks trim)

namespace Mode

/-- A scan of a text meets its first quote after `before`, and sees it close
after `inside`. -/
structure FirstQuote (m : Mode) (text before : List Char) (quote : Char) (inside rest : List Char) :
    Prop where
  split : text = before ++ quote :: (inside ++ quote :: rest)
  before_outside : ∀ s, s <+: before → ∃ depth, m.after s = outside depth
  opens : ∃ depth, m.after (before ++ [quote]) = quoted quote depth
  stays : ∀ s, s <+: inside → ∀ depth, m.after (before ++ quote :: s) ≠ outside depth
  closes : ∃ depth, m.after (before ++ quote :: (inside ++ [quote])) = outside depth

variable {quote c : Char} {depth depth' : Nat} {s text : List Char}

theorem after_inside (h : Inside quote s) : (quoted quote depth).after s = quoted quote depth := by
  induction h with
  | nil => rfl
  | plain hc hb _ ih => rw [after_cons, next, if_neg hb, if_neg hc, ih]
  | hidden _ ih => rw [after_cons, next, if_pos rfl, after_cons, next, ih]

/-- A scan does not leave quotes between them. -/
theorem after_ne_outside (h : Inside quote text) (hs : s <+: text) :
    (quoted quote depth).after s ≠ outside depth' := by
  induction h generalizing s with
  | nil =>
    rw [List.prefix_nil.mp hs]
    simp
  | plain hc hb _ ih =>
    rcases List.prefix_cons_iff.mp hs with rfl | ⟨u, rfl, hu⟩
    · simp
    · rw [after_cons, next, if_neg hb, if_neg hc]
      exact ih hu
  | hidden _ ih =>
    rcases List.prefix_cons_iff.mp hs with rfl | ⟨u, rfl, hu⟩
    · simp
    · rcases List.prefix_cons_iff.mp hu with rfl | ⟨w, rfl, hw⟩
      · simp [next]
      · rw [after_cons, next, if_pos rfl, after_cons, next]
        exact ih hw

/-- A scan leaves quotes only at a quote of the kind that no backslash hides.
What stands before it has the shape that the reader of literals goes through as
well. -/
theorem exists_inside (text : List Char) :
    ((quoted quote depth).after text = outside depth' →
      ∃ s rest, text = s ++ quote :: rest ∧ Inside quote s) ∧
    ((escaped quote depth).after text = outside depth' →
      ∃ e s rest, text = e :: (s ++ quote :: rest) ∧ Inside quote s) := by
  induction text with
  | nil => exact ⟨fun h => by simp at h, fun h => by simp at h⟩
  | cons c text ih =>
    refine ⟨fun h => ?_, fun h => ?_⟩
    · rw [after_cons, next] at h
      split at h
      · next hb =>
        obtain ⟨e, s, rest, rfl, hs⟩ := ih.2 h
        exact ⟨c :: e :: s, rest, rfl, hb ▸ .hidden hs⟩
      · next hb =>
        split at h
        · next hc => exact ⟨[], text, by rw [hc]; rfl, .nil⟩
        · next hc =>
          obtain ⟨s, rest, rfl, hs⟩ := ih.1 h
          exact ⟨c :: s, rest, rfl, .plain hc hb hs⟩
    · obtain ⟨s, rest, rfl, hs⟩ := ih.1 h
      exact ⟨c, s, rest, rfl, hs⟩

end Mode

variable {quote : Char} {text inside after body s t : List Char} {stop : Stop} {start : Nat}

/-- Reading fails between the quotes that a scan sees, at an escape. -/
theorem exists_badEscape_of_read (hq : isQuote quote = true) (hs : Inside quote s)
    (h : Quoted.read quote start (s ++ quote :: t) = .error stop)
    (hclose : (Mode.quoted quote 0).after (s ++ quote :: t) = .outside 0) :
    ∃ cs p e q,
      Spells quote cs p ∧ s = p ++ '\\' :: e :: q ∧ BadEscape e (q ++ quote :: t) stop.fault ∧
      stop = ⟨stop.fault, (e :: (q ++ quote :: t)).length⟩ := by
  have hne := Quoted.ne_backslash_of_isQuote hq
  obtain ⟨cs, p, tail, hp, hsplit, htail⟩ := (Quoted.read_eq_error_iff hne).mp h
  have hinside := hp.inside hq
  -- the scan still stands between the quotes where reading fails
  rw [hsplit, Mode.after_append, Mode.after_inside hinside] at hclose
  obtain ⟨e, rest, rfl, hbad, hstop⟩ := htail.exists_badEscape
    (by rintro rfl; simp at hclose) (by rintro rfl; simp [Mode.next] at hclose)
  rw [Mode.after_cons, Mode.next, if_pos rfl, Mode.after_cons, Mode.next] at hclose
  obtain ⟨q, t', rfl, hq'⟩ := (Mode.exists_inside rest).1 hclose
  have hwhole : s ++ quote :: t = (p ++ '\\' :: e :: q) ++ quote :: t' := by
    rw [hsplit]
    simp
  obtain ⟨hsame, rfl⟩ := hs.append_quote_inj hne (hinside.append (.hidden hq')) hwhole
  exact ⟨cs, p, e, q, hp, hsame, hbad, hstop⟩

theorem firstQuote_of_blanks {b : List Char} (hb : Blanks b) (hq : isQuote quote = true)
    (hs : Inside quote s) :
    (Mode.outside 0).FirstQuote (b ++ quote :: (s ++ quote :: t)) b quote s t := by
  have hopen : (Mode.outside 0).after (b ++ [quote]) = .quoted quote 0 := by
    rw [Mode.after_append, (Mode.keeps_blanks hb).2]
    simp [Mode.next, hq]
  have hinside : ∀ u : List Char,
      (Mode.outside 0).after (b ++ quote :: u) = (Mode.quoted quote 0).after u := by
    intro u
    rw [← hopen, ← Mode.after_append]
    simp
  refine ⟨rfl, fun u hu => ⟨0, ?_⟩, ⟨0, hopen⟩, fun u hu depth => ?_, 0, ?_⟩
  · exact (Mode.keeps_blanks fun c hc => hb c (hu.subset hc)).2
  · rw [hinside]
    exact Mode.after_ne_outside hs hu
  · rw [hinside, Mode.after_append, Mode.after_inside hs]
    simp [Mode.next, Quoted.ne_backslash_of_isQuote hq]

/-- **A literal in closed brackets ends where the scan sees it end, or is
refused for an escape in it.** -/
theorem read_of_content (hcontent : content none 0 text = .ok (inside, after))
    (htrim : trim inside = quote :: body) (hq : isQuote quote = true) (start : Nat) :
    ∃ b s rest a, (Mode.outside 0).FirstQuote inside b quote s (rest ++ a) ∧ Blanks b ∧ Blanks a ∧
      body = s ++ quote :: rest ∧
      (∀ stop, Quoted.read quote start body = .error stop → stop.fault ≠ .unterminatedQuote) ∧
      (∀ name tail, Quoted.read quote start body = .ok (name, tail) →
        Spells quote name s ∧ tail = rest) ∧
      (∀ stop, Quoted.read quote start body = .error stop →
        ∃ name p e q, Spells quote name p ∧ s = p ++ '\\' :: e :: q ∧
          BadEscape e (q ++ quote :: rest) stop.fault ∧
          stop.remaining = (e :: (q ++ quote :: rest)).length) := by
  have hclose := (Mode.closes_trim (content_eq_ok_iff.mp hcontent).2).2
  rw [htrim, Mode.after_cons, Mode.next, if_pos hq] at hclose
  obtain ⟨s, rest, rfl, hs⟩ := (Mode.exists_inside body).1 hclose
  obtain ⟨b, a, hb, ha, hsplit⟩ := Unicode.exists_blanks_trim inside
  have hfirst := firstQuote_of_blanks (t := rest ++ a) hb hq hs
  have hwhole : inside = b ++ quote :: (s ++ quote :: (rest ++ a)) := by
    rw [hsplit, htrim]
    simp
  rw [← hwhole] at hfirst
  have hbad : ∀ stop, Quoted.read quote start (s ++ quote :: rest) = .error stop → _ :=
    fun stop h => exists_badEscape_of_read hq hs h hclose
  refine ⟨b, s, rest, a, hfirst, hb, ha, rfl, fun stop h => ?_, fun name tail h => ?_,
    fun stop h => ?_⟩
  · obtain ⟨_, _, e, q, -, -, he, -⟩ := hbad stop h
    exact he.ne_unterminatedQuote
  · exact (Quoted.read_inside_eq_ok_iff start hq hs).mp h
  · obtain ⟨name, p, e, q, hp, hs', he, hstop⟩ := hbad stop h
    exact ⟨name, p, e, q, hp, hs', he, by rw [hstop]⟩

/-- A literal between blanks that hides a quote of its kind and holds a bracket,
and one whose code point is cut short by its closing quote. -/
theorem read_of_content_hidden :
    content none 0 " 'it\\'s \\u0041]' ] .b".toList = .ok (" 'it\\'s \\u0041]' ".toList,
      " .b".toList) ∧
    Quoted.read '\'' 0 "it\\'s \\u0041]'".toList = .ok ("it's A]".toList, []) ∧
    Spells '\'' "it's A]".toList "it\\'s \\u0041]".toList ∧
    content none 0 "'\\u41']".toList = .ok ("'\\u41'".toList, []) ∧
    Quoted.read '\'' 0 "\\u41'".toList = .error ⟨.incompleteUnicode, 4⟩ ∧
    Fault.incompleteUnicode ≠ .unterminatedQuote := by
  have hfound : content none 0 " 'it\\'s \\u0041]' ] .b".toList =
      .ok (" 'it\\'s \\u0041]' ".toList, " .b".toList) := by decide +kernel
  have htrim : trim " 'it\\'s \\u0041]' ".toList = '\'' :: "it\\'s \\u0041]'".toList := by
    decide +kernel
  have hread : Quoted.read '\'' 0 "it\\'s \\u0041]'".toList = .ok ("it's A]".toList, []) := by
    decide +kernel
  have hfound' : content none 0 "'\\u41']".toList = .ok ("'\\u41'".toList, []) := by decide +kernel
  have htrim' : trim "'\\u41'".toList = '\'' :: "\\u41'".toList := by decide +kernel
  have hread' : Quoted.read '\'' 0 "\\u41'".toList = .error ⟨.incompleteUnicode, 4⟩ := by
    decide +kernel
  obtain ⟨_, s, _, _, -, -, -, hbody, -, hok, -⟩ := read_of_content hfound htrim rfl 0
  obtain ⟨hspells, rfl⟩ := hok _ _ hread
  have hs : s = "it\\'s \\u0041]".toList := List.append_cancel_right hbody.symm
  obtain ⟨_, _, _, _, -, -, -, -, hclosed, -⟩ := read_of_content hfound' htrim' rfl 0
  exact ⟨hfound, hread, hs ▸ hspells, hfound', hread', hclosed _ hread'⟩

end Bracket
end DocPath

import Mathlib.Data.List.TakeDrop
import Mathlib.Data.List.TakeWhile
import DocPath.Regex.Reader.Escape

/-! # Patterns that go on

What a pattern means does not change when a closing parenthesis follows it, with
one exception: a comment at its end runs on and hides the parenthesis.
`Extends` says that texts go on in one of these two ways, the same for every
tail.  Each part of the reader is `Steady`: what it reads from a text it reads
from the texts that extend it, and the rests extend one another again. -/

namespace DocPath.Regex.Reader

/-- What closes a pattern: a parenthesis with neither a line end nor a colon
after it. -/
structure Tail where
  after : List Char
  no_line_end : '\n' ∉ after
  no_colon : ':' ∉ after

def Tail.text (u : Tail) : List Char := ')' :: u.after

/-- Texts that go on with a tail, or that are at their end because a comment has
hidden the tail. -/
def Extends (text : List Char) (F : Tail → List Char) : Prop :=
  (∀ u, F u = text ++ u.text) ∨ (text = [] ∧ ∀ u, F u = [])

/-- A reader that reads from a text that goes on what it reads from the text
alone. -/
def Steady {α : Type} (read : List Char → Option (α × List Char)) : Prop :=
  ∀ ⦃text : List Char⦄ ⦃a : α⦄ ⦃rest : List Char⦄ ⦃F : Tail → List Char⦄,
    read text = some (a, rest) → Extends text F →
      ∃ G, Extends rest G ∧ ∀ u, read (F u) = some (a, G u)

variable {α β : Type} {c : Char} {text rest taken after : List Char} {F : Tail → List Char}
  {p : Char → Bool} {verbose : Bool}

namespace Extends

theorem append (text : List Char) : Extends text (fun u => text ++ u.text) := .inl fun _ => rfl

theorem cons (h : Extends (c :: rest) F) : ∃ G, Extends rest G ∧ ∀ u, F u = c :: G u := by
  rcases h with h | ⟨h, -⟩
  · exact ⟨_, .append rest, h⟩
  · exact absurd h (List.cons_ne_nil c rest)

theorem cons_cons {d : Char} (h : Extends (c :: d :: rest) F) :
    ∃ G, Extends rest G ∧ ∀ u, F u = c :: d :: G u := by
  obtain ⟨G, hG, hF⟩ := h.cons
  obtain ⟨H, hH, hGH⟩ := hG.cons
  exact ⟨H, hH, fun u => by rw [hF, hGH]⟩

/-- At the end of a text stands the parenthesis of the tail, or nothing. -/
theorem nil (h : Extends [] F) : (∀ u, F u = ')' :: u.after) ∨ ∀ u, F u = [] :=
  h.imp_right And.right

/-- A text goes on with the characters that it begins with, or with a
parenthesis. -/
theorem of_cons (h : Extends text F) (hc : c ≠ ')') {u : Tail} {tail : List Char}
    (hu : F u = c :: tail) :
    ∃ rest G, text = c :: rest ∧ Extends rest G ∧ ∀ u, F u = c :: G u := by
  cases text with
  | nil => rcases h.nil with h | h <;> simp [h, hc.symm] at hu
  | cons d rest =>
    obtain ⟨G, hG, hF⟩ := h.cons
    obtain ⟨rfl, -⟩ := List.cons.inj ((hF u).symm.trans hu)
    exact ⟨rest, G, rfl, hG, hF⟩

/-- A tail changes nothing about whether a text begins with a given character,
the closing parenthesis apart. -/
theorem head_eq_iff (h : Extends text F) (hc : c ≠ ')') (u : Tail) :
    (F u).head? = some c ↔ text.head? = some c := by
  constructor
  · intro hhead
    obtain ⟨tail, htail⟩ := List.head?_eq_some_iff.mp hhead
    obtain ⟨rest, -, rfl, -⟩ := h.of_cons hc htail
    rfl
  · intro hhead
    obtain ⟨rest, rfl⟩ := List.head?_eq_some_iff.mp hhead
    obtain ⟨G, -, hF⟩ := h.cons
    rw [hF]
    rfl

/-- A text that does not begin with a character does not come to begin with
it. -/
theorem head_ne (h : Extends text F) (hc : c ≠ ')') (hne : ∀ rest, text = c :: rest → False)
    (u : Tail) : (F u).head? ≠ some c := by
  rw [Ne, h.head_eq_iff hc, List.head?_eq_some_iff]
  rintro ⟨rest, htext⟩
  exact hne rest htext

theorem length_le (h : Extends text F) (u : Tail) : text.length ≤ (F u).length := by
  rcases h with h | ⟨rfl, -⟩ <;> simp [*]

/-- What is left after a run goes on as the text did, if the run does not take
in the parenthesis. -/
theorem dropWhile (h : Extends text F) (hp : p ')' = false) :
    Extends (text.dropWhile p) (fun u => (F u).dropWhile p) := by
  rcases h with h | ⟨rfl, h⟩
  · refine .inl fun u => ?_
    simp only [h, List.dropWhile_append]
    split
    · next hnil => simp [List.isEmpty_iff.mp hnil, Tail.text, hp]
    · rfl
  · exact .inr ⟨rfl, fun u => by simp [h]⟩

end Extends

/-! ### Blanks and comments -/

/-- A comment that no line end closes hides all that follows, and with it the
parenthesis of a tail. -/
theorem skip_open_comment (h : '\n' ∉ text) : skipBlanksAndComments true text = [] := by
  induction text with
  | nil => rfl
  | cons c rest ih =>
    have hc : (c != '\n') = true := by
      rw [bne_iff_ne]
      rintro rfl
      exact h List.mem_cons_self
    rw [skipBlanksAndComments, hc]
    exact ih fun hmem => h (List.mem_cons_of_mem c hmem)

/-- Without blanks and comments a text goes on with the tail, or is at its end
because the last comment has taken in the tail. -/
theorem extends_skipBlanksAndComments (inComment : Bool) (text : List Char) :
    Extends (skipBlanksAndComments inComment text)
      (fun u => skipBlanksAndComments inComment (text ++ u.text)) := by
  induction text generalizing inComment with
  | nil =>
    cases inComment with
    | true =>
      -- a comment that the text leaves open takes in the tail, which holds no line end
      refine .inr ⟨rfl, fun u => skip_open_comment ?_⟩
      simpa [Tail.text] using u.no_line_end
    | false => exact .inl fun u => rfl
  | cons c rest ih =>
    cases inComment with
    | true => exact ih (c != '\n')
    | false =>
      simp only [List.cons_append, skipBlanksAndComments]
      split
      · exact ih false
      · split
        · exact ih true
        · exact .append (c :: rest)

/-- Texts still extend one another when blanks and comments are left out. -/
theorem Extends.skip (verbose : Bool) (h : Extends text F) :
    Extends (skip verbose text) (fun u => skip verbose (F u)) := by
  cases verbose with
  | false => exact h
  | true =>
    rcases h with h | ⟨rfl, h⟩
    · simpa only [Reader.skip, if_true, h] using extends_skipBlanksAndComments false text
    · exact .inr ⟨rfl, fun u => by simp only [h]; rfl⟩

/-! ### Runs -/

/-- A run of characters that satisfy `p`, and the text from the first one that
does not. -/
inductive Runs (verbose : Bool) (p : Char → Bool) : List Char → List Char → List Char → Prop where
  | stop {text : List Char} : (∀ c ∈ text.head?, p c = false) → Runs verbose p text [] text
  | take {c : Char} {rest taken after : List Char} :
      p c = true → Runs verbose p (skip verbose rest) taken after →
      Runs verbose p (c :: rest) (c :: taken) after

theorem skipBlanksAndComments_length_le (inComment : Bool) (text : List Char) :
    (skipBlanksAndComments inComment text).length ≤ text.length := by
  fun_induction skipBlanksAndComments inComment text with
  | case1 => simp
  | case2 c rest ih => exact Nat.le_succ_of_le ih
  | case3 c rest _ ih => exact Nat.le_succ_of_le ih
  | case4 rest _ ih => exact Nat.le_succ_of_le ih
  | case5 c rest => exact Nat.le_refl _

/-- Skipping makes no text longer, so there is fuel enough for what follows. -/
theorem skip_length_le (verbose : Bool) (text : List Char) :
    (skip verbose text).length ≤ text.length := by
  cases verbose with
  | false => exact Nat.le_refl _
  | true => exact skipBlanksAndComments_length_le false text

/-- With fuel for the whole text the run that is taken is the longest one. -/
theorem takeRun_eq_iff {n : Nat} (hn : text.length ≤ n) :
    takeRun verbose p n text = (taken, rest) ↔ Runs verbose p text taken rest := by
  induction n generalizing text taken rest with
  | zero =>
    obtain rfl : text = [] := List.length_eq_zero_iff.mp (Nat.le_zero.mp hn)
    constructor
    · intro h
      obtain ⟨rfl, rfl⟩ := Prod.mk.inj h
      exact .stop (by simp)
    · rintro ⟨⟩
      rfl
  | succ n ih =>
    cases text with
    | nil =>
      constructor
      · intro h
        obtain ⟨rfl, rfl⟩ := Prod.mk.inj h
        exact .stop (by simp)
      · rintro ⟨⟩
        rfl
    | cons c tail =>
      have hlen : (skip verbose tail).length ≤ n :=
        (skip_length_le verbose tail).trans (Nat.le_of_succ_le_succ hn)
      by_cases hc : p c = true
      · simp only [takeRun, hc, if_true, Prod.mk.injEq]
        constructor
        · rintro ⟨rfl, rfl⟩
          exact .take hc ((ih hlen).mp rfl)
        · intro h
          cases h with
          | stop h => simp [hc] at h
          | take _ h => rw [(ih hlen).mpr h]; exact ⟨rfl, rfl⟩
      · simp only [takeRun, hc]
        constructor
        · rintro ⟨⟩
          exact .stop (by simpa using hc)
        · intro h
          cases h with
          | stop _ => rfl
          | take h _ => exact absurd h hc

/-- The reader takes the longest run. -/
theorem run_eq_iff : run verbose p text = (taken, rest) ↔ Runs verbose p text taken rest :=
  takeRun_eq_iff (Nat.le_refl _)

/-- A run ends where it ended when its text goes on, unless it would run into
the tail. -/
theorem Runs.extend (h : Runs verbose p text taken rest) (hext : Extends text F)
    (hp : rest = [] → p ')' = false) :
    ∃ G, Extends rest G ∧ ∀ u, Runs verbose p (F u) taken (G u) := by
  induction h generalizing F with
  | @stop text hstop =>
    refine ⟨F, hext, fun u => .stop ?_⟩
    cases text with
    | nil => rcases hext.nil with h | h <;> simp [h, hp rfl]
    | cons c rest =>
      obtain ⟨G, -, hG⟩ := hext.cons
      rw [hG]
      exact hstop
  | take hc _ ih =>
    obtain ⟨G, hG, hF⟩ := hext.cons
    obtain ⟨H, hH, hruns⟩ := ih (hG.skip verbose) hp
    refine ⟨H, hH, fun u => ?_⟩
    rw [hF]
    exact .take hc (hruns u)

/-- A run is read the same when the text goes on, unless it would run into the
tail. -/
theorem Extends.run (hext : Extends text F) (h : run verbose p text = (taken, rest))
    (hp : rest = [] → p ')' = false) :
    ∃ G, Extends rest G ∧ ∀ u, Reader.run verbose p (F u) = (taken, G u) := by
  simpa only [run_eq_iff] using (run_eq_iff.mp h).extend hext hp

/-- A run that ends before the end of its text. -/
theorem Extends.run_cons (hext : Extends text F)
    (h : Reader.run verbose p text = (taken, c :: rest)) :
    ∃ G, Extends rest G ∧ ∀ u, Reader.run verbose p (F u) = (taken, c :: G u) := by
  obtain ⟨G, hG, hrun⟩ := hext.run h (by simp)
  obtain ⟨H, hH, hGH⟩ := hG.cons
  exact ⟨H, hH, fun u => by rw [hrun, hGH]⟩

/-- Where nothing is passed over, a run is a plain span of the text. -/
theorem run_false (p : Char → Bool) (text : List Char) : run false p text = text.span p := by
  rw [List.span_eq_takeWhile_dropWhile, run_eq_iff]
  induction text with
  | nil => exact .stop (by simp)
  | cons c rest ih =>
    by_cases hc : p c = true
    · simp only [List.takeWhile_cons, List.dropWhile_cons, hc, if_true]
      exact .take hc ih
    · simp only [List.takeWhile_cons, List.dropWhile_cons, hc]
      exact .stop (by simpa using hc)

/-- A run that ends at a character of the text ends there as well when the text
goes on. -/
theorem Extends.span_cons (hext : Extends text F) (h : text.span p = (taken, c :: rest)) :
    ∃ G, Extends rest G ∧ ∀ u, (F u).span p = (taken, c :: G u) := by
  simp only [← run_false] at h ⊢
  exact hext.run_cons h

/-! ### Readers -/

theorem Steady.map {read : List Char → Option (α × List Char)} (h : Steady read) (f : α → β) :
    Steady fun text => (read text).map fun (a, rest) => (f a, rest) := by
  intro text b rest F hread hext
  obtain ⟨⟨a, _⟩, hsome, hfa⟩ := Option.map_eq_some_iff.mp hread
  obtain ⟨rfl, rfl⟩ := Prod.mk.inj hfa
  obtain ⟨G, hG, hF⟩ := h hsome hext
  exact ⟨G, hG, fun u => by simp only [hF, Option.map_some]⟩

/-- Two parts in a row are read the same when the text goes on if both are. -/
theorem Steady.bind {read : List Char → Option (α × List Char)}
    {next : α → List Char → Option (β × List Char)} (h : Steady read)
    (hnext : ∀ a, Steady (next a)) :
    Steady fun text => (read text).bind fun (a, rest) => next a rest := by
  intro text b rest F hread hext
  obtain ⟨⟨a, start⟩, hsome, hb⟩ := Option.bind_eq_some_iff.mp hread
  obtain ⟨G, hG, hF⟩ := h hsome hext
  obtain ⟨H, hH, hGH⟩ := hnext a hb hG
  exact ⟨H, hH, fun u => by simp only [hF, Option.bind_some, hGH]⟩

/-- What is given without reading anything is given whatever follows. -/
theorem Steady.pure (a : α) : Steady fun text => some (a, text) := by
  intro text b rest F hread hext
  obtain ⟨rfl, rfl⟩ := Prod.mk.inj (Option.some.inj hread)
  exact ⟨F, hext, fun _ => rfl⟩

/-- A result that does not depend on the text. -/
theorem Steady.ofOption (o : Option α) : Steady fun text => o.map (·, text) := by
  intro text b rest F hread hext
  obtain ⟨a, rfl, ⟨⟩⟩ := Option.map_eq_some_iff.mp hread
  exact ⟨F, hext, fun _ => rfl⟩

/-- A reader that first passes over a part of the text. -/
theorem Steady.comp {read : List Char → Option (α × List Char)} {pass : List Char → List Char}
    (h : Steady read)
    (hpass : ∀ {text F}, Extends text F → Extends (pass text) (fun u => pass (F u))) :
    Steady fun text => read (pass text) :=
  fun _ _ _ _ hread hext => h hread (hpass hext)

/-! ### Escapes -/

theorem steady_hexDigits (verbose : Bool) (n : Nat) : Steady (hexDigits? verbose n) := by
  induction n with
  | zero => exact Steady.pure []
  | succ n ih =>
    intro text ds rest F h hext
    cases text with
    | nil => simp [hexDigits?] at h
    | cons c text =>
      obtain ⟨G, hG, hF⟩ := hext.cons
      by_cases hc : isHexDigit c = true
      · simp only [hexDigits?, hc, if_true] at h
        obtain ⟨H, hH, hread⟩ := ih.map (c :: ·) h (hG.skip verbose)
        exact ⟨H, hH, fun u => by simpa only [hF, hexDigits?, hc, if_true] using hread u⟩
      · simp [hexDigits?, hc] at h

theorem steady_hexLiteral (verbose : Bool) (digits : Nat) :
    Steady (hexLiteral? verbose digits) := by
  intro text l rest F h hext
  have hskip := hext.skip verbose
  unfold hexLiteral? at h
  split at h
  · next inner hbrace =>
    rw [hbrace] at hskip
    obtain ⟨G, hG, hF⟩ := hskip.cons
    split at h
    · next d ds after hrun =>
      obtain ⟨H, hH, hGH⟩ := (hG.skip verbose).run_cons hrun
      obtain ⟨c, hc, hl⟩ := Option.map_eq_some_iff.mp h
      obtain ⟨rfl, rfl⟩ := Prod.mk.inj hl
      refine ⟨_, hH.skip verbose, fun u => ?_⟩
      simp only [hexLiteral?, hF, hGH, hc, Option.map_some]
    · exact nomatch h
  · next hbrace =>
    simp only [Option.bind_eq_bind, Option.bind_eq_some_iff] at h
    obtain ⟨⟨ds, after⟩, hds, c, hc, hl⟩ := h
    obtain ⟨rfl, rfl⟩ := Prod.mk.inj (Option.some.inj hl)
    obtain ⟨H, hH, hGH⟩ := steady_hexDigits verbose digits hds hskip
    refine ⟨H, hH, fun u => ?_⟩
    unfold hexLiteral?
    split
    · next inner hinner =>
      obtain ⟨inner, -, htext, -⟩ := hskip.of_cons (by decide) hinner
      exact absurd htext (hbrace inner)
    · simp [hGH, hc]

theorem steady_property (verbose negated : Bool) : Steady (property? verbose negated) := by
  intro text q rest F h hext
  have hskip := hext.skip verbose
  unfold property? at h
  split at h
  · next inner hbrace =>
    rw [hbrace] at hskip
    obtain ⟨G, hG, hF⟩ := hskip.cons
    split at h
    · next name c after hrun =>
      obtain ⟨H, hH, hGH⟩ := (hG.skip verbose).run_cons hrun
      obtain ⟨rfl, rfl⟩ : (negated != (query name).1, (query name).2) = q ∧ after = rest :=
        Prod.mk.inj (Option.some.inj h)
      exact ⟨H, hH, fun u => by simp only [property?, hF, hGH]⟩
    · exact nomatch h
  · exact nomatch h
  · next c inner hbrace hslash hc =>
    obtain ⟨rfl, rfl⟩ := Prod.mk.inj (Option.some.inj h)
    rw [hc] at hskip
    obtain ⟨G, hG, hF⟩ := hskip.cons
    refine ⟨_, hG.skip verbose, fun u => ?_⟩
    simp only [property?, hF]
  · exact nomatch h

/-- The assertion that a name in the braces after a boundary stands for. -/
def wordEdge? : String → Option Assertion
  | "start" => some .wordStart
  | "end" => some .wordEnd
  | "start-half" => some .wordStartHalf
  | "end-half" => some .wordEndHalf
  | _ => none

def isEdgeNameChar (c : Char) : Bool := c.isAlpha || c == '-'

/-- After a brace the name of an edge of a word may stand, or the brace begins
something else. -/
theorem boundary_brace (verbose : Bool) (inner : List Char) :
    boundary? verbose ('\x7B' :: inner) =
      match skip verbose inner with
      | [] => none
      | c :: more =>
        if isEdgeNameChar c then
          match run verbose isEdgeNameChar (c :: more) with
          | (name, '\x7D' :: after) => (wordEdge? (String.ofList name)).map (·, after)
          | _ => none
        else some (.wordBoundary, '\x7B' :: inner) := by
  have hchar : (fun c : Char => c.isAlpha || c == '-') = isEdgeNameChar := rfl
  cases hskip : skip verbose inner with
  | nil => simp only [boundary?, hskip]
  | cons c more =>
    simp only [boundary?, hskip, hchar]
    generalize run verbose isEdgeNameChar (c :: more) = r
    refine if_congr Iff.rfl ?_ rfl
    split
    · next name after =>
      simp only [wordEdge?]
      generalize String.ofList name = w
      split <;> simp [*]
    · simp

/-- Without a brace the edge is that of a word on either side. -/
theorem boundary_plain (h : text.head? ≠ some '\x7B') :
    boundary? verbose text = some (.wordBoundary, text) := by
  unfold boundary?
  split
  · exact absurd rfl h
  · rfl

theorem steady_boundary (verbose : Bool) : Steady (boundary? verbose) := by
  intro text a rest F h hext
  by_cases hbrace : text.head? = some '\x7B'
  · obtain ⟨inner, rfl⟩ := List.head?_eq_some_iff.mp hbrace
    obtain ⟨G, hG, hF⟩ := hext.cons
    rw [boundary_brace] at h
    split at h
    · exact nomatch h
    · next c more hc =>
      obtain ⟨H, hH, hGH⟩ := (hc ▸ hG.skip verbose).cons
      split at h
      · next hname =>
        split at h
        · next name after hrun =>
          obtain ⟨K, hK, hrunK⟩ := (hc ▸ hG.skip verbose).run_cons hrun
          obtain ⟨e, he, hea⟩ := Option.map_eq_some_iff.mp h
          obtain ⟨rfl, rfl⟩ := Prod.mk.inj hea
          refine ⟨K, hK, fun u => ?_⟩
          simp only [hGH] at hrunK
          simp only [hF, boundary_brace, hGH, hname, if_true, hrunK, he, Option.map_some]
        · exact nomatch h
      · next hname =>
        obtain ⟨rfl, rfl⟩ := Prod.mk.inj (Option.some.inj h)
        refine ⟨F, hext, fun u => ?_⟩
        simp only [hF, boundary_brace, hGH, hname]
        rfl
  · rw [boundary_plain hbrace] at h
    obtain ⟨rfl, rfl⟩ := Prod.mk.inj (Option.some.inj h)
    exact ⟨F, hext, fun u => boundary_plain (mt (hext.head_eq_iff (by decide) u).mp hbrace)⟩

theorem steady_escape (verbose : Bool) : Steady (escape? verbose) := by
  intro text item rest F h hext
  cases text with
  | nil => exact nomatch h
  | cons c text =>
    obtain ⟨G, hG, hF⟩ := hext.cons
    simp only [hF]
    unfold escape? at h ⊢
    dsimp only at h ⊢
    split at h
    case h_1 => exact (steady_hexLiteral verbose 2).map Tree.literal h hG
    case h_2 => exact (steady_hexLiteral verbose 4).map Tree.literal h hG
    case h_3 => exact (steady_hexLiteral verbose 8).map Tree.literal h hG
    case h_4 => exact (steady_property verbose false).map (fun q => Tree.property q.1 q.2) h hG
    case h_5 => exact (steady_property verbose true).map (fun q => Tree.property q.1 q.2) h hG
    case h_20 => exact (steady_boundary verbose).map Tree.assertion h hG
    case h_24 =>
      split at h
      · next hc =>
        simp only [hc]
        exact Steady.pure _ h hG
      · exact nomatch h
    all_goals exact Steady.pure _ h hG

end DocPath.Regex.Reader

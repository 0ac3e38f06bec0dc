import DocPath.Path.Bracket
import DocPath.Proofs.Text.Quoted
import DocPath.Proofs.Text.Trim
import Mathlib.Tactic.SplitIfs

/-! # Closing brackets

A scan for the closing bracket of a fragment stands outside of quotes, inside
them, or right after a backslash inside them, and below some open parentheses.
`Mode` is where it stands and `Mode.next` what one character does.
`content_eq_ok_iff` says that `content` splits a text at the first closing
bracket that such a scan meets outside of everything. -/

namespace DocPath.Bracket

open Quoted (isQuote Spelling Spells Literal)
open Unicode (isBlank)

/-- Where a scan for the closing bracket stands.  Quotes hide parentheses and
brackets, and parentheses hide brackets. -/
inductive Mode where
  | outside (depth : Nat)
  | quoted (quote : Char) (depth : Nat)
  /-- Inside quotes, right after a backslash, which hides the next character. -/
  | escaped (quote : Char) (depth : Nat)
deriving DecidableEq

namespace Mode

/-- Where a scan stands after one more character.  A closing parenthesis too
many changes nothing. -/
def next : Mode → Char → Mode
  | outside depth, c =>
    if isQuote c then quoted c depth
    else if c = '(' then outside (depth + 1)
    else if c = ')' then outside (depth - 1)
    else outside depth
  | quoted quote depth, c =>
    if c = '\\' then escaped quote depth
    else if c = quote then outside depth
    else quoted quote depth
  | escaped quote depth, _ => quoted quote depth

/-- Where a scan stands after a text, from where it stands before, whatever
brackets it meets on the way. -/
def after (m : Mode) (text : List Char) : Mode := text.foldl next m

/-- A scan meets no closing bracket in a text outside of quotes and
parentheses. -/
def Passes (m : Mode) (text : List Char) : Prop :=
  ∀ before rest, text = before ++ ']' :: rest → m.after before ≠ outside 0

/-- A text up to, and without, the bracket that closes it: no bracket of its own
closes it before, and it leads out of all quotes and parentheses. -/
def Closes (m : Mode) (text : List Char) : Prop := m.Passes text ∧ m.after text = outside 0

/-- A scan passes a text and stands where it stood before.  Such texts can be
put together and left out. -/
def Keeps (m : Mode) (text : List Char) : Prop := m.Passes text ∧ m.after text = m

variable {m : Mode} {c quote : Char} {depth : Nat} {s t name : List Char}

@[simp] theorem after_nil : m.after [] = m := rfl

@[simp] theorem after_cons : m.after (c :: s) = (m.next c).after s := rfl

@[simp] theorem after_append : m.after (s ++ t) = (m.after s).after t := List.foldl_append

@[simp] theorem passes_nil : m.Passes [] := by
  intro before rest h
  simp at h

/-- A scan passes one character after the other, and none of them is the bracket
that closes. -/
@[simp] theorem passes_cons :
    m.Passes (c :: s) ↔ (c = ']' → m ≠ outside 0) ∧ (m.next c).Passes s := by
  constructor
  · intro h
    refine ⟨?_, fun before rest he => h (c :: before) rest (by rw [he]; rfl)⟩
    rintro rfl
    exact h [] s rfl
  · rintro ⟨hc, hs⟩ before rest he
    cases before with
    | nil => cases he; exact hc rfl
    | cons b before => cases he; exact hs before rest rfl

/-- A scan passes two texts one after the other, the second one from where the
first has led. -/
@[simp] theorem passes_append : m.Passes (s ++ t) ↔ m.Passes s ∧ (m.after s).Passes t := by
  induction s generalizing m with
  | nil => simp
  | cons c s ih => simp [ih, and_assoc]

@[simp] theorem closes_nil : m.Closes [] ↔ m = outside 0 := by
  simp [Closes]

/-- The first character does not close, and what follows it is closed from where
it leads. -/
@[simp] theorem closes_cons :
    m.Closes (c :: s) ↔ (c = ']' → m ≠ outside 0) ∧ (m.next c).Closes s := by
  simp [Closes, and_assoc]

/-- A text that leaves the scan outside of everything is one that the next
bracket closes. -/
theorem Keeps.closes (h : (outside 0).Keeps s) : (outside 0).Closes s := h

/-- Texts that the scan passes and that change nothing can stand one after the
other. -/
theorem Keeps.append (hs : m.Keeps s) (ht : m.Keeps t) : m.Keeps (s ++ t) := by
  refine ⟨passes_append.mpr ⟨hs.1, ?_⟩, ?_⟩
  · rw [hs.2]; exact ht.1
  · rw [after_append, hs.2, ht.2]

theorem keeps_nil : m.Keeps [] := ⟨passes_nil, rfl⟩

/-! ## Quotes are quotes -/

/-- The quote that a scan waits for is one of the two quotes. -/
def Proper : Mode → Prop
  | outside _ => True
  | quoted quote _ | escaped quote _ => isQuote quote = true

theorem proper_outside : (outside depth).Proper := trivial

/-- One character leads into quotes only if it is a quote. -/
theorem Proper.next (h : m.Proper) (c : Char) : (m.next c).Proper := by
  cases m with
  | outside depth =>
    show (if isQuote c then quoted c depth else if c = '(' then outside (depth + 1)
      else if c = ')' then outside (depth - 1) else outside depth).Proper
    split_ifs with hc
    · exact hc
    · trivial
    · trivial
    · trivial
  | quoted quote depth =>
    show (if c = '\\' then escaped quote depth else if c = quote then outside depth
      else quoted quote depth).Proper
    split_ifs
    · exact h
    · trivial
    · exact h
  | escaped quote depth => exact h

/-- The quote that a scan waits for stays one of the two quotes along a text. -/
theorem Proper.after (h : m.Proper) (s : List Char) : (m.after s).Proper := by
  induction s generalizing m with
  | nil => exact h
  | cons c s ih => exact ih (h.next c)

/-! ## Texts that change nothing -/

/-- A character that means nothing to a scan outside of quotes. -/
structure Idle (c : Char) : Prop where
  not_quote : isQuote c = false
  ne_open : c ≠ '('
  ne_close : c ≠ ')'
  ne_bracket : c ≠ ']'

instance (c : Char) : Decidable (Idle c) :=
  decidable_of_iff (isQuote c = false ∧ c ≠ '(' ∧ c ≠ ')' ∧ c ≠ ']')
    ⟨fun ⟨hq, ho, hc, hb⟩ => ⟨hq, ho, hc, hb⟩,
      fun h => ⟨h.not_quote, h.ne_open, h.ne_close, h.ne_bracket⟩⟩

/-- A character that means nothing to the scan changes nothing outside of
quotes. -/
theorem next_idle (hc : Idle c) : (outside depth).next c = outside depth := by
  simp [next, hc.not_quote, hc.ne_open, hc.ne_close]

theorem keeps_idle (h : ∀ c ∈ s, Idle c) : (outside depth).Keeps s := by
  induction s with
  | nil => exact keeps_nil
  | cons c s ih =>
    have hc := h c (List.mem_cons_self ..)
    have hs := ih fun d hd => h d (List.mem_cons_of_mem _ hd)
    refine ⟨passes_cons.mpr ⟨fun he => absurd he hc.ne_bracket, ?_⟩, ?_⟩
    · rw [next_idle hc]; exact hs.1
    · rw [after_cons, next_idle hc]; exact hs.2

/-- A closing bracket inside parentheses closes nothing. -/
theorem keeps_bracket : (outside (depth + 1)).Keeps [']'] := by
  refine ⟨by simp, ?_⟩
  simp [next, Quoted.isQuote]

/-- Inside of quotes every character is passed, but for the quote itself and the
backslash. -/
theorem keeps_quoted_of_ne (hb : c ≠ '\\') (hq : c ≠ quote) : (quoted quote depth).Keeps [c] := by
  refine ⟨by simp, ?_⟩
  simp [next, hb, hq]

/-- A backslash takes the character after it along, whichever it is. -/
theorem keeps_hidden (c : Char) : (quoted quote depth).Keeps ['\\', c] := by
  refine ⟨by simp [next], ?_⟩
  simp [next]

/-- Inside quotes the spelling of a character changes nothing. -/
theorem keeps_spelling (hq : isQuote quote = true) (h : Spelling quote c s) :
    (quoted quote depth).Keeps s := by
  cases h with
  | itself hc hb => exact keeps_quoted_of_ne hb hc
  | sign _ => exact keeps_hidden _
  | codePoint hp =>
    have hdigit := Quoted.isHexDigit_of_codePoint? hp
    have hkeep : ∀ d, Quoted.isHexDigit d = true ∨ d = '+' → (quoted quote depth).Keeps [d] := by
      intro d hd
      refine keeps_quoted_of_ne ?_ ?_
      · rintro rfl; revert hd; decide
      · rintro rfl
        rcases Quoted.isQuote_iff.mp hq with rfl | rfl <;> revert hd <;> decide
    rw [show ∀ w x y z : Char,
        ['\\', 'u', w, x, y, z] = ['\\', 'u'] ++ ([w] ++ ([x] ++ ([y] ++ [z])))
      from fun _ _ _ _ => rfl]
    refine (keeps_hidden _).append ((hkeep _ ?_).append ((hkeep _ ?_).append
      ((hkeep _ ?_).append (hkeep _ ?_)))) <;> exact hdigit _ (by simp)

/-- The body of a literal does not lead out of its quotes. -/
theorem keeps_spells (hq : isQuote quote = true) (h : Spells quote name s) :
    (quoted quote depth).Keeps s := by
  induction h with
  | nil => exact keeps_nil
  | cons hs _ ih => exact (keeps_spelling hq hs).append ih

/-- A literal changes nothing, whatever stands in it. -/
theorem keeps_literal (h : Literal s name) : (outside depth).Keeps s := by
  obtain ⟨quote, body, hq, hs, rfl⟩ := h
  obtain ⟨hpass, hafter⟩ : (quoted quote depth).Keeps body := keeps_spells hq hs
  have hopen : (outside depth).next quote = quoted quote depth := by simp [next, hq]
  have hclose : (quoted quote depth).next quote = outside depth := by
    simp [next, Quoted.ne_backslash_of_isQuote hq]
  have hne : quote ≠ ']' := by
    rintro rfl
    revert hq
    decide
  refine ⟨?_, ?_⟩
  · simp [hopen, hpass, hafter, hne]
  · simp [hopen, hafter, hclose]

/-! ## Blanks -/

theorem idle_of_isBlank (h : isBlank c = true) : Idle c where
  not_quote := by
    rw [Bool.eq_false_iff]
    intro hq
    rw [Quoted.isBlank_of_isQuote hq] at h
    cases h
  ne_open := Unicode.ne_of_isBlank h (by decide)
  ne_close := Unicode.ne_of_isBlank h (by decide)
  ne_bracket := Unicode.ne_of_isBlank h (by decide)

/-- Blanks outside of quotes change nothing. -/
theorem keeps_blanks (h : Unicode.Blanks s) : (outside depth).Keeps s :=
  keeps_idle fun c hc => idle_of_isBlank (h c hc)

/-- Blanks lead out of quotes as little as into them. -/
theorem after_blanks_eq_outside (hm : m.Proper) (h : Unicode.Blanks s) :
    m.after s = outside depth ↔ m = outside depth := by
  induction s generalizing m with
  | nil => rfl
  | cons c s ih =>
    have hc : isBlank c = true := h c (List.mem_cons_self ..)
    rw [after_cons, ih (hm.next c) fun d hd => h d (List.mem_cons_of_mem _ hd)]
    cases m with
    | outside d => rw [next_idle (idle_of_isBlank hc)]
    | quoted quote d =>
      have hq : c ≠ quote := by
        rintro rfl
        have := (idle_of_isBlank hc).not_quote
        rw [show isQuote c = true from hm] at this
        cases this
      have hb : c ≠ '\\' := Unicode.ne_of_isBlank hc (by decide)
      simp [next, hq, hb]
    | escaped quote d => simp [next]

theorem passes_trim (h : (outside depth).Passes s) : (outside depth).Passes (Unicode.trim s) := by
  obtain ⟨b, a, hb, -, he⟩ := Unicode.exists_blanks_trim s
  rw [he, passes_append, passes_append] at h
  have := h.1.2
  rwa [(keeps_blanks hb).2] at this

/-- The blanks around a text do not decide whether it leads out of all
quotes. -/
theorem after_trim_eq_outside {depth' : Nat} :
    (outside depth).after (Unicode.trim s) = outside depth' ↔
      (outside depth).after s = outside depth' := by
  obtain ⟨b, a, hb, ha, he⟩ := Unicode.exists_blanks_trim s
  have hafter : (outside depth).after s = ((outside depth).after (Unicode.trim s)).after a := by
    conv => lhs; rw [he]
    rw [after_append, after_append, (keeps_blanks hb).2]
  rw [hafter, after_blanks_eq_outside (proper_outside.after _) ha]

/-- Blanks around the content of closed brackets can be left out. -/
theorem closes_trim (h : (outside 0).Closes s) : (outside 0).Closes (Unicode.trim s) :=
  ⟨passes_trim h.1, after_trim_eq_outside.mpr h.2⟩

/-- A closing parenthesis leads out of everything only from below one
parenthesis, or none. -/
theorem outside_of_next_close (hm : m.Proper) (h : m.next ')' = outside 0) :
    ∃ depth ≤ 1, m = outside depth := by
  cases m with
  | outside depth =>
    have he : outside (depth - 1) = outside 0 := h
    exact ⟨depth, by injection he; omega, rfl⟩
  | quoted quote depth =>
    have hne : ')' ≠ quote := by
      rintro rfl
      exact absurd hm (by simp [Proper, Quoted.isQuote])
    simp [next, hne] at h
  | escaped quote depth => cases h

end Mode

/-! ## Splitting at the closing bracket -/

/-- Where a scan stands that reads on below `depth` parentheses, in quotes if
there are any. -/
def Mode.within : Option Char → Nat → Mode
  | none, depth => .outside depth
  | some quote, depth => .quoted quote depth

/-- A character that does not close belongs to what the closing bracket
closes. -/
theorem Mode.closes_split_cons {m : Mode} {c : Char} {text inside rest : List Char}
    (h : c = ']' → m ≠ outside 0) :
    (c :: text = inside ++ ']' :: rest ∧ m.Closes inside) ↔
      ∃ i, inside = c :: i ∧ text = i ++ ']' :: rest ∧ (m.next c).Closes i := by
  constructor
  · rintro ⟨he, hc⟩
    cases inside with
    | nil =>
      cases he
      exact absurd (closes_nil.mp hc) (h rfl)
    | cons d i =>
      cases he
      exact ⟨i, rfl, rfl, (closes_cons.mp hc).2⟩
  · rintro ⟨i, rfl, rfl, hc⟩
    exact ⟨rfl, closes_cons.mpr ⟨h, hc⟩⟩

/-- If the scan splits a text right from where `c` leads, it splits the text
with `c` before it. -/
theorem map_content_eq_ok_iff {m : Mode} {x : Except Fault (List Char × List Char)} {c : Char}
    {text inside rest : List Char} (hopen : c = ']' → m ≠ .outside 0)
    (hx : ∀ i, x = .ok (i, rest) ↔ text = i ++ ']' :: rest ∧ (m.next c).Closes i) :
    (x.map fun (i, text) => (c :: i, text)) = .ok (inside, rest) ↔
      c :: text = inside ++ ']' :: rest ∧ m.Closes inside := by
  rw [Mode.closes_split_cons hopen]
  simp only [← hx]
  constructor
  · intro h
    obtain ⟨⟨i, text'⟩, hi, he⟩ := eq_ok_of_map_eq_ok h
    cases he
    exact ⟨i, rfl, hi⟩
  · rintro ⟨i, rfl, hi⟩
    rw [hi]
    rfl

/-- One step inside of quotes, in the form in which the reader keeps the open
quote. -/
theorem Mode.next_quoted {quote c : Char} {depth : Nat} (hc : c ≠ '\\') :
    (Mode.quoted quote depth).next c =
      Mode.within (if c = quote then none else some quote) depth := by
  simp only [Mode.next, hc, ite_false]
  split_ifs <;> rfl

/-- One step outside of quotes, in the form in which the reader keeps the open
quote and counts parentheses. -/
theorem Mode.next_outside {c : Char} {depth : Nat} :
    (Mode.outside depth).next c =
      Mode.within (if isQuote c then some c else none)
        (if c = '(' then depth + 1 else if c = ')' then depth - 1 else depth) := by
  by_cases hq : isQuote c = true
  · rcases Quoted.isQuote_iff.mp hq with rfl | rfl <;> rfl
  · rw [if_neg hq, Mode.next, if_neg hq]
    show _ = Mode.outside _
    split_ifs <;> rfl

/-- **`content` splits a text at the first closing bracket outside of quotes and
parentheses**, and fails where there is none. -/
theorem content_eq_ok_iff {quote : Option Char} {depth : Nat} {text inside rest : List Char} :
    content quote depth text = .ok (inside, rest) ↔
      text = inside ++ ']' :: rest ∧ (Mode.within quote depth).Closes inside := by
  fun_induction content quote depth text generalizing inside rest with
  | case1 | case2 => simp
  | case3 quote depth =>
    -- a backslash at the end of the text hides nothing and closes nothing
    rw [Mode.closes_split_cons (by simp [Mode.within])]
    simp
  | case4 quote depth e text ih =>
    have hnext : (Mode.quoted quote depth).next '\\' = .escaped quote depth := by
      simp [Mode.next]
    -- the backslash and the character that it hides are taken one after the other
    have hhidden : ∀ i, ((content (some quote) depth text).map fun (i, text) => (e :: i, text)) =
        .ok (i, rest) ↔ e :: text = i ++ ']' :: rest ∧ (Mode.escaped quote depth).Closes i :=
      fun i => map_content_eq_ok_iff (by simp) fun _ => ih
    rw [← hnext] at hhidden
    refine Iff.trans ?_ (map_content_eq_ok_iff (by simp) hhidden)
    cases content (some quote) depth text <;> rfl
  | case5 quote depth c text hc ih =>
    exact map_content_eq_ok_iff (by simp [Mode.within]) fun i => by
      rw [show Mode.within (some quote) depth = .quoted quote depth from rfl, Mode.next_quoted hc]
      exact ih
  | case6 depth c text hc =>
    obtain ⟨rfl, rfl⟩ := hc
    constructor
    · intro h
      cases h
      exact ⟨rfl, Mode.closes_nil.mpr rfl⟩
    · rintro ⟨he, hclose⟩
      -- the bracket at the head is the one that closes, so nothing stands before it
      cases inside with
      | nil => cases he; rfl
      | cons d i =>
        cases he
        exact absurd rfl ((Mode.closes_cons.mp hclose).1 rfl)
  | case7 depth c text hc =>
    rename_i ih
    have hopen : c = ']' → Mode.within none depth ≠ .outside 0 := by
      rintro rfl h
      cases h
      exact hc ⟨rfl, rfl⟩
    exact map_content_eq_ok_iff hopen fun i => by
      rw [show Mode.within none depth = .outside depth from rfl, Mode.next_outside]
      exact ih

end DocPath.Bracket

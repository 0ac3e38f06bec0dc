import DocPath.Proofs.Text.Form
import DocPath.Proofs.Text.Trim

/-! # Where reading stops

A reader that refuses a text says why, and how many characters were left when it
met the fault.  Some faults name the character at fault.  `Stop.Tells` says that
such a character is indeed the next one there: this holds for literals
(`tells_of_read`), and what holds of the end of a text holds of the text
(`Stop.Tells.of_suffix`). -/

namespace DocPath

namespace Fault

/-- The character at fault, if the fault names it.  An error with such a fault
has a position that can be held against the text. -/
def named? : Fault → Option Char
  | strayBracket => some ']'
  | invalidEscape c | missingSeparator c _ | quoteInName c | noLiteral c | unexpected c => some c
  | _ => none

/-- Whether a text is refused for its size and not for what it says.  Such an
error has no position. -/
def isLimit : Fault → Bool
  | pathTooLong _ _ | tooManyFragments _ _ => true
  | _ => false

/-- A fault in what a text says that names no character.  Whatever the position
is, it cannot be wrong about one. -/
structure Unnamed (fault : Fault) : Prop where
  named? : fault.named? = none
  isLimit : fault.isLimit = false

end Fault

namespace Stop

/-- A stop is in what a text says, and a character that its fault names is the
next one in the text. -/
structure Tells (stop : Stop) (text : List Char) : Prop where
  isLimit : stop.fault.isLimit = false
  next : ∀ c, stop.fault.named? = some c →
    ∃ rest, c :: rest <:+ text ∧ stop.remaining = (c :: rest).length

variable {stop : Stop} {fault : Fault} {text whole rest : List Char} {c : Char} {n : Nat}

theorem tells_of_unnamed (h : fault.Unnamed) (n : Nat) (text : List Char) :
    Tells ⟨fault, n⟩ text where
  isLimit := h.isLimit
  next c hc := by rw [h.named?] at hc; cases hc

theorem tells_head (hc : fault.named? = some c) (hl : fault.isLimit = false) :
    Tells ⟨fault, (c :: rest).length⟩ (c :: rest) where
  isLimit := hl
  next d hd := by
    rw [hc] at hd
    cases hd
    exact ⟨rest, List.suffix_rfl, rfl⟩

/-- The end of a text tells of the whole text: what is left over from a stop is
counted from the end, which the two have in common. -/
theorem Tells.of_suffix (h : stop.Tells text) (hs : text <:+ whole) : stop.Tells whole where
  isLimit := h.isLimit
  next c hc := by
    obtain ⟨rest, hrest, hlen⟩ := h.next c hc
    exact ⟨rest, hrest.trans hs, hlen⟩

/-- The character that a fault names is the one at its position, counted from
the start of the text that the stop tells of. -/
theorem Tells.getElem?_position (h : stop.Tells text) (hc : stop.fault.named? = some c) :
    text[stop.position text.length]? = some c := by
  obtain ⟨rest, ⟨before, rfl⟩, hlen⟩ := h.next c hc
  have hposition : stop.position (before ++ c :: rest).length = before.length := by
    rw [position, hlen, List.length_append]
    omega
  rw [hposition]
  simp

end Stop

namespace Quoted

variable {quote : Char} {start : Nat} {text : List Char} {stop : Stop}

/-- A literal that is refused is refused right where it goes wrong: at the sign
after a backslash, or without naming a character. -/
theorem tells_of_read (hq : quote ≠ '\\') (h : read quote start text = .error stop) :
    stop.Tells text := by
  obtain ⟨cs, body, tail, -, rfl, hrefused⟩ := (read_eq_error_iff hq).mp h
  have htail : stop.Tells tail := by
    cases hrefused with
    | unclosed | cut | short _ | code _ _ => exact Stop.tells_of_unnamed ⟨rfl, rfl⟩ _ _
    | sign _ _ => exact (Stop.tells_head rfl rfl).of_suffix (List.suffix_cons _ _)
  exact htail.of_suffix (List.suffix_append _ _)

end Quoted

namespace Unicode

/-- The number of blanks before a text begins, by which positions in a trimmed
text fall short of those in the text itself. -/
def margin (cs : List Char) : Nat := (cs.takeWhile isBlank).length

/-- What stands in the trimmed text stands further back in the text itself. -/
theorem getElem?_margin {cs : List Char} {n : Nat} {c : Char} (h : (trim cs)[n]? = some c) :
    cs[margin cs + n]? = some c := by
  obtain ⟨a, -, ha⟩ := exists_trimEnd_blanks (trimStart cs)
  have hcs : cs = cs.takeWhile isBlank ++ (trim cs ++ a) := by
    rw [trim, ← ha]
    exact List.takeWhile_append_dropWhile.symm
  have hn : n < (trim cs).length := (List.getElem?_eq_some_iff.mp h).1
  generalize hb : cs.takeWhile isBlank = b at hcs
  have hmargin : margin cs = b.length := congrArg List.length hb
  rw [hmargin, hcs, List.getElem?_append_right (Nat.le_add_right _ _), Nat.add_sub_cancel_left,
    List.getElem?_append_left hn, h]

end Unicode

end DocPath

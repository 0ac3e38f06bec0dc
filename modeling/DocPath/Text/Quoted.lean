import DocPath.Fault
import DocPath.Unicode.RangeTable

/-! # Quoted literals

A literal stands between two single or two double quotes.  Inside, a backslash
introduces an escape; every other character but the closing quote stands for
itself. -/

namespace DocPath.Quoted

/-- Whether a character can open a literal. -/
def isQuote (c : Char) : Bool := c == '\'' || c == '"'

/-- What a character after a backslash stands for, unless it opens a longer
escape. -/
def escaped? : Char → Option Char
  | '\'' => some '\''
  | '"' => some '"'
  | '\\' => some '\\'
  | '/' => some '/'
  | 'b' => some '\x08'
  | 'f' => some '\x0C'
  | 'n' => some '\n'
  | 'r' => some '\r'
  | 't' => some '\t'
  | _ => none

def isHexDigit (c : Char) : Bool :=
  ('0' ≤ c && c ≤ '9') || ('a' ≤ c && c ≤ 'f') || ('A' ≤ c && c ≤ 'F')

/-- The number of hexadecimal digits, of which there has to be one, after an
optional plus sign. -/
def hexNumber? (cs : List Char) : Option Nat :=
  let digits := match cs with
    | '+' :: rest => rest
    | cs => cs
  if !digits.isEmpty && digits.all isHexDigit then
    some (digits.foldl (fun n c => 16 * n + Unicode.hexDigitValue c) 0)
  else none

/-- The character with the code point that hexadecimal digits write. -/
def codePoint? (cs : List Char) : Option Char :=
  (hexNumber? cs).bind fun n => if n.isValidChar then some (Char.ofNat n) else none

/-- Reads a literal from after its opening quote on, up to its closing quote,
and gives its characters and the text after it.  `start` is the number of
characters that were left to read at the opening quote, where a missing closing
quote is reported. -/
def read (quote : Char) (start : Nat) : List Char → Except Stop (List Char × List Char)
  | [] => .error ⟨.unterminatedQuote, start⟩
  | c :: rest =>
    if c = quote then .ok ([], rest)
    else if c = '\\' then
      match rest with
      | [] => .error ⟨.unterminatedQuote, start⟩
      | e :: after =>
        match escaped? e with
        | some d => (read quote start after).map fun (cs, text) => (d :: cs, text)
        | none =>
          if e = 'u' then
            match after with
            | a :: b :: c :: d :: after =>
              match codePoint? [a, b, c, d] with
              | some d => (read quote start after).map fun (cs, text) => (d :: cs, text)
              | none => .error ⟨.invalidUnicode, rest.length⟩
            | _ => .error ⟨.incompleteUnicode, rest.length⟩
          else .error ⟨.invalidEscape e, rest.length⟩
    else (read quote start rest).map fun (cs, text) => (c :: cs, text)

/-- What follows a literal is shorter than what followed its opening quote. -/
theorem read_length {quote : Char} {start : Nat} {text : List Char} {cs rest : List Char}
    (h : read quote start text = .ok (cs, rest)) : rest.length < text.length := by
  fun_induction read quote start text generalizing cs rest with
  | case1 => simp at h
  | case2 => simp_all
  | case3 => simp at h
  | case4 | case5 | case9 =>
    rename_i ih
    obtain ⟨⟨cs, t⟩, hr, he⟩ := eq_ok_of_map_eq_ok h
    have := ih hr
    simp_all; omega
  | case6 => simp at h
  | case7 => simp at h
  | case8 => simp at h

end DocPath.Quoted

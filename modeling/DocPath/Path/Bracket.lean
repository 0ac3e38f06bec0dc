import DocPath.Path.Fragment
import DocPath.Text.Quoted
import DocPath.Unicode.Blank

/-! # Bracketed fragments

`content` finds the closing bracket of a fragment, past brackets that stand in
quotes or parentheses.  `classify` reads the content: a quoted name, a wildcard,
a predicate, a slice, or one or more indices. -/

namespace DocPath.Bracket

open Unicode (trim trimStart)

/-- A fault in the content of brackets: at a place in the content, or else at
the brackets. -/
structure ContentStop where
  fault : Fault
  position : Option Nat := none
deriving DecidableEq, Repr

/-- Splits the text after an opening bracket at its closing bracket, the first
one outside of quotes and parentheses.  Inside quotes a backslash hides the
character after it; a closing parenthesis too many is no matter. -/
def content : Option Char → Nat → List Char → Except Fault (List Char × List Char)
  | none, _, [] => .error .unterminatedBracket
  | some _, _, [] => .error .unterminatedQuote
  | some q, depth, c :: rest =>
    if c = '\\' then
      match rest with
      | [] => .error .unterminatedQuote
      | e :: after =>
        (content (some q) depth after).map fun (inside, text) => (c :: e :: inside, text)
    else
      (content (if c = q then none else some q) depth rest).map
        fun (inside, text) => (c :: inside, text)
  | none, depth, c :: rest =>
    if c = ']' ∧ depth = 0 then .ok ([], rest)
    else
      let quote := if Quoted.isQuote c then some c else none
      let depth := if c = '(' then depth + 1 else if c = ')' then depth - 1 else depth
      (content quote depth rest).map fun (inside, text) => (c :: inside, text)

/-- What follows the closing bracket is shorter than what followed the opening
one. -/
theorem content_length {quote : Option Char} {depth : Nat} {text inside rest : List Char}
    (h : content quote depth text = .ok (inside, rest)) : rest.length < text.length := by
  fun_induction content quote depth text generalizing inside rest with
  | case1 | case2 | case3 => simp at h
  | case6 => simp_all
  | _ =>
    rename_i ih
    obtain ⟨⟨cs, t⟩, hr, he⟩ := eq_ok_of_map_eq_ok h
    have := ih hr
    simp_all
    try omega

/-- The parts of a text between its commas. -/
def splitCommas : List Char → List (List Char)
  | [] => [[]]
  | c :: rest =>
    if c = ',' then [] :: splitCommas rest
    else match splitCommas rest with
      | [] => [[c]]
      | part :: parts => (c :: part) :: parts

/-- The index that a text writes. -/
def index (text : List Char) : Except ContentStop Int64 :=
  match int64OfText? text with
  | some n => .ok n
  | none => .error { fault := .unrecognizedSegment (String.ofList text) }

/-- The bound of a slice, which may be left out. -/
def bound (text : List Char) : Except ContentStop (Option Int64) :=
  match trim text with
  | [] => .ok none
  | text => (index text).map some

/-- The name in quotes, with nothing after it; `literal` includes its opening
quote. -/
def quotedName (quote : Char) (literal : List Char) : Except ContentStop Fragment :=
  match Quoted.read quote literal.length literal.tail with
  | .error stop => .error ⟨stop.fault, some (stop.position literal.length)⟩
  | .ok (name, []) => .ok (.property (String.ofList name))
  | .ok (_, _ :: _) => .error { fault := .contentAfterQuote (String.ofList literal) }

/-- What follows the question mark of a predicate: nothing, or an expression in
parentheses. -/
def predicate (text : List Char) : Except ContentStop Fragment :=
  let rest := trimStart text
  let malformed : Except ContentStop Fragment :=
    .error { fault := .malformedPredicate (String.ofList rest) }
  match rest with
  | [] => .ok .placeholder
  | '(' :: inner =>
    if inner.getLast? = some ')' then
      match trim inner.dropLast with
      | [] => malformed
      | expression => .ok (.expression (String.ofList expression))
    else malformed
  | _ => malformed

/-- A slice; `content` holds a colon. -/
def slice (content : List Char) : Except ContentStop Fragment :=
  let (start, stop) := (content.takeWhile (· != ':'), (content.dropWhile (· != ':')).tail)
  if stop.contains ':' then .error { fault := .sliceStep (String.ofList content) }
  else do
    let start ← bound start
    let stop ← bound stop
    pure (.slice start stop)

/-- The fragment that the content of brackets stands for. -/
def classify (content : List Char) : Except ContentStop Fragment :=
  match trim content with
  | [] => .error { fault := .emptyBrackets }
  | '\'' :: rest => quotedName '\'' ('\'' :: rest)
  | '"' :: rest => quotedName '"' ('"' :: rest)
  | ['*'] => .ok .wildcard
  | '?' :: rest => predicate rest
  | trimmed =>
    if trimmed.contains ':' then slice trimmed
    else if trimmed.contains ',' then
      ((splitCommas trimmed).mapM fun part => index (trim part)).map .indices
    else (index trimmed).map .index

end DocPath.Bracket

import DocPath.Regex.Reader.ClassReader

/-! # Reading patterns

`Tree.read?` reads the text of a pattern.  It goes through the text once and
keeps the groups and alternatives that are still open on a stack; a text that
leaves a group open, closes one that is not open or repeats nothing has no
tree. -/

namespace DocPath.Regex.Reader

/-- What encloses the items that are being read: an open group with the items
left of it and the mode to go back to, or the finished alternatives of a
branch. -/
inductive OpenTree where
  | group (outer : List Tree) (changes : List FlagChange) (verbose : Bool)
  | branches (finished : List Tree)

/-- Where the reader stands: the open trees, the items of the innermost one from
the last to the first, whether blanks and comments are passed over, and the
group names in use. -/
structure Reading where
  stack : List OpenTree := []
  items : List Tree := []
  verbose : Bool := false
  names : List (List Char) := []

/-- The flags up to the colon or parenthesis that ends them, with that
character.  No flag and no second minus sign may repeat, and a minus sign needs
a flag after it. -/
def flags? (changes : List FlagChange) (negated afterMinus : Bool) :
    List Char → Option (List FlagChange × Char × List Char)
  | [] => none
  | c :: rest =>
    if c = ':' ∨ c = ')' then
      if afterMinus then none else some (changes.reverse, c, rest)
    else if c = '-' then
      if negated then none else flags? changes true true rest
    else match Flag.ofChar? c with
      | none => none
      | some flag =>
        if changes.any (·.1 == flag) then none
        else flags? ((flag, !negated) :: changes) negated false rest

/-- The name of a group up to its closing angle bracket. -/
def groupName? : List Char → Option (List Char × List Char)
  | [] => none
  | c :: rest =>
    let isFirst (c : Char) : Bool := c == '_' || Unicode.isAlphabetic c
    let isLater (c : Char) : Bool :=
      c == '_' || c == '.' || c == '[' || c == ']' || Unicode.isAlphanumeric c
    if isFirst c then
      match rest.span isLater with
      | (name, '>' :: after) => some (c :: name, after)
      | _ => none
    else none

/-- The value that changes give to a flag, if they name it. -/
def valueOf? (changes : List FlagChange) (flag : Flag) : Option Bool :=
  changes.lookup flag

namespace Reading

/-- Adds an item to the innermost open tree. -/
def push (s : Reading) (item : Tree) : Reading :=
  { s with items := item :: s.items }

/-- Opens a group. -/
def openGroup (s : Reading) (changes : List FlagChange) : Reading :=
  { s with
    stack := .group s.items changes s.verbose :: s.stack
    items := []
    verbose := (valueOf? changes .verbose).getD s.verbose }

/-- Opens a group with a name that no other group has. -/
def openNamedGroup? (s : Reading) (text : List Char) : Option (Reading × List Char) := do
  let (name, rest) ← groupName? text
  if s.names.contains name then none
  else some ({ s.openGroup [] with names := name :: s.names }, rest)

/-- What an opening parenthesis introduces: a group, or flags that hold up to
the end of the group around them.  Groups that look ahead or behind are
refused. -/
def open? (s : Reading) (text : List Char) : Option (Reading × List Char) :=
  match skip s.verbose text with
  | '?' :: '=' :: _ | '?' :: '!' :: _ | '?' :: '<' :: '=' :: _ | '?' :: '<' :: '!' :: _ => none
  | '?' :: 'P' :: '<' :: rest | '?' :: '<' :: rest => s.openNamedGroup? rest
  | '?' :: rest => do
    let (changes, last, rest) ← flags? [] false false rest
    if last = ':' then some (s.openGroup changes, rest)
    else if changes.isEmpty then none
    else
      some ({ s.push (.flags changes) with
        verbose := (valueOf? changes .verbose).getD s.verbose }, rest)
  | rest => some (s.openGroup [], rest)

/-- The innermost branch as a tree, joined to the alternatives left of it. -/
def closeBranches (s : Reading) : Tree × List OpenTree :=
  let branch := Tree.ofItems s.items
  match s.stack with
  | .branches finished :: stack => (.alternation (branch :: finished).reverse, stack)
  | stack => (branch, stack)

/-- Closes the innermost group. -/
def close? (s : Reading) : Option Reading :=
  match s.closeBranches with
  | (body, .group outer changes verbose :: stack) =>
    some { s with stack, items := .group changes body :: outer, verbose }
  | _ => none

/-- Starts the next alternative. -/
def branch (s : Reading) : Reading :=
  let branch := Tree.ofItems s.items
  match s.stack with
  | .branches finished :: stack =>
    { s with stack := .branches (branch :: finished) :: stack, items := [] }
  | stack => { s with stack := .branches [branch] :: stack, items := [] }

/-- Repeats the last item, which must be something other than flags. -/
def repeat? (s : Reading) (min : Nat) (max : Option Nat) : Option Reading :=
  match s.items with
  | [] | .flags _ :: _ => none
  | item :: items => some { s with items := .repetition min max item :: items }

/-- The tree of all that was read, provided that no group is open. -/
def finish? (s : Reading) : Option Tree :=
  match s.closeBranches with
  | (tree, []) => some tree
  | _ => none

end Reading

/-- The greatest number of repetitions that can be written. -/
def maxCount : Nat := UInt32.size - 1

/-- The number of repetitions at the head of the text, with the blanks around
it. -/
def count? (verbose : Bool) (text : List Char) : Option (Nat × List Char) :=
  let (digits, rest) := run verbose Char.isDigit (text.dropWhile Unicode.isBlank)
  let n := digits.foldl (fun n c => 10 * n + (c.toNat - '0'.toNat)) 0
  if digits.isEmpty || n > maxCount then none
  else some (n, rest.dropWhile Unicode.isBlank)

/-- The bounds of a repetition, after its opening brace: exactly so many, at
least so many, or from so many to so many. -/
def bounds? (verbose : Bool) (text : List Char) : Option ((Nat × Option Nat) × List Char) := do
  let (min, rest) ← count? verbose (skip verbose text)
  match rest with
  | '\x7D' :: after => some ((min, some min), after)
  | ',' :: rest =>
    match skip verbose rest with
    | '\x7D' :: after => some ((min, none), after)
    | rest => do
      let (max, rest) ← count? verbose rest
      match rest with
      | '\x7D' :: after => if min ≤ max then some ((min, some max), after) else none
      | _ => none
  | _ => none

/-- The text without the sign that makes the repetition before it prefer fewer
rounds, which changes nothing about whether a text matches. -/
def skipLazySign : List Char → List Char
  | '?' :: rest => rest
  | text => text

/-- Reads the text to its end. -/
def readAll? : Nat → Reading → List Char → Option Tree
  | 0, _, _ => none
  | fuel + 1, s, text =>
    match skip s.verbose text with
    | [] => s.finish?
    | '(' :: rest => do
      let (s, rest) ← s.open? rest
      readAll? fuel s rest
    | ')' :: rest => do readAll? fuel (← s.close?) rest
    | '|' :: rest => readAll? fuel s.branch rest
    | '[' :: rest => do
      let (item, rest) ← class? s.verbose rest
      readAll? fuel (s.push item) rest
    | '?' :: rest => do readAll? fuel (← s.repeat? 0 (some 1)) (skipLazySign rest)
    | '*' :: rest => do readAll? fuel (← s.repeat? 0 none) (skipLazySign rest)
    | '+' :: rest => do readAll? fuel (← s.repeat? 1 none) (skipLazySign rest)
    | '\x7B' :: rest => do
      let ((min, max), rest) ← bounds? s.verbose rest
      readAll? fuel (← s.repeat? min max) (skipLazySign (skip s.verbose rest))
    | '\\' :: rest => do
      let (item, rest) ← escape? s.verbose rest
      readAll? fuel (s.push item) rest
    | '.' :: rest => readAll? fuel (s.push .dot) rest
    | '^' :: rest => readAll? fuel (s.push (.assertion .lineStart)) rest
    | '$' :: rest => readAll? fuel (s.push (.assertion .lineEnd)) rest
    | c :: rest => readAll? fuel (s.push (.literal ⟨c, false⟩)) rest

end Reader

/-- The tree of a pattern, unless its text is no pattern. -/
def Tree.read? (text : List Char) : Option Tree :=
  Reader.readAll? (text.length + 1) {} text

end DocPath.Regex

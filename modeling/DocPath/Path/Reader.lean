import DocPath.Config
import DocPath.Path.Bracket

/-! # Reading paths

A path is a row of dots, brackets and names.  `Fragment.ofText` gives its
fragments, of which the first is the root whether or not the path opens with
`$`.  One dot separates, two descend; a closed bracket and a quoted name need a
separator or the end of the path after them. -/

namespace DocPath

open Unicode (trim)

/-- A fault in a path: so many characters before its end, or at a place in the
content of brackets. -/
inductive PathStop where
  | outside (stop : Stop)
  | inBrackets (fault : Fault) (position : Nat)
deriving DecidableEq, Repr

namespace PathStop

def fault : PathStop → Fault
  | outside stop => stop.fault
  | inBrackets fault _ => fault

/-- The position that is reported for a path of the given length. -/
def position (length : Nat) : PathStop → Nat
  | outside stop => stop.position length
  | inBrackets _ position => position

end PathStop

namespace PathReader

/-- A fault at the head of the text that is left. -/
def fail {α : Type} (fault : Fault) (text : List Char) : Except PathStop α :=
  .error (.outside ⟨fault, text.length⟩)

/-- Whether a character ends a bare name. -/
def endsName (c : Char) : Bool := c == '.' || c == '[' || c == ']'

/-- The text after something closed, which has to open with a separator or be
empty. -/
def separated (after : Closed) : List Char → Except PathStop Unit
  | [] | '.' :: _ | '[' :: _ => .ok ()
  | c :: rest => fail (.missingSeparator c after) (c :: rest)

/-- Dots at the head of a text, and the text after them. -/
def dots (text : List Char) : Except PathStop (List Fragment × List Char) :=
  let run := text.takeWhile (· == '.')
  let rest := text.dropWhile (· == '.')
  match run.length with
  | 1 => .ok ([], rest)
  | 2 => .ok ([.descent], rest)
  | n => fail (.dots n) text

/-- The bracketed fragment at the head of a text; `rest` is what follows its
opening bracket. -/
def bracket (rest : List Char) : Except PathStop (List Fragment × List Char) :=
  let text := '[' :: rest
  match Bracket.content none 0 rest with
  | .error fault => fail fault text
  | .ok (content, after) =>
    match Bracket.classify content with
    | .error ⟨fault, none⟩ => fail fault text
    | .error ⟨fault, some position⟩ => .error (.inBrackets fault position)
    | .ok fragment => (separated .bracket after).map fun _ => ([fragment], after)

/-- The quoted name at the head of a text; `rest` is what follows its opening
quote. -/
def quotedName (quote : Char) (rest : List Char) : Except PathStop (List Fragment × List Char) :=
  match Quoted.read quote (rest.length + 1) rest with
  | .error stop => .error (.outside stop)
  | .ok (name, after) =>
    (separated .quotedName after).map fun _ => ([.property (String.ofList name)], after)

/-- The bare name at the head of a text.  Blanks around a name do not belong to
it, and a name cannot hold quotes. -/
def bareName (text : List Char) : Except PathStop (List Fragment × List Char) :=
  let isNameChar (c : Char) : Bool := !endsName c && !Quoted.isQuote c
  let raw := text.takeWhile isNameChar
  match text.dropWhile isNameChar with
  | c :: rest =>
    if Quoted.isQuote c then fail (.quoteInName c) (c :: rest)
    else named raw (c :: rest)
  | [] => named raw []
where
  named (raw rest : List Char) : Except PathStop (List Fragment × List Char) :=
    match trim raw with
    | [] => fail .emptyName text
    | ['*'] => .ok ([.wildcard], rest)
    | name => .ok ([.property (String.ofList name)], rest)

/-- The next item of a path, none or one fragment, and the text after it. -/
def item : List Char → Except PathStop (List Fragment × List Char)
  | [] => .ok ([], [])
  | '.' :: rest => dots ('.' :: rest)
  | '[' :: rest => bracket rest
  | ']' :: rest => fail .strayBracket (']' :: rest)
  | '\'' :: rest => quotedName '\'' rest
  | '"' :: rest => quotedName '"' rest
  | text => bareName text

theorem length_dropWhile_le (p : Char → Bool) (text : List Char) :
    (text.dropWhile p).length ≤ text.length :=
  (List.dropWhile_sublist p).length_le

theorem dots_length {rest' rest : List Char} {fs : List Fragment}
    (h : dots ('.' :: rest') = .ok (fs, rest)) : rest.length < ('.' :: rest').length := by
  have hle := length_dropWhile_le (· == '.') rest'
  have hd : ('.' :: rest').dropWhile (· == '.') = rest'.dropWhile (· == '.') := by simp
  simp only [dots, hd] at h
  split at h
  · cases h; simp; omega
  · cases h; simp; omega
  · simp [fail] at h

theorem bracket_length {rest' rest : List Char} {fs : List Fragment}
    (h : bracket rest' = .ok (fs, rest)) : rest.length < rest'.length := by
  simp only [bracket] at h
  split at h
  · simp [fail] at h
  · rename_i hc
    have := Bracket.content_length hc
    split at h
    · simp [fail] at h
    · simp at h
    · obtain ⟨_, _, he⟩ := eq_ok_of_map_eq_ok h
      simp_all

theorem quotedName_length {quote : Char} {rest' rest : List Char} {fs : List Fragment}
    (h : quotedName quote rest' = .ok (fs, rest)) : rest.length < rest'.length := by
  simp only [quotedName] at h
  split at h
  · simp at h
  · rename_i hc
    have := Quoted.read_length hc
    obtain ⟨_, _, he⟩ := eq_ok_of_map_eq_ok h
    simp_all

/-- A bare name that is read takes a character, as its trimmed text is not
empty. -/
theorem bareName_length {text rest : List Char} {fs : List Fragment}
    (h : bareName text = .ok (fs, rest)) : rest.length < text.length := by
  have hraw : ∀ raw after : List Char, bareName.named text raw after = .ok (fs, rest) →
      rest = after ∧ raw ≠ [] := by
    intro raw after hn
    simp only [bareName.named] at hn
    split at hn
    · simp [fail] at hn
    all_goals
      refine ⟨by simp_all, ?_⟩
      rintro rfl
      simp_all [Unicode.trim, Unicode.trimStart, Unicode.trimEnd]
  have hlen := congrArg List.length
    (List.takeWhile_append_dropWhile (p := fun c => !endsName c && !Quoted.isQuote c) (l := text))
  simp only [bareName] at h
  split at h
  · rename_i hd
    split at h
    · simp [fail] at h
    · obtain ⟨rfl, hne⟩ := hraw _ _ h
      have := List.length_pos_iff.mpr hne
      rw [List.length_append, hd] at hlen
      omega
  · rename_i hd
    obtain ⟨rfl, hne⟩ := hraw _ _ h
    have := List.length_pos_iff.mpr hne
    rw [List.length_append, hd] at hlen
    omega

/-- Every item of a path takes at least one character. -/
theorem item_length {c : Char} {cs rest : List Char} {fs : List Fragment}
    (h : item (c :: cs) = .ok (fs, rest)) : rest.length < (c :: cs).length := by
  unfold item at h
  split at h
  case h_1 => contradiction
  case h_2 heq => cases heq; exact dots_length h
  case h_3 heq => cases heq; have := bracket_length h; simp; omega
  case h_4 => simp [fail] at h
  case h_5 heq => cases heq; have := quotedName_length h; simp; omega
  case h_6 heq => cases heq; have := quotedName_length h; simp; omega
  case h_7 => exact bareName_length h

/-- The fragments of the items of a text. -/
def scan : List Char → Except PathStop (List Fragment)
  | [] => .ok []
  | c :: cs =>
    match _hi : item (c :: cs) with
    | .error stop => .error stop
    | .ok (fragments, rest) => (scan rest).map (fragments ++ ·)
termination_by text => text.length
decreasing_by exact item_length _hi

/-- The fragments of a path without blanks around it. -/
def path : List Char → Except PathStop (List Fragment)
  | [] => fail .emptyPath []
  | '$' :: rest => (scan rest).map (.root :: ·)
  | text => (scan text).map (.root :: ·)

end PathReader

namespace Fragment

/-- The fragments of a path.  Blanks around a path do not belong to it. -/
def ofText (source : String) : Except Error (List Fragment) :=
  let text := trim source.toList
  match PathReader.path text with
  | .error stop => .error (.invalidPath source stop.fault (some (stop.position text.length)))
  | .ok fragments => .ok fragments

/-- The fragments of a path that is no longer than the limit, blanks
included. -/
def ofTextWithin (config : Config) (source : String) : Except Error (List Fragment) :=
  if config.maxPathLength.toNat < source.length then
    .error (.invalidPath source (.pathTooLong source.length config.maxPathLength.toNat) none)
  else ofText source

end Fragment

end DocPath

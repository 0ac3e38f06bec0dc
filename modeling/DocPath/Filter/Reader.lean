import DocPath.Filter.Basic
import DocPath.Number.Decimal
import DocPath.Text.Quoted
import DocPath.Unicode.Blank

/-! # Reading predicates

A predicate written in a path is a conjunction of terms joined by `&&`.  A term
names a property of the node `@` and compares it with a literal, or asks whether
it is there; `!` asks whether it is absent.  `Filter.ofText` reads a predicate
as a filter. -/

namespace DocPath

open Unicode (isBlank trimStart)

/-- A fault in a predicate.  One inside a quoted literal is reported for the
bare text of the predicate. -/
structure PredicateStop where
  stop : Stop
  inLiteral : Bool := false
deriving DecidableEq, Repr

namespace PredicateReader

/-- A fault at the head of the text that is left. -/
def fail {α : Type} (fault : Fault) (text : List Char) : Except PredicateStop α :=
  .error { stop := ⟨fault, text.length⟩ }

/-- The signs that end a name, besides blanks. -/
def endsName (c : Char) : Bool :=
  isBlank c || "=!<>&|.[]()".toList.contains c

/-- The literal in quotes at the head of a text; `rest` is what follows its
opening quote. -/
def quoted (quote : Char) (rest : List Char) : Except PredicateStop (List Char × List Char) :=
  match Quoted.read quote (rest.length + 1) rest with
  | .error stop => .error { stop, inLiteral := true }
  | .ok result => .ok result

/-- The quoted literal at the head of a text, if it opens with a quote. -/
def quoted? : List Char → Option (Except PredicateStop (List Char × List Char))
  | '\'' :: rest => some (quoted '\'' rest)
  | '"' :: rest => some (quoted '"' rest)
  | _ => none

/-- The property that follows `@`: a name after a dot, or a quoted name in
brackets. -/
def accessor : List Char → Except PredicateStop (String × List Char)
  | '.' :: rest =>
    match rest.takeWhile (!endsName ·) with
    | [] => fail .expectedName rest
    | name => .ok (String.ofList name, rest.dropWhile (!endsName ·))
  | '[' :: rest =>
    let inside := trimStart rest
    match quoted? inside with
    | none => fail .expectedQuotedName inside
    | some (.error stop) => .error stop
    | some (.ok (name, rest)) =>
      match trimStart rest with
      | ']' :: rest => .ok (String.ofList name, rest)
      | rest => fail .expectedClosingBracket rest
  | text => fail .expectedAccessor text

/-- The comparison at the head of a text, the longest there is. -/
def comparison? : List Char → Option ((Value → Operator) × List Char)
  | '=' :: '=' :: rest => some (.equalTo, rest)
  | '!' :: '=' :: rest => some (.notEqualTo, rest)
  | '<' :: '=' :: rest => some (.lessOrEqual, rest)
  | '>' :: '=' :: rest => some (.greaterOrEqual, rest)
  | '<' :: rest => some (.less, rest)
  | '>' :: rest => some (.greater, rest)
  | _ => none

/-- The characters that numbers are written with. -/
def isNumberChar (c : Char) : Bool :=
  c.isDigit || c == '.' || c == 'e' || c == 'E' || c == '+' || c == '-'

/-- The number that a text writes: floating point if it holds a point or an
exponent, otherwise an integer of the narrower width that it fits. -/
def numberOfText? (text : List Char) : Option Value :=
  if text.any fun c => c == '.' || c == 'e' || c == 'E' then
    (Binary64.ofText? text).map .double
  else
    (int64OfText? text).map fun n =>
      match int32OfInt? n.toInt with
      | some k => .int k
      | none => .long n

/-- The number at the head of a text. -/
def number (text : List Char) : Except PredicateStop (Value × List Char) :=
  let run := text.takeWhile isNumberChar
  let rest := text.dropWhile isNumberChar
  match numberOfText? run with
  | some v => .ok (v, rest)
  | none => fail (.invalidNumber (String.ofList run)) rest

/-- The value that a word stands for. -/
def valueOfWord? : String → Option Value
  | "true" => some (.bool true)
  | "false" => some (.bool false)
  | "null" => some .null
  | _ => none

/-- The word at the head of a text. -/
def word (text : List Char) : Except PredicateStop (Value × List Char) :=
  let run := String.ofList (text.takeWhile Char.isAlpha)
  let rest := text.dropWhile Char.isAlpha
  match valueOfWord? run with
  | some v => .ok (v, rest)
  | none => fail (.unknownWord run) rest

/-- The literal at the head of a text. -/
def literal (text : List Char) : Except PredicateStop (Value × List Char) :=
  match quoted? text with
  | some result => result.map fun (cs, rest) => (.string (String.ofList cs), rest)
  | none =>
    match text with
    | [] => fail .expectedLiteral []
    | c :: rest =>
      if c = '-' ∨ c.isDigit then number (c :: rest)
      else if c.isAlpha then word (c :: rest)
      else fail (.noLiteral c) (c :: rest)

/-- What follows the property of a term: a comparison, or nothing, which asks
for presence. -/
def comparisonOf (key : String) (negated : Bool) (text : List Char) :
    Except PredicateStop (Criterion × List Char) :=
  match comparison? text with
  | none => .ok (⟨key, .present !negated⟩, text)
  | some (operator, rest) =>
    if negated then fail .negatedComparison rest
    else (literal (trimStart rest)).map fun (operand, rest) => (⟨key, operator operand⟩, rest)

/-- The term at the head of a text, after its sign of negation. -/
def termOf (negated : Bool) (text : List Char) : Except PredicateStop (Criterion × List Char) :=
  match trimStart text with
  | '@' :: rest =>
    match accessor rest with
    | .error stop => .error stop
    | .ok (_, '.' :: rest) => fail .nestedAccessor ('.' :: rest)
    | .ok (_, '[' :: rest) => fail .nestedAccessor ('[' :: rest)
    | .ok (key, rest) => comparisonOf key negated (trimStart rest)
  | rest => fail .expectedNode rest

/-- The term at the head of a text. -/
def term : List Char → Except PredicateStop (Criterion × List Char)
  | '!' :: rest => termOf true rest
  | text => termOf false text

theorem trimStart_length (text : List Char) : (trimStart text).length ≤ text.length :=
  (List.dropWhile_sublist _).length_le

theorem quoted_length {quote : Char} {rest' cs rest : List Char}
    (h : quoted quote rest' = .ok (cs, rest)) : rest.length < rest'.length := by
  simp only [quoted] at h
  split at h
  · simp at h
  · rename_i hr
    cases h
    exact Quoted.read_length hr

theorem quoted?_length {text cs rest : List Char}
    (h : quoted? text = some (.ok (cs, rest))) : rest.length < text.length := by
  unfold quoted? at h
  split at h
  · have := quoted_length (Option.some.inj h); simp; omega
  · have := quoted_length (Option.some.inj h); simp; omega
  · simp at h

theorem accessor_length {text rest : List Char} {key : String}
    (h : accessor text = .ok (key, rest)) : rest.length ≤ text.length := by
  unfold accessor at h
  split at h
  · split at h
    · simp [fail] at h
    · rename_i r _ _
      have := (List.dropWhile_sublist (!endsName ·) (l := r)).length_le
      cases h
      simp
      omega
  · rename_i r
    have hin := trimStart_length r
    simp only at h
    split at h
    · simp [fail] at h
    · simp at h
    · rename_i after hq
      have hlen := quoted?_length hq
      have hafter := trimStart_length after
      split at h
      · rename_i heq
        rw [heq] at hafter
        cases h
        simp at hafter ⊢
        omega
      · simp [fail] at h
  · simp [fail] at h

theorem number_length {text rest : List Char} {v : Value}
    (h : number text = .ok (v, rest)) : rest.length ≤ text.length := by
  simp only [number] at h
  split at h
  · cases h; exact (List.dropWhile_sublist _).length_le
  · simp [fail] at h

theorem word_length {text rest : List Char} {v : Value}
    (h : word text = .ok (v, rest)) : rest.length ≤ text.length := by
  simp only [word] at h
  split at h
  · cases h; exact (List.dropWhile_sublist _).length_le
  · simp [fail] at h

theorem literal_length {text rest : List Char} {v : Value}
    (h : literal text = .ok (v, rest)) : rest.length ≤ text.length := by
  unfold literal at h
  split at h
  · rename_i result hq
    obtain ⟨⟨cs, r⟩, rfl, he⟩ := eq_ok_of_map_eq_ok h
    have := quoted?_length hq
    cases he
    omega
  · split at h
    · simp [fail] at h
    · split at h
      · exact number_length h
      · split at h
        · exact word_length h
        · simp [fail] at h

theorem comparison?_length {text rest : List Char} {operator : Value → Operator}
    (h : comparison? text = some (operator, rest)) : rest.length ≤ text.length := by
  unfold comparison? at h
  split at h <;> simp_all <;> omega

theorem comparisonOf_length {key : String} {negated : Bool} {text rest : List Char}
    {c : Criterion} (h : comparisonOf key negated text = .ok (c, rest)) :
    rest.length ≤ text.length := by
  unfold comparisonOf at h
  split at h
  · cases h; exact Nat.le_refl _
  · rename_i r hc
    have hr := comparison?_length hc
    have htrim := trimStart_length r
    split at h
    · simp [fail] at h
    · obtain ⟨⟨v, r'⟩, hl, he⟩ := eq_ok_of_map_eq_ok h
      have := literal_length hl
      cases he
      omega

theorem termOf_length {negated : Bool} {text rest : List Char} {c : Criterion}
    (h : termOf negated text = .ok (c, rest)) : rest.length < text.length := by
  have htrim := trimStart_length text
  unfold termOf at h
  split at h
  · rename_i r heq
    rw [heq] at htrim
    split at h
    · simp at h
    · simp [fail] at h
    · simp [fail] at h
    · rename_i key after _ _ ha
      have hacc := accessor_length ha
      have hafter := trimStart_length after
      have := comparisonOf_length h
      simp at htrim
      omega
  · simp [fail] at h

/-- Every term takes at least the sign of the node. -/
theorem term_length {text rest : List Char} {c : Criterion}
    (h : term text = .ok (c, rest)) : rest.length < text.length := by
  unfold term at h
  split at h
  · have := termOf_length h
    simp
    omega
  · exact termOf_length h

/-- The terms of a predicate, joined by `&&`. -/
def terms (text : List Char) : Except PredicateStop (List Criterion) :=
  match _ht : term (trimStart text) with
  | .error stop => .error stop
  | .ok (criterion, after) =>
    match _hr : trimStart after with
    | [] => .ok [criterion]
    | '&' :: '&' :: rest => (terms rest).map (criterion :: ·)
    | '|' :: '|' :: rest => fail .disjunction ('|' :: '|' :: rest)
    | c :: rest => fail (.unexpected c) (c :: rest)
termination_by text.length
decreasing_by
  have hterm := term_length _ht
  have htext := trimStart_length text
  have hafter := trimStart_length after
  rw [_hr] at hafter
  simp at hafter
  omega

end PredicateReader

namespace Filter

/-- The filter that the text of a predicate writes. -/
def ofText (source : String) : Except Error Filter :=
  let text := source.toList
  match PredicateReader.terms text with
  | .ok criteria => .ok ⟨criteria⟩
  | .error ⟨stop, inLiteral⟩ =>
    let expression := if inLiteral then source else "[?(" ++ source ++ ")]"
    .error (.invalidPath expression stop.fault (some (stop.position text.length)))

end Filter

end DocPath

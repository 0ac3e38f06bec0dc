import DocPath.Proofs.Filter.Grammar
import DocPath.Proofs.Path.Compilation
import DocPath.Proofs.Path.Rendering
import Mathlib.Data.Bool.AllAny

/-! # Filters written in paths

`Filter.inline?` writes a filter as a predicate, with its keys and strings in
quotes.  The predicate reads as the same filter, and a path can hold it,
whatever the keys and strings hold. -/

namespace DocPath

/-- The literal of an operand.  A wide integer in the range of the narrow ones
has none, as its digits read as a narrow one. -/
def Value.literal? : Value → Option (List Char)
  | null => some "null".toList
  | bool true => some "true".toList
  | bool false => some "false".toList
  | int n => some (textOfInt n.toInt).toList
  | long n => if (int32OfInt? n.toInt).isNone then some (textOfInt n.toInt).toList else none
  | string s => some (Quoted.literal '\'' s.toList)
  | _ => none

/-- The sign of a comparison, and its operand.  Tests for membership and the
like have no sign that a predicate knows. -/
def Operator.sign? : Operator → Option (List Char × Value)
  | equalTo v => some (['=', '='], v)
  | notEqualTo v => some (['!', '='], v)
  | greater v => some (['>'], v)
  | greaterOrEqual v => some (['>', '='], v)
  | less v => some (['<'], v)
  | lessOrEqual v => some (['<', '='], v)
  | _ => none

namespace Criterion

/-- The property of the node under a key, in brackets and quotes, so that the
key may hold any characters. -/
def nodeText (key : String) : List Char := '@' :: '[' :: (Quoted.literal '\'' key.toList ++ [']'])

/-- A criterion as a term of a predicate, unless its operator or its operand has
no form in one. -/
def inline? (c : Criterion) : Option (List Char) :=
  match c.operator with
  | .present true => some (nodeText c.key)
  | .present false => some ('!' :: nodeText c.key)
  | operator => do
    let (sign, operand) ← operator.sign?
    let literal ← operand.literal?
    pure (nodeText c.key ++ (' ' :: (sign ++ ' ' :: literal)))

end Criterion

namespace Filter

/-- A filter as a predicate: its criteria in their order, with ampersands
between them. -/
def inline? (f : Filter) : Option String :=
  (f.criteria.mapM Criterion.inline?).map fun terms =>
    String.ofList (" && ".toList.intercalate terms)

end Filter

open DocPath.Bracket (Mode)
open PredicateReader (Operand Sign Accessor Term Conjunction)
open Unicode (Blanks Trimmed)

/-! ## The predicate of a filter follows the grammar -/

/-- The text of an integer consists of characters of numbers, so the reader
takes it as one run. -/
theorem isNumberChar_textOfInt (n : Int) :
    ∀ d ∈ (textOfInt n).toList, PredicateReader.isNumberChar d = true := by
  intro d hd
  rcases textOfInt_isIntegerChar n d hd with h | rfl | rfl
  · simp [PredicateReader.isNumberChar, h]
  · rfl
  · rfl

/-- The text of an integer reads as the number that a document holds for the
integer, within 64 bits. -/
theorem numberOfText?_of_writes {text : List Char} {n : Int} (h : Writes text n) :
    PredicateReader.numberOfText? text = (int64OfInt? n).map fun _ => .ofInteger n := by
  have hinteger : text.any (fun c => c == '.' || c == 'e' || c == 'E') = false := by
    rw [List.any_eq_false]
    intro c hc
    have hchar := h.isIntegerChar c hc
    have hpoint : c ≠ '.' := hchar.ne (by decide)
    have hlower : c ≠ 'e' := hchar.ne (by decide)
    have hupper : c ≠ 'E' := hchar.ne (by decide)
    simp [hpoint, hlower, hupper]
  have hread : int64OfText? text = int64OfInt? n := by
    rw [int64OfText?, intOfText?_eq_some_iff.mpr h]
    rfl
  rw [PredicateReader.numberOfText?, hinteger, hread]
  cases hvalue : int64OfInt? n with
  | none => rfl
  | some k =>
    -- the narrower width is tried first on both sides
    cases int64OfInt?_eq_some_iff.mp hvalue
    rw [Value.ofInteger, hvalue]
    cases hnarrow : int32OfInt? k.toInt <;> simp [hnarrow]

/-- The text of an integer of 64 bits is an operand, and it stands for the
integer in the narrowest width. -/
theorem operand_textOfInt (k : Int64) :
    Operand (textOfInt k.toInt).toList (.ofInteger k.toInt) := by
  have hnumber := numberOfText?_of_writes (writes_textOfInt k.toInt)
  rw [int64OfInt?_eq_some_iff.mpr rfl] at hnumber
  have hall := isNumberChar_textOfInt k.toInt
  obtain ⟨c, u, htext, hc⟩ := head_textOfInt k.toInt
  rw [htext] at hnumber hall ⊢
  exact .number hc hall hnumber

/-- The literal of a value is an operand that stands for this value. -/
theorem operand_of_literal? {v : Value} {l : List Char} (h : v.literal? = some l) :
    Operand l v := by
  cases v with
  | null => cases h; exact .word rfl
  | bool b => cases b <;> cases h <;> exact .word rfl
  | int n =>
    cases h
    have hop := operand_textOfInt n.toInt64
    rw [Int32.toInt_toInt64, Value.ofInteger, int32OfInt?_eq_some_iff.mpr rfl] at hop
    exact hop
  | long n =>
    -- beyond the narrow width the digits read as a wide integer
    obtain ⟨hwide, he⟩ := Option.ite_none_right_eq_some.mp h
    cases he
    have hop := operand_textOfInt n
    rw [Value.ofInteger, Option.isNone_iff_eq_none.mp hwide, int64OfInt?_eq_some_iff.mpr rfl] at hop
    exact hop
  | string s =>
    cases h
    have hop := Operand.string (Quoted.literal_literal '\'' (by decide) s.toList)
    rw [String.ofList_toList] at hop
    exact hop
  | double _ | array _ | object _ => cases h

/-- The sign that is written for a comparison is read as this comparison. -/
theorem sign_of_sign? {operator : Operator} {s : List Char} {v : Value}
    (h : operator.sign? = some (s, v)) : ∃ g, Sign s g ∧ operator = g v := by
  cases operator <;> cases h <;> exact ⟨_, by constructor, rfl⟩

/-- A key in quotes and brackets names this key, whatever it holds. -/
theorem accessor_quoted (key : String) :
    Accessor ('[' :: (Quoted.literal '\'' key.toList ++ [']'])) key := by
  have h := Accessor.quoted Unicode.blanks_nil
    (Quoted.literal_literal '\'' (by decide) key.toList) Unicode.blanks_nil
  rw [String.ofList_toList] at h
  exact h

/-- The term that is written for a criterion follows the grammar and stands for
this criterion. -/
theorem term_of_inline? {c : Criterion} {t : List Char} (h : c.inline? = some t) : Term t c := by
  obtain ⟨key, operator⟩ := c
  unfold Criterion.inline? at h
  split at h
  · next he => cases he; cases h; exact .node (.present (accessor_quoted key))
  · next he =>
    cases he
    cases h
    exact .negated Unicode.blanks_nil (.present (accessor_quoted key))
  · simp only [Option.bind_eq_bind, Option.bind_eq_some_iff] at h
    obtain ⟨⟨s, v⟩, hs, l, hl, ht⟩ := h
    cases ht
    obtain ⟨g, hg, he⟩ := sign_of_sign? hs
    cases he
    have hblank : Blanks [' '] := by simp [Blanks, Unicode.isBlank]
    exact .node (.comparison (accessor_quoted key) hblank hg hblank (operand_of_literal? hl))

theorem exists_of_mapM_cons {α β : Type} {g : α → Option β} {a : α} {as : List α} {bs : List β}
    (h : (a :: as).mapM g = some bs) :
    ∃ b cs, g a = some b ∧ as.mapM g = some cs ∧ bs = b :: cs := by
  simp only [List.mapM_cons, Option.bind_eq_bind, Option.bind_eq_some_iff] at h
  obtain ⟨b, hb, cs, hcs, he⟩ := h
  cases he
  exact ⟨b, cs, hb, hcs, rfl⟩

/-- Further blanks may stand before a predicate, as they do after each
conjunction that is written. -/
theorem PredicateReader.Conjunction.blanks_append {b text : List Char} {cs : List Criterion}
    (hb : Blanks b) (h : Conjunction text cs) : Conjunction (b ++ text) cs := by
  cases h with
  | last hb' ht ha =>
    rw [← List.append_assoc]
    exact .last (hb.append hb') ht ha
  | more hb' ht ha hrest =>
    rw [← List.append_assoc]
    exact .more (hb.append hb') ht ha hrest

/-- The terms of criteria, with ampersands between them, follow the grammar and
stand for these criteria. -/
theorem conjunction_of_inline? {cs : List Criterion} {ts : List (List Char)} (hne : cs ≠ [])
    (h : cs.mapM Criterion.inline? = some ts) :
    Conjunction (" && ".toList.intercalate ts) cs := by
  induction cs generalizing ts with
  | nil => exact absurd rfl hne
  | cons c cs ih =>
    obtain ⟨t, us, ht, hus, rfl⟩ := exists_of_mapM_cons h
    have hterm := term_of_inline? ht
    cases cs with
    | nil =>
      cases hus
      have hlast := Conjunction.last Unicode.blanks_nil hterm Unicode.blanks_nil
      simpa using hlast
    | cons d ds =>
      -- the blank after `&&` belongs to the rest, which may begin with blanks
      obtain ⟨u, vs, -, -, rfl⟩ := exists_of_mapM_cons hus
      have hblank : Blanks [' '] := by simp [Blanks, Unicode.isBlank]
      have hrest := (ih (List.cons_ne_nil _ _) hus).blanks_append hblank
      have hmore := Conjunction.more Unicode.blanks_nil hterm hblank hrest
      rw [List.intercalate_cons_cons]
      simpa using hmore

/-! ## A path can hold the predicate -/

/-- A text in parentheses that a scan for the closing bracket passes as if
nothing stood there. -/
structure Contained (t : List Char) : Prop where
  ne_nil : t ≠ []
  trimmed : Trimmed t
  keeps : (Mode.outside 1).Keeps t

namespace Contained

/-- What the scan passes without a trace can be enclosed in parentheses. -/
theorem enclosable {t : List Char} (h : Contained t) : Fragment.Enclosable t where
  ne_nil := h.ne_nil
  trimmed := h.trimmed
  passes := h.keeps.1
  ends := ⟨1, Nat.le_refl 1, h.keeps.2⟩

theorem row {t : List Char} (hne : t ≠ []) (h : ∀ c ∈ t, Fragment.RowChar c) : Contained t where
  ne_nil := hne
  trimmed := Unicode.trimmed_of_forall fun c hc => (h c hc).not_blank
  keeps := Mode.keeps_idle fun c hc => (h c hc).idle

/-- A row of given characters. -/
theorem word {t : List Char} (hne : t ≠ []) (h : t.all (Fragment.RowChar ·) = true) : Contained t :=
  row hne (List.all_iff_forall_prop.mp h)

theorem append {s t : List Char} (hs : Contained s) (m : List Char)
    (hm : m.all (Mode.Idle ·) = true) (ht : Contained t) : Contained (s ++ (m ++ t)) where
  ne_nil := List.append_ne_nil_of_left_ne_nil hs.ne_nil _
  trimmed := hs.trimmed.append ht.trimmed hs.ne_nil ht.ne_nil m
  keeps := hs.keeps.append ((Mode.keeps_idle (List.all_iff_forall_prop.mp hm)).append ht.keeps)

/-- A literal is passed, whatever it holds. -/
theorem literal (cs : List Char) : Contained (Quoted.literal '\'' cs) where
  ne_nil := List.cons_ne_nil _ _
  trimmed := Fragment.literal_trimmed (by decide) cs
  keeps := Mode.keeps_literal (Quoted.literal_literal '\'' (by decide) cs)

theorem of_literal? {v : Value} {l : List Char} (h : v.literal? = some l) : Contained l := by
  have hint : ∀ n : Int, Contained (textOfInt n).toList := fun n =>
    row (writes_textOfInt n).ne_nil (Fragment.rowChar_textOfInt n)
  cases v with
  | null => cases h; exact word (by decide) (by decide)
  | bool b => cases b <;> cases h <;> exact word (by decide) (by decide)
  | int n => cases h; exact hint n.toInt
  | long n =>
    obtain ⟨-, he⟩ := Option.ite_none_right_eq_some.mp h
    cases he
    exact hint n.toInt
  | string s => cases h; exact literal s.toList
  | double _ | array _ | object _ => cases h

theorem nodeText (key : String) : Contained (Criterion.nodeText key) := by
  have hopen : Contained ['@', '['] := word (by decide) (by decide)
  have hclose : Contained [']'] := {
    ne_nil := List.cons_ne_nil _ _
    trimmed := Unicode.trimmed_of_forall (List.forall_mem_singleton.mpr (by decide))
    keeps := Mode.keeps_bracket }
  exact hopen.append [] rfl ((literal key.toList).append [] rfl hclose)

theorem of_sign? {operator : Operator} {s : List Char} {v : Value}
    (h : operator.sign? = some (s, v)) : Contained s := by
  cases operator <;> cases h <;> exact word (by decide) (by decide)

theorem of_inline? {c : Criterion} {t : List Char} (h : c.inline? = some t) : Contained t := by
  unfold Criterion.inline? at h
  split at h
  · cases h
    exact nodeText c.key
  · cases h
    have hsign : Contained ['!'] := word (by decide) (by decide)
    exact hsign.append [] rfl (nodeText c.key)
  · simp only [Option.bind_eq_bind, Option.bind_eq_some_iff] at h
    obtain ⟨⟨s, v⟩, hs, l, hl, ht⟩ := h
    cases ht
    exact (nodeText c.key).append [' '] (by decide)
      ((of_sign? hs).append [' '] (by decide) (of_literal? hl))

theorem of_mapM {cs : List Criterion} {ts : List (List Char)} (hne : cs ≠ [])
    (h : cs.mapM Criterion.inline? = some ts) : Contained (" && ".toList.intercalate ts) := by
  induction cs generalizing ts with
  | nil => exact absurd rfl hne
  | cons c cs ih =>
    obtain ⟨t, us, ht, hus, rfl⟩ := exists_of_mapM_cons h
    cases cs with
    | nil =>
      cases hus
      simpa using of_inline? ht
    | cons d ds =>
      obtain ⟨u, vs, -, -, rfl⟩ := exists_of_mapM_cons hus
      rw [List.intercalate_cons_cons, List.append_assoc]
      exact (of_inline? ht).append _ (by decide) (ih (List.cons_ne_nil _ _) hus)

end Contained

namespace Filter

/-- **A filter is read as it is written**, by itself and in a path, which then
has a single step besides the root, with this filter.  All comparisons with
null, booleans, integers and strings can be written, and both tests for
presence. -/
theorem ofText_inline {f : Filter} {e : String} (hne : f.criteria ≠ []) (he : f.inline? = some e) :
    ofText e = .ok f ∧
      ∀ config : Config, config.validate = .ok () →
        ("$[?(" ++ e ++ ")]").length ≤ config.maxPathLength.toNat → 2 ≤ config.maxFragments.toNat →
          CompiledPath.compile ("$[?(" ++ e ++ ")]") [] config =
            .ok ⟨"$[?(" ++ e ++ ")]", [.root, .expression e],
              [.root, .predicate (.filter f) true]⟩ := by
  obtain ⟨ts, hts, rfl⟩ := Option.map_eq_some_iff.mp he
  have hread : ofText (String.ofList (" && ".toList.intercalate ts)) = .ok f := by
    rw [ofText_eq_ok_iff, String.toList_ofList]
    exact conjunction_of_inline? hne hts
  have hfits : (Fragment.expression (String.ofList (" && ".toList.intercalate ts))).Fits := by
    show Fragment.Enclosable (String.ofList _).toList
    rw [String.toList_ofList]
    exact (Contained.of_mapM hne hts).enclosable
  generalize String.ofList (" && ".toList.intercalate ts) = e at hread hfits ⊢
  refine ⟨hread, fun config hvalid hlength hcount => ?_⟩
  have hwell : Fragment.WellFormed [.root, .expression e] :=
    ⟨[.expression e], rfl, by simpa using hfits, .singleton _⟩
  have htext := Fragment.ofText_render_of_wellFormed hwell
  rw [Fragment.render_expression] at htext
  exact CompiledPath.compile_eq_ok_iff.mpr
    ⟨hvalid, hlength, htext, hcount, ⟨[], .plain rfl (.expression hread .nil)⟩, rfl⟩

/-- Keys and strings with delimiters in them, and the least integer of 64
bits. -/
theorem ofText_inline_delimiters :
    ∃ f e, f = Filter.mk [⟨"it's )]", .equalTo (.string "] && '")⟩, ⟨"", .present false⟩,
        ⟨"n", .lessOrEqual (.long (-9223372036854775808))⟩] ∧
      e = "@['it\\'s )]'] == '] && \\'' && !@[''] && @['n'] <= -9223372036854775808" ∧
      ofText e = .ok f ∧
      CompiledPath.compile ("$[?(" ++ e ++ ")]") [] {} =
        .ok ⟨"$[?(" ++ e ++ ")]", [.root, .expression e],
          [.root, .predicate (.filter f) true]⟩ := by
  refine ⟨_, _, rfl, rfl, ?_⟩
  obtain ⟨hread, hcompile⟩ := ofText_inline (List.cons_ne_nil _ _)
    (show (Filter.mk [⟨"it's )]", .equalTo (.string "] && '")⟩, ⟨"", .present false⟩,
        ⟨"n", .lessOrEqual (.long (-9223372036854775808))⟩]).inline? =
      some "@['it\\'s )]'] == '] && \\'' && !@[''] && @['n'] <= -9223372036854775808" by
        decide +kernel)
  exact ⟨hread, hcompile {} rfl (by decide) (by decide)⟩

end Filter

end DocPath

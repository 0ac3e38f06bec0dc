import DocPath.Proofs.Path.Naming
import DocPath.Proofs.Text.Stop

/-! # Where a path is refused

Reading takes one item of a path after the other, and a path is refused at the
first item that cannot be read (`scan_eq_error_iff`).  What is reported outside
of brackets tells of the whole text (`tells_of_path`); a fault in a quoted name
in brackets is counted in the trimmed content of the brackets
(`exists_inside_of_path`). -/

namespace DocPath.Bracket

open Quoted (isQuote)
open Unicode (trim)

variable {text content : List Char} {stop : ContentStop} {fault : Fault}

/-! ## Content of brackets -/

/-- What is wrong with the content of brackets, told without a place in it,
names no character. -/
structure ContentStop.Whole (stop : ContentStop) : Prop where
  unnamed : stop.fault.Unnamed
  position : stop.position = none

theorem whole_of_index (h : index text = .error stop) : stop.Whole := by
  unfold index at h
  split at h
  · cases h
  · cases h
    exact ⟨⟨rfl, rfl⟩, rfl⟩

theorem whole_of_bound (h : bound text = .error stop) : stop.Whole := by
  unfold bound at h
  split at h
  · cases h
  · exact whole_of_index (map_eq_error_iff.mp h)

/-- A slice is refused as a whole, also for one colon too many. -/
theorem whole_of_slice (h : slice text = .error stop) : stop.Whole := by
  simp only [slice] at h
  split at h
  · cases h
    exact ⟨⟨rfl, rfl⟩, rfl⟩
  · rcases bind_eq_error_iff.mp h with h | ⟨_, -, h⟩
    · exact whole_of_bound h
    · rcases bind_eq_error_iff.mp h with h | ⟨_, -, h⟩
      · exact whole_of_bound h
      · cases h

theorem whole_of_predicate (h : predicate text = .error stop) : stop.Whole := by
  simp only [predicate] at h
  split at h
  · cases h
  · split at h
    · split at h
      · cases h
        exact ⟨⟨rfl, rfl⟩, rfl⟩
      · cases h
    · cases h
      exact ⟨⟨rfl, rfl⟩, rfl⟩
  · cases h
    exact ⟨⟨rfl, rfl⟩, rfl⟩

theorem whole_of_indices {parts : List (List Char)}
    (h : (parts.mapM fun part => index (trim part)) = .error stop) : stop.Whole := by
  induction parts with
  | nil => cases h
  | cons part parts ih =>
    rw [List.mapM_cons] at h
    rcases bind_eq_error_iff.mp h with h | ⟨_, -, h⟩
    · exact whole_of_index h
    · rcases bind_eq_error_iff.mp h with h | ⟨_, -, h⟩
      · exact ih h
      · cases h

/-- A quoted name is refused as a whole, or at a place in it. -/
theorem cases_of_quotedName {quote : Char} (hq : isQuote quote = true)
    (h : quotedName quote (quote :: text) = .error stop) :
    stop.Whole ∨ ∃ inner : Stop, inner.Tells (quote :: text) ∧
      stop = ⟨inner.fault, some (inner.position (quote :: text).length)⟩ := by
  simp only [quotedName] at h
  split at h
  · next inner hread =>
    cases h
    exact .inr ⟨inner, (Quoted.tells_of_read (Quoted.ne_backslash_of_isQuote hq) hread).of_suffix
      (List.suffix_cons _ _), rfl⟩
  · cases h
  · cases h
    exact .inl ⟨⟨rfl, rfl⟩, rfl⟩

/-- Only a quoted name is refused at a place in the content of its brackets.
All other content is refused as a whole, without naming a character. -/
theorem cases_of_classify (h : classify content = .error stop) :
    stop.Whole ∨ ∃ inner : Stop, inner.Tells (trim content) ∧
      stop = ⟨inner.fault, some (inner.position (trim content).length)⟩ := by
  unfold classify at h
  split at h
  · cases h
    exact .inl ⟨⟨rfl, rfl⟩, rfl⟩
  · next he => rw [he]; exact cases_of_quotedName rfl h
  · next he => rw [he]; exact cases_of_quotedName rfl h
  · cases h
  · exact .inl (whole_of_predicate h)
  · split at h
    · exact .inl (whole_of_slice h)
    · split at h
      · exact .inl (whole_of_indices (map_eq_error_iff.mp h))
      · exact .inl (whole_of_index (map_eq_error_iff.mp h))

/-- Brackets that are not closed are refused without naming a character. -/
theorem unnamed_of_content {quote : Option Char} {depth : Nat}
    (h : Bracket.content quote depth text = .error fault) : fault.Unnamed := by
  fun_induction Bracket.content quote depth text with
  | case1 | case2 | case3 =>
    cases h
    exact ⟨rfl, rfl⟩
  | case6 => cases h
  | case4 | case5 | case7 =>
    rename_i ih
    exact ih (map_eq_error_iff.mp h)

end DocPath.Bracket

namespace DocPath.PathStop

/-- A path is refused outside of brackets, and the stop tells of the text: a
character that is named stands where the stop is. -/
def Outside (pathStop : PathStop) (text : List Char) : Prop :=
  ∃ stop : Stop, pathStop = .outside stop ∧ stop.Tells text

/-- A path is refused in the brackets at the head of a text, at a place in their
content without the blanks around it. -/
def Inside (pathStop : PathStop) (text : List Char) : Prop :=
  ∃ inside after, ∃ stop : Stop, text = '[' :: (inside ++ ']' :: after) ∧
    (Bracket.Mode.outside 0).Closes inside ∧ stop.Tells (Unicode.trim inside) ∧
    pathStop = .inBrackets stop.fault (stop.position (Unicode.trim inside).length)

end DocPath.PathStop

namespace DocPath.PathReader

open Quoted (isQuote)

variable {text rest later : List Char} {fs : List Fragment} {stop : Stop} {pathStop : PathStop}
  {fault : Fault} {n : Nat}

/-! ## Items -/

/-- What is not set apart is refused for the character that follows directly. -/
theorem outside_of_separated {after : Closed} (h : separated after text = .error pathStop) :
    pathStop.Outside text := by
  unfold separated at h
  split at h
  · cases h
  · cases h
  · cases h
  · cases h
    exact ⟨_, rfl, Stop.tells_head rfl rfl⟩

/-- A bracketed fragment is refused at the bracket or after it, or at a place in
its content. -/
theorem cases_of_bracket (h : bracket rest = .error pathStop) :
    pathStop.Outside ('[' :: rest) ∨ pathStop.Inside ('[' :: rest) := by
  simp only [bracket] at h
  split at h
  · next hcontent =>
    cases h
    exact .inl ⟨_, rfl, Stop.tells_of_unnamed (Bracket.unnamed_of_content hcontent) _ _⟩
  · next inside after hcontent =>
    obtain ⟨rfl, hclose⟩ := Bracket.content_eq_ok_iff.mp hcontent
    split at h
    · next hclassify =>
      cases h
      rcases Bracket.cases_of_classify hclassify with hwhole | ⟨inner, -, he⟩
      · exact .inl ⟨_, rfl, Stop.tells_of_unnamed hwhole.unnamed _ _⟩
      · cases he
    · next hclassify =>
      cases h
      rcases Bracket.cases_of_classify hclassify with hwhole | ⟨inner, hinner, he⟩
      · exact absurd hwhole.position (by simp)
      · cases he
        exact .inr ⟨inside, after, inner, rfl, hclose, hinner, rfl⟩
    · obtain ⟨stop, rfl, hstop⟩ := outside_of_separated (map_eq_error_iff.mp h)
      refine .inl ⟨stop, rfl, hstop.of_suffix ⟨'[' :: (inside ++ [']']), ?_⟩⟩
      simp

/-- A quoted name is refused for what it holds or for what follows it. -/
theorem outside_of_quotedName {quote : Char} (hq : isQuote quote = true)
    (h : quotedName quote text = .error pathStop) : pathStop.Outside (quote :: text) := by
  have hquote := Quoted.ne_backslash_of_isQuote hq
  simp only [quotedName] at h
  split at h
  · next hread =>
    cases h
    exact ⟨_, rfl, (Quoted.tells_of_read hquote hread).of_suffix (List.suffix_cons _ _)⟩
  · next name after hread =>
    obtain ⟨body, rfl, -⟩ := (Quoted.read_eq_ok_iff hquote).mp hread
    obtain ⟨stop, rfl, hstop⟩ := outside_of_separated (map_eq_error_iff.mp h)
    refine ⟨stop, rfl, hstop.of_suffix ⟨quote :: (body ++ [quote]), ?_⟩⟩
    simp

/-- A bare name is refused for a quote in it, or because it is blank. -/
theorem outside_of_bareName (h : bareName text = .error pathStop) : pathStop.Outside text := by
  have hnamed : ∀ raw after, bareName.named text raw after = .error pathStop →
      pathStop.Outside text := by
    intro raw after hn
    unfold bareName.named at hn
    split at hn
    · cases hn
      exact ⟨_, rfl, Stop.tells_of_unnamed ⟨rfl, rfl⟩ _ _⟩
    · cases hn
    · cases hn
  simp only [bareName] at h
  split at h
  · next c after hafter =>
    split at h
    · cases h
      refine ⟨_, rfl, (Stop.tells_head rfl rfl).of_suffix ?_⟩
      rw [← hafter]
      exact List.dropWhile_suffix _
    · exact hnamed _ _ h
  · exact hnamed _ _ h

/-- Dots are refused for a dot too many or for a missing name. -/
theorem outside_of_dots (h : dots text = .error pathStop) : pathStop.Outside text := by
  simp only [dots] at h
  split at h
  · cases h
  · cases h
  · cases h
    exact ⟨_, rfl, Stop.tells_of_unnamed ⟨rfl, rfl⟩ _ _⟩

/-- An item is refused at a place in it, or at a place in the content of its
brackets. -/
theorem cases_of_item (h : item text = .error pathStop) :
    pathStop.Outside text ∨ pathStop.Inside text := by
  unfold item at h
  split at h
  · cases h
  · exact .inl (outside_of_dots h)
  · exact cases_of_bracket h
  · cases h
    exact .inl ⟨_, rfl, Stop.tells_head rfl rfl⟩
  · exact .inl (outside_of_quotedName rfl h)
  · exact .inl (outside_of_quotedName rfl h)
  · exact .inl (outside_of_bareName h)

/-! ## Whole paths -/

/-- What is left of a text after some items.  The scan comes to such places
only, and whatever it refuses it refuses there. -/
inductive Reaches : List Char → List Char → Prop
  | here {text : List Char} : Reaches text text
  | item {text rest later : List Char} {fs : List Fragment} :
      item text = .ok (fs, rest) → Reaches rest later → Reaches text later

/-- The items of a path leave the end of its text. -/
theorem suffix_of_item (h : item text = .ok (fs, rest)) : rest <:+ text := by
  unfold item at h
  split at h
  · cases h
    exact List.suffix_rfl
  · next text =>
    obtain ⟨⟨-, rfl⟩ | ⟨-, rfl⟩, -⟩ := dots_eq_ok_iff.mp h
    · exact List.suffix_cons _ _
    · exact ⟨['.', '.'], rfl⟩
  · next text =>
    obtain ⟨inside, f, rfl, -⟩ := bracket_eq_ok_iff.mp h
    exact ⟨'[' :: (inside ++ [']']), by simp⟩
  · cases h
  · obtain ⟨literal, name, -, he, -⟩ := (quotedName_eq_ok_iff rfl).mp h
    exact ⟨literal, he.symm⟩
  · obtain ⟨literal, name, -, he, -⟩ := (quotedName_eq_ok_iff rfl).mp h
    exact ⟨literal, he.symm⟩
  · obtain ⟨raw, he, -⟩ := bareName_eq_ok_iff.mp h
    exact ⟨raw, he.symm⟩

/-- What the scan comes to is what the text ends in. -/
theorem Reaches.suffix (h : Reaches text later) : later <:+ text := by
  induction h with
  | here => exact List.suffix_rfl
  | item hi _ ih => exact ih.trans (suffix_of_item hi)

/-- **A text is refused at the first item that cannot be read.** The items
before it are read, and the stop is one of the text from that item on. -/
theorem scan_eq_error_iff :
    scan text = .error pathStop ↔ ∃ later, Reaches text later ∧ item later = .error pathStop := by
  constructor
  · intro h
    fun_induction scan text with
    | case1 => cases h
    | case2 c text stop hi =>
      cases h
      exact ⟨c :: text, .here, hi⟩
    | case3 c text fs rest hi ih =>
      obtain ⟨later, hreaches, hlater⟩ := ih (map_eq_error_iff.mp h)
      exact ⟨later, .item hi hreaches, hlater⟩
  · rintro ⟨later, hreaches, hlater⟩
    induction hreaches with
    | @here text =>
      cases text with
      | nil => cases hlater
      | cons c text => exact scan_eq_error hlater
    | @item text rest later fs hi _ ih =>
      cases text with
      | nil =>
        cases hi
        exact ih hlater
      | cons c text =>
        rw [scan_cons hi, map_eq_error_iff]
        exact ih hlater

theorem afterRoot_suffix (text : List Char) : afterRoot text <:+ text := by
  unfold afterRoot
  split
  · exact List.suffix_cons _ _
  · exact List.suffix_rfl

/-- What is reported outside of brackets tells of the whole path. -/
theorem tells_of_path (h : path text = .error (.outside stop)) : stop.Tells text := by
  by_cases hnil : text = []
  · subst hnil
    cases h
    exact Stop.tells_of_unnamed ⟨rfl, rfl⟩ _ _
  · rw [path_eq_scan hnil, map_eq_error_iff, scan_eq_error_iff] at h
    obtain ⟨later, hreaches, hlater⟩ := h
    rcases cases_of_item hlater with ⟨_, he, hstop⟩ | ⟨_, _, _, _, _, _, he⟩
    · cases he
      exact hstop.of_suffix (hreaches.suffix.trans (afterRoot_suffix text))
    · cases he

/-- What is reported in brackets tells of the brackets that reading has come
to. -/
theorem exists_inside_of_path (h : path text = .error (.inBrackets fault n)) :
    ∃ later, Reaches (afterRoot text) later ∧ item later = .error (.inBrackets fault n) ∧
      (PathStop.inBrackets fault n).Inside later := by
  have hne : text ≠ [] := by
    rintro rfl
    cases h
  rw [path_eq_scan hne, map_eq_error_iff, scan_eq_error_iff] at h
  obtain ⟨later, hreaches, hlater⟩ := h
  rcases cases_of_item hlater with ⟨_, he, _⟩ | hinside
  · cases he
  · exact ⟨later, hreaches, hlater, hinside⟩

end DocPath.PathReader

namespace DocPath.Fragment

open Unicode (trim)

/-- A path is refused where the reader stops in it without the blanks around it,
and the position is counted there. -/
theorem exists_stop_of_ofText_eq_error {source : String} {e : Error}
    (h : ofText source = .error e) :
    ∃ stop, PathReader.path (trim source.toList) = .error stop ∧
      e = .invalidPath source stop.fault (some (stop.position (trim source.toList).length)) := by
  simp only [ofText] at h
  split at h
  · next stop hpath =>
    cases h
    exact ⟨stop, hpath, rfl⟩
  · cases h

end DocPath.Fragment

import DocPath.Proofs.Regex.ClassExtension
import DocPath.Regex.Reader

/-! # Reading patterns that go on

The reader goes from sign to sign (`Reading.sign?`, `Reads`).  A sign is read
the same when the text goes on and when more groups are open around it
(`Reading.under`), so what is read of a pattern by itself is read of the pattern
inside a group, up to the point where the group closes (`Reads.extend`). -/

namespace DocPath.Regex.Reader

variable {text rest : List Char} {F : Tail → List Char} {verbose : Bool}

/-! ### Groups -/

/-- The flags of a group are read the same when the text goes on, as they come
to an end at a colon or a parenthesis of their own. -/
theorem flags_extend {changes changes' : List FlagChange} {negated afterMinus : Bool} {last : Char}
    (h : flags? changes negated afterMinus text = some (changes', last, rest))
    (hext : Extends text F) :
    ∃ G, Extends rest G ∧
      ∀ u, flags? changes negated afterMinus (F u) = some (changes', last, G u) := by
  induction text generalizing changes negated afterMinus F with
  | nil => exact nomatch h
  | cons c text ih =>
    obtain ⟨G, hG, hF⟩ := hext.cons
    rw [flags?] at h
    simp only [hF, flags?]
    by_cases hend : c = ':' ∨ c = ')'
    · rw [if_pos hend] at h
      simp only [if_pos hend]
      split at h
      · exact nomatch h
      · next hminus =>
        obtain ⟨rfl, rfl, rfl⟩ : changes.reverse = changes' ∧ c = last ∧ text = rest := by
          simpa using h
        exact ⟨G, hG, fun u => if_neg hminus⟩
    · rw [if_neg hend] at h
      simp only [if_neg hend]
      by_cases hc : c = '-'
      · rw [if_pos hc] at h
        simp only [if_pos hc]
        split at h
        · exact nomatch h
        · next hneg =>
          simp only [if_neg hneg]
          exact ih h hG
      · rw [if_neg hc] at h
        simp only [if_neg hc]
        split at h
        · exact nomatch h
        · split at h
          · exact nomatch h
          · next hany =>
            simp only [if_neg hany]
            exact ih h hG

/-- The name of a group ends at its own angle bracket, whatever follows. -/
theorem steady_groupName : Steady groupName? := by
  intro text name rest F h hext
  cases text with
  | nil => exact nomatch h
  | cons c text =>
    obtain ⟨G, hG, hF⟩ := hext.cons
    simp only [groupName?] at h
    split at h
    · next hc =>
      split at h
      · next later after hspan =>
        obtain ⟨rfl, rfl⟩ := Prod.mk.inj (Option.some.inj h)
        obtain ⟨H, hH, hspanG⟩ := hG.span_cons hspan
        exact ⟨H, hH, fun u => by simp only [hF, groupName?, hc, if_true, hspanG]⟩
      · exact nomatch h
    · exact nomatch h

theorem steady_openNamedGroup (s : Reading) : Steady s.openNamedGroup? := by
  intro text s' rest F h hext
  simp only [Reading.openNamedGroup?, Option.bind_eq_bind, Option.bind_eq_some_iff] at h
  obtain ⟨⟨name, after⟩, hname, h⟩ := h
  obtain ⟨G, hG, hF⟩ := steady_groupName hname hext
  split at h
  · exact nomatch h
  · next hfresh =>
    obtain ⟨rfl, rfl⟩ := Prod.mk.inj (Option.some.inj h)
    refine ⟨G, hG, fun u => ?_⟩
    simp only [Reading.openNamedGroup?, hF, Option.bind_eq_bind, Option.bind_some]
    exact if_neg hfresh

/-- Flags that open a group or hold up to the end of the group around them,
which a colon or a parenthesis behind them tells. -/
def Reading.openFlags? (s : Reading) (text : List Char) : Option (Reading × List Char) := do
  let (changes, last, rest) ← flags? [] false false text
  if last = ':' then some (s.openGroup changes, rest)
  else if changes.isEmpty then none
  else
    some ({ s.push (.flags changes) with
      verbose := (valueOf? changes .verbose).getD s.verbose }, rest)

theorem steady_openFlags (s : Reading) : Steady s.openFlags? := by
  intro text s' rest F h hext
  simp only [Reading.openFlags?, Option.bind_eq_bind, Option.bind_eq_some_iff] at h
  obtain ⟨⟨changes, last, after⟩, hflags, h⟩ := h
  obtain ⟨G, hG, hF⟩ := flags_extend hflags hext
  simp only [Reading.openFlags?, hF, Option.bind_eq_bind, Option.bind_some]
  split at h
  · next hlast =>
    simp only [if_pos hlast]
    exact Steady.pure _ h hG
  · next hlast =>
    split at h
    · exact nomatch h
    · next hchanges =>
      simp only [if_neg hlast, if_neg hchanges]
      exact Steady.pure _ h hG

section

variable {s : Reading}

/-- A parenthesis without a question mark after it opens a group without a name
and without flags. -/
theorem open_plain (h : (skip s.verbose text).head? ≠ some '?') :
    s.open? text = some (s.openGroup [], skip s.verbose text) := by
  unfold Reading.open?
  split <;> simp_all

theorem open_name (h : skip s.verbose text = '?' :: 'P' :: '<' :: rest) :
    s.open? text = s.openNamedGroup? rest := by
  simp only [Reading.open?, h]

/-- The short sign of a named group, which the signs of a lookbehind begin with
as well. -/
theorem open_short_name (h : skip s.verbose text = '?' :: '<' :: rest)
    (heq : rest.head? ≠ some '=') (hbang : rest.head? ≠ some '!') :
    s.open? text = s.openNamedGroup? rest := by
  cases rest with
  | nil => simp only [Reading.open?, h]
  | cons d rest =>
    simp only [List.head?_cons, ne_eq, Option.some.injEq] at heq hbang
    simp [Reading.open?, h, heq, hbang]

theorem open_flags (h : skip s.verbose text = '?' :: rest) (heq : rest.head? ≠ some '=')
    (hbang : rest.head? ≠ some '!') (hangle : rest.head? ≠ some '<') (hP : rest.head? ≠ some 'P') :
    s.open? text = s.openFlags? rest := by
  cases rest with
  | nil => simp only [Reading.open?, Reading.openFlags?, h]
  | cons d rest =>
    simp only [List.head?_cons, ne_eq, Option.some.injEq] at heq hbang hangle hP
    simp [Reading.open?, Reading.openFlags?, h, heq, hbang, hangle, hP]

end

/-- The letter that introduces a group name is no flag. -/
theorem head_ne_of_openFlags {s s' : Reading} (h : s.openFlags? text = some (s', rest)) :
    text.head? ≠ some 'P' := by
  intro hhead
  obtain ⟨tail, rfl⟩ := List.head?_eq_some_iff.mp hhead
  exact nomatch h

/-- Whatever a parenthesis opens, it opens the same when the text goes on. -/
theorem steady_open (s : Reading) : Steady s.open? := by
  intro text s' rest F h hext
  have hskip := hext.skip s.verbose
  unfold Reading.open? at h
  split at h
  · exact nomatch h
  · exact nomatch h
  · exact nomatch h
  · exact nomatch h
  · next inner hinner =>
    obtain ⟨G, hG, hF⟩ := (hinner ▸ hskip).cons_cons
    obtain ⟨H, hH, hGH⟩ := hG.cons
    simp only [hGH] at hF
    simp only [open_name (hF _)]
    exact steady_openNamedGroup s h hH
  · next inner heq hbang hinner =>
    obtain ⟨G, hG, hF⟩ := (hinner ▸ hskip).cons_cons
    have heq' := hG.head_ne (by decide) heq
    have hbang' := hG.head_ne (by decide) hbang
    simp only [open_short_name (hF _) (heq' _) (hbang' _)]
    exact steady_openNamedGroup s h hG
  · next inner heq hbang _ _ _ hangle hinner =>
    obtain ⟨G, hG, hF⟩ := (hinner ▸ hskip).cons
    have heq' := hG.head_ne (by decide) heq
    have hbang' := hG.head_ne (by decide) hbang
    have hangle' := hG.head_ne (by decide) hangle
    have hP' := hG.head_ne (c := 'P') (by decide) fun tail htail =>
      head_ne_of_openFlags h (by rw [htail]; rfl)
    simp only [open_flags (hF _) (heq' _) (hbang' _) (hangle' _) (hP' _)]
    exact steady_openFlags s h hG
  · next hno =>
    obtain ⟨rfl, rfl⟩ := Prod.mk.inj (Option.some.inj h)
    exact ⟨_, hskip, fun u => open_plain (hskip.head_ne (by decide) hno u)⟩

/-! ### Repetitions -/

/-- A number of repetitions is read the same when the text goes on, as no tail
begins with a digit. -/
theorem steady_count (verbose : Bool) : Steady (count? verbose) := by
  intro text n rest F h hext
  have hblank : Unicode.isBlank ')' = false := by decide
  have hdrop := hext.dropWhile hblank
  rcases hdigits : run verbose Char.isDigit (text.dropWhile Unicode.isBlank) with ⟨digits, after⟩
  simp only [count?, hdigits] at h
  split at h
  · exact nomatch h
  · next hn =>
    obtain ⟨rfl, rfl⟩ := Prod.mk.inj (Option.some.inj h)
    obtain ⟨G, hG, hrun⟩ := hdrop.run hdigits fun _ => by decide
    exact ⟨_, hG.dropWhile hblank, fun u => by simp only [count?, hrun, if_neg hn]⟩

/-- The brace that closes a repetition after its greatest number of rounds,
which may not be less than the least one. -/
def closeBounds? (min max : Nat) (text : List Char) : Option ((Nat × Option Nat) × List Char) :=
  match text with
  | '\x7D' :: after => if min ≤ max then some ((min, some max), after) else none
  | _ => none

/-- What comes after the least number of rounds: the closing brace, or a comma
and perhaps a greatest number before it. -/
def afterMin? (verbose : Bool) (min : Nat) (text : List Char) :
    Option ((Nat × Option Nat) × List Char) :=
  match text with
  | '\x7D' :: after => some ((min, some min), after)
  | ',' :: rest =>
    match skip verbose rest with
    | '\x7D' :: after => some ((min, none), after)
    | rest => (count? verbose rest).bind fun (max, rest) => closeBounds? min max rest
  | _ => none

theorem bounds_eq (verbose : Bool) (text : List Char) :
    bounds? verbose text =
      (count? verbose (skip verbose text)).bind fun (min, rest) => afterMin? verbose min rest := rfl

theorem steady_closeBounds (min max : Nat) : Steady (closeBounds? min max) := by
  intro text b rest F h hext
  unfold closeBounds? at h
  split at h
  · obtain ⟨G, hG, hF⟩ := hext.cons
    split at h
    · next hle =>
      simp only [hF, closeBounds?, if_pos hle]
      exact Steady.pure _ h hG
    · exact nomatch h
  · exact nomatch h

theorem steady_afterMin (verbose : Bool) (min : Nat) : Steady (afterMin? verbose min) := by
  intro text b rest F h hext
  unfold afterMin? at h
  split at h
  · obtain ⟨G, hG, hF⟩ := hext.cons
    simp only [hF, afterMin?]
    exact Steady.pure _ h hG
  · next inner =>
    obtain ⟨G, hG, hF⟩ := hext.cons
    have hskip := hG.skip verbose
    split at h
    · next hinner =>
      obtain ⟨H, hH, hGH⟩ := (hinner ▸ hskip).cons
      simp only [hF, afterMin?, hGH]
      exact Steady.pure _ h hH
    · next hbrace =>
      obtain ⟨H, hH, hGH⟩ := (steady_count verbose).bind (steady_closeBounds min) h hskip
      refine ⟨H, hH, fun u => ?_⟩
      simp only [hF, afterMin?]
      split
      · next inner hu =>
        obtain ⟨inner, -, hinner, -⟩ := hskip.of_cons (by decide) hu
        exact absurd hinner (hbrace inner)
      · exact hGH u
  · exact nomatch h

theorem steady_bounds (verbose : Bool) : Steady (bounds? verbose) := by
  intro text b rest F h hext
  simp only [bounds_eq] at h ⊢
  exact (steady_count verbose).bind (steady_afterMin verbose) h (hext.skip verbose)

/-- The sign of a lazy repetition is skipped or not whatever the tail is, as no
tail begins with it. -/
theorem Extends.skipLazySign (hext : Extends text F) :
    Extends (skipLazySign text) (fun u => skipLazySign (F u)) := by
  by_cases h : text.head? = some '?'
  · obtain ⟨rest, rfl⟩ := List.head?_eq_some_iff.mp h
    obtain ⟨G, hG, hF⟩ := hext.cons
    simpa only [hF, Reader.skipLazySign] using hG
  · have hsame : ∀ {text : List Char}, text.head? ≠ some '?' → Reader.skipLazySign text = text := by
      intro text h
      unfold Reader.skipLazySign
      split
      · exact absurd rfl h
      · rfl
    simpa only [hsame h, hsame (mt (hext.head_eq_iff (by decide) _).mp h)] using hext

/-! ### Signs -/

namespace Reading

/-- Reads one sign, whose first character is apart from the rest of the text. -/
def sign? (s : Reading) (c : Char) (rest : List Char) : Option (Reading × List Char) :=
  match c with
  | '(' => s.open? rest
  | ')' => s.close?.map (·, rest)
  | '|' => some (s.branch, rest)
  | '[' => (class? s.verbose rest).map fun (item, rest) => (s.push item, rest)
  | '?' => (s.repeat? 0 (some 1)).map (·, skipLazySign rest)
  | '*' => (s.repeat? 0 none).map (·, skipLazySign rest)
  | '+' => (s.repeat? 1 none).map (·, skipLazySign rest)
  | '\x7B' =>
    (bounds? s.verbose rest).bind fun ((min, max), rest) =>
      (s.repeat? min max).map (·, skipLazySign (skip s.verbose rest))
  | '\\' => (escape? s.verbose rest).map fun (item, rest) => (s.push item, rest)
  | '.' => some (s.push .dot, rest)
  | '^' => some (s.push (.assertion .lineStart), rest)
  | '$' => some (s.push (.assertion .lineEnd), rest)
  | c => some (s.push (.literal ⟨c, false⟩), rest)

end Reading

/-- At the end of a pattern, blanks and comments apart, the pattern is
closed. -/
theorem readAll_nil {s : Reading} {n : Nat} (h : skip s.verbose text = []) :
    readAll? (n + 1) s text = s.finish? := by
  simp only [readAll?, h]

/-- Before the end of a pattern one sign is read, and then the rest. -/
theorem readAll_cons {s : Reading} {n : Nat} {c : Char} (h : skip s.verbose text = c :: rest) :
    readAll? (n + 1) s text = (s.sign? c rest).bind fun (s, rest) => readAll? n s rest := by
  rw [readAll?, h]
  unfold Reading.sign?
  split <;> rename_i heq
  · exact nomatch heq
  all_goals obtain ⟨rfl, rfl⟩ := List.cons.inj heq
  all_goals simp only [Option.bind_eq_bind, Option.bind_assoc, Option.bind_map, Function.comp_def,
    Option.bind_some]

theorem steady_repeat (o : Option Reading) : Steady fun text => o.map (·, skipLazySign text) :=
  (Steady.ofOption o).comp Extends.skipLazySign

theorem steady_sign (s : Reading) (c : Char) : Steady (s.sign? c) := by
  intro text s' rest F h hext
  unfold Reading.sign? at h ⊢
  split at h
  case h_1 => exact steady_open s h hext
  case h_2 => exact Steady.ofOption s.close? h hext
  case h_4 => exact (steady_class s.verbose).map (s.push ·) h hext
  case h_5 => exact steady_repeat _ h hext
  case h_6 => exact steady_repeat _ h hext
  case h_7 => exact steady_repeat _ h hext
  case h_8 =>
    exact (steady_bounds s.verbose).bind
      (fun b => (steady_repeat (s.repeat? b.1 b.2)).comp (Extends.skip s.verbose)) h hext
  case h_9 => exact (steady_escape s.verbose).map (s.push ·) h hext
  all_goals exact Steady.pure _ h hext

/-! ### Readings inside open groups -/

/-- What is open around a pattern has no finished alternatives at its innermost
place. -/
def Grounded (base : List OpenTree) : Prop := ∀ finished stack, base ≠ .branches finished :: stack

namespace Reading

variable {s s' : Reading} {base : List OpenTree}

/-- The reading with more open around it: groups that were open before it began,
below those that it has opened itself. -/
def under (s : Reading) (base : List OpenTree) : Reading := { s with stack := s.stack ++ base }

@[simp] theorem under_verbose : (s.under base).verbose = s.verbose := rfl

/-- With more groups open around it, what closes is what closes without them. -/
theorem closeBranches_under (hbase : Grounded base) :
    (s.under base).closeBranches = (s.closeBranches.1, s.closeBranches.2 ++ base) := by
  obtain ⟨stack, items, verbose, names⟩ := s
  simp only [closeBranches, under]
  rcases stack with _ | ⟨_ | finished, stack⟩
  · rcases base with _ | ⟨_ | finished, base⟩
    · rfl
    · rfl
    · exact absurd rfl (hbase finished base)
  · rfl
  · rfl

/-- A pattern comes to an end if no group is left open, and is then the tree of
its branches. -/
theorem finish_eq_some_iff {tree : Tree} :
    s.finish? = some tree ↔ s.closeBranches = (tree, []) := by
  unfold finish?
  split
  · next hclose => simp [hclose]
  · next hopen =>
    constructor
    · intro h
      exact nomatch h
    · intro hclose
      exact absurd hclose (hopen tree)

/-- A parenthesis closes the innermost group, whatever groups are open around
it. -/
theorem close_under (hbase : Grounded base) (h : s.close? = some s') :
    (s.under base).close? = some (s'.under base) := by
  unfold close? at h ⊢
  rw [closeBranches_under hbase]
  split at h
  · next body outer changes verbose stack hclose =>
    obtain rfl := Option.some.inj h
    rw [hclose]
    rfl
  · exact nomatch h

/-- A bar opens a branch in the innermost group, whatever groups are open around
it. -/
theorem branch_under (hbase : Grounded base) : (s.under base).branch = s.branch.under base := by
  obtain ⟨stack, items, verbose, names⟩ := s
  simp only [branch, under]
  rcases stack with _ | ⟨_ | finished, stack⟩
  · rcases base with _ | ⟨_ | finished, base⟩
    · rfl
    · rfl
    · exact absurd rfl (hbase finished base)
  · rfl
  · rfl

/-- The expression that is repeated is the last one of the innermost group,
whatever groups are open around it. -/
theorem repeat_under (min : Nat) (max : Option Nat) (h : s.repeat? min max = some s') :
    (s.under base).repeat? min max = some (s'.under base) := by
  unfold repeat? at h ⊢
  simp only [under]
  split at h
  · exact nomatch h
  · exact nomatch h
  · next hitems =>
    obtain rfl := Option.some.inj h
    simp_all

theorem openNamedGroup_under (h : s.openNamedGroup? text = some (s', rest)) :
    (s.under base).openNamedGroup? text = some (s'.under base, rest) := by
  simp only [openNamedGroup?, Option.bind_eq_bind, Option.bind_eq_some_iff] at h ⊢
  obtain ⟨⟨name, after⟩, hname, h⟩ := h
  refine ⟨_, hname, ?_⟩
  split at h
  · exact nomatch h
  · next hfresh =>
    obtain ⟨rfl, rfl⟩ := Prod.mk.inj (Option.some.inj h)
    exact if_neg hfresh

theorem openFlags_under (h : s.openFlags? text = some (s', rest)) :
    (s.under base).openFlags? text = some (s'.under base, rest) := by
  simp only [openFlags?, Option.bind_eq_bind, Option.bind_eq_some_iff] at h ⊢
  obtain ⟨⟨changes, last, after⟩, hflags, h⟩ := h
  refine ⟨_, hflags, ?_⟩
  split at h
  · next hlast =>
    obtain ⟨rfl, rfl⟩ := Prod.mk.inj (Option.some.inj h)
    exact if_pos hlast
  · next hlast =>
    split at h
    · exact nomatch h
    · next hchanges =>
      obtain ⟨rfl, rfl⟩ := Prod.mk.inj (Option.some.inj h)
      exact (if_neg hlast).trans (if_neg hchanges)

theorem open_under (h : s.open? text = some (s', rest)) :
    (s.under base).open? text = some (s'.under base, rest) := by
  unfold open? at h ⊢
  rw [under_verbose]
  split at h
  · exact nomatch h
  · exact nomatch h
  · exact nomatch h
  · exact nomatch h
  · exact openNamedGroup_under h
  · exact openNamedGroup_under h
  · exact openFlags_under h
  · obtain ⟨rfl, rfl⟩ := Prod.mk.inj (Option.some.inj h)
    rfl

theorem map_repeat_under {min : Nat} {max : Option Nat} {after : List Char}
    (h : (s.repeat? min max).map (·, after) = some (s', rest)) :
    ((s.under base).repeat? min max).map (·, after) = some (s'.under base, rest) := by
  obtain ⟨s', hrepeat, ⟨⟩⟩ := Option.map_eq_some_iff.mp h
  rw [repeat_under min max hrepeat]
  rfl

theorem map_push_under {o : Option (Tree × List Char)}
    (h : (o.map fun (item, rest) => (s.push item, rest)) = some (s', rest)) :
    (o.map fun (item, rest) => ((s.under base).push item, rest)) = some (s'.under base, rest) := by
  obtain ⟨⟨item, _⟩, rfl, ⟨⟩⟩ := Option.map_eq_some_iff.mp h
  rfl

/-- A sign is read the same with more groups open around it. -/
theorem sign_under {c : Char} (hbase : Grounded base) (h : s.sign? c text = some (s', rest)) :
    (s.under base).sign? c text = some (s'.under base, rest) := by
  unfold sign? at h ⊢
  simp only [under_verbose]
  split at h
  case h_1 => exact open_under h
  case h_2 =>
    obtain ⟨s', hclose, ⟨⟩⟩ := Option.map_eq_some_iff.mp h
    rw [close_under hbase hclose]
    rfl
  case h_3 =>
    obtain ⟨rfl, rfl⟩ := Prod.mk.inj (Option.some.inj h)
    rw [branch_under hbase]
  case h_4 => exact map_push_under h
  case h_5 => exact map_repeat_under h
  case h_6 => exact map_repeat_under h
  case h_7 => exact map_repeat_under h
  case h_8 =>
    obtain ⟨⟨⟨min, max⟩, after⟩, hbounds, hmap⟩ := Option.bind_eq_some_iff.mp h
    rw [hbounds, Option.bind_some]
    exact map_repeat_under hmap
  case h_9 => exact map_push_under h
  all_goals
    obtain ⟨rfl, rfl⟩ := Prod.mk.inj (Option.some.inj h)
    rfl

end Reading

/-! ### From sign to sign -/

/-- So many signs lead from one reading and text to another.  Blanks and
comments before a sign are no signs and are left out where they may stand. -/
inductive Reads : Nat → Reading → List Char → Reading → List Char → Prop where
  | done {s : Reading} {text : List Char} : Reads 0 s text s text
  | sign {n : Nat} {s s₁ s₂ : Reading} {c : Char} {text rest rest₁ rest₂ : List Char} :
      skip s.verbose text = c :: rest → s.sign? c rest = some (s₁, rest₁) →
      Reads n s₁ rest₁ s₂ rest₂ → Reads (n + 1) s text s₂ rest₂

namespace Reads

variable {n : Nat} {s s' : Reading} {text' : List Char}

/-- After the signs of a row of steps the reader stands where the steps lead to,
and goes on from there. -/
theorem readAll_eq (h : Reads n s text s' text') (k : Nat) :
    readAll? (n + k) s text = readAll? k s' text' := by
  induction h with
  | done => rw [Nat.zero_add]
  | @sign n _ _ _ _ _ _ _ _ hskip hsign _ ih =>
    rw [Nat.add_right_comm, readAll_cons hskip, hsign, Option.bind_some]
    exact ih

/-- A text with a tree is read sign by sign up to its end.  The fuel is never
used up, as each sign takes a character. -/
theorem exists_of_readAll {fuel : Nat} {tree : Tree} (h : readAll? fuel s text = some tree) :
    ∃ n < fuel, ∃ s' text', Reads n s text s' text' ∧ skip s'.verbose text' = [] ∧
      s'.finish? = some tree := by
  induction fuel generalizing s text with
  | zero => exact nomatch h
  | succ fuel ih =>
    cases hskip : skip s.verbose text with
    | nil =>
      rw [readAll_nil hskip] at h
      exact ⟨0, Nat.succ_pos fuel, s, text, .done, hskip, h⟩
    | cons c rest =>
      rw [readAll_cons hskip] at h
      obtain ⟨⟨s₁, rest₁⟩, hsign, h⟩ := Option.bind_eq_some_iff.mp h
      obtain ⟨n, hn, s', text', hreads, hend, hfinish⟩ := ih h
      exact ⟨n + 1, Nat.succ_lt_succ hn, s', text', .sign hskip hsign hreads, hend, hfinish⟩

/-- **The signs of a text are read the same when it goes on and inside open
groups.** -/
theorem extend (h : Reads n s text s' text') (hext : Extends text F) :
    ∃ G, Extends text' G ∧
      ∀ u base, Grounded base → Reads n (s.under base) (F u) (s'.under base) (G u) := by
  induction h generalizing F with
  | done => exact ⟨F, hext, fun _ _ _ => .done⟩
  | @sign n s s₁ s₂ c text rest rest₁ rest₂ hskip hsign _ ih =>
    obtain ⟨G, hG, hF⟩ := (hskip ▸ hext.skip s.verbose).cons
    obtain ⟨H, hH, hsignG⟩ := steady_sign s c hsign hG
    obtain ⟨K, hK, hreads⟩ := ih hH
    exact ⟨K, hK, fun u base hbase =>
      .sign (hF u) (Reading.sign_under hbase (hsignG u)) (hreads u base hbase)⟩

end Reads

end DocPath.Regex.Reader

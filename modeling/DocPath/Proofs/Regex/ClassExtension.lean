import DocPath.Proofs.Regex.Extension
import DocPath.Regex.Reader.ClassReader

/-! # Classes in patterns that go on

A class that is read to its closing bracket is read the same from a text that
goes on.  Two parts of the reader look ahead without need of success and have
lemmas of their own: what is no named class does not become one
(`namedClass_eq_none`), and a hyphen does not come to stand before another
hyphen or a bracket (`afterHyphen_iff`). -/

namespace DocPath.Regex.Reader

variable {text rest : List Char} {F : Tail → List Char} {verbose : Bool}

/-! ### The start of a class -/

/-- The sign of negation, if there is one, and the text after it without the
blanks and comments that are left out. -/
def negation? (verbose : Bool) (text : List Char) : Option (Bool × List Char) :=
  match skip verbose text with
  | [] => none
  | '^' :: rest => some (true, skip verbose rest)
  | start => some (false, start)

/-- The hyphens or the closing bracket that stand for themselves in first
place. -/
def firstItems? (verbose : Bool) (start : List Char) : Option (List ClassTree × List Char) :=
  match run verbose (· == '-') start with
  | (_, []) => none
  | ([], ']' :: after) =>
    match skip verbose after with
    | [] => none
    | after => some ([.literal ⟨']', false⟩], after)
  | (hyphens, rest) => some (hyphens.map fun c => .literal ⟨c, false⟩, rest)

/-- The start of a class as two parts, the sign of negation and the items that
may stand only there. -/
theorem classStart_eq (verbose : Bool) (text : List Char) :
    classStart? verbose text =
      (negation? verbose text).bind fun (negated, start) =>
        (firstItems? verbose start).map fun (items, rest) => (negated, items, rest) := by
  delta classStart?
  extract_lets inside
  have hinside : inside = negation? verbose text := rfl
  rw [← hinside]
  rcases inside with _ | ⟨negated, start⟩
  · rfl
  · simp only [Option.bind_some, firstItems?]
    generalize run verbose (· == '-') start = r
    obtain ⟨hyphens, rest⟩ := r
    cases rest with
    | nil => simp
    | cons d rest =>
      cases hyphens with
      | cons c hyphens => simp
      | nil =>
        by_cases hd : d = ']'
        · subst hd
          cases hafter : skip verbose rest <;> simp [hafter]
        · simp [hd]

theorem steady_negation (verbose : Bool) : Steady (negation? verbose) := by
  intro text negated rest F h hext
  have hskip := hext.skip verbose
  unfold negation? at h
  cases hinner : skip verbose text with
  | nil => simp [hinner] at h
  | cons c inner =>
    rw [hinner] at h hskip
    obtain ⟨G, hG, hF⟩ := hskip.cons
    by_cases hc : c = '^'
    · subst hc
      obtain ⟨rfl, rfl⟩ := Prod.mk.inj (Option.some.inj h)
      exact ⟨_, hG.skip verbose, fun u => by simp only [negation?, hF]⟩
    · simp [hc] at h
      obtain ⟨rfl, rfl⟩ := h
      exact ⟨_, hskip, fun u => by simp [negation?, hF, hc]⟩

/-- Hyphens at the start of a class stand for themselves, unless the class would
be closed right there. -/
theorem firstItems_of_run {start hyphens : List Char} {d : Char}
    (hrun : run verbose (· == '-') start = (hyphens, d :: rest)) (h : ¬ (hyphens = [] ∧ d = ']')) :
    firstItems? verbose start = some (hyphens.map fun c => .literal ⟨c, false⟩, d :: rest) := by
  cases hyphens with
  | nil =>
    have hd : d ≠ ']' := fun hd => h ⟨rfl, hd⟩
    simp [firstItems?, hrun, hd]
  | cons c hyphens => simp [firstItems?, hrun]

theorem steady_firstItems (verbose : Bool) : Steady (firstItems? verbose) := by
  intro start items rest F h hext
  rcases hrun : run verbose (· == '-') start with ⟨hyphens, _ | ⟨d, after⟩⟩
  · simp [firstItems?, hrun] at h
  · obtain ⟨S, hS, hrunS⟩ := hext.run hrun (by simp)
    obtain ⟨G, hG, hSG⟩ := hS.cons
    simp only [hSG] at hrunS
    by_cases hfirst : hyphens = [] ∧ d = ']'
    · obtain ⟨rfl, rfl⟩ := hfirst
      have hskip := hG.skip verbose
      cases hafter : skip verbose after with
      | nil => simp [firstItems?, hrun, hafter] at h
      | cons e inner =>
        simp only [firstItems?, hrun, hafter, Option.some.injEq, Prod.mk.injEq] at h
        obtain ⟨rfl, rfl⟩ := h
        rw [hafter] at hskip
        obtain ⟨H, hH, hGH⟩ := hskip.cons
        exact ⟨_, hskip, fun u => by simp only [firstItems?, hrunS, hGH]⟩
    · rw [firstItems_of_run hrun hfirst] at h
      obtain ⟨rfl, rfl⟩ := Prod.mk.inj (Option.some.inj h)
      exact ⟨S, hS, fun u => by rw [hSG, firstItems_of_run (hrunS u) hfirst]⟩

theorem classStart_extend {negated : Bool} {items : List ClassTree}
    (h : classStart? verbose text = some (negated, items, rest)) (hext : Extends text F) :
    ∃ G, Extends rest G ∧ ∀ u, classStart? verbose (F u) = some (negated, items, G u) := by
  simp only [classStart_eq, Option.bind_eq_some_iff, Option.map_eq_some_iff] at h ⊢
  obtain ⟨⟨_, start⟩, hneg, ⟨_, _⟩, hitems, ⟨⟩⟩ := h
  obtain ⟨S, hS, hstart⟩ := steady_negation verbose hneg hext
  obtain ⟨G, hG, hfirst⟩ := steady_firstItems verbose hitems hS
  exact ⟨G, hG, fun u => ⟨_, hstart u, _, hfirst u, rfl⟩⟩

/-! ### Named classes -/

/-- The named class between colons, after the first one and the sign of
negation. -/
def nameBody? (negated : Bool) (body : List Char) : Option (ClassTree × List Char) :=
  match body.span (· != ':') with
  | (name, ':' :: ']' :: after) =>
    (NamedClass.ofName? (String.ofList name)).map fun kind => (.named negated kind, after)
  | _ => none

/-- A named class begins with a colon, and perhaps a sign of negation after
it. -/
theorem namedClass_cons (c : Char) (text : List Char) :
    namedClass? (c :: text) =
      if c = ':' then
        if text.head? = some '^' then nameBody? true text.tail else nameBody? false text
      else none := by
  by_cases hc : c = ':'
  · subst hc
    cases text with
    | nil => rfl
    | cons d text =>
      by_cases hd : d = '^'
      · subst hd; rfl
      · have hhead : (d :: text).head? ≠ some '^' := by simpa using hd
        rw [if_pos rfl, if_neg hhead, namedClass?]
        · rfl
        · exact fun body h => hd (List.cons.inj h).1
  · simp [namedClass?, hc]

theorem steady_nameBody (negated : Bool) : Steady (nameBody? negated) := by
  intro body item rest F h hext
  unfold nameBody? at h
  split at h
  · next name after hspan =>
    obtain ⟨G, hG, hF⟩ := hext.span_cons hspan
    obtain ⟨H, hH, hGH⟩ := hG.cons
    obtain ⟨kind, hkind, hitem⟩ := Option.map_eq_some_iff.mp h
    obtain ⟨rfl, rfl⟩ := Prod.mk.inj hitem
    exact ⟨H, hH, fun u => by simp only [nameBody?, hF, hGH, hkind, Option.map_some]⟩
  · exact nomatch h

/-- No colon is added to a text without one. -/
theorem no_colon_of_extends (h : ':' ∉ text) (hext : Extends text F) (u : Tail) : ':' ∉ F u := by
  rcases hext with hF | ⟨-, hF⟩
  · simp [hF, Tail.text, h, u.no_colon]
  · simp [hF]

/-- A text is taken as a whole up to its first colon exactly if it has none. -/
theorem span_colon_snd_eq_nil_iff (text : List Char) :
    (text.span (· != ':')).2 = [] ↔ ':' ∉ text := by
  rw [List.span_eq_takeWhile_dropWhile, List.dropWhile_eq_nil_iff]
  constructor
  · intro h hmem
    simpa using h ':' hmem
  · intro h c hc
    rw [bne_iff_ne]
    rintro rfl
    exact h hc

/-- What is no name of a class does not become one in a text that goes on, as no
tail has a colon. -/
theorem nameBody_eq_none {negated : Bool} {body : List Char} (h : nameBody? negated body = none)
    (hext : Extends body F) (u : Tail) : nameBody? negated (F u) = none := by
  rcases hspan : body.span (· != ':') with ⟨name, _ | ⟨c, after⟩⟩
  · have hbody : ':' ∉ body := (span_colon_snd_eq_nil_iff body).mp (congrArg Prod.snd hspan)
    have hu := (span_colon_snd_eq_nil_iff (F u)).mpr (no_colon_of_extends hbody hext u)
    unfold nameBody?
    split
    · next hsome =>
      rw [hsome] at hu
      exact nomatch hu
    · rfl
  · obtain ⟨G, hG, hF⟩ := hext.span_cons hspan
    unfold nameBody?
    split
    · next name' after' hu =>
      obtain ⟨rfl, hafter⟩ := Prod.mk.inj ((hF u).symm.trans hu)
      obtain ⟨rfl, hbracket⟩ := List.cons.inj hafter
      obtain ⟨tail, -, rfl, -⟩ := hG.of_cons (by decide) hbracket
      simp only [nameBody?, hspan, Option.map_eq_none_iff] at h
      rw [h, Option.map_none]
    · rfl

theorem namedClass_eq_none (h : namedClass? text = none) (hext : Extends text F) (u : Tail) :
    namedClass? (F u) = none := by
  cases text with
  | nil => rcases hext.nil with hF | hF <;> simp [hF, namedClass?]
  | cons c text =>
    obtain ⟨G, hG, hF⟩ := hext.cons
    rw [hF, namedClass_cons]
    rw [namedClass_cons] at h
    by_cases hc : c = ':'
    · rw [if_pos hc] at h ⊢
      by_cases hd : text.head? = some '^'
      · obtain ⟨body, rfl⟩ := List.head?_eq_some_iff.mp hd
        obtain ⟨H, hH, hGH⟩ := hG.cons
        rw [hGH]
        exact nameBody_eq_none h hH u
      · rw [if_neg hd] at h
        rw [if_neg (mt (hG.head_eq_iff (by decide) u).mp hd)]
        exact nameBody_eq_none h hG u
    · exact if_neg hc

theorem steady_namedClass : Steady namedClass? := by
  intro text item rest F h hext
  cases text with
  | nil => exact nomatch h
  | cons c text =>
    obtain ⟨G, hG, hF⟩ := hext.cons
    simp only [hF, namedClass_cons] at h ⊢
    split at h
    · next hc =>
      simp only [hc, if_true]
      split at h
      · next hd =>
        obtain ⟨body, rfl⟩ := List.head?_eq_some_iff.mp hd
        obtain ⟨H, hH, hGH⟩ := hG.cons
        simp only [hGH, List.head?_cons, if_true, List.tail_cons]
        exact steady_nameBody true h hH
      · next hd =>
        simp only [hG.head_eq_iff (show '^' ≠ ')' by decide), hd, if_false]
        exact steady_nameBody false h hG
    · exact nomatch h

/-! ### Signs and ranges -/

theorem steady_classSign (verbose : Bool) : Steady (classSign? verbose) := by
  intro text sign rest F h hext
  cases text with
  | nil => exact nomatch h
  | cons c text =>
    obtain ⟨G, hG, hF⟩ := hext.cons
    simp only [hF]
    by_cases hc : c = '\\'
    · subst hc
      exact steady_escape verbose h hG
    · simp only [classSign?] at h ⊢
      exact Steady.pure _ h hG

/-- The search behind a hyphen comes to the parenthesis of the tail if it finds
nothing before. -/
theorem past_append (inComment : Bool) (text : List Char) (u : Tail) :
    afterHyphen?.past inComment (text ++ u.text) =
      (afterHyphen?.past inComment text).or (some ')') := by
  induction text generalizing inComment with
  | nil =>
    have hblank : Unicode.isBlank ')' = false := by decide
    simp [Tail.text, afterHyphen?.past, hblank]
  | cons c text ih =>
    simp only [List.cons_append, afterHyphen?.past]
    split
    · exact ih inComment
    · split
      · exact ih true
      · rfl

/-- What the search behind a hyphen passes over is blank or the sign of a
comment. -/
theorem passed_of_past_eq_none {inComment : Bool} (h : afterHyphen?.past inComment text = none) :
    ∀ c ∈ text, Unicode.isBlank c = true ∨ c = '#' := by
  induction text generalizing inComment with
  | nil => simp
  | cons c text ih =>
    rw [List.forall_mem_cons]
    simp only [afterHyphen?.past] at h
    split at h
    · next hc => exact ⟨.inl hc, ih h⟩
    · split at h
      · next hc =>
        simp only [Bool.and_eq_true, beq_iff_eq] at hc
        exact ⟨.inr hc.2, ih h⟩
      · exact nomatch h

/-- In a verbose pattern a sign that is not passed over is found behind a hyphen
by the search alone. -/
theorem afterHyphen_true_iff {d : Char} (hblank : Unicode.isBlank d = false) (hcomment : d ≠ '#') :
    afterHyphen? true text = some d ↔ afterHyphen?.past false text = some d := by
  cases hpast : afterHyphen?.past false text with
  | some e => simp [afterHyphen?, hpast]
  | none =>
    cases text with
    | nil => simp [afterHyphen?, hpast]
    | cons c text =>
      have hc := passed_of_past_eq_none hpast c List.mem_cons_self
      have hne : c ≠ d := by
        rintro rfl
        rcases hc with hc | hc
        · rw [hblank] at hc
          exact nomatch hc
        · exact hcomment hc
      simpa [afterHyphen?, hpast] using hne

/-- A sign that is neither passed over nor a parenthesis stands behind a hyphen
in the longer text just when it does in the text. -/
theorem afterHyphen_iff {d : Char} (hext : Extends text F) (hblank : Unicode.isBlank d = false)
    (hcomment : d ≠ '#') (hd : d ≠ ')') (u : Tail) :
    afterHyphen? verbose (F u) = some d ↔ afterHyphen? verbose text = some d := by
  cases verbose with
  | false => exact hext.head_eq_iff hd u
  | true =>
    rw [afterHyphen_true_iff hblank hcomment, afterHyphen_true_iff hblank hcomment]
    rcases hext with hF | ⟨rfl, hF⟩
    · rw [hF, past_append]
      cases afterHyphen?.past false text <;> simp [hd.symm]
    · rw [hF]

/-- Whether a hyphen stands for itself because another one or the end of the
class follows. -/
def standsAlone (verbose : Bool) (after : List Char) : Bool :=
  afterHyphen? verbose after == some ']' || afterHyphen? verbose after == some '-'

/-- A hyphen that stands for itself does so in a text that goes on, and no other
hyphen does. -/
theorem standsAlone_extend (hext : Extends text F) (u : Tail) :
    standsAlone verbose (F u) = standsAlone verbose text := by
  rw [Bool.eq_iff_iff]
  simp only [standsAlone, Bool.or_eq_true, beq_iff_eq,
    afterHyphen_iff (d := ']') hext (by decide) (by decide) (by decide) u,
    afterHyphen_iff (d := '-') hext (by decide) (by decide) (by decide) u]

/-- What two signs with a hyphen between them stand for: a range between two
literals in order. -/
def rangeOf? : Tree → Tree → Option ClassTree
  | .literal lo, .literal hi => if lo.char ≤ hi.char then some (.range lo hi) else none
  | _, _ => none

/-- What comes after the first sign of an item: the end of the item, or a hyphen
and a second sign. -/
def afterSign? (verbose : Bool) (first : Tree) (text : List Char) :
    Option (ClassTree × List Char) :=
  match skip verbose text with
  | [] => none
  | '-' :: after =>
    if standsAlone verbose after then (itemOfSign? first).map (·, '-' :: after)
    else (classSign? verbose (skip verbose after)).bind fun (second, rest) =>
      (rangeOf? first second).map (·, rest)
  | rest => (itemOfSign? first).map (·, rest)

/-- An item as two parts, its first sign and what comes after it. -/
theorem classItem_eq (verbose : Bool) (text : List Char) :
    classItem? verbose text =
      (classSign? verbose text).bind fun (first, rest) => afterSign? verbose first rest := by
  unfold classItem? afterSign? standsAlone
  congr 1
  funext ⟨first, rest⟩
  dsimp only
  generalize skip verbose rest = start
  rcases start with _ | ⟨c, after⟩
  · rfl
  · by_cases hc : c = '-'
    · subst hc
      refine if_congr Iff.rfl ?_ ?_
      · cases itemOfSign? first <;> rfl
      · congr 1
        funext ⟨second, rest⟩
        unfold rangeOf?
        dsimp only
        split
        · split <;> simp [*]
        · simp
    · simp [hc]
      cases itemOfSign? first <;> rfl

/-- After a hyphen the second sign of a range is read, unless the hyphen stands
for itself. -/
theorem afterSign_hyphen {first : Tree} {after : List Char} (h : skip verbose text = '-' :: after) :
    afterSign? verbose first text =
      if standsAlone verbose after then (itemOfSign? first).map (·, '-' :: after)
      else (classSign? verbose (skip verbose after)).bind fun (second, rest) =>
        (rangeOf? first second).map (·, rest) := by
  simp only [afterSign?, h]

/-- Without a hyphen the first sign is the whole item. -/
theorem afterSign_end {first : Tree} {c : Char} {after : List Char}
    (h : skip verbose text = c :: after) (hc : c ≠ '-') :
    afterSign? verbose first text = (itemOfSign? first).map (·, c :: after) := by
  simp [afterSign?, h, hc]

theorem steady_afterSign (verbose : Bool) (first : Tree) : Steady (afterSign? verbose first) := by
  intro text item rest F h hext
  have hskip := hext.skip verbose
  cases hstart : skip verbose text with
  | nil => simp [afterSign?, hstart] at h
  | cons c after =>
    rw [hstart] at hskip
    obtain ⟨G, hG, hF⟩ := hskip.cons
    by_cases hc : c = '-'
    · subst hc
      simp only [afterSign_hyphen hstart] at h
      simp only [afterSign_hyphen (hF _), standsAlone_extend hG]
      split at h
      · next halone =>
        obtain ⟨item, hitem, ⟨⟩⟩ := Option.map_eq_some_iff.mp h
        exact ⟨_, hskip, fun u => by simp only [halone, if_true, hitem, Option.map_some, hF]⟩
      · next halone =>
        obtain ⟨⟨second, _⟩, hsecond, hrange⟩ := Option.bind_eq_some_iff.mp h
        obtain ⟨item, hitem, ⟨⟩⟩ := Option.map_eq_some_iff.mp hrange
        obtain ⟨H, hH, hGH⟩ := steady_classSign verbose hsecond (hG.skip verbose)
        exact ⟨H, hH, fun u => by simp [halone, hGH, hitem]⟩
    · rw [afterSign_end hstart hc] at h
      obtain ⟨item, hitem, ⟨⟩⟩ := Option.map_eq_some_iff.mp h
      exact ⟨_, hskip, fun u => by simp only [afterSign_end (hF u) hc, hitem, Option.map_some, hF]⟩

theorem steady_classItem (verbose : Bool) : Steady (classItem? verbose) := by
  simpa only [← classItem_eq] using
    (steady_classSign verbose).bind (steady_afterSign verbose)

/-! ### Items -/

/-- The items of a class are read the same from a text that goes on, with so
much fuel or more. -/
theorem classItems_extend {n : Nat} {stack : List OpenClass} {items : List ClassTree} {tree : Tree}
    (h : classItems? verbose n stack items text = some (tree, rest)) (hext : Extends text F) :
    ∃ G, Extends rest G ∧
      ∀ u k, classItems? verbose (n + k) stack items (F u) = some (tree, G u) := by
  induction n generalizing stack items text F with
  | zero => exact nomatch h
  | succ n ih =>
    have hskip := hext.skip verbose
    have hfuel : ∀ k, n + 1 + k = n + k + 1 := fun k => Nat.add_right_comm n 1 k
    simp only [hfuel]
    simp only [classItems?] at h
    split at h
    · exact nomatch h
    · next inner hinner =>
      obtain ⟨G, hG, hF⟩ := (hinner ▸ hskip).cons
      split at h
      · next item after hnamed =>
        obtain ⟨H, hH, hGH⟩ := steady_namedClass hnamed hG
        obtain ⟨K, hK, hread⟩ := ih h hH
        exact ⟨K, hK, fun u k => by simp only [classItems?, hF, hGH, hread]⟩
      · next hnamed =>
        simp only [Option.bind_eq_bind, Option.bind_eq_some_iff] at h
        obtain ⟨⟨negated, firsts, after⟩, hstart, h⟩ := h
        obtain ⟨H, hH, hGH⟩ := classStart_extend hstart hG
        obtain ⟨K, hK, hread⟩ := ih h hH
        refine ⟨K, hK, fun u k => ?_⟩
        simp only [classItems?, hF, namedClass_eq_none hnamed hG u, hGH, Option.bind_eq_bind,
          Option.bind_some, hread]
    · next inner hinner =>
      obtain ⟨G, hG, hF⟩ := (hinner ▸ hskip).cons
      split at h
      · next content negated hclose =>
        obtain ⟨rfl, rfl⟩ := Prod.mk.inj (Option.some.inj h)
        exact ⟨G, hG, fun u k => by simp only [classItems?, hF, hclose]⟩
      · next content outer negated stack hlong hclose =>
        obtain ⟨K, hK, hread⟩ := ih h hG
        exact ⟨K, hK, fun u k => by simp only [classItems?, hF, hclose, hread]⟩
      · exact nomatch h
    · next inner hinner =>
      obtain ⟨G, hG, hF⟩ := (hinner ▸ hskip).cons_cons
      obtain ⟨K, hK, hread⟩ := ih h hG
      exact ⟨K, hK, fun u k => by simp only [classItems?, hF, hread]⟩
    · next inner hinner =>
      obtain ⟨G, hG, hF⟩ := (hinner ▸ hskip).cons_cons
      obtain ⟨K, hK, hread⟩ := ih h hG
      exact ⟨K, hK, fun u k => by simp only [classItems?, hF, hread]⟩
    · next inner hinner =>
      obtain ⟨G, hG, hF⟩ := (hinner ▸ hskip).cons_cons
      obtain ⟨K, hK, hread⟩ := ih h hG
      exact ⟨K, hK, fun u k => by simp only [classItems?, hF, hread]⟩
    · next hnil hopen hclose hand hminus htilde =>
      simp only [Option.bind_eq_bind, Option.bind_eq_some_iff] at h
      obtain ⟨⟨item, after⟩, hitem, h⟩ := h
      obtain ⟨H, hH, hGH⟩ := steady_classItem verbose hitem hskip
      obtain ⟨K, hK, hread⟩ := ih h hH
      refine ⟨K, hK, fun u k => ?_⟩
      -- no bracket and no operation comes about where the text goes on with a parenthesis
      have htwice : ∀ c inner, c ≠ ')' → skip verbose (F u) = c :: c :: inner →
          ∃ inner, skip verbose text = c :: c :: inner := by
        intro c inner hc hu
        obtain ⟨rest, G, htext, hG, hFG⟩ := hskip.of_cons hc hu
        obtain ⟨rest, -, rfl, -⟩ := hG.of_cons hc (List.cons.inj ((hFG u).symm.trans hu)).2
        exact ⟨rest, htext⟩
      simp only [classItems?]
      split
      · next hu =>
        have hlen := hskip.length_le u
        rw [hu, List.length_nil, Nat.le_zero, List.length_eq_zero_iff] at hlen
        exact absurd hlen hnil
      · next inner hu =>
        obtain ⟨inner, -, htext, -⟩ := hskip.of_cons (by decide) hu
        exact absurd htext (hopen inner)
      · next inner hu =>
        obtain ⟨inner, -, htext, -⟩ := hskip.of_cons (by decide) hu
        exact absurd htext (hclose inner)
      · next inner hu =>
        obtain ⟨inner, htext⟩ := htwice '&' inner (by decide) hu
        exact absurd htext (hand inner)
      · next inner hu =>
        obtain ⟨inner, htext⟩ := htwice '-' inner (by decide) hu
        exact absurd htext (hminus inner)
      · next inner hu =>
        obtain ⟨inner, htext⟩ := htwice '~' inner (by decide) hu
        exact absurd htext (htilde inner)
      · simp only [hGH, Option.bind_eq_bind, Option.bind_some, hread]

/-- A class with its brackets is read the same when the text goes on. -/
theorem steady_class (verbose : Bool) : Steady (class? verbose) := by
  intro text tree rest F h hext
  simp only [class?, Option.bind_eq_bind, Option.bind_eq_some_iff] at h
  obtain ⟨⟨negated, items, start⟩, hstart, h⟩ := h
  obtain ⟨G, hG, hGstart⟩ := classStart_extend hstart hext
  obtain ⟨K, hK, hread⟩ := classItems_extend h hG
  refine ⟨K, hK, fun u => ?_⟩
  obtain ⟨k, hk⟩ := Nat.exists_eq_add_of_le (hext.length_le u)
  have hfuel : (F u).length + 1 = text.length + 1 + k := by omega
  simp only [class?, hGstart, Option.bind_eq_bind, Option.bind_some, hfuel, hread]

end DocPath.Regex.Reader

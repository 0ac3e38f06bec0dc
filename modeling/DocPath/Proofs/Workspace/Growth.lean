import DocPath.Proofs.Filter.Acceptance
import DocPath.Proofs.Path.Failure
import DocPath.Proofs.Path.Located
import DocPath.Proofs.Workspace.History
import Mathlib.Data.List.Flatten

/-! # Filters that grow

A shared filter may take further criteria and may be poisoned, and nothing that
it rejects is ever accepted later (`Predicate.accepts_of_later`).  So a step
selects at a later time a part of what it selected before, and a row of steps
does too, however often the same filter is among them.  `readList_run_sublist`
says this of the reads of a path between any actions in a workspace, and that a
read is empty once a filter that the path uses is poisoned. -/

namespace DocPath

variable {earlier later : Shelf} {h : Handle}

/-! ## Later times -/

/-- A shared filter at a later time: it has the same criteria and perhaps more,
and it stays poisoned. -/
structure SharedFilter.Later (s t : SharedFilter) : Prop where
  grown : s.filter.criteria <+: t.filter.criteria
  poisoned : s.poisoned = true → t.poisoned = true

/-- A shelf at a later time: each filter is still there, under its handle, and
has only grown. -/
def Shelf.Later (earlier later : Shelf) : Prop :=
  ∀ h s, earlier.get? h = some s → ∃ t, later.get? h = some t ∧ s.Later t

theorem Workspace.later_run (w : Workspace) (actions : List Action) :
    w.shelf.Later (w.run actions).shelf := by
  intro h s hs
  refine ⟨_, get?_run actions hs, ?_, ?_⟩
  · exact List.prefix_append _ _
  · intro hp
    rw [hp, Bool.true_or]

/-! ## Predicates -/

namespace Predicate

variable {p : Predicate} {v : Value}

/-- A predicate that can be put to nodes: if it is a shared filter, then this is
on the shelf. -/
def Held (shelf : Shelf) (p : Predicate) : Prop := ∀ h, p = shared h → ∃ s, shelf.get? h = some s

theorem Held.of_later (hp : p.Held earlier) (hlater : earlier.Later later) : p.Held later := by
  intro h he
  obtain ⟨s, hs⟩ := hp h he
  obtain ⟨t, ht, -⟩ := hlater h s hs
  exact ⟨t, ht⟩

theorem accepts_shared_iff {shelf : Shelf} :
    (shared h).accepts shelf v = true ↔
      ∃ f, shelf.get? h = some ⟨f, false⟩ ∧ f.accepts v = true := by
  show (test shelf (shared h) v).value = true ↔ _
  simp only [test]
  split
  · next f hs =>
    constructor
    · exact fun hf => ⟨f, hs, hf⟩
    · rintro ⟨g, hg, hv⟩
      rw [hs] at hg
      cases hg
      exact hv
  · next hno =>
    constructor
    · intro hf
      cases hf
    · rintro ⟨f, hf, -⟩
      exact absurd hf (hno f)

theorem accepts_of_later (hlater : earlier.Later later) (hp : p.Held earlier)
    (hv : p.accepts later v = true) : p.accepts earlier v = true := by
  cases p with
  | filter f => exact hv
  | criterion c => exact hv
  | custom accepts => exact hv
  | shared h =>
    obtain ⟨⟨f, poisoned⟩, hs⟩ := hp h rfl
    obtain ⟨g, hg, hv⟩ := accepts_shared_iff.mp hv
    obtain ⟨t, ht, hgrown, hpoisoned⟩ := hlater h _ hs
    rw [hg] at ht
    cases ht
    refine accepts_shared_iff.mpr ⟨f, ?_, ?_⟩
    · cases poisoned with
      | false => exact hs
      | true => cases hpoisoned rfl
    · -- what passes all criteria passes the first ones
      rw [Filter.accepts_iff] at hv ⊢
      exact fun c hc => hv c (hgrown.subset hc)

end Predicate

/-! ## Steps -/

namespace Step

variable {step : Step} {steps : List Step} {n : Located} {ns ms : List Located}

/-- A step whose predicate, if it has one, can be put to nodes, as a shared
filter that it is bound to is on the shelf. -/
def Held (shelf : Shelf) (step : Step) : Prop :=
  ∀ p expandArrays, step = predicate p expandArrays → p.Held shelf

theorem located_sublist (hlater : earlier.Later later) (hstep : step.Held earlier) :
    (step.located later n).Sublist (step.located earlier n) := by
  cases step with
  | predicate p expandArrays =>
    have hp : p.Held earlier := hstep p expandArrays rfl
    exact List.monotone_filter_right _ fun c => Predicate.accepts_of_later hlater hp
  | _ => exact List.Sublist.refl _

theorem locatedAfter_sublist (hlater : earlier.Later later)
    (hsteps : ∀ step ∈ steps, step.Held earlier) (hns : ms.Sublist ns) :
    (locatedAfter later steps ms).Sublist (locatedAfter earlier steps ns) := by
  induction steps generalizing ns ms with
  | nil => exact hns
  | cons step steps ih =>
    obtain ⟨hstep, hsteps⟩ := List.forall_mem_cons.mp hsteps
    -- fewer nodes go into the step, and below each of them it selects fewer
    have hfewer : (ms.flatMap (step.located later)).Sublist (ns.flatMap (step.located later)) :=
      hns.flatMap _
    have hbelow : (ns.flatMap (step.located later)).Sublist (ns.flatMap (step.located earlier)) :=
      List.Sublist.flatMap_right ns fun n _ => located_sublist hlater hstep
    exact ih hsteps (hfewer.trans hbelow)

theorem locatedAfter_no_nodes (shelf : Shelf) (steps : List Step) :
    locatedAfter shelf steps [] = [] := by
  induction steps with
  | nil => rfl
  | cons step steps ih => exact ih

/-- After a step that selects nothing there is nothing. -/
theorem locatedAfter_eq_nil {shelf : Shelf} (hmem : step ∈ steps)
    (hnone : ∀ n, step.located shelf n = []) : locatedAfter shelf steps ns = [] := by
  obtain ⟨before, after, rfl⟩ := List.append_of_mem hmem
  rw [locatedAfter, List.foldl_append, List.foldl_cons]
  have hstep : ∀ ms : List Located, ms.flatMap (step.located shelf) = [] := fun ms =>
    List.flatMap_eq_nil_iff.mpr fun n _ => hnone n
  rw [hstep]
  exact locatedAfter_no_nodes shelf after

end Step

/-! ## Compiled paths -/

namespace Compiler.Compiles

variable {after : Bool} {fs : List Fragment} {ss : List Step} {supplied left : List Predicate}

theorem held {shelf : Shelf} (hc : Compiles after fs supplied ss left)
    (hsupplied : ∀ p ∈ supplied, p.Held shelf) : ∀ step ∈ ss, step.Held shelf := by
  rintro step hmem p expandArrays rfl
  rcases hc.predicate_of_mem hmem with hp | ⟨f, rfl⟩
  · exact hsupplied p hp
  · intro h hshared
    cases hshared

/-- A supplied predicate that is not left over has a step. -/
theorem exists_step {p : Predicate} (hc : Compiles after fs supplied ss left) (hp : p ∈ supplied)
    (hleft : p ∉ left) : ∃ expandArrays, .predicate p expandArrays ∈ ss := by
  induction hc with
  | nil => exact absurd hp hleft
  | plain _ _ ih | expression _ _ ih =>
    obtain ⟨expandArrays, hmem⟩ := ih hp hleft
    exact ⟨expandArrays, List.mem_cons_of_mem _ hmem⟩
  | placeholder _ ih =>
    rcases List.mem_cons.mp hp with rfl | hp
    · exact ⟨_, List.mem_cons_self⟩
    · obtain ⟨expandArrays, hmem⟩ := ih hp hleft
      exact ⟨expandArrays, List.mem_cons_of_mem _ hmem⟩

end Compiler.Compiles

namespace CompiledPath

variable {source : String} {supplied : List Predicate} {config : Config} {path : CompiledPath}

theorem located_sublist (hpath : compile source supplied config = .ok path)
    (hheld : ∀ p ∈ supplied, p.Held earlier) (hlater : earlier.Later later) (document : Value) :
    (path.located later document).Sublist (path.located earlier document) := by
  obtain ⟨-, -, -, -, ⟨left, hsteps⟩, -⟩ := compile_eq_ok_iff.mp hpath
  exact Step.locatedAfter_sublist hlater (hsteps.held hheld) (List.Sublist.refl _)

/-- A path selects nothing while one of its predicates accepts nothing: the step
of this predicate leaves no node, and the steps after it find none. -/
theorem located_eq_nil {shelf : Shelf} {p : Predicate}
    (hpath : compile source supplied config = .ok path)
    (hp : p ∈ supplied.take (Compiler.placeholders path.fragments))
    (hnone : ∀ v, p.accepts shelf v = false) (document : Value) :
    path.located shelf document = [] := by
  obtain ⟨-, -, -, -, ⟨left, hsteps⟩, -⟩ := compile_eq_ok_iff.mp hpath
  obtain ⟨expandArrays, hmem⟩ := hsteps.take_supplied.exists_step hp List.not_mem_nil
  refine Step.locatedAfter_eq_nil hmem fun n => List.filter_eq_nil_iff.mpr fun c _ => ?_
  rw [hnone]
  exact Bool.false_ne_true

/-- **What a path selects shrinks as its filters grow.** Whatever is done in a
workspace between two reads of a path, the later read gives a part of what the
earlier one gives, in the same order and each match at most as often.  Once a
shared filter that is bound to one of its placeholders is poisoned, the path
selects nothing any more.  The filters that are bound have to be there at first,
and any of them may be shared, once or several times. -/
theorem readList_run_sublist {w : Workspace} (hpath : compile source supplied config = .ok path)
    (hheld : ∀ p ∈ supplied, p.Held w.shelf) (document : Value) (before between : List Action) :
    (path.readList (w.run (before ++ between)).shelf document).Sublist
        (path.readList (w.run before).shelf document) ∧
      ∀ name h, (w.run before).handle name = .ok h →
        .shared h ∈ supplied.take (Compiler.placeholders path.fragments) →
          path.readList (w.run (before ++ .poison name :: between)).shelf document = [] := by
  have hearlier : ∀ p ∈ supplied, p.Held (w.run before).shelf :=
    fun p hp => (hheld p hp).of_later (w.later_run before)
  constructor
  · rw [Workspace.run_append]
    have hlater := (w.run before).later_run between
    rw [readList_eq_map_located, readList_eq_map_located]
    exact (located_sublist hpath hearlier hlater document).map Located.node
  · intro name h hname hshared
    rw [Workspace.run_append]
    obtain ⟨s, hs⟩ := hearlier _ (List.mem_of_mem_take hshared) h rfl
    have hpoisoned : (w.run before).poisoned h (.poison name :: between) = true := by
      rw [Workspace.poisoned, Workspace.poisons, hname]
      simp
    have hget := Workspace.get?_run (.poison name :: between) hs
    rw [hpoisoned, Bool.or_true] at hget
    rw [readList_eq_map_located, located_eq_nil hpath hshared]
    · rfl
    · intro v
      rw [← Bool.not_eq_true, Predicate.accepts_shared_iff]
      rintro ⟨f, hf, -⟩
      rw [hget] at hf
      cases hf

/-- One shared filter at two placeholders, the second one directly after a
descent.  Criteria that are added at once and one at a time leave some matches,
and then none is left. -/
theorem readList_run_sublist_shared_twice :
    ∃ (w : Workspace) (document : Value) (path : CompiledPath) (before between : List Action),
      w = Workspace.share {} "f" {} ∧
      document = .array [.object [("a", .int 1), ("b", .object [("a", .null)])],
        .object [("a", .int 2)]] ∧
      compile "$[?]..[?]" [.shared ⟨0⟩, .shared ⟨0⟩] {} = .ok path ∧
      before = [.append "f" [⟨"a", .present true⟩]] ∧
      between = [.share "g" {}, .appendEach "g" [⟨"b", .present false⟩],
        .appendEach "f" [⟨"a", .hasKind .int⟩]] ∧
      path.readList (w.run before).shelf document =
        [.object [("a", .int 1), ("b", .object [("a", .null)])], .object [("a", .null)],
          .object [("a", .int 2)]] ∧
      path.readList (w.run (before ++ between)).shelf document =
        [.object [("a", .int 1), ("b", .object [("a", .null)])], .object [("a", .int 2)]] ∧
      (path.readList (w.run (before ++ between)).shelf document).Sublist
        (path.readList (w.run before).shelf document) ∧
      path.readList (w.run (before ++ .poison "f" :: between)).shelf document = [] := by
  let p : Predicate := .shared ⟨0⟩
  have hpath :
      compile "$[?]..[?]" [p, p] {} = .ok ⟨_, [.root, .placeholder, .descent, .placeholder],
      [.root, .predicate p true, .descent, .predicate p false]⟩ :=
    compile_eq_ok_iff.mpr ⟨rfl, by decide, by decide +kernel, by decide,
      ⟨_, .plain rfl (.placeholder (.plain rfl (.placeholder .nil)))⟩, rfl⟩
  have hheld : ∀ q ∈ [p, p], q.Held (Workspace.share {} "f" {}).shelf := by
    intro q hq h he
    rw [List.mem_pair, or_self] at hq
    rw [hq] at he
    cases Predicate.shared.inj he
    exact ⟨_, rfl⟩
  obtain ⟨hsublist, hpoisoned⟩ := readList_run_sublist hpath hheld
    (.array [.object [("a", .int 1), ("b", .object [("a", .null)])], .object [("a", .int 2)]])
    [.append "f" [⟨"a", .present true⟩]]
    [.share "g" {}, .appendEach "g" [⟨"b", .present false⟩], .appendEach "f" [⟨"a", .hasKind .int⟩]]
  exact ⟨_, _, _, _, _, rfl, rfl, hpath, rfl, rfl, rfl, rfl, hsublist,
    hpoisoned "f" ⟨0⟩ rfl List.mem_cons_self⟩

end CompiledPath

end DocPath

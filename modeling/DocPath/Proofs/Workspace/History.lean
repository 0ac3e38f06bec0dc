import DocPath.Proofs.Outcome
import DocPath.Workspace

/-! # The history of a workspace

Between two reads anything may be done in a workspace: an `Action`.  Actions
compile and build paths, copy queries, share filters, and append to them by way
of any name that they are kept under, at once or one criterion at a time.
Whatever the actions are, the filter of a handle has at the end the criteria
that it had at first and then those that were added to it, in the order of the
actions (`get?_run`). -/

namespace DocPath

/-- What can be done in a workspace.  Reading is not among it: a read takes a
workspace and leaves it as it is. -/
inductive Action where
  | putDocument (name : String) (v : Value)
  | share (name : String) (f : Filter)
  /-- Adds criteria at once: a chain of criteria, or a row that the filter is
  extended by. -/
  | append (name : String) (criteria : List Criterion)
  /-- Adds criteria one at a time. -/
  | appendEach (name : String) (criteria : List Criterion)
  | poison (name : String)
  | compile (name source : String) (supplied : List Predicate)
  | putQuery (name : String) (q : Query)
  | copyQuery (source name : String)
  | modifyQuery (name : String) (change : Query → Query)
  | build (query name : String)

namespace Workspace

/-- Does what an action says, if that is possible.  An action on what is under
no name is not, and neither is adding criteria to a poisoned filter. -/
def perform (w : Workspace) : Action → Except WorkspaceError Workspace
  | .putDocument name v => .ok (w.putDocument name v)
  | .share name f => .ok (w.share name f)
  | .append name criteria => w.append name criteria
  | .appendEach name criteria => w.appendEach name criteria
  | .poison name => w.poison name
  | .compile name source supplied => w.compile name source supplied
  | .putQuery name q => .ok (w.putQuery name q)
  | .copyQuery source name => w.copyQuery source name
  | .modifyQuery name change => w.modifyQuery name change
  | .build query name => w.build query name

/-- The workspace after an action.  One that is not possible changes nothing. -/
def after (w : Workspace) (a : Action) : Workspace :=
  match w.perform a with
  | .ok next => next
  | .error _ => w

/-- The workspace after actions one after the other. -/
def run (w : Workspace) (actions : List Action) : Workspace := actions.foldl after w

theorem run_append (w : Workspace) (actions further : List Action) :
    w.run (actions ++ further) = (w.run actions).run further :=
  List.foldl_append

/-- The criteria that an action adds to the filter of a handle, of which there
are none if the action is not possible or is about another filter. -/
def adds (w : Workspace) (h : Handle) : Action → List Criterion
  | .append name criteria | .appendEach name criteria =>
    match w.growing name with
    | .ok (g, _) => if g = h then criteria else []
    | .error _ => []
  | _ => []

/-- The criteria that actions add to the filter of a handle, in their order,
each action being taken in the workspace that those before it leave. -/
def added (h : Handle) : Workspace → List Action → List Criterion
  | _, [] => []
  | w, a :: actions => w.adds h a ++ added h (w.after a) actions

/-- Whether an action poisons the filter of a handle, under whichever name it
has there. -/
def poisons (w : Workspace) (h : Handle) : Action → Bool
  | .poison name =>
    match w.handle name with
    | .ok g => g == h
    | .error _ => false
  | _ => false

/-- Whether one of the actions poisons the filter of a handle. -/
def poisoned (h : Handle) : Workspace → List Action → Bool
  | _, [] => false
  | w, a :: actions => w.poisons h a || poisoned h (w.after a) actions

end Workspace

/-! ## Shelves -/

theorem Filter.append_nil (f : Filter) : f.append [] = f := by
  rw [append, List.append_nil]

theorem Filter.append_append (f : Filter) (cs ds : List Criterion) :
    (f.append cs).append ds = f.append (cs ++ ds) := by
  rw [append, append, append, List.append_assoc]

namespace Shelf

variable {shelf : Shelf} {g h : Handle} {s : SharedFilter} {criteria : List Criterion}

theorem get?_modify (change : SharedFilter → SharedFilter) :
    (shelf.modify g change).get? h = if g = h then (shelf.get? h).map change else shelf.get? h := by
  obtain ⟨i⟩ := g
  obtain ⟨j⟩ := h
  rw [get?, modify, List.getElem?_modify]
  by_cases hij : i = j
  · subst hij
    simp [get?]
  · simp [get?, hij]

theorem get?_append :
    (shelf.append g criteria).get? h =
      if g = h then (shelf.get? h).map fun s => { s with filter := s.filter.append criteria }
      else shelf.get? h :=
  get?_modify _

theorem get?_poison :
    (shelf.poison g).get? h =
      if g = h then (shelf.get? h).map fun s => { s with poisoned := true } else shelf.get? h :=
  get?_modify _

/-- A further filter takes no place of another. -/
theorem get?_add (hs : shelf.get? h = some s) (f : Filter) : (shelf.add f).2.get? h = some s := by
  have hlt : h.number < shelf.filters.length := (List.getElem?_eq_some_iff.mp hs).1
  rw [get?, add, List.getElem?_append_left hlt]
  exact hs

theorem append_append (cs ds : List Criterion) :
    (shelf.append g cs).append g ds = shelf.append g (cs ++ ds) := by
  rw [append, append, append, modify, modify, modify, List.modify_modify_eq]
  congr 2
  funext s
  simp only [Function.comp_apply, Filter.append_append]

end Shelf

namespace Workspace

variable {w next : Workspace} {name : String} {h : Handle} {f : Filter} {s : SharedFilter}
  {a : Action}
  {criteria : List Criterion}

/-! ## What an action does to the shelf -/

theorem growing_eq_ok_iff :
    w.growing name = .ok (h, f) ↔ w.handle name = .ok h ∧ w.shelf.get? h = some ⟨f, false⟩ := by
  unfold growing
  rw [bind_eq_ok_iff]
  constructor
  · rintro ⟨g, hg, hgrow⟩
    split at hgrow
    · next f' hs =>
      cases hgrow
      exact ⟨hg, hs⟩
    · cases hgrow
  · rintro ⟨hh, hs⟩
    exact ⟨h, hh, by rw [hs]⟩

theorem append_eq (hgrow : w.growing name = .ok (h, f)) :
    w.append name criteria = .ok { w with shelf := w.shelf.append h criteria } := by
  rw [append, hgrow]
  rfl

/-- A filter goes on growing. -/
theorem growing_append (hgrow : w.growing name = .ok (h, f)) (criteria : List Criterion) :
    growing { w with shelf := w.shelf.append h criteria } name = .ok (h, f.append criteria) := by
  rw [growing_eq_ok_iff] at hgrow ⊢
  refine ⟨hgrow.1, ?_⟩
  rw [Shelf.get?_append, if_pos rfl, hgrow.2]
  rfl

/-- Criteria that are added one at a time stand in the same order as if they are
added at once. -/
theorem appendEach_eq (hgrow : w.growing name = .ok (h, f)) :
    w.appendEach name criteria = .ok { w with shelf := w.shelf.append h criteria } := by
  induction criteria generalizing w f with
  | nil =>
    have hsame : w.shelf.append h [] = w.shelf := by
      simp only [Shelf.append, Shelf.modify, Filter.append_nil]
      rw [show (fun s : SharedFilter => s) = id from rfl, List.modify_id]
    rw [hsame]
    rfl
  | cons c criteria ih =>
    have hfirst : w.append name [c] = .ok { w with shelf := w.shelf.append h [c] } :=
      append_eq hgrow
    have hrest := ih (growing_append hgrow [c])
    rw [Shelf.append_append] at hrest
    rw [appendEach, List.foldlM_cons, hfirst]
    exact hrest

/-- It makes no difference whether criteria are added at once or one at a
time. -/
theorem after_appendEach :
    w.after (.appendEach name criteria) = w.after (.append name criteria) := by
  cases hgrow : w.growing name with
  | ok p =>
    rw [after, after, perform, perform, append_eq hgrow, appendEach_eq hgrow]
  | error e =>
    have hone : ∀ cs, w.append name cs = .error e := fun cs => by rw [append, hgrow]; rfl
    rw [after, after, perform, perform, hone]
    cases criteria with
    | nil => rfl
    | cons c criteria => rw [appendEach, List.foldlM_cons, hone]; rfl

theorem shelf_after_append :
    (w.after (.append name criteria)).shelf =
      match w.growing name with
      | .ok (g, _) => w.shelf.append g criteria
      | .error _ => w.shelf := by
  cases hgrow : w.growing name with
  | ok p => rw [after, perform, append_eq hgrow]
  | error e => rw [after, perform, append, hgrow]; rfl

theorem shelf_after_poison :
    (w.after (.poison name)).shelf =
      match w.handle name with
      | .ok g => w.shelf.poison g
      | .error _ => w.shelf := by
  rw [after, perform, poison]
  cases w.handle name <;> rfl

/-- What is not changed by an action that succeeds is not changed by the
action. -/
theorem eq_after_of_bind {α β : Type} {x : Except WorkspaceError α} {next : α → Workspace}
    (part : Workspace → β) (ha : w.perform a = x >>= fun y => .ok (next y))
    (hnext : ∀ y, part (next y) = part w) : part (w.after a) = part w := by
  rw [after, ha]
  cases x with
  | error e => rfl
  | ok y => exact hnext y

theorem shelf_after_eq (h : ∀ next, w.perform a = .ok next → next.shelf = w.shelf) :
    (w.after a).shelf = w.shelf := by
  rw [after]
  split
  · next next hnext => exact h next hnext
  · rfl

theorem shelf_compile {source : String} {supplied : List Predicate}
    (h : w.compile name source supplied = .ok next) : next.shelf = w.shelf := by
  rw [compile] at h
  split at h
  · cases h
  · cases h
    rfl

theorem shelf_build {query : String} (h : w.build query name = .ok next) :
    next.shelf = w.shelf := by
  obtain ⟨q, -, h⟩ := bind_eq_ok_iff.mp h
  split at h
  · cases h
  · cases h
    rfl

/-- **One action.** A filter that is on the shelf stays there under its handle,
takes the criteria that the action adds to it, and is poisoned from now on if
the action poisons it. -/
theorem get?_after (a : Action) (hs : w.shelf.get? h = some s) :
    (w.after a).shelf.get? h =
      some ⟨s.filter.append (w.adds h a), s.poisoned || w.poisons h a⟩ := by
  have hkeep : ∀ b, (w.after b).shelf = w.shelf → w.adds h b = [] → w.poisons h b = false →
      (w.after b).shelf.get? h =
        some ⟨s.filter.append (w.adds h b), s.poisoned || w.poisons h b⟩ := by
    intro b hb hadds hpoisons
    rw [hb, hs, hadds, hpoisons, Filter.append_nil, Bool.or_false]
  have happend : ∀ name criteria, (w.after (.append name criteria)).shelf.get? h =
      some ⟨s.filter.append (w.adds h (.append name criteria)), s.poisoned || false⟩ := by
    intro name criteria
    cases hgrow : w.growing name with
    | error e => exact hkeep _ (by rw [shelf_after_append, hgrow]) (by rw [adds, hgrow]) rfl
    | ok p =>
      rw [shelf_after_append, adds, hgrow]
      simp only [Shelf.get?_append, hs, Bool.or_false]
      by_cases hg : p.1 = h
      · rw [if_pos hg, if_pos hg]
        rfl
      · rw [if_neg hg, if_neg hg, Filter.append_nil]
  cases a with
  | append name criteria => exact happend name criteria
  | appendEach name criteria =>
    rw [after_appendEach]
    exact happend name criteria
  | poison name =>
    cases hh : w.handle name with
    | error e => exact hkeep _ (by rw [shelf_after_poison, hh]) rfl (by rw [poisons, hh])
    | ok g =>
      rw [shelf_after_poison, poisons, hh]
      show (w.shelf.poison g).get? h = some ⟨s.filter.append [], s.poisoned || g == h⟩
      rw [Shelf.get?_poison, hs, Filter.append_nil]
      by_cases hg : g = h
      · rw [if_pos hg, beq_iff_eq.mpr hg, Bool.or_true]
        rfl
      · rw [if_neg hg, beq_false_of_ne hg, Bool.or_false]
  | share name f =>
    show (w.shelf.add f).2.get? h = some ⟨s.filter.append [], s.poisoned || false⟩
    rw [Filter.append_nil, Bool.or_false]
    exact Shelf.get?_add hs f
  | putDocument | putQuery => exact hkeep _ rfl rfl rfl
  | compile => exact hkeep _ (shelf_after_eq fun _ => shelf_compile) rfl rfl
  | build => exact hkeep _ (shelf_after_eq fun _ => shelf_build) rfl rfl
  | copyQuery | modifyQuery => exact hkeep _ (eq_after_of_bind shelf rfl fun _ => rfl) rfl rfl

/-- **A row of actions.** A filter has at the end its own criteria and then
those that the actions added to it, in their order, and it is poisoned if it was
so before or one of the actions poisoned it. -/
theorem get?_run (actions : List Action) (hs : w.shelf.get? h = some s) :
    (w.run actions).shelf.get? h =
      some ⟨s.filter.append (w.added h actions), s.poisoned || w.poisoned h actions⟩ := by
  induction actions generalizing w s with
  | nil =>
    rw [added, poisoned, Filter.append_nil, Bool.or_false]
    exact hs
  | cons a actions ih =>
    rw [added, poisoned, ← Filter.append_append, ← Bool.or_assoc]
    exact ih (get?_after a hs)

end Workspace

end DocPath

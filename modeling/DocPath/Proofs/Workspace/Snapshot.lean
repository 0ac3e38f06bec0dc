import DocPath.Proofs.Path.Compilation
import DocPath.Proofs.Workspace.History

/-! # Shared filters and filters of one's own

A path that shared filters are bound to reads at any moment as if it were
compiled at that moment with filters of its own, which hold the criteria that
the shared ones have then (`Query.plain`).  So no criteria are taken over when a
filter is bound, when a query is copied or when its path is compiled: this is
said of the path that any actions leave under a name (`Workspace.kept`), and
`Workspace.read_kept` puts it together. -/

namespace DocPath

/-- The criteria of a shared filter at the moment of the shelf, poisoned or
not. -/
def Shelf.criteria (shelf : Shelf) (h : Handle) : List Criterion :=
  match shelf.get? h with
  | some s => s.filter.criteria
  | none => []

/-- The predicate with a filter of its own in the place of a shared one, which
has the same criteria now but does not grow. -/
def Predicate.plain (shelf : Shelf) : Predicate → Predicate
  | shared h => filter ⟨shelf.criteria h⟩
  | p => p

/-- The query with filters of its own in the place of shared ones, as if it were
built at this moment from copies. -/
def Query.plain (shelf : Shelf) (q : Query) : Query :=
  { q with predicates := q.predicates.map (·.plain shelf) }

/-! ## Two shelves -/

/-- Predicates, each with the shared filters that it is used with, that do and
say the same. -/
structure Predicate.Agrees (shelf : Shelf) (p : Predicate) (other : Shelf) (q : Predicate) :
    Prop where
  test : ∀ v, p.test shelf v = q.test other v
  text : p.text shelf = q.text other

/-- Steps, each with the shared filters that it is used with, that do and say
the same. -/
structure Step.Agrees (shelf : Shelf) (step : Step) (other : Shelf) (step' : Step) : Prop where
  apply : ∀ v, step.apply shelf v = step'.apply other v
  inspect : step.inspect shelf = step'.inspect other

variable {shelf other : Shelf}

namespace Predicate

variable {p q : Predicate}

/-- A predicate that is not poisoned: if it is a shared filter, then this is on
the shelf and still takes criteria. -/
def Open (shelf : Shelf) (p : Predicate) : Prop :=
  ∀ h, p = shared h → ∃ f, shelf.get? h = some ⟨f, false⟩

theorem Open.agrees_plain (hp : p.Open shelf) : p.Agrees shelf other (p.plain shelf) := by
  cases p with
  | shared h =>
    obtain ⟨f, hf⟩ := hp h rfl
    constructor
    · intro v
      simp only [plain, test, Shelf.criteria, hf]
    · simp only [plain, text, Shelf.criteria, hf]
  | filter f | criterion c | custom accepts => exact ⟨fun _ => rfl, rfl⟩

theorem Agrees.keep (h : p.Agrees shelf other q) (vs : List Value) :
    p.keep shelf vs = q.keep other vs := by
  induction vs with
  | nil => rfl
  | cons v vs ih => rw [Predicate.keep, Predicate.keep, h.test, ih]

theorem Agrees.step (h : p.Agrees shelf other q) (expandArrays : Bool) :
    (Step.predicate p expandArrays).Agrees shelf other (.predicate q expandArrays) := by
  constructor
  · intro v
    show p.select shelf expandArrays v = q.select other expandArrays v
    cases v <;> cases expandArrays <;> exact h.keep _
  · rw [Step.inspect, Step.inspect, h.text]

end Predicate

namespace Step

variable {step step' : Step} {steps steps' : List Step}

/-- A step with another predicate, if it has one, and otherwise the same
step. -/
def rebind (change : Predicate → Predicate) : Step → Step
  | predicate p expandArrays => predicate (change p) expandArrays
  | step => step

theorem Agrees.applyAll (h : step.Agrees shelf other step') (vs : List Value) :
    step.applyAll shelf vs = step'.applyAll other vs := by
  induction vs with
  | nil => rfl
  | cons v vs ih => rw [Step.applyAll, Step.applyAll, h.apply, ih]

theorem agrees_plain (hstep : ∀ p expandArrays, step = predicate p expandArrays → p.Open shelf) :
    step.Agrees shelf other (step.rebind (·.plain shelf)) := by
  cases step with
  | predicate p expandArrays => exact (hstep p expandArrays rfl).agrees_plain.step expandArrays
  | _ => exact ⟨fun _ => rfl, rfl⟩

end Step

namespace CompiledPath

/-- Steps that agree one by one do the same in a row, and report the same.  They
may belong to different shelves, as those of a shared filter and its copy do. -/
theorem run_congr {steps steps' : List Step} {trace : Bool} {source : String} {position : Nat}
    {nodes : List Value} (h : List.Forall₂ (fun s t => s.Agrees shelf other t) steps steps') :
    run shelf trace source position steps nodes = run other trace source position steps' nodes := by
  induction h generalizing position nodes with
  | nil => rfl
  | cons h _ ih =>
    rw [run, run, h.applyAll, h.inspect]
    simp only [ih]

end CompiledPath

/-! ## Compiling with other predicates -/

namespace Compiler.Compiles

variable {after : Bool} {fs : List Fragment} {ss : List Step} {supplied left : List Predicate}

/-- Other predicates come to the same places.  Filters that are written in the
path stay. -/
theorem rebind {change : Predicate → Predicate} (hfilter : ∀ f, change (.filter f) = .filter f)
    (h : Compiles after fs supplied ss left) :
    Compiles after fs (supplied.map change) (ss.map (·.rebind change)) (left.map change) := by
  induction h with
  | nil => exact .nil
  | @plain after f _ step _ _ _ hstep _ ih =>
    have hsame : step.rebind change = step := by
      cases f <;> cases hstep <;> rfl
    rw [List.map_cons, hsame]
    exact .plain hstep ih
  | placeholder _ ih => exact .placeholder ih
  | expression hf _ ih =>
    rw [List.map_cons, Step.rebind, hfilter]
    exact .expression hf ih

end Compiler.Compiles

namespace Query

variable {q : Query} {path : CompiledPath}

theorem plain_congr (h : ∀ h, .shared h ∈ q.predicates → shelf.criteria h = other.criteria h) :
    q.plain shelf = q.plain other := by
  have hmap : q.predicates.map (·.plain shelf) = q.predicates.map (·.plain other) := by
    refine List.map_congr_left fun p hp => ?_
    cases p with
    | shared g => exact congrArg (fun cs => Predicate.filter ⟨cs⟩) (h g hp)
    | _ => rfl
  rw [plain, plain, hmap]

/-- **One moment.** A path reads with shared filters as the same path does with
filters of its own that have their criteria: it gives the same and reports the
same. -/
theorem exists_plain (hpath : q.compile = .ok path) (hopen : ∀ p ∈ q.predicates, p.Open shelf) :
    ∃ fresh, (q.plain shelf).compile = .ok fresh ∧ fresh.readMode = path.readMode ∧
      ∀ other trace document mode,
        path.evaluate shelf trace document mode = fresh.evaluate other trace document mode := by
  obtain ⟨hv, hlen, htext, hcount, ⟨left, hsteps⟩, hsource⟩ :=
    CompiledPath.compile_eq_ok_iff.mp hpath
  refine ⟨⟨path.source, path.fragments, path.steps.map (·.rebind (·.plain shelf))⟩, ?_, rfl, ?_⟩
  · exact CompiledPath.compile_eq_ok_iff.mpr
      ⟨hv, hlen, htext, hcount, ⟨_, hsteps.rebind fun _ => rfl⟩, hsource⟩
  · intro other trace document mode
    have hagree : List.Forall₂ (fun s t => s.Agrees shelf other t) path.steps
        (path.steps.map (·.rebind (·.plain shelf))) := by
      rw [List.forall₂_map_right_iff, List.forall₂_same]
      intro step hmem
      refine Step.agrees_plain fun p expandArrays he => ?_
      rw [he] at hmem
      rcases hsteps.predicate_of_mem hmem with hp | ⟨f, rfl⟩
      · exact hopen p hp
      · intro h hshared
        cases hshared
    have hselect : path.select shelf trace document =
        CompiledPath.run other trace path.source 0 (path.steps.map (·.rebind (·.plain shelf)))
          [document] :=
      CompiledPath.run_congr hagree
    rw [CompiledPath.evaluate, hselect]
    rfl

end Query

/-! ## The path that is kept under a name -/

namespace Workspace

/-- The query whose path an action keeps under a name, if it compiles.  Only
compiling and building do so: no other action puts a path under a name. -/
def keeps (w : Workspace) (name : String) (a : Action) : Option Query :=
  let query? : Option Query :=
    match a with
    | .compile n source supplied => if n = name then some ⟨source, supplied, {}⟩ else none
    | .build query n => if n = name then (w.query query).toOption else none
    | _ => none
  query?.filter (·.compile.isOk)

/-- The query whose path actions keep under a name: the last one that
compiles. -/
def kept (name : String) : Workspace → List Action → Option Query
  | _, [] => none
  | w, a :: actions => (kept name (w.after a) actions).or (w.keeps name a)

end Workspace

theorem lookup_insertEntry {α : Type} (key name : String) (v : α) (named : List (String × α)) :
    (insertEntry key v named).lookup name = if key = name then some v else named.lookup name := by
  induction named with
  | nil =>
    by_cases h : key = name
    · simp [insertEntry, h]
    · simp [insertEntry, h, Ne.symm h]
  | cons e rest ih =>
    obtain ⟨k, u⟩ := e
    rw [insertEntry]
    by_cases hk : k = key
    · subst hk
      by_cases h : k = name
      · simp [h]
      · have hne : (name == k) = false := beq_false_of_ne (Ne.symm h)
        simp [List.lookup_cons, h, hne]
    · rw [if_neg hk, List.lookup_cons, List.lookup_cons, ih]
      by_cases h : key = name
      · subst h
        have hne : (key == k) = false := beq_false_of_ne (Ne.symm hk)
        simp [hne]
      · simp [h]

namespace Workspace

variable {w : Workspace} {name : String} {a : Action} {q : Query} {path : CompiledPath}

theorem path_putPath (n : String) :
    (w.putPath n path).path name = if n = name then .ok path else w.path name := by
  rw [Workspace.path, Workspace.path, find, find, putPath, lookup_insertEntry]
  by_cases h : n = name
  · rw [if_pos h, if_pos h]
  · rw [if_neg h, if_neg h]

theorem path_after_compiling {n : String}
    (ha : w.perform a =
      match q.compile with
      | .error e => .error (.failed e)
      | .ok path => .ok (w.putPath n path)) :
    (w.after a).path name =
      match (if n = name then some q else none).filter (·.compile.isOk) with
      | some q => q.compile.mapError .failed
      | none => w.path name := by
  rw [after, ha]
  cases hq : q.compile with
  | error e =>
    by_cases hn : n = name
    · simp [hn, hq, Option.filter, Except.isOk, Except.toBool]
    · simp [hn]
  | ok path =>
    show (w.putPath n path).path name = _
    rw [path_putPath]
    by_cases hn : n = name
    · simp [hn, hq, Option.filter, Except.isOk, Except.toBool, Except.mapError]
    · simp [hn]

/-- **One action.** Under a name is the path of the query that the action keeps
there, if there is one. -/
theorem path_after (a : Action) :
    (w.after a).path name =
      match w.keeps name a with
      | some q => q.compile.mapError .failed
      | none => w.path name := by
  cases a with
  | compile n source supplied => exact path_after_compiling (q := ⟨source, supplied, {}⟩) rfl
  | build query n =>
    cases hq : w.query query with
    | ok q =>
      rw [keeps, hq]
      refine path_after_compiling (q := q) ?_
      rw [perform, build, hq]
      rfl
    | error e =>
      have hkeeps : w.keeps name (.build query n) = none := by
        rw [keeps, hq]
        by_cases hn : n = name
        · simp [hn, Except.toOption]
        · simp [hn]
      rw [hkeeps, after, perform, build, hq]
      rfl
  | append n criteria => exact eq_after_of_bind (·.path name) rfl fun _ => rfl
  | appendEach n criteria =>
    rw [after_appendEach]
    exact eq_after_of_bind (·.path name) rfl fun _ => rfl
  | poison | copyQuery | modifyQuery => exact eq_after_of_bind (·.path name) rfl fun _ => rfl
  | putDocument | share | putQuery => rfl

/-- **A row of actions.** Under a name is the path of the last query that was
kept there. -/
theorem path_run (actions : List Action) :
    (w.run actions).path name =
      match w.kept name actions with
      | some q => q.compile.mapError .failed
      | none => w.path name := by
  induction actions generalizing w with
  | nil => rfl
  | cons a actions ih =>
    rw [run, List.foldl_cons]
    show ((w.after a).run actions).path name = _
    rw [ih, kept]
    cases (w.after a).kept name actions with
    | some q => rfl
    | none => exact path_after a

theorem path_of_kept {actions : List Action} (hkept : w.kept name actions = some q) :
    ∃ path, q.compile = .ok path ∧ (w.run actions).path name = .ok path := by
  obtain ⟨path, hpath⟩ : ∃ path, q.compile = .ok path := by
    induction actions generalizing w with
    | nil => cases hkept
    | cons a actions ih =>
      rcases Option.or_eq_some_iff.mp hkept with hlater | ⟨-, hkeeps⟩
      · exact ih hlater
      · have hok : q.compile.isOk = true := (Option.filter_eq_some_iff.mp hkeeps).2
        cases hq : q.compile with
        | ok path => exact ⟨path, rfl⟩
        | error e =>
          rw [hq] at hok
          cases hok
  refine ⟨path, hpath, ?_⟩
  rw [path_run, hkept]
  show q.compile.mapError WorkspaceError.failed = _
  rw [hpath]
  rfl

/-- The criteria of a filter are those that it had and then the added ones, in
the order of the actions that have added them. -/
theorem criteria_run {h : Handle} {s : SharedFilter} (between : List Action)
    (hs : w.shelf.get? h = some s) :
    (w.run between).shelf.criteria h = s.filter.criteria ++ w.added h between := by
  rw [Shelf.criteria, get?_run between hs]
  rfl

/-- A filter that is not poisoned was not so before, as nothing takes the poison
away. -/
theorem open_of_run {h : Handle} {s : SharedFilter} {f : Filter} {between : List Action}
    (hs : w.shelf.get? h = some s) (hnow : (w.run between).shelf.get? h = some ⟨f, false⟩) :
    w.shelf.get? h = some ⟨s.filter, false⟩ := by
  rw [get?_run between hs, Option.some.injEq, SharedFilter.mk.injEq, Bool.or_eq_false_iff] at hnow
  rw [hs, ← hnow.2.1]

/-- **A path never takes over what its filters hold.** Let actions leave under a
name the path of a query whose shared filters are not poisoned.  At that moment
the path reads, in each mode, as the path of the same query compiled then with
filters of its own that hold the criteria of the shared ones.  These criteria
are the ones of any earlier moment and then the ones that were added since, in
their order.  And the path still reads as it did at an earlier moment if no
criteria were added to its own filters since, whatever was added to others; so
it does if all of its filters are its own. -/
theorem read_kept {actions : List Action} (hkept : w.kept name actions = some q)
    (hopen : ∀ h, .shared h ∈ q.predicates → ∃ f, (w.run actions).shelf.get? h = some ⟨f, false⟩) :
    ∃ path fresh, (w.run actions).path name = .ok path ∧
      (q.plain (w.run actions).shelf).compile = .ok fresh ∧ fresh.readMode = path.readMode ∧
      (∀ other trace document mode,
        path.evaluate (w.run actions).shelf trace document mode =
          fresh.evaluate other trace document mode) ∧
      ∀ before between, actions = before ++ between →
        (∀ h s, (w.run before).shelf.get? h = some s →
          (w.run actions).shelf.criteria h = s.filter.criteria ++ (w.run before).added h between) ∧
        ((∀ h, .shared h ∈ q.predicates → ∃ s, (w.run before).shelf.get? h = some s ∧
            (w.run before).added h between = []) →
          ∀ trace document mode,
            path.evaluate (w.run actions).shelf trace document mode =
              path.evaluate (w.run before).shelf trace document mode) := by
  have hopen' : ∀ p ∈ q.predicates, p.Open (w.run actions).shelf := by
    rintro _ hp h rfl
    exact hopen h hp
  obtain ⟨path, hpath, hname⟩ := path_of_kept hkept
  obtain ⟨fresh, hfresh, hmode, hread⟩ := Query.exists_plain hpath hopen'
  refine ⟨path, fresh, hname, hfresh, hmode, hread, ?_⟩
  rintro before between rfl
  rw [run_append] at hopen hopen' hfresh hread ⊢
  refine ⟨fun h s hs => criteria_run between hs, ?_⟩
  intro hsame trace document mode
  have hearlier : ∀ p ∈ q.predicates, p.Open (w.run before).shelf := by
    rintro _ hp h rfl
    obtain ⟨s, hs, -⟩ := hsame h hp
    obtain ⟨f, hf⟩ := hopen h hp
    exact ⟨s.filter, open_of_run hs hf⟩
  have hplain : q.plain ((w.run before).run between).shelf = q.plain (w.run before).shelf := by
    refine Query.plain_congr fun h hp => ?_
    obtain ⟨s, hs, hadded⟩ := hsame h hp
    rw [criteria_run between hs, hadded, List.append_nil, Shelf.criteria, hs]
  obtain ⟨fresh', hfresh', -, hread'⟩ := Query.exists_plain hpath hearlier
  rw [hplain, hfresh'] at hfresh
  cases hfresh
  rw [hread {} trace document mode, hread' {} trace document mode]

/-- A filter that is bound twice, once to a copy of the query, takes criteria
before and after the path is compiled; then another filter goes by its name. -/
theorem read_kept_copied :
    ∃ (before between : List Action) (q : Query) (path fresh : CompiledPath),
      before = [.share "f" {}, .putQuery "b" ⟨"$[?].a[?][?]", [.shared ⟨0⟩], {}⟩,
        .append "f" [⟨"a", .present true⟩, ⟨"b", .present true⟩], .copyQuery "b" "c",
        .modifyQuery "c" (·.bindAll [.shared ⟨0⟩, .filter {}]), .build "c" "p",
        .appendEach "f" [⟨"c", .present true⟩]] ∧
      between = [.copyQuery "c" "b", .share "f" {}, .append "f" [⟨"d", .present true⟩],
        .compile "other" "$[?]" [.shared ⟨1⟩]] ∧
      q = ⟨"$[?].a[?][?]", [.shared ⟨0⟩, .shared ⟨0⟩, .filter {}], {}⟩ ∧
      kept "p" {} (before ++ between) = some q ∧
      (run {} (before ++ between)).shelf.criteria ⟨0⟩ =
        [⟨"a", .present true⟩, ⟨"b", .present true⟩, ⟨"c", .present true⟩] ∧
      (run {} (before ++ between)).path "p" = .ok path ∧
      (q.plain (run {} (before ++ between)).shelf).compile = .ok fresh ∧
      (∀ other trace document mode,
        path.evaluate (run {} (before ++ between)).shelf trace document mode =
          fresh.evaluate other trace document mode) ∧
      ∀ trace document mode,
        path.evaluate (run {} (before ++ between)).shelf trace document mode =
          path.evaluate (run {} before).shelf trace document mode := by
  let before : List Action := [.share "f" {}, .putQuery "b" ⟨"$[?].a[?][?]", [.shared ⟨0⟩], {}⟩,
    .append "f" [⟨"a", .present true⟩, ⟨"b", .present true⟩], .copyQuery "b" "c",
    .modifyQuery "c" (·.bindAll [.shared ⟨0⟩, .filter {}]), .build "c" "p",
    .appendEach "f" [⟨"c", .present true⟩]]
  let between : List Action :=
    [.copyQuery "c" "b", .share "f" {}, .append "f" [⟨"d", .present true⟩],
    .compile "other" "$[?]" [.shared ⟨1⟩]]
  let q : Query := ⟨"$[?].a[?][?]", [.shared ⟨0⟩, .shared ⟨0⟩, .filter {}], {}⟩
  let bound : CompiledPath := ⟨q.path,
    [.root, .placeholder, .property "a", .placeholder, .placeholder],
    [.root, .predicate (.shared ⟨0⟩) true, .property "a" true, .predicate (.shared ⟨0⟩) true,
      .predicate (.filter {}) true]⟩
  -- the actions are run step by step, and compiling on the way is settled beforehand
  have hcompile : q.compile = .ok bound :=
    CompiledPath.compile_eq_ok_iff.mpr ⟨rfl, by decide, by decide +kernel, by decide,
      ⟨_, .plain rfl (.placeholder (.plain rfl (.placeholder (.placeholder .nil))))⟩, rfl⟩
  obtain ⟨hrun, hkept⟩ : run {} before = {
        filters := [("f", ⟨0⟩)]
        paths := [("p", bound)]
        queries := [("b", ⟨"$[?].a[?][?]", [.shared ⟨0⟩], {}⟩), ("c", q)]
        shelf :=
          ⟨[⟨⟨[⟨"a", .present true⟩, ⟨"b", .present true⟩, ⟨"c", .present true⟩]⟩, false⟩]⟩ } ∧
      kept "p" {} (before ++ between) = some q := by
    simp [before, between, q, hcompile, run, kept, keeps, after, perform, share, putQuery, append,
      growing, handle, query, find, copyQuery, modifyQuery, build, putPath, appendEach, insertEntry,
      Shelf.add, Shelf.append, Shelf.get?, Shelf.modify, Filter.append, Query.bindAll, bind,
      Except.bind, pure, Except.pure, List.lookup_cons, Except.toOption, Except.isOk, Except.toBool]
  have hbefore : (run {} before).shelf.get? ⟨0⟩ =
      some ⟨⟨[⟨"a", .present true⟩, ⟨"b", .present true⟩, ⟨"c", .present true⟩]⟩, false⟩ := by
    rw [hrun]
    rfl
  have hadded : added ⟨0⟩ (run {} before) between = [] := by
    rw [hrun]
    rfl
  have hpoisoned : poisoned ⟨0⟩ (run {} before) between = false := by
    rw [hrun]
    rfl
  have hnow : (run {} (before ++ between)).shelf.get? ⟨0⟩ = some ⟨⟨[⟨"a", .present true⟩,
      ⟨"b", .present true⟩, ⟨"c", .present true⟩]⟩, false⟩ := by
    rw [run_append, get?_run between hbefore, hadded, hpoisoned]
    rfl
  have hhandle : ∀ h, .shared h ∈ [Predicate.shared ⟨0⟩, .shared ⟨0⟩, .filter {}] → h = ⟨0⟩ := by
    simp
  obtain ⟨path, fresh, hname, hfresh, -, hread, hmoments⟩ :=
    read_kept hkept fun h hp => hhandle h hp ▸ ⟨_, hnow⟩
  obtain ⟨hcriteria, hsame⟩ := hmoments before between rfl
  refine ⟨_, _, _, path, fresh, rfl, rfl, rfl, hkept, ?_, hname, hfresh, hread, ?_⟩
  · rw [hcriteria ⟨0⟩ _ hbefore, hadded]
    rfl
  · exact hsame fun h hp => hhandle h hp ▸ ⟨_, hbefore, hadded⟩

end Workspace

end DocPath

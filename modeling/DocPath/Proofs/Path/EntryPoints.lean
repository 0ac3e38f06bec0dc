import DocPath.Proofs.Path.Failure

/-! # Ways to read a path

A path is read at once or by way of a query, and for all of its matches, for the
only one, or as its shape asks for.  None of this shows in what the read gives:
it is settled by how the path compiles and, if it does, by its matches
(`readPath_outcome`).  A query may be put together by any calls; what is left of
them is the row of predicates and whether steps are reported
(`Query.foldl_after`), and reported steps do not change the outcome of a
read. -/

namespace DocPath

/-! ## The outcome of a read -/

/-- What a single read gives for the matches: the only match, or why there is
not exactly one. -/
structure SingleRead (source : String) (matched : List Value) (outcome : Except Error Value) :
    Prop where
  one : ∀ v, matched = [v] → outcome = .ok v
  none : matched = [] → outcome = .error (.noSuchPath source)
  several : 2 ≤ matched.length →
    outcome = .error (.inconsistent source (.severalMatches matched.length))

/-- The errors of a single read are none of compiling. -/
theorem SingleRead.isCompileTime_eq_false {source : String} {matched : List Value}
    {outcome : Except Error Value} {e : Error} (h : SingleRead source matched outcome)
    (he : outcome = .error e) : e.isCompileTime = false := by
  match matched, h with
  | [], h =>
    cases (h.none rfl).symm.trans he
    rfl
  | [v], h => cases (h.one v rfl).symm.trans he
  | v :: w :: vs, h =>
    cases (h.several (by simp)).symm.trans he
    rfl

namespace CompiledPath

variable {shelf : Shelf} {trace : Bool} {document : Value} {path : CompiledPath} {source : String}
  {supplied : List Predicate} {config : Config} {e : Error}

/-- Whatever compiling fails with is an error of compiling. -/
theorem isCompileTime_of_compile_eq_error (h : compile source supplied config = .error e) :
    e.isCompileTime = true := by
  rcases cases_of_compile_eq_error h with ⟨-, hkind⟩ | ⟨-, hkind | ⟨fs, -, -, -, -, rfl⟩⟩
  · rw [Error.isCompileTime, hkind]
    rfl
  · rw [Error.isCompileTime, hkind]
    rfl
  · rfl

/-- Whether steps are reported does not matter for compiling. -/
theorem compile_traceEvaluation (on : Bool) :
    compile source supplied { config with traceEvaluation := on } =
      compile source supplied config := rfl

/-- Reading in either way gives the same value with reports as without. -/
theorem value_evaluate {mode : ReadMode} :
    (path.evaluate shelf trace document mode).value = path.read shelf document mode := by
  cases mode with
  | list =>
    rw [read]
    simp only [evaluate, Traced.value_bind, value_select]
  | single => rw [read, value_evaluate_single, value_evaluate_single]

/-- A read in single mode gives no list. -/
theorem read_single_eq :
    path.read shelf document .single = (path.readSingle shelf document).map .single := by
  rw [readSingle, read, value_evaluate_single]
  rcases path.readList shelf document with _ | ⟨_, _ | ⟨_, _⟩⟩ <;> rfl

/-- A single read gives the only match, and an error if there is none or if
there are several. -/
theorem singleRead_readSingle :
    SingleRead path.source (path.readList shelf document) (path.readSingle shelf document) := by
  rw [readSingle, read, value_evaluate_single]
  rcases path.readList shelf document with _ | ⟨v, _ | ⟨w, vs⟩⟩
  · exact { one := by simp, none := fun _ => rfl, several := by simp }
  · exact { one := by simp, none := by simp, several := by simp }
  · exact { one := by simp, none := by simp, several := fun _ => rfl }

end CompiledPath

/-! ## Queries -/

namespace Query

/-- What is done to a query before it is read: predicates are given to it one at
a time or several at once, and reports are switched on or off. -/
inductive Call where
  /-- Gives the predicate for the next placeholder, one of its own or a shared
  one. -/
  | bind (p : Predicate)
  | bindAll (ps : List Predicate)
  | trace (on : Bool)

/-- The predicates that a call gives, in the order in which placeholders take
them. -/
def Call.predicates : Call → List Predicate
  | bind p => [p]
  | bindAll ps => ps
  | trace _ => []

/-- The query after a call.  Calls can be made in any order, and each adds to
what those before it have given. -/
def after (q : Query) : Call → Query
  | .bind p => q.bind p
  | .bindAll ps => q.bindAll ps
  | .trace on => q.trace on

/-- The query for a path after calls one after the other, beginning without
predicates and without reports. -/
def build (path : String) (calls : List Call) : Query := calls.foldl after { path := path }

variable {shelf : Shelf} {document : Value} {q : Query}

/-- A call may add predicates and may change whether steps are reported, but
nothing else. -/
theorem after_eq (q : Query) (c : Call) :
    ∃ on, q.after c = { q with predicates := q.predicates ++ c.predicates,
                               config := { q.config with traceEvaluation := on } } := by
  cases c with
  | bind p => exact ⟨q.config.traceEvaluation, rfl⟩
  | bindAll ps => exact ⟨q.config.traceEvaluation, rfl⟩
  | trace on => exact ⟨on, by simp [after, Query.trace, Call.predicates]⟩

/-- Calls leave behind their predicates in a row, and whether steps are
reported. -/
theorem foldl_after (calls : List Call) (q : Query) :
    ∃ on, calls.foldl after q =
      { q with predicates := q.predicates ++ calls.flatMap Call.predicates,
               config := { q.config with traceEvaluation := on } } := by
  induction calls generalizing q with
  | nil => exact ⟨q.config.traceEvaluation, by simp⟩
  | cons c calls ih =>
    obtain ⟨on, hc⟩ := after_eq q c
    obtain ⟨on', hcalls⟩ := ih (q.after c)
    refine ⟨on', ?_⟩
    rw [List.foldl_cons, hcalls, hc, List.flatMap_cons, List.append_assoc]

/-- What is compiled in the end has all predicates of the calls, in their order,
and the same limits as without them. -/
theorem compile_build (path : String) (calls : List Call) :
    (build path calls).compile = CompiledPath.compile path (calls.flatMap Call.predicates) {} := by
  obtain ⟨on, h⟩ := foldl_after calls { path := path }
  rw [build, h, compile, List.nil_append]
  exact CompiledPath.compile_traceEvaluation on

/-- What is done with the path of a query is done once the path has been
compiled, and not at all if that fails. -/
theorem value_compiled {α : Type} (use : CompiledPath → Traced (Except Error α)) :
    (q.compiled use).value = q.compile >>= fun path => (use path).value := by
  rw [compiled, Traced.value_bind]
  cases q.compile with
  | error e => rfl
  | ok path => rfl

/-- Reading a query is compiling it and reading its path in the way the path
asks for. -/
theorem value_read :
    (q.read shelf document).value =
      q.compile >>= fun path => path.read shelf document path.readMode := by
  rw [read, value_compiled]
  simp only [Traced.value_bind, CompiledPath.value_evaluate]

/-- Reading all matches of a query is compiling it and reading all matches of
its path. -/
theorem value_readList :
    (q.readList shelf document).value = q.compile.map fun path => path.readList shelf document := by
  rw [readList, value_compiled]
  simp only [Traced.value_bind, CompiledPath.value_select, CompiledPath.readList_eq_nodesAfter]
  cases q.compile with
  | error e => rfl
  | ok path => rfl

/-- Reading the only match of a query is compiling it and reading the only match
of its path. -/
theorem value_readSingle :
    (q.readSingle shelf document).value = q.compile >>= fun path =>
      path.readSingle shelf document := by
  rw [readSingle, value_compiled]
  refine congrArg (q.compile >>= ·) (funext fun path => ?_)
  rw [Traced.value_bind, CompiledPath.value_evaluate, CompiledPath.read_single_eq]
  cases path.readSingle shelf document with
  | error e => rfl
  | ok v => rfl

end Query

/-! ## All ways together -/

section

variable {shelf : Shelf} {document : Value} {source : String}
  {supplied : List Predicate} {e : Error}
  {path : CompiledPath}

theorem readPath_of_compile_eq_error (h : CompiledPath.compile source supplied {} = .error e) :
    readPath shelf document source supplied = .error e := by
  rw [readPath, h]
  rfl

theorem readPath_of_compile_eq_ok (h : CompiledPath.compile source supplied {} = .ok path) :
    readPath shelf document source supplied = path.read shelf document path.readMode := by
  rw [readPath, h]
  rfl

/-- A definite path is read for its only match. -/
theorem readPath_of_isDefinite (h : CompiledPath.compile source supplied {} = .ok path)
    (hdefinite : path.isDefinite = true) :
    readPath shelf document source supplied = (path.readSingle shelf document).map .single := by
  have hmode : path.readMode = .single := if_pos hdefinite
  rw [readPath_of_compile_eq_ok h, hmode, CompiledPath.read_single_eq]

/-- A path that is not definite is read for all its matches, and this cannot
fail. -/
theorem readPath_of_not_isDefinite (h : CompiledPath.compile source supplied {} = .ok path)
    (hdefinite : path.isDefinite = false) :
    readPath shelf document source supplied = .ok (.list (path.readList shelf document)) := by
  have hmode : path.readMode = .list := if_neg (ne_true_of_eq_false hdefinite)
  rw [readPath_of_compile_eq_ok h, hmode, CompiledPath.read_list]

/-- An error that arises before the document is read is the one that compiling
fails with. -/
theorem readPath_eq_compileTime_error_iff :
    readPath shelf document source supplied = .error e ∧ e.isCompileTime = true ↔
      CompiledPath.compile source supplied {} = .error e := by
  refine ⟨fun ⟨h, htime⟩ => ?_, fun h =>
    ⟨readPath_of_compile_eq_error h, CompiledPath.isCompileTime_of_compile_eq_error h⟩⟩
  cases hcompile : CompiledPath.compile source supplied {} with
  | error e' =>
    rw [readPath_of_compile_eq_error hcompile] at h
    cases h
    rfl
  | ok path =>
    exfalso
    cases hdefinite : path.isDefinite with
    | true =>
      rw [readPath_of_isDefinite hcompile hdefinite, map_eq_error_iff] at h
      rw [CompiledPath.singleRead_readSingle.isCompileTime_eq_false h] at htime
      cases htime
    | false =>
      rw [readPath_of_not_isDefinite hcompile hdefinite] at h
      cases h

end

/-- **However a path is read, compiling and the matches settle what comes out.**
Reading fails with an error of compile time exactly if compiling fails, and with
that error.  A path that compiles gives all of its matches if it is not
definite; if it is, it gives what a single read gives, whose errors are none of
compile time.  A query for the same path reads the same in each way, whatever
calls gave it the predicates in their order, and whether or not its steps are
reported. -/
theorem readPath_outcome (shelf : Shelf) (document : Value) (source : String)
    (supplied : List Predicate) :
    (∀ e, readPath shelf document source supplied = .error e ∧ e.isCompileTime = true ↔
      CompiledPath.compile source supplied {} = .error e) ∧
    (∀ path, CompiledPath.compile source supplied {} = .ok path →
      (path.isDefinite = false →
        readPath shelf document source supplied = .ok (.list (path.readList shelf document))) ∧
      (path.isDefinite = true →
        readPath shelf document source supplied = (path.readSingle shelf document).map .single) ∧
      SingleRead source (path.readList shelf document) (path.readSingle shelf document) ∧
      ∀ e, path.readSingle shelf document = .error e → e.isCompileTime = false) ∧
    ∀ calls : List Query.Call, calls.flatMap Query.Call.predicates = supplied →
      ((Query.build source calls).read shelf document).value =
        readPath shelf document source supplied ∧
      ((Query.build source calls).readList shelf document).value =
        (CompiledPath.compile source supplied {}).map (fun path => path.readList shelf document) ∧
      ((Query.build source calls).readSingle shelf document).value =
        CompiledPath.compile source supplied {} >>= fun path => path.readSingle shelf document := by
  refine ⟨fun e => readPath_eq_compileTime_error_iff, fun path hpath => ?_, ?_⟩
  · obtain ⟨-, -, -, -, -, hsource⟩ := CompiledPath.compile_eq_ok_iff.mp hpath
    have hsingle :
        SingleRead source (path.readList shelf document) (path.readSingle shelf document) :=
      hsource ▸ CompiledPath.singleRead_readSingle
    exact ⟨readPath_of_not_isDefinite hpath, readPath_of_isDefinite hpath, hsingle,
      fun e he => hsingle.isCompileTime_eq_false he⟩
  · rintro calls rfl
    refine ⟨?_, ?_, ?_⟩
    · rw [Query.value_read, Query.compile_build]
      rfl
    · rw [Query.value_readList, Query.compile_build]
    · rw [Query.value_readSingle, Query.compile_build]

/-- Predicates of three calls between which reporting is switched on and off,
with one to spare; and a definite path that has two matches. -/
theorem readPath_outcome_mixed_calls :
    ∃ (has : String → Predicate) (document : Value) (calls : List Query.Call)
      (listed definite : CompiledPath),
      (has = fun key => .criterion ⟨key, .present true⟩) ∧
      document = .object [("rows", .array [.object [("a", .int 1), ("b", .int 2)],
        .object [("b", .int 3)]])] ∧
      calls = [.trace true, .bind (has "a"), .bindAll [has "b"], .trace false, .bind (has "c")] ∧
      calls.flatMap Query.Call.predicates = [has "a", has "b", has "c"] ∧
      CompiledPath.compile "rows[?][?].b" [has "a", has "b", has "c"] {} = .ok listed ∧
      listed.isDefinite = false ∧
      ((Query.build "rows[?][?].b" calls).read {} document).value = .ok (.list [.int 2]) ∧
      CompiledPath.compile "rows.b" [] {} = .ok definite ∧ definite.isDefinite = true ∧
      ((Query.build "rows.b" [.trace true]).read {} document).value =
        .error (.inconsistent "rows.b" (.severalMatches 2)) ∧
      ((Query.build "rows.b" [.trace true]).readList {} document).value = .ok [.int 2, .int 3] := by
  let has : String → Predicate := fun key => .criterion ⟨key, .present true⟩
  let document : Value := .object [("rows", .array [.object [("a", .int 1), ("b", .int 2)],
    .object [("b", .int 3)]])]
  let calls : List Query.Call :=
    [.trace true, .bind (has "a"), .bindAll [has "b"], .trace false, .bind (has "c")]
  have hlisted : CompiledPath.compile "rows[?][?].b" [has "a", has "b", has "c"] {} =
      .ok ⟨_, [.root, .property "rows", .placeholder, .placeholder, .property "b"],
        [.root, .property "rows" true, .predicate (has "a") true, .predicate (has "b") true,
          .property "b" true]⟩ :=
    CompiledPath.compile_eq_ok_iff.mpr ⟨rfl, by decide, by decide +kernel, by decide,
      ⟨_, .plain rfl (.plain rfl (.placeholder (.placeholder (.plain rfl .nil))))⟩, rfl⟩
  have hdefinite : CompiledPath.compile "rows.b" [] {} =
      .ok ⟨_, [.root, .property "rows", .property "b"],
        [.root, .property "rows" true, .property "b" true]⟩ :=
    CompiledPath.compile_eq_ok_iff.mpr ⟨rfl, by decide, by decide +kernel, by decide,
      ⟨_, .plain rfl (.plain rfl (.plain rfl .nil))⟩, rfl⟩
  obtain ⟨-, hpath, hcalls⟩ :=
    readPath_outcome {} document "rows[?][?].b" [has "a", has "b", has "c"]
  obtain ⟨-, hpath', hcalls'⟩ := readPath_outcome {} document "rows.b" []
  have hlist := (hpath _ hlisted).1 rfl
  have hsingle := (hpath' _ hdefinite).2.1 rfl
  have hseveral := (hpath' _ hdefinite).2.2.1.several (by decide)
  refine ⟨has, document, calls, _, _, rfl, rfl, rfl, rfl, hlisted, rfl, ?_, hdefinite, rfl, ?_, ?_⟩
  · rw [(hcalls calls rfl).1, hlist]
    rfl
  · rw [(hcalls' [.trace true] rfl).1, hsingle, hseveral]
    rfl
  · rw [(hcalls' [.trace true] rfl).2.1, hdefinite]
    rfl

end DocPath

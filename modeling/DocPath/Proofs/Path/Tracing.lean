import DocPath.Proofs.Path.EntryPoints

/-! # Reported steps

A read that reports its steps gives what a read without reports gives, and emits
the same events besides.  Each report describes one step and counts the nodes
that are left after it, and these are the nodes that the steps up to it select
by themselves.  The reports come to an end with the first step after which no
node is left (`CompiledPath.filter_isStep_run`).  Whatever is done with the
nodes afterwards reports no steps, so this holds of every kind of read
(`CompiledPath.reports_of_traced`). -/

namespace DocPath

/-- Whether an event reports a step.  The other events tell of compiling, of
filters and of the way of reading, and come with reports or without. -/
def Event.isStep : Event → Bool
  | stepApplied .. => true
  | _ => false

namespace Traced

variable {α β : Type} {x : Traced α}

/-- What is computed one after the other emits its events one after the
other. -/
theorem events_bind (x : Traced α) (f : α → Traced β) :
    (x >>= f).events = x.events ++ (f x.value).events := rfl

/-- No step is reported, though other events may be emitted. -/
def Quiet (x : Traced α) : Prop := ∀ e ∈ x.events, e.isStep = false

theorem quiet_pure (a : α) : (Pure.pure a : Traced α).Quiet := by
  rintro e ⟨⟩

/-- What is quiet one after the other is quiet. -/
theorem Quiet.bind {f : α → Traced β} (hx : x.Quiet) (hf : ∀ a, (f a).Quiet) : (x >>= f).Quiet := by
  intro e he
  rcases List.mem_append.mp he with he | he
  · exact hx e he
  · exact hf x.value e he

theorem Quiet.filter_isStep (hx : x.Quiet) : x.events.filter Event.isStep = [] := by
  rw [List.filter_eq_nil_iff]
  intro e he
  simp [hx e he]

theorem Quiet.filter_not_isStep (hx : x.Quiet) :
    (x.events.filter fun e => !e.isStep) = x.events := by
  rw [List.filter_eq_self]
  intro e he
  simp [hx e he]

theorem quiet_emit {e : Event} (he : e.isStep = false) : (emit e).Quiet := by
  intro e' he'
  cases List.mem_singleton.mp he'
  exact he

end Traced

/-! ## Single steps report nothing -/

section

open Traced (Quiet quiet_pure)

variable {shelf : Shelf}

/-- A filter that is put to a node may tell of a mismatch, but reports no
step. -/
theorem Filter.quiet_test (f : Filter) (v : Value) : (f.test v).Quiet := by
  intro e he
  cases List.mem_singleton.mp he
  rfl

/-- A predicate that is put to a node reports no step, whether its filter is
shared or its own. -/
theorem Predicate.quiet_test (p : Predicate) (v : Value) : (p.test shelf v).Quiet := by
  cases p with
  | filter f => exact f.quiet_test v
  | criterion c => exact quiet_pure _
  | custom accepts => exact quiet_pure _
  | shared h =>
    simp only [test]
    split
    · next f _ => exact f.quiet_test v
    · intro e he
      cases List.mem_singleton.mp he
      rfl

theorem Predicate.quiet_keep (p : Predicate) (vs : List Value) : (p.keep shelf vs).Quiet := by
  induction vs with
  | nil => exact quiet_pure _
  | cons v vs ih => exact (p.quiet_test v).bind fun _ => ih.bind fun _ => quiet_pure _

theorem Step.quiet_apply (step : Step) (v : Value) : (step.apply shelf v).Quiet := by
  cases step with
  | predicate p expandArrays =>
    simp only [apply, Predicate.select]
    split <;> exact p.quiet_keep _
  | _ => exact quiet_pure _

theorem Step.quiet_applyAll (step : Step) (vs : List Value) : (step.applyAll shelf vs).Quiet := by
  induction vs with
  | nil => exact quiet_pure _
  | cons v vs ih => exact (step.quiet_apply v).bind fun _ => ih.bind fun _ => quiet_pure _

end

/-! ## Rows of steps -/

namespace Step

variable {shelf : Shelf} {source : String} {position : Nat} {step : Step} {steps : List Step}
  {vs : List Value}

/-- The number of steps up to the first one after which no node is left, or of
all steps. -/
def applied (shelf : Shelf) : List Step → List Value → Nat
  | [], _ => 0
  | step :: steps, vs =>
    let next := vs.flatMap (step.nodes shelf)
    if next = [] then 1 else applied shelf steps next + 1

/-- The reports of the applied steps of a row, the first of which has the given
position. -/
def reports (shelf : Shelf) (source : String) (position : Nat) (steps : List Step)
    (vs : List Value) :
    List Event :=
  (steps.take (applied shelf steps vs)).mapIdx fun j step =>
    .stepApplied source (position + j) (step.inspect shelf)
      (nodesAfter shelf (steps.take (j + 1)) vs).length

theorem applied_le_length : applied shelf steps vs ≤ steps.length := by
  induction steps generalizing vs with
  | nil => exact Nat.le_refl 0
  | cons step steps ih =>
    simp only [applied, List.length_cons]
    split
    · omega
    · exact Nat.succ_le_succ ih

/-- Between the applied steps there are nodes left, or the run would have come
to its end before. -/
theorem nodesAfter_take_ne_nil {k : Nat} (hk : k + 1 < applied shelf steps vs) :
    nodesAfter shelf (steps.take (k + 1)) vs ≠ [] := by
  induction steps generalizing vs k with
  | nil => simp [applied] at hk
  | cons step steps ih =>
    simp only [applied] at hk
    split at hk
    · omega
    · next hne =>
      cases k with
      | zero => simpa using hne
      | succ k => exact ih (Nat.lt_of_succ_lt_succ hk)

/-- If not all steps are applied, no node is left after the last one that is. -/
theorem nodesAfter_take_applied (h : applied shelf steps vs < steps.length) :
    0 < applied shelf steps vs ∧
    nodesAfter shelf (steps.take (applied shelf steps vs)) vs = [] := by
  induction steps generalizing vs with
  | nil => cases h
  | cons step steps ih =>
    simp only [applied] at h ⊢
    split at h
    · next hnil =>
      rw [if_pos hnil]
      exact ⟨Nat.one_pos, by simpa using hnil⟩
    · next hne =>
      rw [if_neg hne]
      exact ⟨Nat.succ_pos _, (ih (Nat.lt_of_succ_lt_succ h)).2⟩

/-- A step is reported first, and then the steps after it if they are
applied. -/
theorem reports_cons :
    reports shelf source position (step :: steps) vs =
      .stepApplied source position (step.inspect shelf) (vs.flatMap (step.nodes shelf)).length ::
        if vs.flatMap (step.nodes shelf) = [] then []
        else reports shelf source (position + 1) steps (vs.flatMap (step.nodes shelf)) := by
  simp only [reports, applied]
  split
  · simp
  · simp [List.mapIdx_cons, Nat.add_assoc, Nat.add_comm 1]

end Step

namespace CompiledPath

variable {shelf : Shelf} {source : String} {path : CompiledPath} {document : Value}

/-- A step emits its own events, then its report if steps are reported, and then
the events of the steps after it, unless no node is left for them. -/
theorem events_run_cons {trace : Bool} {position : Nat} {step : Step} {steps : List Step}
    {vs : List Value} :
    (run shelf trace source position (step :: steps) vs).events =
      (step.applyAll shelf vs).events ++
        ((if trace then [.stepApplied source position (step.inspect shelf)
            (vs.flatMap (step.nodes shelf)).length] else []) ++
          if vs.flatMap (step.nodes shelf) = [] then []
          else (run shelf trace source (position + 1) steps
            (vs.flatMap (step.nodes shelf))).events) := by
  -- a run asks `isEmpty` of the nodes that are left, and `Step.applied` compares them with `[]`
  have htail : ∀ next : List Value,
      (if next.isEmpty then pure next
        else run shelf trace source (position + 1) steps next : Traced (List Value)).events =
      if next = [] then [] else (run shelf trace source (position + 1) steps next).events := by
    intro next
    cases next <;> rfl
  rw [← Step.value_applyAll, ← htail]
  cases trace <;> rfl

/-- With reports a run emits the reports of its applied steps, by induction on
the steps: the step that is applied first is reported before anything that the
others emit. -/
theorem filter_isStep_run {position : Nat} {steps : List Step} {vs : List Value} :
    (run shelf true source position steps vs).events.filter Event.isStep =
      Step.reports shelf source position steps vs := by
  -- the rest of the run starts one position later and from the nodes that the first step leaves
  induction steps generalizing position vs with
  | nil => rfl
  | cons step steps ih =>
    rw [events_run_cons, List.filter_append, (step.quiet_applyAll vs).filter_isStep,
      Step.reports_cons]
    by_cases hnext : vs.flatMap (step.nodes shelf) = []
    · rw [if_pos hnext, if_pos hnext]
      rfl
    · rw [if_neg hnext, if_neg hnext, List.filter_append, ih]
      rfl

/-- Besides its reports a run emits what it emits without them. -/
theorem filter_not_isStep_run {position : Nat} {steps : List Step} {vs : List Value} :
    ((run shelf true source position steps vs).events.filter fun e => !e.isStep) =
      (run shelf false source position steps vs).events := by
  induction steps generalizing position vs with
  | nil => rfl
  | cons step steps ih =>
    rw [events_run_cons, events_run_cons, List.filter_append,
      (step.quiet_applyAll vs).filter_not_isStep]
    by_cases hnext : vs.flatMap (step.nodes shelf) = []
    · rw [if_pos hnext, if_pos hnext]
      rfl
    · rw [if_neg hnext, if_neg hnext, List.filter_append, ih]
      rfl

/-! ## Reads -/

/-- The first `n` steps of a path are those up to the first one after which no
node is left, or are all steps. -/
structure Applies (shelf : Shelf) (path : CompiledPath) (document : Value) (n : Nat) : Prop where
  le : n ≤ path.steps.length
  left : ∀ k, 0 < k → k < n → (path.take k).readList shelf document ≠ []
  last : n < path.steps.length → 0 < n ∧ (path.take n).readList shelf document = []

/-- A read that reports its steps, beside the same read without reports.  It
gives the same, reports each applied step with its position and the number of
nodes that the path up to this step matches, and emits the same other events. -/
structure Reports {α : Type} (shelf : Shelf) (path : CompiledPath) (document : Value)
    (reported plain : Traced α) : Prop where
  value : reported.value = plain.value
  steps : ∃ n, Applies shelf path document n ∧
    reported.events.filter Event.isStep = (path.steps.take n).mapIdx fun j step =>
      .stepApplied path.source j (step.inspect shelf)
        ((path.take (j + 1)).readList shelf document).length
  others : (reported.events.filter fun e => !e.isStep) = plain.events

/-- The steps that are counted as applied are those up to the first one after
which no node is left. -/
theorem applies_applied :
    Applies shelf path document (Step.applied shelf path.steps [document]) where
  le := Step.applied_le_length
  left k h0 hk := by
    obtain ⟨k, rfl⟩ := Nat.exists_eq_succ_of_ne_zero h0.ne'
    rw [readList_take]
    exact Step.nodesAfter_take_ne_nil hk
  last h := by
    rw [readList_take]
    exact Step.nodesAfter_take_applied h

/-- Selecting with reports, beside selecting without them. -/
theorem reports_select :
    Reports shelf path document (path.select shelf true document)
      (path.select shelf false document) where
  value := by rw [value_select, value_select]
  steps := by
    refine ⟨_, applies_applied, ?_⟩
    simp only [select, filter_isStep_run, Step.reports, Nat.zero_add, readList_take]
  others := filter_not_isStep_run

namespace Reports

open Traced (Quiet)

variable {α β : Type} {x : Traced β} {reported plain : Traced α}

/-- What is done with the outcome of a read reports no further steps, so a read
still has its reports when it is wrapped into something quiet. -/
theorem bind {f : α → Traced β} (h : Reports shelf path document reported plain)
    (hf : ∀ a, (f a).Quiet) :
    Reports shelf path document (reported >>= f) (plain >>= f) where
  value := by rw [Traced.value_bind, Traced.value_bind, h.value]
  steps := by
    obtain ⟨n, hn, hsteps⟩ := h.steps
    refine ⟨n, hn, ?_⟩
    rw [Traced.events_bind, List.filter_append, (hf _).filter_isStep, List.append_nil, hsteps]
  others := by
    rw [Traced.events_bind, Traced.events_bind, List.filter_append, (hf _).filter_not_isStep,
      h.others, h.value]

/-- What is done before a read reports no steps either. -/
theorem after {f g : β → Traced α} (hx : x.Quiet)
    (h : ∀ b, Reports shelf path document (f b) (g b)) :
    Reports shelf path document (x >>= f) (x >>= g) where
  value := (h x.value).value
  steps := by
    obtain ⟨n, hn, hsteps⟩ := (h x.value).steps
    refine ⟨n, hn, ?_⟩
    rw [Traced.events_bind, List.filter_append, hx.filter_isStep, List.nil_append, hsteps]
  others := by
    rw [Traced.events_bind, Traced.events_bind, List.filter_append, hx.filter_not_isStep,
      (h x.value).others]

end Reports

theorem reports_evaluate (mode : ReadMode) :
    Reports shelf path document (path.evaluate shelf true document mode)
      (path.evaluate shelf false document mode) := by
  refine reports_select.bind fun matched => ?_
  split
  · exact Traced.quiet_pure _
  · exact Traced.quiet_pure _
  · exact Traced.quiet_pure _
  · exact (Traced.quiet_emit rfl).bind fun _ => Traced.quiet_pure _

/-- Compiling reports no step. -/
theorem quiet_compileEvents (source : String) (supplied : List Predicate) (config : Config) :
    (Traced.emitAll (compileEvents source supplied config)).Quiet := by
  show ∀ e ∈ compileEvents source supplied config, e.isStep = false
  unfold compileEvents
  split
  · simp
  · split
    · simp [Event.isStep]
    · split <;> simp [Event.isStep]

end CompiledPath

namespace Query

open CompiledPath (Reports)

variable {shelf : Shelf} {document : Value} {path : CompiledPath} {q : Query}

/-- Whether steps are reported changes nothing about how the path of a query
compiles. -/
theorem reports_compiled {α : Type} {use plain : CompiledPath → Traced (Except Error α)}
    (hpath : q.compile = .ok path) (h : Reports shelf path document (use path) (plain path)) :
    Reports shelf path document ((q.trace true).compiled use) ((q.trace false).compiled plain) := by
  refine Reports.after (CompiledPath.quiet_compileEvents _ _ _) fun _ => ?_
  have hcompile : ∀ on, (q.trace on).compile = .ok path := fun _ => hpath
  rw [hcompile, hcompile]
  exact h

theorem reports_read (hpath : q.compile = .ok path) :
    Reports shelf path document ((q.trace true).read shelf document)
      ((q.trace false).read shelf document) :=
  reports_compiled hpath (.after (Traced.quiet_emit rfl) fun _ => CompiledPath.reports_evaluate _)

theorem reports_readList (hpath : q.compile = .ok path) :
    Reports shelf path document ((q.trace true).readList shelf document)
      ((q.trace false).readList shelf document) :=
  reports_compiled hpath (CompiledPath.reports_select.bind fun _ => Traced.quiet_pure _)

theorem reports_readSingle (hpath : q.compile = .ok path) :
    Reports shelf path document ((q.trace true).readSingle shelf document)
      ((q.trace false).readSingle shelf document) := by
  refine reports_compiled hpath ((CompiledPath.reports_evaluate .single).bind fun outcome => ?_)
  split
  · exact Traced.quiet_pure _
  · split <;> exact Traced.quiet_pure _

end Query

/-- **Reports do not change a read, and tell what each step leaves.** A compiled
path gives the same in either mode, and the same list of matches, whether or not
its steps are reported.  With reports it emits besides one event for each step,
in their order, up to the first step after which no node is left, or for all
steps; the event has the position of the step and the number of matches of the
path that ends there.  The same is true of every read by a query that compiles
to the path. -/
theorem CompiledPath.reports_of_traced (shelf : Shelf) (path : CompiledPath) (document : Value) :
    (∀ mode, Reports shelf path document (path.evaluate shelf true document mode)
      (path.evaluate shelf false document mode)) ∧
    Reports shelf path document (path.select shelf true document)
      (path.select shelf false document) ∧
    ∀ q : Query, q.compile = .ok path →
      Reports shelf path document ((q.trace true).read shelf document)
        ((q.trace false).read shelf document) ∧
      Reports shelf path document ((q.trace true).readList shelf document)
        ((q.trace false).readList shelf document) ∧
      Reports shelf path document ((q.trace true).readSingle shelf document)
        ((q.trace false).readSingle shelf document) :=
  ⟨reports_evaluate, reports_select, fun _ hpath =>
    ⟨Query.reports_read hpath, Query.reports_readList hpath, Query.reports_readSingle hpath⟩⟩

/-- Of five steps the fourth one leaves no node, and the fifth is not
reported. -/
theorem CompiledPath.reports_of_traced_stopped :
    ∃ (path : CompiledPath) (document : Value) (q : Query), q = { path := "$[1][*][4][*]" } ∧
      document = .array [.int 1, .array [.array [.int 2], .array [.int 3]]] ∧
      q.compile = .ok path ∧ path.steps.length = 5 ∧
      ((q.trace true).readList {} document).value = .ok [] ∧
      ((q.trace true).readList {} document).events.filter Event.isStep = [
        .stepApplied "$[1][*][4][*]" 0 "Root" 1,
        .stepApplied "$[1][*][4][*]" 1 "Index(1)" 1,
        .stepApplied "$[1][*][4][*]" 2 "Wildcard" 2,
        .stepApplied "$[1][*][4][*]" 3 "Index(4)" 0] := by
  let document : Value := .array [.int 1, .array [.array [.int 2], .array [.int 3]]]
  let q : Query := { path := "$[1][*][4][*]" }
  let path : CompiledPath := ⟨"$[1][*][4][*]", [.root, .index 1, .wildcard, .index 4, .wildcard],
    [.root, .index 1, .wildcard, .index 4, .wildcard]⟩
  have hpath : q.compile = .ok path :=
    compile_eq_ok_iff.mpr ⟨rfl, by decide, by decide +kernel, by decide,
      ⟨_, .plain rfl (.plain rfl (.plain rfl (.plain rfl (.plain rfl .nil))))⟩, rfl⟩
  obtain ⟨hvalue, ⟨n, hn, hsteps⟩, -⟩ := ((reports_of_traced {} path document).2.2 q hpath).2.1
  have hleft : ∀ k < 4, 0 < k → (path.take k).readList {} document ≠ [] := by decide
  have hnone : (path.take 4).readList {} document = [] := by decide
  have hstop : n = 4 := by
    have hle : n ≤ 5 := hn.le
    by_contra hne
    by_cases hall : n = 5
    · exact hn.left 4 (by omega) (by omega) hnone
    · obtain ⟨hpos, hlast⟩ := hn.last (show n < 5 by omega)
      exact hleft n (by omega) hpos hlast
  subst hstop
  refine ⟨path, document, q, rfl, rfl, hpath, rfl, ?_, hsteps.trans (by decide)⟩
  rw [hvalue, Query.value_readList]
  show (q.compile.map fun path => path.readList {} document) = .ok []
  rw [hpath]
  rfl

end DocPath

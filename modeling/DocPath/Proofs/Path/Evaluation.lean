import DocPath.Path.Read

/-! # Selected nodes

What a read selects does not depend on what it reports.  A row of steps selects
below each node what its steps select one after the other, and a single read
succeeds on exactly one match. -/

namespace DocPath

namespace Traced

variable {α β : Type}

@[simp] theorem value_pure (a : α) : (Pure.pure a : Traced α).value = a := rfl

/-- What is computed one after the other has the value of the second part for
the value of the first, whatever events are emitted. -/
@[simp] theorem value_bind (x : Traced α) (f : α → Traced β) :
    (x >>= f).value = (f x.value).value := rfl

end Traced

/-- The nodes that a predicate is put to at a node: the elements of an array if
arrays are looked into, otherwise the node itself. -/
def Value.candidates (expandArrays : Bool) (v : Value) : List Value :=
  match v, expandArrays with
  | .array items, true => items
  | v, _ => [v]

namespace Predicate

variable {shelf : Shelf} {p : Predicate}

/-- The nodes that are kept are those that the predicate accepts, in their
order. -/
theorem value_keep {vs : List Value} : (p.keep shelf vs).value = vs.filter (p.accepts shelf) := by
  induction vs with
  | nil => rfl
  | cons v vs ih =>
    rw [List.filter_cons, ← ih]
    rfl

/-- A predicate selects the candidates that it accepts, in their order. -/
theorem value_select {expandArrays : Bool} {v : Value} :
    (p.select shelf expandArrays v).value =
      (v.candidates expandArrays).filter (p.accepts shelf) := by
  cases v <;> cases expandArrays <;> exact value_keep

end Predicate

namespace Step

variable {shelf : Shelf} {step : Step} {vs : List Value}

/-- The nodes that a step selects below a node. -/
def nodes (shelf : Shelf) (step : Step) (v : Value) : List Value := (step.apply shelf v).value

theorem value_applyAll : (step.applyAll shelf vs).value = vs.flatMap (step.nodes shelf) := by
  induction vs with
  | nil => rfl
  | cons v vs ih =>
    rw [List.flatMap_cons, ← ih]
    rfl

/-- The nodes that a row of steps selects below nodes. -/
def nodesAfter (shelf : Shelf) (steps : List Step) (vs : List Value) : List Value :=
  steps.foldl (fun vs step => vs.flatMap (step.nodes shelf)) vs

@[simp] theorem nodesAfter_nil : nodesAfter shelf [] vs = vs := rfl

/-- The first step takes every node to those it selects, and the other steps go
on from there. -/
@[simp] theorem nodesAfter_cons {steps : List Step} :
    nodesAfter shelf (step :: steps) vs =
      nodesAfter shelf steps (vs.flatMap (step.nodes shelf)) := rfl

/-- Without nodes no step selects anything. -/
theorem nodesAfter_no_nodes (steps : List Step) : nodesAfter shelf steps [] = [] := by
  induction steps with
  | nil => rfl
  | cons step steps ih => exact ih

end Step

namespace CompiledPath

variable {shelf : Shelf} {trace : Bool} {source : String} {path : CompiledPath} {document : Value}

/-- A run stops after a step that leaves no node.  What it selects is still what
all steps select, since the others would select nothing. -/
theorem value_run {position : Nat} {steps : List Step} {vs : List Value} :
    (run shelf trace source position steps vs).value = Step.nodesAfter shelf steps vs := by
  induction steps generalizing position vs with
  | nil => rfl
  | cons step steps ih =>
    have hrun : (run shelf trace source position (step :: steps) vs).value =
        (if (vs.flatMap (step.nodes shelf)).isEmpty then pure (vs.flatMap (step.nodes shelf))
          else run shelf trace source (position + 1) steps
            (vs.flatMap (step.nodes shelf))).value := by
      rw [← Step.value_applyAll]
      cases trace <;> rfl
    rw [hrun, Step.nodesAfter_cons]
    split
    · next h =>
      -- without nodes the other steps select nothing either
      rw [List.isEmpty_iff.mp h, Step.nodesAfter_no_nodes]
      rfl
    · exact ih

/-- What is selected does not depend on whether the steps are reported. -/
theorem value_select :
    (path.select shelf trace document).value = Step.nodesAfter shelf path.steps [document] :=
  value_run

/-- A read of all matches as the steps from the document on, from which what a
path matches is reasoned about. -/
theorem readList_eq_nodesAfter :
    path.readList shelf document = Step.nodesAfter shelf path.steps [document] := value_select

/-- The path of the first `count` fragments of a path, with its source. -/
def take (path : CompiledPath) (count : Nat) : CompiledPath :=
  { path with fragments := path.fragments.take count, steps := path.steps.take count }

/-- The first fragments of a path match what is left after its first steps. -/
theorem readList_take (count : Nat) :
    (path.take count).readList shelf document =
      Step.nodesAfter shelf (path.steps.take count) [document] :=
  readList_eq_nodesAfter

/-- What a single read gives, by the number of matches. -/
theorem value_evaluate_single :
    (path.evaluate shelf trace document .single).value =
      match path.readList shelf document with
      | [] => .error (.noSuchPath path.source)
      | [v] => .ok (.single v)
      | vs => .error (.inconsistent path.source (.severalMatches vs.length)) := by
  rw [evaluate, Traced.value_bind, value_select, readList_eq_nodesAfter]
  match Step.nodesAfter shelf path.steps [document] with
  | [] | [_] | _ :: _ :: _ => rfl

theorem read_list :
    path.read shelf document .list = .ok (.list (path.readList shelf document)) := rfl

/-- A single read gives a value exactly if this value is the only match. -/
theorem read_single_eq_ok_iff {v : Value} :
    path.read shelf document .single = .ok (.single v) ↔ path.readList shelf document = [v] := by
  rw [read, value_evaluate_single]
  match path.readList shelf document with
  | [] => simp
  | [w] => simp
  | _ :: _ :: _ => simp

end CompiledPath

end DocPath

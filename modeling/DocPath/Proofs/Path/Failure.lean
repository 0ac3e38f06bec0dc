import DocPath.Proofs.Path.Concatenation

/-! # When compiling fails

Compiling goes through the fragments from left to right, and two things can stop
it there: a predicate written in the path that cannot be read, and a placeholder
without a predicate (`cases_of_steps_eq_error`).  Before that come the checks of
the limits and of the text.  `CompiledPath.compile_outcome` says which of them
decides: when compiling succeeds, what the compiled path depends on, and which
kind of error is reported when it fails. -/

namespace DocPath

/-! ## Texts that are refused -/

/-- A predicate that cannot be read is an invalid path. -/
theorem Filter.kind_of_ofText_eq_error {source : String} {e : Error}
    (h : ofText source = .error e) :
    e.kind = .invalidPath := by
  simp only [ofText] at h
  split at h
  · cases h
  · cases h
    rfl

namespace Fragment

variable {source : String} {fs : List Fragment} {e : Error}

/-- A text that cannot be read is an invalid path. -/
theorem kind_of_ofText_eq_error (h : ofText source = .error e) : e.kind = .invalidPath := by
  simp only [ofText] at h
  split at h
  · cases h
    rfl
  · cases h

/-- Whether the predicates that are written in fragments can be read.
Placeholders need none, and predicates are read only after the whole path is. -/
def Readable (fs : List Fragment) : Prop :=
  ∀ text, .expression text ∈ fs → ∃ f, Filter.ofText text = .ok f

theorem readable_nil : Readable [] := fun _ h => by cases h

/-- Fragments are readable if the first one is, in case it is a predicate, and
if the others are. -/
theorem readable_cons {f : Fragment} :
    Readable (f :: fs) ↔
      (∀ text, f = .expression text → ∃ g, Filter.ofText text = .ok g) ∧ Readable fs := by
  constructor
  · intro h
    exact ⟨fun text he => h text (he ▸ List.mem_cons_self),
      fun text hmem => h text (List.mem_cons_of_mem _ hmem)⟩
  · rintro ⟨hf, hfs⟩ text hmem
    rcases List.mem_cons.mp hmem with he | hmem
    · exact hf text he.symm
    · exact hfs text hmem

/-- The check of the predicates passes exactly if each of them can be read. -/
theorem validatePredicates_eq_ok_iff : validatePredicates fs = .ok () ↔ Readable fs := by
  induction fs with
  | nil => exact iff_of_true rfl readable_nil
  | cons f fs ih =>
    rw [readable_cons, ← ih]
    cases f with
    | expression text =>
      simp only [validatePredicates]
      cases hf : Filter.ofText text with
      | error e =>
        refine iff_of_false (by simp) fun h => ?_
        obtain ⟨g, hg⟩ := h.1 text rfl
        rw [hf] at hg
        cases hg
      | ok g =>
        refine ⟨fun h => ⟨?_, h⟩, fun h => h.2⟩
        rintro _ he
        cases he
        exact ⟨g, hf⟩
    | _ => exact ⟨fun h => ⟨fun _ he => (by cases he), h⟩, fun h => h.2⟩

/-- A path is valid exactly if it can be read and each predicate in it can
be. -/
theorem validate_eq_ok_iff :
    validate source = .ok () ↔ ∃ fs, ofText source = .ok fs ∧ Readable fs := by
  unfold validate
  rw [DocPath.bind_eq_ok_iff]
  exact exists_congr fun fs => and_congr_right fun _ => validatePredicates_eq_ok_iff

end Fragment

namespace Compiler

open Fragment (Readable)

variable {source : String} {count bound : Nat} {after : Bool} {f : Fragment} {fs gs : List Fragment}
  {ss : List Step} {supplied left : List Predicate} {e : Error}

/-! ## Fragments that have steps -/

theorem Compiles.readable (h : Compiles after fs supplied ss left) : Readable fs := by
  induction h with
  | nil => exact Fragment.readable_nil
  | plain hp _ ih => exact Fragment.readable_cons.mpr ⟨fun _ he => (by subst he; cases hp), ih⟩
  | placeholder _ ih => exact Fragment.readable_cons.mpr ⟨fun _ he => (by cases he), ih⟩
  | expression hf _ ih =>
    exact Fragment.readable_cons.mpr ⟨fun _ he => (by cases he; exact ⟨_, hf⟩), ih⟩

/-- Fragments have steps if there is a predicate for each placeholder and the
predicates written in them can be read. -/
theorem exists_compiles_iff :
    (∃ ss left, Compiles after fs supplied ss left) ↔
      placeholders fs ≤ supplied.length ∧ Readable fs := by
  constructor
  · rintro ⟨ss, left, h⟩
    have hlen := h.length_supplied
    exact ⟨by omega, h.readable⟩
  · rintro ⟨hcount, hread⟩
    induction fs generalizing after supplied with
    | nil => exact ⟨[], supplied, .nil⟩
    | cons f fs ih =>
      obtain ⟨hf, hfs⟩ := Fragment.readable_cons.mp hread
      cases hp : f.plainStep? after with
      | some step =>
        rw [placeholders_plain hp] at hcount
        obtain ⟨ss, left, h⟩ := ih hcount hfs
        exact ⟨step :: ss, left, .plain hp h⟩
      | none =>
        rcases predicate_of_plainStep?_eq_none hp with rfl | ⟨text, rfl⟩
        · rw [placeholders_placeholder] at hcount
          cases supplied with
          | nil => cases hcount
          | cons p supplied =>
            obtain ⟨ss, left, h⟩ := ih (Nat.le_of_succ_le_succ hcount) hfs
            exact ⟨_, left, .placeholder h⟩
        · obtain ⟨g, hg⟩ := hf text rfl
          rw [placeholders_expression] at hcount
          obtain ⟨ss, left, h⟩ := ih hcount hfs
          exact ⟨_, left, .expression hg h⟩

/-- Only the predicates for the placeholders are used, so further ones can be
left out without a change to the steps. -/
theorem Compiles.take_supplied (h : Compiles after fs supplied ss left) :
    Compiles after fs (supplied.take (placeholders fs)) ss [] := by
  induction h with
  | nil => exact .nil
  | plain hp _ ih =>
    rw [placeholders_plain hp]
    exact .plain hp ih
  | placeholder _ ih =>
    rw [placeholders_placeholder]
    exact .placeholder ih
  | expression hf _ ih => exact .expression hf ih

/-! ## The fragment that compiling stops at -/

/-- Where compiling stops, and why: at a placeholder when the predicates have
run out, or at a predicate that cannot be read. -/
inductive Stops (source : String) (count bound : Nat) : Fragment → List Predicate → Error → Prop
  | unbound : Stops source count bound .placeholder [] (.bindingMismatch source count bound)
  | unreadable {text : String} {supplied : List Predicate} {e : Error} :
      Filter.ofText text = .error e → Stops source count bound (.expression text) supplied e

/-- Where compiling stops, it fails with the error of the fragment, whatever
comes after it. -/
theorem Stops.steps_eq_error (h : Stops source count bound f supplied e) :
    steps source count bound after (f :: fs) supplied = .error e := by
  cases h with
  | unbound => rfl
  | unreadable hf => simp only [steps, hf]

/-- The kind of the error tells the two reasons apart, so a mismatch is reported
for a placeholder only. -/
theorem Stops.bindingMismatch_or_invalidPath (h : Stops source count bound f supplied e) :
    f = .placeholder ∧ supplied = [] ∧ e = .bindingMismatch source count bound ∨
      e.kind = .invalidPath := by
  cases h with
  | unbound => exact .inl ⟨rfl, rfl, rfl⟩
  | unreadable hf => exact .inr (Filter.kind_of_ofText_eq_error hf)

/-- The fragments before the one that compiling stops at do not change the
error. -/
theorem Compiles.steps_append_eq_error (h : Compiles after fs supplied ss left)
    (hstop : Stops source count (bound + placeholders fs) f left e) :
    steps source count bound after (fs ++ f :: gs) supplied = .error e := by
  induction h generalizing bound with
  | nil => exact hstop.steps_eq_error
  | plain hp _ ih =>
    rw [placeholders_plain hp] at hstop
    rw [List.cons_append, steps_plain hp, map_eq_error_iff]
    exact ih hstop
  | placeholder _ ih =>
    rw [placeholders_placeholder, Nat.add_comm _ 1, ← Nat.add_assoc] at hstop
    simp only [List.cons_append, steps, map_eq_error_iff]
    exact ih hstop
  | expression hf _ ih =>
    simp only [List.cons_append, steps, hf, map_eq_error_iff]
    exact ih hstop

/-- Compiling fails at the first fragment that stops it: those before it
compile, and its error is the one that is reported. -/
theorem steps_eq_error_iff :
    steps source count bound after fs supplied = .error e ↔
      ∃ before f rest ss left, fs = before ++ f :: rest ∧ Compiles after before supplied ss left ∧
        Stops source count (bound + placeholders before) f left e := by
  constructor
  · -- a fragment that has a step goes in front of what compiles before the failing one
    intro h
    induction fs generalizing bound after supplied with
    | nil => cases h
    | cons f fs ih =>
      cases hp : f.plainStep? after with
      | some step =>
        rw [steps_plain hp, map_eq_error_iff] at h
        obtain ⟨before, g, rest, ss, left, rfl, hc, hstop⟩ := ih h
        refine ⟨f :: before, g, rest, step :: ss, left, rfl, .plain hp hc, ?_⟩
        rwa [placeholders_plain hp]
      | none =>
        rcases predicate_of_plainStep?_eq_none hp with rfl | ⟨text, rfl⟩
        · cases supplied with
          | nil =>
            cases h
            exact ⟨[], .placeholder, fs, [], [], rfl, .nil, .unbound⟩
          | cons p supplied =>
            simp only [steps, map_eq_error_iff] at h
            obtain ⟨before, g, rest, ss, left, rfl, hc, hstop⟩ := ih h
            refine ⟨.placeholder :: before, g, rest, _, left, rfl, .placeholder hc, ?_⟩
            rwa [placeholders_placeholder, Nat.add_comm _ 1, ← Nat.add_assoc]
        · simp only [steps] at h
          split at h
          · next d hf =>
            cases h
            exact ⟨[], .expression text, fs, [], supplied, rfl, .nil, .unreadable hf⟩
          · next g hf =>
            rw [map_eq_error_iff] at h
            obtain ⟨before, g, rest, ss, left, rfl, hc, hstop⟩ := ih h
            exact ⟨.expression text :: before, g, rest, _, left, rfl, .expression hf hc, hstop⟩
  · rintro ⟨before, f, rest, ss, left, rfl, hc, hstop⟩
    exact hc.steps_append_eq_error hstop

/-- Whether fragments have a placeholder that is left without a predicate when
`n` are supplied, after predicates that can be read. -/
def Unbound (n : Nat) (fs : List Fragment) : Prop :=
  ∃ before rest, fs = before ++ .placeholder :: rest ∧ placeholders before = n ∧ Readable before

/-- Without a predicate for some placeholder, and with readable ones before it,
compiling fails for the number of predicates. -/
theorem steps_eq_error_of_unbound (h : Unbound supplied.length fs) :
    steps source count bound after fs supplied =
      .error (.bindingMismatch source count (bound + supplied.length)) := by
  obtain ⟨before, rest, rfl, hcount, hread⟩ := h
  have hsteps : ∃ ss left, Compiles after before supplied ss left :=
    exists_compiles_iff.mpr ⟨hcount.le, hread⟩
  obtain ⟨ss, left, hc⟩ := hsteps
  -- the fragments before the placeholder use up all predicates
  have hlen := hc.length_supplied
  have hnone : left = [] := List.eq_nil_of_length_eq_zero (by omega)
  subst hnone
  rw [← hcount]
  exact hc.steps_append_eq_error .unbound

/-- Steps are missing because a placeholder has no predicate, or because of a
text that is refused. -/
theorem unbound_or_invalidPath (h : steps source count bound after fs supplied = .error e) :
    (Unbound supplied.length fs ∧ e = .bindingMismatch source count (bound + supplied.length)) ∨
      e.kind = .invalidPath := by
  obtain ⟨before, f, rest, ss, left, rfl, hc, hstop⟩ := steps_eq_error_iff.mp h
  rcases hstop.bindingMismatch_or_invalidPath with ⟨rfl, rfl, rfl⟩ | hkind
  · have hlen := hc.length_supplied
    rw [List.length_nil, Nat.add_zero] at hlen
    rw [hlen]
    exact .inl ⟨⟨before, rest, rfl, rfl, hc.readable⟩, rfl⟩
  · exact .inr hkind

/-- If a placeholder is left over, there are more of them than predicates. -/
theorem Unbound.lt_placeholders {n : Nat} (h : Unbound n fs) : n < placeholders fs := by
  obtain ⟨before, rest, rfl, rfl, -⟩ := h
  simp [placeholders]

/-! ## The checks before the steps -/

variable {config : Config}

/-- Before predicates are bound, compiling fails for the limits or for the text,
and for the text only if the limits are valid. -/
theorem kind_of_fragments_eq_error (h : fragments config source = .error e) :
    (config.validate ≠ .ok () ∧ e.kind = .invalidConfig) ∨
      (config.validate = .ok () ∧ e.kind = .invalidPath) := by
  unfold fragments Fragment.ofTextWithin at h
  split at h
  · next hv =>
    cases h
    exact .inl ⟨by simp [hv], rfl⟩
  · next hv =>
    refine .inr ⟨hv, ?_⟩
    split at h
    · cases h
      rfl
    · exact Fragment.kind_of_ofText_eq_error h

/-- If a placeholder is left over, binding fails with the number of placeholders
and that of the predicates. -/
theorem bind_eq_error_of_unbound (hmany : fs.length ≤ config.maxFragments.toNat)
    (h : Unbound supplied.length fs) :
    bind config source fs supplied =
      .error (.bindingMismatch source (placeholders fs) supplied.length) := by
  unfold bind
  rw [if_neg (by omega), steps_eq_error_of_unbound h, Nat.zero_add]

/-- Binding fails for a placeholder that is left over, or for the text. -/
theorem cases_of_bind_eq_error (h : bind config source fs supplied = .error e) :
    (fs.length ≤ config.maxFragments.toNat ∧ Unbound supplied.length fs ∧
        e = .bindingMismatch source (placeholders fs) supplied.length) ∨
      e.kind = .invalidPath := by
  unfold bind at h
  split at h
  · cases h
    exact .inr rfl
  · next hmany =>
    refine (unbound_or_invalidPath h).imp_left ?_
    rintro ⟨hunbound, rfl⟩
    rw [Nat.zero_add]
    exact ⟨by omega, hunbound, rfl⟩

end Compiler

namespace CompiledPath

open Compiler (placeholders Unbound)

variable {source : String} {supplied further : List Predicate} {config config' : Config}
  {path other : CompiledPath} {e : Error}

/-- **A path is compiled exactly if** the limits are valid and kept, its text
and its predicates can be read, and there is a predicate for each
placeholder. -/
theorem exists_compile_eq_ok_iff :
    (∃ path, compile source supplied config = .ok path) ↔
      config.validate = .ok () ∧ source.length ≤ config.maxPathLength.toNat ∧
        Fragment.validate source = .ok () ∧
        ∃ fs, Fragment.ofText source = .ok fs ∧ fs.length ≤ config.maxFragments.toNat ∧
          placeholders fs ≤ supplied.length := by
  constructor
  · rintro ⟨path, h⟩
    obtain ⟨hv, hlen, htext, hmany, ⟨left, hss⟩, -⟩ := compile_eq_ok_iff.mp h
    obtain ⟨hcount, hread⟩ := Compiler.exists_compiles_iff.mp ⟨_, left, hss⟩
    exact ⟨hv, hlen, Fragment.validate_eq_ok_iff.mpr ⟨_, htext, hread⟩, _, htext, hmany, hcount⟩
  · rintro ⟨hv, hlen, hvalid, fs, htext, hmany, hcount⟩
    obtain ⟨fs', htext', hread⟩ := Fragment.validate_eq_ok_iff.mp hvalid
    rw [htext] at htext'
    cases htext'
    obtain ⟨ss, left, hss⟩ := Compiler.exists_compiles_iff.mpr ⟨hcount, hread⟩
    exact ⟨⟨source, fs, ss⟩, compile_eq_ok_iff.mpr ⟨hv, hlen, htext, hmany, ⟨left, hss⟩, rfl⟩⟩

/-- A compiled path depends on the text and on the predicates for its
placeholders only. -/
theorem compile_unique (h : compile source supplied config = .ok path)
    (h' : compile source further config' = .ok other)
    (htake : further.take (placeholders path.fragments) =
      supplied.take (placeholders path.fragments)) : other = path := by
  obtain ⟨-, -, htext, -, ⟨left, hss⟩, hsource⟩ := compile_eq_ok_iff.mp h
  obtain ⟨-, -, htext', -, ⟨left', hts⟩, hsource'⟩ := compile_eq_ok_iff.mp h'
  obtain ⟨s, fs, ss⟩ := path
  obtain ⟨s', fs', ts⟩ := other
  rw [htext] at htext'
  cases htext'
  -- both rows of steps are compiled from the predicates for the placeholders
  have hone := hts.take_supplied
  rw [htake] at hone
  have hsteps : ts = ss := hone.steps_unique hss.take_supplied
  simp only at hsource hsource'
  rw [hsteps, hsource, hsource']

/-- Compiling fails because of the limits, because of the text, or because the
predicates run out. -/
theorem cases_of_compile_eq_error (h : compile source supplied config = .error e) :
    (config.validate ≠ .ok () ∧ e.kind = .invalidConfig) ∨
      config.validate = .ok () ∧ (e.kind = .invalidPath ∨
        ∃ fs, source.length ≤ config.maxPathLength.toNat ∧ Fragment.ofText source = .ok fs ∧
          fs.length ≤ config.maxFragments.toNat ∧ Unbound supplied.length fs ∧
          e = .bindingMismatch source (placeholders fs) supplied.length) := by
  unfold compile at h
  rcases bind_eq_error_iff.mp h with h | ⟨fs, hfs, h⟩
  · exact (Compiler.kind_of_fragments_eq_error h).imp_right fun ⟨hv, hkind⟩ => ⟨hv, .inl hkind⟩
  · obtain ⟨hv, hlen, htext⟩ := Compiler.fragments_eq_ok_iff.mp hfs
    refine .inr ⟨hv, ?_⟩
    rcases bind_eq_error_iff.mp h with h | ⟨_, _, h⟩
    · rcases Compiler.cases_of_bind_eq_error h with ⟨hmany, hunbound, he⟩ | hkind
      · exact .inr ⟨fs, hlen, htext, hmany, hunbound, he⟩
      · exact .inl hkind
    · cases h

/-- If all else is well, compiling fails for a placeholder that is left over
with the number of placeholders and that of the predicates. -/
theorem compile_eq_error_of_unbound {fs : List Fragment} (hv : config.validate = .ok ())
    (hlen : source.length ≤ config.maxPathLength.toNat) (htext : Fragment.ofText source = .ok fs)
    (hmany : fs.length ≤ config.maxFragments.toNat) (h : Unbound supplied.length fs) :
    compile source supplied config =
      .error (.bindingMismatch source (placeholders fs) supplied.length) := by
  unfold compile
  refine bind_eq_error_iff.mpr (.inr ⟨fs, Compiler.fragments_eq_ok_iff.mpr ⟨hv, hlen, htext⟩, ?_⟩)
  exact bind_eq_error_iff.mpr (.inl (Compiler.bind_eq_error_of_unbound hmany h))

/-- **What compiling comes to.** It succeeds under limits that are valid and not
exceeded, on texts that are valid and with a predicate for each placeholder;
neither the limits nor further predicates show in the compiled path.  It reports
a mismatch, with both counts, when the predicates run out before anything else
is found wrong; every other error is one of the limits if they are not valid,
and one of the text if they are. -/
theorem compile_outcome (source : String) (supplied : List Predicate) (config : Config) :
    ((∃ path, compile source supplied config = .ok path) ↔
      config.validate = .ok () ∧ source.length ≤ config.maxPathLength.toNat ∧
        Fragment.validate source = .ok () ∧
        ∃ fs, Fragment.ofText source = .ok fs ∧ fs.length ≤ config.maxFragments.toNat ∧
          placeholders fs ≤ supplied.length) ∧
    (∀ path, compile source supplied config = .ok path → ∀ further config' other,
      further.take (placeholders path.fragments) = supplied.take (placeholders path.fragments) →
        compile source further config' = .ok other → other = path) ∧
    ((∃ e, compile source supplied config = .error e ∧ e.kind = .bindingMismatch) ↔
      config.validate = .ok () ∧ source.length ≤ config.maxPathLength.toNat ∧
        ∃ fs, Fragment.ofText source = .ok fs ∧ fs.length ≤ config.maxFragments.toNat ∧
          supplied.length < placeholders fs ∧ Unbound supplied.length fs) ∧
    (∀ e, compile source supplied config = .error e →
      (e.kind = .bindingMismatch → ∃ fs, Fragment.ofText source = .ok fs ∧
        e = .bindingMismatch source (placeholders fs) supplied.length) ∧
      (e.kind ≠ .bindingMismatch →
        (config.validate ≠ .ok () → e.kind = .invalidConfig) ∧
        (config.validate = .ok () → e.kind = .invalidPath))) := by
  refine ⟨exists_compile_eq_ok_iff,
    fun path h further config' other htake h' => compile_unique h h' htake, ⟨?_, ?_⟩, ?_⟩
  · rintro ⟨e, h, hkind⟩
    rcases cases_of_compile_eq_error h with
      ⟨-, hk⟩ | ⟨hv, hk | ⟨fs, hlen, htext, hmany, hunbound, -⟩⟩
    · rw [hkind] at hk
      cases hk
    · rw [hkind] at hk
      cases hk
    · exact ⟨hv, hlen, fs, htext, hmany, hunbound.lt_placeholders, hunbound⟩
  · rintro ⟨hv, hlen, fs, htext, hmany, -, hunbound⟩
    exact ⟨_, compile_eq_error_of_unbound hv hlen htext hmany hunbound, rfl⟩
  · intro e h
    rcases cases_of_compile_eq_error h with
      ⟨hv, hk⟩ | ⟨hv, hk | ⟨fs, -, htext, -, -, rfl⟩⟩
    · rw [hk]
      exact ⟨fun hb => (by cases hb), fun _ => ⟨fun _ => rfl, fun hok => absurd hok hv⟩⟩
    · rw [hk]
      exact ⟨fun hb => (by cases hb), fun _ => ⟨fun hbad => absurd hv hbad, fun _ => rfl⟩⟩
    · exact ⟨fun _ => ⟨fs, htext, rfl⟩, fun hb => absurd rfl hb⟩

-- the same two faults in both orders: the one on the left is reported
example : compile "$[?][?(x)]" [] {} = .error (.bindingMismatch "$[?][?(x)]" 1 0) := by cbv

example :
    compile "$[?(x)][?]" [] {} = .error (.invalidPath "[?(x)]" .expectedNode (some 0)) := by cbv

end CompiledPath

end DocPath

import DocPath.Proofs.Regex.Framing

/-! # Anchored patterns

A pattern is compiled from its source between the marks for the start and the
end of a text, and the source is put there as it stands.  Over every engine that
follows its documentation, a source that is a regular expression by itself keeps
its meaning between the marks: the pattern matches exactly the texts that the
source matches as a whole.  What can get in the way of compiling it is a comment
at its end, which hides the closing mark, and the limits, which the marks count
towards.  Nothing checks that a source is a regular expression by itself.  One
that is not may still close the group of the marks and open another one, and
what such a pattern matches need not be the whole of a text. -/

namespace DocPath.Engine

open Regex

variable {engine : Engine} {meaning : Meaning} {source : String} {flags : PatternFlags}

/-! ### The text between the marks -/

theorem anchored_eq (source : String) :
    anchored source = Mark.textStart.text ++ (grouped source.toList ++ Mark.textEnd.text) := by
  simp [anchored, grouped, Mark.text]

/-- The group of the marks with the mark behind it, the mark in front being left
out: the frame is opened from its front. -/
theorem framed_end (source : List Char) : Framed source (grouped source ++ Mark.textEnd.text) :=
  .after .textEnd .group

section

variable (hfollows : engine.Follows meaning) (hvalid : meaning.Valid flags source.toList)

include hfollows hvalid

/-- A regular expression is one between the marks, unless it ends in a
comment. -/
theorem valid_anchored_iff :
    meaning.Valid flags (anchored source) ↔ ¬ meaning.OpenComment source.toList := by
  rw [anchored_eq, hfollows.valid_before .textStart hvalid (framed_end source.toList),
    hfollows.valid_after .textEnd hvalid .group, hfollows.valid_group hvalid]

/-- Between the marks a regular expression has to match the whole of a text: the
marks hold at its two ends only, and the group keeps the branches of the
expression between them. -/
theorem matches_anchored_iff (hanchored : meaning.Valid flags (anchored source)) {text : List Char}
    {i j : Nat} :
    meaning.Matches flags (anchored source) text i j ↔
      i = 0 ∧ j = text.length ∧ meaning.Matches flags source.toList text 0 text.length := by
  have hopen := (valid_anchored_iff hfollows hvalid).mp hanchored
  have hgroup : meaning.Valid flags (grouped source.toList) :=
    (hfollows.valid_group hvalid).mpr hopen
  have hend : meaning.Valid flags (grouped source.toList ++ Mark.textEnd.text) :=
    (hfollows.valid_after .textEnd hvalid .group).mpr hgroup
  rw [anchored_eq, hfollows.matches_before .textStart hvalid (framed_end source.toList) hend]
  simp only [hfollows.matches_mark, hfollows.matches_after .textEnd hvalid .group hgroup,
    hfollows.matches_group hvalid hgroup, Mark.Holds]
  constructor
  · rintro ⟨_, ⟨rfl, rfl⟩, _, hmatches, rfl, rfl⟩
    exact ⟨rfl, rfl, hmatches⟩
  · rintro ⟨rfl, rfl, hmatches⟩
    exact ⟨0, ⟨rfl, rfl⟩, text.length, hmatches, rfl, rfl⟩

end

/-! ### Compiled patterns -/

theorem build_of_compile {p : engine.Pattern} (h : engine.compile source flags = .ok p) :
    engine.build? flags (anchored source) = some p.program := by
  unfold compile at h
  split at h
  · next program hprogram =>
    obtain rfl := Except.ok.inj h
    exact hprogram
  · exact nomatch h

theorem exists_compile_iff :
    (∃ p, engine.compile source flags = .ok p) ↔
      ∃ program, engine.build? flags (anchored source) = some program := by
  constructor
  · rintro ⟨p, hp⟩
    exact ⟨p.program, build_of_compile hp⟩
  · rintro ⟨program, hprogram⟩
    unfold compile
    split
    · exact ⟨_, rfl⟩
    · next hnone => exact nomatch hprogram.symm.trans hnone

/-- **A source that is a regular expression by itself matches as a pattern what
it matches by itself as a whole.** A pattern compiles just when the source
between the marks is a regular expression within the limits; whether the source
is one by itself does not count.  If it is, only a comment at its end and the
limits can keep the pattern from compiling. -/
theorem compile_anchored (hfollows : engine.Follows meaning) (source : String)
    (flags : PatternFlags) :
    ((∃ p, engine.compile source flags = .ok p) ↔
      meaning.Valid flags (anchored source) ∧ meaning.Fits flags (anchored source)) ∧
    (meaning.Valid flags source.toList →
      (meaning.Valid flags (anchored source) ↔ ¬ meaning.OpenComment source.toList) ∧
      ∀ p, engine.compile source flags = .ok p → ∀ text : String,
        p.matches? text = true ↔
          meaning.Matches flags source.toList text.toList 0 text.toList.length) := by
  refine ⟨exists_compile_iff.trans hfollows.build_iff, fun hvalid =>
    ⟨valid_anchored_iff hfollows hvalid, fun p hp text => ?_⟩⟩
  have hanchored : meaning.Valid flags (anchored source) :=
    (hfollows.build_iff.mp ⟨p.program, build_of_compile hp⟩).1
  rw [Pattern.matches?, hfollows.isMatch_iff (build_of_compile hp)]
  simp only [matches_anchored_iff hfollows hvalid hanchored]
  constructor
  · rintro ⟨i, j, -, -, hmatches⟩
    exact hmatches
  · intro hmatches
    exact ⟨0, text.toList.length, rfl, rfl, hmatches⟩

/-- Alternatives stay between the marks. -/
theorem compile_anchored_alternatives :
    Regex.engine.Follows Regex.meaning ∧ Regex.meaning.Valid {} "a|b+".toList ∧
      ∃ p, Regex.engine.compile "a|b+" {} = .ok p ∧ ∀ text : String,
        p.matches? text = true ↔
          Regex.meaning.Matches {} "a|b+".toList text.toList 0 text.toList.length := by
  have hvalid : Regex.meaning.Valid {} "a|b+".toList := ⟨_, rfl⟩
  have hanchored : Regex.meaning.Valid {} (anchored "a|b+") := ⟨_, rfl⟩
  have hfits : Regex.meaning.Fits {} (anchored "a|b+") := rfl
  obtain ⟨hcompiles, hmeans⟩ := compile_anchored Regex.engine_follows "a|b+" {}
  obtain ⟨p, hp⟩ := hcompiles.mpr ⟨hanchored, hfits⟩
  exact ⟨Regex.engine_follows, hvalid, p, hp, (hmeans hvalid).2 p hp⟩

/-- A source that is no regular expression by itself closes the group of the
marks and opens another one: it compiles, and matches a text by its first
character alone. -/
theorem compile_unbalanced :
    Regex.engine.Follows Regex.meaning ∧ ¬ Regex.meaning.Valid {} "a)|(?:b".toList ∧
      ∃ p, Regex.engine.compile "a)|(?:b" {} = .ok p ∧ p.matches? "axy" = true := by
  have hnone : Regex.Expr.read? (PatternFlags.initial {}) "a)|(?:b".toList = none := rfl
  have hbuilt : ∃ program, Regex.engine.build? {} (anchored "a)|(?:b") = some program ∧
      Regex.engine.isMatch program "axy".toList = true := ⟨_, rfl, by decide⟩
  obtain ⟨program, hprogram, hmatch⟩ := hbuilt
  obtain ⟨p, hp⟩ := exists_compile_iff.mpr ⟨program, hprogram⟩
  obtain rfl := Option.some.inj ((build_of_compile hp).symm.trans hprogram)
  refine ⟨Regex.engine_follows, ?_, p, hp, hmatch⟩
  rintro ⟨e, hsome⟩
  exact nomatch hnone.symm.trans hsome

end DocPath.Engine

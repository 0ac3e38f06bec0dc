import DocPath.Error
import DocPath.Json.Printer

/-! # Limits

A configuration bounds the length of a path and the number of its fragments, and
says whether reads report their steps. -/

namespace DocPath

/-- The limits that a path compiles under. -/
structure Config where
  /-- The greatest length of a path, in characters. -/
  maxPathLength : UInt64 := 4096
  /-- The greatest number of fragments, the root among them. -/
  maxFragments : UInt64 := 256
  /-- Whether each step of a read is reported. -/
  traceEvaluation : Bool := false
deriving DecidableEq, Repr

namespace Config

/-- Limits for paths from sources that are not trusted. -/
def strict : Config := { maxPathLength := 512, maxFragments := 32 }

/-- Limits for generated paths. -/
def permissive : Config := { maxPathLength := 1048576, maxFragments := 65536 }

/-- The usual limits, with the steps of reads reported. -/
def debugging : Config := { traceEvaluation := true }

/-- The most fragments that a path of the greatest length can have, as every
fragment but the root takes a character. -/
def fragmentBound (c : Config) : Nat := min (c.maxPathLength.toNat + 1) (UInt64.size - 1)

/-- Limits have to admit some path and no fragments without characters. -/
def validate (c : Config) : Except ConfigFault Unit :=
  if c.maxPathLength = 0 then .error .zeroLength
  else if c.maxFragments = 0 then .error .zeroFragments
  else if c.fragmentBound < c.maxFragments.toNat then
    .error (.fragmentsBeyondLength c.maxFragments.toNat c.fragmentBound)
  else .ok ()

/-- The JSON text of a configuration. -/
def text (c : Config) : String :=
  Json.objectText [
    ("max_path_length", toString c.maxPathLength.toNat),
    ("max_fragments", toString c.maxFragments.toNat),
    ("trace_evaluation", if c.traceEvaluation then "true" else "false")]

/-- The limit that a JSON tree holds. -/
def limit? : Json.Tree → Option UInt64
  | .integer n => if 0 ≤ n ∧ n < UInt64.size then some (UInt64.ofNat n.toNat) else none
  | _ => none

/-- The switch that a JSON tree holds. -/
def switch? : Json.Tree → Option Bool
  | .bool b => some b
  | _ => none

/-- The value read from a tree, or the usual value where there is no tree. -/
def orDefault? {α : Type} (read : Json.Tree → Option α) (default : α) :
    Option Json.Tree → Option α
  | none => some default
  | some t => read t

/-- The configuration that a JSON tree holds: an object, whose other entries are
ignored, or an array of the settings in their order, which may be shorter but
not longer.  A missing setting has its usual value. -/
def ofTree? (t : Json.Tree) : Option Config :=
  let settings? (length fragments trace : Option Json.Tree) : Option Config := do
    let usual : Config := {}
    pure {
      maxPathLength := ← orDefault? limit? usual.maxPathLength length
      maxFragments := ← orDefault? limit? usual.maxFragments fragments
      traceEvaluation := ← orDefault? switch? usual.traceEvaluation trace }
  match t with
  | .object entries =>
    settings? (entries.lookup "max_path_length") (entries.lookup "max_fragments")
      (entries.lookup "trace_evaluation")
  | .array items =>
    if items.length ≤ 3 then settings? items[0]? items[1]? items[2]? else none
  | _ => none

end Config

end DocPath

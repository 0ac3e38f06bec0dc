import DocPath.Regex.Expr

/-! # Matching

A set of places in a text is a number whose bit `i` stands for the place before
character `i`.  `Plan.advance` takes the places where a match of an expression
may begin to the places where it may end, for all of them at once, so that no
pattern is slow on any text. -/

namespace DocPath.Regex

/-- The places whose next character satisfies `p`. -/
def placesBefore (p : Char → Bool) : List Char → Nat
  | [] => 0
  | c :: rest => 2 * placesBefore p rest + (p c).toNat

/-- The places with a property; `before` is the character before the text. -/
def placesWhere (l : Look) (before : Option Char) : List Char → Nat
  | [] => (l.holds before none).toNat
  | c :: rest => 2 * placesWhere l (some c) rest + (l.holds before (some c)).toNat

/-- An expression prepared for one text: each set and each property is replaced
by the places where it holds, and each repetition without an upper bound by one
that is long enough. -/
inductive Plan where
  | empty
  | consume (places : Nat)
  | check (places : Nat)
  | seq (first second : Plan)
  | alt (left right : Plan)
  | repetition (min extra : Nat) (body : Plan)

namespace Plan

/-- The plan of an expression for a text.  A text of `n` characters has `n + 1`
places, so that `n + 1` optional rounds reach all that any number of rounds can
reach. -/
def ofExpr (text : List Char) : Expr → Plan
  | .empty => empty
  | .set s => consume (placesBefore s.contains text)
  | .look l => check (placesWhere l none text)
  | .seq a b => seq (ofExpr text a) (ofExpr text b)
  | .alt a b => alt (ofExpr text a) (ofExpr text b)
  | .repetition min max body =>
    let extra := match max with
      | some max => max - min
      | none => text.length + 1
    repetition min extra (ofExpr text body)

/-- `f` applied `n` times, or until it changes nothing. -/
def times (f : Nat → Nat) : Nat → Nat → Nat
  | 0, s => s
  | n + 1, s => let t := f s; if t = s then s else times f n t

/-- All that up to `n` applications of `f` reach. -/
def gather (f : Nat → Nat) : Nat → Nat → Nat
  | 0, s => s
  | n + 1, s => let t := s ||| f s; if t = s then s else gather f n t

/-- The places where a match that begins at one of the given places may end. -/
def advance : Plan → Nat → Nat
  | empty, s => s
  | consume places, s => 2 * (s &&& places)
  | check places, s => s &&& places
  | seq a b, s => b.advance (a.advance s)
  | alt a b, s => a.advance s ||| b.advance s
  | repetition min extra body, s =>
    gather (fun t => body.advance t) extra (times (fun t => body.advance t) min s)

end Plan

namespace Expr

/-- Whether some part of the text matches. -/
def isMatch (e : Expr) (text : List Char) : Bool :=
  (Plan.ofExpr text e).advance (Nat.pow 2 (text.length + 1) - 1) != 0

end Expr

end DocPath.Regex

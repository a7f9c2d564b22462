/-
Deciding whether a regular expression matches, character by character.

A set of threads, each a regular expression that the rest of the text has to
match, advances over the text (`step`). There are no more threads than places
in the expression, so the work grows with the product of the two lengths and
no pattern is slow on any text.
-/
import RecordSchema.Regex.Basic

namespace RecordSchema

namespace Regex

/-- Whether the empty text is matched between two characters. -/
def matchesEmpty (before after : Option Char) : Regex → Bool
  | .empty => true
  | .one _ => false
  | .look a => a.holds before after
  | .seq r s => r.matchesEmpty before after && s.matchesEmpty before after
  | .alt r s => r.matchesEmpty before after || s.matchesEmpty before after
  | .repeat r count => count.least == 0 || r.matchesEmpty before after

/-- `r` and then `s`, without a trace of an empty `r`. -/
def andThen : Regex → Regex → Regex
  | .empty, s => s
  | r, s => .seq r s

/-- What may be left to match after `c`, where `before` stands in front of it.

Where the empty text matches a repeated expression, the repetitions that a count asks for can all be
empty ones, so that no lower bound remains. -/
def step (before : Option Char) (c : Char) : Regex → List Regex
  | .empty => []
  | .one set => if set.contains c.toNat then [.empty] else []
  | .look _ => []
  | .seq r s =>
    (step before c r).map (andThen · s) ++ if r.matchesEmpty before (some c) then step before c s else []
  | .alt r s => step before c r ++ step before c s
  | .repeat r count =>
    match count.next? with
    | none => []
    | some rest =>
      let rest := if r.matchesEmpty before (some c) then rest.fromZero else rest
      (step before c r).map (andThen · (.repeat r rest))

/-- The threads after one more character, each once. -/
def stepAll (before : Option Char) (c : Char) (threads : List Regex) : List Regex :=
  (threads.flatMap (step before c)).eraseDups

/-- Whether one of the threads matches the whole of a text. -/
def fitsAny (before : Option Char) (threads : List Regex) : List Char → Bool
  | [] => threads.any (matchesEmpty before none)
  | c :: cs => fitsAny (some c) (stepAll before c threads) cs

/-- Whether one of the threads matches a beginning of the text, or `fresh` something further on. -/
def occursAny (fresh : Regex) (before : Option Char) (threads : List Regex) : List Char → Bool
  | [] => threads.any (matchesEmpty before none)
  | c :: cs =>
    threads.any (matchesEmpty before (some c))
      || occursAny fresh (some c) (fresh :: stepAll before c threads) cs

/-- Whether the whole text matches. -/
def fits (r : Regex) (text : String) : Bool := fitsAny none [r] text.toList

/-- Whether the text has a match somewhere. -/
def occurs (r : Regex) (text : String) : Bool := occursAny r none [r] text.toList

end Regex

end RecordSchema

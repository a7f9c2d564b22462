/-
Regular expressions: what they are, and what it means for one to match a
text that stands between other texts.

`Matches r before text after` is the meaning; the texts around matter to the
assertions alone (`before` is written backwards, its head the character next
to the match). Which of several ways to match is preferred makes no
difference here, as only whether there is a match is ever asked.
-/
import RecordSchema.Regex.CharSet

namespace RecordSchema

/-- How often something may be repeated. -/
structure Regex.Count where
  least : Nat
  most : Option Nat
  ordered : ∀ n, most = some n → least ≤ n := by simp
  deriving DecidableEq

namespace Regex

namespace Count

/-- Exactly `n` times. -/
def exactly (n : Nat) : Count := ⟨n, some n, by simp⟩

/-- `n` times or more. -/
def atLeast (n : Nat) : Count := ⟨n, none, by simp⟩

/-- Once or not at all. -/
def optional : Count := ⟨0, some 1, by simp⟩

/-- What is left of a count after one repetition, if it allows any. -/
def next? : Count → Option Count
  | ⟨_, some 0, _⟩ => none
  | ⟨least, some (n + 1), h⟩ => some ⟨least - 1, some n, by have := h (n + 1) rfl; simp; omega⟩
  | ⟨least, none, _⟩ => some ⟨least - 1, none, by simp⟩

/-- The same upper bound, without a lower one. -/
def fromZero (c : Count) : Count := ⟨0, c.most, by simp⟩

end Count

/-- Which places at the ends of words an assertion picks. -/
inductive Edge where
  | either
  | neither
  | start
  | stop
  | startHalf
  | stopHalf
  deriving DecidableEq

/-- A condition on a place between two characters. -/
inductive Assertion where
  | textStart
  | textEnd
  /-- At a line's start; `crlf` lets a carriage return end a line as well. -/
  | lineStart (crlf : Bool)
  /-- At a line's end; `crlf` lets a carriage return end a line as well. -/
  | lineEnd (crlf : Bool)
  /-- At the edge of a word, made of ASCII characters alone or of those of every script. -/
  | word (edge : Edge) (ascii : Bool)
  deriving DecidableEq

namespace Assertion

/-- Whether a character, if there is one, belongs to a word. -/
def inWord (ascii : Bool) : Option Char → Bool
  | none => false
  | some c => if ascii then Unicode.isAsciiWord c.toNat else Unicode.isWord c.toNat

/-- Whether the condition holds between a character and the next, either possibly missing. -/
def holds (a : Assertion) (before after : Option Char) : Bool :=
  match a with
  | .textStart => before.isNone
  | .textEnd => after.isNone
  | .lineStart false => before.isNone || before == some '\n'
  | .lineEnd false => after.isNone || after == some '\n'
  | .lineStart true => before.isNone || before == some '\n' || (before == some '\r' && after != some '\n')
  | .lineEnd true => after.isNone || after == some '\r' || (after == some '\n' && before != some '\r')
  | .word edge ascii =>
    let b := inWord ascii before
    let a := inWord ascii after
    match edge with
    | .either => b != a
    | .neither => b == a
    | .start => !b && a
    | .stop => b && !a
    | .startHalf => !b
    | .stopHalf => !a

end Assertion

end Regex

inductive Regex where
  | empty
  | one (set : Regex.CharSet)
  | look (condition : Regex.Assertion)
  | seq (a b : Regex)
  | alt (a b : Regex)
  | repeat (r : Regex) (count : Regex.Count)
  deriving DecidableEq

namespace Regex

/-- `r` matches `text` where it stands after `before`, written backwards, and before `after`. -/
inductive Matches : Regex → List Char → List Char → List Char → Prop where
  | empty {before after} : Matches .empty before [] after
  | one {s : CharSet} {c before after} (h : s.contains c.toNat = true) : Matches (.one s) before [c] after
  | look {a : Assertion} {before after} (h : a.holds before.head? after.head? = true) :
      Matches (.look a) before [] after
  | seq {r s before x y after} (hr : Matches r before x (y ++ after))
      (hs : Matches s (x.reverse ++ before) y after) : Matches (.seq r s) before (x ++ y) after
  | left {r s before text after} (h : Matches r before text after) : Matches (.alt r s) before text after
  | right {r s before text after} (h : Matches s before text after) : Matches (.alt r s) before text after
  | stop {r count before after} (h : count.least = 0) : Matches (.repeat r count) before [] after
  | more {r count count' before x y after} (h : count.next? = some count')
      (hr : Matches r before x (y ++ after))
      (hs : Matches (.repeat r count') (x.reverse ++ before) y after) :
      Matches (.repeat r count) before (x ++ y) after

/-- Matches a text as a whole. -/
def Fits (r : Regex) (text : List Char) : Prop := Matches r [] text []

/-- Matches somewhere within a text. -/
def Occurs (r : Regex) (text : List Char) : Prop :=
  ∃ before mid after, text = before ++ mid ++ after ∧ Matches r before.reverse mid after

/-! ## Building blocks -/

def ofSeq : List Regex → Regex
  | [] => .empty
  | [r] => r
  | r :: rs => .seq r (ofSeq rs)

def ofAlt : List Regex → Regex
  | [] => .one .none
  | [r] => r
  | r :: rs => .alt r (ofAlt rs)

/-- The characters of a text, one after another. -/
def literal (text : String) : Regex := ofSeq (text.toList.map fun c => .one (.single c))

/-- One of the characters of a text. -/
def oneOf (text : String) : Regex := .one (.ofChars text.toList)

/-- One of the characters from `lo` to `hi`. -/
def between (lo hi : Char) : Regex := .one (.between lo hi)

/-- A decimal digit of any script. -/
def digit : Regex := .one .digit

def times (n : Nat) (r : Regex) : Regex := .repeat r (.exactly n)

def many (r : Regex) : Regex := .repeat r (.atLeast 0)

def many1 (r : Regex) : Regex := .repeat r (.atLeast 1)

def optional (r : Regex) : Regex := .repeat r .optional

end Regex

end RecordSchema

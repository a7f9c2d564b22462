/-
Sets of characters, as a pattern describes them: ranges, properties, and
what unions, intersections and complements make of them.

Membership goes by code point (`contains`), so a complement is one of all
code points.
-/
import RecordSchema.Unicode.Folding
import RecordSchema.Unicode.Property
import RecordSchema.Unicode.Script

namespace RecordSchema

namespace Regex

/-- A property that a character has or lacks. -/
inductive Property where
  | assigned
  | alphabetic
  | lowercase
  | uppercase
  | blank
  | word
  | category (c : Unicode.Category)
  | script (s : Unicode.Script)
  deriving DecidableEq

def Property.holds : Property → Nat → Bool
  | .assigned, n => Unicode.isAssigned n
  | .alphabetic, n => Unicode.isAlphabetic n
  | .lowercase, n => Unicode.isLowercase n
  | .uppercase, n => Unicode.isUppercase n
  | .blank, n => Text.isBlank (Char.ofNat n)
  | .word, n => Unicode.isWord n
  | .category c, n => c.runs.contains n
  | .script s, n => s.runs.contains n

inductive CharSet where
  | none
  | range (lo hi : Nat)
  | property (p : Property)
  | union (a b : CharSet)
  | inter (a b : CharSet)
  | compl (a : CharSet)
  /-- The members and all that differ from one of them in case alone. -/
  | caseless (a : CharSet)
  /-- The members and the ASCII letters that differ from one of them in case alone. -/
  | asciiCaseless (a : CharSet)
  deriving DecidableEq

namespace CharSet

/-- The other case of an ASCII letter, any other code point itself. -/
def swapAsciiCase (n : Nat) : Nat :=
  if 0x41 ≤ n ∧ n ≤ 0x5A then n + 0x20 else if 0x61 ≤ n ∧ n ≤ 0x7A then n - 0x20 else n

def contains : CharSet → Nat → Bool
  | none, _ => false
  | range lo hi, n => lo ≤ n && n ≤ hi
  | property p, n => p.holds n
  | union a b, n => a.contains n || b.contains n
  | inter a b, n => a.contains n && b.contains n
  | compl a, n => !a.contains n
  | caseless a, n => (Unicode.variants n).any a.contains
  | asciiCaseless a, n => a.contains n || a.contains (swapAsciiCase n)

def single (c : Char) : CharSet := range c.toNat c.toNat

/-- The characters of a text. -/
def ofChars (cs : List Char) : CharSet := cs.foldr (fun c s => union (single c) s) none

/-- The characters from one to another, both included. -/
def between (lo hi : Char) : CharSet := range lo.toNat hi.toNat

def ofList (sets : List CharSet) : CharSet :=
  match sets with
  | [] => none
  | s :: rest => rest.foldl union s

def all : CharSet := range 0 0x10FFFF

def ascii : CharSet := range 0 0x7F

/-- The members of `a` that are not in `b`. -/
def diff (a b : CharSet) : CharSet := inter a (compl b)

/-- The members of one of the two sets alone. -/
def symmDiff (a b : CharSet) : CharSet := union (diff a b) (diff b a)

/-- The decimal digits of every script. -/
def digit : CharSet := property (.category .decimalNumber)

def asciiDigit : CharSet := between '0' '9'

def hexDigit : CharSet := union (between 'a' 'f') (union (between 'A' 'F') asciiDigit)

end CharSet

end Regex

end RecordSchema

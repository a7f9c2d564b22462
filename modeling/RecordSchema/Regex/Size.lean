/-
How much room a regular expression takes once its repetitions are written out.

The measure is one for each ASCII character or set of them, one for each byte
of a longer character, and for other sets an estimate that grows with their
runs. A pattern beyond `maxSize` is refused when it is read.
-/
import RecordSchema.Regex.Basic

namespace RecordSchema

namespace Regex

def Property.size : Property → Nat
  | .assigned | .alphabetic | .lowercase | .uppercase | .word => 1500
  | .blank => 20
  | .category c => 2 * c.runs.length + 4
  | .script s => 2 * s.runs.length + 4

/-- The room of a set. -/
def CharSet.size : CharSet → Nat
  | none => 1
  | range lo hi => if hi < 0x80 then 1 else if lo = hi then (Char.ofNat lo).utf8Size else 12
  | property p => p.size
  | union a b => if a.size = 1 then b.size else if b.size = 1 then a.size else a.size + b.size
  | inter a b => max a.size b.size
  | compl a => a.size + 12
  | caseless a => 2 * a.size
  | asciiCaseless a => a.size

/-- The room of an expression, each repetition that a count allows written out. -/
def size : Regex → Nat
  | .empty => 0
  | .one s => s.size
  | .look _ => 1
  | .seq r s => r.size + s.size
  | .alt r s => r.size + s.size + 1
  | .repeat r count =>
    match count.most with
    | some most => most * r.size + (most - count.least)
    | none => max count.least 1 * r.size + 1

/-- The room beyond which a pattern is refused. -/
def maxSize : Nat := 327680

end Regex

end RecordSchema

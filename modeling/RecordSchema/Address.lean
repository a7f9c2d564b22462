/-
The order of dotted addresses: octet by octet, as numbers.

An octet that is no number below 65536 counts as zero, blanks around it
aside; of two addresses that agree as far as the shorter goes the shorter
comes first.
-/
import RecordSchema.Text.Blank
import RecordSchema.Text.Numeral

namespace RecordSchema

namespace Address

/-- The parts of a text between its points. -/
def splitPoints : List Char → List (List Char)
  | [] => [[]]
  | c :: cs =>
    if c = '.' then [] :: splitPoints cs
    else match splitPoints cs with
      | [] => [[c]]
      | part :: parts => (c :: part) :: parts

/-- The number of a part, zero if it is none. -/
def octet (part : List Char) : Nat :=
  let digits := match Text.trimChars part with
    | '+' :: cs => cs
    | cs => cs
  match Text.numeral? 10 digits with
  | some n => if n < 65536 then n else 0
  | none => 0

/-- The numbers of an address. -/
def octets (s : String) : List Nat := (splitPoints s.toList).map octet

/-- The first difference decides, and the end of a list comes before anything. -/
def compareOctets : List Nat → List Nat → Ordering
  | [], [] => .eq
  | [], _ :: _ => .lt
  | _ :: _, [] => .gt
  | a :: as, b :: bs => if a < b then .lt else if b < a then .gt else compareOctets as bs

def compare (s t : String) : Ordering := compareOctets (octets s) (octets t)

end Address

end RecordSchema

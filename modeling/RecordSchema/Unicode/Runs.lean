/-
Sets of code points as runs, each from a first to a last code point by a
step: the upper case letters of an alphabet whose cases alternate are one
run of step two.
-/
namespace RecordSchema

namespace Unicode

/-- Runs of code points: the first, the last, and the step. -/
abbrev Runs := List (Nat × Nat × Nat)

namespace Runs

/-- Whether a code point is on one of the runs. -/
def contains (runs : Runs) (n : Nat) : Bool :=
  runs.any fun (lo, hi, step) => lo ≤ n && n ≤ hi && (n - lo) % step == 0

end Runs

end Unicode

end RecordSchema

/-
Integers as they are written and read: a literal denotes an integer of fewer
than 64 bits, and an integer is written as a literal that denotes it.
-/
import RecordSchema.Proofs.Kind.Integer

namespace RecordSchema

namespace Kind

/-- What an integer is written as denotes it. -/
theorem integerForm_ofInt (n : Int) : IntegerForm (Text.ofInt n).toList n := by
  cases n with
  | ofNat m =>
    rw [Text.ofInt, String.toList_ofList]
    exact .unsigned (Number.unsigned_decimal m)
  | negSucc m =>
    rw [Text.ofInt, String.toList_ofList]
    exact .minus (Text.head?_decimal (Nat.succ_ne_zero m)) (Text.denotes_decimal (m + 1))

theorem fits_ofInt (n : Int) : Kind.int.fits (Text.ofInt n) = true :=
  fits_int_iff.2 (integerForm_ofInt n).intForm

end Kind

namespace Number

theorem intLiteral?_bounds {s : String} {n : Int} (h : intLiteral? s = some n) :
    -(int64Bound : Int) < n ∧ n < int64Bound := by
  have hbound := (intLiteral?_eq_some_iff.1 h).2
  unfold int64Bound
  omega

theorem intLiteral?_ofInt {n : Int} (h : n.natAbs < int64Bound) : intLiteral? (Text.ofInt n) = some n :=
  intLiteral?_eq_some_iff.2 ⟨(Kind.integerForm_ofInt n).literal, Nat.le_sub_one_of_lt h⟩

/-- The magnitude is read before the sign, so that of the least integer of 64 bits is too great. -/
theorem intLiteral?_ofInt_eq_none {n : Int} (h : 2 ^ 63 ≤ n.natAbs) : intLiteral? (Text.ofInt n) = none := by
  rw [Option.eq_none_iff_forall_ne_some]
  intro z hz
  obtain ⟨hliteral, hbound⟩ := intLiteral?_eq_some_iff.1 hz
  rw [hliteral.unique (Kind.integerForm_ofInt n).literal] at hbound
  omega

end Number

end RecordSchema

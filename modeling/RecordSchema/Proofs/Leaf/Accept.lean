/-
What the check of each kind accepts, and the scalar it makes of it.

The kinds fall into families with one check each: texts of a form, integers,
decimals, floating-point numbers. For each family the values that pass are
said without the order in which the check looks for what is wrong.
-/
import RecordSchema.Leaf.Check

namespace RecordSchema

namespace Json

theorem isNull_iff {v : Json} : v.isNull = true ↔ v = .null := by cases v <;> simp [Json.isNull]

theorem absent_iff {v : Json} {optional : Bool} :
    (v.isNull && optional) = true ↔ v = .null ∧ optional = true := by
  rw [Bool.and_eq_true, isNull_iff]

end Json

namespace Kind

theorem integer?_eq_some_iff {kind : Kind} {v : Json} {n : Int} :
    kind.integer? v = some n ↔
      v = .number (.int n) ∨ ∃ s, v = .string s ∧ kind.fits s = true ∧ Number.intLiteral? s = some n := by
  cases v with
  | number m => cases m <;> simp [integer?]
  | _ => simp [integer?]

theorem floatOf?_eq_some_iff {v : Json} {x : Extended} :
    floatOf? v = some x ↔ (∃ n, v = .number n ∧ n.toExtended = x) ∨
      ∃ s, v = .string s ∧ Kind.decimal.fits s = true ∧ Extended.ofText? s = some x := by
  cases v <;> simp [floatOf?]

end Kind

namespace Leaf

variable {kind : Kind} {v : Json} {r : Option Scalar}

theorem acceptText_eq_ok_iff :
    acceptText kind v = .ok r ↔ ∃ s, v = .string s ∧ kind.fits s = true ∧ r = some (.text s) := by
  cases v with
  | string s => by_cases h : kind.fits s = true <;> simp [acceptText, h, @eq_comm _ r]
  | _ => simp [acceptText]

theorem acceptInteger_eq_ok_iff :
    acceptInteger kind v = .ok r ↔
      ∃ n, kind.integer? v = some n ∧ ¬ (kind.isUnsigned = true ∧ n < 0) ∧ r = some (.int n) := by
  unfold acceptInteger
  split
  · simp [Kind.integer?]
  · split
    · next h => simp [h]
    · next n h =>
      split
      · next hn =>
        rw [Bool.and_eq_true, decide_eq_true_eq] at hn
        simp only [h, Option.some.injEq, exists_eq_left', hn, reduceCtorEq, not_true_eq_false, false_and,
          and_self]
      · next hn =>
        rw [Bool.and_eq_true, decide_eq_true_eq] at hn
        simp only [h, Option.some.injEq, exists_eq_left', hn, not_false_eq_true, true_and, Except.ok.injEq,
          @eq_comm _ r]

theorem acceptDecimalText_eq_ok_iff {text : String} :
    acceptDecimalText kind text = .ok r ↔
      ∃ d, kind.fits text = true ∧ Decimal.ofText? text = some d ∧ r = some (.decimal d) := by
  by_cases h : kind.fits text = true
  · cases hd : Decimal.ofText? text <;> simp [acceptDecimalText, h, hd, @eq_comm _ r]
  · simp [acceptDecimalText, h]

/-- A number is checked as the text it is written with. -/
theorem acceptDecimal_eq_ok_iff :
    acceptDecimal kind v = .ok r ↔
      ∃ text, (v = .string text ∨ ∃ n, v = .number n ∧ n.text = text) ∧
        acceptDecimalText kind text = .ok r := by
  cases v <;> simp [acceptDecimal]

theorem acceptFloat_eq_ok_iff :
    acceptFloat v = .ok r ↔ ∃ x, Kind.floatOf? v = some x ∧ r = some (.float x) := by
  unfold acceptFloat
  split
  · simp [Kind.floatOf?]
  · split
    · next x h => simp [h, @eq_comm _ r]
    · next h => simp [h]

theorem acceptJson_eq_ok_iff :
    acceptJson v = .ok r ↔ (∀ s, v = .string s → (Json.parse? s).isSome = true) ∧ r = none := by
  cases v with
  | string s => cases h : (Json.parse? s).isSome <;> simp [acceptJson, h, @eq_comm _ r]
  | _ => simp [acceptJson, @eq_comm _ r]

theorem isString_of_acceptString {pattern : Option Pattern} (h : acceptString pattern v = .ok r) :
    ∃ s, v = .string s := by
  cases v with
  | string s => exact ⟨s, rfl⟩
  | _ => cases h

/-- A leaf's check in two steps: the value by its kind, then its scalar by options and bounds. -/
theorem check_eq_ok_iff {l : Leaf} :
    l.check v = .ok () ↔ ∃ r, l.accept v = .ok r ∧ ∀ s, r = some s → l.checkScalar s = .ok () := by
  unfold check
  split
  · next h => simp [h]
  · next h => simp [h]
  · next s h => simp [h]

/-- A scalar of a kind other than string meets the bounds if it is on the wrong side of neither. -/
theorem checkBounds_eq_ok_iff {l : Leaf} {s : Scalar} (hk : l.kind ≠ .string) :
    l.checkBounds s = .ok () ↔
      beyond l.kind .lt s l.minimum = false ∧ beyond l.kind .gt s l.maximum = false := by
  unfold checkBounds
  rw [if_neg hk]
  split
  · next h => simp [h]
  · next h =>
    split
    · next h' => simp [h']
    · next h' => simp [h, h']

theorem beyond_eq_false_iff {side : Ordering} {s : Scalar} {bound : Option Scalar} :
    beyond kind side s bound = false ↔ ∀ b, bound = some b → s.compare? kind b ≠ some side := by
  cases bound <;> simp [beyond]

theorem failures_eq_nil_iff (l : Leaf) (v : Json) (path : Path) :
    l.failures v path = [] ↔ (v = .null ∧ l.annotations.optional = true) ∨ l.check v = .ok () := by
  rw [failures]
  split
  · next h => simp [Json.absent_iff.1 h]
  · next h =>
    rw [Json.absent_iff] at h
    split
    · next hc => simp [hc]
    · next reason hc => simp [hc, h]

/-- A value that is there passes if the check has nothing against it. -/
theorem failures_eq_nil_iff_check {v : Json} (hv : v ≠ .null) (l : Leaf) (path : Path) :
    l.failures v path = [] ↔ l.check v = .ok () := by
  rw [failures_eq_nil_iff, or_iff_right fun h => hv h.1]

theorem failures_string_iff (l : Leaf) (s : String) (path : Path) :
    l.failures (.string s) path = [] ↔ l.check (.string s) = .ok () :=
  failures_eq_nil_iff_check (v := .string s) (fun h => by cases h) l path

theorem accepts_string_iff (l : Leaf) (s : String) :
    l.accepts (.string s) = true ↔ l.check (.string s) = .ok () := by
  rw [accepts, List.isEmpty_iff, failures_string_iff]

end Leaf

end RecordSchema

/-
The order of a kind's bounds, said of the values that they stand for: integers
and counts as they are, decimals by their exact value whatever their scales,
addresses octet by octet, dates and times as texts.

A leaf compares its bounds by the scalars (`Leaf.inverted`). Both are scalars that
the kind reads as a bound, so they have one form, and that the minimum does
not compare as the greater puts the values in order (`Kind.atMost_of_inverted`).
Seen from the other side a comparison is turned round (`Scalar.compare?_swap`).
-/
import RecordSchema.Proofs.Number.Value
import RecordSchema.Proofs.Scalar
import Mathlib.Data.String.Basic

namespace RecordSchema

namespace Address

/-- The first list compares as the greater if the second comes before it. -/
theorem compareOctets_eq_gt_iff {as bs : List Nat} : compareOctets as bs = .gt ↔ bs < as := by
  induction as, bs using compareOctets.induct with
  | case1 => simp [compareOctets]
  | case2 b bs => simp [compareOctets]
  | case3 a as => simp [compareOctets]
  | case4 a as b bs hlt => simp [compareOctets, hlt, List.cons_lt_cons_iff]; omega
  | case5 a as b bs hnlt hlt => simp [compareOctets, hnlt, hlt, List.cons_lt_cons_iff]
  | case6 a as b bs hnlt hngt ih =>
    have heq : b = a := by omega
    simp [compareOctets, heq, ih]

theorem compareOctets_swap (as bs : List Nat) : compareOctets bs as = (compareOctets as bs).swap := by
  induction as, bs using compareOctets.induct with
  | case1 | case2 | case3 => simp [compareOctets]
  | case4 a as b bs hlt => simp [compareOctets, hlt, Nat.lt_asymm hlt]
  | case5 a as b bs hnlt hlt => simp [compareOctets, hnlt, hlt]
  | case6 a as b bs hnlt hngt ih => simp [compareOctets, hnlt, hngt, ih]

end Address

/-! ## Scalars -/

namespace Scalar

theorem compare?_swap (kind : Kind) (s t : Scalar) :
    t.compare? kind s = (s.compare? kind t).map Ordering.swap := by
  cases s with
  | int a => cases t <;> simp [compare?, Int.compare_swap]
  | float a => cases t <;> simp [compare?, Extended.compare, Int.compare_swap]
  | decimal a =>
    cases t with
    | decimal b => simp [compare?, Decimal.compare, Int.compare_swap, max_comm]
    | _ => rfl
  | text a =>
    cases t with
    | text b =>
      simp only [compare?, Option.map_some, Option.some.injEq]
      split
      · exact Address.compareOctets_swap _ _
      · exact Std.OrientedCmp.eq_swap
    | _ => rfl

theorem compare?_self (kind : Kind) (s : Scalar) : s.compare? kind s = some .eq := by
  obtain ⟨o, ho⟩ : ∃ o, s.compare? kind s = some o := by cases s <;> exact ⟨_, rfl⟩
  have hswap := compare?_swap kind s s
  rw [ho] at hswap ⊢
  cases o <;> cases hswap
  rfl

theorem same_self (s : Scalar) : s.same s = true := by
  cases s with
  | int n => exact beq_self_eq_true n
  | float x => exact beq_self_eq_true x.rank
  | decimal d => simp [same, Decimal.same, Decimal.compare]
  | text t => exact beq_self_eq_true t

end Scalar

namespace Kind

/-- A bound of a kind is at most another one. -/
inductive AtMost : Kind → Scalar → Scalar → Prop where
  | integer {kind : Kind} {a b : Int} (hk : kind.isInteger = true) (h : a ≤ b) : AtMost kind (.int a) (.int b)
  /-- Counts of the characters of a string. -/
  | count {a b : Int} (nonneg : 0 ≤ a) (h : a ≤ b) : AtMost .string (.int a) (.int b)
  | decimal {kind : Kind} {a b : Decimal} (hk : kind.isDecimal = true) (h : a.value ≤ b.value) :
      AtMost kind (.decimal a) (.decimal b)
  | address {a b : String} (h : ¬ Address.octets b < Address.octets a) : AtMost .ip (.text a) (.text b)
  | temporal {kind : Kind} {a b : String} (hk : kind.isTemporal = true) (h : a ≤ b) :
      AtMost kind (.text a) (.text b)

variable {kind : Kind} {s t : Scalar}

theorem exists_text_of_textScalar? {v : Json} (h : kind.textScalar? v = some s) : ∃ a, s = .text a := by
  unfold textScalar? at h
  split at h
  · split at h
    · cases h; exact ⟨_, rfl⟩
    · cases h
  · cases h

theorem exists_int_of_numberScalar? (hk : kind.isInteger = true) {v : Json}
    (h : kind.numberScalar? v = some s) : ∃ n, s = .int n := by
  cases kind with
  | int | timestamp | uint =>
    simp only [numberScalar?] at h
    split at h
    · split at h
      · cases h
      · cases h; exact ⟨_, rfl⟩
    · cases h
  | _ => cases hk

theorem ne_gt_of_inverted (h : Leaf.inverted kind (some s) (some t) = false) {o : Ordering}
    (ho : s.compare? kind t = some o) : o ≠ .gt := by
  rintro rfl
  simp [Leaf.inverted, ho] at h

/-- A minimum that does not compare above the maximum is at most the maximum. -/
theorem atMost_of_inverted (hk : kind ≠ .float) (hs : kind.IsBound s) (ht : kind.IsBound t)
    (h : Leaf.inverted kind (some s) (some t) = false) : kind.AtMost s t := by
  obtain ⟨v, -, hs⟩ := hs
  obtain ⟨u, -, ht⟩ := ht
  -- Both bounds have the one form that the kind reads, so `compare?` has a result for them.
  cases kind with
  | date | datetime | time =>
    obtain ⟨a, rfl⟩ := exists_text_of_textScalar? hs
    obtain ⟨b, rfl⟩ := exists_text_of_textScalar? ht
    exact .temporal rfl (compare_le_iff_le.1 (ne_gt_of_inverted h rfl))
  | ip =>
    obtain ⟨a, rfl⟩ := exists_text_of_textScalar? hs
    obtain ⟨b, rfl⟩ := exists_text_of_textScalar? ht
    exact .address (mt Address.compareOctets_eq_gt_iff.2 (ne_gt_of_inverted h rfl))
  | string =>
    obtain ⟨m, hm, rfl⟩ := Option.map_eq_some_iff.1 hs
    obtain ⟨n, -, rfl⟩ := Option.map_eq_some_iff.1 ht
    have hnonneg : 0 ≤ m := of_decide_eq_true (Option.filter_eq_some_iff.1 hm).2
    exact .count hnonneg (compare_le_iff_le.1 (ne_gt_of_inverted h rfl))
  | int | timestamp | uint =>
    simp only [boundScalar?] at hs ht
    obtain ⟨m, rfl⟩ := exists_int_of_numberScalar? rfl hs
    obtain ⟨n, rfl⟩ := exists_int_of_numberScalar? rfl ht
    exact .integer rfl (compare_le_iff_le.1 (ne_gt_of_inverted h rfl))
  | decimal | price =>
    simp only [boundScalar?] at hs ht
    obtain ⟨-, x, -, -, rfl⟩ := (numberScalar?_of_isDecimal rfl).1 hs
    obtain ⟨-, y, -, -, rfl⟩ := (numberScalar?_of_isDecimal rfl).1 ht
    exact .decimal rfl (Decimal.compare_ne_gt_iff.1 (ne_gt_of_inverted h rfl))
  | float => exact absurd rfl hk
  | any | base64 | bool | json | md5 | uuid => cases hs

end Kind

end RecordSchema

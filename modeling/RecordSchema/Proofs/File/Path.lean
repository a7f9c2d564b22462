/-
The order of paths is the lexicographic order of their components. It is a
total one, in which two paths are equal only if they have the same components
(`comparePaths_eq_eq_iff`).

So paths of which no two have the same components stand in one order only, in
which each comes strictly before the next (`increasing_mergeSort`), however they
were given (`eq_of_increasing`).
-/
import RecordSchema.File.Path
import Mathlib.Order.Compare

namespace RecordSchema

namespace File

/-! ## Components -/

instance : Std.OrientedCmp Component.compare where
  eq_swap {a b} := by cases a <;> cases b <;> first | rfl | exact Std.OrientedOrd.eq_swap

instance : Std.TransCmp Component.compare where
  isLE_trans {a b c} hab hbc := by
    cases a <;> cases b <;> cases c <;> first | rfl | contradiction | exact Std.TransOrd.isLE_trans hab hbc

instance : Std.LawfulEqCmp Component.compare where
  compare_self {a} := by cases a <;> first | rfl | exact Std.ReflOrd.compare_self
  eq_of_compare {a b} h := by
    cases a <;> cases b <;>
      first | rfl | contradiction | exact congrArg _ (Std.LawfulEqOrd.eq_of_compare h)

theorem compareComponents_eq : compareComponents = List.compareLex Component.compare := by
  funext as bs
  induction as generalizing bs with
  | nil => cases bs <;> rfl
  | cons a as ih =>
    cases bs with
    | nil => rfl
    | cons b bs => rw [compareComponents, ih, List.compareLex_cons_cons]

instance : Std.TransCmp compareComponents := by
  rw [compareComponents_eq]
  infer_instance

instance : Std.LawfulEqCmp compareComponents := by
  rw [compareComponents_eq]
  infer_instance

/-! ## Paths -/

variable {p q : String} {ps qs : List String}

theorem comparePaths_swap (p q : String) : comparePaths p q = (comparePaths q p).swap := by
  rw [comparePaths, comparePaths]
  exact Std.OrientedCmp.eq_swap

theorem comparePaths_eq_eq_iff : comparePaths p q = .eq ↔ components p = components q := by
  rw [comparePaths]
  exact Std.LawfulEqCmp.compare_eq_iff_eq

/-- The test by which paths are sorted. -/
theorem not_gt_iff : (comparePaths p q != .gt) = true ↔ (comparePaths p q).isLE = true := by
  rw [bne_iff_ne, Ordering.isLE_iff_ne_gt]

theorem isLE_trans {p q r : String} (hpq : (comparePaths p q).isLE = true)
    (hqr : (comparePaths q r).isLE = true) : (comparePaths p r).isLE = true := by
  rw [comparePaths] at hpq hqr ⊢
  exact Std.TransCmp.isLE_trans hpq hqr

theorem isLE_total (p q : String) : (comparePaths p q).isLE = true ∨ (comparePaths q p).isLE = true := by
  rw [comparePaths_swap q p]
  cases comparePaths p q <;> simp

/-- Each path comes strictly before those behind it. -/
def Increasing (ps : List String) : Prop := ps.Pairwise fun p q => comparePaths p q = .lt

/-- No two of the paths have the same components. -/
def Distinct (ps : List String) : Prop := ps.Pairwise fun p q => components p ≠ components q

theorem Distinct.perm (h : Distinct ps) (hperm : ps.Perm qs) : Distinct qs :=
  List.Pairwise.perm h hperm Ne.symm

/-- Sorting puts distinct paths into strict order. -/
theorem increasing_mergeSort (h : Distinct ps) :
    Increasing (ps.mergeSort fun p q => comparePaths p q != .gt) := by
  have htrans : ∀ p q r, (comparePaths p q != .gt) = true → (comparePaths q r != .gt) = true →
      (comparePaths p r != .gt) = true := by
    simp only [not_gt_iff]
    exact fun p q r => isLE_trans
  have htotal : ∀ p q, ((comparePaths p q != .gt) || (comparePaths q p != .gt)) = true := by
    simp only [Bool.or_eq_true, not_gt_iff]
    exact isLE_total
  have hsorted := List.pairwise_mergeSort htrans htotal ps
  have hdistinct : Distinct (ps.mergeSort fun p q => comparePaths p q != .gt) :=
    h.perm (List.mergeSort_perm ..).symm
  refine hsorted.imp₂ (fun p q hpq hne => ?_) hdistinct
  cases hcompare : comparePaths p q with
  | lt => rfl
  | eq => exact absurd (comparePaths_eq_eq_iff.1 hcompare) hne
  | gt => simp [hcompare] at hpq

/-- There is one strict order of given paths. -/
theorem eq_of_increasing (hp : Increasing ps) (hq : Increasing qs) (hperm : ps.Perm qs) : ps = qs := by
  refine hperm.eq_of_pairwise (fun p q _ _ hpq hqp => ?_) hp hq
  rw [comparePaths_swap, hqp] at hpq
  cases hpq

end File

end RecordSchema

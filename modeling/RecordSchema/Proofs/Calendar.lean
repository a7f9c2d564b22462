/-
The order of moments, counted in days and in seconds.

Nothing that the smaller units of a moment add makes up for one of a greater
unit: a day is within its month, and its month within its year. So the first
unit that differs decides (`DateTime.cmp_dayNumber`, `DateTime.cmp_secondOfDay`).
-/
import RecordSchema.DateTime
import Mathlib.Algebra.Order.Ring.Int
import Mathlib.Algebra.Order.Ring.Nat
import Mathlib.Data.List.Lex
import Mathlib.Order.Compare
import Mathlib.Order.SuccPred.Basic

namespace RecordSchema

/-! ## Lexicographic order -/

section

variable {α β : Type*} [LinearOrder α] [LinearOrder β] {a a' : α} {x x' : β} {o : Ordering}

/-- What the leading parts decide, and what is left to the others when those are equal. -/
theorem cmp_eq_then (hlt : a < a' → x < x') (hgt : a' < a → x' < x) (heq : a = a' → cmp x x' = o) :
    cmp x x' = (cmp a a').then o := by
  rcases lt_trichotomy a a' with h | h | h
  · rw [(cmp_eq_lt_iff _ _).2 (hlt h), (cmp_eq_lt_iff _ _).2 h]
    rfl
  · rw [heq h, (cmp_eq_eq_iff _ _).2 h]
    rfl
  · rw [(cmp_eq_gt_iff _ _).2 (hgt h), (cmp_eq_gt_iff _ _).2 h]
    rfl

theorem cmp_cons (a a' : α) (as bs : List α) : cmp (a :: as) (a' :: bs) = (cmp a a').then (cmp as bs) := by
  rcases lt_trichotomy a a' with h | rfl | h
  · simp [cmp, cmpUsing, List.cons_lt_cons_iff, h]
  · simp [cmp, cmpUsing]
  · simp [cmp, cmpUsing, List.cons_lt_cons_iff, h, lt_asymm h, ne_of_lt h, ne_of_gt h]

/-- Of two lists that start with equally long ones, these decide first. -/
theorem cmp_append {as bs : List α} (h : as.length = bs.length) (cs ds : List α) :
    cmp (as ++ cs) (bs ++ ds) = (cmp as bs).then (cmp cs ds) := by
  induction as generalizing bs with
  | nil =>
    obtain rfl := List.eq_nil_of_length_eq_zero h.symm
    simp [cmp, cmpUsing]
  | cons a as ih =>
    obtain ⟨b, bs, rfl⟩ := List.exists_cons_of_length_eq_add_one h.symm
    rw [List.cons_append, List.cons_append, cmp_cons, cmp_cons, ih (Nat.succ.inj h), Ordering.then_assoc]

theorem cmp_natCast (m n : Nat) : cmp (m : Int) n = cmp m n := Nat.strictMono_cast.cmp_map_eq m n

/-- A count of units, and a rest that is less than one, decide in this order. -/
theorem cmp_units {k n n' r r' : Int} (hr : 0 ≤ r ∧ r < k) (hr' : 0 ≤ r' ∧ r' < k) :
    cmp (n * k + r) (n' * k + r') = (cmp n n').then (cmp r r') := by
  have hunit : ∀ {n n' : Int}, n < n' → n * k + k ≤ n' * k := by
    intro n n' h
    rw [← add_one_mul]
    exact Int.mul_le_mul_of_nonneg_right h (by omega)
  refine cmp_eq_then (fun h => ?_) (fun h => ?_) ?_
  · have := hunit h
    omega
  · have := hunit h
    omega
  · rintro rfl
    exact cmp_add_left ..

end

/-! ## Days and seconds -/

namespace Calendar

def daysInYear (year : Int) : Nat := if isLeapYear year then 366 else 365

/-- The days of a year before its months, which are counted from one on. -/
def daysBeforeMonth (year : Int) : Nat → Nat
  | 0 => 0
  | m + 1 => daysBeforeMonth year m + if m = 0 then 0 else daysInMonth year m

/-- The days from the start of the year zero to that of a year, less than none for the years before. -/
def daysBeforeYear (year : Int) : Int := 365 * year + (year + 3) / 4 - (year + 99) / 100 + (year + 399) / 400

theorem daysBeforeYear_zero : daysBeforeYear 0 = 0 := by decide

/-- The years follow one another without a gap. -/
theorem daysBeforeYear_succ (year : Int) : daysBeforeYear (year + 1) = daysBeforeYear year + daysInYear year := by
  have hleap : isLeapYear year = true ↔ year % 4 = 0 ∧ (year % 100 ≠ 0 ∨ year % 400 = 0) := by simp [isLeapYear]
  unfold daysBeforeYear daysInYear
  split
  · next h =>
    rw [hleap] at h
    omega
  · next h =>
    rw [hleap] at h
    omega

/-- The months of a year make up its days. -/
theorem daysBeforeMonth_thirteen (year : Int) : daysBeforeMonth year 13 = daysInYear year := by
  simp only [daysBeforeMonth, daysInMonth, daysInYear]
  cases isLeapYear year <;> rfl

theorem add_daysInYear_le {y y' : Int} (h : y < y') : daysBeforeYear y + daysInYear y ≤ daysBeforeYear y' := by
  have hmono : Monotone daysBeforeYear := monotone_int_of_le_succ fun y => by
    rw [daysBeforeYear_succ]
    omega
  rw [← daysBeforeYear_succ]
  exact hmono h

theorem add_daysInMonth_le (year : Int) {m m' : Nat} (hm : 1 ≤ m) (h : m < m') :
    daysBeforeMonth year m + daysInMonth year m ≤ daysBeforeMonth year m' := by
  have hmono : Monotone (daysBeforeMonth year) := monotone_nat_of_le_succ fun m => Nat.le_add_right ..
  have hsucc : daysBeforeMonth year (m + 1) = daysBeforeMonth year m + daysInMonth year m := by
    rw [daysBeforeMonth, if_neg (by omega)]
  rw [← hsucc]
  exact hmono h

end Calendar

namespace DateTime

open Calendar

/-- The day of a moment, the first one of the year zero being the first. -/
def dayNumber (t : DateTime) : Int := daysBeforeYear t.year + (daysBeforeMonth t.year t.month + t.day : Nat)

/-- The seconds of the day before a moment. -/
def secondOfDay (t : DateTime) : Int := (t.hour * 60 + t.minute) * 60 + t.second

/-- What a kind shows of a moment, as a count: of days, of seconds in a day, or of all seconds. -/
def moment (t : DateTime) : Kind → Int
  | .date => t.dayNumber
  | .time => t.secondOfDay
  | _ => t.dayNumber * 86400 + t.secondOfDay

variable {t t' : DateTime}

theorem secondOfDay_bounds (t : DateTime) : 0 ≤ t.secondOfDay ∧ t.secondOfDay < 86400 := by
  obtain ⟨-, -, -, hhour, hminute, hsecond⟩ := t.inCalendar
  rw [secondOfDay]
  omega

theorem cmp_secondOfDay (t t' : DateTime) : cmp t.secondOfDay t'.secondOfDay =
    (cmp t.hour t'.hour).then ((cmp t.minute t'.minute).then (cmp t.second t'.second)) := by
  obtain ⟨-, -, -, -, hminute, hsecond⟩ := t.inCalendar
  obtain ⟨-, -, -, -, hminute', hsecond'⟩ := t'.inCalendar
  rw [secondOfDay, secondOfDay, cmp_units (by omega) (by omega), cmp_units (by omega) (by omega), cmp_natCast,
    cmp_natCast, cmp_natCast, Ordering.then_assoc]

theorem day_lt (t : DateTime) : t.day < 32 := by
  obtain ⟨-, -, hday, -⟩ := t.inCalendar
  have hmonth : daysInMonth t.year t.month ≤ 31 := by
    unfold daysInMonth
    split
    · split <;> decide
    · split <;> decide
  omega

/-- A day is within its year. -/
theorem day_bounds (t : DateTime) :
    1 ≤ daysBeforeMonth t.year t.month + t.day ∧ daysBeforeMonth t.year t.month + t.day ≤ daysInYear t.year := by
  obtain ⟨-, hmonth, hday, -⟩ := t.inCalendar
  have hyear := add_daysInMonth_le t.year hmonth.1 (show t.month < 13 by omega)
  rw [daysBeforeMonth_thirteen] at hyear
  omega

theorem cmp_dayNumber (t t' : DateTime) : cmp t.dayNumber t'.dayNumber =
    (cmp t.year t'.year).then ((cmp t.month t'.month).then (cmp t.day t'.day)) := by
  have hbounds := day_bounds t
  have hbounds' := day_bounds t'
  obtain ⟨-, hmonth, hday, -⟩ := t.inCalendar
  obtain ⟨-, hmonth', hday', -⟩ := t'.inCalendar
  rw [dayNumber, dayNumber]
  refine cmp_eq_then (fun h => ?_) (fun h => ?_) fun hyear => ?_
  · have := add_daysInYear_le h
    omega
  · have := add_daysInYear_le h
    omega
  rw [hyear] at hday ⊢
  rw [cmp_add_left, cmp_natCast]
  refine cmp_eq_then (fun h => ?_) (fun h => ?_) fun hmonth => ?_
  · have := add_daysInMonth_le t'.year hmonth.1 h
    omega
  · have := add_daysInMonth_le t'.year hmonth'.1 h
    omega
  · rw [hmonth, cmp_add_left]

end DateTime

end RecordSchema

/-
The texts of moments are in the order of the moments.

The parts of a text have fixed widths and stand in the order of their weight,
so the first part that differs decides between two texts, as it does between
two moments (`DateTime.cmp_textFor`). A year that has not four digits is written
with a sign, which no pattern admits (`DateTime.fits_textFor_iff`).
-/
import RecordSchema.Proofs.Calendar
import RecordSchema.Proofs.Kind.Calendar
import Mathlib.Data.String.Basic

namespace RecordSchema

namespace DateTime

variable {t t' : DateTime} {w n n' : Nat} {c : Char}

/-! ## Padded numbers -/

theorem toList_padded (w n : Nat) :
    (padded w n).toList = List.replicate (w - (Text.decimal n).length) '0' ++ Text.decimal n :=
  String.toList_ofList

theorem padded_one (h : n < 10) : (padded 1 n).toList = [n.digitChar] := by
  rw [toList_padded, Text.decimal_one (by omega)]
  rfl

/-- The last digit of a padded number stands behind the others, padded. -/
theorem padded_succ (hw : 1 ≤ w) (n : Nat) :
    (padded (w + 1) n).toList = (padded w (n / 10)).toList ++ [(n % 10).digitChar] := by
  have hdecimal : Text.decimal n = if n < 10 then [n.digitChar] else Text.decimal (n / 10) ++ [(n % 10).digitChar] :=
    Nat.toDigits_eq_if (by decide)
  rw [toList_padded, toList_padded, hdecimal]
  split
  · next h =>
    obtain ⟨k, rfl⟩ := Nat.exists_eq_add_of_le' hw
    rw [Nat.div_eq_of_lt h, Nat.mod_eq_of_lt h, Text.decimal_zero]
    simp [List.replicate_succ']
  · simp

theorem length_padded (hw : 1 ≤ w) (h : n < 10 ^ w) : (padded w n).toList.length = w := by
  induction w, hw using Nat.le_induction generalizing n with
  | base => rw [padded_one h]; rfl
  | succ w hw ih =>
    rw [Nat.pow_succ] at h
    rw [padded_succ hw, List.length_append, ih (by omega)]
    rfl

theorem isDigit_of_mem_padded (h : c ∈ (padded w n).toList) : c.isDigit = true := by
  rw [toList_padded, List.mem_append, List.mem_replicate] at h
  rcases h with ⟨-, rfl⟩ | h
  · rfl
  · exact Text.isDigit_of_mem_decimal h

/-- Two padded numbers are in the order of the numbers. -/
theorem cmp_padded (hw : 1 ≤ w) (h : n < 10 ^ w) (h' : n' < 10 ^ w) :
    cmp (padded w n).toList (padded w n').toList = cmp n n' := by
  have hdigit : ∀ a b : Fin 10, cmp [a.val.digitChar] [b.val.digitChar] = cmp a.val b.val := by decide
  induction w, hw using Nat.le_induction generalizing n n' with
  | base =>
    rw [padded_one h, padded_one h']
    exact hdigit ⟨n, h⟩ ⟨n', h'⟩
  | succ w hw ih =>
    rw [Nat.pow_succ] at h h'
    have hlength : (padded w (n / 10)).toList.length = (padded w (n' / 10)).toList.length := by
      rw [length_padded hw (by omega), length_padded hw (by omega)]
    rw [padded_succ hw, padded_succ hw, cmp_append hlength, ih (by omega) (by omega),
      hdigit ⟨n % 10, by omega⟩ ⟨n' % 10, by omega⟩]
    refine (cmp_eq_then ?_ ?_ ?_).symm
    · omega
    · omega
    · intro hq
      calc cmp n n' = cmp (10 * (n / 10) + n % 10) (10 * (n / 10) + n' % 10) := by congr 1 <;> omega
        _ = cmp (n % 10) (n' % 10) := cmp_add_left ..

theorem cmp_padded_append (hw : 1 ≤ w) (h : n < 10 ^ w) (h' : n' < 10 ^ w) (cs ds : List Char) :
    cmp ((padded w n).toList ++ cs) ((padded w n').toList ++ ds) = (cmp n n').then (cmp cs ds) := by
  rw [cmp_append (by rw [length_padded hw h, length_padded hw h']), cmp_padded hw h h']

/-! ## Texts -/

/-- The year is written with four digits and no sign. -/
def FourDigitYear (t : DateTime) : Prop := 0 ≤ t.year ∧ t.year ≤ 9999

instance : DecidablePred FourDigitYear := fun t => inferInstanceAs (Decidable (0 ≤ t.year ∧ t.year ≤ 9999))

theorem FourDigitYear.lt (h : t.FourDigitYear) : t.year.natAbs < 10 ^ 4 := by
  obtain ⟨hlo, hhi⟩ := h
  omega

theorem yearText_eq (h : t.FourDigitYear) : yearText t.year = padded 4 t.year.natAbs := by
  rw [yearText, if_neg (Int.not_lt.2 h.1), if_neg (Int.not_lt.2 h.2)]

theorem toList_dateText (h : t.FourDigitYear) : t.dateText.toList =
    (padded 4 t.year.natAbs).toList ++ ('-' :: ((padded 2 t.month).toList ++ ('-' :: (padded 2 t.day).toList))) := by
  simp [dateText, yearText_eq h]

theorem toList_timeText (t : DateTime) : t.timeText.toList =
    (padded 2 t.hour).toList ++ (':' :: ((padded 2 t.minute).toList ++ (':' :: (padded 2 t.second).toList))) := by
  simp [timeText]

theorem toList_textFor_datetime (t : DateTime) :
    (t.textFor .datetime).toList = t.dateText.toList ++ (' ' :: t.timeText.toList) := by
  simp [textFor]

/-- The other parts of a moment have two digits at most. -/
theorem two_digits (t : DateTime) :
    (t.month < 10 ^ 2 ∧ t.day < 10 ^ 2) ∧ t.hour < 10 ^ 2 ∧ t.minute < 10 ^ 2 ∧ t.second < 10 ^ 2 := by
  obtain ⟨-, hmonth, -, hhour, hminute, hsecond⟩ := t.inCalendar
  have hday := day_lt t
  omega

theorem cmp_dateText (h : t.FourDigitYear) (h' : t'.FourDigitYear) :
    cmp t.dateText.toList t'.dateText.toList = cmp t.dayNumber t'.dayNumber := by
  obtain ⟨⟨hmonth, hday⟩, -⟩ := t.two_digits
  obtain ⟨⟨hmonth', hday'⟩, -⟩ := t'.two_digits
  have hyear : cmp t.year.natAbs t'.year.natAbs = cmp t.year t'.year := by
    rw [← cmp_natCast, Int.natAbs_of_nonneg h.1, Int.natAbs_of_nonneg h'.1]
  rw [toList_dateText h, toList_dateText h', cmp_padded_append (by decide) h.lt h'.lt, cmp_cons,
    cmp_padded_append (by decide) hmonth hmonth', cmp_cons, cmp_padded (by decide) hday hday', cmp_self_eq_eq,
    Ordering.eq_then, Ordering.eq_then, hyear, cmp_dayNumber]

theorem cmp_timeText (t t' : DateTime) :
    cmp t.timeText.toList t'.timeText.toList = cmp t.secondOfDay t'.secondOfDay := by
  obtain ⟨-, hhour, hminute, hsecond⟩ := t.two_digits
  obtain ⟨-, hhour', hminute', hsecond'⟩ := t'.two_digits
  rw [toList_timeText, toList_timeText, cmp_padded_append (by decide) hhour hhour', cmp_cons,
    cmp_padded_append (by decide) hminute hminute', cmp_cons, cmp_padded (by decide) hsecond hsecond',
    cmp_self_eq_eq, Ordering.eq_then, Ordering.eq_then, cmp_secondOfDay]

theorem length_dateText (h : t.FourDigitYear) : t.dateText.toList.length = 10 := by
  obtain ⟨⟨hmonth, hday⟩, -⟩ := t.two_digits
  simp only [toList_dateText h, List.length_append, List.length_cons, length_padded (by decide : 1 ≤ 4) h.lt,
    length_padded (by decide : 1 ≤ 2) hmonth, length_padded (by decide : 1 ≤ 2) hday]

/-- **The order of the texts is the order of the moments**, in the part that a kind shows. -/
theorem cmp_textFor {kind : Kind} (hk : kind = .date ∨ kind = .datetime ∨ kind = .time)
    (h : kind = .time ∨ t.FourDigitYear) (h' : kind = .time ∨ t'.FourDigitYear) :
    cmp (t.textFor kind) (t'.textFor kind) = cmp (t.moment kind) (t'.moment kind) := by
  have hlist : ∀ a b : String, cmp a b = cmp a.toList b.toList := by
    intro a b
    simp only [cmp, cmpUsing, String.lt_iff_toList_lt]
  rw [hlist]
  rcases hk with rfl | rfl | rfl
  · exact cmp_dateText (h.resolve_left (by decide)) (h'.resolve_left (by decide))
  · have h := h.resolve_left (by decide)
    have h' := h'.resolve_left (by decide)
    have hlength : t.dateText.toList.length = t'.dateText.toList.length := by
      rw [length_dateText h, length_dateText h']
    rw [toList_textFor_datetime, toList_textFor_datetime, cmp_append hlength, cmp_cons, cmp_self_eq_eq,
      Ordering.eq_then, cmp_dateText h h', cmp_timeText]
    exact (cmp_units t.secondOfDay_bounds t'.secondOfDay_bounds).symm
  · exact cmp_timeText t t'

/-! ## Forms -/

open Kind (DateForm TimeForm IsMonth IsDay IsHour IsSixtieth)

theorem padded_two (h : n < 10 ^ 2) : (padded 2 n).toList = [(n / 10).digitChar, (n % 10).digitChar] := by
  rw [padded_succ (by decide), padded_one (by omega)]
  rfl

theorem isMonth_digits (h : 1 ≤ n ∧ n ≤ 12) : IsMonth (n / 10).digitChar (n % 10).digitChar := by
  have hall : ∀ n : Fin 13, 1 ≤ n.val → IsMonth (n.val / 10).digitChar (n.val % 10).digitChar := by
    unfold IsMonth Kind.InRange
    decide
  exact hall ⟨n, by omega⟩ h.1

theorem isDay_digits (h : 1 ≤ n ∧ n < 32) : IsDay (n / 10).digitChar (n % 10).digitChar := by
  have hall : ∀ n : Fin 32, 1 ≤ n.val → IsDay (n.val / 10).digitChar (n.val % 10).digitChar := by
    unfold IsDay Kind.InRange Kind.IsDigit
    decide
  exact hall ⟨n, h.2⟩ h.1

theorem isHour_digits (h : n < 24) : IsHour (n / 10).digitChar (n % 10).digitChar := by
  have hall : ∀ n : Fin 24, IsHour (n.val / 10).digitChar (n.val % 10).digitChar := by
    unfold IsHour Kind.InRange Kind.IsDigit
    decide
  exact hall ⟨n, h⟩

theorem isSixtieth_digits (h : n < 60) : IsSixtieth (n / 10).digitChar (n % 10).digitChar := by
  have hall : ∀ n : Fin 60, IsSixtieth (n.val / 10).digitChar (n.val % 10).digitChar := by
    unfold IsSixtieth Kind.InRange Kind.IsDigit
    decide
  exact hall ⟨n, h⟩

theorem timeForm (t : DateTime) : TimeForm t.timeText.toList := by
  obtain ⟨-, hhour, hminute, hsecond⟩ := t.two_digits
  obtain ⟨-, -, -, hhour', hminute', hsecond'⟩ := t.inCalendar
  rw [toList_timeText, padded_two hhour, padded_two hminute, padded_two hsecond]
  exact .mk (isHour_digits hhour') (isSixtieth_digits hminute') (isSixtieth_digits hsecond')

theorem dateForm (h : t.FourDigitYear) : DateForm t.dateText.toList := by
  obtain ⟨⟨hmonth, hday⟩, -⟩ := t.two_digits
  obtain ⟨-, hmonth', hday', -⟩ := t.inCalendar
  rw [toList_dateText h, padded_two hmonth, padded_two hday]
  exact .mk (length_padded (by decide) h.lt) (fun c hc => Kind.isDigit_of_isDigit (isDigit_of_mem_padded hc))
    (isMonth_digits hmonth') (isDay_digits ⟨hday'.1, day_lt t⟩)

/-- A year of another length has a sign in front. -/
theorem exists_sign (h : ¬ t.FourDigitYear) : ∃ c cs, t.dateText.toList = c :: cs ∧ ¬ Kind.IsDigit c := by
  have hsign : ∀ {c : Char} {s : String}, yearText t.year = String.ofList [c] ++ s →
      ¬ Kind.IsDigit c → ∃ c cs, t.dateText.toList = c :: cs ∧ ¬ Kind.IsDigit c := by
    intro c s hyear hc
    exact ⟨c, _, by rw [dateText, hyear]; simp; rfl, hc⟩
  unfold FourDigitYear at h
  rcases lt_or_ge t.year 0 with hneg | hpos
  · exact hsign (c := '-') (by rw [yearText, if_pos hneg]) (by unfold Kind.IsDigit; decide)
  · exact hsign (c := '+') (by rw [yearText, if_neg (by omega), if_pos (by omega)]) (by unfold Kind.IsDigit; decide)

/-- The text of a moment has the form of a kind unless the kind shows a year that is not written with four digits. -/
theorem fits_textFor_iff {kind : Kind} (hk : kind = .date ∨ kind = .datetime ∨ kind = .time) :
    kind.fits (t.textFor kind) = true ↔ kind = .time ∨ t.FourDigitYear := by
  have hyear : ∀ x rest rest', DateForm x → t.dateText.toList ++ rest = x ++ rest' → t.FourDigitYear := by
    intro x rest rest' hx heq
    by_contra h
    obtain ⟨c, cs, hc, hsign⟩ := exists_sign h
    obtain ⟨d, ds, rfl, hd⟩ := hx.exists_digit
    rw [hc] at heq
    exact hsign ((List.cons.inj heq).1 ▸ hd)
  rcases hk with rfl | rfl | rfl
  · rw [Kind.fits_date_iff, or_iff_right (by decide)]
    exact ⟨fun h => hyear _ [] [] h rfl, dateForm⟩
  · rw [Kind.fits_datetime_iff, or_iff_right (by decide), toList_textFor_datetime]
    constructor
    · rintro ⟨x, y, heq, hx, -⟩
      exact hyear _ _ _ hx heq
    · exact fun h => ⟨_, _, rfl, dateForm h, timeForm t⟩
  · exact iff_of_true (Kind.fits_time_iff.2 t.timeForm) (.inl rfl)

end DateTime

end RecordSchema

/-
The forms of dates and times as grammars: what a text that fits the pattern of
a date, a time or both is made of.

The first digit of a month, an hour and the like is one of the ASCII digits that
its range names; where the range of the second is that of all digits, it may
be one of any script.
-/
import RecordSchema.Proofs.Kind.Form

namespace RecordSchema

namespace Kind

open Regex

/-- From `01` to `12`. -/
def IsMonth (a b : Char) : Prop := a = '0' ∧ InRange '1' '9' b ∨ a = '1' ∧ InRange '0' '2' b

/-- From `01` to `31`. -/
def IsDay (a b : Char) : Prop :=
  a = '0' ∧ InRange '1' '9' b ∨ (a = '1' ∨ a = '2') ∧ IsDigit b ∨ a = '3' ∧ (b = '0' ∨ b = '1')

/-- From `00` to `23`. -/
def IsHour (a b : Char) : Prop := (a = '0' ∨ a = '1') ∧ IsDigit b ∨ a = '2' ∧ InRange '0' '3' b

/-- From `00` to `59`. -/
def IsSixtieth (a b : Char) : Prop := InRange '0' '5' a ∧ IsDigit b

/-- A year of four digits, a month and a day. -/
inductive DateForm : List Char → Prop where
  | mk {year a b c d} (four : year.length = 4) (digits : ∀ e ∈ year, IsDigit e) (month : IsMonth a b)
      (day : IsDay c d) : DateForm (year ++ ['-', a, b, '-', c, d])

/-- An hour, a minute and a second. -/
inductive TimeForm : List Char → Prop where
  | mk {a b c d e f} (hour : IsHour a b) (minute : IsSixtieth c d) (second : IsSixtieth e f) :
      TimeForm [a, b, ':', c, d, ':', e, f]

theorem DateForm.exists_digit {cs : List Char} (h : DateForm cs) : ∃ c rest, cs = c :: rest ∧ IsDigit c := by
  cases h with
  | @mk year a b c d four digits month day =>
    obtain ⟨e, year, rfl⟩ := List.exists_cons_of_length_eq_add_one four
    exact ⟨e, _, rfl, digits e (List.mem_cons_self ..)⟩

variable {before text after : List Char} {s : String}

theorem matches_isDigit_iff : Matches digit before text after ↔ ∃ c, text = [c] ∧ IsDigit c := matches_one_iff

theorem matches_month_iff : Matches KindPattern.month before text after ↔ ∃ a b, text = [a, b] ∧ IsMonth a b := by
  simp only [KindPattern.month, matches_ofAlt_cons, ofAlt_singleton, matches_ofSeq_cons, ofSeq_singleton,
    matches_literal_iff, matches_between_iff]
  constructor
  · rintro (⟨_, _, rfl, rfl, b, rfl, hb⟩ | ⟨_, _, rfl, rfl, b, rfl, hb⟩)
    · exact ⟨'0', b, rfl, .inl ⟨rfl, hb⟩⟩
    · exact ⟨'1', b, rfl, .inr ⟨rfl, hb⟩⟩
  · rintro ⟨_, b, rfl, ⟨rfl, hb⟩ | ⟨rfl, hb⟩⟩
    · exact .inl ⟨['0'], [b], rfl, rfl, b, rfl, hb⟩
    · exact .inr ⟨['1'], [b], rfl, rfl, b, rfl, hb⟩

theorem matches_day_iff : Matches KindPattern.day before text after ↔ ∃ a b, text = [a, b] ∧ IsDay a b := by
  simp only [KindPattern.day, matches_ofAlt_cons, ofAlt_singleton, matches_ofSeq_cons, ofSeq_singleton,
    matches_literal_iff, matches_between_iff, matches_oneOf_iff, matches_isDigit_iff]
  constructor
  · rintro (⟨_, _, rfl, rfl, b, rfl, hb⟩ | ⟨_, _, rfl, ⟨a, ha, rfl⟩, b, rfl, hb⟩ | ⟨_, _, rfl, rfl, b, hb, rfl⟩)
    · exact ⟨'0', b, rfl, .inl ⟨rfl, hb⟩⟩
    · exact ⟨a, b, rfl, .inr (.inl ⟨by simpa using ha, hb⟩)⟩
    · exact ⟨'3', b, rfl, .inr (.inr ⟨rfl, by simpa using hb⟩)⟩
  · rintro ⟨a, b, rfl, ⟨rfl, hb⟩ | ⟨ha, hb⟩ | ⟨rfl, hb⟩⟩
    · exact .inl ⟨['0'], [b], rfl, rfl, b, rfl, hb⟩
    · exact .inr (.inl ⟨[a], [b], rfl, ⟨a, by simpa using ha, rfl⟩, b, rfl, hb⟩)
    · exact .inr (.inr ⟨['3'], [b], rfl, rfl, b, by simpa using hb, rfl⟩)

theorem matches_hour_iff : Matches KindPattern.hour before text after ↔ ∃ a b, text = [a, b] ∧ IsHour a b := by
  simp only [KindPattern.hour, matches_ofAlt_cons, ofAlt_singleton, matches_ofSeq_cons, ofSeq_singleton,
    matches_literal_iff, matches_between_iff, matches_oneOf_iff, matches_isDigit_iff]
  constructor
  · rintro (⟨_, _, rfl, ⟨a, ha, rfl⟩, b, rfl, hb⟩ | ⟨_, _, rfl, rfl, b, rfl, hb⟩)
    · exact ⟨a, b, rfl, .inl ⟨by simpa using ha, hb⟩⟩
    · exact ⟨'2', b, rfl, .inr ⟨rfl, hb⟩⟩
  · rintro ⟨a, b, rfl, ⟨ha, hb⟩ | ⟨rfl, hb⟩⟩
    · exact .inl ⟨[a], [b], rfl, ⟨a, by simpa using ha, rfl⟩, b, rfl, hb⟩
    · exact .inr ⟨['2'], [b], rfl, rfl, b, rfl, hb⟩

theorem matches_sixtieth_iff :
    Matches KindPattern.sixtieth before text after ↔ ∃ a b, text = [':', a, b] ∧ IsSixtieth a b := by
  simp only [KindPattern.sixtieth, matches_ofSeq_cons, ofSeq_singleton, matches_literal_iff, matches_between_iff,
    matches_isDigit_iff]
  constructor
  · rintro ⟨_, _, rfl, rfl, _, _, rfl, ⟨a, rfl, ha⟩, b, rfl, hb⟩
    exact ⟨a, b, rfl, ha, hb⟩
  · rintro ⟨a, b, rfl, ha, hb⟩
    exact ⟨[':'], [a, b], rfl, rfl, [a], [b], rfl, ⟨a, rfl, ha⟩, b, rfl, hb⟩

theorem matches_time_iff : Matches KindPattern.time before text after ↔ TimeForm text := by
  simp only [KindPattern.time, matches_ofSeq_cons, ofSeq_singleton, matches_hour_iff, matches_times_iff, Iterates,
    matches_sixtieth_iff]
  constructor
  · rintro ⟨_, _, rfl, ⟨a, b, rfl, hour⟩, _, _, rfl, ⟨c, d, rfl, minute⟩, _, _, rfl, ⟨e, f, rfl, second⟩, rfl⟩
    exact .mk hour minute second
  · rintro ⟨hour, minute, second⟩
    exact ⟨[_, _], _, rfl, ⟨_, _, rfl, hour⟩, [':', _, _], _, rfl, ⟨_, _, rfl, minute⟩, _, [], rfl,
      ⟨_, _, rfl, second⟩, rfl⟩

theorem matches_year_iff :
    Matches (times 4 digit) before text after ↔ text.length = 4 ∧ ∀ c ∈ text, IsDigit c := by
  rw [matches_times_iff]
  exact iterates_one_iff

/-- A date in front of what a pattern has behind the day. -/
theorem matches_date_append_iff {r : Regex} {rest : List Char → Prop}
    (hr : ∀ before text after, Matches r before text after ↔ ∃ c d y, text = c :: d :: y ∧ IsDay c d ∧ rest y) :
    Matches (ofSeq [times 4 digit, literal "-", KindPattern.month, literal "-", r]) before text after ↔
      ∃ x y, text = x ++ y ∧ DateForm x ∧ rest y := by
  simp only [matches_ofSeq_cons, ofSeq_singleton, matches_year_iff, matches_literal_iff, matches_month_iff, hr]
  constructor
  · rintro ⟨year, _, rfl, ⟨four, digits⟩, _, _, rfl, rfl, _, _, rfl, ⟨a, b, rfl, month⟩, _, _, rfl, rfl, c, d, y, rfl,
      day, hy⟩
    exact ⟨year ++ ['-', a, b, '-', c, d], y, by simp, .mk four digits month day, hy⟩
  · rintro ⟨_, y, rfl, @⟨year, a, b, c, d, four, digits, month, day⟩, hy⟩
    exact ⟨year, '-' :: a :: b :: '-' :: c :: d :: y, by simp, ⟨four, digits⟩, ['-'], _, rfl, rfl, [a, b], _, rfl,
      ⟨a, b, rfl, month⟩, ['-'], _, rfl, rfl, c, d, y, rfl, day, hy⟩

theorem fits_date_iff : Kind.date.fits s = true ↔ DateForm s.toList := by
  have hday : ∀ before text after, Matches KindPattern.day before text after ↔
      ∃ c d y, text = c :: d :: y ∧ IsDay c d ∧ y = [] := by
    simp [matches_day_iff]
  exact (fits_iff _ _).trans ((matches_date_append_iff hday).trans (by simp))

/-- A date and a time with a blank between them. -/
theorem fits_datetime_iff :
    Kind.datetime.fits s = true ↔ ∃ x y, s.toList = x ++ ' ' :: y ∧ DateForm x ∧ TimeForm y := by
  have hrest : ∀ before text after,
      Matches (ofSeq [KindPattern.day, literal " ", KindPattern.hour, times 2 KindPattern.sixtieth]) before text after ↔
        ∃ c d y, text = c :: d :: y ∧ IsDay c d ∧ ∃ z, y = ' ' :: z ∧ TimeForm z := by
    intro before text after
    rw [matches_ofSeq_cons]
    simp only [matches_day_iff]
    constructor
    · rintro ⟨_, _, rfl, ⟨c, d, rfl, day⟩, h⟩
      obtain ⟨_, z, rfl, hblank, hz⟩ := matches_ofSeq_cons.1 h
      rw [matches_literal_iff.1 hblank]
      exact ⟨c, d, _, rfl, day, z, rfl, matches_time_iff.1 hz⟩
    · rintro ⟨c, d, _, rfl, day, z, rfl, hz⟩
      exact ⟨[c, d], _, rfl, ⟨c, d, rfl, day⟩,
        matches_ofSeq_cons.2 ⟨[' '], z, rfl, matches_literal_iff.2 rfl, matches_time_iff.2 hz⟩⟩
  refine (fits_iff _ _).trans ((matches_date_append_iff hrest).trans ?_)
  constructor
  · rintro ⟨x, _, hs, hx, y, rfl, hy⟩
    exact ⟨x, y, hs, hx, hy⟩
  · rintro ⟨x, y, hs, hx, hy⟩
    exact ⟨x, _, hs, hx, y, rfl, hy⟩

theorem fits_time_iff : Kind.time.fits s = true ↔ TimeForm s.toList := (fits_iff _ _).trans matches_time_iff

end Kind

end RecordSchema

/-
Texts of dates and times in the digits of any script, and what they tell.

All texts of a kind have one layout, so the order of the texts is that of the numbers
in them wherever they part in digits of one row, and among the texts of ASCII
always. For texts that tell moments it is the order of the moments
(`Kind.noLater_of_le`).
-/
import RecordSchema.Proofs.DateTime
import RecordSchema.Proofs.Text.Digit
import Mathlib.Data.Ordering.Lemmas

namespace RecordSchema

open Text (SameLayout PartAlike numbers)

/-- The text tells the moment as far as the kind shows it: they have the same numbers in them, read by the values of
their digits. -/
structure DateTime.ToldBy (t : DateTime) (kind : Kind) (s : String) : Prop where
  year : kind = .time ∨ t.FourDigitYear
  numbers : numbers s.toList = numbers (t.textFor kind).toList

/-- What one text tells is not after what another one tells: neither are its numbers, from the year on, nor is the
moment, if both tell one of the calendar. -/
structure Kind.NoLater (kind : Kind) (s s' : String) : Prop where
  numbers : numbers s.toList ≤ numbers s'.toList
  moments : ∀ t t' : DateTime, t.ToldBy kind s → t'.ToldBy kind s' → t.moment kind ≤ t'.moment kind

namespace Kind

variable {a b : Char} {cs ds : List Char} {s s' : String} {kind : Kind}

/-! ## Layouts -/

theorem isDigit_pair (ha : IsDigit a) (hb : IsDigit b) : ∀ c ∈ [a, b], IsDigit c :=
  List.forall_mem_cons.2 ⟨ha, List.forall_mem_singleton.2 hb⟩

theorem IsMonth.isDigit (h : IsMonth a b) : ∀ c ∈ [a, b], IsDigit c := by
  rcases h with ⟨rfl, lo, hi⟩ | ⟨rfl, lo, hi⟩
  · exact isDigit_pair (isDigit_of_isDigit rfl) (isDigit_of_inRange ⟨Nat.le_trans (by decide) lo, hi⟩)
  · exact isDigit_pair (isDigit_of_isDigit rfl) (isDigit_of_inRange ⟨lo, Nat.le_trans hi (by decide)⟩)

theorem IsDay.isDigit (h : IsDay a b) : ∀ c ∈ [a, b], IsDigit c := by
  rcases h with ⟨rfl, lo, hi⟩ | ⟨rfl | rfl, hb⟩ | ⟨rfl, rfl | rfl⟩
  · exact isDigit_pair (isDigit_of_isDigit rfl) (isDigit_of_inRange ⟨Nat.le_trans (by decide) lo, hi⟩)
  · exact isDigit_pair (isDigit_of_isDigit rfl) hb
  · exact isDigit_pair (isDigit_of_isDigit rfl) hb
  · exact isDigit_pair (isDigit_of_isDigit rfl) (isDigit_of_isDigit rfl)
  · exact isDigit_pair (isDigit_of_isDigit rfl) (isDigit_of_isDigit rfl)

theorem IsHour.isDigit (h : IsHour a b) : ∀ c ∈ [a, b], IsDigit c := by
  rcases h with ⟨rfl | rfl, hb⟩ | ⟨rfl, lo, hi⟩
  · exact isDigit_pair (isDigit_of_isDigit rfl) hb
  · exact isDigit_pair (isDigit_of_isDigit rfl) hb
  · exact isDigit_pair (isDigit_of_isDigit rfl) (isDigit_of_inRange ⟨lo, Nat.le_trans hi (by decide)⟩)

theorem IsSixtieth.isDigit (h : IsSixtieth a b) : ∀ c ∈ [a, b], IsDigit c :=
  isDigit_pair (isDigit_of_inRange ⟨h.1.1, Nat.le_trans h.1.2 (by decide)⟩) h.2

theorem not_isDigit_separator : ¬ IsDigit '-' ∧ ¬ IsDigit ':' ∧ ¬ IsDigit ' ' := by
  unfold IsDigit
  decide

theorem DateForm.sameLayout (h : DateForm cs) (h' : DateForm ds) : SameLayout cs ds := by
  obtain @⟨year, a, b, c, d, four, digits, month, day⟩ := h
  obtain @⟨year', a', b', c', d', four', digits', month', day'⟩ := h'
  have hday : SameLayout [c, d] [c', d'] := .digits rfl day.isDigit day'.isDigit
  have hmonth : SameLayout ([a, b] ++ '-' :: [c, d]) ([a', b'] ++ '-' :: [c', d']) :=
    .between rfl month.isDigit month'.isDigit not_isDigit_separator.1 hday
  exact .between (four.trans four'.symm) digits digits' not_isDigit_separator.1 hmonth

theorem TimeForm.sameLayout (h : TimeForm cs) (h' : TimeForm ds) : SameLayout cs ds := by
  obtain @⟨a, b, c, d, e, f, hour, minute, second⟩ := h
  obtain @⟨a', b', c', d', e', f', hour', minute', second'⟩ := h'
  have hsecond : SameLayout [e, f] [e', f'] := .digits rfl second.isDigit second'.isDigit
  have hminute : SameLayout ([c, d] ++ ':' :: [e, f]) ([c', d'] ++ ':' :: [e', f']) :=
    .between rfl minute.isDigit minute'.isDigit not_isDigit_separator.2.1 hsecond
  have hhour : SameLayout ([a, b] ++ ':' :: c :: d :: ':' :: [e, f]) ([a', b'] ++ ':' :: c' :: d' :: ':' :: [e', f']) :=
    .between rfl hour.isDigit hour'.isDigit not_isDigit_separator.2.1 hminute
  exact hhour

theorem sameLayout_of_fits (hk : kind = .date ∨ kind = .datetime ∨ kind = .time) (h : kind.fits s = true)
    (h' : kind.fits s' = true) : SameLayout s.toList s'.toList := by
  rcases hk with rfl | rfl | rfl
  · exact (fits_date_iff.1 h).sameLayout (fits_date_iff.1 h')
  · obtain ⟨d, t, hs, hd, ht⟩ := fits_datetime_iff.1 h
    obtain ⟨d', t', hs', hd', ht'⟩ := fits_datetime_iff.1 h'
    rw [hs, hs']
    exact (hd.sameLayout hd').append not_isDigit_separator.2.2 (ht.sameLayout ht')
  · exact (fits_time_iff.1 h).sameLayout (fits_time_iff.1 h')

/-- Texts of a kind that part in digits of one row are in the order of their numbers. -/
theorem le_iff_numbers_le (hk : kind = .date ∨ kind = .datetime ∨ kind = .time) (h : kind.fits s = true)
    (h' : kind.fits s' = true) (halike : PartAlike s.toList s'.toList) :
    s ≤ s' ↔ numbers s.toList ≤ numbers s'.toList := by
  have hlt : s' < s ↔ numbers s'.toList < numbers s.toList := by
    rw [String.lt_iff_toList_lt]
    calc s'.toList < s.toList ↔ cmp s.toList s'.toList = .gt := (cmpUsing_eq_gt _ _).symm
      _ ↔ cmp (numbers s.toList) (numbers s'.toList) = .gt := by
        rw [Text.cmp_eq_cmp_numbers (sameLayout_of_fits hk h h') halike]
      _ ↔ numbers s'.toList < numbers s.toList := cmpUsing_eq_gt _ _
  rw [← not_lt, hlt, not_lt]

end Kind

/-! ## Moments -/

namespace DateTime

variable {t t' : DateTime} {kind : Kind} {c : Char}

theorem toNat_lt_of_mem_padded {w n : Nat} (h : c ∈ (padded w n).toList) : c.toNat < 128 := by
  obtain ⟨-, hhi⟩ := Text.isDigit_iff.1 (isDigit_of_mem_padded h)
  exact Nat.lt_of_le_of_lt hhi (by decide)

theorem ascii_dateText (h : t.FourDigitYear) : ∀ c ∈ t.dateText.toList, c.toNat < 128 := by
  simp only [toList_dateText h, List.forall_mem_append, List.forall_mem_cons]
  exact ⟨fun c => toNat_lt_of_mem_padded, by decide, fun c => toNat_lt_of_mem_padded, by decide,
    fun c => toNat_lt_of_mem_padded⟩

theorem ascii_timeText (t : DateTime) : ∀ c ∈ t.timeText.toList, c.toNat < 128 := by
  simp only [toList_timeText, List.forall_mem_append, List.forall_mem_cons]
  exact ⟨fun c => toNat_lt_of_mem_padded, by decide, fun c => toNat_lt_of_mem_padded, by decide,
    fun c => toNat_lt_of_mem_padded⟩

theorem ascii_textFor (hk : kind = .date ∨ kind = .datetime ∨ kind = .time) (h : kind = .time ∨ t.FourDigitYear) :
    ∀ c ∈ (t.textFor kind).toList, c.toNat < 128 := by
  rcases hk with rfl | rfl | rfl
  · exact ascii_dateText (h.resolve_left (by decide))
  · rw [toList_textFor_datetime, List.forall_mem_append, List.forall_mem_cons]
    exact ⟨ascii_dateText (h.resolve_left (by decide)), by decide, ascii_timeText t⟩
  · exact ascii_timeText t

/-- The numbers in the texts of two moments are in the order of the moments. -/
theorem numbers_textFor_le_iff (hk : kind = .date ∨ kind = .datetime ∨ kind = .time)
    (h : kind = .time ∨ t.FourDigitYear) (h' : kind = .time ∨ t'.FourDigitYear) :
    numbers (t.textFor kind).toList ≤ numbers (t'.textFor kind).toList ↔ t.moment kind ≤ t'.moment kind := by
  have hfits := (fits_textFor_iff hk).2 h
  have hfits' := (fits_textFor_iff hk).2 h'
  have halike := (Kind.sameLayout_of_fits hk hfits hfits').partAlike (ascii_textFor hk h) (ascii_textFor hk h')
  rw [← Kind.le_iff_numbers_le hk hfits hfits' halike]
  exact le_iff_le_of_cmp_eq_cmp (cmp_textFor hk h h')

end DateTime

namespace Kind

variable {s s' : String} {kind : Kind}

/-- **Of two texts that part in digits of one row the lesser one tells nothing later.** -/
theorem noLater_of_le (hk : kind = .date ∨ kind = .datetime ∨ kind = .time) (hs : kind.fits s = true)
    (hs' : kind.fits s' = true) (halike : PartAlike s.toList s'.toList) (h : s ≤ s') : kind.NoLater s s' := by
  have hnumbers := (le_iff_numbers_le hk hs hs' halike).1 h
  refine ⟨hnumbers, fun t t' ht ht' => ?_⟩
  rw [ht.numbers, ht'.numbers] at hnumbers
  exact (DateTime.numbers_textFor_le_iff hk ht.year ht'.year).1 hnumbers

end Kind

end RecordSchema

/-
Options and bounds as they are written: the scalar that a kind reads from a
value is read again from what stands for it in a fragment, decimals with the
digits and the scale they had.

An infinite number is the exception. A decimal text can be beyond the
floating-point format, and null stands for what it reads as.
-/
import RecordSchema.Proofs.Leaf.Clean

namespace RecordSchema

namespace Scalar

/-- No infinite number. -/
def IsFinite (s : Scalar) : Prop := ∀ negative, s ≠ .float (.infinite negative)

end Scalar

namespace Kind

/-- A scalar that some value stands for as an option of the kind. -/
def IsOption (kind : Kind) (s : Scalar) : Prop := ∃ v : Json, v.WellFormed ∧ kind.optionScalar? v = some s

/-- A scalar that some value stands for as a bound of the kind. -/
def IsBound (kind : Kind) (s : Scalar) : Prop := ∃ v : Json, v.WellFormed ∧ kind.boundScalar? v = some s

variable {kind : Kind} {v : Json} {s : Scalar}

theorem textScalar?_toJson (h : kind.textScalar? v = some s) : kind.textScalar? s.toJson = some s := by
  cases v with
  | string t =>
    simp only [textScalar?] at h
    split at h
    · next hfits => cases h; exact if_pos hfits
    · cases h
  | _ => cases h

/-- An integer in the range of JSON is written as it is. -/
theorem integer?_ofInt {n : Int} (hv : v.WellFormed) (h : kind.integer? v = some n) (kind' : Kind) :
    kind'.integer? (.ofInt n) = some n := by
  rw [Json.ofInt_eq (integer?_bounds hv h)]
  rfl

theorem decimalOfText?_eq_some_iff {text : String} {d : Decimal} :
    kind.decimalOfText? text = some d ↔ kind.fits text = true ∧ Decimal.ofText? text = some d := by
  unfold decimalOfText?
  split
  · next h => simp [h]
  · next h => simp [h]

theorem decimalOfText?_text (hk : kind.isDecimal = true) {text : String} {d : Decimal}
    (h : kind.decimalOfText? text = some d) : kind.decimalOfText? d.text = some d := by
  obtain ⟨hfits, hd⟩ := decimalOfText?_eq_some_iff.1 h
  rw [decimalOfText?_eq_some_iff]
  cases kind with
  | decimal =>
    have hplain := Decimal.plain_of_fits hfits hd
    exact ⟨Decimal.fits_text hplain.1, Decimal.ofText?_text hplain⟩
  | price =>
    obtain ⟨hplain, hscale⟩ := Decimal.plain_of_fits_price hfits hd
    exact ⟨Decimal.fits_price_text hplain.1 hscale, Decimal.ofText?_text hplain⟩
  | _ => cases hk

/-- A number is read as the text it is written with. -/
theorem numberScalar?_of_isDecimal (hk : kind.isDecimal = true) :
    kind.numberScalar? v = some s ↔ ∃ text d, (v = .string text ∨ ∃ n, v = .number n ∧ n.text = text) ∧
      kind.decimalOfText? text = some d ∧ s = .decimal d := by
  cases kind with
  | decimal | price => cases v <;> simp [numberScalar?, @eq_comm _ s]
  | _ => cases hk

theorem numberScalar?_toJson (hv : v.WellFormed) (h : kind.numberScalar? v = some s) (hf : s.IsFinite) :
    kind.numberScalar? s.toJson = some s := by
  cases kind with
  | int | timestamp | uint =>
    simp only [numberScalar?] at h
    split at h
    · next n hn =>
      split at h
      · cases h
      · next hsign =>
        cases h
        simp only [numberScalar?, Scalar.toJson, integer?_ofInt hv hn, if_neg hsign]
    · cases h
  | float =>
    obtain ⟨x, hx, rfl⟩ := Option.map_eq_some_iff.1 h
    cases x with
    | finite y => rfl
    | infinite negative => exact absurd rfl (hf negative)
  | decimal | price =>
    obtain ⟨text, d, -, hd, rfl⟩ := (numberScalar?_of_isDecimal rfl).1 h
    exact (numberScalar?_of_isDecimal rfl).2 ⟨_, d, .inl rfl, decimalOfText?_text rfl hd, rfl⟩
  | _ => cases h

/-- Options are texts of the kind's form, numbers, or for strings any texts. -/
theorem optionScalar?_cases (kind : Kind) : (∀ v, kind.optionScalar? v = kind.textScalar? v) ∨
    (∀ v, kind.optionScalar? v = kind.numberScalar? v) ∨ kind = .string := by
  cases kind <;> simp [optionScalar?]

/-- Bounds are texts of the kind's form, numbers, or for strings counts. -/
theorem boundScalar?_cases (kind : Kind) : (∀ v, kind.boundScalar? v = kind.textScalar? v) ∨
    (∀ v, kind.boundScalar? v = kind.numberScalar? v) ∨ kind = .string := by
  cases kind <;> simp [boundScalar?]

theorem optionScalar?_toJson (h : kind.IsOption s) (hf : s.IsFinite) :
    kind.optionScalar? s.toJson = some s := by
  obtain ⟨v, hv, h⟩ := h
  rcases optionScalar?_cases kind with hk | hk | rfl
  · rw [hk] at h ⊢
    exact textScalar?_toJson h
  · rw [hk] at h ⊢
    exact numberScalar?_toJson hv h hf
  · obtain ⟨t, -, rfl⟩ := Option.map_eq_some_iff.1 h
    rfl

theorem boundScalar?_toJson (h : kind.IsBound s) (hf : s.IsFinite) :
    kind.boundScalar? s.toJson = some s := by
  obtain ⟨v, hv, h⟩ := h
  rcases boundScalar?_cases kind with hk | hk | rfl
  · rw [hk] at h ⊢
    exact textScalar?_toJson h
  · rw [hk] at h ⊢
    exact numberScalar?_toJson hv h hf
  · obtain ⟨n, hn, rfl⟩ := Option.map_eq_some_iff.1 h
    obtain ⟨hn, hsign⟩ := Option.filter_eq_some_iff.1 hn
    simp only [boundScalar?, Scalar.toJson, integer?_ofInt hv hn, Option.filter_some, hsign, if_true,
      Option.map_some]

/-- What is read as a bound is not null. -/
theorem isNull_of_boundScalar? (h : kind.boundScalar? v = some s) : v.isNull = false := by
  cases v with
  | null => cases kind <;> cases h
  | _ => rfl

end Kind

end RecordSchema

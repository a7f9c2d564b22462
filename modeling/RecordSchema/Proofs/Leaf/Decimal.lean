/-
Leaves for exact decimals: a text that they check is taken for the number that
its digits denote, and so are their options and bounds.

Decimals are kept with the digits and the scale they are written with, so one
number has many forms. The order and the sameness of decimals go by the value
(`Decimal.compare_eq_cmp`), which leaves of a text nothing but its number.
-/
import RecordSchema.Proofs.Leaf.Allowed
import RecordSchema.Proofs.Leaf.Stable
import RecordSchema.Proofs.Number.Written

namespace RecordSchema

open Decimal (Writes)

/-- A scalar is a decimal whose text denotes a number. -/
def Scalar.Denotes (s : Scalar) (q : ℚ) : Prop := ∃ text, s.toJson = .string text ∧ Writes text.toList q

theorem Scalar.denotes_decimal_iff {d : Decimal} (h : d.Plain) {q : ℚ} :
    (Scalar.decimal d).Denotes q ↔ d.value = q := by
  constructor
  · rintro ⟨_, ⟨⟩, hq⟩
    exact Decimal.value_of_writes hq (Decimal.ofText?_text h)
  · rintro rfl
    exact ⟨_, rfl, Decimal.writes_text h.1⟩

namespace Kind

variable {kind : Kind} {s : Scalar} {t : String} {v : Json}

/-- What is read for a kind of decimals is a decimal with a count of places. -/
theorem exists_plain_of_numberScalar? (hk : kind.isDecimal = true) (h : kind.numberScalar? v = some s) :
    ∃ d : Decimal, d.Plain ∧ s = .decimal d := by
  obtain ⟨text, d, -, hd, rfl⟩ := (numberScalar?_of_isDecimal hk).1 h
  obtain ⟨hfits, hread⟩ := decimalOfText?_eq_some_iff.1 hd
  refine ⟨d, ?_, rfl⟩
  cases kind with
  | decimal => exact Decimal.plain_of_fits hfits hread
  | price => exact (Decimal.plain_of_fits_price hfits hread).1
  | _ => cases hk

theorem IsOption.exists_plain (hk : kind.isDecimal = true) (h : kind.IsOption s) :
    ∃ d : Decimal, d.Plain ∧ s = .decimal d := by
  obtain ⟨v, -, h⟩ := h
  cases kind with
  | decimal | price =>
    simp only [optionScalar?] at h
    exact exists_plain_of_numberScalar? rfl h
  | _ => cases hk

/-- A text of ASCII characters that has the form of a kind of decimals is read. -/
theorem exists_ofText?_of_fits (hk : kind.isDecimal = true) (h : kind.fits t = true)
    (hascii : ∀ c ∈ t.toList, c.toNat < 128) (hlen : t.length < 2 ^ 63) : ∃ d, Decimal.ofText? t = some d := by
  cases kind with
  | decimal => exact Decimal.exists_of_form (by decide) (fits_decimal_iff.1 h) hascii hlen
  | price => exact Decimal.exists_of_form (by decide) (fits_price_iff.1 h) hascii hlen
  | _ => cases hk

end Kind

namespace Leaf

variable {l : Leaf} {t : String} {d : Decimal} {q : ℚ}

theorem check_of_isDecimal (hk : l.kind.isDecimal = true) (hfits : l.kind.fits t = true)
    (hd : Decimal.ofText? t = some d) : l.check (.string t) = l.checkScalar (.decimal d) := by
  have haccept : l.accept (.string t) = .ok (some (.decimal d)) := by
    have htext := acceptDecimalText_eq_ok_iff.2 ⟨d, hfits, hd, rfl⟩
    obtain ⟨annotations, kind, pattern, options, minimum, maximum⟩ := l
    cases kind with
    | decimal | price => exact htext
    | _ => cases hk
  rw [check, haccept]

/-- A decimal is on no wrong side of a bound if its value is on the right side of the number the bound denotes. -/
theorem not_below_iff {bound : Option Scalar}
    (hb : ∀ b, bound = some b → ∃ e : Decimal, e.Plain ∧ b = .decimal e) :
    beyond l.kind .lt (.decimal d) bound = false ↔ ∀ b, bound = some b → ∃ a, b.Denotes a ∧ a ≤ d.value := by
  rw [beyond_eq_false_iff]
  refine forall₂_congr fun b hbound => ?_
  obtain ⟨e, he, rfl⟩ := hb b hbound
  simp [Scalar.compare?, Scalar.denotes_decimal_iff he, ← Decimal.compare_ne_lt_iff]

theorem not_above_iff {bound : Option Scalar}
    (hb : ∀ b, bound = some b → ∃ e : Decimal, e.Plain ∧ b = .decimal e) :
    beyond l.kind .gt (.decimal d) bound = false ↔ ∀ b, bound = some b → ∃ a, b.Denotes a ∧ d.value ≤ a := by
  rw [beyond_eq_false_iff]
  refine forall₂_congr fun b hbound => ?_
  obtain ⟨e, he, rfl⟩ := hb b hbound
  simp [Scalar.compare?, Scalar.denotes_decimal_iff he, ← Decimal.compare_ne_gt_iff]

/-- **A leaf for decimals goes by the number that a text denotes**, of however many digits: a text of the form that is
written in ASCII characters is read as it, and accepted, where there are bounds or nothing is set, exactly if the
number is between those that the bounds denote, where there are options exactly if it is what one of them denotes.
Texts of one number fare alike. (A text in memory has fewer than `2 ^ 63` characters; the count of its places is kept
in as many bits.) -/
theorem accepts_decimal_texts (hl : l.Reached) (hk : l.kind = .decimal ∨ l.kind = .price)
    (hfits : l.kind.fits t = true) (hascii : ∀ c ∈ t.toList, c.toNat < 128) (hlen : t.length < 2 ^ 63) :
    ∃ q, (∀ r, Writes t.toList r ↔ r = q) ∧ (∃ d, Decimal.ofText? t = some d ∧ d.value = q) ∧
      (l.options = none → ∀ path, l.failures (.string t) path = [] ↔
        (∀ lo, l.minimum = some lo → ∃ a, lo.Denotes a ∧ a ≤ q) ∧
          ∀ hi, l.maximum = some hi → ∃ b, hi.Denotes b ∧ q ≤ b) ∧
      (∀ os, l.options = some os → ∀ path, l.failures (.string t) path = [] ↔ ∃ o ∈ os, o.Denotes q) ∧
      ∀ u : String, l.kind.fits u = true → (∀ c ∈ u.toList, c.toNat < 128) → u.length < 2 ^ 63 →
        Writes u.toList q → l.check (.string u) = l.check (.string t) := by
  have hdecimal : l.kind.isDecimal = true := by rcases hk with h | h <;> rw [h] <;> rfl
  have hstring : l.kind ≠ .string := by rcases hk with h | h <;> rw [h] <;> decide
  have hcoherent := hl.coherent
  have hbound : ∀ {b}, l.kind.IsBound b → ∃ e : Decimal, e.Plain ∧ b = .decimal e :=
    fun hb => (hb.isOption hstring).exists_plain hdecimal
  obtain ⟨d, hd⟩ := Kind.exists_ofText?_of_fits hdecimal hfits hascii hlen
  have hcheck := check_of_isDecimal hdecimal hfits hd
  refine ⟨_, fun r => ?_, ⟨d, hd, rfl⟩, fun ho path => ?_, fun os ho path => ?_, fun u hu hascii' hlen' hwrites => ?_⟩
  · rw [Decimal.writes_iff_of_ofText? hd, eq_comm]
  · rw [failures_string_iff, hcheck, checkScalar, ho]
    dsimp only
    rw [checkBounds_eq_ok_iff hstring, not_below_iff fun b hb => hbound (hcoherent.minimum b hb).2,
      not_above_iff fun b hb => hbound (hcoherent.maximum b hb).2]
  · obtain ⟨-, -, -, -, hall⟩ := hcoherent.options os ho
    rw [failures_string_iff, hcheck, checkScalar_eq_ok_iff_of_options ho]
    refine exists_congr fun o => and_congr_right fun ho => ?_
    obtain ⟨e, he, rfl⟩ := (hall o ho).exists_plain hdecimal
    rw [Scalar.denotes_decimal_iff he, Scalar.same, Decimal.same_iff]
  · obtain ⟨e, he⟩ := Kind.exists_ofText?_of_fits hdecimal hu hascii' hlen'
    rw [hcheck, check_of_isDecimal hdecimal hu he, checkScalar_of_value_eq l (Decimal.value_of_writes hwrites he)]

/-- A minus in front of a zero and zeros behind a point make no difference to options. -/
theorem accepts_decimal_texts_zeros :
    let c : Call := .options (.array [.string "2", .number (.int 0)])
    let l : Leaf := { bare .decimal with options := some [.decimal ⟨2, 0⟩, .decimal ⟨0, 0⟩] }
    (bare .decimal).after c = l ∧ l.failures (.string "2.00") .root = [] ∧ l.failures (.string "-0.0") .root = [] := by
  intro c l
  have hl : (bare .decimal).after c = l := by rfl
  have hc : c.WellFormed := by
    rw [Call.WellFormed]
    decide
  have hnamed : ofKindName "decimal" = .ok (bare .decimal) := by rfl
  have hreached : l.Reached := hl ▸ .call (.built (.named hnamed)) hc
  refine ⟨hl, ?_, ?_⟩
  · obtain ⟨q, -, ⟨d, hd, rfl⟩, -, haccepts, -⟩ := accepts_decimal_texts hreached (.inl rfl) (t := "2.00")
      (by decide +kernel) (by simp) (by decide)
    have hread : Decimal.ofText? "2.00" = some ⟨200, 2⟩ := by decide +kernel
    cases hread.symm.trans hd
    refine (haccepts _ rfl .root).2 ⟨.decimal ⟨2, 0⟩, by simp, (Scalar.denotes_decimal_iff (by decide)).2 ?_⟩
    norm_num [Decimal.value]
  · obtain ⟨q, -, ⟨d, hd, rfl⟩, -, haccepts, -⟩ := accepts_decimal_texts hreached (.inl rfl) (t := "-0.0")
      (by decide +kernel) (by simp) (by decide)
    have hread : Decimal.ofText? "-0.0" = some ⟨0, 1⟩ := by decide +kernel
    cases hread.symm.trans hd
    refine (haccepts _ rfl .root).2 ⟨.decimal ⟨0, 0⟩, by simp, (Scalar.denotes_decimal_iff (by decide)).2 ?_⟩
    norm_num [Decimal.value]

end Leaf

end RecordSchema

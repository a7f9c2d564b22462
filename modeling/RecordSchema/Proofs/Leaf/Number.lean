/-
Leaves for decimals, and the numbers of JSON. A number is taken by its text, and
one that is written with an exponent has not the form of a decimal.
-/
import RecordSchema.Proofs.Leaf.Form
import RecordSchema.Proofs.Number.Notation

namespace RecordSchema

namespace Leaf

variable {l : Leaf} {path : Path}

/-- Decimals are cleaned to the texts of their numbers. -/
theorem clean_number_of_decimal (hk : l.kind = .decimal) (n : Json.Number) (path : Path) :
    l.clean (.number n) path = .ok (.string n.text) := by
  simp [clean, hk, Kind.clean?, Json.isNull, Json.scalarText?]

/-- **A leaf for decimals on which nothing is set accepts the numbers that are written without an exponent**: all
integers, and the floating-point numbers that are zero or of a magnitude from `0.00001` up to below `10^16`. Any number
is cleaned to its text, and that is accepted exactly if the number is. -/
theorem accepts_numbers_without_exponent (hk : l.kind = .decimal) (h : l.Unconstrained) (n : Json.Number)
    (path : Path) : (l.failures (.number n) path = [] ↔ n.Plain) ∧ l.clean (.number n) path = .ok (.string n.text) ∧
      (l.failures (.string n.text) path = [] ↔ n.Plain) := by
  have hdecimal : l.kind.isDecimal = true := by rw [hk]; rfl
  have htext : ∀ v : Json, v = .number n ∨ v = .string n.text → (l.failures v path = [] ↔ n.Plain) := by
    intro v hv
    have hnull : v ≠ .null := by rcases hv with rfl | rfl <;> nofun
    rw [h.failures_decimal_iff hdecimal hnull, hk]
    constructor
    · rintro ⟨t, d, ht, hfits, -⟩
      have heq : t = n.text := by rcases hv with rfl | rfl <;> simpa [eq_comm] using ht
      exact n.fits_text_iff.1 (heq ▸ hfits)
    · intro hplain
      obtain ⟨d, hd⟩ := Json.Number.exists_ofText?_text hplain
      refine ⟨n.text, d, ?_, n.fits_text_iff.2 hplain, hd⟩
      exact hv.elim (fun h => .inr ⟨n, h, rfl⟩) .inl
  exact ⟨htext _ (.inl rfl), clean_number_of_decimal hk n path, htext _ (.inr rfl)⟩

/-- The least number of the format that is not below `0.00001`. -/
theorem accepts_numbers_without_exponent_least :
    let x : Binary64 := ⟨false, (Binary64.one / 10 ^ 5 / 2 ^ 1005 + 1) * 2 ^ 1005, by decide +kernel⟩
    x.text = "0.00001" ∧ (bare .decimal).failures (.number (.float x)) .root = [] ∧
      (bare .decimal).clean (.number (.float x)) .root = .ok (.string "0.00001") ∧
      (bare .decimal).failures (.string "0.00001") .root = [] := by
  intro x
  have htext : x.text = "0.00001" := by decide +kernel
  have hplain : x.Plain := by decide +kernel
  obtain ⟨hnumber, hclean, hcleaned⟩ :=
    accepts_numbers_without_exponent (l := bare .decimal) rfl (unconstrained_bare _) (.float x) .root
  rw [Json.Number.text, htext] at hclean hcleaned
  exact ⟨htext, hnumber.2 hplain, hclean, hcleaned.2 hplain⟩

/-- From `10^16` up the text has an exponent, and the number and what it is cleaned to are refused. -/
theorem refuses_number_with_exponent :
    let x : Binary64 := ⟨false, 10 ^ 16 * Binary64.one, by decide +kernel⟩
    x.text = "1e+16" ∧ (bare .decimal).accepts (.number (.float x)) = false ∧
      (bare .decimal).clean (.number (.float x)) .root = .ok (.string "1e+16") ∧
      (bare .decimal).accepts (.string "1e+16") = false := by
  intro x
  have htext : x.text = "1e+16" := by decide +kernel
  have hclean := clean_number_of_decimal (l := bare .decimal) rfl (.float x) .root
  rw [Json.Number.text, htext] at hclean
  exact ⟨htext, by decide +kernel, hclean, by decide +kernel⟩

end Leaf

end RecordSchema

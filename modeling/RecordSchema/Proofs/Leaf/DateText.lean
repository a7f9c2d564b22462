/-
Leaves for dates and times, and the texts that they accept.

A leaf compares a text with its bounds by code points. This is the order of what
the texts tell if text and bound part in digits of one row, as they do in ASCII
(`Leaf.accepts_texts_between`). The forms admit digits of any script, though, and
a digit of a later row passes for later than any digit of an earlier one
(`Leaf.accepts_text_before_minimum`).
-/
import RecordSchema.Proofs.DateText
import RecordSchema.Proofs.Leaf.Allowed
import RecordSchema.Proofs.Leaf.DateTime

namespace RecordSchema

open Text (PartAlike numbers)

/-- A bound of a date or a time is a text of the form. -/
theorem Kind.exists_fits_of_isBound {kind : Kind} (hk : kind = .date ∨ kind = .datetime ∨ kind = .time) {b : Scalar}
    (h : kind.IsBound b) : ∃ m, b = .text m ∧ kind.fits m = true := by
  obtain ⟨v, -, hv⟩ := h
  have htext : kind.textScalar? v = some b := by rcases hk with rfl | rfl | rfl <;> exact hv
  cases v with
  | string m =>
    rw [textScalar?] at htext
    split at htext
    · next hfits =>
      cases htext
      exact ⟨m, rfl, hfits⟩
    · cases htext
  | _ => cases htext

namespace Leaf

variable {l : Leaf} {s m : String} {path : Path} {side : Ordering} {bound : Option Scalar}

theorem ne_of_beyond (hk : l.kind ≠ .ip) (h : beyond l.kind side (.text s) bound = false)
    (hm : bound = some (.text m)) : cmp s m ≠ side := by
  have hcompare := beyond_eq_false_iff.1 h _ hm
  rw [Scalar.compare?, if_neg hk, ← cmp_eq_compare] at hcompare
  exact fun heq => hcompare (congrArg some heq)

/-- An accepted text has the form of the kind and is, as a text, between the bounds. -/
theorem between_of_failures (hl : l.Coherent) (hk : l.kind = .date ∨ l.kind = .datetime ∨ l.kind = .time)
    (h : l.failures (.string s) path = []) : l.kind.fits s = true ∧
      (∀ m, l.minimum = some (.text m) → m ≤ s) ∧ ∀ m, l.maximum = some (.text m) → s ≤ m := by
  have hip : l.kind ≠ .ip := by rcases hk with h | h | h <;> rw [h] <;> decide
  have hstring : l.kind ≠ .string := by rcases hk with h | h | h <;> rw [h] <;> decide
  rw [failures_string_iff, check_of_isTemporal hk] at h
  split at h
  · next hfits =>
    have hbounds : l.minimum ≠ none ∨ l.maximum ≠ none → l.checkBounds (.text s) = .ok () := by
      intro hb
      rwa [checkScalar, hl.options_eq_none hb] at h
    refine ⟨hfits, fun m hm => ?_, fun m hm => ?_⟩
    · obtain ⟨hmin, -⟩ := (checkBounds_eq_ok_iff hstring).1 (hbounds (.inl (hm ▸ Option.some_ne_none _)))
      exact not_lt.1 (mt (cmp_eq_lt_iff _ _).2 (ne_of_beyond hip hmin hm))
    · obtain ⟨-, hmax⟩ := (checkBounds_eq_ok_iff hstring).1 (hbounds (.inr (hm ▸ Option.some_ne_none _)))
      exact not_lt.1 (mt (cmp_eq_gt_iff _ _).2 (ne_of_beyond hip hmax hm))
  · cases h

/-- **What an accepted date or time tells is not before the minimum nor after the maximum**, each digit read by its
value, if the text parts from the bound in digits of one row. In ASCII it always does. -/
theorem accepts_texts_between (hl : l.Reached) (hk : l.kind = .date ∨ l.kind = .datetime ∨ l.kind = .time)
    (h : l.failures (.string s) path = []) :
    (∀ b, l.minimum = some b → ∃ m, b = .text m ∧ (PartAlike s.toList m.toList → l.kind.NoLater m s)) ∧
    (∀ b, l.maximum = some b → ∃ m, b = .text m ∧ (PartAlike s.toList m.toList → l.kind.NoLater s m)) ∧
    ((∀ c ∈ s.toList, c.toNat < 128) → ∀ m, l.minimum = some (.text m) ∨ l.maximum = some (.text m) →
      (∀ c ∈ m.toList, c.toNat < 128) → PartAlike s.toList m.toList) := by
  have hcoherent := hl.coherent
  obtain ⟨hfits, hmin, hmax⟩ := between_of_failures hcoherent hk h
  refine ⟨fun b hb => ?_, fun b hb => ?_, fun hascii m hm hascii' => ?_⟩
  · obtain ⟨m, rfl, hm⟩ := Kind.exists_fits_of_isBound hk (hcoherent.minimum b hb).2
    exact ⟨m, rfl, fun halike => Kind.noLater_of_le hk hm hfits halike.symm (hmin m hb)⟩
  · obtain ⟨m, rfl, hm⟩ := Kind.exists_fits_of_isBound hk (hcoherent.maximum b hb).2
    exact ⟨m, rfl, fun halike => Kind.noLater_of_le hk hfits hm halike (hmax m hb)⟩
  · have hbound := hm.elim (fun h => (hcoherent.minimum _ h).2) fun h => (hcoherent.maximum _ h).2
    obtain ⟨m', ⟨⟩, hfits'⟩ := Kind.exists_fits_of_isBound hk hbound
    exact (Kind.sameLayout_of_fits hk hfits hfits').partAlike hascii hascii'

/-- A date with an Arabic-Indic digit behind the place where it parts from both bounds. -/
theorem accepts_texts_between_digits :
    let c : Call := .bounds (some (.string "2024-01-31")) (some (.string "2024-12-31"))
    let l : Leaf := { bare .date with minimum := some (.text "2024-01-31"), maximum := some (.text "2024-12-31") }
    (bare .date).after c = l ∧ l.failures (.string "2024-02-1٩") .root = [] ∧
      Kind.date.NoLater "2024-01-31" "2024-02-1٩" ∧ Kind.date.NoLater "2024-02-1٩" "2024-12-31" ∧
      numbers "2024-02-1٩".toList = [2024, 2, 19] := by
  intro c l
  have hl : (bare .date).after c = l := by rfl
  have hc : c.WellFormed := ⟨by rintro v ⟨⟩; decide, by rintro v ⟨⟩; decide⟩
  have hnamed : ofKindName "date" = .ok (bare .date) := by rfl
  have hreached : l.Reached := hl ▸ .call (.built (.named hnamed)) hc
  have haccepts : l.failures (.string "2024-02-1٩") .root = [] := by decide +kernel
  obtain ⟨hmin, hmax, -⟩ := accepts_texts_between hreached (.inl rfl) haccepts
  obtain ⟨_, ⟨⟩, hlo⟩ := hmin _ rfl
  obtain ⟨_, ⟨⟩, hhi⟩ := hmax _ rfl
  exact ⟨hl, haccepts, hlo (by decide +kernel), hhi (by decide +kernel), by decide +kernel⟩

/-- A year of Arabic-Indic digits passes for later than any of ASCII: 1999 gets past a minimum in 2000. -/
theorem accepts_text_before_minimum :
    let c : Call := .bounds (some (.string "2000-01-01")) none
    let l : Leaf := { bare .date with minimum := some (.text "2000-01-01") }
    (bare .date).after c = l ∧ l.failures (.string "١٩٩٩-01-01") .root = [] ∧
      numbers "١٩٩٩-01-01".toList = [1999, 1, 1] ∧ numbers "2000-01-01".toList = [2000, 1, 1] ∧
      ¬ Kind.date.NoLater "2000-01-01" "١٩٩٩-01-01" := by
  intro c l
  have hearlier : ¬ numbers "2000-01-01".toList ≤ numbers "١٩٩٩-01-01".toList := by decide +kernel
  exact ⟨by rfl, by decide +kernel, by decide +kernel, by decide +kernel, fun h => hearlier h.numbers⟩

end Leaf

end RecordSchema

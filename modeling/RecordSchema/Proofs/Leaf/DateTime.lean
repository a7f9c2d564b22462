/-
Leaves for dates and times, checked against a moment.

The moment is written in the form of the kind, and bounds are compared as texts.
That order is the one of the moments (`DateTime.cmp_textFor`), so a leaf whose
bounds are texts of moments tells what is before, between and after them.
-/
import RecordSchema.Proofs.DateTime
import RecordSchema.Proofs.Leaf.Accept
import RecordSchema.Proofs.Leaf.Calls

namespace RecordSchema

namespace Leaf

variable {l : Leaf} {t : DateTime} {bound : Option DateTime}

theorem check_of_isTemporal (hk : l.kind = .date ∨ l.kind = .datetime ∨ l.kind = .time) (s : String) :
    l.check (.string s) = if l.kind.fits s then l.checkScalar (.text s) else .error .failedKindPattern := by
  have haccept : l.accept (.string s) = acceptText l.kind (.string s) := by
    rcases hk with h | h | h <;> simp only [accept, h]
  rw [check, haccept, acceptText]
  by_cases hfits : l.kind.fits s = true
  · simp only [if_pos hfits]
  · simp only [if_neg hfits]

/-- A moment is on a side of a bound, as a text, if it is on that side of the bound's moment. -/
theorem beyond_textFor_iff (hk : l.kind = .date ∨ l.kind = .datetime ∨ l.kind = .time)
    (ht : l.kind = .time ∨ t.FourDigitYear) (hb : l.kind = .time ∨ ∀ b, bound = some b → b.FourDigitYear)
    (side : Ordering) :
    beyond l.kind side (.text (t.textFor l.kind)) (bound.map fun b => .text (b.textFor l.kind)) = false ↔
      ∀ b, bound = some b → cmp (t.moment l.kind) (b.moment l.kind) ≠ side := by
  have hip : l.kind ≠ .ip := by rcases hk with h | h | h <;> rw [h] <;> decide
  have hcompare : ∀ b, bound = some b → (Scalar.text (t.textFor l.kind)).compare? l.kind (.text (b.textFor l.kind)) =
      some (cmp (t.moment l.kind) (b.moment l.kind)) := by
    intro b hbound
    rw [Scalar.compare?, if_neg hip, ← cmp_eq_compare, DateTime.cmp_textFor hk ht (hb.imp_right fun hb => hb b hbound)]
  rw [beyond_eq_false_iff]
  constructor
  · intro h b hbound heq
    refine h _ (Option.map_eq_some_iff.2 ⟨b, hbound, rfl⟩) ?_
    rw [hcompare b hbound, heq]
  · intro h s hs heq
    obtain ⟨b, hbound, rfl⟩ := Option.map_eq_some_iff.1 hs
    rw [hcompare b hbound] at heq
    exact h b hbound (Option.some.inj heq)

/-- **A leaf for dates or times goes by the moment.** What it accepts of the calendar is every moment whose year it can
write with four digits, or that it shows no year of, if that is between the moments of its bounds: by the day, by the
time of day, or by both. -/
theorem accepts_moments_between (hk : l.kind = .date ∨ l.kind = .datetime ∨ l.kind = .time) (ho : l.options = none)
    {lo hi : Option DateTime} (hmin : l.minimum = lo.map fun b => .text (b.textFor l.kind))
    (hmax : l.maximum = hi.map fun b => .text (b.textFor l.kind))
    (hlo : l.kind = .time ∨ ∀ b, lo = some b → b.FourDigitYear)
    (hhi : l.kind = .time ∨ ∀ b, hi = some b → b.FourDigitYear) (t : DateTime) (path : Path) :
    l.failuresOfDateTime t path = [] ↔ (l.kind = .time ∨ t.FourDigitYear) ∧
      (∀ b, lo = some b → b.moment l.kind ≤ t.moment l.kind) ∧
        ∀ b, hi = some b → t.moment l.kind ≤ b.moment l.kind := by
  have hstring : l.kind ≠ .string := by rcases hk with h | h | h <;> rw [h] <;> decide
  rw [failuresOfDateTime, failures_string_iff, check_of_isTemporal hk]
  by_cases ht : l.kind = .time ∨ t.FourDigitYear
  · rw [if_pos ((DateTime.fits_textFor_iff hk).2 ht), and_iff_right ht, checkScalar, ho]
    dsimp only
    rw [checkBounds_eq_ok_iff hstring, hmin, hmax, beyond_textFor_iff hk ht hlo, beyond_textFor_iff hk ht hhi]
    refine and_congr (forall₂_congr fun b _ => ?_) (forall₂_congr fun b _ => ?_)
    · rw [ne_eq, cmp_eq_lt_iff, not_lt]
    · rw [ne_eq, cmp_eq_gt_iff, not_lt]
  · rw [if_neg (mt (DateTime.fits_textFor_iff hk).1 ht)]
    simp [ht]

/-- A leaf that the last second of a leap day bounds accepts it and refuses the next one, in another month. -/
theorem accepts_moments_between_leapDay :
    let last : DateTime := ⟨2024, 2, 29, 23, 59, 59, by decide⟩
    let next : DateTime := ⟨2024, 3, 1, 0, 0, 0, by decide⟩
    let c : Call := .bounds none (some (.string "2024-02-29 23:59:59"))
    let l : Leaf := { bare .datetime with maximum := some (.text "2024-02-29 23:59:59") }
    c.run (bare .datetime) = .ok l ∧ next.moment .datetime = last.moment .datetime + 1 ∧
      l.failuresOfDateTime last .root = [] ∧ l.failuresOfDateTime next .root ≠ [] := by
  intro last next c l
  have hcall : c.run (bare .datetime) = .ok l := by rfl
  have htext : last.textFor .datetime = "2024-02-29 23:59:59" := by decide +kernel
  have hnext : next.moment .datetime = last.moment .datetime + 1 := by decide +kernel
  have haccepts : ∀ t : DateTime, t.FourDigitYear →
      (l.failuresOfDateTime t .root = [] ↔ t.moment .datetime ≤ last.moment .datetime) := by
    intro t ht
    have hmin : l.minimum = (none : Option DateTime).map fun b => .text (b.textFor l.kind) := rfl
    have hmax : l.maximum = (some last).map fun b => .text (b.textFor l.kind) :=
      congrArg (fun s => some (Scalar.text s)) htext.symm
    have hlast : ∀ b, some last = some b → b.FourDigitYear := by
      rintro b ⟨⟩
      decide
    have hnone : ∀ b, (none : Option DateTime) = some b → b.FourDigitYear := by simp
    rw [accepts_moments_between (.inr (.inl rfl)) rfl hmin hmax (.inr hnone) (.inr hlast) t .root]
    simp [ht, show l.kind = .datetime from rfl]
  refine ⟨hcall, hnext, (haccepts last (by decide)).2 (Int.le_refl _), ?_⟩
  rw [ne_eq, haccepts next (by decide)]
  omega

end Leaf

end RecordSchema

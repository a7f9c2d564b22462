/-
Signed runs of digits as a decimal text has them: in the mantissa, where
underscores may stand among the digits, and in the exponent, where they may not.
The readers of both take exactly these (`groupedInt?_eq_some_iff`,
`signedNumeral?_eq_some_iff`).
-/
import RecordSchema.Number.Decimal
import RecordSchema.Proofs.Kind.Form
import RecordSchema.Proofs.Number.Literal

namespace RecordSchema

namespace Decimal

open Kind
open Number (splitSign signedNumeral?)
open Text (Denotes)

/-- ASCII digits, among which underscores behind the first one count for nothing. -/
def Grouped (cs : List Char) (n : Nat) : Prop := cs.head? ≠ some '_' ∧ Denotes 10 (cs.filter (· != '_')) n

/-- Digits of some form, perhaps behind a sign. -/
inductive Signed (digits : List Char → Nat → Prop) : List Char → Int → Prop where
  | unsigned {cs n} (h : digits cs n) : Signed digits cs n
  | plus {cs n} (h : digits cs n) : Signed digits ('+' :: cs) n
  | minus {cs n} (h : digits cs n) : Signed digits ('-' :: cs) (-n)

variable {cs : List Char} {n : Nat} {z : Int}

theorem isDigit_of_denotes (h : Denotes 10 cs n) : ∀ c ∈ cs, c.isDigit = true :=
  (Text.isDigit_of_numeral?_ten (Text.numeral?_eq_some_iff.2 h)).2

theorem filter_eq_self (h : ∀ c ∈ cs, IsDigit c) : cs.filter (· != '_') = cs := by
  rw [List.filter_eq_self]
  exact fun c hc => by simp [ne_of_isDigit (h c hc)]

/-- Digits alone are grouped in no way. -/
theorem grouped_of_denotes (h : Denotes 10 cs n) : Grouped cs n := by
  have hdigits : ∀ c ∈ cs, IsDigit c := fun c hc => isDigit_of_isDigit (isDigit_of_denotes h c hc)
  constructor
  · exact fun hhead => (ne_of_isDigit (hdigits _ (List.mem_of_mem_head? hhead))).2.2.2 rfl
  · rwa [filter_eq_self hdigits]

theorem Signed.imp {digits digits' : List Char → Nat → Prop} (himp : ∀ {cs n}, digits cs n → digits' cs n)
    (h : Signed digits cs z) : Signed digits' cs z := by
  cases h with
  | unsigned h => exact .unsigned (himp h)
  | plus h => exact .plus (himp h)
  | minus h => exact .minus (himp h)

theorem Grouped.isDigit (h : Grouped cs n) : ∀ c ∈ cs, c.isDigit = true ∨ c = '_' := by
  intro c hc
  by_cases hline : c = '_'
  · exact .inr hline
  · exact .inl (isDigit_of_denotes h.2 c (List.mem_filter.2 ⟨hc, by simp [hline]⟩))

/-- Neither a sign nor the point nor the mark of an exponent is among grouped digits. -/
theorem Grouped.ne (h : Grouped cs n) : ∀ c ∈ cs, c ≠ '-' ∧ c ≠ '+' ∧ c ≠ '.' ∧ c ≠ 'e' ∧ c ≠ 'E' := by
  intro c hc
  rcases h.isDigit c hc with hdigit | rfl
  · refine ⟨?_, ?_, ?_, ?_, ?_⟩ <;> rintro rfl <;> cases hdigit
  · decide

theorem Signed.ne (h : Signed Grouped cs z) : ∀ c ∈ cs, c ≠ '.' ∧ c ≠ 'e' ∧ c ≠ 'E' := by
  cases h with
  | unsigned h => exact fun c hc => (h.ne c hc).2.2
  | plus h => exact List.forall_mem_cons.2 ⟨by decide, fun c hc => (h.ne c hc).2.2⟩
  | minus h => exact List.forall_mem_cons.2 ⟨by decide, fun c hc => (h.ne c hc).2.2⟩

theorem groupedNumeral?_eq_some_iff : groupedNumeral? cs = some n ↔ Grouped cs n := by
  unfold groupedNumeral? Grouped
  split
  · next hline => simp [hline]
  · next hline => rw [Text.numeral?_eq_some_iff, and_iff_right hline]

theorem groupedInt?_eq_some_iff : groupedInt? cs = some z ↔ Signed Grouped cs z := by
  constructor
  · intro h
    unfold groupedInt? at h
    split at h
    · simp only [Option.map_eq_some_iff, Option.bind_eq_bind, Option.bind_eq_some_iff] at h
      obtain ⟨_, ⟨n, hn, ⟨⟩⟩, rfl⟩ := h
      exact .minus (groupedNumeral?_eq_some_iff.1 hn)
    · obtain ⟨n, hn, rfl⟩ := Option.map_eq_some_iff.1 h
      exact .plus (groupedNumeral?_eq_some_iff.1 hn)
    · obtain ⟨n, hn, rfl⟩ := Option.map_eq_some_iff.1 h
      exact .unsigned (groupedNumeral?_eq_some_iff.1 hn)
  · intro h
    cases h with
    | unsigned h =>
      unfold groupedInt?
      split
      · exact absurd rfl (h.ne _ (List.mem_cons_self ..)).1
      · exact absurd rfl (h.ne _ (List.mem_cons_self ..)).2.1
      · rw [groupedNumeral?_eq_some_iff.2 h]
        rfl
    | plus h =>
      rw [groupedInt?, groupedNumeral?_eq_some_iff.2 h]
      rfl
    | minus h =>
      rw [groupedInt?, groupedNumeral?_eq_some_iff.2 h]
      rfl

theorem signedNumeral?_eq_some_iff : signedNumeral? cs = some z ↔ Signed (Denotes 10) cs z := by
  have hread : signedNumeral? cs = some z ↔
      ∃ n, Denotes 10 (splitSign cs).2 n ∧ (if (splitSign cs).1 then -(n : Int) else n) = z := by
    simp [signedNumeral?, Option.bind_eq_some_iff, Text.numeral?_eq_some_iff]
  rw [hread]
  constructor
  · rintro ⟨n, h, rfl⟩
    unfold splitSign at h ⊢
    split at h
    · exact .minus h
    · exact .plus h
    · exact .unsigned h
  · intro h
    cases h with
    | @unsigned _ n h =>
      have hhead : ∀ c, c.isDigit = false → cs.head? ≠ some c := by
        intro c hc heq
        rw [isDigit_of_denotes h c (List.mem_of_mem_head? heq)] at hc
        cases hc
      rw [Number.splitSign_of_head? (hhead _ rfl) (hhead _ rfl)]
      exact ⟨n, h, rfl⟩
    | plus h => exact ⟨_, h, rfl⟩
    | minus h => exact ⟨_, h, rfl⟩

end Decimal

end RecordSchema

/-
Which texts read as finite numbers. A text in digits writes an exact value
(`Text.Writes`), and it reads as a finite number exactly when the magnitude of
that value is below the limit of the format (`Extended.finite_ofText?_iff`).

A text of a decimal's form that reads as a number at all writes a value: its
digits are those of any script, but reading takes the ASCII ones alone
(`Text.exists_writes`).
-/
import RecordSchema.Proofs.Number.Decimal
import RecordSchema.Proofs.Number.Overflow
import Mathlib.Algebra.Order.Field.Basic
import Mathlib.Data.Rat.Cast.Order
import Mathlib.Tactic.Positivity

namespace RecordSchema

namespace Number

/-- Digits around at most one point, the number that they all make and the count of those behind it. -/
inductive Digits : List Char → Nat → Nat → Prop where
  | whole {cs n} (h : Text.numeral? 10 cs = some n) : Digits cs n 0
  | pointed {whole places n} (h : Text.numeral? 10 (whole ++ places) = some n) :
      Digits (whole ++ '.' :: places) n places.length

/-- A digit of any script, or the point. -/
def IsNumeric (c : Char) : Prop := Kind.IsDigit c ∨ c = '.'

/-- The number a decimal is read as, without an exponent. -/
def DecimalText.ofPlaces (negative : Bool) (n places : Nat) : DecimalText := ⟨negative, n, -places⟩

variable {cs : List Char} {n places : Nat} {negative : Bool} {d : DecimalText}

theorem Digits.ne_nil (h : Digits cs n places) : cs ≠ [] := by
  cases h with
  | whole h => exact (Text.isDigit_of_numeral?_ten h).1
  | pointed h => simp

/-- Neither signs nor letters are digits. -/
theorem IsNumeric.ne {c : Char} (h : IsNumeric c) : c ≠ '-' ∧ c ≠ '+' ∧ c ≠ 'e' ∧ c ≠ 'E' ∧ c ≠ 'i' := by
  refine ⟨?_, ?_, ?_, ?_, ?_⟩ <;> rintro rfl <;> revert h <;> unfold IsNumeric Kind.IsDigit <;> decide

theorem IsNumeric.toLower {c : Char} (h : IsNumeric c) : c.toLower = c := by
  refine dif_neg ?_
  rintro ⟨hge, hle⟩
  have hge : 65 ≤ c.toNat := UInt32.le_iff_toNat_le.1 hge
  have hle : c.toNat ≤ 90 := UInt32.le_iff_toNat_le.1 hle
  have hall : ∀ k : Fin 26, Regex.CharSet.digit.contains (65 + k) = false := by decide
  rcases h with h | rfl
  · have hc := hall ⟨c.toNat - 65, by omega⟩
    rw [show 65 + (c.toNat - 65) = c.toNat by omega, h] at hc
    cases hc
  · revert hge
    decide

theorem Digits.isNumeric (h : Digits cs n places) : ∀ c ∈ cs, IsNumeric c := by
  cases h with
  | whole h => exact fun c hc => .inl (Kind.isDigit_of_isDigit ((Text.isDigit_of_numeral?_ten h).2 c hc))
  | pointed h =>
    obtain ⟨hwhole, hplaces⟩ := List.forall_mem_append.1 (Text.isDigit_of_numeral?_ten h).2
    rw [List.forall_mem_append, List.forall_mem_cons]
    exact ⟨fun c hc => .inl (Kind.isDigit_of_isDigit (hwhole c hc)), .inr rfl,
      fun c hc => .inl (Kind.isDigit_of_isDigit (hplaces c hc))⟩

/-! ## Reading -/

/-- Digits around at most one point are read as they stand. -/
theorem unsignedDecimal?_of_digits (h : Digits cs n places) :
    unsignedDecimal? negative cs = some (.ofPlaces negative n places) := by
  cases h with
  | whole h =>
    have hall := (Text.isDigit_of_numeral?_ten h).2
    obtain ⟨htake, hdrop⟩ := Text.takeWhile_run (r := []) hall (by simp)
    rw [List.append_nil] at htake hdrop
    simp [unsignedDecimal?, htake, hdrop, h, exponentPart?, DecimalText.ofPlaces]
  | @pointed whole places n h =>
    obtain ⟨hwhole, hplaces⟩ := List.forall_mem_append.1 (Text.isDigit_of_numeral?_ten h).2
    obtain ⟨htake, hdrop⟩ := Text.takeWhile_run (r := '.' :: places) hwhole (by simp)
    obtain ⟨htake', hdrop'⟩ := Text.takeWhile_run (r := []) hplaces (by simp)
    rw [List.append_nil] at htake' hdrop'
    simp [unsignedDecimal?, htake, hdrop, htake', hdrop', h, exponentPart?, DecimalText.ofPlaces]

/-- Without a mark of an exponent, nothing else is read. -/
theorem exists_digits_of_unsignedDecimal? (hmark : ∀ c ∈ cs, c ≠ 'e' ∧ c ≠ 'E')
    (h : unsignedDecimal? negative cs = some d) :
    ∃ n places, Digits cs n places ∧ d = .ofPlaces negative n places := by
  have hexponent : ∀ {rest e}, (∀ c ∈ rest, c ∈ cs) → exponentPart? rest = some e → rest = [] ∧ e = 0 := by
    intro rest e hrest he
    cases rest with
    | nil => exact ⟨rfl, (Option.some.inj he).symm⟩
    | cons c rest =>
      obtain ⟨hlower, hupper⟩ := hmark c (hrest c (List.mem_cons_self ..))
      simp [exponentPart?, hlower, hupper] at he
  have hcs := List.takeWhile_append_dropWhile (p := Char.isDigit) (l := cs)
  unfold unsignedDecimal? at h
  generalize cs.takeWhile Char.isDigit = whole at hcs h
  generalize cs.dropWhile Char.isDigit = rest at hcs h
  have hmem : ∀ c ∈ rest, c ∈ cs := fun c hc => hcs ▸ List.mem_append_right _ hc
  cases rest with
  | nil =>
    dsimp only at h
    split at h
    · next n e hn he =>
      obtain ⟨-, rfl⟩ := hexponent hmem he
      rw [List.append_nil] at hn hcs
      subst hcs
      cases h
      exact ⟨n, 0, .whole hn, by simp [DecimalText.ofPlaces]⟩
    · cases h
  | cons c r =>
    by_cases hc : c = '.'
    · subst hc
      have hr := List.takeWhile_append_dropWhile (p := Char.isDigit) (l := r)
      simp only at h
      split at h
      · next n e hn he =>
        obtain ⟨hnil, rfl⟩ := hexponent
          (fun c hc => hmem c (List.mem_cons_of_mem _ (hr ▸ List.mem_append_right _ hc))) he
        rw [hnil, List.append_nil] at hr
        rw [hr] at hn h
        subst hcs
        cases h
        exact ⟨n, r.length, .pointed hn, by simp [DecimalText.ofPlaces]⟩
      · cases h
    · -- Only beside this fact is the case of a point passed over.
      have hpoint : ∀ r', c :: r = '.' :: r' → False := by simp [hc]
      simp only at h
      split at h
      · next n e hn he => cases (hexponent hmem he).1
      · cases h

end Number

open Number

namespace Text

/-- The exact value that a text writes in digits, perhaps behind a minus. -/
def Writes (s : String) (q : ℚ) : Prop :=
  ∃ negative cs n places, s.toList = (if negative = true then '-' :: cs else cs) ∧ Digits cs n places ∧
    q = (if negative = true then -1 else 1) * (n / 10 ^ places)

end Text

namespace Extended

variable {s : String} {cs : List Char} {negative : Bool}

theorem splitSign_of_isNumeric (hne : cs ≠ []) (h : ∀ c ∈ cs, IsNumeric c) :
    splitSign (if negative = true then '-' :: cs else cs) = (negative, cs) := by
  cases negative with
  | true => rfl
  | false =>
    obtain ⟨c, cs, rfl⟩ := List.exists_cons_of_ne_nil hne
    obtain ⟨hminus, hplus, -⟩ := (h c (List.mem_cons_self ..)).ne
    -- The last case is the one that is left.
    have hminus : ∀ r, c :: cs = '-' :: r → False := by simp [hminus]
    have hplus : ∀ r, c :: cs = '+' :: r → False := by simp [hplus]
    simp [splitSign]

/-- Digits and points are not the letters of a word. -/
theorem ofText?_of_isNumeric (hs : s.toList = if negative = true then '-' :: cs else cs) (hne : cs ≠ [])
    (h : ∀ c ∈ cs, IsNumeric c) :
    ofText? s = (unsignedDecimal? negative cs).map DecimalText.toExtended := by
  have hlower : cs.map Char.toLower = cs :=
    (List.map_congr_left fun c hc => (h c hc).toLower).trans (List.map_id cs)
  have hword : ∀ word : String, 'i' ∈ word.toList → String.ofList cs ≠ word := by
    rintro word hi rfl
    rw [String.toList_ofList] at hi
    exact (h _ hi).ne.2.2.2.2 rfl
  rw [ofText?, hs, splitSign_of_isNumeric hne h]
  simp [hlower, hword "inf" (by decide), hword "infinity" (by decide)]

theorem ofText?_of_digits {n places : Nat} (hs : s.toList = if negative = true then '-' :: cs else cs)
    (h : Digits cs n places) : ofText? s = some (ofDecimal negative n (-places)) := by
  rw [ofText?_of_isNumeric hs h.ne_nil h.isNumeric, unsignedDecimal?_of_digits h]
  rfl

theorem ofText?_numeral (n : Nat) : ofText? (String.ofList (Text.decimal n)) = some (ofDecimal false n 0) :=
  @ofText?_of_digits _ _ false _ 0 String.toList_ofList (.whole (Text.numeral?_decimal n))

/-- **A text that writes a value reads as a finite number exactly when the magnitude is below the limit**,
and as an infinite one when it is not. -/
theorem finite_ofText?_iff {q : ℚ} (h : Text.Writes s q) :
    ∃ x, ofText? s = some x ∧ (x.finite?.isSome = true ↔ |q| < Binary64.limit) := by
  obtain ⟨negative, cs, n, places, hs, hdigits, rfl⟩ := h
  refine ⟨_, ofText?_of_digits hs hdigits, ?_⟩
  have hpow : (0 : ℚ) < 10 ^ places := by positivity
  have habs : |(if negative = true then -1 else 1) * ((n : ℚ) / 10 ^ places)| = n / 10 ^ places := by
    have hnonneg : (0 : ℚ) ≤ n / 10 ^ places := by positivity
    cases negative <;> simp [abs_of_nonneg hnonneg]
  rw [habs, div_lt_iff₀ hpow, ofDecimal_finite_iff]
  exact_mod_cast Iff.rfl

end Extended

namespace Text

open Kind

theorem exists_isNumeric_of_form {count : Nat → Prop} {text : List Char} (h : DecimalForm count text) :
    ∃ negative cs, text = (if negative = true then '-' :: cs else cs) ∧ cs ≠ [] ∧ ∀ c ∈ cs, IsNumeric c := by
  have hbody : ∀ {whole fraction}, WholeForm whole → FractionForm count fraction →
      whole ++ fraction ≠ [] ∧ ∀ c ∈ whole ++ fraction, IsNumeric c := by
    intro whole fraction hw hf
    refine ⟨by cases hw <;> simp, List.forall_mem_append.2 ⟨fun c hc => .inl (hw.isDigit c hc), ?_⟩⟩
    cases hf with
    | none => simp
    | point _ digits => exact List.forall_mem_cons.2 ⟨.inr rfl, fun c hc => .inl (digits c hc)⟩
  cases h with
  | unsigned hw hf => exact ⟨false, _, rfl, hbody hw hf⟩
  | signed hw hf => exact ⟨true, _, rfl, hbody hw hf⟩

theorem fits_numeral (n : Nat) : Kind.decimal.fits (String.ofList (decimal n)) = true := by
  rw [fits_decimal_iff, String.toList_ofList, ← List.append_nil (decimal n)]
  refine .unsigned (Decimal.wholeForm_of_digits (decimal_ne_nil n) (fun _ => isDigit_of_mem_decimal) ?_) .none
  by_cases hn : n = 0
  · exact .inl (by rw [hn, decimal_zero]; rfl)
  · exact .inr (head?_decimal hn)

/-- A text of a decimal's form that reads as a number writes a value. -/
theorem exists_writes {s : String} (hf : Kind.decimal.fits s = true) {x : Extended}
    (h : Extended.ofText? s = some x) : ∃ q, Writes s q := by
  obtain ⟨negative, cs, hs, hne, hcs⟩ := exists_isNumeric_of_form (fits_decimal_iff.1 hf)
  rw [Extended.ofText?_of_isNumeric hs hne hcs] at h
  obtain ⟨d, hd, -⟩ := Option.map_eq_some_iff.1 h
  have hmark : ∀ c ∈ cs, c ≠ 'e' ∧ c ≠ 'E' := fun c hc => ⟨(hcs c hc).ne.2.2.1, (hcs c hc).ne.2.2.2.1⟩
  obtain ⟨n, places, hdigits, -⟩ := exists_digits_of_unsignedDecimal? hmark hd
  exact ⟨_, negative, cs, n, places, hs, hdigits, rfl⟩

end Text

end RecordSchema

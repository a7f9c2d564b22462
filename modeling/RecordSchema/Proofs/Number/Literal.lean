/-
Integer literals as a grammar: what a text is made of that is read as an
integer, and which integer it denotes.

The reader takes exactly the literals whose magnitude is below `2^63`, and makes
of each the integer that it denotes (`intLiteral?_eq_some_iff`).
-/
import Mathlib.Data.List.Forall2
import Mathlib.Data.Nat.Digits.Defs
import RecordSchema.Proofs.Number.Numeral

namespace RecordSchema

namespace Text

/-- A character is the digit `d` of a base up to sixteen, where letters may be of either case. -/
def IsDigitOf (base : Nat) (c : Char) (d : Nat) : Prop :=
  d < base ∧ ("0123456789abcdef".toList[d]? = some c ∨ "0123456789ABCDEF".toList[d]? = some c)

/-- Digits of a base, at least one, and the number that they denote in it. -/
def Denotes (base : Nat) (cs : List Char) (n : Nat) : Prop :=
  cs ≠ [] ∧ ∃ ds, List.Forall₂ (IsDigitOf base) cs ds ∧ n = Nat.ofDigits base ds.reverse

variable {base n d : Nat} {c : Char} {cs : List Char} {ds : List Nat}

/-- A character is found in a table at its place in a run of `k` characters from the code point `lo`, which stand in
the table from the place `start` on. -/
theorem getElem?_run {table : List Char} (start lo k : Nat)
    (hrun : ∀ i : Fin k, table[i.val + start]? = some (Char.ofNat (lo + i))) (hlo : lo ≤ c.toNat)
    (hhi : c.toNat < lo + k) : table[c.toNat - lo + start]? = some c := by
  have hplace := hrun ⟨c.toNat - lo, by omega⟩
  rwa [Nat.add_sub_cancel' hlo, Char.ofNat_toNat] at hplace

theorem hexDigit?_eq_some_iff : hexDigit? c = some d ↔
    "0123456789abcdef".toList[d]? = some c ∨ "0123456789ABCDEF".toList[d]? = some c := by
  constructor
  · intro h
    unfold hexDigit? at h
    simp only [Char.le_def, UInt32.le_iff_toNat_le] at h
    split at h
    · next hr =>
      cases h
      exact .inl (getElem?_run 0 48 10 (by decide) hr.1 (Nat.lt_succ_of_le hr.2))
    · split at h
      · next hr =>
        cases h
        exact .inl (getElem?_run 10 97 6 (by decide) hr.1 (Nat.lt_succ_of_le hr.2))
      · split at h
        · next hr =>
          cases h
          exact .inr (getElem?_run 10 65 6 (by decide) hr.1 (Nat.lt_succ_of_le hr.2))
        · cases h
  · have hlower : ∀ k : Fin 16, hexDigit? "0123456789abcdef".toList[k.val] = some k.val := by decide
    have hupper : ∀ k : Fin 16, hexDigit? "0123456789ABCDEF".toList[k.val] = some k.val := by decide
    simp only [List.getElem?_eq_some_iff]
    rintro (⟨h, rfl⟩ | ⟨h, rfl⟩)
    · exact hlower ⟨d, h⟩
    · exact hupper ⟨d, h⟩

theorem digit?_eq_some_iff : digit? base c = some d ↔ IsDigitOf base c d := by
  rw [digit?, Option.filter_eq_some_iff, hexDigit?_eq_some_iff, decide_eq_true_eq, and_comm, IsDigitOf]

theorem mapM_digit?_eq_some_iff : cs.mapM (digit? base) = some ds ↔ List.Forall₂ (IsDigitOf base) cs ds := by
  induction cs generalizing ds with
  | nil => simp [eq_comm]
  | cons c cs ih =>
    simp only [List.mapM_cons, Option.bind_eq_bind, Option.bind_eq_some_iff, digit?_eq_some_iff, ih,
      Option.pure_def, Option.some.injEq, List.forall₂_cons_left_iff]
    constructor
    · rintro ⟨d, hd, ds, hds, rfl⟩
      exact ⟨d, ds, hd, hds, rfl⟩
    · rintro ⟨d, ds, hd, hds, rfl⟩
      exact ⟨d, hd, ds, hds, rfl⟩

theorem ofDigits_eq (base : Nat) (ds : List Nat) : ofDigits base 0 ds = Nat.ofDigits base ds.reverse := by
  simp [ofDigits, Nat.ofDigits_eq_foldr, List.foldr_reverse, Nat.add_comm, Nat.mul_comm]

/-- What is read as a number is what denotes it. -/
theorem numeral?_eq_some_iff : numeral? base cs = some n ↔ Denotes base cs n := by
  unfold numeral?
  split
  · next h => simp [Denotes, List.isEmpty_iff.1 h]
  · next h =>
    simp only [Option.map_eq_some_iff, mapM_digit?_eq_some_iff, ofDigits_eq, Denotes, @eq_comm _ n]
    simp [List.isEmpty_iff.not.1 h]

theorem denotes_decimal (n : Nat) : Denotes 10 (decimal n) n := numeral?_eq_some_iff.1 (numeral?_decimal n)

theorem exists_forall₂_isDigitOf_iff :
    (∃ ds, List.Forall₂ (IsDigitOf base) cs ds) ↔ ∀ c ∈ cs, ∃ d, IsDigitOf base c d := by
  induction cs with
  | nil => simp
  | cons c cs ih =>
    rw [List.forall_mem_cons, ← ih]
    simp only [List.forall₂_cons_left_iff]
    constructor
    · rintro ⟨_, d, ds, hd, hds, rfl⟩
      exact ⟨⟨d, hd⟩, ds, hds⟩
    · rintro ⟨⟨d, hd⟩, ds, hds⟩
      exact ⟨d :: ds, d, ds, hd, hds, rfl⟩

theorem exists_denotes_iff :
    (∃ n, Denotes base cs n) ↔ cs ≠ [] ∧ ∀ c ∈ cs, ∃ d, IsDigitOf base c d := by
  rw [← exists_forall₂_isDigitOf_iff]
  constructor
  · rintro ⟨_, hne, ds, hds, -⟩
    exact ⟨hne, ds, hds⟩
  · rintro ⟨hne, ds, hds⟩
    exact ⟨_, hne, ds, hds, rfl⟩

/-- The first of the digits. -/
theorem Denotes.exists_cons (h : Denotes base cs n) : ∃ c ds d, cs = c :: ds ∧ IsDigitOf base c d := by
  obtain ⟨hne, ds, hds, -⟩ := h
  cases hds with
  | nil => exact absurd rfl hne
  | cons hd _ => exact ⟨_, _, _, rfl, hd⟩

end Text

/-! ## Literals -/

namespace Number

open Text (Denotes IsDigitOf)

/-- A literal without a sign, in one of three bases, and the number it denotes. -/
inductive Unsigned : List Char → Nat → Prop where
  | hex {x ds n} (mark : x = 'x' ∨ x = 'X') (digits : Denotes 16 ds n) : Unsigned ('0' :: x :: ds) n
  | octal {ds n} (digits : Denotes 8 ds n) : Unsigned ('0' :: ds) n
  | zero : Unsigned ['0'] 0
  | decimal {ds n} (lead : ds.head? ≠ some '0') (digits : Denotes 10 ds n) : Unsigned ds n

/-- A literal in one of three bases, perhaps after a sign, and the integer it denotes. -/
inductive Literal : List Char → Int → Prop where
  | unsigned {cs n} (h : Unsigned cs n) : Literal cs n
  | plus {cs n} (h : Unsigned cs n) : Literal ('+' :: cs) n
  | minus {cs n} (h : Unsigned cs n) : Literal ('-' :: cs) (-n)

variable {base n : Nat} {c : Char} {cs ds : List Char}

theorem splitBase_of_head? (h : cs.head? ≠ some '0') : splitBase cs = (10, cs) := by
  unfold splitBase
  split
  · simp at h
  · simp at h
  · simp at h
  · rfl

theorem splitBase_octal {d : Nat} (h : IsDigitOf 8 c d) : splitBase ('0' :: c :: ds) = (8, c :: ds) := by
  rw [← Text.digit?_eq_some_iff] at h
  unfold splitBase
  split
  · next heq =>
    cases heq
    cases h
  · next heq =>
    cases heq
    cases h
  · next heq => cases heq; rfl
  · next hnone => exact absurd rfl (hnone c ds)

/-- The reader splits a literal into its base and its digits. -/
theorem numeral?_splitBase_iff :
    Text.numeral? (splitBase cs).1 (splitBase cs).2 = some n ↔ Unsigned cs n := by
  constructor
  · intro h
    unfold splitBase at h
    split at h
    · exact .hex (.inl rfl) (Text.numeral?_eq_some_iff.1 h)
    · exact .hex (.inr rfl) (Text.numeral?_eq_some_iff.1 h)
    · exact .octal (Text.numeral?_eq_some_iff.1 h)
    · next hone =>
      cases cs with
      | nil => cases h
      | cons c ds =>
        by_cases hc : c = '0'
        · -- A zero with more behind it has been read as another base.
          subst hc
          cases ds with
          | nil => cases h; exact .zero
          | cons d ds => exact absurd rfl (hone d ds)
        · exact .decimal (by simpa using hc) (Text.numeral?_eq_some_iff.1 h)
  · intro h
    cases h with
    | hex mark digits =>
      rcases mark with rfl | rfl
      · exact Text.numeral?_eq_some_iff.2 digits
      · exact Text.numeral?_eq_some_iff.2 digits
    | octal digits =>
      obtain ⟨c, ds, d, rfl, hd⟩ := digits.exists_cons
      rw [splitBase_octal hd]
      exact Text.numeral?_eq_some_iff.2 digits
    | zero => rfl
    | decimal lead digits =>
      rw [splitBase_of_head? lead]
      exact Text.numeral?_eq_some_iff.2 digits

theorem Unsigned.head? (h : Unsigned cs n) : ∃ c ds d, cs = c :: ds ∧ IsDigitOf 10 c d := by
  have hzero : IsDigitOf 10 '0' 0 := ⟨by decide, .inl rfl⟩
  cases h with
  | hex | octal | zero => exact ⟨_, _, _, rfl, hzero⟩
  | decimal lead digits => exact digits.exists_cons

theorem Unsigned.denotes (h : Unsigned cs n) (hlead : cs.head? ≠ some '0') : Denotes 10 cs n := by
  cases h with
  | hex | octal | zero => exact absurd rfl hlead
  | decimal _ digits => exact digits

theorem splitSign_of_head? (hminus : cs.head? ≠ some '-') (hplus : cs.head? ≠ some '+') :
    splitSign cs = (false, cs) := by
  unfold splitSign
  split
  · exact absurd rfl hminus
  · exact absurd rfl hplus
  · rfl

theorem splitSign_of_unsigned (h : Unsigned cs n) : splitSign cs = (false, cs) := by
  obtain ⟨c, ds, d, rfl, hd⟩ := h.head?
  rw [← Text.digit?_eq_some_iff] at hd
  refine splitSign_of_head? ?_ ?_
  · rintro ⟨⟩
    cases hd
  · rintro ⟨⟩
    cases hd

theorem literal_iff {z : Int} : Literal cs z ↔
    ∃ n, Unsigned (splitSign cs).2 n ∧ z = if (splitSign cs).1 then -(n : Int) else n := by
  constructor
  · intro h
    cases h with
    | unsigned h =>
      rw [splitSign_of_unsigned h]
      exact ⟨_, h, rfl⟩
    | plus h => exact ⟨_, h, rfl⟩
    | minus h => exact ⟨_, h, rfl⟩
  · rintro ⟨n, h, rfl⟩
    unfold splitSign at h ⊢
    split at h
    · exact .minus h
    · exact .plus h
    · exact .unsigned h

/-- A literal denotes one integer. -/
theorem Literal.unique {z z' : Int} (h : Literal cs z) (h' : Literal cs z') : z = z' := by
  obtain ⟨n, hn, rfl⟩ := literal_iff.1 h
  obtain ⟨n', hn', rfl⟩ := literal_iff.1 h'
  rw [← numeral?_splitBase_iff] at hn hn'
  rw [Option.some.inj (hn.symm.trans hn')]

theorem unsigned_decimal (n : Nat) : Unsigned (Text.decimal n) n := by
  by_cases hn : n = 0
  · rw [hn, Text.decimal_zero]
    exact .zero
  · exact .decimal (Text.head?_decimal hn) (Text.denotes_decimal n)

/-- **A text is read exactly if it is a literal whose magnitude is below `2 ^ 63`**, and as the integer that the
literal denotes. -/
theorem intLiteral?_eq_some_iff {s : String} {z : Int} :
    intLiteral? s = some z ↔ Literal s.toList z ∧ z.natAbs ≤ 2 ^ 63 - 1 := by
  simp only [literal_iff, ← numeral?_splitBase_iff, intLiteral?]
  cases Text.numeral? (splitBase (splitSign s.toList).2).1 (splitBase (splitSign s.toList).2).2 with
  | none => simp
  | some n =>
    have habs : (if (splitSign s.toList).1 = true then -(n : Int) else n).natAbs = n := by split <;> simp
    simp only [Option.some.injEq, exists_eq_left', Option.ite_none_right_eq_some]
    constructor
    · rintro ⟨hlt, rfl⟩
      exact ⟨rfl, by rw [habs]; exact Nat.le_sub_one_of_lt hlt⟩
    · rintro ⟨rfl, hle⟩
      rw [habs] at hle
      exact ⟨Nat.lt_of_le_sub_one (by decide) hle, rfl⟩

end Number

end RecordSchema

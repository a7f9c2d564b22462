/-
Decimal numerals: what is written reads back (`numeral?_decimal`), also with
zeros in front, and nothing but zero is written with a zero in front
(`head?_decimal`). In a longer text a numeral is found as a run of digits
(`takeWhile_run`).
-/
import RecordSchema.Number.IntLiteral

namespace RecordSchema

namespace Text

theorem isDigit_iff {c : Char} : c.isDigit = true ↔ 48 ≤ c.toNat ∧ c.toNat ≤ 57 := by
  simp only [Char.isDigit, ge_iff_le, Bool.and_eq_true, decide_eq_true_eq, UInt32.le_iff_toNat_le]
  exact Iff.rfl

theorem digit?_ten {c : Char} (h : c.isDigit = true) : digit? 10 c = some (c.toNat - 48) := by
  have hc := isDigit_iff.1 h
  have hr : '0' ≤ c ∧ c ≤ '9' := by
    simp only [Char.le_def, UInt32.le_iff_toNat_le]
    exact hc
  simp [digit?, hexDigit?, hr, Option.filter]
  omega

theorem mapM_digit?_ten {cs : List Char} (h : ∀ c ∈ cs, c.isDigit = true) :
    cs.mapM (digit? 10) = some (cs.map fun c => c.toNat - 48) := by
  induction cs with
  | nil => rfl
  | cons c cs ih =>
    rw [List.forall_mem_cons] at h
    simp [List.mapM_cons, digit?_ten h.1, ih h.2]

theorem numeral?_ten {cs : List Char} (hne : cs ≠ []) (h : ∀ c ∈ cs, c.isDigit = true) :
    numeral? 10 cs = some (Nat.ofDigitChars 10 cs 0) := by
  simp [numeral?, hne, mapM_digit?_ten h, ofDigits, Nat.ofDigitChars, List.foldl_map, Nat.mul_comm]

theorem isDigit_of_digit?_ten {c : Char} {d : Nat} (h : digit? 10 c = some d) : c.isDigit = true := by
  obtain ⟨h, hlt⟩ := Option.filter_eq_some_iff.1 h
  have hlt : d < 10 := by simpa using hlt
  rw [isDigit_iff]
  unfold hexDigit? at h
  split at h
  · next hr =>
    simp only [Char.le_def, UInt32.le_iff_toNat_le] at hr
    exact hr
  · split at h
    · cases h
      omega
    · split at h
      · cases h
        omega
      · cases h

theorem isDigit_of_mapM_digit?_ten {cs : List Char} {ds : List Nat} (h : cs.mapM (digit? 10) = some ds) :
    ∀ c ∈ cs, c.isDigit = true := by
  induction cs generalizing ds with
  | nil => simp
  | cons c cs ih =>
    simp only [List.mapM_cons, Option.bind_eq_bind, Option.bind_eq_some_iff] at h
    obtain ⟨d, hd, ds, hds, -⟩ := h
    exact List.forall_mem_cons.2 ⟨isDigit_of_digit?_ten hd, ih hds⟩

/-- What reads as a number is digits, at least one. -/
theorem isDigit_of_numeral?_ten {cs : List Char} {n : Nat} (h : numeral? 10 cs = some n) :
    cs ≠ [] ∧ ∀ c ∈ cs, c.isDigit = true := by
  unfold numeral? at h
  split at h
  · cases h
  · next hne =>
    obtain ⟨ds, hds, -⟩ := Option.map_eq_some_iff.1 h
    exact ⟨by simpa using hne, isDigit_of_mapM_digit?_ten hds⟩

/-- A further digit makes no number less. -/
theorem le_ofDigits {base : Nat} (hb : 0 < base) (n : Nat) (ds : List Nat) : n ≤ ofDigits base n ds := by
  induction ds generalizing n with
  | nil => exact Nat.le_refl n
  | cons d ds ih =>
    calc n ≤ n * base := Nat.le_mul_of_pos_right n hb
      _ ≤ n * base + d := Nat.le_add_right _ d
      _ ≤ ofDigits base n (d :: ds) := ih _

/-! ## Written numbers -/

theorem isDigit_of_mem_decimal {c : Char} {n : Nat} (h : c ∈ decimal n) : c.isDigit = true :=
  Nat.isDigit_of_mem_toDigits (by decide) (by decide) h

theorem decimal_ne_nil (n : Nat) : decimal n ≠ [] := Nat.toDigits_ne_nil

theorem decimal_zero : decimal 0 = ['0'] := Nat.toDigits_zero 10

theorem numeral?_decimal (n : Nat) : numeral? 10 (decimal n) = some n := by
  rw [numeral?_ten (decimal_ne_nil n) fun _ => isDigit_of_mem_decimal, decimal,
    Nat.ofDigitChars_ten_toDigits]

theorem numeral?_padded (k n : Nat) : numeral? 10 (List.replicate k '0' ++ decimal n) = some n := by
  rw [numeral?_ten (by simp [decimal_ne_nil]), Nat.ofDigitChars_append]
  · simp [decimal]
  · intro c hc
    rcases List.mem_append.1 hc with hc | hc
    · obtain ⟨-, rfl⟩ := List.mem_replicate.1 hc; rfl
    · exact isDigit_of_mem_decimal hc

/-- Nothing but zero has a zero in front. -/
theorem head?_decimal {n : Nat} (h : n ≠ 0) : (decimal n).head? ≠ some '0' := by
  rw [decimal]
  induction n using Nat.strongRecOn with
  | ind n ih =>
    rw [Nat.toDigits_eq_if (by decide)]
    split
    · next hlt =>
      simp only [List.head?_cons, ne_eq, Option.some.injEq]
      intro hd
      have := Nat.toNat_digitChar_of_lt_ten hlt
      rw [hd] at this
      simp at this
      omega
    · next hge =>
      obtain ⟨c, cs, hcs⟩ := List.exists_cons_of_ne_nil (Nat.toDigits_ne_nil (n := n / 10) (b := 10))
      have := ih (n / 10) (by omega) (by omega)
      rw [hcs] at this ⊢
      exact this

/-! ## Runs -/

/-- Where a run of characters ends can be told from what follows it. -/
theorem takeWhile_run {p : Char → Bool} {run r : List Char} (hrun : ∀ c ∈ run, p c = true)
    (hr : ∀ c, r.head? = some c → p c = false) :
    (run ++ r).takeWhile p = run ∧ (run ++ r).dropWhile p = r := by
  rw [List.takeWhile_append_of_pos hrun, List.dropWhile_append_of_pos hrun]
  cases r with
  | nil => simp
  | cons c r => simp [hr c rfl]

/-! ## Few digits -/

theorem decimal_one {a : Nat} (ha : a ≤ 9) : decimal a = [a.digitChar] :=
  Nat.toDigits_of_lt_base (by omega)

/-- A number of two digits is written with the two. -/
theorem decimal_two {a b : Nat} (ha : 0 < a) (ha' : a ≤ 9) (hb : b ≤ 9) :
    decimal (10 * a + b) = [a.digitChar, b.digitChar] := by
  rw [decimal, ← Nat.toDigits_append_toDigits (by decide) ha (by omega),
    Nat.toDigits_of_lt_base (by omega), Nat.toDigits_of_lt_base (by omega)]
  rfl

/-- A number below a hundred is written with one digit or two. -/
theorem decimal_of_lt_hundred {n : Nat} (h : n < 100) :
    (n ≤ 9 ∧ decimal n = [n.digitChar]) ∨
      ∃ a b, 1 ≤ a ∧ a ≤ 9 ∧ b ≤ 9 ∧ decimal n = [a.digitChar, b.digitChar] := by
  by_cases hn : n ≤ 9
  · exact .inl ⟨hn, decimal_one hn⟩
  · have htwo := @decimal_two (n / 10) (n % 10) (by omega) (by omega) (by omega)
    rw [Nat.div_add_mod] at htwo
    exact .inr ⟨_, _, by omega, by omega, by omega, htwo⟩

/-- A number of three digits is written with the three. -/
theorem decimal_three {a b c : Nat} (ha : 0 < a) (ha' : a ≤ 9) (hb : b ≤ 9) (hc : c ≤ 9) :
    decimal (10 * (10 * a + b) + c) = [a.digitChar, b.digitChar, c.digitChar] := by
  rw [decimal, ← Nat.toDigits_append_toDigits (by decide) (by omega) (by omega), ← decimal, decimal_two ha ha' hb,
    Nat.toDigits_of_lt_base (by omega)]
  rfl

end Text

end RecordSchema

/-
The texts of integers: what the pattern of a kind and the reading of literals
take together.

Neither contains the other. The pattern has digits of any script behind the
first digit of a decimal, and the reader a sign in front of any base. What both
take is a grammar of its own (`Kind.integerForm_iff`); among the texts of ASCII
characters it is the pattern's (`IntForm.exists_integerForm`).
-/
import RecordSchema.Proofs.Kind.Form
import RecordSchema.Proofs.Number.Literal

namespace RecordSchema

namespace Text

open Regex (CharSet)

variable {base d : Nat} {c : Char}

theorem toNat_lt_of_isDigitOf (h : IsDigitOf base c d) : c.toNat < 128 := by
  have hlower : ∀ c ∈ "0123456789abcdef".toList, c.toNat < 128 := by simp
  have hupper : ∀ c ∈ "0123456789ABCDEF".toList, c.toNat < 128 := by simp
  rcases h.2 with h | h
  · exact hlower c (List.mem_of_getElem? h)
  · exact hupper c (List.mem_of_getElem? h)

/-- The digits of a base are the ASCII characters of a set, if the two agree on all of ASCII. -/
theorem exists_isDigitOf_iff (set : CharSet)
    (hset : ∀ k : Fin 128, (digit? base (Char.ofNat k)).isSome = set.contains k) :
    (∃ d, IsDigitOf base c d) ↔ c.toNat < 128 ∧ set.contains c.toNat = true := by
  have hc : c.toNat < 128 → ((∃ d, IsDigitOf base c d) ↔ set.contains c.toNat = true) := by
    intro hlt
    have hsame := hset ⟨c.toNat, hlt⟩
    rw [Char.ofNat_toNat] at hsame
    rw [← hsame, Option.isSome_iff_exists]
    simp only [digit?_eq_some_iff]
  constructor
  · rintro ⟨d, hd⟩
    have hlt := toNat_lt_of_isDigitOf hd
    exact ⟨hlt, (hc hlt).1 ⟨d, hd⟩⟩
  · rintro ⟨hlt, hcontains⟩
    exact (hc hlt).2 hcontains

theorem exists_isDigitOf_ten : (∃ d, IsDigitOf 10 c d) ↔ c.toNat < 128 ∧ Kind.IsDigit c :=
  exists_isDigitOf_iff .digit (by decide +kernel)

theorem exists_isDigitOf_sixteen :
    (∃ d, IsDigitOf 16 c d) ↔ c.toNat < 128 ∧ CharSet.hexDigit.contains c.toNat = true :=
  exists_isDigitOf_iff .hexDigit (by decide)

theorem exists_isDigitOf_eight : (∃ d, IsDigitOf 8 c d) ↔ c.toNat < 128 ∧ Kind.InRange '0' '7' c := by
  rw [exists_isDigitOf_iff (.between '0' '7') (by decide), Regex.contains_between, Kind.InRange]

/-- A decimal digit but zero. -/
theorem inRange_of_isDigitOf_ten (h : IsDigitOf 10 c d) (hc : c ≠ '0') : Kind.InRange '1' '9' c := by
  obtain ⟨-, hcontains⟩ := (exists_isDigitOf_iff .asciiDigit (by decide)).1 ⟨d, h⟩
  obtain ⟨hlo, hhi⟩ := Regex.contains_between.1 hcontains
  have hne : c.toNat ≠ 48 := fun heq => hc (Char.toNat_inj.1 heq)
  change 48 ≤ c.toNat at hlo
  exact ⟨show 49 ≤ c.toNat by omega, hhi⟩

end Text

namespace Kind

open Number (Literal Unsigned)
open Text (Denotes)

/-- A text that denotes an integer, in one of three bases, where only a decimal other than zero has a sign. -/
inductive IntegerForm : List Char → Int → Prop where
  | unsigned {cs n} (h : Unsigned cs n) : IntegerForm cs n
  | plus {ds n} (lead : ds.head? ≠ some '0') (digits : Denotes 10 ds n) : IntegerForm ('+' :: ds) n
  | minus {ds n} (lead : ds.head? ≠ some '0') (digits : Denotes 10 ds n) : IntegerForm ('-' :: ds) (-n)

variable {n : Nat} {z : Int} {c : Char} {cs ds : List Char}

/-- The digits of a decimal without a leading zero, in the terms of the pattern. -/
theorem exists_lead (lead : ds.head? ≠ some '0') (digits : Denotes 10 ds n) :
    ∃ c cs, ds = c :: cs ∧ InRange '1' '9' c ∧ ∀ d ∈ cs, IsDigit d := by
  obtain ⟨hne, hall⟩ := Text.exists_denotes_iff.1 ⟨n, digits⟩
  cases ds with
  | nil => exact absurd rfl hne
  | cons c cs =>
    rw [List.forall_mem_cons] at hall
    obtain ⟨⟨d, hd⟩, hcs⟩ := hall
    exact ⟨c, cs, rfl, Text.inRange_of_isDigitOf_ten hd (by simpa using lead),
      fun e he => (Text.exists_isDigitOf_ten.1 (hcs e he)).2⟩

/-- A form that starts with a sign goes on with no zero. -/
theorem IntForm.head?_ne (h : IntForm (c :: cs)) (hc : c = '+' ∨ c = '-') : cs.head? ≠ some '0' := by
  generalize htext : c :: cs = text at h
  cases h with
  | zero | hex | octal =>
    cases htext
    simp at hc
  | decimal hs lead =>
    have hzero : ∀ e, InRange '1' '9' e → e ≠ '0' ∧ e ≠ '+' ∧ e ≠ '-' := by
      refine fun e he => ⟨?_, ?_, ?_⟩ <;> rintro rfl <;> exact absurd he (by unfold InRange; decide)
    rcases hs with rfl | rfl | rfl
    · cases htext
      exact absurd hc (not_or.2 (hzero c lead).2)
    · cases htext
      simpa using (hzero _ lead).1
    · cases htext
      simpa using (hzero _ lead).1

theorem IntegerForm.literal (h : IntegerForm cs z) : Literal cs z := by
  cases h with
  | unsigned h => exact .unsigned h
  | plus lead digits => exact .plus (.decimal lead digits)
  | minus lead digits => exact .minus (.decimal lead digits)

theorem IntegerForm.intForm (h : IntegerForm cs z) : IntForm cs := by
  cases h with
  | unsigned h =>
    cases h with
    | hex mark digits =>
      obtain ⟨hne, hall⟩ := Text.exists_denotes_iff.1 ⟨_, digits⟩
      exact .hex mark hne fun d hd => (Text.exists_isDigitOf_sixteen.1 (hall d hd)).2
    | octal digits =>
      obtain ⟨hne, hall⟩ := Text.exists_denotes_iff.1 ⟨_, digits⟩
      exact .octal hne fun d hd => (Text.exists_isDigitOf_eight.1 (hall d hd)).2
    | zero => exact .zero
    | decimal lead digits =>
      obtain ⟨c, cs, rfl, hc, hcs⟩ := exists_lead lead digits
      exact .decimal (.inl rfl) hc hcs
  | plus lead digits =>
    obtain ⟨c, cs, rfl, hc, hcs⟩ := exists_lead lead digits
    exact .decimal (.inr (.inl rfl)) hc hcs
  | minus lead digits =>
    obtain ⟨c, cs, rfl, hc, hcs⟩ := exists_lead lead digits
    exact .decimal (.inr (.inr rfl)) hc hcs

/-- What has the form and is a literal as well. -/
theorem integerForm_iff : IntegerForm cs z ↔ IntForm cs ∧ Literal cs z := by
  constructor
  · exact fun h => ⟨h.intForm, h.literal⟩
  · rintro ⟨hform, hliteral⟩
    cases hliteral with
    | unsigned h => exact .unsigned h
    | plus h =>
      have hlead := hform.head?_ne (.inl rfl)
      exact .plus hlead (h.denotes hlead)
    | minus h =>
      have hlead := hform.head?_ne (.inr rfl)
      exact .minus hlead (h.denotes hlead)

/-- A literal without the form, and a text of the form, with an Arabic digit, that is no literal. -/
example : (int.fits "-0x1" = false ∧ Number.intLiteral? "-0x1" = some (-1)) ∧
    int.fits "1\u0663" = true ∧ Number.intLiteral? "1\u0663" = none := by decide +kernel

/-- Among the texts of ASCII characters, what has the form denotes an integer. -/
theorem IntForm.exists_integerForm (h : IntForm cs) (hascii : ∀ c ∈ cs, c.toNat < 128) :
    ∃ z, IntegerForm cs z := by
  cases h with
  | zero => exact ⟨_, .unsigned .zero⟩
  | @decimal sign c ds hs lead digits =>
    rw [List.forall_mem_append, List.forall_mem_cons] at hascii
    obtain ⟨-, hc, hds⟩ := hascii
    have hhead : (c :: ds).head? ≠ some '0' := by
      have hne : c ≠ '0' := by rintro rfl; exact absurd lead (by unfold InRange; decide)
      simpa using hne
    have hdigit : IsDigit c := isDigit_of_inRange ⟨Nat.le_trans (by decide) lead.1, lead.2⟩
    obtain ⟨n, hn⟩ : ∃ n, Denotes 10 (c :: ds) n := by
      refine Text.exists_denotes_iff.2 ⟨by simp, List.forall_mem_cons.2 ⟨?_, fun d hd => ?_⟩⟩
      · exact Text.exists_isDigitOf_ten.2 ⟨hc, hdigit⟩
      · exact Text.exists_isDigitOf_ten.2 ⟨hds d hd, digits d hd⟩
    rcases hs with rfl | rfl | rfl
    · exact ⟨_, .unsigned (.decimal hhead hn)⟩
    · exact ⟨_, .plus hhead hn⟩
    · exact ⟨_, .minus hhead hn⟩
  | hex mark ne digits =>
    simp only [List.forall_mem_cons] at hascii
    obtain ⟨-, -, hds⟩ := hascii
    obtain ⟨n, hn⟩ := Text.exists_denotes_iff.2
      ⟨ne, fun d hd => Text.exists_isDigitOf_sixteen.2 ⟨hds d hd, digits d hd⟩⟩
    exact ⟨_, .unsigned (.hex mark hn)⟩
  | octal ne digits =>
    rw [List.forall_mem_cons] at hascii
    obtain ⟨n, hn⟩ := Text.exists_denotes_iff.2
      ⟨ne, fun d hd => Text.exists_isDigitOf_eight.2 ⟨hascii.2 d hd, digits d hd⟩⟩
    exact ⟨_, .unsigned (.octal hn)⟩

end Kind

end RecordSchema

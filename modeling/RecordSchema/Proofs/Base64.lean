/-
Base64 as the encoding of bytes, and the form that its pattern admits.

Three bytes make four characters; what is left over at the end is filled up
with zero bits, and an equals sign stands for each character that is missing. A text of
the form has at least one group of four without such a sign, so an encoding
has the form exactly from three bytes on (`Base64.fits_encode_iff`).
-/
import RecordSchema.Kind.Pattern
import RecordSchema.Proofs.Regex.Search

namespace RecordSchema

open Regex

namespace Base64

/-- The characters in the order of the six bits that they stand for. -/
def alphabet : List Char := "ABCDEFGHIJKLMNOPQRSTUVWXYZabcdefghijklmnopqrstuvwxyz0123456789+/".toList

/-- The character for the last six bits of a number. -/
def symbol (bits : Nat) : Char := alphabet.getD (bits % 64) 'A'

/-- The four characters for three bytes. -/
def group (a b c : UInt8) : List Char :=
  let bits := (a.toNat * 256 + b.toNat) * 256 + c.toNat
  [symbol (bits / 2 ^ 18), symbol (bits / 2 ^ 12), symbol (bits / 2 ^ 6), symbol bits]

/-- The text for bytes, padded to whole groups of four. -/
def encode : List UInt8 → List Char
  | [] => []
  | [a] => (group a 0 0).take 2 ++ ['=', '=']
  | [a, b] => (group a b 0).take 3 ++ ['=']
  | a :: b :: c :: rest => group a b c ++ encode rest

/-- The set of the alphabet's characters. -/
def symbols : CharSet := .ofList [.between 'A' 'Z', .between 'a' 'z', .asciiDigit, .ofChars ['+', '/']]

def IsSymbol (c : Char) : Prop := symbols.contains c.toNat = true

/-- Nothing, or a group of four that ends in padding. -/
inductive Padded : List Char → Prop where
  | none : Padded []
  | two {cs} (length : cs.length = 2) (symbols : ∀ c ∈ cs, IsSymbol c) : Padded (cs ++ ['=', '='])
  | one {cs} (length : cs.length = 3) (symbols : ∀ c ∈ cs, IsSymbol c) : Padded (cs ++ ['='])

/-- Groups of four, at least one, and perhaps one more that is padded. -/
inductive Form : List Char → Prop where
  | mk {groups rest} (ne : groups ≠ []) (fours : 4 ∣ groups.length) (symbols : ∀ c ∈ groups, IsSymbol c)
      (padded : Padded rest) : Form (groups ++ rest)

/-! ## The form -/

variable {before text after : List Char} {c : Char} {m n : Nat} {s : String}

theorem iterates_symbols_iff :
    Iterates KindPattern.base64Char n before text after ↔ text.length = n ∧ ∀ c ∈ text, IsSymbol c :=
  iterates_one_iff

/-- A count of symbols, several times. -/
theorem iterates_times_symbols_iff :
    Iterates (times m KindPattern.base64Char) n before text after ↔
      text.length = m * n ∧ ∀ c ∈ text, IsSymbol c := by
  induction n generalizing before text with
  | zero =>
    rw [Iterates, Nat.mul_zero, List.length_eq_zero_iff]
    constructor
    · rintro rfl
      simp
    · exact And.left
  | succ n ih =>
    simp only [Iterates, matches_times_iff, iterates_symbols_iff, ih]
    constructor
    · rintro ⟨x, y, rfl, ⟨hx, hxs⟩, hy, hys⟩
      rw [List.length_append, List.forall_mem_append, hx, hy, Nat.mul_succ, Nat.add_comm]
      exact ⟨rfl, hxs, hys⟩
    · rintro ⟨hlength, hsymbols⟩
      have hsplit := List.take_append_drop m text
      rw [Nat.mul_succ] at hlength
      rw [← hsplit, List.forall_mem_append] at hsymbols
      refine ⟨text.take m, text.drop m, hsplit.symm, ⟨?_, hsymbols.1⟩, ?_, hsymbols.2⟩
      · rw [List.length_take]
        omega
      · rw [List.length_drop]
        omega

theorem matches_groups_iff :
    Matches (many1 (times 4 KindPattern.base64Char)) before text after ↔
      text ≠ [] ∧ 4 ∣ text.length ∧ ∀ c ∈ text, IsSymbol c := by
  simp only [many1, matches_repeat_iff, iterates_times_symbols_iff, Count.allows_atLeast_iff]
  constructor
  · rintro ⟨n, hn, hlength, hsymbols⟩
    refine ⟨?_, ⟨n, hlength⟩, hsymbols⟩
    rintro rfl
    rw [List.length_nil] at hlength
    omega
  · rintro ⟨hne, ⟨n, hlength⟩, hsymbols⟩
    have hpos := List.length_pos_iff.2 hne
    exact ⟨n, by omega, hlength, hsymbols⟩

theorem matches_padded_iff :
    Matches (optional (ofAlt [ofSeq [times 2 KindPattern.base64Char, literal "=="],
      ofSeq [times 3 KindPattern.base64Char, literal "="]])) before text after ↔ Padded text := by
  simp only [matches_optional_iff, matches_ofAlt_cons, ofAlt_singleton, matches_ofSeq_cons, ofSeq_singleton,
    matches_times_iff, iterates_symbols_iff, matches_literal_iff]
  constructor
  · rintro (rfl | ⟨x, _, rfl, ⟨hlength, hsymbols⟩, rfl⟩ | ⟨x, _, rfl, ⟨hlength, hsymbols⟩, rfl⟩)
    · exact .none
    · exact .two hlength hsymbols
    · exact .one hlength hsymbols
  · intro h
    cases h with
    | none => exact .inl rfl
    | two length symbols => exact .inr (.inl ⟨_, _, rfl, ⟨length, symbols⟩, rfl⟩)
    | one length symbols => exact .inr (.inr ⟨_, _, rfl, ⟨length, symbols⟩, rfl⟩)

theorem fits_base64_iff : Kind.base64.fits s = true ↔ Form s.toList := by
  refine (fits_iff _ _).trans ?_
  simp only [Fits, KindPattern.base64, matches_ofSeq_cons, ofSeq_singleton, matches_groups_iff, matches_padded_iff]
  generalize s.toList = cs
  constructor
  · rintro ⟨x, y, rfl, ⟨hne, hfours, hsymbols⟩, hy⟩
    exact .mk hne hfours hsymbols hy
  · intro h
    cases h with
    | mk ne fours symbols padded => exact ⟨_, _, rfl, ⟨ne, fours, symbols⟩, padded⟩

/-! ## The encoding -/

theorem isSymbol_symbol (n : Nat) : IsSymbol (symbol n) := by
  have hall : ∀ k : Fin 64, symbols.contains (alphabet.getD k 'A').toNat = true := by decide +kernel
  exact hall ⟨n % 64, Nat.mod_lt n (by decide)⟩

theorem isSymbol_of_mem_group {a b d : UInt8} (h : c ∈ group a b d) : IsSymbol c := by
  simp only [group, List.mem_cons, List.not_mem_nil, or_false] at h
  rcases h with rfl | rfl | rfl | rfl <;> exact isSymbol_symbol _

theorem length_group (a b c : UInt8) : (group a b c).length = 4 := rfl

/-- Each three bytes make a whole group, and the bytes behind them a padded one. -/
theorem exists_encode_eq (bs : List UInt8) : ∃ groups rest, encode bs = groups ++ rest ∧
    groups.length = 4 * (bs.length / 3) ∧ (∀ c ∈ groups, IsSymbol c) ∧ Padded rest := by
  induction bs using encode.induct with
  | case1 => exact ⟨[], [], rfl, rfl, by simp, .none⟩
  | case2 a =>
    have hsymbols : ∀ c ∈ (group a 0 0).take 2, IsSymbol c := fun c hc => isSymbol_of_mem_group (List.mem_of_mem_take hc)
    exact ⟨[], encode [a], rfl, by simp, by simp, .two (by simp [length_group]) hsymbols⟩
  | case3 a b =>
    have hsymbols : ∀ c ∈ (group a b 0).take 3, IsSymbol c := fun c hc => isSymbol_of_mem_group (List.mem_of_mem_take hc)
    exact ⟨[], encode [a, b], rfl, by simp, by simp, .one (by simp [length_group]) hsymbols⟩
  | case4 a b c rest ih =>
    obtain ⟨groups, padded, hrest, hlength, hsymbols, hpadded⟩ := ih
    refine ⟨group a b c ++ groups, padded, ?_, ?_, ?_, hpadded⟩
    · rw [encode, hrest, List.append_assoc]
    · rw [List.length_append, length_group, hlength]
      simp only [List.length_cons]
      omega
    · exact List.forall_mem_append.2 ⟨fun d hd => isSymbol_of_mem_group hd, hsymbols⟩

theorem Padded.eq_nil_or_mem (h : Padded text) : text = [] ∨ text.length = 4 ∧ '=' ∈ text := by
  cases h with
  | none => exact .inl rfl
  | two length | one length => simp [length]

/-- A padded group is not a whole one. -/
theorem Padded.not_form (h : Padded text) : ¬ Form text := by
  rintro @⟨groups, rest, ne, fours, symbols, -⟩
  have hleast : 4 ≤ groups.length := Nat.le_of_dvd (List.length_pos_iff.2 ne) fours
  rcases h.eq_nil_or_mem with hnil | ⟨hlength, hmem⟩
  · exact ne (List.append_eq_nil_iff.1 hnil).1
  · rw [List.length_append] at hlength
    have hrest : rest = [] := List.eq_nil_of_length_eq_zero (by omega)
    rw [hrest, List.append_nil] at hmem
    exact absurd (symbols _ hmem) (by unfold IsSymbol; decide)

/-- **The encoding of bytes has the form exactly from three bytes on.** -/
theorem fits_encode_iff (bs : List UInt8) :
    Kind.base64.fits (String.ofList (encode bs)) = true ↔ 3 ≤ bs.length := by
  obtain ⟨groups, rest, hencode, hlength, hsymbols, hpadded⟩ := exists_encode_eq bs
  rw [fits_base64_iff, String.toList_ofList, hencode]
  constructor
  · intro hform
    refine Nat.le_of_not_lt fun hfew => ?_
    have hgroups : groups = [] := List.eq_nil_of_length_eq_zero (by omega)
    rw [hgroups] at hform
    exact hpadded.not_form hform
  · intro hmany
    have hne : groups ≠ [] := List.length_pos_iff.1 (by omega)
    exact .mk hne ⟨_, hlength⟩ hsymbols hpadded

end Base64

end RecordSchema

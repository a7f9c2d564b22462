/-
Dotted addresses: four numbers between points, the first and the last of them
not zero.

A text fits the pattern of an address exactly if it is written of such numbers
without zeros in front (`Kind.fits_ip_iff`). Two texts that fit compare as the
numbers of 32 bits that they denote, which is not the order of the texts
(`Address.compare_text`).
-/
import RecordSchema.Proofs.Kind.Form
import RecordSchema.Proofs.Kind.Order

namespace RecordSchema

/-! ## Octets -/

namespace Kind

open Regex

variable {before text after : List Char}

theorem matches_digit_iff {a b : Char} (lo hi : Nat) (ha : a.toNat = 48 + lo) (hb : b.toNat = 48 + hi)
    (h : hi ≤ 9) :
    Matches (between a b) before text after ↔ ∃ k, lo ≤ k ∧ k ≤ hi ∧ text = [k.digitChar] := by
  rw [matches_between_iff, ha, hb]
  constructor
  · rintro ⟨c, rfl, hlo, hhi⟩
    have hc : (c.toNat - 48).digitChar = c := by
      rw [← Char.toNat_inj, Nat.toNat_digitChar_of_lt_ten (by omega)]
      omega
    exact ⟨c.toNat - 48, by omega, by omega, by rw [hc]⟩
  · rintro ⟨k, hlo, hhi, rfl⟩
    have hk := Nat.toNat_digitChar_of_lt_ten (n := k) (by omega)
    exact ⟨_, rfl, by omega, by omega⟩

theorem matches_anyDigit_iff :
    Matches (between '0' '9') before text after ↔ ∃ k, 0 ≤ k ∧ k ≤ 9 ∧ text = [k.digitChar] :=
  matches_digit_iff 0 9 rfl rfl (by decide)

theorem matches_leadDigit_iff :
    Matches (between '1' '9') before text after ↔ ∃ k, 1 ≤ k ∧ k ≤ 9 ∧ text = [k.digitChar] :=
  matches_digit_iff 1 9 rfl rfl (by decide)

/-- From `100` to `255`, or something else. -/
theorem matches_hundreds_iff {r : Regex} {rs : List Regex} :
    Matches (ofAlt (KindPattern.hundreds ++ r :: rs)) before text after ↔
      (∃ n, 100 ≤ n ∧ n ≤ 255 ∧ text = Text.decimal n) ∨ Matches (ofAlt (r :: rs)) before text after := by
  have h04 := fun {b t a} => @matches_digit_iff b t a '0' '4' 0 4 rfl rfl (by decide)
  have h05 := fun {b t a} => @matches_digit_iff b t a '0' '5' 0 5 rfl rfl (by decide)
  simp only [KindPattern.hundreds, List.cons_append, List.nil_append, matches_ofAlt_cons, matches_ofSeq_cons,
    ofSeq_singleton, matches_literal_iff, h04, h05, matches_anyDigit_iff, ← or_assoc]
  refine or_congr_left ⟨?_, ?_⟩
  · rintro ((⟨x, y, rfl, rfl, k, -, hk, rfl⟩ | ⟨x, y, rfl, rfl, z, w, rfl, ⟨j, -, hj, rfl⟩, k, -, hk, rfl⟩) |
      ⟨x, y, rfl, rfl, z, w, rfl, ⟨j, -, hj, rfl⟩, k, -, hk, rfl⟩)
    · have h := @Text.decimal_three 2 5 k (by decide) (by decide) (by decide) (by omega)
      exact ⟨_, by omega, by omega, h.symm⟩
    · have h := @Text.decimal_three 2 j k (by decide) (by decide) (by omega) hk
      exact ⟨_, by omega, by omega, h.symm⟩
    · have h := @Text.decimal_three 1 j k (by decide) (by decide) hj hk
      exact ⟨_, by omega, by omega, h.symm⟩
  · rintro ⟨n, hlo, hhi, rfl⟩
    obtain ⟨a, b, c, ha, ha', hb, hc, rfl⟩ : ∃ a b c, 0 < a ∧ a ≤ 2 ∧ b ≤ 9 ∧ c ≤ 9 ∧ 10 * (10 * a + b) + c = n :=
      ⟨n / 100, n / 10 % 10, n % 10, by omega, by omega, by omega, by omega, by omega⟩
    rw [Text.decimal_three ha (by omega) hb hc]
    obtain rfl | rfl : a = 1 ∨ a = 2 := by omega
    · exact .inr ⟨['1'], _, rfl, rfl, [_], [_], rfl, ⟨b, by omega, hb, rfl⟩, c, by omega, hc, rfl⟩
    · by_cases h5 : b = 5
      · subst h5
        exact .inl (.inl ⟨['2', '5'], _, rfl, rfl, c, by omega, by omega, rfl⟩)
      · exact .inl (.inr ⟨['2'], _, rfl, rfl, [_], [_], rfl, ⟨b, by omega, by omega, rfl⟩, c, by omega, hc, rfl⟩)

theorem matches_outerOctet_iff :
    Matches KindPattern.outerOctet before text after ↔ ∃ n, 1 ≤ n ∧ n ≤ 255 ∧ text = Text.decimal n := by
  simp only [KindPattern.outerOctet, matches_hundreds_iff, matches_ofAlt_cons, ofAlt_singleton, matches_ofSeq_cons,
    ofSeq_singleton, matches_anyDigit_iff,
    matches_leadDigit_iff]
  constructor
  · rintro (⟨n, hlo, hhi, rfl⟩ | ⟨x, y, rfl, ⟨j, hj, hj', rfl⟩, k, -, hk, rfl⟩ | ⟨k, hk, hk', rfl⟩)
    · exact ⟨n, by omega, hhi, rfl⟩
    · exact ⟨10 * j + k, by omega, by omega, (Text.decimal_two hj hj' hk).symm⟩
    · exact ⟨k, hk, by omega, (Text.decimal_one hk').symm⟩
  · rintro ⟨n, hlo, hhi, rfl⟩
    by_cases h100 : 100 ≤ n
    · exact .inl ⟨n, h100, hhi, rfl⟩
    · rcases Text.decimal_of_lt_hundred (n := n) (by omega) with ⟨hn, h⟩ | ⟨a, b, ha, ha', hb, h⟩
      · exact .inr (.inr ⟨n, hlo, hn, h⟩)
      · exact .inr (.inl ⟨[_], [_], h, ⟨a, ha, ha', rfl⟩, b, by omega, hb, rfl⟩)

theorem matches_innerOctet_iff :
    Matches KindPattern.innerOctet before text after ↔ ∃ n, n ≤ 255 ∧ text = Text.decimal n := by
  simp only [KindPattern.innerOctet, matches_hundreds_iff, ofAlt_singleton, matches_ofSeq_cons,
    ofSeq_singleton, matches_optional_iff, matches_anyDigit_iff,
    matches_leadDigit_iff]
  constructor
  · rintro (⟨n, -, hhi, rfl⟩ | ⟨x, y, rfl, rfl | ⟨j, hj, hj', rfl⟩, k, -, hk, rfl⟩)
    · exact ⟨n, hhi, rfl⟩
    · exact ⟨k, by omega, (Text.decimal_one hk).symm⟩
    · exact ⟨10 * j + k, by omega, (Text.decimal_two hj hj' hk).symm⟩
  · rintro ⟨n, hhi, rfl⟩
    by_cases h100 : 100 ≤ n
    · exact .inl ⟨n, h100, hhi, rfl⟩
    · rcases Text.decimal_of_lt_hundred (n := n) (by omega) with ⟨hn, h⟩ | ⟨a, b, ha, ha', hb, h⟩
      · exact .inr ⟨[], _, rfl, .inl rfl, n, by omega, hn, h⟩
      · exact .inr ⟨[_], [_], h, .inr ⟨a, ha, ha', rfl⟩, b, by omega, hb, rfl⟩

end Kind

/-! ## Addresses -/

namespace Address

/-- Four numbers of eight bits, the first and the last of them not zero. -/
structure Dotted where
  first : Nat
  second : Nat
  third : Nat
  fourth : Nat
  first_range : 1 ≤ first ∧ first ≤ 255
  second_le : second ≤ 255
  third_le : third ≤ 255
  fourth_range : 1 ≤ fourth ∧ fourth ≤ 255

namespace Dotted

def octets (a : Dotted) : List Nat := [a.first, a.second, a.third, a.fourth]

/-- The decimals of the four numbers, without zeros in front, and points between them. -/
def text (a : Dotted) : String := String.ofList (List.intercalate ['.'] (a.octets.map Text.decimal))

/-- The four numbers as one of 32 bits. -/
def number (a : Dotted) : Nat := ((a.first * 256 + a.second) * 256 + a.third) * 256 + a.fourth

theorem number_lt (a : Dotted) : a.number < 2 ^ 32 := by
  obtain ⟨first, second, third, fourth, hfirst, hsecond, hthird, hfourth⟩ := a
  simp only [number]
  omega

theorem number_inj {a b : Dotted} (h : a.number = b.number) : a = b := by
  obtain ⟨first, second, third, fourth, hfirst, hsecond, hthird, hfourth⟩ := a
  obtain ⟨first', second', third', fourth', hfirst', hsecond', hthird', hfourth'⟩ := b
  simp only [number] at h
  simp only [mk.injEq]
  omega

theorem toList_text (a : Dotted) : a.text.toList =
    Text.decimal a.first ++ ('.' :: Text.decimal a.second ++ ('.' :: Text.decimal a.third ++
      ('.' :: Text.decimal a.fourth))) := by
  simp [text, octets, List.intercalate]

end Dotted

end Address

open Regex in
/-- **The texts that fit the pattern of an address are those of dotted addresses.** -/
theorem Kind.fits_ip_iff {s : String} : Kind.ip.fits s = true ↔ ∃ a : Address.Dotted, s = a.text := by
  refine (fits_iff _ _).trans ?_
  simp only [Fits, KindPattern.ip, matches_ofSeq_cons, ofSeq_singleton, matches_outerOctet_iff, matches_times_iff,
    Iterates, matches_innerOctet_iff, matches_literal_iff]
  constructor
  · rintro ⟨-, -, hs, ⟨a, ha, ha', rfl⟩, -, -, rfl, ⟨-, -, rfl, ⟨-, -, rfl, rfl, b, hb, rfl⟩,
      -, -, rfl, ⟨-, -, rfl, rfl, c, hc, rfl⟩, rfl⟩, -, -, rfl, rfl, d, hd, hd', rfl⟩
    refine ⟨⟨a, b, c, d, ⟨ha, ha'⟩, hb, hc, hd, hd'⟩, ?_⟩
    rw [← String.toList_inj, hs, Address.Dotted.toList_text]
    simp
  · rintro ⟨⟨a, b, c, d, ⟨ha, ha'⟩, hb, hc, hd, hd'⟩, rfl⟩
    rw [Address.Dotted.toList_text]
    exact ⟨_, _, rfl, ⟨a, ha, ha', rfl⟩, '.' :: Text.decimal b ++ ('.' :: Text.decimal c), _, by simp,
      ⟨_, _, rfl, ⟨['.'], _, rfl, rfl, b, hb, rfl⟩, _, [], by simp, ⟨['.'], _, rfl, rfl, c, hc, rfl⟩, rfl⟩,
      ['.'], _, rfl, rfl, d, hd, hd', rfl⟩

namespace Address

theorem splitPoints_of_not_mem {cs : List Char} (h : '.' ∉ cs) : splitPoints cs = [cs] := by
  induction cs with
  | nil => rfl
  | cons c cs ih =>
    rw [List.mem_cons, not_or] at h
    rw [splitPoints, if_neg (Ne.symm h.1), ih h.2]

theorem splitPoints_append {cs : List Char} (h : '.' ∉ cs) (rest : List Char) :
    splitPoints (cs ++ '.' :: rest) = cs :: splitPoints rest := by
  induction cs with
  | nil => rfl
  | cons c cs ih =>
    rw [List.mem_cons, not_or] at h
    rw [List.cons_append, splitPoints, if_neg (Ne.symm h.1), ih h.2]

theorem point_not_mem_decimal (n : Nat) : '.' ∉ Text.decimal n :=
  fun h => absurd (Text.isDigit_of_mem_decimal h) (by decide)

theorem octet_decimal {n : Nat} (h : n < 65536) : octet (Text.decimal n) = n := by
  have hdigit : ∀ c ∈ Text.decimal n, c.isDigit = true := fun c => Text.isDigit_of_mem_decimal
  have hblank : ∀ c ∈ (String.ofList (Text.decimal n)).toList, Text.isBlank c = false := by
    intro c hc
    rw [String.toList_ofList] at hc
    exact Kind.not_isBlank_of_isDigit (Kind.isDigit_of_isDigit (hdigit c hc))
  have htrim : Text.trimChars (Text.decimal n) = Text.decimal n := by
    have h := congrArg String.toList (Kind.trim_of_forall hblank)
    simpa only [Text.trim, String.toList_ofList] using h
  have hread := Text.numeral?_decimal n
  obtain ⟨c, cs, hcs⟩ := List.exists_cons_of_ne_nil (Text.decimal_ne_nil n)
  rw [hcs] at hdigit htrim hread
  have hsign : c ≠ '+' := by
    rintro rfl
    exact absurd (hdigit '+' (by simp)) (by decide)
  simp [octet, hcs, htrim, hsign, hread, h]

theorem octets_text (a : Dotted) : octets a.text = a.octets := by
  obtain ⟨first, second, third, fourth, hfirst, hsecond, hthird, hfourth⟩ := a
  rw [octets, Dotted.toList_text]
  simp only [List.cons_append, splitPoints_append (point_not_mem_decimal _),
    splitPoints_of_not_mem (point_not_mem_decimal _), List.map_cons, List.map_nil]
  rw [octet_decimal (by omega), octet_decimal (by omega), octet_decimal (by omega), octet_decimal (by omega)]
  rfl

/-! ## Order -/

theorem compareOctets_cons (a b : Nat) (as bs : List Nat) :
    compareOctets (a :: as) (b :: bs) = (Ord.compare a b).then (compareOctets as bs) := by
  rw [compareOctets]
  rcases Nat.lt_trichotomy a b with h | rfl | h
  · rw [if_pos h, Nat.compare_eq_lt.2 h]
    rfl
  · simp
  · rw [if_neg (Nat.lt_asymm h), if_pos h, Nat.compare_eq_gt.2 h]
    rfl

/-- Two numbers compare by their leading parts, and then by their last octets. -/
theorem compare_octet {a b x y : Nat} (hx : x ≤ 255) (hy : y ≤ 255) :
    Ord.compare (a * 256 + x) (b * 256 + y) = (Ord.compare a b).then (Ord.compare x y) := by
  rcases Nat.lt_trichotomy a b with h | rfl | h
  · rw [Nat.compare_eq_lt.2 h, Nat.compare_eq_lt.2 (by omega)]
    rfl
  · rcases Nat.lt_trichotomy x y with h | rfl | h
    · rw [Nat.compare_eq_lt.2 h, Nat.compare_eq_lt.2 (by omega)]
      simp
    · simp
    · rw [Nat.compare_eq_gt.2 h, Nat.compare_eq_gt.2 (by omega)]
      simp
  · rw [Nat.compare_eq_gt.2 h, Nat.compare_eq_gt.2 (by omega)]
    rfl

/-- **Addresses compare as the numbers of 32 bits that they denote.** -/
theorem compare_text (a b : Dotted) : compare a.text b.text = Ord.compare a.number b.number := by
  rw [compare, octets_text, octets_text, Dotted.octets, Dotted.octets, Dotted.number, Dotted.number,
    compare_octet a.fourth_range.2 b.fourth_range.2, compare_octet a.third_le b.third_le,
    compare_octet a.second_le b.second_le]
  simp only [compareOctets_cons, Ordering.then_assoc]
  simp [compareOctets]

/-- As texts the two stand the other way round. -/
example : compare "9.0.0.1" "10.0.0.1" = .lt ∧ "10.0.0.1" < "9.0.0.1" := by decide

theorem Dotted.text_inj {a b : Dotted} (h : a.text = b.text) : a = b := by
  have heq : Ord.compare a.number b.number = .eq := by
    rw [← compare_text, h, compare_text, Nat.compare_eq_eq]
  exact number_inj (Nat.compare_eq_eq.1 heq)

end Address

end RecordSchema

/-
The number that a decimal text denotes, said of its digits: all of them make an
integer, those behind the point count as places, and an exponent moves the point.

This is a relation of its own beside the reader, which makes of a text that denotes
a number a decimal of that value, if there is room for its scale, and refuses any
other text (`ofText?_of_spells`, `writes_of_ofText?`). A decimal without a negative
scale is written as a text that denotes its value (`writes_text`).
-/
import RecordSchema.Proofs.Kind.Integer
import RecordSchema.Proofs.Number.Value

namespace RecordSchema

namespace Decimal

open Kind
open Text (Denotes)

/-- A mark and digits, or nothing at all. -/
inductive Exponent : List Char → Int → Prop where
  | none : Exponent [] 0
  | marked {c cs e} (mark : c = 'e' ∨ c = 'E') (h : Signed (Denotes 10) cs e) : Exponent (c :: cs) e

/-- A text has the digits of an integer, some of them perhaps behind a point, where they count as places, and an
exponent. (A sign may stand behind the point as well, and is a place then.) -/
inductive Spells : List Char → Int → Nat → Int → Prop where
  | whole {digits tail z e} (hz : Signed Grouped digits z) (he : Exponent tail e) : Spells (digits ++ tail) z 0 e
  | point {whole fraction tail z e} (hz : Signed Grouped (whole ++ fraction) z) (he : Exponent tail e) :
      Spells (whole ++ '.' :: fraction ++ tail) z (placeCount fraction) e

/-- A text denotes a number. -/
def Writes (cs : List Char) (q : ℚ) : Prop :=
  ∃ z places e, Spells cs z places e ∧ q = z * (10 : ℚ) ^ (e - places : Int)

variable {cs mantissa whole tail places : List Char} {s : String} {d : Decimal} {q : ℚ} {z e : Int}

/-! ## Reading -/

theorem splitAtFirst_cases (p : Char → Bool) (cs : List Char) :
    splitAtFirst p cs = (cs, none) ∨
      ∃ front c rest, splitAtFirst p cs = (front, some rest) ∧ cs = front ++ c :: rest ∧ p c = true := by
  unfold splitAtFirst
  split
  · exact .inl rfl
  · next c rest hdrop =>
    have hc := List.head_dropWhile_not (!p ·) (l := cs) (by simp [hdrop])
    simp only [hdrop, List.head_cons, Bool.not_eq_eq_eq_not] at hc
    refine .inr ⟨_, c, rest, rfl, ?_, by simpa using hc⟩
    rw [← hdrop, List.takeWhile_append_dropWhile]

/-- The exponent is what stands behind the first mark. -/
theorem splitAtFirst_exponent (hm : ∀ c ∈ mantissa, isMark c = false) (he : Exponent tail e) :
    ∃ marked, splitAtFirst isMark (mantissa ++ tail) = (mantissa, marked) ∧
      exponentOf? marked = if fits 128 e then some e else none := by
  cases he with
  | none => exact ⟨none, by rw [List.append_nil, splitAtFirst_of_forall hm], rfl⟩
  | marked mark h =>
    refine ⟨_, splitAtFirst_append hm (by simpa [isMark] using mark), ?_⟩
    simp only [exponentOf?, signedNumeral?_eq_some_iff.2 h, Option.filter]

/-- A text that spells a number is read as it, if there is room for its exponent and its scale. -/
theorem ofText?_of_spells {places : Nat} (h : Spells s.toList z places e) :
    ofText? s = if fits 128 e = true ∧ fits 64 (places - e) = true then some ⟨z, places - e⟩ else none := by
  have hresult : ∀ {mantissa whole tail pointed}, s.toList = mantissa ++ tail → Exponent tail e →
      (∀ c ∈ mantissa, isMark c = false) → splitAtFirst (fun c => c = '.') mantissa = (whole, pointed) →
      Signed Grouped (whole ++ pointed.getD []) z → placeCount (pointed.getD []) = places →
      ofText? s = if fits 128 e = true ∧ fits 64 (places - e) = true then some ⟨z, places - e⟩ else none := by
    rintro mantissa whole tail pointed hs he hmark hpoint hz rfl
    obtain ⟨marked, hsplit, hexponent⟩ := splitAtFirst_exponent hmark he
    rw [← hs] at hsplit
    rw [ofText?_of_split hsplit hpoint, groupedInt?_eq_some_iff.2 hz, hexponent, Option.bind_some]
    by_cases hfits : fits 128 e = true
    · rw [if_pos hfits, Option.bind_some]
      simp only [hfits, true_and]
    · rw [if_neg hfits, Option.bind_none, if_neg fun h => hfits h.1]
  have hnone : ∀ {cs : List Char}, (∀ c ∈ cs, c ≠ '.' ∧ c ≠ 'e' ∧ c ≠ 'E') →
      (∀ c ∈ cs, isMark c = false) ∧ ∀ c ∈ cs, decide (c = '.') = false :=
    fun hne => ⟨fun c hc => by simp [isMark, hne c hc], fun c hc => by simp [hne c hc]⟩
  generalize hs : s.toList = cs at h
  cases h with
  | whole hz he =>
    obtain ⟨hmark, hpoint⟩ := hnone hz.ne
    exact hresult hs he hmark (splitAtFirst_of_forall hpoint) (by rwa [Option.getD_none, List.append_nil]) rfl
  | point hz he =>
    obtain ⟨hmark, hpoint⟩ := hnone hz.ne
    rw [List.forall_mem_append] at hmark hpoint
    have hmark' : ∀ c ∈ _ ++ '.' :: _, isMark c = false :=
      List.forall_mem_append.2 ⟨hmark.1, List.forall_mem_cons.2 ⟨by decide, hmark.2⟩⟩
    exact hresult hs he hmark' (splitAtFirst_append hpoint.1 rfl) hz rfl

/-- What is read is spelled so. -/
theorem spells_of_ofText? (h : ofText? s = some d) :
    ∃ (places : Nat) (e : Int), Spells s.toList d.unscaled places e ∧ d.scale = places - e := by
  obtain ⟨mantissa, marked, tail, hmark, hs, hexponent⟩ : ∃ mantissa marked tail,
      splitAtFirst isMark s.toList = (mantissa, marked) ∧ s.toList = mantissa ++ tail ∧
        ∀ e, exponentOf? marked = some e → Exponent tail e := by
    rcases splitAtFirst_cases isMark s.toList with hmark | ⟨mantissa, c, cs, hmark, hs, hc⟩
    · refine ⟨_, _, [], hmark, by rw [List.append_nil], ?_⟩
      rintro e ⟨⟩
      exact .none
    · refine ⟨_, _, _, hmark, hs, fun e he => ?_⟩
      exact .marked (by simpa [isMark] using hc) (signedNumeral?_eq_some_iff.1 (Option.filter_eq_some_iff.1 he).1)
  have hread : ∀ {whole pointed}, splitAtFirst (fun c => c = '.') mantissa = (whole, pointed) →
      ∃ e, Signed Grouped (whole ++ pointed.getD []) d.unscaled ∧ Exponent tail e ∧
        d.scale = placeCount (pointed.getD []) - e := by
    intro whole pointed hpoint
    rw [ofText?_of_split hmark hpoint, Option.bind_eq_some_iff] at h
    obtain ⟨z, hz, h⟩ := h
    obtain ⟨e, he, h⟩ := Option.bind_eq_some_iff.1 h
    split at h
    · cases h
      exact ⟨e, groupedInt?_eq_some_iff.1 hz, hexponent e he, rfl⟩
    · cases h
  rw [hs]
  rcases splitAtFirst_cases (fun c => c = '.') mantissa with hpoint | ⟨whole, c, fraction, hpoint, hmantissa, hc⟩
  · obtain ⟨e, hz, he, hscale⟩ := hread hpoint
    rw [Option.getD_none, List.append_nil] at hz
    exact ⟨0, e, .whole hz he, hscale⟩
  · obtain ⟨e, hz, he, hscale⟩ := hread hpoint
    rw [hmantissa, of_decide_eq_true hc]
    exact ⟨_, e, .point hz he, hscale⟩

theorem value_of_writes (h : Writes s.toList q) (hd : ofText? s = some d) : d.value = q := by
  obtain ⟨z, places, e, h, rfl⟩ := h
  rw [ofText?_of_spells h] at hd
  split at hd
  · cases hd
    rw [value, neg_sub]
  · cases hd

theorem writes_of_ofText? (h : ofText? s = some d) : Writes s.toList d.value := by
  obtain ⟨places, e, h, hscale⟩ := spells_of_ofText? h
  exact ⟨_, places, e, h, by rw [value, hscale, neg_sub]⟩

/-- A text that is read denotes one number. -/
theorem writes_iff_of_ofText? (h : ofText? s = some d) : Writes s.toList q ↔ d.value = q := by
  constructor
  · exact fun hq => value_of_writes hq h
  · rintro rfl
    exact writes_of_ofText? h

/-! ## Texts without an exponent -/

theorem spells_pointed (hz : Signed Grouped (whole ++ places) z) (hp : ∀ c ∈ places, IsDigit c) :
    Spells (whole ++ pointed places) z places.length 0 := by
  cases places with
  | nil =>
    rw [List.append_nil] at hz
    exact .whole hz .none
  | cons c cs =>
    have hspells := Spells.point hz .none
    rwa [placeCount, filter_eq_self hp, List.append_nil] at hspells

/-- In a text of a decimal's form whose digits are those of ASCII, the digits make an integer and those behind the
point count as places. -/
theorem exists_spells_of_form {count : Nat → Prop} (h0 : ¬ count 0) (h : DecimalForm count cs)
    (hascii : ∀ c ∈ cs, c.toNat < 128) : ∃ (z : Int) (n : Nat), Spells cs z n 0 ∧ n ≤ cs.length := by
  have hparts : ∀ {whole fraction}, WholeForm whole → FractionForm count fraction →
      (∀ c ∈ whole ++ fraction, c.toNat < 128) → ∃ places n, fraction = pointed places ∧
        (∀ c ∈ places, IsDigit c) ∧ places.length ≤ fraction.length ∧ Grouped (whole ++ places) n := by
    intro whole fraction hw hf hascii
    obtain ⟨places, rfl, hp, -⟩ := exists_pointed_of_form h0 hf
    have hsub : ∀ c ∈ places, c ∈ pointed places := by
      cases places with
      | nil => exact fun c hc => hc
      | cons d ds => exact fun c hc => List.mem_cons_of_mem _ hc
    have hdigit : ∀ c ∈ whole ++ places, ∃ d, Text.IsDigitOf 10 c d := by
      rw [List.forall_mem_append] at hascii ⊢
      exact ⟨fun c hc => Text.exists_isDigitOf_ten.2 ⟨hascii.1 c hc, hw.isDigit c hc⟩,
        fun c hc => Text.exists_isDigitOf_ten.2 ⟨hascii.2 c (hsub c hc), hp c hc⟩⟩
    obtain ⟨n, hn⟩ := Text.exists_denotes_iff.2 ⟨by simp [hw.ne_nil], hdigit⟩
    refine ⟨places, n, rfl, hp, ?_, grouped_of_denotes hn⟩
    cases places <;> simp [pointed]
  cases h with
  | unsigned hw hf =>
    obtain ⟨places, n, rfl, hp, hlength, hn⟩ := hparts hw hf hascii
    refine ⟨n, places.length, spells_pointed (.unsigned hn) hp, ?_⟩
    rw [List.length_append]
    omega
  | @signed whole _ hw hf =>
    obtain ⟨places, n, rfl, hp, hlength, hn⟩ := hparts hw hf (List.forall_mem_cons.1 hascii).2
    have hspells : Spells (('-' :: whole) ++ pointed places) (-n) places.length 0 := spells_pointed (.minus hn) hp
    refine ⟨-n, places.length, hspells, ?_⟩
    rw [List.length_cons, List.length_append]
    omega

/-- Such a text is read, whatever number it denotes. -/
theorem exists_of_form {count : Nat → Prop} (h0 : ¬ count 0) (h : DecimalForm count s.toList)
    (hascii : ∀ c ∈ s.toList, c.toNat < 128) (hlen : s.length < 2 ^ 63) : ∃ d, ofText? s = some d := by
  obtain ⟨z, n, hspells, hn⟩ := exists_spells_of_form h0 h hascii
  rw [String.length_toList] at hn
  have hfits : fits 128 0 = true ∧ fits 64 (n - 0) = true := ⟨by decide, fits_sixtyFour.2 (by omega)⟩
  exact ⟨_, (ofText?_of_spells hspells).trans (if_pos hfits)⟩

/-! ## Writing -/

/-- A decimal without a negative scale is written as a text that denotes its value. -/
theorem writes_text (h : 0 ≤ d.scale) : Writes d.text.toList d.value := by
  obtain ⟨whole, places, htext, hscale, -, hdigits, hn⟩ := exists_parts_of_text h
  have hz := signed_signChars (grouped_of_denotes (Text.numeral?_eq_some_iff.1 hn))
  rw [← List.append_assoc] at htext hz
  rw [htext]
  refine ⟨_, _, 0, spells_pointed hz fun c hc => isDigit_of_isDigit (hdigits c (List.mem_append_right _ hc)), ?_⟩
  rw [value, hscale, zero_sub]

end Decimal

end RecordSchema

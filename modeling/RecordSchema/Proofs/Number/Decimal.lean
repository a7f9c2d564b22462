/-
Decimals as they are written and read: what a text of a decimal's form reads
as (`ofText?_eq`), that a decimal without a negative scale is written in that
form and reads back digit for digit (`ofText?_text`, `fits_text`).
-/
import RecordSchema.Proofs.Number.Grouped

namespace RecordSchema

namespace Decimal

open Kind
open Number (signedNumeral?)

/-- The scale of a number without an exponent: a count of places. -/
def Plain (d : Decimal) : Prop := 0 ≤ d.scale ∧ d.scale < 2 ^ 63

instance : DecidablePred Plain := fun d => inferInstanceAs (Decidable (0 ≤ d.scale ∧ d.scale < 2 ^ 63))

/-! ## Reading -/

theorem splitAtFirst_of_forall {p : Char → Bool} {cs : List Char} (h : ∀ c ∈ cs, p c = false) :
    splitAtFirst p cs = (cs, none) := by
  have hdrop : (cs ++ []).dropWhile (!p ·) = [] :=
    List.dropWhile_append_of_pos fun c hc => by simp [h c hc]
  rw [List.append_nil] at hdrop
  rw [splitAtFirst, hdrop]

theorem splitAtFirst_append {p : Char → Bool} {cs rest : List Char} {c : Char} (h : ∀ c ∈ cs, p c = false)
    (hc : p c = true) : splitAtFirst p (cs ++ c :: rest) = (cs, some rest) := by
  have hall : ∀ c ∈ cs, (!p c) = true := fun c hc => by simp [h c hc]
  have hdrop : (cs ++ c :: rest).dropWhile (!p ·) = c :: rest := by
    rw [List.dropWhile_append_of_pos hall, List.dropWhile_cons_of_neg (by simp [hc])]
  have htake : (cs ++ c :: rest).takeWhile (!p ·) = cs := by
    rw [List.takeWhile_append_of_pos hall, List.takeWhile_cons_of_neg (by simp [hc]), List.append_nil]
  rw [splitAtFirst, hdrop, htake]

/-- How many places a fraction has. -/
def placeCount (fraction : List Char) : Nat := (fraction.filter (· != '_')).length

/-- Whether a character is the mark of an exponent. -/
def isMark (c : Char) : Bool := c = 'e' || c = 'E'

/-- The exponent behind a mark, if there is one. -/
def exponentOf? : Option (List Char) → Option Int
  | none => some 0
  | some cs => (signedNumeral? cs).filter (fits 128)

/-- The reader looks for a mark, and in front of it for a point. -/
theorem ofText?_of_split {s : String} {mantissa whole : List Char} {marked pointed : Option (List Char)}
    (hm : splitAtFirst isMark s.toList = (mantissa, marked))
    (hp : splitAtFirst (fun c => c = '.') mantissa = (whole, pointed)) :
    ofText? s = (groupedInt? (whole ++ pointed.getD [])).bind fun z => (exponentOf? marked).bind fun e =>
      if fits 64 (placeCount (pointed.getD []) - e) then some ⟨z, placeCount (pointed.getD []) - e⟩ else none := by
  unfold ofText?
  change splitAtFirst (fun c => c = 'e' || c = 'E') s.toList = _ at hm
  rw [hm]
  dsimp only
  rw [hp]
  dsimp only
  cases groupedInt? (whole ++ pointed.getD []) with
  | none => rw [Option.bind_none]
  | some z =>
    rw [Option.bind_some]
    cases marked with
    | none => rw [exponentOf?, Option.bind_some, placeCount]
    | some cs =>
      dsimp only [exponentOf?]
      cases (signedNumeral? cs).filter (fits 128) with
      | none => rw [Option.bind_none]
      | some e => rw [Option.bind_some, placeCount]

/-- The part of a text from the point on, which is left out with no places. -/
def pointed : List Char → List Char
  | [] => []
  | ds => '.' :: ds

/-- A whole part and places without a mark of an exponent: the digits of both make the number, and
the places its scale. -/
theorem ofText?_eq {s : String} {whole places : List Char} (hs : s.toList = whole ++ pointed places)
    (hw : ∀ c ∈ whole, c ≠ '.' ∧ c ≠ 'e' ∧ c ≠ 'E') (hp : ∀ c ∈ places, IsDigit c) :
    ofText? s = (groupedInt? (whole ++ places)).bind fun n =>
      if fits 64 places.length then some ⟨n, places.length⟩ else none := by
  have hmarks : ∀ c ∈ whole ++ pointed places, isMark c = false := by
    have hpointed : ∀ c ∈ pointed places, c ≠ 'e' ∧ c ≠ 'E' := by
      cases places with
      | nil => simp [pointed]
      | cons d ds =>
        refine List.forall_mem_cons.2 ⟨by decide, fun c hc => ?_⟩
        obtain ⟨-, he, hE, -⟩ := ne_of_isDigit (hp c hc)
        exact ⟨he, hE⟩
    rw [List.forall_mem_append]
    exact ⟨fun c hc => by simp [isMark, (hw c hc).2], fun c hc => by simp [isMark, hpointed c hc]⟩
  have hpoint : splitAtFirst (fun c => c = '.') (whole ++ pointed places) =
      (whole, if places = [] then none else some places) := by
    have hwhole : ∀ c ∈ whole, decide (c = '.') = false := fun c hc => by simp [(hw c hc).1]
    cases places with
    | nil => rw [pointed, List.append_nil, splitAtFirst_of_forall hwhole]; rfl
    | cons d ds => exact splitAtFirst_append hwhole (by simp)
  have hplaces : (if places = [] then none else some places).getD [] = places := by
    split
    · next h => exact h.symm
    · rfl
  have hsplit : splitAtFirst isMark s.toList = (whole ++ pointed places, none) := by
    rw [hs, splitAtFirst_of_forall hmarks]
  rw [ofText?_of_split hsplit hpoint, hplaces, placeCount, filter_eq_self hp]
  cases groupedInt? (whole ++ places) with
  | none => rw [Option.bind_none, Option.bind_none]
  | some n => rw [Option.bind_some, Option.bind_some, exponentOf?, Option.bind_some, Int.sub_zero]

theorem exists_pointed_of_form {count : Nat → Prop} {fraction : List Char} (h0 : ¬ count 0)
    (hf : FractionForm count fraction) :
    ∃ places, fraction = pointed places ∧ (∀ c ∈ places, IsDigit c) ∧ (places ≠ [] → count places.length) := by
  cases hf with
  | none => exact ⟨[], rfl, by simp, by simp⟩
  | @point ds hcount hdigits =>
    cases ds with
    | nil => exact absurd hcount h0
    | cons d ds => exact ⟨d :: ds, rfl, hdigits, fun _ => hcount⟩

/-- A text of a decimal's form in two parts, the sign with the whole part. -/
theorem exists_parts_of_form {count : Nat → Prop} (h0 : ¬ count 0) {cs : List Char}
    (h : DecimalForm count cs) :
    ∃ whole places, cs = whole ++ pointed places ∧ (∀ c ∈ whole, c ≠ '.' ∧ c ≠ 'e' ∧ c ≠ 'E') ∧
      (∀ c ∈ places, IsDigit c) ∧ (places ≠ [] → count places.length) := by
  have hwhole : ∀ {whole}, WholeForm whole → ∀ c ∈ whole, c ≠ '.' ∧ c ≠ 'e' ∧ c ≠ 'E' := by
    intro whole hw c hc
    obtain ⟨hpoint, he, hE, -⟩ := ne_of_isDigit (hw.isDigit c hc)
    exact ⟨hpoint, he, hE⟩
  cases h with
  | unsigned hw hf =>
    obtain ⟨places, rfl, hdigits, hcount⟩ := exists_pointed_of_form h0 hf
    exact ⟨_, places, rfl, hwhole hw, hdigits, hcount⟩
  | signed hw hf =>
    obtain ⟨places, rfl, hdigits, hcount⟩ := exists_pointed_of_form h0 hf
    exact ⟨_, places, rfl, List.forall_mem_cons.2 ⟨by decide, hwhole hw⟩, hdigits, hcount⟩

theorem fits_sixtyFour {n : Int} : fits 64 n = true ↔ -2 ^ 63 ≤ n ∧ n < 2 ^ 63 := by
  simp [fits]

/-- The scale of a text in a decimal's form is the count of its places. -/
theorem scale_of_form {count : Nat → Prop} (h0 : ¬ count 0) {s : String} (hf : DecimalForm count s.toList)
    {d : Decimal} (h : ofText? s = some d) : ∃ k : Nat, d.scale = k ∧ (k : Int) < 2 ^ 63 ∧
    (k ≠ 0 → count k) := by
  obtain ⟨whole, places, hs, hw, hp, hcount⟩ := exists_parts_of_form h0 hf
  rw [ofText?_eq hs hw hp, Option.bind_eq_some_iff] at h
  obtain ⟨n, -, h⟩ := h
  split at h
  · next hfits =>
    cases h
    refine ⟨places.length, rfl, (fits_sixtyFour.1 hfits).2, fun hk => hcount ?_⟩
    rwa [ne_eq, ← List.length_eq_zero_iff]
  · cases h

theorem plain_of_fits {s : String} {d : Decimal} (hf : Kind.decimal.fits s = true)
    (h : ofText? s = some d) :
    d.Plain := by
  obtain ⟨k, hk, hlt, -⟩ := scale_of_form (by decide) (fits_decimal_iff.1 hf) h
  rw [Plain, hk]
  exact ⟨Int.natCast_nonneg k, hlt⟩

theorem plain_of_fits_price {s : String} {d : Decimal} (hf : Kind.price.fits s = true)
    (h : ofText? s = some d) : d.Plain ∧ d.scale ≤ 2 := by
  obtain ⟨k, hk, hlt, hcount⟩ := scale_of_form (by decide) (fits_price_iff.1 hf) h
  rw [Plain, hk]
  refine ⟨⟨Int.natCast_nonneg k, hlt⟩, ?_⟩
  rcases Nat.eq_zero_or_pos k with rfl | hpos
  · decide
  · exact Int.ofNat_le.2 (hcount (Nat.pos_iff_ne_zero.1 hpos)).2

/-! ## Printing -/

/-- The sign in front of a written number. -/
def signChars (n : Int) : List Char := if n < 0 then ['-'] else []

theorem signed_signChars {digits : List Char → Nat → Prop} {n : Int} {cs : List Char}
    (hdigits : digits cs n.natAbs) : Signed digits (signChars n ++ cs) n := by
  unfold signChars
  split
  · next hneg =>
    have hn : n = -(n.natAbs : Int) := by omega
    exact hn ▸ .minus hdigits
  · next hpos =>
    have hn : n = n.natAbs := by omega
    exact hn ▸ .unsigned hdigits

/-- ASCII digits with no zero in front of another digit. -/
theorem wholeForm_of_digits {cs : List Char} (hne : cs ≠ []) (hd : ∀ c ∈ cs, c.isDigit = true)
    (hlead : cs.length = 1 ∨ cs.head? ≠ some '0') : WholeForm cs := by
  cases cs with
  | nil => exact absurd rfl hne
  | cons c ds =>
    have hc := hd c (List.mem_cons_self ..)
    cases ds with
    | nil => exact .single (isDigit_of_isDigit hc)
    | cons d ds =>
      have hzero : c ≠ '0' := by simpa using hlead
      refine .more ?_ (by simp) fun e he => isDigit_of_isDigit (hd e (List.mem_cons_of_mem _ he))
      obtain ⟨hlo, hhi⟩ := Text.isDigit_iff.1 hc
      have hne48 : c.toNat ≠ 48 := fun h => hzero (Char.toNat_inj.1 h)
      exact ⟨show 49 ≤ c.toNat by omega, hhi⟩

/-- A point set in digits divides them, perhaps after zeros in front, into a whole part without a zero
in front and the places. -/
theorem placePoint_decimal (n : Nat) {places : Nat} (hp : 0 < places) :
    ∃ whole ds, placePoint (Text.decimal n) places = whole ++ '.' :: ds ∧ ds.length = places ∧ whole ≠ [] ∧
      (∀ c ∈ whole ++ ds, c.isDigit = true) ∧ (whole.length = 1 ∨ whole.head? ≠ some '0') ∧
      Text.numeral? 10 (whole ++ ds) = some n := by
  generalize hpad : List.replicate (places + 1 - (Text.decimal n).length) '0' ++ Text.decimal n = padded
  have hlen : padded.length = (places + 1 - (Text.decimal n).length) + (Text.decimal n).length := by
    simp [← hpad]
  have hdigits : ∀ c ∈ padded, c.isDigit = true := by
    rw [← hpad, List.forall_mem_append]
    refine ⟨fun c hc => ?_, fun c hc => Text.isDigit_of_mem_decimal hc⟩
    rw [(List.mem_replicate.1 hc).2]
    rfl
  refine ⟨padded.take (padded.length - places), padded.drop (padded.length - places), ?_, ?_, ?_, ?_, ?_, ?_⟩
  · simp only [placePoint, hpad]
  · rw [List.length_drop]
    omega
  · rw [← List.length_pos_iff, List.length_take]
    omega
  · rwa [List.take_append_drop]
  · rw [List.length_take]
    by_cases hone : padded.length = places + 1
    · exact .inl (by omega)
    · have hnopad : places + 1 - (Text.decimal n).length = 0 := by omega
      rw [hnopad, List.replicate_zero, List.nil_append] at hpad
      have hn : n ≠ 0 := by
        rintro rfl
        simp [← hpad, Text.decimal_zero] at hone hlen
        omega
      refine .inr ?_
      rw [List.head?_take, if_neg (by omega), ← hpad]
      exact Text.head?_decimal hn
  · rw [List.take_append_drop, ← hpad]
    exact Text.numeral?_padded _ n

/-- The text of a decimal without a negative scale: a sign, a whole part and the places. -/
theorem exists_parts_of_text {d : Decimal} (h : 0 ≤ d.scale) :
    ∃ whole places, d.text.toList = signChars d.unscaled ++ (whole ++ pointed places) ∧
      (places.length : Int) = d.scale ∧ WholeForm whole ∧ (∀ c ∈ whole ++ places, c.isDigit = true) ∧
      Text.numeral? 10 (whole ++ places) = some d.unscaled.natAbs := by
  have hsign : ∀ body, (if d.unscaled < 0 then '-' :: body else body) = signChars d.unscaled ++ body := by
    intro body
    unfold signChars
    split <;> rfl
  simp only [text, String.toList_ofList, hsign]
  split
  · next hpos =>
    obtain ⟨whole, ds, hplace, hlen, hne, hdigits, hlead, hn⟩ :=
      placePoint_decimal d.unscaled.natAbs (show 0 < d.scale.toNat by omega)
    refine ⟨whole, ds, ?_, by omega, ?_, hdigits, hn⟩
    · rw [hplace]
      cases ds with
      | nil => simp at hlen; omega
      | cons c ds => rfl
    · exact wholeForm_of_digits hne (fun c hc => hdigits c (List.mem_append_left _ hc)) hlead
  · next hpos =>
    have hzero : d.scale = 0 := by omega
    have hdigits : ∀ c ∈ Text.decimal d.unscaled.natAbs, c.isDigit = true :=
      fun c hc => Text.isDigit_of_mem_decimal hc
    refine ⟨Text.decimal d.unscaled.natAbs, [], ?_, by simp [hzero], ?_, by simpa using hdigits, ?_⟩
    · simp [hzero, pointed]
    · refine wholeForm_of_digits (Text.decimal_ne_nil _) hdigits ?_
      by_cases hn : d.unscaled.natAbs = 0
      · exact .inl (by rw [hn, Text.decimal_zero]; rfl)
      · exact .inr (Text.head?_decimal hn)
    · rw [List.append_nil]
      exact Text.numeral?_decimal _

/-- **What is written reads back**, with the same digits and the same scale. -/
theorem ofText?_text {d : Decimal} (h : d.Plain) : ofText? d.text = some d := by
  obtain ⟨whole, places, htext, hscale, hwhole, hdigits, hn⟩ := exists_parts_of_text h.1
  have hplaces : ∀ c ∈ places, IsDigit c :=
    fun c hc => isDigit_of_isDigit (hdigits c (List.mem_append_right _ hc))
  have hmarks : ∀ c ∈ signChars d.unscaled ++ whole, c ≠ '.' ∧ c ≠ 'e' ∧ c ≠ 'E' := by
    rw [List.forall_mem_append]
    refine ⟨fun c hc => ?_, fun c hc => ?_⟩
    · unfold signChars at hc
      split at hc
      · rw [List.mem_singleton.1 hc]; decide
      · cases hc
    · obtain ⟨hpoint, he, hE, -⟩ := ne_of_isDigit (hwhole.isDigit c hc)
      exact ⟨hpoint, he, hE⟩
  have hfits : fits 64 places.length = true := by
    rw [fits_sixtyFour, hscale]
    exact ⟨Int.le_trans (by decide) h.1, h.2⟩
  have hz := signed_signChars (grouped_of_denotes (Text.numeral?_eq_some_iff.1 hn))
  rw [← List.append_assoc] at htext
  rw [ofText?_eq htext hmarks hplaces, List.append_assoc, groupedInt?_eq_some_iff.2 hz, Option.bind_some,
    if_pos hfits, hscale]

/-- A decimal is written in the form of the texts that have its count of places. -/
theorem form_text {count : Nat → Prop} {d : Decimal} (h : 0 ≤ d.scale)
    (hcount : 0 < d.scale → count d.scale.toNat) : DecimalForm count d.text.toList := by
  obtain ⟨whole, places, htext, hscale, hwhole, hdigits, -⟩ := exists_parts_of_text h
  have hfraction : FractionForm count (pointed places) := by
    cases places with
    | nil => exact .none
    | cons c ds =>
      refine .point ?_ fun e he => isDigit_of_isDigit (hdigits e (List.mem_append_right _ he))
      have hlen : (c :: ds).length = d.scale.toNat := by omega
      rw [hlen]
      exact hcount (by rw [← hscale]; exact Int.natCast_pos.2 (Nat.succ_pos _))
  rw [htext, signChars]
  split
  · exact @DecimalForm.signed count whole _ hwhole hfraction
  · exact @DecimalForm.unsigned count whole _ hwhole hfraction

theorem fits_text {d : Decimal} (h : 0 ≤ d.scale) : Kind.decimal.fits d.text = true :=
  fits_decimal_iff.2 (form_text h fun hpos => by omega)

theorem fits_price_text {d : Decimal} (h : 0 ≤ d.scale) (h2 : d.scale ≤ 2) :
    Kind.price.fits d.text = true :=
  fits_price_iff.2 (form_text h fun hpos => by omega)

/-! ## Rounding -/

/-- Rounding to a scale that leaves all places keeps them all. -/
theorem round_eq {d : Decimal} {s : Int} (h : d.scale ≤ s) : d.round s = ⟨d.atScale s, s⟩ := by
  rw [round]
  split
  · next hzero => rw [atScale, hzero, Int.zero_mul]
  · rfl

theorem scale_round (d : Decimal) (s : Int) : (d.round s).scale = s := by
  unfold round
  split
  · rfl
  · split <;> rfl

theorem plain_round (d : Decimal) {s : Int} (hs : 0 ≤ s ∧ s < 2 ^ 63) : (d.round s).Plain := by
  rw [Plain, scale_round]
  exact hs

/-- A number that has the scale already is not changed by rounding to it. -/
theorem round_eq_self {d : Decimal} {s : Int} (h : d.scale = s) : d.round s = d := by
  rw [round_eq (Int.le_of_eq h), atScale, h, Int.sub_self, ← h]
  simp

end Decimal

end RecordSchema

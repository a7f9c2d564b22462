/-
Cleaning prices: what is read as a decimal, with an exponent or any number of
places, becomes a text with two of them.

The rounding is to the nearest hundredth (`Decimal.nearest_round`), which puts the
texts that cleaning makes in the order of the numbers it reads; a price has a
count of places that the rounding leaves alone.
-/
import RecordSchema.Proofs.Leaf.Integer
import RecordSchema.Proofs.Number.Nearest
import RecordSchema.Proofs.Number.Written

namespace RecordSchema

open Decimal (Signed Writes)

/-- The number that a value denotes as it is written, or as a text without the blanks around it. -/
inductive Json.Reads : Json → ℚ → Prop where
  | number {n q} (h : Writes n.text.toList q) : Reads (.number n) q
  | string {s q} (h : Writes (Text.trim s).toList q) : Reads (.string s) q

/-- A value is a text with two digits behind a point, and they and those in front of it make a count of hundredths. -/
inductive Json.IsPrice : Json → ℚ → Prop where
  | text {s : String} {whole : List Char} {a b : Char} {z : Int} (point : s.toList = whole ++ ['.', a, b])
      (digits : a.isDigit = true ∧ b.isDigit = true) (hundredths : Signed (Text.Denotes 10) (whole ++ [a, b]) z) :
      IsPrice (.string s) (z / 100)

theorem Json.reads_iff {v : Json} {d : Decimal} {q : ℚ} (h : v.decimal? = some d) : v.Reads q ↔ q = d.value := by
  have hwrites : v.Reads q ↔ d.value = q := by
    constructor
    · intro hq
      cases hq with
      | number hq => exact Decimal.value_of_writes hq h
      | string hq => exact Decimal.value_of_writes hq h
    · rintro rfl
      cases v with
      | number n => exact .number (Decimal.writes_of_ofText? h)
      | string s => exact .string (Decimal.writes_of_ofText? h)
      | null | bool | array | object => simp only [decimal?, reduceCtorEq] at h
  rw [hwrites, eq_comm]

namespace Decimal

open Kind

variable {d : Decimal} {p : ℚ}

theorem isPrice_text (h : d.scale = 2) : Json.IsPrice (.string d.text) d.value := by
  have hnonneg : 0 ≤ d.scale := by rw [h]; decide
  obtain ⟨whole, places, htext, hscale, -, hdigits, hn⟩ := exists_parts_of_text hnonneg
  obtain ⟨a, b, rfl⟩ := List.length_eq_two.1 (show places.length = 2 by omega)
  have hvalue : d.value = d.unscaled / 100 := by
    rw [value, h]
    norm_num [div_eq_mul_inv]
  have hz := signed_signChars (Text.numeral?_eq_some_iff.1 hn)
  rw [← List.append_assoc] at htext hz
  rw [hvalue]
  exact .text htext ⟨hdigits a (by simp), hdigits b (by simp)⟩ hz

theorem writes_of_isPrice {s : String} (h : Json.IsPrice (.string s) p) : Writes s.toList p := by
  cases h with
  | @text _ whole a b z point digits hundredths =>
    have hplaces : ∀ c ∈ [a, b], IsDigit c := by
      simpa using And.intro (isDigit_of_isDigit digits.1) (isDigit_of_isDigit digits.2)
    rw [point]
    refine ⟨_, _, 0, spells_pointed (hundredths.imp grouped_of_denotes) hplaces, ?_⟩
    norm_num [div_eq_mul_inv]

/-- The text of a decimal shows no other price than its value. -/
theorem value_eq_of_isPrice (h : d.Plain) (hp : Json.IsPrice (.string d.text) p) : d.value = p :=
  value_of_writes (writes_of_isPrice hp) (ofText?_text h)

end Decimal

namespace Leaf

variable {l m : Leaf} {v w : Json} {path : Path} {d : Decimal} {p : ℚ}

/-- What a leaf for prices makes of a value that is there: its decimal at two places. -/
theorem clean_price_iff (hk : l.kind = .price) (hv : v ≠ .null) :
    l.clean v path = .ok w ↔ ∃ d : Decimal, v.decimal? = some d ∧ w = .string (d.round 2).text := by
  have habsent : ¬ (v.isNull && l.annotations.optional) = true := fun h => hv (Json.absent_iff.1 h).1
  have hclean : Kind.price.clean? v = Kind.cleanPrice? v := rfl
  rw [clean, if_neg habsent, hk, hclean, ← Kind.cleanPrice?_eq_some_iff]
  cases Kind.cleanPrice? v with
  | none => simp
  | some u => simp

/-- A decimal at two places passes for a price, where there are neither options nor bounds. -/
theorem failures_price_text (hk : m.kind = .price) (ho : m.options = none) (hmin : m.minimum = none)
    (hmax : m.maximum = none) (hd : d.scale = 2) (path : Path) : m.failures (.string d.text) path = [] := by
  have hplain : d.Plain := by rw [Decimal.Plain, hd]; decide
  have hfits : Kind.price.fits d.text = true := Decimal.fits_price_text hplain.1 (Int.le_of_eq hd)
  have haccept : m.accept (.string d.text) = .ok (some (.decimal d)) := by
    rw [accept, hk]
    exact acceptDecimalText_eq_ok_iff.2 ⟨d, hfits, Decimal.ofText?_text hplain, rfl⟩
  rw [failures_string_iff, check, haccept]
  exact checkScalar_of_unconstrained (by rw [hk]; decide) ho hmin hmax _

/-- The decimal of a valid price has at most two places. -/
theorem scale_le_of_failures (hk : m.kind = .price) (hv : v ≠ .null) (h : m.failures v path = [])
    (hd : v.decimal? = some d) : d.scale ≤ 2 := by
  rw [failures_eq_nil_iff_check hv, check_eq_ok_iff] at h
  obtain ⟨r, hr, -⟩ := h
  rw [accept, hk] at hr
  obtain ⟨e, -, ⟨-, hscale⟩, he⟩ := Kind.decimal?_of_acceptDecimal hr
  cases hd.symm.trans he
  exact hscale

/-- **Cleaning a price rounds to the nearest hundredth**, a half going away from zero, and writes it with two digits
behind the point. What is cleaned denotes one number. A leaf for prices on which nothing is set accepts the text; of a
value that some leaf accepts as a price it has the number; and a number that is not less is cleaned to a price that is
not less. -/
theorem cleans_to_nearest_price (hk : l.kind = .price) (hv : v ≠ .null) (h : l.clean v path = .ok w) :
    ∃ q p, (∀ r, v.Reads r ↔ r = q) ∧ (∀ r, w.IsPrice r ↔ r = p) ∧ Nearest (1 / 100) q p ∧
      (∀ m : Leaf, m.kind = .price → m.options = none → m.minimum = none → m.maximum = none →
        ∀ path, m.failures w path = []) ∧
      (∀ m : Leaf, m.kind = .price → ∀ path, m.failures v path = [] → p = q) ∧
      ∀ v' w' path', v' ≠ .null → l.clean v' path' = .ok w' → ∀ q', v'.Reads q' → q ≤ q' →
        ∀ p', w'.IsPrice p' → p ≤ p' := by
  have hnearest : ∀ d : Decimal, Nearest (1 / 100) d.value (d.round 2).value := by
    intro d
    have hunit : (10 : ℚ) ^ (-2 : Int) = 1 / 100 := by norm_num
    exact hunit ▸ d.nearest_round 2
  have hprice : ∀ {d : Decimal} {p}, Json.IsPrice (.string (d.round 2).text) p → (d.round 2).value = p :=
    fun hp => Decimal.value_eq_of_isPrice (Decimal.plain_round _ (by decide)) hp
  obtain ⟨d, hd, rfl⟩ := (clean_price_iff hk hv).1 h
  refine ⟨d.value, _, fun r => Json.reads_iff hd, fun r => ⟨fun hr => (hprice hr).symm, ?_⟩, hnearest d, ?_, ?_, ?_⟩
  · rintro rfl
    exact Decimal.isPrice_text (d.scale_round 2)
  · intro m hm ho hmin hmax
    exact failures_price_text hm ho hmin hmax (d.scale_round 2)
  · intro m hm path hvalid
    exact Decimal.value_round (scale_le_of_failures hm hv hvalid hd)
  · intro v' w' path' hv' h' q' hq' hle p' hp'
    obtain ⟨d', hd', rfl⟩ := (clean_price_iff hk hv').1 h'
    rw [(Json.reads_iff hd').1 hq'] at hle
    rw [← hprice hp']
    exact (hnearest d).mono (hnearest d') hle

/-- A half below zero, written without a whole part and with an exponent, goes down. -/
theorem cleans_to_nearest_price_half :
    let v : Json := .string " -.5e-2 "
    (bare .price).clean v .root = .ok (.string "-0.01") ∧ v.Reads (-(1 / 200)) ∧
      Json.IsPrice (.string "-0.01") (-(1 / 100)) ∧ Nearest (1 / 100) (-(1 / 200)) (-(1 / 100)) ∧
      (bare .price).failures (.string "-0.01") .root = [] := by
  intro v
  have hv : v ≠ .null := by simp [v]
  have hread : v.decimal? = some ⟨-5, 3⟩ := by decide +kernel
  have htext : ((⟨-5, 3⟩ : Decimal).round 2).text = "-0.01" := by decide +kernel
  have hclean : (bare .price).clean v .root = .ok (.string "-0.01") :=
    (clean_price_iff rfl hv).2 ⟨_, hread, by rw [htext]⟩
  obtain ⟨q, p, hq, hp, hnearest, haccepts, -⟩ := cleans_to_nearest_price rfl hv hclean
  have hreads : v.Reads (-(1 / 200)) := (Json.reads_iff hread).2 (by norm_num [Decimal.value])
  have hvalue : (⟨-1, 2⟩ : Decimal).value = -(1 / 100) := by norm_num [Decimal.value]
  have hprice : Json.IsPrice (.string "-0.01") (-(1 / 100)) := by
    have hwritten : (⟨-1, 2⟩ : Decimal).text = "-0.01" := by decide +kernel
    rw [← hvalue, ← hwritten]
    exact Decimal.isPrice_text rfl
  rw [← (hq _).1 hreads, ← (hp _).1 hprice] at hnearest
  exact ⟨hclean, hreads, hprice, hnearest, haccepts (bare .price) rfl rfl rfl rfl .root⟩

end Leaf

end RecordSchema

/-
A cleaned value is cleaned to itself.

Each kind has one form for the values that it makes (a number, a bool, a text)
and reads that form as it stands: an integer of JSON needs no base, a price at
two places is not rounded, a text is kept. Under a key the form is written as
a text, which every kind but that of floating-point numbers reads back.
-/
import RecordSchema.Proofs.Leaf.Stable

namespace RecordSchema

namespace Kind

variable {kind : Kind} {v w : Json}

/-! ## Integers -/

theorem integerPart?_lt {x : Binary64} {n : Int} (h : integerPart? x = some n) :
    n.natAbs < Number.int64Bound := by
  unfold integerPart? at h
  split at h
  · next hlt =>
    cases h
    rw [Binary64.natAbs_truncate]
    exact Nat.div_lt_of_lt_mul (by rwa [Nat.mul_comm])
  · cases h

/-- An integer is made of an integer of JSON, or it has fewer than 64 bits. -/
theorem cleanInteger?_eq_some (h : cleanInteger? v = some w) :
    ∃ n, w = .ofInt n ∧ (v = .number (.int n) ∨ n.natAbs < Number.int64Bound) := by
  unfold cleanInteger? at h
  split at h
  · next n => cases h; exact ⟨n, rfl, .inl rfl⟩
  · next x =>
    obtain ⟨n, hn, rfl⟩ := Option.map_eq_some_iff.1 h
    exact ⟨n, rfl, .inr (integerPart?_lt hn)⟩
  · next s =>
    obtain ⟨n, hn, rfl⟩ := Option.map_eq_some_iff.1 h
    have hbounds := Number.intLiteral?_bounds hn
    exact ⟨n, rfl, .inr (by omega)⟩
  · cases h

theorem ofInt_eq_of_natAbs_lt {n : Int} (h : n.natAbs < Number.int64Bound) :
    Json.ofInt n = .number (.int n) := by
  have hbound : Number.int64Bound < Number.uint64Bound := by decide
  exact Json.ofInt_eq ⟨by omega, by omega⟩

theorem cleanInteger?_cleanInteger? (hv : v.WellFormed) (h : cleanInteger? v = some w) :
    (∃ n, w = .number (.int n)) ∧ cleanInteger? w = some w := by
  obtain ⟨n, rfl, hn⟩ := cleanInteger?_eq_some h
  have hofInt : Json.ofInt n = .number (.int n) := by
    rcases hn with rfl | hn
    · exact Json.ofInt_eq hv.bounds
    · exact ofInt_eq_of_natAbs_lt hn
  rw [hofInt]
  exact ⟨⟨n, rfl⟩, by rw [cleanInteger?, hofInt]⟩

/-- The integer of a text is written as a text of that integer. -/
theorem cleanInteger?_keyText {key : String} (h : cleanInteger? (.string key) = some w) :
    cleanInteger? (.string (Leaf.keyText w)) = some w := by
  obtain ⟨n, rfl, hn⟩ := cleanInteger?_eq_some h
  replace hn := hn.resolve_left (by simp)
  have hread : cleanInteger? (.string (Text.ofInt n)) = some (.ofInt n) := by
    rw [cleanInteger?, trim_of_fits_int (fits_ofInt n), Number.intLiteral?_ofInt hn, Option.map_some]
  rw [ofInt_eq_of_natAbs_lt hn] at hread ⊢
  exact hread

/-! ## Prices -/

theorem cleanPrice?_round (d : Decimal) :
    cleanPrice? (.string (d.round 2).text) = some (.string (d.round 2).text) := by
  have hplain : (d.round 2).Plain := d.plain_round (by decide)
  have hfits := Decimal.fits_price_text hplain.1 (Int.le_of_eq (d.scale_round 2))
  rw [cleanPrice?, trim_of_fits_price hfits, cleanPriceText?, Decimal.ofText?_text hplain, Option.map_some,
    Decimal.round_eq_self (d.scale_round 2)]

/-! ## Floating-point numbers -/

theorem cleanFloat?_eq_some (h : cleanFloat? v = some w) : ∃ x, w = .number (.float x) := by
  unfold cleanFloat? at h
  split at h
  · obtain ⟨x, -, rfl⟩ := Option.map_eq_some_iff.1 h
    exact ⟨x, rfl⟩
  · obtain ⟨x, -, rfl⟩ := Option.map_eq_some_iff.1 h
    exact ⟨x, rfl⟩
  · cases h

/-! ## All kinds -/

theorem cleanJson_eq (v : Json) : ∃ s, cleanJson v = .string s := by
  unfold cleanJson
  split <;> exact ⟨_, rfl⟩

/-- A cleaned value is cleaned to itself, and only null is cleaned to null. -/
theorem clean?_clean? (hv : v.WellFormed) (h : kind.clean? v = some w) :
    kind.clean? w = some w ∧ (v.isNull = false → w.isNull = false) := by
  cases kind with
  | any => cases h; exact ⟨rfl, fun hn => hn⟩
  | base64 | ip | md5 | string | uuid | date | datetime | time | decimal =>
    obtain ⟨s, -, rfl⟩ := Option.map_eq_some_iff.1 h
    exact ⟨rfl, fun _ => rfl⟩
  | bool => cases h; exact ⟨rfl, fun _ => rfl⟩
  | float =>
    obtain ⟨x, rfl⟩ := cleanFloat?_eq_some h
    exact ⟨rfl, fun _ => rfl⟩
  | int | timestamp | uint =>
    rw [clean?] at h ⊢
    obtain ⟨⟨n, rfl⟩, hself⟩ := cleanInteger?_cleanInteger? hv h
    exact ⟨hself, fun _ => rfl⟩
  | json =>
    cases h
    obtain ⟨s, hs⟩ := cleanJson_eq v
    rw [hs]
    exact ⟨rfl, fun _ => rfl⟩
  | price =>
    obtain ⟨d, -, rfl⟩ := cleanPrice?_eq_some_iff.1 h
    exact ⟨cleanPrice?_round d, fun _ => rfl⟩

/-- A cleaned key, written as a text, is cleaned to what it was. -/
theorem clean?_keyText {key : String} (hk : kind ≠ .float) (h : kind.clean? (.string key) = some w) :
    kind.clean? (.string (Leaf.keyText w)) = some w := by
  cases kind with
  | any | base64 | ip | md5 | string | uuid | date | datetime | time | decimal | json => cases h; rfl
  | bool =>
    cases h
    generalize cleanBool (.string key) = b
    cases b <;> rfl
  | int | timestamp | uint =>
    rw [clean?] at h ⊢
    exact cleanInteger?_keyText h
  | price =>
    rw [clean?] at h
    obtain ⟨d, -, rfl⟩ := cleanPrice?_eq_some_iff.1 h
    exact cleanPrice?_round d
  | float => exact absurd rfl hk

end Kind

namespace Leaf

variable {l : Leaf} {v w : Json} {p : Path}

theorem clean_eq_ok (h : l.clean v p = .ok w) :
    (v = .null ∧ l.annotations.optional = true ∧ w = .null) ∨ l.kind.clean? v = some w := by
  unfold clean at h
  split at h
  · next hnull =>
    obtain ⟨rfl, ho⟩ := Json.absent_iff.1 hnull
    cases h
    exact .inl ⟨rfl, ho, rfl⟩
  · split at h
    · next u hu => cases h; exact .inr hu
    · cases h

theorem clean_eq_self (h : l.kind.clean? w = some w) (p : Path) : l.clean w p = .ok w := by
  unfold clean
  split
  · next hnull => rw [(Json.absent_iff.1 hnull).1]
  · rw [h]

end Leaf

end RecordSchema

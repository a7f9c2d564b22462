/-
Leaves for addresses: what they accept is said by the numbers of 32 bits that
addresses denote, though the patterns and the bounds are about texts.
-/
import RecordSchema.Proofs.Address
import RecordSchema.Proofs.Leaf.Allowed

namespace RecordSchema

open Address (Dotted)

/-- A bound of an address is the text of one. -/
theorem Kind.exists_dotted_of_isBound {s : Scalar} (h : Kind.ip.IsBound s) : ∃ a : Dotted, s = .text a.text := by
  obtain ⟨v, -, hv⟩ := h
  cases v with
  | string t =>
    simp only [boundScalar?, textScalar?] at hv
    split at hv
    · next hfits =>
      obtain ⟨a, rfl⟩ := fits_ip_iff.1 hfits
      cases hv
      exact ⟨a, rfl⟩
    · cases hv
  | _ => cases hv

namespace Leaf

variable {l : Leaf}

/-- An address is on a side of a bound if its number is on that side of the bound's. -/
theorem not_beyond_iff (side : Ordering) {bound : Option Scalar} (hb : ∀ b, bound = some b → Kind.ip.IsBound b)
    (a : Dotted) : beyond .ip side (.text a.text) bound = false ↔
      ∀ b : Dotted, bound = some (.text b.text) → Ord.compare a.number b.number ≠ side := by
  cases bound with
  | none => simp [beyond]
  | some s =>
    obtain ⟨b, rfl⟩ := Kind.exists_dotted_of_isBound (hb s rfl)
    have hbeyond : ∀ c : Dotted, beyond .ip side (.text a.text) (some (.text c.text)) = false ↔
        Ord.compare a.number c.number ≠ side := by
      simp [beyond, Scalar.compare?, Address.compare_text]
    constructor
    · intro h c hc
      rwa [hc, hbeyond] at h
    · exact fun h => (hbeyond b).2 (h b rfl)

/-- The bounds of a leaf for addresses admit an address exactly if its number is between theirs. -/
theorem checkBounds_dotted_iff (hl : l.Coherent) (hk : l.kind = .ip) (a : Dotted) :
    l.checkBounds (.text a.text) = .ok () ↔
      (∀ lo : Dotted, l.minimum = some (.text lo.text) → lo.number ≤ a.number) ∧
        ∀ hi : Dotted, l.maximum = some (.text hi.text) → a.number ≤ hi.number := by
  have hmin := not_beyond_iff .lt (fun b hb => hk ▸ (hl.minimum b hb).2) a
  have hmax := not_beyond_iff .gt (fun b hb => hk ▸ (hl.maximum b hb).2) a
  rw [checkBounds_eq_ok_iff (by rw [hk]; decide), hk, hmin, hmax]
  simp only [ne_eq, Nat.compare_eq_lt, Nat.compare_eq_gt, Nat.not_lt]

theorem failures_address_iff (hl : l.Coherent) (hk : l.kind = .ip) (ho : l.options = none) {t : String}
    {path : Path} : l.failures (.string t) path = [] ↔ ∃ a : Dotted, t = a.text ∧
      (∀ lo : Dotted, l.minimum = some (.text lo.text) → lo.number ≤ a.number) ∧
        ∀ hi : Dotted, l.maximum = some (.text hi.text) → a.number ≤ hi.number := by
  rw [failures_eq_nil_iff, check_eq_ok_iff]
  simp only [accept, hk, acceptText_eq_ok_iff]
  constructor
  · rintro (⟨⟨⟩, -⟩ | ⟨_, ⟨_, ⟨⟩, hfits, rfl⟩, hchecked⟩)
    obtain ⟨a, rfl⟩ := Kind.fits_ip_iff.1 hfits
    have hbounds := hchecked _ rfl
    rw [checkScalar, ho] at hbounds
    exact ⟨a, rfl, (checkBounds_dotted_iff hl hk a).1 hbounds⟩
  · rintro ⟨a, rfl, hbounds⟩
    refine .inr ⟨_, ⟨_, rfl, Kind.fits_ip_iff.2 ⟨a, rfl⟩, rfl⟩, ?_⟩
    rintro _ ⟨⟩
    rw [checkScalar, ho]
    exact (checkBounds_dotted_iff hl hk a).2 hbounds

/-- **A leaf for addresses accepts the addresses whose numbers are within its bounds**, and all of them if it has
none and no allowed values either. The texts of addresses compare as numbers of 32 bits, and as equal only if they are
one text; and what a leaf has for a bound is such a text, whatever has been called on it. -/
theorem accepts_addresses (hl : l.Reached) (hk : l.kind = .ip) :
    (∀ a b : Dotted, a.number < 2 ^ 32 ∧ Address.compare a.text b.text = Ord.compare a.number b.number ∧
      (Address.compare a.text b.text = .eq ↔ a.text = b.text)) ∧
    (∀ b, l.minimum = some b ∨ l.maximum = some b → ∃ a : Dotted, b = .text a.text) ∧
    (l.options = none → l.minimum = none → l.maximum = none → ∀ t path,
      l.failures (.string t) path = [] ↔ ∃ a : Dotted, t = a.text) ∧
    (l.minimum ≠ none ∨ l.maximum ≠ none → ∀ t path,
      l.failures (.string t) path = [] ↔ ∃ a : Dotted, t = a.text ∧
        (∀ lo : Dotted, l.minimum = some (.text lo.text) → lo.number ≤ a.number) ∧
          ∀ hi : Dotted, l.maximum = some (.text hi.text) → a.number ≤ hi.number) := by
  have hcoherent := hl.coherent
  refine ⟨fun a b => ⟨a.number_lt, Address.compare_text a b, ?_⟩, fun b hb => ?_, fun ho hmin hmax t path => ?_,
    fun hb t path => failures_address_iff hcoherent hk (hcoherent.options_eq_none hb)⟩
  · rw [Address.compare_text, Nat.compare_eq_eq]
    constructor
    · intro h
      rw [Dotted.number_inj h]
    · intro h
      rw [Dotted.text_inj h]
  · have hbound := hb.elim (fun h => (hcoherent.minimum b h).2) fun h => (hcoherent.maximum b h).2
    exact Kind.exists_dotted_of_isBound (hk ▸ hbound)
  · rw [failures_address_iff hcoherent hk ho]
    simp [hmin, hmax]

/-- An address between two others, though its text is before that of the one and after that of the other. -/
theorem accepts_addresses_between :
    let c : Call := .bounds (some (.string "9.255.255.255")) (some (.string "10.0.0.110"))
    let l : Leaf := { bare .ip with minimum := some (.text "9.255.255.255"), maximum := some (.text "10.0.0.110") }
    (bare .ip).after c = l ∧ l.failures (.string "10.0.0.15") .root = [] := by
  intro c l
  have hl : (bare .ip).after c = l := by rfl
  have hc : c.WellFormed := ⟨by rintro v ⟨⟩; decide, by rintro v ⟨⟩; decide⟩
  have hnamed : ofKindName "ip" = .ok (bare .ip) := by rfl
  have hreached : l.Reached := hl ▸ .call (.built (.named hnamed)) hc
  let address : Dotted := ⟨10, 0, 0, 15, by decide, by decide, by decide, by decide⟩
  let least : Dotted := ⟨9, 255, 255, 255, by decide, by decide, by decide, by decide⟩
  let greatest : Dotted := ⟨10, 0, 0, 110, by decide, by decide, by decide, by decide⟩
  obtain ⟨-, -, -, haccepts⟩ := accepts_addresses hreached rfl
  refine ⟨hl, (haccepts (.inl nofun) _ _).2 ⟨address, by decide, fun lo hlo => ?_, fun hi hhi => ?_⟩⟩
  · have htext : least.text = "9.255.255.255" := by decide
    have hsame : least = lo := Dotted.text_inj (htext.trans (by simpa [l] using hlo))
    rw [← hsame]
    decide
  · have htext : greatest.text = "10.0.0.110" := by decide
    have hsame : greatest = hi := Dotted.text_inj (htext.trans (by simpa [l] using hhi))
    rw [← hsame]
    decide

end Leaf

end RecordSchema

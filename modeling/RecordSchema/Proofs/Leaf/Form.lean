/-
Leaves on which nothing is set: they accept what has the form of their kind, and
numbers of a form that can be read.

So what the forms have to do with each other holds of the leaves. A date and a
time with a blank between them make a date with time, a price is a decimal, and
the encoding of bytes in base64 has the form of that kind once there are three of them.
-/
import RecordSchema.Proofs.Base64
import RecordSchema.Proofs.Kind.Calendar
import RecordSchema.Proofs.Leaf.Integer

namespace RecordSchema

namespace Kind

variable {places places' : Nat → Prop} {cs : List Char} {s : String}

/-- A form that admits more counts of places admits more texts. -/
theorem DecimalForm.imp (himp : ∀ n, places n → places' n) (h : DecimalForm places cs) : DecimalForm places' cs := by
  have hfraction : ∀ {fraction}, FractionForm places fraction → FractionForm places' fraction := by
    intro fraction hf
    cases hf with
    | none => exact .none
    | point count digits => exact .point (himp _ count) digits
  cases h with
  | unsigned hw hf => exact .unsigned hw (hfraction hf)
  | signed hw hf => exact .signed hw (hfraction hf)

theorem fits_decimal_of_fits_price (h : Kind.price.fits s = true) : Kind.decimal.fits s = true :=
  fits_decimal_iff.2 ((fits_price_iff.1 h).imp fun _ => And.left)

theorem fits_datetime_iff_exists_append : Kind.datetime.fits s = true ↔
    ∃ d t, s = d ++ " " ++ t ∧ Kind.date.fits d = true ∧ Kind.time.fits t = true := by
  simp only [fits_datetime_iff, fits_date_iff, fits_time_iff]
  constructor
  · rintro ⟨x, y, hs, hx, hy⟩
    refine ⟨String.ofList x, String.ofList y, ?_, by simpa using hx, by simpa using hy⟩
    rw [← String.toList_inj, hs]
    simp
  · rintro ⟨d, t, rfl, hd, ht⟩
    exact ⟨d.toList, t.toList, by simp, hd, ht⟩

end Kind

namespace Leaf

/-- A leaf compares what it makes of a value with nothing. -/
structure Unconstrained (l : Leaf) : Prop where
  options : l.options = none
  minimum : l.minimum = none
  maximum : l.maximum = none

theorem unconstrained_bare (kind : Kind) : (bare kind).Unconstrained := ⟨rfl, rfl, rfl⟩

variable {l : Leaf} {v : Json} {s : String}

theorem Unconstrained.checkScalar (h : l.Unconstrained) (hk : l.kind ≠ .string) (x : Scalar) :
    l.checkScalar x = .ok () :=
  checkScalar_of_unconstrained hk h.options h.minimum h.maximum x

/-- What is not null passes if the kind takes it. -/
theorem Unconstrained.failures_iff (h : l.Unconstrained) (hk : l.kind ≠ .string) (hv : v ≠ .null) (path : Path) :
    l.failures v path = [] ↔ ∃ r, l.accept v = .ok r := by
  rw [failures_eq_nil_iff_check hv, check_eq_ok_iff]
  exact exists_congr fun r => and_iff_left fun x _ => h.checkScalar hk x

/-- A leaf for texts of a form accepts these. -/
theorem Unconstrained.failures_text_iff (h : l.Unconstrained)
    (hk : l.kind = .base64 ∨ l.kind = .date ∨ l.kind = .datetime ∨ l.kind = .time) (s : String) (path : Path) :
    l.failures (.string s) path = [] ↔ l.kind.fits s = true := by
  have hstring : l.kind ≠ .string := by rcases hk with h | h | h | h <;> rw [h] <;> decide
  have haccept : l.accept (.string s) = acceptText l.kind (.string s) := by
    rcases hk with h | h | h | h <;> simp only [accept, h]
  rw [h.failures_iff (v := .string s) hstring (fun h => by cases h), haccept]
  simp [acceptText_eq_ok_iff]

/-- A leaf for decimals accepts numbers and texts that are written in the form of the kind and can be read. -/
theorem Unconstrained.failures_decimal_iff (h : l.Unconstrained) (hk : l.kind.isDecimal = true) (hv : v ≠ .null)
    (path : Path) : l.failures v path = [] ↔ ∃ t d, (v = .string t ∨ ∃ n, v = .number n ∧ n.text = t) ∧
      l.kind.fits t = true ∧ Decimal.ofText? t = some d := by
  have hstring : l.kind ≠ .string := by rintro heq; rw [heq] at hk; cases hk
  have haccept : l.accept v = acceptDecimal l.kind v := by
    cases hkind : l.kind with
    | decimal | price => simp only [accept, hkind]
    | _ => rw [hkind] at hk; cases hk
  rw [h.failures_iff hstring hv, haccept]
  simp only [acceptDecimal_eq_ok_iff, acceptDecimalText_eq_ok_iff]
  constructor
  · rintro ⟨r, t, ht, d, hfits, hd, -⟩
    exact ⟨t, d, ht, hfits, hd⟩
  · rintro ⟨t, d, ht, hfits, hd⟩
    exact ⟨_, t, ht, d, hfits, hd, rfl⟩

/-! ## Forms within forms -/

/-- **The forms agree with each other.** A text is accepted as a date with a time exactly if it is one accepted as a
date, a blank, and one accepted as a time. Whatever is accepted as a price, text or number, is accepted as a decimal. -/
theorem forms_agree {m d t p q : Leaf} (hm : m.kind = .datetime ∧ m.Unconstrained)
    (hd : d.kind = .date ∧ d.Unconstrained) (ht : t.kind = .time ∧ t.Unconstrained)
    (hp : p.kind = .price ∧ p.Unconstrained) (hq : q.kind = .decimal ∧ q.Unconstrained) (path : Path) :
    (∀ s, m.failures (.string s) path = [] ↔
      ∃ x y, s = x ++ " " ++ y ∧ d.failures (.string x) path = [] ∧ t.failures (.string y) path = []) ∧
    ∀ v, v ≠ .null → p.failures v path = [] → q.failures v path = [] := by
  obtain ⟨hm, hmfree⟩ := hm
  obtain ⟨hd, hdfree⟩ := hd
  obtain ⟨ht, htfree⟩ := ht
  obtain ⟨hp, hpfree⟩ := hp
  obtain ⟨hq, hqfree⟩ := hq
  refine ⟨fun s => ?_, fun v hv hprice => ?_⟩
  · simp only [hmfree.failures_text_iff (.inr (.inr (.inl hm))), hdfree.failures_text_iff (.inr (.inl hd)),
      htfree.failures_text_iff (.inr (.inr (.inr ht))), hm, hd, ht]
    exact Kind.fits_datetime_iff_exists_append
  · rw [hpfree.failures_decimal_iff (by rw [hp]; rfl) hv, hp] at hprice
    obtain ⟨text, x, htext, hfits, hread⟩ := hprice
    rw [hqfree.failures_decimal_iff (by rw [hq]; rfl) hv, hq]
    exact ⟨text, x, htext, Kind.fits_decimal_of_fits_price hfits, hread⟩

/-- The last second of a leap day is put together, and a price below zero is a decimal. -/
theorem forms_agree_leapDay :
    (bare .datetime).failures (.string "2024-02-29 23:59:59") .root = [] ∧
      (bare .decimal).failures (.string "-0.50") .root = [] := by
  obtain ⟨hdatetime, hprice⟩ := forms_agree (m := bare .datetime) (d := bare .date) (t := bare .time)
    (p := bare .price) (q := bare .decimal) ⟨rfl, unconstrained_bare _⟩ ⟨rfl, unconstrained_bare _⟩
    ⟨rfl, unconstrained_bare _⟩ ⟨rfl, unconstrained_bare _⟩ ⟨rfl, unconstrained_bare _⟩ .root
  have hday : (bare .date).failures (.string "2024-02-29") .root = [] :=
    ((unconstrained_bare _).failures_text_iff (.inr (.inl rfl)) _ _).2 (by decide +kernel)
  have hsecond : (bare .time).failures (.string "23:59:59") .root = [] :=
    ((unconstrained_bare _).failures_text_iff (.inr (.inr (.inr rfl))) _ _).2 (by decide +kernel)
  have hread : Decimal.ofText? "-0.50" = some ⟨-50, 2⟩ := by decide +kernel
  have hhalf : (bare .price).failures (.string "-0.50") .root = [] :=
    ((unconstrained_bare _).failures_decimal_iff rfl (fun h => by cases h) _).2
      ⟨_, _, .inl rfl, by decide +kernel, hread⟩
  exact ⟨(hdatetime _).2 ⟨_, _, by decide, hday, hsecond⟩, hprice _ (fun h => by cases h) hhalf⟩

/-! ## Encoded bytes -/

/-- **The encoding of bytes is accepted exactly if there are three of them or more.** -/
theorem accepts_encoded_bytes (hk : l.kind = .base64) (h : l.Unconstrained) (bs : List UInt8) (path : Path) :
    l.failures (.string (String.ofList (Base64.encode bs))) path = [] ↔ 3 ≤ bs.length := by
  rw [h.failures_text_iff (.inl hk), hk]
  exact Base64.fits_encode_iff bs

theorem accepts_encoded_bytes_four :
    Base64.encode [0, 255, 16, 131] = "AP8Qgw==".toList ∧ (bare .base64).failures (.string "AP8Qgw==") .root = [] := by
  have hencode : Base64.encode [0, 255, 16, 131] = "AP8Qgw==".toList := by decide +kernel
  have haccepted := (accepts_encoded_bytes rfl (unconstrained_bare .base64) [0, 255, 16, 131] .root).2 (by decide)
  rw [hencode, String.ofList_toList] at haccepted
  exact ⟨hencode, haccepted⟩

/-- A single byte has an encoding, of a group of four with padding, that is refused. -/
theorem refuses_encoded_byte :
    Base64.encode [65] = "QQ==".toList ∧ (bare .base64).accepts (.string "QQ==") = false := by decide +kernel

end Leaf

end RecordSchema

/-
Cleaning an accepted value gives one that is accepted again, and for the same
scalar: options and bounds come out as they did.

Only prices are rewritten to another scalar, which has the same value at two
places, so nothing that goes by value tells the two apart
(`checkScalar_of_value_eq`).
-/
import RecordSchema.Proofs.Leaf.Clean
import RecordSchema.Proofs.Number.Value

namespace RecordSchema

namespace Kind

theorem isBoolLike_boolText (b : Bool) : isBoolLike (.string (Json.boolText b)) = true := by
  cases b <;> decide

end Kind

namespace Leaf

variable {l : Leaf} {v w : Json}

/-- A value as the key of a hash: a string itself, any other value as JSON text. -/
def keyText : Json → String
  | .string s => s
  | v => v.text

theorem accept_of_isInteger (hk : l.kind.isInteger = true) (v : Json) :
    l.accept v = acceptInteger l.kind v := by
  obtain ⟨annotations, kind, pattern, options, minimum, maximum⟩ := l
  cases kind <;> first | rfl | cases hk

/-- Decimals of one value meet the same options and bounds. -/
theorem checkScalar_of_value_eq (l : Leaf) {x y : Decimal} (h : x.value = y.value) :
    l.checkScalar (.decimal x) = l.checkScalar (.decimal y) := by
  have hsame : ∀ o : Scalar, o.same (.decimal x) = o.same (.decimal y) := by
    intro o
    cases o with
    | decimal z => simp only [Scalar.same, Decimal.same, Decimal.compare_congr h z]
    | _ => rfl
  have hbeyond : ∀ side bound, beyond l.kind side (.decimal x) bound =
      beyond l.kind side (.decimal y) bound := by
    intro side bound
    cases bound with
    | none => rfl
    | some o =>
      cases o with
      | decimal z => simp only [beyond, Scalar.compare?, Decimal.compare_congr h z]
      | _ => rfl
  have hbounds : l.checkBounds (.decimal x) = l.checkBounds (.decimal y) := by
    simp only [checkBounds, hbeyond]
  simp only [checkScalar, hsame, hbounds]

theorem accept_clean? {r : Option Scalar} (hv : v.WellFormed)
    (hj : l.kind = .json → v.isString = false → (Json.parse? v.text).isSome = true) (h : l.accept v = .ok r)
    (hw : l.kind.clean? v = some w) :
    ∃ r', l.accept w = .ok r' ∧
      (r' = r ∨ ∃ d : Decimal, d.scale ≤ 2 ∧ r = some (.decimal d) ∧ r' = some (.decimal (d.round 2))) := by
  obtain ⟨annotations, kind, pattern, options, minimum, maximum⟩ := l
  cases kind with
  | any => cases hw; exact ⟨r, h, .inl rfl⟩
  | base64 | date | datetime | ip | md5 | time | uuid =>
    obtain ⟨s, rfl, -⟩ := acceptText_eq_ok_iff.1 h
    cases hw
    exact ⟨r, h, .inl rfl⟩
  | string =>
    obtain ⟨s, rfl⟩ := isString_of_acceptString h
    cases hw
    exact ⟨r, h, .inl rfl⟩
  | bool =>
    cases hw
    simp only [accept] at h
    split at h
    · cases h; exact ⟨none, rfl, .inl rfl⟩
    · cases h
  | int | timestamp | uint =>
    obtain ⟨n, hn, hsign, rfl⟩ := acceptInteger_eq_ok_iff.1 h
    rw [Kind.clean?, Kind.cleanInteger?_of_integer? rfl hv hn] at hw
    cases hw
    exact ⟨_, (acceptInteger_eq_ok_iff (v := .number (.int n))).2 ⟨n, rfl, hsign, rfl⟩, .inl rfl⟩
  | decimal =>
    obtain ⟨text, rfl | ⟨n, rfl, rfl⟩, htext⟩ := acceptDecimal_eq_ok_iff.1 h
    · cases hw; exact ⟨r, h, .inl rfl⟩
    · cases hw; exact ⟨r, htext, .inl rfl⟩
  | price =>
    obtain ⟨d, rfl, ⟨hplain, hscale⟩, hclean⟩ := Kind.cleanPrice?_of_acceptDecimal h
    rw [Kind.clean?, hclean] at hw
    cases hw
    have hround : (d.round 2).Plain := d.plain_round (by decide)
    have hfits := Decimal.fits_price_text hround.1 (Int.le_of_eq (d.scale_round 2))
    have haccept : acceptDecimalText .price (d.round 2).text = .ok (some (.decimal (d.round 2))) :=
      acceptDecimalText_eq_ok_iff.2 ⟨_, hfits, Decimal.ofText?_text hround, rfl⟩
    exact ⟨_, haccept, .inr ⟨d, hscale, rfl, rfl⟩⟩
  | float =>
    obtain ⟨x, hx, rfl⟩ := acceptFloat_eq_ok_iff.1 h
    rw [Kind.clean?, Kind.cleanFloat?_of_floatOf? hx] at hw
    cases x with
    | finite y => cases hw; exact ⟨_, rfl, .inl rfl⟩
    | infinite negative => cases hw
  | json =>
    cases hw
    obtain ⟨hparse, rfl⟩ := acceptJson_eq_ok_iff.1 h
    refine ⟨none, acceptJson_eq_ok_iff.2 ⟨?_, rfl⟩, .inl rfl⟩
    intro s hs
    cases v with
    | string t => cases hs; exact hparse s rfl
    | _ => cases hs; exact hj rfl rfl

/-- **A value that passes still does once it is cleaned.** -/
theorem check_clean? (hv : v.WellFormed)
    (hj : l.kind = .json → v.isString = false → (Json.parse? v.text).isSome = true)
    (h : l.check v = .ok ()) (hw : l.kind.clean? v = some w) : l.check w = .ok () := by
  obtain ⟨r, hr, hscalar⟩ := check_eq_ok_iff.1 h
  obtain ⟨r', hr', rfl | ⟨d, hd, rfl, rfl⟩⟩ := accept_clean? hv hj hr hw
  · exact check_eq_ok_iff.2 ⟨r', hr', hscalar⟩
  · refine check_eq_ok_iff.2 ⟨_, hr', ?_⟩
    rintro s rfl'
    cases rfl'
    rw [checkScalar_of_value_eq l (Decimal.value_round hd)]
    exact hscalar _ rfl

/-- What cleaning makes of an accepted value: the value itself, a bool, a number, or a text that can
be read. -/
theorem clean?_cases {r : Option Scalar} (hv : v.WellFormed)
    (hj : l.kind = .json → v.isString = false → (Json.parse? v.text).isSome = true) (h : l.accept v = .ok r)
    (hw : l.kind.clean? v = some w) :
    w = v ∨ (∃ b, w = .bool b) ∨ (∃ n, w = .number n) ∨
      ∃ s, w = .string s ∧ ((Decimal.ofText? s).isSome = true ∨ (Json.parse? s).isSome = true) := by
  obtain ⟨annotations, kind, pattern, options, minimum, maximum⟩ := l
  cases kind with
  | any => cases hw; exact .inl rfl
  | base64 | date | datetime | ip | md5 | time | uuid =>
    obtain ⟨s, rfl, -⟩ := acceptText_eq_ok_iff.1 h
    cases hw
    exact .inl rfl
  | string =>
    obtain ⟨s, rfl⟩ := isString_of_acceptString h
    cases hw
    exact .inl rfl
  | bool => cases hw; exact .inr (.inl ⟨_, rfl⟩)
  | int | timestamp | uint =>
    obtain ⟨n, hn, -, -⟩ := acceptInteger_eq_ok_iff.1 h
    rw [Kind.clean?, Kind.cleanInteger?_of_integer? rfl hv hn] at hw
    cases hw
    exact .inr (.inr (.inl ⟨_, rfl⟩))
  | decimal =>
    obtain ⟨text, htext, hd⟩ := acceptDecimal_eq_ok_iff.1 h
    obtain ⟨d, -, hd, -⟩ := acceptDecimalText_eq_ok_iff.1 hd
    rcases htext with rfl | ⟨n, rfl, rfl⟩
    · cases hw; exact .inl rfl
    · cases hw; exact .inr (.inr (.inr ⟨_, rfl, .inl (by rw [hd]; rfl)⟩))
  | price =>
    obtain ⟨d, -, ⟨-, hscale⟩, hclean⟩ := Kind.cleanPrice?_of_acceptDecimal h
    rw [Kind.clean?, hclean] at hw
    cases hw
    have hround := Decimal.ofText?_text (d.plain_round (s := 2) (by decide))
    exact .inr (.inr (.inr ⟨_, rfl, .inl (by rw [hround]; rfl)⟩))
  | float =>
    obtain ⟨x, hx, rfl⟩ := acceptFloat_eq_ok_iff.1 h
    rw [Kind.clean?, Kind.cleanFloat?_of_floatOf? hx] at hw
    cases x with
    | finite y => cases hw; exact .inr (.inr (.inl ⟨_, rfl⟩))
    | infinite negative => cases hw
  | json =>
    cases hw
    cases v with
    | string t => exact .inl rfl
    | _ => exact .inr (.inr (.inr ⟨_, rfl, .inr (hj rfl rfl)⟩))

/-- Where floating-point keys are left out, a cleaned key is taken for the same scalar as a text. -/
theorem accept_keyText {key : String} {r : Option Scalar} (hk : l.kind ≠ .float)
    (h : l.accept (.string key) = .ok r) (hw : l.kind.clean? (.string key) = some w) :
    l.accept (.string (keyText w)) = l.accept w := by
  obtain ⟨annotations, kind, pattern, options, minimum, maximum⟩ := l
  cases kind with
  | any | base64 | date | datetime | decimal | ip | json | md5 | string | time | uuid => cases hw; rfl
  | price =>
    rw [Kind.clean?, Kind.cleanPrice?, Kind.cleanPriceText?, Option.map_eq_some_iff] at hw
    obtain ⟨d, -, rfl⟩ := hw
    rfl
  | bool =>
    cases hw
    generalize Kind.cleanBool (.string key) = b
    simp only [accept, keyText, Json.text, Kind.isBoolLike_boolText]
    rfl
  | int | timestamp | uint =>
    rw [accept_of_isInteger rfl, acceptInteger_eq_ok_iff] at h
    obtain ⟨n, hn, hsign, rfl⟩ := h
    rw [Kind.clean?, Kind.cleanInteger?_of_integer? rfl (Json.wellFormed_string key) hn] at hw
    cases hw
    have hbounds : n.natAbs < Number.int64Bound := by
      rcases Kind.integer?_eq_some_iff.1 hn with hkey | ⟨s, -, -, hs⟩
      · cases hkey
      · have := Number.intLiteral?_bounds hs
        omega
    have hread : ∀ u, Kind.integer? _ u = some n → acceptInteger _ u = .ok (some (.int n)) :=
      fun u hu => acceptInteger_eq_ok_iff.2 ⟨n, hu, hsign, rfl⟩
    rw [accept_of_isInteger rfl, accept_of_isInteger rfl, hread (.number (.int n)) rfl]
    refine hread _ (Kind.integer?_eq_some_iff.2 (.inr ⟨Text.ofInt n, rfl, ?_, Number.intLiteral?_ofInt hbounds⟩))
    rw [Kind.fits_of_isInteger rfl]
    exact Kind.fits_ofInt n
  | float => exact absurd rfl hk

/-- A key that passes still does once it is cleaned and written as a key again. -/
theorem check_keyText {key : String} (hk : l.kind ≠ .float) (h : l.check (.string key) = .ok ())
    (hw : l.kind.clean? (.string key) = some w) : l.check (.string (keyText w)) = .ok () := by
  obtain ⟨r, hr, -⟩ := check_eq_ok_iff.1 h
  rw [check, accept_keyText hk hr hw]
  exact check_clean? (Json.wellFormed_string key) (fun _ hs => by cases hs) h hw

end Leaf

end RecordSchema

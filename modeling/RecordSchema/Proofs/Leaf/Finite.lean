/-
Infinite numbers in leaves of floating-point numbers. A decimal text may write
a value beyond the format (`Json.Overflows`); it is read all the same, as an
infinity. So an option or a bound is finite exactly if what was given for it
does not overflow, and only a leaf of finite ones is compiled from its fragment
to itself again. A text that overflows may pass the check, but it is not
cleaned.
-/
import RecordSchema.Proofs.Leaf.Given
import RecordSchema.Proofs.Number.FloatText

namespace RecordSchema

namespace Json

/-- A text that writes a value beyond the floating-point format. -/
def Overflows (v : Json) : Prop := ∃ t q, v = string t ∧ Text.Writes t q ∧ Binary64.limit ≤ |q|

theorem not_overflows_number (n : Number) : ¬ (number n).Overflows := by
  rintro ⟨t, q, h, -⟩
  cases h

end Json

namespace Kind

variable {v : Json} {x : Extended} {s : Scalar}

theorem reads_float_iff : Kind.float.Reads v s ↔ ∃ x, floatOf? v = some x ∧ s = .float x := by
  simp [Reads, optionScalar?, boundScalar?, numberScalar?, @eq_comm _ s]

/-- What is read of a value is finite exactly if the value does not overflow. -/
theorem finite_floatOf?_iff (hv : v.WellFormed) (h : floatOf? v = some x) :
    x.finite?.isSome = true ↔ ¬ v.Overflows := by
  rcases floatOf?_eq_some_iff.1 h with ⟨n, rfl, rfl⟩ | ⟨t, rfl, hfits, hx⟩
  · have hfinite : n.toExtended.finite?.isSome = true := by
      cases n with
      | int n =>
        obtain ⟨y, hy⟩ := Extended.ofInt_finite hv.bounds
        rw [Json.Number.toExtended, hy]
        rfl
      | float y => rfl
    exact iff_of_true hfinite (Json.not_overflows_number n)
  · have hwrites : ∀ q, Text.Writes t q → (x.finite?.isSome = true ↔ |q| < Binary64.limit) := by
      intro q hq
      obtain ⟨x', hx', hiff⟩ := Extended.finite_ofText?_iff hq
      rwa [Option.some.inj (hx.symm.trans hx')]
    constructor
    · rintro hfinite ⟨_, q, ⟨⟩, hq, hlimit⟩
      exact absurd ((hwrites q hq).1 hfinite) (not_lt.2 hlimit)
    · intro hover
      obtain ⟨q, hq⟩ := Text.exists_writes hfits hx
      exact (hwrites q hq).2 (not_le.1 fun hlimit => hover ⟨t, q, rfl, hq, hlimit⟩)

end Kind

namespace Leaf

variable {l : Leaf} {given : List Json} {cs : List Call}

/-! ## Options and bounds -/

theorem isFinite_float_iff {x : Extended} : (Scalar.float x).IsFinite ↔ x.finite?.isSome = true := by
  cases x <;> simp [Scalar.IsFinite, Extended.finite?]

/-- An option or a bound is finite exactly if what it is read from does not overflow. -/
theorem Holds.exists_isFinite_iff (h : Holds .float given l) (hg : ∀ v ∈ given, v.WellFormed) :
    ∀ s ∈ l.scalars, ∃ v ∈ given, Kind.float.Reads v s ∧ (s.IsFinite ↔ ¬ v.Overflows) := by
  intro s hs
  obtain ⟨v, hv, hread⟩ := h.read s hs
  obtain ⟨x, hx, rfl⟩ := Kind.reads_float_iff.1 hread
  exact ⟨v, hv, hread, isFinite_float_iff.trans (Kind.finite_floatOf?_iff (hg v hv) hx)⟩

/-- A finite number is exported as a number, and an infinite one as null. -/
theorem Holds.toJson_eq_number_iff (h : Holds .float given l) :
    ∀ s ∈ l.scalars, (∃ n, s.toJson = .number n) ↔ s.IsFinite := by
  intro s hs
  obtain ⟨v, -, hread⟩ := h.read s hs
  obtain ⟨x, -, rfl⟩ := Kind.reads_float_iff.1 hread
  rw [isFinite_float_iff]
  cases x <;> simp [Scalar.toJson, Extended.finite?]

/-- What a leaf exports is not read as an infinite number again. -/
theorem finiteFloats_of_ofFragment_toFragment (h : Holds .float given l) (ha : l.annotations.Coherent)
    (hl : ofFragment l.toFragment = .ok l) : l.FiniteFloats := by
  have hself := holds_ofMembers hl
  rw [h.kind_eq] at hself
  intro s hs
  obtain ⟨v, hv, hread⟩ := hself.read s hs
  obtain ⟨x, hx, rfl⟩ := Kind.reads_float_iff.1 hread
  change v ∈ l.toFragment.constraintValues at hv
  rw [constraintValues_toFragment ha, List.mem_map] at hv
  obtain ⟨s', hs', rfl⟩ := hv
  obtain ⟨_, _, hread'⟩ := h.read s' hs'
  obtain ⟨x', -, rfl⟩ := Kind.reads_float_iff.1 hread'
  cases x' with
  | finite y =>
    rw [isFinite_float_iff, ← Option.some.inj hx]
    rfl
  | infinite negative => simp [Scalar.toJson, Kind.floatOf?] at hx

theorem ofFragment_toFragment_iff (h : Holds .float given l) (hl : l.Coherent) :
    ofFragment l.toFragment = .ok l ↔ l.FiniteFloats :=
  ⟨finiteFloats_of_ofFragment_toFragment h hl.annotations, ofMembers_members hl⟩

/-! ## Texts -/

/-- A text that passes writes a value, and is cleaned exactly if that is not beyond the format. -/
theorem clean_text_of_float (hk : l.kind = .float) {t : String} {path : Path}
    (h : l.failures (.string t) path = []) : ∃ q, Text.Writes t q ∧
      (|q| < Binary64.limit ∧ (∃ y, l.clean (.string t) path = .ok (.number (.float y))) ∨
        Binary64.limit ≤ |q| ∧
          l.clean (.string t) path = .error ⟨path, .unconvertible .float (Json.string t).text⟩) := by
  have hc := ((failures_eq_nil_iff l _ path).1 h).resolve_left (by simp)
  obtain ⟨r, hr, -⟩ := check_eq_ok_iff.1 hc
  simp only [accept, hk] at hr
  obtain ⟨x, hx, rfl⟩ := acceptFloat_eq_ok_iff.1 hr
  obtain ⟨_, ⟨⟩, hfits, hread⟩ := (Kind.floatOf?_eq_some_iff.1 hx).resolve_left (by simp)
  obtain ⟨q, hq⟩ := Text.exists_writes hfits hread
  obtain ⟨x', hread', hiff⟩ := Extended.finite_ofText?_iff hq
  obtain rfl := Option.some.inj (hread.symm.trans hread')
  have hclean : Kind.float.clean? (.string t) = x.finite?.map fun y => .number (.float y) := by
    simp only [Kind.clean?, Kind.cleanFloat?_of_floatOf? hx]
  refine ⟨q, hq, ?_⟩
  cases x with
  | finite y =>
    have hbelow : |q| < Binary64.limit := hiff.1 (by simp [Extended.finite?])
    exact .inl ⟨hbelow, y, by simp [clean, Json.isNull, hk, hclean, Extended.finite?]⟩
  | infinite negative =>
    have hlimit : Binary64.limit ≤ |q| := not_lt.1 fun hlt => by simpa [Extended.finite?] using hiff.2 hlt
    exact .inr ⟨hlimit, by simp [clean, Json.isNull, hk, hclean, Extended.finite?]⟩

/-- **What is finite in a leaf of floating-point numbers**, however it is configured: each option and bound
exactly if what was given for it does not overflow. The fragment has a number for each of them, and is compiled
to the leaf again, exactly if all are finite. And a text that passes is cleaned exactly if it does not
overflow. -/
theorem float_afterAll_isFinite_iff (hl : BuiltFrom given l) (hk : l.kind = .float)
    (hc : ∀ c ∈ cs, c.WellFormed) :
    let r := l.afterAll cs
    (∀ s ∈ r.scalars, ∃ v ∈ given ++ cs.flatMap Call.given, Kind.float.Reads v s ∧
      (s.IsFinite ↔ ¬ v.Overflows)) ∧
    ((∀ v ∈ r.toFragment.constraintValues, ∃ n, v = .number n) ↔ r.FiniteFloats) ∧
    (ofFragment r.toFragment = .ok r ↔ r.FiniteFloats) ∧
    ∀ t path, r.failures (.string t) path = [] → ∃ q, Text.Writes t q ∧
      (|q| < Binary64.limit ∧ (∃ y, r.clean (.string t) path = .ok (.number (.float y))) ∨
        Binary64.limit ≤ |q| ∧
          r.clean (.string t) path = .error ⟨path, .unconvertible .float (Json.string t).text⟩) := by
  intro r
  have hholds : Holds .float (given ++ cs.flatMap Call.given) r := hk ▸ hl.holds.afterAll cs
  have hcoherent : r.Coherent := hl.built.coherent.afterAll hc
  have hgiven : ∀ v ∈ given ++ cs.flatMap Call.given, v.WellFormed := by
    rw [List.forall_mem_append]
    refine ⟨hl.wellFormed, fun v hv => ?_⟩
    obtain ⟨c, hmem, hv⟩ := List.mem_flatMap.1 hv
    exact Call.wellFormed_given (hc c hmem) v hv
  refine ⟨hholds.exists_isFinite_iff hgiven, ?_, ofFragment_toFragment_iff hholds hcoherent,
    fun t path => clean_text_of_float hholds.kind_eq⟩
  rw [constraintValues_toFragment hcoherent.annotations, List.forall_mem_map]
  exact forall₂_congr hholds.toJson_eq_number_iff

/-- A number as the minimum. -/
theorem float_afterAll_isFinite_iff_minimum :
    let c : Call := .bounds (some (.number (.int 1))) none
    let r := (bare .float).afterAll [c]
    BuiltFrom [] (bare .float) ∧ c.WellFormed ∧ r.minimum = some (.float (.ofInt 1)) ∧ r.FiniteFloats ∧
      ofFragment r.toFragment = .ok r := by
  intro c r
  have hl : BuiltFrom [] (bare .float) := @BuiltFrom.named "float" _ (by rfl)
  have hc : c.WellFormed := ⟨by rintro v ⟨⟩; decide, by simp⟩
  obtain ⟨hscalars, -, hself, -⟩ := float_afterAll_isFinite_iff hl rfl (List.forall_mem_singleton.2 hc)
  have hfinite : r.FiniteFloats := by
    intro s hs
    obtain ⟨v, hv, -, hiff⟩ := hscalars s hs
    obtain rfl : v = .number (.int 1) := by simpa [c, Call.given] using hv
    exact hiff.2 (Json.not_overflows_number _)
  exact ⟨hl, hc, by rfl, hfinite, hself.2 hfinite⟩

/-- A text that is read as an infinity is one as the maximum too and is lost in the fragment, and as a value
it passes but is not cleaned. -/
theorem infinite_maximum {t : String} (h : Kind.floatOf? (.string t) = some (.infinite false)) :
    let r := (bare .float).afterAll [.bounds none (some (.string t))]
    r.maximum = some (.float (.infinite false)) ∧ r.toFragment.constraintValues = [.null] ∧
      ofFragment r.toFragment = .ok (bare .float) ∧ r.failures (.string t) .root = [] ∧
      r.clean (.string t) .root = .error ⟨.root, .unconvertible .float (Json.string t).text⟩ := by
  intro r
  have hr : r = ⟨.plain, .float, none, none, none, some (.float (.infinite false))⟩ := by
    simp [r, afterAll, after, Call.change, perform_assignBounds, boundOr, bare, Kind.supportsBounds,
      Kind.boundScalar?, Kind.numberScalar?, h, inverted]
  have hcheck : r.check (.string t) = .ok () := by
    simp [hr, check, accept, acceptFloat, h, checkScalar, checkBounds, beyond, Scalar.compare?,
      Extended.compare]
  have hclean : Kind.float.clean? (.string t) = none := by
    simp [Kind.clean?, Kind.cleanFloat?_of_floatOf? h, Extended.finite?]
  refine ⟨by rw [hr], by rw [hr]; rfl, by rw [hr]; rfl, (failures_eq_nil_iff r _ _).2 (.inr hcheck), ?_⟩
  simp [hr, clean, Json.isNull, hclean]

/-- One followed by three hundred and ten zeros. -/
theorem exists_infinite_maximum :
    let t := String.ofList (Text.decimal (10 ^ 310))
    let r := (bare .float).afterAll [.bounds none (some (.string t))]
    r.maximum = some (.float (.infinite false)) ∧ r.toFragment.constraintValues = [.null] ∧
      ofFragment r.toFragment = .ok (bare .float) ∧ r.failures (.string t) .root = [] ∧
      r.clean (.string t) .root = .error ⟨.root, .unconvertible .float (Json.string t).text⟩ := by
  intro t
  have hread : Extended.ofText? t = some (.infinite false) :=
    (Extended.ofText?_numeral _).trans (by decide +kernel)
  exact infinite_maximum (by simp only [Kind.floatOf?, t, Text.fits_numeral, if_true]; exact hread)

end Leaf

end RecordSchema

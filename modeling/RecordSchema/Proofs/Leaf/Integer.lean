/-
Leaves for integers: the texts that they accept, and how a text fares beside
the number that it denotes.

The check reads a text by the pattern and as a literal, cleaning as a literal
alone. The magnitude of a literal is read before its sign, and that of the least
integer of 64 bits is too great: no text gives that integer, only a number does
(`Kind.unread_ofInt`).
-/
import RecordSchema.Proofs.Leaf.Stable

namespace RecordSchema

namespace Kind

variable {kind : Kind} {t : String} {n : Int}

/-- The integer of a text, for a kind of integers. -/
theorem integer?_string_iff (hk : kind.isInteger = true) :
    kind.integer? (.string t) = some n ↔ IntegerForm t.toList n ∧ n.natAbs ≤ 2 ^ 63 - 1 := by
  have hread : kind.integer? (.string t) = some n ↔
      Kind.int.fits t = true ∧ Number.intLiteral? t = some n := by
    simp [integer?_eq_some_iff, fits_of_isInteger hk]
  rw [hread, fits_int_iff, Number.intLiteral?_eq_some_iff, integerForm_iff, and_assoc]

theorem integer?_string_ofInt (h : n.natAbs < Number.int64Bound) :
    int.integer? (.string (Text.ofInt n)) = some n := by
  simp only [integer?, fits_ofInt, if_true, Number.intLiteral?_ofInt h]

/-- The text of an integer whose magnitude is too great is neither read nor cleaned. -/
theorem unread_ofInt (h : 2 ^ 63 ≤ n.natAbs) :
    int.integer? (.string (Text.ofInt n)) = none ∧ int.clean? (.string (Text.ofInt n)) = none := by
  have hnone := Number.intLiteral?_ofInt_eq_none h
  constructor
  · simp only [integer?, fits_ofInt, if_true, hnone]
  · simp only [clean?, cleanInteger?, trim_of_fits_int (fits_ofInt n), hnone, Option.map_none]

end Kind

namespace Leaf

open Kind (IntegerForm)

variable {l : Leaf} {v : Json} {t : String} {n : Int} {path : Path}

/-- The check of a leaf for integers goes by the integer of a value. -/
theorem check_of_isInteger (hk : l.kind.isInteger = true) (hv : ∀ b, v ≠ .bool b) :
    l.check v = match l.kind.integer? v with
      | none => .error .notAnInteger
      | some n => if l.kind.isUnsigned = true ∧ n < 0 then .error .signed else l.checkScalar (.int n) := by
  have haccept : acceptInteger l.kind v = match l.kind.integer? v with
      | none => .error .notAnInteger
      | some n => if l.kind.isUnsigned && n < 0 then .error .signed else .ok (some (.int n)) := by
    cases v with
    | bool b => exact absurd rfl (hv b)
    | _ => rfl
  rw [check, accept_of_isInteger hk, haccept]
  cases l.kind.integer? v with
  | none => rfl
  | some n =>
    by_cases hsign : l.kind.isUnsigned = true ∧ n < 0
    · simp [hsign]
    · have hsign' : ¬ (l.kind.isUnsigned && decide (n < 0)) = true := by simpa using hsign
      simp only [if_neg hsign, if_neg hsign']

/-- The check of a text that denotes an integer: its magnitude first, then its sign, then options and bounds. -/
theorem check_of_integerForm (hk : l.kind.isInteger = true) (hform : IntegerForm t.toList n) :
    l.check (.string t) =
      if n.natAbs ≤ 2 ^ 63 - 1 then
        if l.kind.isUnsigned = true ∧ n < 0 then .error .signed else l.checkScalar (.int n)
      else .error .notAnInteger := by
  rw [check_of_isInteger hk (fun _ h => by cases h)]
  by_cases hbound : n.natAbs ≤ 2 ^ 63 - 1
  · rw [(Kind.integer?_string_iff hk).2 ⟨hform, hbound⟩, if_pos hbound]
  · have hnone : l.kind.integer? (.string t) = none := by
      rw [Option.eq_none_iff_forall_ne_some]
      intro m hm
      obtain ⟨hform', hbound'⟩ := (Kind.integer?_string_iff hk).1 hm
      exact hbound (hform'.literal.unique hform.literal ▸ hbound')
    rw [hnone, if_neg hbound]

theorem exists_integerForm_of_check (hk : l.kind.isInteger = true) (h : l.check (.string t) = .ok ()) :
    ∃ n, IntegerForm t.toList n := by
  obtain ⟨r, hr, -⟩ := check_eq_ok_iff.1 h
  rw [accept_of_isInteger hk, acceptInteger_eq_ok_iff] at hr
  obtain ⟨n, hn, -⟩ := hr
  exact ⟨n, ((Kind.integer?_string_iff hk).1 hn).1⟩

theorem checkScalar_of_unconstrained (hk : l.kind ≠ .string) (ho : l.options = none) (hmin : l.minimum = none)
    (hmax : l.maximum = none) (s : Scalar) : l.checkScalar s = .ok () := by
  simp [checkScalar, checkBounds, beyond, hk, ho, hmin, hmax]

/-- A value that is read as an integer is cleaned to it. -/
theorem clean_of_integer? (hk : l.kind.isInteger = true) (hv : v.WellFormed) (h : l.kind.integer? v = some n)
    (path : Path) : l.clean v path = .ok (.number (.int n)) := by
  have hclean : l.kind.clean? v = some (.number (.int n)) := by
    have hinteger := Kind.cleanInteger?_of_integer? hk hv h
    cases hkind : l.kind with
    | int | timestamp | uint => exact hinteger
    | _ => rw [hkind] at hk; cases hk
  have hnull : v.isNull = false := by
    cases v with
    | null => cases h
    | _ => rfl
  simp [clean, hnull, hclean]

/-- A text that is refused is refused for one reason. -/
theorem check_of_mem_failures {f : Failure} (h : f ∈ l.failures (.string t) path) :
    l.check (.string t) = .error f.reason := by
  rw [failures, if_neg (by simp [Json.isNull])] at h
  split at h
  · cases h
  · next reason hcheck =>
    cases List.mem_singleton.1 h
    exact hcheck

/-- **The texts that a leaf for integers accepts** are the zero, the decimals that start with no zero, perhaps after
a sign, and the hexadecimal and octal numbers behind their marks, if the magnitude is at most `2 ^ 63 - 1` and, for
the kinds without negative values, the integer is not negative. A text that is accepted is cleaned to the integer that
it denotes. A text of ASCII characters that the pattern takes is refused for no reason but its magnitude or its sign. -/
theorem accepts_integer_texts (hk : l.kind = .int ∨ l.kind = .uint ∨ l.kind = .timestamp) (ho : l.options = none)
    (hmin : l.minimum = none) (hmax : l.maximum = none) (t : String) (path : Path) :
    (l.failures (.string t) path = [] ↔
      ∃ n, IntegerForm t.toList n ∧ n.natAbs ≤ 2 ^ 63 - 1 ∧ (l.kind = .int ∨ 0 ≤ n)) ∧
    (∀ n, IntegerForm t.toList n → l.failures (.string t) path = [] →
      l.clean (.string t) path = .ok (.number (.int n))) ∧
    ((∀ c ∈ t.toList, c.toNat < 128) → Kind.int.fits t = true → ∀ f ∈ l.failures (.string t) path,
      ∃ n, IntegerForm t.toList n ∧ (f.reason = .notAnInteger ∧ 2 ^ 63 ≤ n.natAbs ∨
        f.reason = .signed ∧ l.kind ≠ .int ∧ n < 0)) := by
  have hinteger : l.kind.isInteger = true := by rcases hk with h | h | h <;> rw [h] <;> rfl
  have hunsigned : l.kind.isUnsigned = true ↔ l.kind ≠ .int := by rcases hk with h | h | h <;> rw [h] <;> decide
  have hstring : l.kind ≠ .string := by rcases hk with h | h | h <;> rw [h] <;> decide
  have hcheck : ∀ n, IntegerForm t.toList n → l.check (.string t) =
      if n.natAbs ≤ 2 ^ 63 - 1 then if l.kind ≠ .int ∧ n < 0 then .error .signed else .ok ()
      else .error .notAnInteger := by
    intro n hform
    simp only [check_of_integerForm hinteger hform, hunsigned, checkScalar_of_unconstrained hstring ho hmin hmax]
  have haccepts : ∀ n, IntegerForm t.toList n →
      (l.check (.string t) = .ok () ↔ n.natAbs ≤ 2 ^ 63 - 1 ∧ (l.kind = .int ∨ 0 ≤ n)) := by
    intro n hform
    have hsign : ¬ (l.kind ≠ .int ∧ n < 0) ↔ l.kind = .int ∨ 0 ≤ n := by
      rw [not_and_or, not_ne_iff, Int.not_lt]
    rw [hcheck n hform, ← hsign]
    split
    · split <;> simp [*]
    · simp [*]
  have hnotnull : ¬ (Json.string t = .null ∧ l.annotations.optional = true) := fun h => by cases h.1
  rw [failures_eq_nil_iff, or_iff_right hnotnull]
  refine ⟨⟨fun haccepted => ?_, ?_⟩, fun n hform haccepted => ?_, fun hascii hfits f hf => ?_⟩
  · obtain ⟨n, hform⟩ := exists_integerForm_of_check hinteger haccepted
    exact ⟨n, hform, (haccepts n hform).1 haccepted⟩
  · rintro ⟨n, hform, hn⟩
    exact (haccepts n hform).2 hn
  · have hread := (Kind.integer?_string_iff hinteger).2 ⟨hform, ((haccepts n hform).1 haccepted).1⟩
    exact clean_of_integer? hinteger (Json.wellFormed_string t) hread path
  · obtain ⟨n, hform⟩ := (Kind.fits_int_iff.1 hfits).exists_integerForm hascii
    have hrefused := check_of_mem_failures hf
    rw [hcheck n hform] at hrefused
    refine ⟨n, hform, ?_⟩
    split at hrefused
    · split at hrefused
      · next hsign => exact .inr ⟨(Except.error.inj hrefused).symm, hsign⟩
      · cases hrefused
    · next hbound => exact .inl ⟨(Except.error.inj hrefused).symm, by omega⟩

/-- A hexadecimal text is cleaned to its number, and a decimal is refused for its sign. -/
theorem accepts_integer_texts_uint :
    (bare .uint).failures (.string "0x1F") .root = [] ∧
      (bare .uint).clean (.string "0x1F") .root = .ok (.number (.int 31)) ∧
      ∀ f ∈ (bare .uint).failures (.string "-7") .root, f.reason = .signed := by
  obtain ⟨haccepts, hclean, -⟩ :=
    accepts_integer_texts (l := bare .uint) (.inr (.inl rfl)) rfl rfl rfl "0x1F" .root
  obtain ⟨-, -, hrefused⟩ := accepts_integer_texts (l := bare .uint) (.inr (.inl rfl)) rfl rfl rfl "-7" .root
  have hhex : IntegerForm "0x1F".toList 31 :=
    .unsigned (.hex (.inl rfl) (Text.numeral?_eq_some_iff.1 (by decide)))
  have hminus : IntegerForm "-7".toList (-7) := .minus (by decide) (Text.numeral?_eq_some_iff.1 (by decide))
  have haccepted := haccepts.2 ⟨31, hhex, by decide, .inr (by decide)⟩
  refine ⟨haccepted, hclean 31 hhex haccepted, fun f hf => ?_⟩
  obtain ⟨n, hform, hreason⟩ := hrefused (by simp) (Kind.fits_int_iff.2 hminus.intForm) f hf
  rw [hform.literal.unique hminus.literal] at hreason
  rcases hreason with ⟨-, hbound⟩ | ⟨hsigned, -⟩
  · exact absurd hbound (by decide)
  · exact hsigned

/-! ## Numbers and their texts -/

/-- **A leaf for integers treats a number and its decimal text alike**, with any options and bounds, and cleans both to
the number: for all integers of 64 bits but the least. The text of that one it neither accepts nor cleans. -/
theorem integer_number_text (hk : l.kind = .int) (hlo : -2 ^ 63 ≤ n) (hhi : n < 2 ^ 63) (path : Path) :
    l.check (.number (.int n)) = l.checkScalar (.int n) ∧
    l.clean (.number (.int n)) path = .ok (.number (.int n)) ∧
    (n ≠ -2 ^ 63 →
      l.check (.string (Text.ofInt n)) = l.check (.number (.int n)) ∧
      (l.failures (.string (Text.ofInt n)) path = [] ↔ l.failures (.number (.int n)) path = []) ∧
      l.clean (.string (Text.ofInt n)) path = .ok (.number (.int n))) ∧
    (n = -2 ^ 63 →
      l.check (.string (Text.ofInt n)) = .error .notAnInteger ∧
      l.clean (.string (Text.ofInt n)) path = .error ⟨path, .unconvertible .int (Json.string (Text.ofInt n)).text⟩) := by
  have hinteger : l.kind.isInteger = true := by rw [hk]; rfl
  have hnumber : l.kind.integer? (.number (.int n)) = some n := rfl
  have hcheck : l.check (.number (.int n)) = l.checkScalar (.int n) := by
    rw [check_of_isInteger hinteger (fun _ h => by cases h), hnumber, hk]
    rfl
  have hwell : Json.WellFormed (.number (.int n)) :=
    Json.everywhere_number.2 (show Json.Sound (.number (.int n)) from ⟨hlo, Int.lt_trans hhi (by decide)⟩)
  refine ⟨hcheck, clean_of_integer? hinteger hwell hnumber path, fun hn => ?_, fun hn => ?_⟩
  · have htext : l.kind.integer? (.string (Text.ofInt n)) = some n := by
      rw [hk]
      exact Kind.integer?_string_ofInt (show n.natAbs < 2 ^ 63 by omega)
    have hsame : l.check (.string (Text.ofInt n)) = l.check (.number (.int n)) := by
      rw [hcheck, check_of_isInteger hinteger (fun _ h => by cases h), htext, hk]
      rfl
    refine ⟨hsame, ?_, clean_of_integer? hinteger (Json.wellFormed_string _) htext path⟩
    rw [failures_eq_nil_iff, failures_eq_nil_iff, hsame]
    simp
  · obtain ⟨hread, hclean⟩ := Kind.unread_ofInt (n := n) (by omega)
    constructor
    · rw [check_of_isInteger hinteger (fun _ h => by cases h), hk, hread]
    · simp [clean, Json.isNull, hk, hclean]

/-- A leaf with bounds on two integers, one of which has no text that it takes. -/
theorem integer_number_text_bounded :
    let l : Leaf := { bare .int with minimum := some (.int (-2 ^ 63)), maximum := some (.int 7) }
    l.check (.string (Text.ofInt 7)) = .ok () ∧
      l.clean (.string (Text.ofInt 7)) .root = .ok (.number (.int 7)) ∧
      l.check (.number (.int (-2 ^ 63))) = .ok () ∧
      l.check (.string (Text.ofInt (-2 ^ 63))) = .error .notAnInteger := by
  intro l
  obtain ⟨hnumber, -, htext, -⟩ := integer_number_text (l := l) (n := 7) rfl (by decide) (by decide) .root
  obtain ⟨hcheck, -, hclean⟩ := htext (by decide)
  obtain ⟨hleast, -, -, hrefused⟩ :=
    integer_number_text (l := l) (n := -2 ^ 63) rfl (by decide) (by decide) .root
  exact ⟨(hcheck.trans hnumber).trans (by rfl), hclean, hleast.trans (by rfl), (hrefused rfl).1⟩

/-- The least integer of 64 bits passes as a number and not as a text, though its text is made of that number. -/
theorem refuses_least_text :
    let l := bare .int
    let n : Int := -9223372036854775808
    Text.ofInt n = "-9223372036854775808" ∧
      l.accepts (.number (.int n)) = true ∧ l.accepts (.string "-9223372036854775808") = false ∧
      l.clean (.number (.int n)) .root = .ok (.number (.int n)) ∧
      l.clean (.string "-9223372036854775808") .root ≠ .ok (.number (.int n)) := by
  intro l n
  have htext : Text.ofInt n = "-9223372036854775808" := by decide
  obtain ⟨hread, hclean⟩ := Kind.unread_ofInt (n := n) (by decide)
  rw [htext] at hread hclean
  have hcheck : l.check (.string "-9223372036854775808") = .error .notAnInteger := by
    rw [check_of_isInteger rfl (fun _ h => by cases h), show l.kind = .int from rfl, hread]
  refine ⟨htext, by decide, ?_, rfl, ?_⟩
  · rw [← Bool.not_eq_true, accepts_string_iff, hcheck]
    simp
  · simp [clean, Json.isNull, show l.kind = .int from rfl, hclean]

end Leaf

end RecordSchema

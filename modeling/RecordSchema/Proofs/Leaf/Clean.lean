/-
A leaf cleans what it accepts: the two readings of a value, by the check and
by cleaning, differ only on values that the check refuses.

Checking reads a text as it stands and cleaning one without the blanks around
it, but a text of a number's form has none (`Kind.trim_of_fits_decimal`). The one
value that passes and has no canonical form is a decimal text beyond the
floating-point format, which `Json.FiniteTexts` rules out.
-/
import RecordSchema.Leaf.Clean
import RecordSchema.Proofs.Json.Parts
import RecordSchema.Proofs.Kind.Form
import RecordSchema.Proofs.Leaf.Accept
import RecordSchema.Proofs.Number.Binary64
import RecordSchema.Proofs.Number.Decimal
import RecordSchema.Proofs.Number.Integer

namespace RecordSchema

namespace Json

/-- A text is no decimal that the floating-point format takes for an infinity. -/
def FiniteText (s : String) : Prop :=
  Kind.decimal.fits s = true → ∀ negative, Extended.ofText? s ≠ some (.infinite negative)

/-- The texts of a value itself: a string, or the keys of an object. -/
def ownTexts : Json → List String
  | string s => [s]
  | object members => Members.keys members
  | _ => []

/-- No string and no key within the value is a decimal beyond the floating-point format. -/
def FiniteTexts (v : Json) : Prop := Everywhere (fun u => ∀ s ∈ u.ownTexts, FiniteText s) v

theorem FiniteTexts.item {items : List Json} (h : FiniteTexts (array items)) :
    ∀ v ∈ items, FiniteTexts v :=
  (everywhere_array.1 h).2

theorem FiniteTexts.member {members : List (String × Json)} (h : FiniteTexts (object members)) :
    ∀ e ∈ members, FiniteTexts e.2 :=
  (everywhere_object.1 h).2

theorem FiniteTexts.key {members : List (String × Json)} (h : FiniteTexts (object members)) :
    ∀ e ∈ members, FiniteTexts (string e.1) := by
  intro e he
  have hkey := (everywhere_object.1 h).1 e.1 (List.mem_map_of_mem he)
  simpa [FiniteTexts, ownTexts] using hkey

theorem FiniteTexts.string {s : String} (h : FiniteTexts (string s)) : FiniteText s :=
  everywhere_string.1 h s (by simp [ownTexts])

/-- The decimal that a number is written as, or that a text is without the blanks around it. -/
def decimal? : Json → Option Decimal
  | number n => Decimal.ofText? n.text
  | string s => Decimal.ofText? (Text.trim s)
  | _ => none

end Json

namespace Kind

theorem pattern?_of_isInteger {kind : Kind} (hk : kind.isInteger = true) :
    kind.pattern? = some KindPattern.int := by
  cases kind <;> first | rfl | cases hk

theorem fits_of_isInteger {kind : Kind} (hk : kind.isInteger = true) (s : String) :
    kind.fits s = Kind.int.fits s := by
  rw [fits, fits, pattern?_of_isInteger hk, @pattern?_of_isInteger int rfl]

theorem integer?_bounds {kind : Kind} {v : Json} {n : Int} (hv : v.WellFormed)
    (h : kind.integer? v = some n) : -(Number.int64Bound : Int) ≤ n ∧ n < Number.uint64Bound := by
  rcases integer?_eq_some_iff.1 h with rfl | ⟨s, -, -, hn⟩
  · exact hv.bounds
  · obtain ⟨hlo, hhi⟩ := Number.intLiteral?_bounds hn
    exact ⟨Int.le_of_lt hlo, Int.lt_trans hhi (by decide)⟩

/-- The integer of a value is cleaned to itself. -/
theorem cleanInteger?_of_integer? {kind : Kind} (hk : kind.isInteger = true) {v : Json} {n : Int}
    (hv : v.WellFormed) (h : kind.integer? v = some n) : cleanInteger? v = some (.number (.int n)) := by
  rw [← Json.ofInt_eq (integer?_bounds hv h)]
  rcases integer?_eq_some_iff.1 h with rfl | ⟨s, rfl, hfits, hn⟩
  · rfl
  · rw [fits_of_isInteger hk] at hfits
    rw [cleanInteger?, trim_of_fits_int hfits, hn]
    rfl

/-- The number of a value is cleaned to itself, unless it is infinite. -/
theorem cleanFloat?_of_floatOf? {v : Json} {x : Extended} (h : floatOf? v = some x) :
    cleanFloat? v = x.finite?.map fun y => .number (.float y) := by
  rcases floatOf?_eq_some_iff.1 h with ⟨n, rfl, rfl⟩ | ⟨s, rfl, hfits, hx⟩
  · rfl
  · rw [cleanFloat?, trim_of_fits_decimal hfits, hx, Option.bind_some]

theorem finite_of_floatOf? {v : Json} {x : Extended} (hv : v.WellFormed) (ht : v.FiniteTexts)
    (h : floatOf? v = some x) : ∃ y, x = .finite y := by
  rcases floatOf?_eq_some_iff.1 h with ⟨n, rfl, rfl⟩ | ⟨s, rfl, hfits, hx⟩
  · cases n with
    | int n => exact Extended.ofInt_finite hv.bounds
    | float y => exact ⟨y, rfl⟩
  · cases x with
    | finite y => exact ⟨y, rfl⟩
    | infinite negative => exact absurd hx (ht.string hfits negative)

/-- A price is cleaned by rounding the decimal of the value. -/
theorem cleanPrice?_eq_some_iff {v w : Json} :
    cleanPrice? v = some w ↔ ∃ d : Decimal, v.decimal? = some d ∧ w = .string (d.round 2).text := by
  have hmap : cleanPrice? v = v.decimal?.map fun d => .string (d.round 2).text := by
    cases v <;> rfl
  rw [hmap, Option.map_eq_some_iff]
  simp only [eq_comm]

/-- The decimal of a value that passes for a price has at most two places. -/
theorem decimal?_of_acceptDecimal {v : Json} {r : Option Scalar} (h : Leaf.acceptDecimal .price v = .ok r) :
    ∃ d : Decimal, r = some (.decimal d) ∧ (d.Plain ∧ d.scale ≤ 2) ∧ v.decimal? = some d := by
  obtain ⟨text, hv, h⟩ := Leaf.acceptDecimal_eq_ok_iff.1 h
  obtain ⟨d, hfits, hd, rfl⟩ := Leaf.acceptDecimalText_eq_ok_iff.1 h
  refine ⟨d, rfl, Decimal.plain_of_fits_price hfits hd, ?_⟩
  rcases hv with rfl | ⟨n, rfl, rfl⟩
  · rw [Json.decimal?, trim_of_fits_price hfits, hd]
  · exact hd

theorem cleanPrice?_of_acceptDecimal {v : Json} {r : Option Scalar}
    (h : Leaf.acceptDecimal .price v = .ok r) :
    ∃ d : Decimal, r = some (.decimal d) ∧ (d.Plain ∧ d.scale ≤ 2) ∧
      cleanPrice? v = some (.string (d.round 2).text) := by
  obtain ⟨d, hr, hplain, hd⟩ := decimal?_of_acceptDecimal h
  exact ⟨d, hr, hplain, cleanPrice?_eq_some_iff.2 ⟨d, hd, rfl⟩⟩

end Kind

namespace Leaf

variable {l : Leaf} {v : Json}

theorem clean?_of_accept {r : Option Scalar} (hv : v.WellFormed) (ht : v.FiniteTexts)
    (h : l.accept v = .ok r) : ∃ w, l.kind.clean? v = some w := by
  obtain ⟨annotations, kind, pattern, options, minimum, maximum⟩ := l
  cases kind with
  | any | bool | json => exact ⟨_, rfl⟩
  | base64 | date | datetime | ip | md5 | time | uuid =>
    obtain ⟨s, rfl, -⟩ := acceptText_eq_ok_iff.1 h
    exact ⟨_, rfl⟩
  | string =>
    obtain ⟨s, rfl⟩ := isString_of_acceptString h
    exact ⟨_, rfl⟩
  | int | timestamp | uint =>
    obtain ⟨n, hn, -⟩ := acceptInteger_eq_ok_iff.1 h
    exact ⟨_, Kind.cleanInteger?_of_integer? rfl hv hn⟩
  | decimal =>
    obtain ⟨text, rfl | ⟨n, rfl, rfl⟩, -⟩ := acceptDecimal_eq_ok_iff.1 h
    · exact ⟨_, rfl⟩
    · exact ⟨_, rfl⟩
  | price =>
    obtain ⟨d, -, -, hd⟩ := Kind.cleanPrice?_of_acceptDecimal h
    exact ⟨_, hd⟩
  | float =>
    obtain ⟨x, hx, -⟩ := acceptFloat_eq_ok_iff.1 h
    obtain ⟨y, rfl⟩ := Kind.finite_of_floatOf? hv ht hx
    exact ⟨_, Kind.cleanFloat?_of_floatOf? hx⟩

/-- An error of cleaning is at the path itself. -/
theorem clean_error_path {path : Path} {e : CleanError} (h : l.clean v path = .error e) :
    e.path = path := by
  unfold clean at h
  split at h
  · cases h
  · split at h
    · cases h
    · cases h; rfl

/-- What can not be cleaned does not pass. -/
theorem check_ne_ok_of_clean_error {path : Path} {e : CleanError} (hv : v.WellFormed) (ht : v.FiniteTexts)
    (h : l.clean v path = .error e) : l.failures v path ≠ [] := by
  intro hf
  rcases (failures_eq_nil_iff l v path).1 hf with ⟨rfl, ho⟩ | hc
  · simp [clean, ho, Json.isNull] at h
  · obtain ⟨r, hr, -⟩ := check_eq_ok_iff.1 hc
    obtain ⟨w, hw⟩ := clean?_of_accept hv ht hr
    simp only [clean, hw] at h
    split at h <;> cases h

end Leaf

end RecordSchema

/-
The values that a leaf's options and bounds are compared with, and that a leaf
accepts its own options and bounds as they are exported.

A value that is checked and a value that is given for an option are read by
different functions, which make the same scalar of it but for one difference:
a number or a bool can be given for the text of a string's option, and is no
string itself (`Kind.Converts`). Since options exclude a pattern, every value that
passes the check of the kind is made a scalar of, and none gets past the
options (`Leaf.accept_eq_ok_iff`).
-/
import RecordSchema.Proofs.Leaf.Calls

namespace RecordSchema

namespace Kind

/-- The kind takes a value for a scalar. It is the one that the value stands for as an option; for a string the
value has to be one. -/
def Converts (kind : Kind) (v : Json) (s : Scalar) : Prop :=
  kind.optionScalar? v = some s ∧ (kind = .string → v.isString = true)

variable {kind : Kind} {v : Json} {s : Scalar}

theorem isFinite_of_textScalar? (h : kind.textScalar? v = some s) : s.IsFinite := by
  obtain ⟨a, rfl⟩ := exists_text_of_textScalar? h
  nofun

theorem isFinite_of_numberScalar? (hk : kind ≠ .float) (h : kind.numberScalar? v = some s) : s.IsFinite := by
  cases kind with
  | int | timestamp | uint =>
    obtain ⟨n, rfl⟩ := exists_int_of_numberScalar? rfl h
    nofun
  | decimal | price =>
    obtain ⟨-, d, -, -, rfl⟩ := (numberScalar?_of_isDecimal rfl).1 h
    nofun
  | float => exact absurd rfl hk
  | _ => cases h

/-- Only floating-point numbers are infinite. -/
theorem IsOption.isFinite (hk : kind ≠ .float) (h : kind.IsOption s) : s.IsFinite := by
  obtain ⟨v, -, h⟩ := h
  rcases optionScalar?_cases kind with hread | hread | rfl
  · exact isFinite_of_textScalar? (hread v ▸ h)
  · exact isFinite_of_numberScalar? hk (hread v ▸ h)
  · obtain ⟨t, -, rfl⟩ := Option.map_eq_some_iff.1 h
    nofun

/-- What is exported of an option is taken for the option. -/
theorem IsOption.converts_toJson (hk : kind ≠ .float) (h : kind.IsOption s) : kind.Converts s.toJson s := by
  refine ⟨optionScalar?_toJson h (h.isFinite hk), ?_⟩
  rintro rfl
  obtain ⟨v, -, h⟩ := h
  obtain ⟨t, -, rfl⟩ := Option.map_eq_some_iff.1 h
  rfl

/-- Bounds are read like options, but for the counts of a string. -/
theorem IsBound.isOption (hk : kind ≠ .string) (h : kind.IsBound s) : kind.IsOption s := by
  obtain ⟨v, hv, h⟩ := h
  refine ⟨v, hv, ?_⟩
  cases kind with
  | string => exact absurd rfl hk
  | base64 | md5 | uuid => cases h
  | _ => exact h

end Kind

namespace Leaf

/-- A leaf that is built, and what is left of one by calls of its setters and by special values put into it. A
call or a special value that is refused leaves the leaf as it was. -/
inductive Reached : Leaf → Prop where
  | built {l} (h : l.Built) : Reached l
  | call {l c} (h : Reached l) (hc : Call.WellFormed c) : Reached (l.after c)
  | special {l name value a} (h : Reached l) (hs : l.annotations.setSpecial name value = .ok a) :
      Reached { l with annotations := a }

/-! ## What is compared -/

section

variable {kind : Kind} {v : Json} {r : Option Scalar}

theorem acceptText_iff_textScalar? :
    acceptText kind v = .ok r ↔ ∃ s, kind.textScalar? v = some s ∧ r = some s := by
  rw [acceptText_eq_ok_iff]
  cases v <;> simp [Kind.textScalar?]

theorem acceptInteger_iff_numberScalar? (hk : kind.isInteger = true) :
    acceptInteger kind v = .ok r ↔ ∃ s, kind.numberScalar? v = some s ∧ r = some s := by
  rw [acceptInteger_eq_ok_iff]
  cases kind with
  | int | timestamp | uint =>
    rw [Kind.numberScalar?]
    cases h : Kind.integer? _ v <;> simp [Kind.isUnsigned]
  | _ => cases hk

theorem acceptDecimal_iff_numberScalar? (hk : kind.isDecimal = true) :
    acceptDecimal kind v = .ok r ↔ ∃ s, kind.numberScalar? v = some s ∧ r = some s := by
  simp only [acceptDecimal_eq_ok_iff, acceptDecimalText_eq_ok_iff, Kind.numberScalar?_of_isDecimal hk,
    Kind.decimalOfText?_eq_some_iff]
  constructor
  · rintro ⟨text, hv, d, hfits, hd, rfl⟩
    exact ⟨_, ⟨text, d, hv, ⟨hfits, hd⟩, rfl⟩, rfl⟩
  · rintro ⟨-, ⟨text, d, hv, ⟨hfits, hd⟩, rfl⟩, rfl⟩
    exact ⟨text, hv, d, hfits, hd, rfl⟩

theorem acceptFloat_iff_numberScalar? :
    acceptFloat v = .ok r ↔ ∃ s, Kind.float.numberScalar? v = some s ∧ r = some s := by
  rw [acceptFloat_eq_ok_iff, Kind.numberScalar?]
  cases Kind.floatOf? v <;> simp

end

variable {l : Leaf} {v : Json} {r : Option Scalar} {s b : Scalar}

/-- Where options may be given and there is no pattern, a check makes of a value the scalar that the kind takes
it for, and refuses one that it takes for none. -/
theorem accept_eq_ok_iff (hk : l.kind.supportsOptions = true) (hp : l.pattern = none) :
    l.accept v = .ok r ↔ ∃ s, l.kind.Converts v s ∧ r = some s := by
  obtain ⟨annotations, kind, pattern, options, minimum, maximum⟩ := l
  subst hp
  cases kind with
  | any | bool | json => cases hk
  | base64 | date | datetime | ip | md5 | time | uuid =>
    simpa [accept, Kind.Converts, Kind.optionScalar?] using acceptText_iff_textScalar?
  | int | timestamp | uint =>
    simpa [accept, Kind.Converts, Kind.optionScalar?] using acceptInteger_iff_numberScalar? rfl
  | decimal | price =>
    simpa [accept, Kind.Converts, Kind.optionScalar?] using acceptDecimal_iff_numberScalar? rfl
  | float => simpa [accept, Kind.Converts, Kind.optionScalar?] using acceptFloat_iff_numberScalar?
  | string =>
    cases v <;> simp [accept, acceptString, Kind.Converts, Kind.optionScalar?, Json.scalarText?, Json.isString,
      @eq_comm _ r]

/-- A number may be given for an option of a string, and is none of its values. -/
example : Kind.string.optionScalar? (.number (.int 1)) = some (.text "1") ∧
    (bare .string).accept (.number (.int 1)) = .error .notAString := ⟨by rfl, by rfl⟩

/-! ## What is accepted -/

theorem checkScalar_eq_ok_iff_of_options {os : List Scalar} (ho : l.options = some os) :
    l.checkScalar s = .ok () ↔ ∃ o ∈ os, o.same s = true := by
  simp [checkScalar, ho]

/-- A leaf with options accepts the values that its kind takes for one of them. -/
theorem check_eq_ok_iff_of_options (hl : l.Coherent) {os : List Scalar} (ho : l.options = some os) :
    l.check v = .ok () ↔ ∃ s, l.kind.Converts v s ∧ ∃ o ∈ os, o.same s = true := by
  obtain ⟨hk, hconflict, -⟩ := hl.options os ho
  obtain ⟨hp, -, -⟩ := optionsConflict?_eq_none_iff.1 hconflict
  have hscalar : ∀ s, l.checkScalar s = .ok () ↔ _ := fun s => checkScalar_eq_ok_iff_of_options ho
  rw [check_eq_ok_iff]
  constructor
  · rintro ⟨r, hr, hchecked⟩
    obtain ⟨s, hs, rfl⟩ := (accept_eq_ok_iff hk hp).1 hr
    exact ⟨s, hs, (hscalar s).1 (hchecked s rfl)⟩
  · rintro ⟨s, hs, hfound⟩
    refine ⟨some s, (accept_eq_ok_iff hk hp).2 ⟨s, hs, rfl⟩, ?_⟩
    rintro _ ⟨⟩
    exact (hscalar s).2 hfound

/-- A bound is on no wrong side of itself or of the other bound. -/
theorem checkBounds_of_bound (hk : l.kind ≠ .string) (ho : inverted l.kind l.minimum l.maximum = false)
    (hb : l.minimum = some b ∨ l.maximum = some b) : l.checkBounds b = .ok () := by
  have hmin : beyond l.kind .lt b l.minimum = false := by
    rcases hb with hb | hb
    · simp [hb, beyond, Scalar.compare?_self]
    · cases hlo : l.minimum with
      | none => rfl
      | some lo =>
        rw [hlo, hb] at ho
        rw [beyond, Scalar.compare?_swap, beq_eq_false_iff_ne]
        intro hlt
        obtain ⟨o, hcompare, hswap⟩ := Option.map_eq_some_iff.1 hlt
        exact Kind.ne_gt_of_inverted ho hcompare (by cases o <;> cases hswap; rfl)
  have hmax : beyond l.kind .gt b l.maximum = false := by
    rcases hb with hb | hb
    · cases hhi : l.maximum with
      | none => rfl
      | some hi =>
        rw [hhi, hb] at ho
        rw [beyond, beq_eq_false_iff_ne]
        exact fun hgt => Kind.ne_gt_of_inverted ho hgt rfl
    · simp [hb, beyond, Scalar.compare?_self]
  simp [checkBounds, hk, hmin, hmax]

/-- What is exported of a bound that is no count is accepted. -/
theorem check_toJson_of_bound (hl : l.Coherent) (hf : l.kind ≠ .float) (hk : l.kind ≠ .string)
    (hb : l.minimum = some b ∨ l.maximum = some b) : l.check b.toJson = .ok () := by
  obtain ⟨hbounds, hbound⟩ : l.kind.supportsBounds = true ∧ l.kind.IsBound b :=
    hb.elim (hl.minimum b) (hl.maximum b)
  have hoptions : l.kind.supportsOptions = true := by
    revert hbounds
    cases l.kind <;> decide
  have hp : l.pattern = none := by
    rw [Option.eq_none_iff_forall_ne_some]
    rintro p hp
    exact hk (hl.pattern (by rw [hp]; rfl))
  have ho : l.options = none := by
    rw [Option.eq_none_iff_forall_ne_some]
    intro os hos
    obtain ⟨-, hconflict, -⟩ := hl.options os hos
    obtain ⟨-, hmin, hmax⟩ := optionsConflict?_eq_none_iff.1 hconflict
    simp [hmin, hmax] at hb
  have hconverts := (hbound.isOption hk).converts_toJson hf
  refine check_eq_ok_iff.2 ⟨some b, (accept_eq_ok_iff hoptions hp).2 ⟨b, hconverts, rfl⟩, ?_⟩
  rintro _ ⟨⟩
  rw [checkScalar, ho]
  exact checkBounds_of_bound hk hl.ordered hb

theorem Reached.coherent (h : l.Reached) : l.Coherent := by
  induction h with
  | built h => exact h.coherent
  | call _ hc ih => exact ih.after hc
  | special _ hs ih => exact ih.withAnnotations (ih.annotations.setSpecial hs)

/-- **A leaf that is not floating-point accepts what its options say, and its own options and bounds**,
whatever has been called on it. Where options are set, a value that is not taken for absent is accepted
exactly if the kind takes it for a scalar that is the same as one of them; what the options are exported as is
accepted. So is what the bounds are exported as, unless they are counts of characters. -/
theorem accepts_options_and_bounds (hl : l.Reached) (hf : l.kind ≠ .float) :
    (∀ os, l.options = some os →
      (∀ v s, l.accept v = .ok (some s) ↔ l.kind.Converts v s) ∧
      (∀ v path, (v = .null → l.annotations.optional = false) →
        (l.failures v path = [] ↔ ∃ s, l.kind.Converts v s ∧ ∃ o ∈ os, o.same s = true)) ∧
      ∀ o ∈ os, ∀ path, l.failures o.toJson path = []) ∧
    (l.kind ≠ .string → ∀ b, l.minimum = some b ∨ l.maximum = some b →
      ∀ path, l.failures b.toJson path = []) := by
  have hcoherent := hl.coherent
  refine ⟨fun os ho => ?_, fun hk b hb path => ?_⟩
  · obtain ⟨hk, hconflict, -, -, hall⟩ := hcoherent.options os ho
    obtain ⟨hp, -, -⟩ := optionsConflict?_eq_none_iff.1 hconflict
    refine ⟨fun v s => ?_, fun v path hnull => ?_, fun o hmem path => ?_⟩
    · simp [accept_eq_ok_iff hk hp]
    · rw [failures_eq_nil_iff, check_eq_ok_iff_of_options hcoherent ho]
      refine or_iff_right ?_
      rintro ⟨rfl, hoptional⟩
      simp [hnull rfl] at hoptional
    · rw [failures_eq_nil_iff, check_eq_ok_iff_of_options hcoherent ho]
      exact .inr ⟨o, (hall o hmem).converts_toJson hf, o, hmem, o.same_self⟩
  · rw [failures_eq_nil_iff]
    exact .inr (check_toJson_of_bound hcoherent hf hk hb)

/-- An octal literal is accepted for an option that was given as a hexadecimal one, and so is the least of two
addresses, though their texts stand in the other order. -/
theorem accepts_options_and_bounds_literals :
    let c : Call := .options (.array [.number (.int 7), .string "0x10"])
    let l : Leaf := { bare .uint with options := some [.int 7, .int 16] }
    let d : Call := .bounds (some (.string "10.0.0.9")) (some (.string "10.0.0.10"))
    let m : Leaf := { bare .ip with minimum := some (.text "10.0.0.9"), maximum := some (.text "10.0.0.10") }
    (bare .uint).after c = l ∧ l.failures (.string "020") .root = [] ∧
      (bare .ip).after d = m ∧ m.failures (.string "10.0.0.9") .root = [] := by
  intro c l d m
  have hl : (bare .uint).after c = l := by rfl
  have hm : (bare .ip).after d = m := by rfl
  have hc : c.WellFormed := by
    rw [Call.WellFormed]
    decide
  have hd : d.WellFormed := ⟨by rintro v ⟨⟩; decide, by rintro v ⟨⟩; decide⟩
  have huint : ofKindName "uint" = .ok (bare .uint) := by rfl
  have hip : ofKindName "ip" = .ok (bare .ip) := by rfl
  have hreached : l.Reached := hl ▸ .call (.built (.named huint)) hc
  have hreached' : m.Reached := hm ▸ .call (.built (.named hip)) hd
  obtain ⟨-, hoptions, -⟩ := (accepts_options_and_bounds hreached (by decide)).1 _ rfl
  have hconverts : l.kind.Converts (.string "020") (.int 16) := ⟨by rfl, by decide⟩
  have hpresent : Json.string "020" = .null → l.annotations.optional = false := by rintro ⟨⟩
  refine ⟨hl, (hoptions _ .root hpresent).2 ⟨_, hconverts, .int 16, by decide, by decide⟩, hm, ?_⟩
  exact (accepts_options_and_bounds hreached' (by decide)).2 (by decide) (.text "10.0.0.9") (.inl rfl) .root

end Leaf

end RecordSchema

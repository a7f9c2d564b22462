/-
What goes together in a leaf. Compiling and the setters refuse the rest, so
every leaf they make is coherent: a pattern belongs to a string, options
exclude a pattern and bounds, options and bounds are scalars that the kind
reads, and no minimum is above its maximum.

Each setter has one lemma that says all it can do when it succeeds
(`setPattern_eq_ok`, `setOptions_eq_ok`, `setBounds_eq_ok`).
-/
import RecordSchema.Proofs.Annotations
import RecordSchema.Proofs.Except
import RecordSchema.Proofs.Leaf.Setters
import RecordSchema.Proofs.Scalar

namespace RecordSchema

namespace Leaf

structure Coherent (l : Leaf) : Prop where
  annotations : l.annotations.Coherent
  pattern : l.pattern.isSome = true → l.kind = .string
  options : ∀ os, l.options = some os → l.kind.supportsOptions = true ∧ l.optionsConflict? = none ∧
    os ≠ [] ∧ (os.Pairwise fun s t => s.same t = false) ∧ ∀ s ∈ os, l.kind.IsOption s
  minimum : ∀ s, l.minimum = some s → l.kind.supportsBounds = true ∧ l.kind.IsBound s
  maximum : ∀ s, l.maximum = some s → l.kind.supportsBounds = true ∧ l.kind.IsBound s
  ordered : inverted l.kind l.minimum l.maximum = false

variable {l l' : Leaf}

theorem optionsConflict?_eq_none_iff :
    l.optionsConflict? = none ↔ l.pattern = none ∧ l.minimum = none ∧ l.maximum = none := by
  obtain ⟨annotations, kind, pattern, options, minimum, maximum⟩ := l
  cases pattern <;> cases minimum <;> cases maximum <;> simp [optionsConflict?]

/-- A leaf with a bound has no list of allowed values. -/
theorem Coherent.options_eq_none (h : l.Coherent) (hb : l.minimum ≠ none ∨ l.maximum ≠ none) :
    l.options = none := by
  cases ho : l.options with
  | none => rfl
  | some os =>
    obtain ⟨-, hmin, hmax⟩ := optionsConflict?_eq_none_iff.1 (h.options os ho).2.1
    exact absurd hb (not_or.2 ⟨not_not.2 hmin, not_not.2 hmax⟩)

theorem coherent_bare (kind : Kind) : (bare kind).Coherent where
  annotations := Annotations.coherent_plain
  pattern h := by cases h
  options _ h := by cases h
  minimum _ h := by cases h
  maximum _ h := by cases h
  ordered := rfl

theorem Coherent.withAnnotations (h : l.Coherent) {a : Annotations} (ha : a.Coherent) :
    Coherent { l with annotations := a } :=
  ⟨ha, h.pattern, h.options, h.minimum, h.maximum, h.ordered⟩

/-! ## Patterns -/

theorem setPattern_eq_ok {text : String} (h : l.setPattern text = .ok l') :
    l' = l ∨ l.kind = .string ∧ l.options = none ∧ ∃ p, l' = { l with pattern := some p } := by
  rw [setPattern, Change.changed, perform_assignPattern, Change.outcome_settle] at h
  split at h
  · cases h; exact .inl rfl
  · next hk =>
    split at h
    · cases h
    · next ho =>
      split at h
      · next p hp =>
        cases h
        exact .inr ⟨Decidable.not_not.1 hk, by simpa using ho, p, rfl⟩
      · cases h

theorem Coherent.setPattern (h : l.Coherent) {text : String} (hs : l.setPattern text = .ok l') :
    l'.Coherent := by
  rcases setPattern_eq_ok hs with rfl | ⟨hk, ho, p, rfl⟩
  · exact h
  · exact ⟨h.annotations, fun _ => hk, fun os hos => by simp [ho] at hos, h.minimum, h.maximum, h.ordered⟩

/-! ## Options -/

/-- Every option is read from a value, and none is the same as one before it. -/
theorem optionScalars_eq_ok {kind : Kind} {vs : List Json} (hv : ∀ v ∈ vs, v.WellFormed) :
    ∀ {i done os}, optionScalars kind i done vs = .ok os → (done.Pairwise fun s t => s.same t = false) →
      (∀ s ∈ done, kind.IsOption s) → (os.Pairwise fun s t => s.same t = false) ∧
        (∀ s ∈ os, kind.IsOption s) ∧ (done ≠ [] ∨ vs ≠ [] → os ≠ []) := by
  induction vs with
  | nil =>
    intro i done os h hd ho
    cases h
    exact ⟨hd, ho, fun h => h.resolve_right (by simp)⟩
  | cons v vs ih =>
    intro i done os h hd ho
    rw [List.forall_mem_cons] at hv
    rw [optionScalars] at h
    split at h
    · cases h
    · next s hs =>
      split at h
      · next hsame =>
        obtain ⟨hpair, hall, hne⟩ := ih hv.2 h hd ho
        refine ⟨hpair, hall, fun _ => hne (.inl ?_)⟩
        rintro rfl
        cases hsame
      · next hsame =>
        simp only [List.any_eq_true, not_exists, not_and, Bool.not_eq_true] at hsame
        obtain ⟨hpair, hall, hne⟩ := ih hv.2 h
          (List.pairwise_append.2 ⟨hd, List.pairwise_singleton .., by simpa using hsame⟩)
          (List.forall_mem_append.2 ⟨ho, by simpa using ⟨v, hv.1, hs⟩⟩)
        exact ⟨hpair, hall, fun _ => hne (.inl (by simp))⟩

theorem setOptions_eq_ok {v : Json} (h : l.setOptions v = .ok l') :
    l.kind.supportsOptions = true ∧ l.optionsConflict? = none ∧
      ∃ u us os, v = .array (u :: us) ∧ optionScalars l.kind 0 [] (u :: us) = .ok os ∧
        l' = { l with options := some os } := by
  rw [setOptions, Change.changed, perform_assignOptions, Change.outcome_settle] at h
  split at h
  · cases h
  · next hk =>
    split at h
    · cases h
    · next hconflict =>
      split at h
      · next u us =>
        split at h
        · next os hos =>
          cases h
          exact ⟨by simpa using hk, hconflict, u, us, os, rfl, hos, rfl⟩
        · cases h
      · cases h

theorem Coherent.setOptions (h : l.Coherent) {v : Json} (hv : v.WellFormed) (hs : l.setOptions v = .ok l') :
    l'.Coherent := by
  obtain ⟨hk, hconflict, u, us, os, rfl, hos, rfl⟩ := setOptions_eq_ok hs
  obtain ⟨hpair, hall, hne⟩ := optionScalars_eq_ok hv.item hos .nil (by simp)
  refine ⟨h.annotations, h.pattern, ?_, h.minimum, h.maximum, h.ordered⟩
  rintro os' ⟨⟩
  exact ⟨hk, hconflict, hne (.inr (by simp)), hpair, hall⟩

/-! ## Bounds -/

theorem boundOr_eq_ok {kind : Kind} {directive : String} {given : Option Json} {old new : Option Scalar}
    (h : boundOr kind directive given old = .ok new) :
    new = old ∨ ∃ v s, given = some v ∧ kind.boundScalar? v = some s ∧ new = some s := by
  unfold boundOr at h
  split at h
  · cases h; exact .inl rfl
  · split at h
    · next s hs => cases h; exact .inr ⟨_, s, rfl, hs, rfl⟩
    · cases h

theorem setBounds_eq_ok {minimum maximum : Option Json} (h : l.setBounds minimum maximum = .ok l') :
    l.kind.supportsBounds = true ∧ l.options = none ∧
      ∃ lo hi, boundOr l.kind "__minimum__" minimum l.minimum = .ok lo ∧
        boundOr l.kind "__maximum__" maximum l.maximum = .ok hi ∧ inverted l.kind lo hi = false ∧
          l' = { l with minimum := lo, maximum := hi } := by
  rw [setBounds, Change.changed, perform_assignBounds, Change.outcome_settle] at h
  split at h
  · cases h
  · next hk =>
    split at h
    · cases h
    · next ho =>
      split at h
      · cases h
      · next lo hlo =>
        split at h
        · cases h
        · next hi hhi =>
          split at h
          · cases h
          · next hinv =>
            cases h
            exact ⟨by simpa using hk, by simpa using ho, lo, hi, hlo, hhi, by simpa using hinv, rfl⟩

theorem Coherent.setBounds (h : l.Coherent) {minimum maximum : Option Json}
    (hmin : ∀ v, minimum = some v → v.WellFormed) (hmax : ∀ v, maximum = some v → v.WellFormed)
    (hs : l.setBounds minimum maximum = .ok l') : l'.Coherent := by
  obtain ⟨hk, ho, lo, hi, hlo, hhi, hinv, rfl⟩ := setBounds_eq_ok hs
  refine ⟨h.annotations, h.pattern, fun os hos => by simp [ho] at hos, fun s hs => ⟨hk, ?_⟩,
    fun s hs => ⟨hk, ?_⟩, hinv⟩
  · rcases boundOr_eq_ok hlo with rfl | ⟨v, s', hv, hread, rfl⟩
    · exact (h.minimum s hs).2
    · cases hs; exact ⟨v, hmin v hv, hread⟩
  · rcases boundOr_eq_ok hhi with rfl | ⟨v, s', hv, hread, rfl⟩
    · exact (h.maximum s hs).2
    · cases hs; exact ⟨v, hmax v hv, hread⟩

/-! ## Fragments -/

theorem wellFormed_of_directive? {m : Members Json} (hm : ∀ e ∈ m, e.2.WellFormed) {key : String} {v : Json}
    (h : directive? m key = some v) : v.WellFormed := by
  obtain ⟨h, -⟩ := Option.filter_eq_some_iff.1 h
  exact hm _ (Members.mem_of_get? h)

theorem coherent_ofMembers {m : Members Json} (hn : (Members.keys m).Nodup) (hm : ∀ e ∈ m, e.2.WellFormed)
    (h : ofMembers m = .ok l) : l.Coherent := by
  simp only [ofMembers, Except.bind_eq_ok_iff] at h
  obtain ⟨kind, -, -, -, l₁, h₁, l₂, h₂, l₃, h₃, -, -, h⟩ := h
  have hc₁ : l₁.Coherent := by
    unfold applyPattern at h₁
    split at h₁
    · cases h₁; exact coherent_bare kind
    · exact (coherent_bare kind).setPattern h₁
    · cases h₁
  have hc₂ : l₂.Coherent := by
    unfold applyOptions at h₂
    split at h₂
    · cases h₂; exact hc₁
    · next v hv => exact hc₁.setOptions (wellFormed_of_directive? hm hv) h₂
  have hc₃ : l₃.Coherent := by
    unfold applyBounds at h₃
    split at h₃
    · exact hc₂.setBounds (fun v hv => wellFormed_of_directive? hm hv)
        (fun v hv => wellFormed_of_directive? hm hv) h₃
    · cases h₃; exact hc₂
  cases h
  exact hc₃.withAnnotations (Annotations.coherent_ofMembers hn)

theorem coherent_ofKindName {name : String} (h : ofKindName name = .ok l) : l.Coherent := by
  unfold ofKindName at h
  split at h
  · cases h; exact coherent_bare _
  · cases h

end Leaf

end RecordSchema

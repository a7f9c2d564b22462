/-
Where options and bounds come from. Each one that a leaf holds is read, as its
kind reads it, from a value that was given for it: in the fragment the leaf is
compiled from, or in one of the calls made on it since (`Holds.afterAll`).

What a call that succeeds adds is one step (`Holds.run`), and compiling a
fragment takes the same steps from a bare leaf.
-/
import RecordSchema.Proofs.Leaf.Calls
import RecordSchema.Proofs.Leaf.Export

namespace RecordSchema

namespace Json

/-- The items of a list. -/
def items : Json → List Json
  | array items => items
  | _ => []

/-- What a leaf's fragment has for options and bounds, null included. -/
def constraintValues : Json → List Json
  | object m => ((Members.get? m "__options__").elim [] items) ++ (Members.get? m "__minimum__").toList ++
      (Members.get? m "__maximum__").toList
  | _ => []

end Json

/-- The kind reads a value as a scalar, for an option or for a bound. -/
def Kind.Reads (kind : Kind) (v : Json) (s : Scalar) : Prop :=
  kind.optionScalar? v = some s ∨ kind.boundScalar? v = some s

namespace Leaf

/-- The values that a call gives for options and bounds. -/
def Call.given : Call → List Json
  | pattern _ => []
  | options allowed => allowed.items
  | bounds minimum maximum => minimum.toList ++ maximum.toList

/-- A leaf of a kind whose options and bounds are read from given values. -/
structure Holds (kind : Kind) (given : List Json) (l : Leaf) : Prop where
  kind_eq : l.kind = kind
  read : ∀ s ∈ l.scalars, ∃ v ∈ given, kind.Reads v s

/-- A leaf of a kind's name, or of a fragment with what that gives for options and bounds. -/
inductive BuiltFrom : List Json → Leaf → Prop where
  | named {name l} (h : ofKindName name = .ok l) : BuiltFrom [] l
  | compiled {v : Json} {l} (hv : v.WellFormed) (h : ofFragment v = .ok l) : BuiltFrom v.constraintValues l

variable {l l' : Leaf} {kind : Kind} {given given' : List Json} {c : Call} {cs : List Call} {s : Scalar}

theorem mem_scalars_iff : s ∈ l.scalars ↔
    (∃ os, l.options = some os ∧ s ∈ os) ∨ l.minimum = some s ∨ l.maximum = some s := by
  cases h : l.options <;> simp [scalars, h]

theorem BuiltFrom.built (h : BuiltFrom given l) : l.Built := by
  cases h with
  | named h => exact .named h
  | compiled hv h => exact .compiled hv h

theorem holds_bare : Holds kind [] (bare kind) := ⟨rfl, by simp [scalars, bare]⟩

theorem Holds.mono (h : Holds kind given l) (hsub : ∀ v ∈ given, v ∈ given') : Holds kind given' l := by
  refine ⟨h.kind_eq, fun s hs => ?_⟩
  obtain ⟨v, hv, hread⟩ := h.read s hs
  exact ⟨v, hsub v hv, hread⟩

/-! ## Calls -/

/-- An option is one found before, or is read from one of the values. -/
theorem mem_of_optionScalars {vs : List Json} : ∀ {i done os}, optionScalars kind i done vs = .ok os →
    ∀ s ∈ os, s ∈ done ∨ ∃ v ∈ vs, kind.optionScalar? v = some s := by
  induction vs with
  | nil =>
    intro i done os h s hs
    cases h
    exact .inl hs
  | cons v vs ih =>
    intro i done os h s hs
    rw [optionScalars] at h
    split at h
    · cases h
    · next t ht =>
      rcases ih h s hs with hdone | ⟨w, hw, hread⟩
      · split at hdone
        · exact .inl hdone
        · rcases List.mem_append.1 hdone with hdone | hnew
          · exact .inl hdone
          · rw [List.mem_singleton.1 hnew]
            exact .inr ⟨v, List.mem_cons_self .., ht⟩
      · exact .inr ⟨w, List.mem_cons_of_mem _ hw, hread⟩

theorem Holds.setPattern (h : Holds kind given l) {text : String} (hr : l.setPattern text = .ok l') :
    Holds kind given l' := by
  rcases setPattern_eq_ok hr with rfl | ⟨-, -, p, rfl⟩
  · exact h
  · exact ⟨h.kind_eq, h.read⟩

theorem Holds.setOptions (h : Holds kind given l) {v : Json} (hr : l.setOptions v = .ok l') :
    Holds kind (given ++ v.items) l' := by
  obtain ⟨-, -, u, us, os, rfl, hos, rfl⟩ := setOptions_eq_ok hr
  rw [h.kind_eq] at hos
  refine ⟨h.kind_eq, fun s hs => ?_⟩
  rcases mem_scalars_iff.1 hs with ⟨_, ⟨⟩, hs⟩ | hs
  · obtain ⟨w, hw, hread⟩ := (mem_of_optionScalars hos s hs).resolve_left (by simp)
    exact ⟨w, List.mem_append_right _ hw, .inl hread⟩
  · obtain ⟨w, hw, hread⟩ := h.read s (mem_scalars_iff.2 (.inr hs))
    exact ⟨w, List.mem_append_left _ hw, hread⟩

theorem Holds.setBounds (h : Holds kind given l) {minimum maximum : Option Json}
    (hr : l.setBounds minimum maximum = .ok l') :
    Holds kind (given ++ (minimum.toList ++ maximum.toList)) l' := by
  obtain ⟨-, -, lo, hi, hlo, hhi, -, rfl⟩ := setBounds_eq_ok hr
  rw [h.kind_eq] at hlo hhi
  have hold : ∀ s, s ∈ l.scalars → ∃ v ∈ given ++ (minimum.toList ++ maximum.toList), kind.Reads v s := by
    intro s hs
    obtain ⟨v, hv, hread⟩ := h.read s hs
    exact ⟨v, List.mem_append_left _ hv, hread⟩
  refine ⟨h.kind_eq, fun s hs => ?_⟩
  rcases mem_scalars_iff.1 hs with hs | rfl | rfl
  · exact hold s (mem_scalars_iff.2 (.inl hs))
  · rcases boundOr_eq_ok hlo with hs | ⟨v, _, rfl, hread, ⟨⟩⟩
    · exact hold s (mem_scalars_iff.2 (.inr (.inl hs.symm)))
    · exact ⟨v, by simp, .inr hread⟩
  · rcases boundOr_eq_ok hhi with hs | ⟨v, _, rfl, hread, ⟨⟩⟩
    · exact hold s (mem_scalars_iff.2 (.inr (.inr hs.symm)))
    · exact ⟨v, by simp, .inr hread⟩

theorem Holds.run (h : Holds kind given l) (hr : c.run l = .ok l') : Holds kind (given ++ c.given) l' := by
  cases c with
  | pattern text => exact (h.setPattern hr).mono (by simp +contextual)
  | options allowed => exact h.setOptions hr
  | bounds minimum maximum => exact h.setBounds hr

theorem Holds.after (h : Holds kind given l) (c : Call) : Holds kind (given ++ c.given) (l.after c) := by
  cases hr : c.run l with
  | ok l' => exact after_of_run_eq_ok hr ▸ h.run hr
  | error e => exact (after_of_run_eq_error hr).symm ▸ h.mono (by simp +contextual)

/-- **What a leaf holds was given**: whatever is called on it and whatever is refused. -/
theorem Holds.afterAll (h : Holds kind given l) (cs : List Call) :
    Holds kind (given ++ cs.flatMap Call.given) (l.afterAll cs) := by
  induction cs generalizing l given with
  | nil => exact h.mono (by simp)
  | cons c cs ih =>
    rw [List.flatMap_cons, ← List.append_assoc]
    exact ih (h.after c)

/-! ## Fragments -/

theorem get?_of_directive? {m : Members Json} {key : String} {v : Json} (h : directive? m key = some v) :
    Members.get? m key = some v :=
  (Option.filter_eq_some_iff.1 h).1

theorem holds_ofMembers {m : Members Json} (h : ofMembers m = .ok l) :
    Holds l.kind (Json.object m).constraintValues l := by
  simp only [ofMembers, Except.bind_eq_ok_iff] at h
  obtain ⟨kind, -, -, -, l₁, h₁, l₂, h₂, l₃, h₃, -, -, h⟩ := h
  have hh₁ : Holds kind [] l₁ := by
    unfold applyPattern at h₁
    split at h₁
    · cases h₁; exact holds_bare
    · exact holds_bare.setPattern h₁
    · cases h₁
  have hh₂ : Holds kind ((Members.get? m "__options__").elim [] Json.items) l₂ := by
    unfold applyOptions at h₂
    split at h₂
    · cases h₂; exact hh₁.mono nofun
    · next v hv =>
      rw [get?_of_directive? hv]
      exact hh₁.setOptions h₂
  have hh₃ : Holds kind (Json.object m).constraintValues l₃ := by
    have hgiven : ∀ {key v}, v ∈ (directive? m key).toList → v ∈ (Members.get? m key).toList := by
      intro key v hv
      rw [Option.mem_toList] at hv ⊢
      exact get?_of_directive? hv
    unfold applyBounds at h₃
    split at h₃
    · refine (hh₂.setBounds h₃).mono fun v hv => ?_
      simp only [List.mem_append] at hv
      simp only [Json.constraintValues, List.mem_append]
      rcases hv with hv | hv | hv
      · exact .inl (.inl hv)
      · exact .inl (.inr (hgiven hv))
      · exact .inr (hgiven hv)
    · cases h₃
      exact hh₂.mono fun v hv => by simp [Json.constraintValues, hv]
  obtain rfl := hh₃.kind_eq
  cases h
  exact ⟨rfl, hh₃.read⟩

theorem BuiltFrom.holds (h : BuiltFrom given l) : Holds l.kind given l := by
  cases h with
  | named h =>
    unfold ofKindName at h
    split at h
    · cases h; exact holds_bare
    · cases h
  | @compiled v _ hv h =>
    cases v with
    | object m => exact holds_ofMembers h
    | _ => cases h

/-- The fragment of a leaf has what stands for its options and its bounds. -/
theorem constraintValues_toFragment (h : l.annotations.Coherent) :
    l.toFragment.constraintValues = l.scalars.map Scalar.toJson := by
  obtain ⟨-, -, hoptions, hmin, hmax⟩ := get?_bodyMembers l
  rw [← get?_members h (by decide)] at hoptions hmin hmax
  rw [toFragment, Json.constraintValues, hoptions, hmin, hmax, scalars]
  cases l.options <;> simp [Json.items, Option.toList_map]

/-! ## Well-formed values -/

theorem wellFormed_items {v : Json} (h : v.WellFormed) : ∀ u ∈ v.items, u.WellFormed := by
  cases v with
  | array items => exact h.item
  | _ => simp [Json.items]

theorem wellFormed_constraintValues {v : Json} (h : v.WellFormed) : ∀ u ∈ v.constraintValues, u.WellFormed := by
  cases v with
  | object m =>
    have hget : ∀ {key u}, Members.get? m key = some u → u.WellFormed :=
      fun hu => h.member _ (Members.mem_of_get? hu)
    intro u hu
    simp only [Json.constraintValues, List.mem_append, Option.mem_toList] at hu
    rcases hu with (hu | hu) | hu
    · cases hoptions : Members.get? m "__options__" with
      | none => rw [hoptions] at hu; cases hu
      | some w => rw [hoptions] at hu; exact wellFormed_items (hget hoptions) u hu
    · exact hget hu
    · exact hget hu
  | _ => simp [Json.constraintValues]

theorem Call.wellFormed_given (h : c.WellFormed) : ∀ u ∈ c.given, u.WellFormed := by
  cases c with
  | pattern text => simp [Call.given]
  | options allowed => exact wellFormed_items h
  | bounds minimum maximum =>
    intro u hu
    simp only [Call.given, List.mem_append, Option.mem_toList] at hu
    rcases hu with hu | hu
    · exact h.1 u hu
    · exact h.2 u hu

theorem BuiltFrom.wellFormed (h : BuiltFrom given l) : ∀ u ∈ given, u.WellFormed := by
  cases h with
  | named h => simp
  | compiled hv h => exact wellFormed_constraintValues hv

end Leaf

end RecordSchema

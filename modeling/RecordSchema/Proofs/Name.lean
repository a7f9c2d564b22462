/-
Keys told apart: a special key holds exactly one name (`specialOf?_eq_some_iff`),
and no key is both a field and a special key or a directive. A field is letters,
digits and underscores, at least one (`isFieldChars_spec`).
-/
import RecordSchema.Name

namespace RecordSchema

namespace Name

theorem toList_wrap (name : String) : (wrap name).toList = '_' :: '_' :: (name.toList ++ ['_', '_']) := by
  simp [wrap]

theorem unwrap?_wrap {name : String} (h : isSpecial name = true) : unwrap? (wrap name) = some name := by
  have hlen : (name.toList ++ ['_', '_']).length - 2 = name.toList.length := by simp
  simp only [isSpecial, Bool.and_eq_true] at h
  simp only [unwrap?, toList_wrap, hlen, List.take_left, List.drop_left]
  simp [h]

theorem eq_wrap_of_unwrap? {key name : String} (h : unwrap? key = some name) :
    key = wrap name ∧ isSpecial name = true := by
  unfold unwrap? at h
  split at h
  · next cs hcs =>
    simp only at h
    split at h
    · next hform =>
      simp only [Bool.and_eq_true, decide_eq_true_eq] at hform
      obtain ⟨⟨hclose, hne⟩, hall⟩ := hform
      cases h
      refine ⟨?_, ?_⟩
      · rw [← String.toList_inj, toList_wrap, String.toList_ofList, hcs, ← hclose, List.take_append_drop]
      · simp only [isSpecial, String.toList_ofList, hne, hall, Bool.and_self]
    · cases h
  · cases h

/-- A special key is a free name between double underscores. -/
theorem specialOf?_eq_some_iff {key name : String} :
    specialOf? key = some name ↔ key = wrap name ∧ isFreeSpecial name = true := by
  unfold specialOf? isFreeSpecial
  constructor
  · intro h
    split at h
    · cases h
    · next hd =>
      obtain ⟨rfl, hs⟩ := eq_wrap_of_unwrap? h
      exact ⟨rfl, by simp [hs, hd]⟩
  · rintro ⟨rfl, h⟩
    rw [Bool.and_eq_true, Bool.not_eq_true'] at h
    rw [h.2, if_neg Bool.false_ne_true]
    exact unwrap?_wrap h.1

theorem specialOf?_wrap {name : String} (h : isFreeSpecial name = true) :
    specialOf? (wrap name) = some name :=
  specialOf?_eq_some_iff.2 ⟨rfl, h⟩

theorem specialOf?_of_isDirective {key : String} (h : isDirective key = true) :
    specialOf? key = none := if_pos h

theorem isDirective_wrap {name : String} (h : isFreeSpecial name = true) :
    isDirective (wrap name) = false := by
  simp only [isFreeSpecial, Bool.and_eq_true, Bool.not_eq_true'] at h
  exact h.2

/-! ## Fields -/

/-- A character that may stand in the name of a field. -/
def isFieldChar (c : Char) : Bool := c.isAlphanum || c = '_'

theorem isFieldChars_spec {cs : List Char} (h : isFieldChars cs = true) :
    cs ≠ [] ∧ ∀ c ∈ cs, isFieldChar c = true := by
  have hword : ∀ {c : Char} {cs : List Char}, (c.isAlpha && cs.all isFieldChar) = true →
      ∀ d ∈ c :: cs, isFieldChar d = true := by
    intro c cs h
    rw [Bool.and_eq_true] at h
    exact List.forall_mem_cons.2 ⟨by simp [isFieldChar, Char.isAlphanum, h.1], List.all_eq_true.1 h.2⟩
  cases cs with
  | nil => cases h
  | cons c cs =>
    refine ⟨List.cons_ne_nil _ _, ?_⟩
    unfold isFieldChars at h
    by_cases hc : c = '_'
    · simp only [if_pos hc] at h
      cases cs with
      | nil => cases h
      | cons d ds => exact List.forall_mem_cons.2 ⟨by simp [isFieldChar, hc], hword h⟩
    · simp only [if_neg hc] at h
      exact hword h

theorem isField_of_isDirective {key : String} (h : isDirective key = true) : isField key = false := by
  have hall : ∀ d ∈ directives, isField d = false := by decide
  exact hall key (List.contains_iff_mem.1 h)

theorem isDirective_of_isField {name : String} (h : isField name = true) : isDirective name = false := by
  rw [← Bool.not_eq_true]
  intro hd
  rw [isField_of_isDirective hd] at h
  cases h

theorem isField_wrap (name : String) : isField (wrap name) = false := by
  simp [isField, toList_wrap, isFieldChars]

/-- A field does not have the form of a special key. -/
theorem unwrap?_of_isField {name : String} (h : isField name = true) : unwrap? name = none := by
  rw [Option.eq_none_iff_forall_ne_some]
  intro inner hinner
  obtain ⟨rfl, -⟩ := eq_wrap_of_unwrap? hinner
  rw [isField_wrap] at h
  cases h

theorem specialOf?_of_isField {name : String} (h : isField name = true) : specialOf? name = none := by
  rw [specialOf?, unwrap?_of_isField h, ite_self]

end Name

end RecordSchema

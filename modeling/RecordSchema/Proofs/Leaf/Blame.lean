/-
The errors of leaves: none of them is wrapped in a field, so each is about the
fragment that the leaf is compiled from.
-/
import RecordSchema.Proofs.Except
import RecordSchema.Proofs.Leaf.Setters

namespace RecordSchema

/-- The error is about the fragment itself, not about one within it. -/
def BuildError.Unwrapped (e : BuildError) : Prop := e.fields = []

namespace Leaf

open BuildError (Unwrapped)
open Except (FailsOnlyIn)

theorem unwrapped_setPattern (l : Leaf) (text : String) : FailsOnlyIn Unwrapped (l.setPattern text) := by
  rw [setPattern, Change.changed, perform_assignPattern, Change.outcome_settle]
  repeat' split
  · exact .ok
  · exact .error rfl
  · exact .ok
  · exact .error rfl

theorem unwrapped_optionScalars (kind : Kind) (i : Nat) (done : List Scalar) (vs : List Json) :
    FailsOnlyIn Unwrapped (optionScalars kind i done vs) := by
  induction vs generalizing i done with
  | nil => exact .ok
  | cons v vs ih =>
    rw [optionScalars]
    split
    · exact .error rfl
    · exact ih _ _

theorem unwrapped_setOptions (l : Leaf) (options : Json) : FailsOnlyIn Unwrapped (l.setOptions options) := by
  rw [setOptions, Change.changed, perform_assignOptions, Change.outcome_settle]
  split
  · exact .error rfl
  · split
    · exact .error rfl
    · split
      · split
        · exact .ok
        · next e he => exact .error (unwrapped_optionScalars _ _ _ _ e he)
      · exact .error rfl

theorem unwrapped_boundOr (kind : Kind) (directive : String) (given : Option Json) (old : Option Scalar) :
    FailsOnlyIn Unwrapped (boundOr kind directive given old) := by
  unfold boundOr
  repeat' split
  · exact .ok
  · exact .ok
  · exact .error rfl

theorem unwrapped_setBounds (l : Leaf) (minimum maximum : Option Json) :
    FailsOnlyIn Unwrapped (l.setBounds minimum maximum) := by
  rw [setBounds, Change.changed, perform_assignBounds, Change.outcome_settle]
  split
  · exact .error rfl
  · split
    · exact .error rfl
    · split
      · next e he => exact .error (unwrapped_boundOr _ _ _ _ e he)
      · split
        · next e he => exact .error (unwrapped_boundOr _ _ _ _ e he)
        · split
          · exact .error rfl
          · exact .ok

/-! ## Fragments -/

theorem unwrapped_ofKindName (name : String) : FailsOnlyIn Unwrapped (ofKindName name) := by
  unfold ofKindName
  split
  · exact .ok
  · exact .error rfl

theorem unwrapped_kindOf (m : Members Json) : FailsOnlyIn Unwrapped (kindOf m) := by
  unfold kindOf
  repeat' split
  · exact .ok
  · exact .error rfl
  · exact .error rfl
  · exact .error rfl

theorem unwrapped_checkConflict (m : Members Json) : FailsOnlyIn Unwrapped (checkConflict m) := by
  unfold checkConflict
  repeat' split
  · exact .error rfl
  · exact .ok
  · exact .ok

theorem unwrapped_applyPattern (l : Leaf) (given : Option Json) :
    FailsOnlyIn Unwrapped (l.applyPattern given) := by
  unfold applyPattern
  split
  · exact .ok
  · exact unwrapped_setPattern l _
  · exact .error rfl

theorem unwrapped_applyOptions (l : Leaf) (given : Option Json) :
    FailsOnlyIn Unwrapped (l.applyOptions given) := by
  unfold applyOptions
  split
  · exact .ok
  · exact unwrapped_setOptions l _

theorem unwrapped_applyBounds (l : Leaf) (minimum maximum : Option Json) :
    FailsOnlyIn Unwrapped (l.applyBounds minimum maximum) := by
  unfold applyBounds
  split
  · exact unwrapped_setBounds l minimum maximum
  · exact .ok

theorem unwrapped_checkKeys (m : Members Json) : FailsOnlyIn Unwrapped (checkKeys m) := by
  unfold checkKeys
  split
  · exact .ok
  · refine .error ?_
    split <;> rfl

theorem unwrapped_ofMembers (m : Members Json) : FailsOnlyIn Unwrapped (ofMembers m) := by
  unfold ofMembers
  refine (unwrapped_kindOf m).bind fun kind => ?_
  refine (unwrapped_checkConflict m).bind fun _ => ?_
  refine (unwrapped_applyPattern _ _).bind fun l => ?_
  refine (unwrapped_applyOptions l _).bind fun l => ?_
  refine (unwrapped_applyBounds l _ _).bind fun l => ?_
  exact (unwrapped_checkKeys m).bind fun _ => .ok

/-- **No error of a leaf is wrapped.** -/
theorem unwrapped_ofFragment (v : Json) : FailsOnlyIn Unwrapped (ofFragment v) := by
  cases v with
  | object m => exact unwrapped_ofMembers m
  | _ => exact .error rfl

end Leaf

end RecordSchema

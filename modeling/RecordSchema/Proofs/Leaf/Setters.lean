/-
The setters of leaves, each as one case analysis of what it makes of a leaf
(`perform_assignBounds`). A refusal is found out before anything is assigned,
so it changes nothing (`atomic_assignBounds`).
-/
import RecordSchema.Leaf.Basic

namespace RecordSchema

namespace Leaf

open Change (Atomic settle)

theorem perform_assignPattern (l : Leaf) (text : String) :
    (assignPattern text).perform l = settle l (
      if l.kind ≠ .string then .ok l
      else if l.options.isSome then .error (.conflictingDirectives "__options__" "__regex__")
      else match Pattern.ofText? text with
        | some p => .ok { l with pattern := some p }
        | none => .error (.invalidDirective "__regex__" "<regex error>")) := by
  unfold assignPattern
  by_cases hk : l.kind = .string
  · by_cases ho : l.options.isSome = true
    · simp [hk, ho]
    · cases Pattern.ofText? text <;> simp [hk, ho]
  · simp [hk]

theorem atomic_assignPattern (text : String) : (assignPattern text).Atomic :=
  Atomic.of_settle fun l => ⟨_, perform_assignPattern l text⟩

theorem perform_assignOptions (l : Leaf) (options : Json) :
    (assignOptions options).perform l = settle l (
      if !l.kind.supportsOptions then .error (.unsupportedDirective "__options__" l.kind.name)
      else match l.optionsConflict? with
        | some other => .error (.conflictingDirectives "__options__" other)
        | none =>
          match options with
          | .array (v :: vs) =>
            match optionScalars l.kind 0 [] (v :: vs) with
            | .ok scalars => .ok { l with options := some scalars }
            | .error e => .error e
          | _ => .error (.invalidDirective "__options__" "expected a non-empty list")) := by
  unfold assignOptions
  by_cases hk : l.kind.supportsOptions = true
  · cases hconflict : l.optionsConflict? with
    | some other => simp [hk, hconflict]
    | none =>
      cases options with
      | array vs =>
        cases vs with
        | nil => simp [hk, hconflict]
        | cons v vs =>
          cases hscalars : optionScalars l.kind 0 [] (v :: vs) <;> simp [hk, hconflict, hscalars]
      | _ => simp [hk, hconflict]
  · simp [hk]

theorem atomic_assignOptions (options : Json) : (assignOptions options).Atomic :=
  Atomic.of_settle fun l => ⟨_, perform_assignOptions l options⟩

theorem perform_assignBounds (l : Leaf) (minimum maximum : Option Json) :
    (assignBounds minimum maximum).perform l = settle l (
      if !l.kind.supportsBounds then
        .error (.unsupportedDirective (if minimum.isSome then "__minimum__" else "__maximum__") l.kind.name)
      else if l.options.isSome then .error (.conflictingDirectives "__options__" "__minimum__")
      else match boundOr l.kind "__minimum__" minimum l.minimum with
        | .error e => .error e
        | .ok lo =>
          match boundOr l.kind "__maximum__" maximum l.maximum with
          | .error e => .error e
          | .ok hi =>
            if inverted l.kind lo hi then
              .error (.invalidDirective "__maximum__" "must not be less than __minimum__")
            else .ok { l with minimum := lo, maximum := hi }) := by
  unfold assignBounds
  by_cases hk : l.kind.supportsBounds = true
  · by_cases ho : l.options.isSome = true
    · simp [hk, ho]
    · cases hlo : boundOr l.kind "__minimum__" minimum l.minimum with
      | error e => simp [hk, ho, hlo]
      | ok lo =>
        cases hhi : boundOr l.kind "__maximum__" maximum l.maximum with
        | error e => simp [hk, ho, hlo, hhi]
        | ok hi => by_cases hinv : inverted l.kind lo hi = true <;> simp [hk, ho, hlo, hhi, hinv]
  · simp [hk]

theorem atomic_assignBounds (minimum maximum : Option Json) : (assignBounds minimum maximum).Atomic :=
  Atomic.of_settle fun l => ⟨_, perform_assignBounds l minimum maximum⟩

end Leaf

end RecordSchema

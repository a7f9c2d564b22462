/-
The setters of nodes: a call on a node is one on a part of it, so that it
leaves the node as it was where it is refused (`Node.fst_of_assignBounds?`).
-/
import RecordSchema.Proofs.Annotations
import RecordSchema.Proofs.Leaf.Setters
import RecordSchema.Node.Basic

namespace RecordSchema

namespace ArrayRule

theorem perform_assignBounds (rule : ArrayRule) (minimum maximum : Option Json) :
    (assignBounds minimum maximum).perform rule = Change.settle rule (
      match countOr "__minimum__" minimum rule.minimum with
      | .error e => .error e
      | .ok lo =>
        match countOr "__maximum__" maximum rule.maximum with
        | .error e => .error e
        | .ok hi =>
          if inverted lo hi then .error (.invalidDirective "__maximum__" "must not be less than __minimum__")
          else .ok { rule with minimum := lo, maximum := hi }) := by
  unfold assignBounds
  cases hlo : countOr "__minimum__" minimum rule.minimum with
  | error e => simp [hlo]
  | ok lo =>
    cases hhi : countOr "__maximum__" maximum rule.maximum with
    | error e => simp [hlo, hhi]
    | ok hi => by_cases hinv : inverted lo hi = true <;> simp [hlo, hhi, hinv]

theorem atomic_assignBounds (minimum maximum : Option Json) : (assignBounds minimum maximum).Atomic :=
  Change.Atomic.of_settle fun rule => ⟨_, perform_assignBounds rule minimum maximum⟩

end ArrayRule

namespace Node

variable {n : Node} {p : Node × Except BuildError Unit} {e : BuildError}

theorem fst_of_assignSpecial? {name : String} {value : Json} (h : n.assignSpecial? name value = some p)
    (he : p.2 = .error e) : p.1 = n := by
  have hatomic := Annotations.atomic_assignSpecial name value
  cases n with
  | options alternatives => cases h
  | leaf l => cases h; exact hatomic.performIn he
  | array rule child => cases h; exact hatomic.performIn he
  | hash rule child => cases h; exact hatomic.performIn he
  | record rule fields => cases h; exact hatomic.performIn he

theorem fst_of_assignBounds? {minimum maximum : Option Json} (h : n.assignBounds? minimum maximum = some p)
    (he : p.2 = .error e) : p.1 = n := by
  cases n with
  | leaf l => cases h; exact (Leaf.atomic_assignBounds minimum maximum).performIn he
  | array rule child => cases h; exact (ArrayRule.atomic_assignBounds minimum maximum).performIn he
  | _ => cases h

end Node

end RecordSchema

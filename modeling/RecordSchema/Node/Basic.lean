/-
Nodes: what a schema says of a value. A node is a leaf, a list of one child,
a hash of one child under checked keys, a choice of options, or a record of
named fields.
-/
import RecordSchema.Leaf.Basic

namespace RecordSchema

/-- Whether a list may repeat items. -/
inductive ArrayMode where
  | unique
  | duplicates
  deriving DecidableEq, Repr

def ArrayMode.name : ArrayMode → String
  | .unique => "unique"
  | .duplicates => "duplicates"

/-- What a schema says of a list apart from its items. -/
structure ArrayRule where
  annotations : Annotations
  mode : ArrayMode
  minimum : Option Nat
  maximum : Option Nat

/-- What a schema says of a hash apart from its values. -/
structure HashRule where
  annotations : Annotations
  key : Leaf

/-- What a schema says of a record apart from its fields. -/
structure RecordRule where
  annotations : Annotations
  /-- For a field those that must be set wherever it is. -/
  requires : Members (List String)

inductive Node where
  | leaf (l : Leaf)
  | array (rule : ArrayRule) (child : Node)
  | hash (rule : HashRule) (child : Node)
  | options (alternatives : List Node)
  | record (rule : RecordRule) (fields : List (String × Node))

namespace Node

/-- The name of the node's form. -/
def className : Node → String
  | leaf _ => "Node"
  | array .. => "ArrayNode"
  | hash .. => "HashNode"
  | options _ => "OptionsNode"
  | record .. => "Parent"

/-- The annotations of a node; a choice of options has none of its own. -/
def annotations? : Node → Option Annotations
  | leaf l => some l.annotations
  | array rule _ => some rule.annotations
  | hash rule _ => some rule.annotations
  | options _ => none
  | record rule _ => some rule.annotations

mutual

/-- Whether null stands for an absent value; for a choice, whether it does for every option. -/
def isOptional : Node → Bool
  | leaf l => l.annotations.optional
  | array rule _ => rule.annotations.optional
  | hash rule _ => rule.annotations.optional
  | options alternatives => allOptional alternatives
  | record rule _ => rule.annotations.optional

def allOptional : List Node → Bool
  | [] => true
  | n :: ns => isOptional n && allOptional ns

end

/-- The special value of a name. -/
def special? (n : Node) (name : String) : Option Json := n.annotations?.bind (·.special? name)

end Node

/-! ## Changes -/

namespace ArrayRule

/-- A count of items: an integer from zero up, or a literal of one. -/
def countOf (directive : String) (v : Json) : Except BuildError Nat :=
  match Kind.int.integer? v with
  | some n =>
    if 0 ≤ n ∧ n < Number.int64Bound then .ok n.toNat
    else .error (.invalidDirective directive (v.text ++ " is not a valid item count"))
  | none => .error (.invalidDirective directive (v.text ++ " is not a valid item count"))

/-- A count that may be given; the old one stays if it is not. -/
def countOr (directive : String) (given : Option Json) (old : Option Nat) : Except BuildError (Option Nat) :=
  match given with
  | none => .ok old
  | some v => (countOf directive v).map some

/-- Whether there are both counts, with the maximum below the minimum. -/
def inverted : Option Nat → Option Nat → Bool
  | some lo, some hi => hi < lo
  | _, _ => false

/-- Assigns the least count of items, the greatest or both; one that is not given stays as it is. -/
def assignBounds (minimum maximum : Option Json) : Change ArrayRule Unit := do
  let rule ← get
  let lo ← ofExcept (countOr "__minimum__" minimum rule.minimum)
  let hi ← ofExcept (countOr "__maximum__" maximum rule.maximum)
  if inverted lo hi then throw (.invalidDirective "__maximum__" "must not be less than __minimum__")
  modify fun rule => { rule with minimum := lo }
  modify fun rule => { rule with maximum := hi }

/-- The rule with counts of items, or why they are refused. -/
def setBounds (rule : ArrayRule) (minimum maximum : Option Json) : Except BuildError ArrayRule :=
  (assignBounds minimum maximum).changed rule

end ArrayRule

namespace Node

/-- Assigns a special value to a name; `none` for a choice of options, which has none. -/
def assignSpecial? (n : Node) (name : String) (value : Json) : Option (Node × Except BuildError Unit) :=
  let assign := Annotations.assignSpecial name value
  match n with
  | leaf l => some (assign.performIn l.annotations fun a => leaf { l with annotations := a })
  | array rule child => some (assign.performIn rule.annotations fun a => array { rule with annotations := a } child)
  | hash rule child => some (assign.performIn rule.annotations fun a => hash { rule with annotations := a } child)
  | options _ => none
  | record rule fields =>
    some (assign.performIn rule.annotations fun a => record { rule with annotations := a } fields)

/-- Assigns bounds; `none` for a node that has no such. -/
def assignBounds? (n : Node) (minimum maximum : Option Json) : Option (Node × Except BuildError Unit) :=
  match n with
  | leaf l => some ((Leaf.assignBounds minimum maximum).performIn l leaf)
  | array rule child => some ((ArrayRule.assignBounds minimum maximum).performIn rule fun r => array r child)
  | _ => none

/-- Assigns allowed values; `none` for a node that has no such. -/
def assignOptions? (n : Node) (allowed : Json) : Option (Node × Except BuildError Unit) :=
  match n with
  | leaf l => some ((Leaf.assignOptions allowed).performIn l leaf)
  | _ => none

/-- Assigns the pattern; `none` for a node that has no such. -/
def assignPattern? (n : Node) (text : String) : Option (Node × Except BuildError Unit) :=
  match n with
  | leaf l => some ((Leaf.assignPattern text).performIn l leaf)
  | _ => none

/-- The node with a special value, or why it is refused. -/
def setSpecial? (n : Node) (name : String) (value : Json) : Option (Except BuildError Node) :=
  (n.assignSpecial? name value).map Change.outcome

/-- The node with bounds, or why they are refused. -/
def setBounds? (n : Node) (minimum maximum : Option Json) : Option (Except BuildError Node) :=
  (n.assignBounds? minimum maximum).map Change.outcome

/-- The node with allowed values, or why they are refused. -/
def setOptions? (n : Node) (allowed : Json) : Option (Except BuildError Node) :=
  (n.assignOptions? allowed).map Change.outcome

/-- The node with a pattern, or why it is refused. -/
def setPattern? (n : Node) (text : String) : Option (Except BuildError Node) :=
  (n.assignPattern? text).map Change.outcome

end Node

end RecordSchema

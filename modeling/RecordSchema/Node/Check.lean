/-
What a node accepts: the list of everything wrong with a value.

A container looks at its parts with the checks of its children, each at the
path of the part, and goes on after a failure. `ArrayRule.failures`,
`HashRule.failures` and `RecordRule.failures` say what each container adds;
`Node.failures` ties them together.
-/
import RecordSchema.Leaf.Check
import RecordSchema.Node.Basic

namespace RecordSchema

/-- Finds what is wrong with a value at a path. -/
abbrev Checker := Json → Path → Failures

/-- A field of a record as its check needs it. -/
structure FieldCheck where
  optional : Bool
  failures : Checker

namespace ArrayRule

/-- What is wrong with the items from the `i`-th on. In unique mode `seen` holds the accepted items
before them that repeat no other, with their positions. -/
def itemFailures (mode : ArrayMode) (child : Checker) (path : Path) :
    Nat → List (Nat × Json) → List Json → Failures
  | _, _, [] => []
  | i, seen, v :: vs =>
    match child v (path.index i) with
    | f :: fs => (f :: fs) ++ itemFailures mode child path (i + 1) seen vs
    | [] =>
      if mode = .unique then
        match seen.find? fun e => e.2.same v with
        | some (first, _) =>
          ⟨path.index i, .duplicateOf (path.index first), none⟩ :: itemFailures mode child path (i + 1) seen vs
        | none => itemFailures mode child path (i + 1) (seen ++ [(i, v)]) vs
      else itemFailures mode child path (i + 1) seen vs

/-- What is wrong with the count of items. -/
def countFailures (rule : ArrayRule) (count : Nat) (path : Path) : Failures :=
  (match rule.minimum with
    | some lo => if count < lo then [⟨path, .belowMinimum, none⟩] else []
    | none => [])
  ++ (match rule.maximum with
    | some hi => if hi < count then [⟨path, .aboveMaximum, none⟩] else []
    | none => [])

def failures (rule : ArrayRule) (child : Checker) (v : Json) (path : Path) : Failures :=
  if v.isNull && rule.annotations.optional then []
  else match v with
    | .array items => itemFailures rule.mode child path 0 [] items ++ rule.countFailures items.length path
    | v => [⟨path, .notAList, some v.typeName⟩]

end ArrayRule

namespace HashRule

/-- What is wrong with an entry; a value under a bad key is not looked at. -/
def entryFailures (rule : HashRule) (child : Checker) (path : Path) (key : String) (v : Json) : Failures :=
  if rule.key.accepts (.string key) then child v (path.field key)
  else [⟨path.field key, .invalidKey key, none⟩]

def failures (rule : HashRule) (child : Checker) (v : Json) (path : Path) : Failures :=
  if v.isNull && rule.annotations.optional then []
  else match v with
    | .object members => members.flatMap fun e => rule.entryFailures child path e.1 e.2
    | v => [⟨path, .notAHash, some v.typeName⟩]

end HashRule

namespace RecordRule

/-- The texts that leave a field unset. -/
def unsetTexts : List String := ["", "0000-00-00", "0000-00-00 00:00:00"]

/-- Whether a field that another one needs is not set: absent, null, or one of the unset texts. -/
def isUnset : Option Json → Bool
  | none | some .null => true
  | some (.string s) => unsetTexts.contains s
  | some _ => false

/-- A field's value, null counting as absent. -/
def present? (record : Members Json) (name : String) : Option Json :=
  (Members.get? record name).filter fun v => !v.isNull

/-- The needs of a field that the record leaves unset. -/
def needFailures (rule : RecordRule) (record : Members Json) (name : String) (path : Path) : Failures :=
  (((Members.get? rule.requires name).getD []).filter fun other => isUnset (Members.get? record other)).map
    fun other => ⟨path, .requires other, none⟩

/-- What is wrong with a field. Its needs are looked at only where it is present and accepted. -/
def fieldFailures (rule : RecordRule) (record : Members Json) (path : Path) (name : String)
    (check : FieldCheck) : Failures :=
  match present? record name with
  | none => if check.optional then [] else [⟨path.field name, .missing, none⟩]
  | some v =>
    match check.failures v (path.field name) with
    | [] => rule.needFailures record name (path.field name)
    | fs => fs

/-- The keys of a record that are no field. -/
def undeclaredFailures (names : List String) (record : Members Json) (path : Path) : Failures :=
  (record.keys.filter fun key => !names.contains key).map fun key => ⟨path.field key, .undeclared, none⟩

def failures (rule : RecordRule) (checks : List (String × FieldCheck)) (v : Json) (path : Path) : Failures :=
  if v.isNull && rule.annotations.optional then []
  else match v with
    | .object record =>
      (checks.flatMap fun c => rule.fieldFailures record path c.1 c.2)
        ++ undeclaredFailures (checks.map (·.1)) record path
    | v => [⟨path, .notAnObject, some v.typeName⟩]

end RecordRule

namespace Node

mutual

/-- What is wrong with a value at a path, in the order of discovery. -/
def failures : Node → Json → Path → Failures
  | leaf l => l.failures
  | array rule child => rule.failures child.failures
  | hash rule child => rule.failures child.failures
  | options alternatives => fun v path =>
    if v.isNull && allOptional alternatives then []
    else if (checkers alternatives).any fun check => (check v path).isEmpty then []
    else [⟨path, .noValidOption, none⟩]
  | record rule fields => rule.failures (fieldChecks fields)

/-- The checks of several nodes. -/
def checkers : List Node → List Checker
  | [] => []
  | n :: ns => n.failures :: checkers ns

/-- The checks of a record's fields. -/
def fieldChecks : List (String × Node) → List (String × FieldCheck)
  | [] => []
  | (name, n) :: fields => (name, ⟨n.isOptional, n.failures⟩) :: fieldChecks fields

end

/-- Whether nothing is wrong with a value. -/
def accepts (n : Node) (v : Json) : Bool := (n.failures v .root).isEmpty

end Node

end RecordSchema

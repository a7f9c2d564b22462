/-
The canonical form of the values of a node. It stops at the first part that
has none.

A choice of options cleans by the first option that accepts the value. A
record drops fields that are null and orders the rest as they were declared; a
hash cleans its keys too, and where two keys become one the later value stays,
in the place of the earlier.
-/
import RecordSchema.Leaf.Clean
import RecordSchema.Node.Check

namespace RecordSchema

/-- Brings a value at a path into canonical form. -/
abbrev Cleaner := Json → Path → Except CleanError Json

namespace ArrayRule

/-- The items from the `i`-th on in canonical form. -/
def cleanItems (child : Cleaner) (path : Path) : Nat → List Json → Except CleanError (List Json)
  | _, [] => .ok []
  | i, v :: vs =>
    match child v (path.index i) with
    | .error e => .error e
    | .ok w => (cleanItems child path (i + 1) vs).map (w :: ·)

def clean (rule : ArrayRule) (child : Cleaner) (v : Json) (path : Path) : Except CleanError Json :=
  if v.isNull && rule.annotations.optional then .ok .null
  else match v with
    | .array items => (cleanItems child path 0 items).map .array
    | v => .error ⟨path, .wrongShape "list" v.typeName⟩

end ArrayRule

namespace HashRule

/-- A key in canonical form; one that is no string is written as JSON text. -/
def cleanKey (rule : HashRule) (key : String) (path : Path) : Except CleanError String :=
  (rule.key.clean (.string key) path).map fun
    | .string s => s
    | v => v.text

/-- The entries in canonical form, put into those cleaned before. -/
def cleanEntries (rule : HashRule) (child : Cleaner) (path : Path) :
    Members Json → List (String × Json) → Except CleanError (Members Json)
  | done, [] => .ok done
  | done, (key, v) :: rest =>
    match rule.cleanKey key (path.field key) with
    | .error e => .error e
    | .ok key' =>
      match child v (path.field key) with
      | .error e => .error e
      | .ok w => cleanEntries rule child path (done.insert key' w) rest

def clean (rule : HashRule) (child : Cleaner) (v : Json) (path : Path) : Except CleanError Json :=
  if v.isNull && rule.annotations.optional then .ok .null
  else match v with
    | .object members => (rule.cleanEntries child path [] members).map .object
    | v => .error ⟨path, .wrongShape "hash" v.typeName⟩

end HashRule

namespace RecordRule

/-- The fields that are present, in the order of declaration and in canonical form. -/
def cleanFields (record : Members Json) (path : Path) :
    List (String × Cleaner) → Except CleanError (List (String × Json))
  | [] => .ok []
  | (name, cleaner) :: rest =>
    match present? record name with
    | none => cleanFields record path rest
    | some v =>
      match cleaner v (path.field name) with
      | .error e => .error e
      | .ok w => (cleanFields record path rest).map ((name, w) :: ·)

def clean (rule : RecordRule) (cleaners : List (String × Cleaner)) (v : Json) (path : Path) :
    Except CleanError Json :=
  if v.isNull && rule.annotations.optional then .ok .null
  else match v with
    | .object record =>
      match (Members.keys record).find? fun key => !(cleaners.map (·.1)).contains key with
      | some key => .error ⟨path, .unknownField key⟩
      | none => (cleanFields record path cleaners).map .object
    | v => .error ⟨path, .wrongShape "object" v.typeName⟩

end RecordRule

namespace Node

mutual

/-- The canonical form of a value at a path. -/
def clean : Node → Json → Path → Except CleanError Json
  | leaf l => l.clean
  | array rule child => rule.clean child.clean
  | hash rule child => rule.clean child.clean
  | options alternatives => fun v path =>
    if v.isNull && allOptional alternatives then .ok .null
    else match (cleaners alternatives).find? fun a => (a.1 v path).isEmpty with
      | some (_, cleaner) => cleaner v path
      | none => .error ⟨path, .noValidOption⟩
  | record rule fields => rule.clean (fieldCleaners fields)

/-- The checks of several nodes, each with its cleaning. -/
def cleaners : List Node → List (Checker × Cleaner)
  | [] => []
  | n :: ns => (n.failures, n.clean) :: cleaners ns

/-- The cleaning of a record's fields. -/
def fieldCleaners : List (String × Node) → List (String × Cleaner)
  | [] => []
  | (name, n) :: fields => (name, n.clean) :: fieldCleaners fields

end

end Node

end RecordSchema

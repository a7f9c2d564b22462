/-
Compiling schema fragments into nodes.

The form of a fragment decides: a list is a choice of options, a string the
name of a kind, an object with `__array__` or `__hash__` a container around
what its other members describe, one with `__type__` a leaf or the node that
a nested fragment describes, and any other object a record.

Each member is looked at together with the node its value would make
(`Member`), so that the recursion follows the fragment (`ofFragment`) while a
container may still pass on the members it does not take itself.
-/
import RecordSchema.Json.Parser
import RecordSchema.Node.Basic

namespace RecordSchema

/-- The value of a member, and the node that it describes as a fragment of its own. -/
structure Member where
  value : Json
  node : Except BuildError Node

namespace Member

/-- The members of an object as they were given. -/
def values (ms : Members Member) : Members Json := Members.mapValues (·.value) ms

end Member

/-! ## Lists -/

/-- The mode of a name; any other name, and anything that is no name, counts as unique. -/
def ArrayMode.ofJson : Json → ArrayMode
  | .string "duplicates" => .duplicates
  | _ => .unique

/-- What `__array__` says: a mode, or an object of settings. -/
structure ArraySettings where
  mode : ArrayMode
  minimum : Option Json
  maximum : Option Json
  optional : Option Json

namespace ArraySettings

def initial : ArraySettings := ⟨.unique, none, none, none⟩

/-- Puts in one member of the settings. -/
def set (s : ArraySettings) (key : String) (v : Json) : Except BuildError ArraySettings :=
  if key = "type" then .ok { s with mode := .ofJson v }
  else if key = "minimum" then .ok { s with minimum := some v }
  else if key = "maximum" then .ok { s with maximum := some v }
  else if key = "optional" then .ok { s with optional := some v }
  else .error (.unexpectedKey ("__array__." ++ key))

def ofMembers (s : ArraySettings) : List (String × Json) → Except BuildError ArraySettings
  | [] => .ok s
  | (key, v) :: rest =>
    match s.set key v with
    | .ok s => ofMembers s rest
    | .error e => .error e

def ofJson : Json → Except BuildError ArraySettings
  | .object members => initial.ofMembers members
  | .string mode => .ok { initial with mode := .ofJson (.string mode) }
  | v => .error (.invalidDirective "__array__" ("expected a mode or an object, got " ++ v.text))

/-- The annotations of a list: a flag among the members goes before one among the settings. -/
def annotations (s : ArraySettings) (m : Members Json) : Annotations :=
  let a := Annotations.ofMembers m
  if m.has "__optional__" then a
  else { a with optional := (s.optional.map Annotations.flag).getD false }

/-- The rule of a list, its counts included; null counts as absent. -/
def rule (s : ArraySettings) (annotations : Annotations) : Except BuildError ArrayRule :=
  let minimum := s.minimum.filter fun v => !v.isNull
  let maximum := s.maximum.filter fun v => !v.isNull
  ArrayRule.setBounds ⟨annotations, s.mode, none, none⟩ minimum maximum

end ArraySettings

/-! ## Hashes -/

/-- The leaf that checks the keys of a hash. -/
def HashRule.keyOf : Json → Except BuildError Leaf
  | .bool true => Leaf.ofKindName "string"
  | .string name => Leaf.ofKindName name
  | .object m => Leaf.ofFragment (.object m)
  | v => .error (.invalidDirective "__hash__" ("expected true, a type name or a fragment, got " ++ v.text))

/-! ## Records -/

namespace RecordRule

/-- A name in the list of fields that another field needs. -/
def neededName : Json → Except BuildError String
  | .string name => .ok name
  | v => .error (.invalidDirective "__require__" ("expected a field name, got " ++ v.text))

/-- The fields that another field needs: one name or a list of them. -/
def neededNames : Json → Except BuildError (List String)
  | .string name => .ok [name]
  | .array names => names.mapM neededName
  | v => .error (.invalidDirective "__require__" ("expected a field name or a list of them, got " ++ v.text))

/-- What `__require__` says; null and nothing at all ask for nothing. -/
def requiresOf : Option Json → Except BuildError (Members (List String))
  | none | some .null => .ok []
  | some (.object m) => m.mapM fun e => (neededNames e.2).map (e.1, ·)
  | some v => .error (.invalidDirective "__require__" ("expected an object, got " ++ v.text))

/-- The first name in a table of needs that is no field. -/
def unknownField? (names : List String) (requires : Members (List String)) : Option String :=
  (requires.flatMap fun e => e.1 :: e.2).find? fun name => !names.contains name

end RecordRule

namespace Node

/-- The fields of a record, each under a name that a field may have. -/
def fieldsOf : List (String × Member) → Except BuildError (List (String × Node))
  | [] => .ok []
  | (name, m) :: rest =>
    if Name.isDirective name then .error (.unexpectedDirective name)
    else if !Name.isField name then .error (.invalidFieldName name)
    else match m.node with
      | .error e => .error (.inField name e)
      | .ok n => (fieldsOf rest).map ((name, n) :: ·)

/-- The rule and the fields of a record. -/
def recordOf (ms : Members Member) : Except BuildError (RecordRule × List (String × Node)) := do
  let requires ← RecordRule.requiresOf (Members.get? (Member.values ms) "__require__")
  let ms := ms.remove "__require__"
  let fields ← fieldsOf (Annotations.strip ms)
  match RecordRule.unknownField? (fields.map (·.1)) requires with
  | some name => .error (.unknownRequiredField name)
  | none => .ok (⟨.ofMembers (Member.values ms), requires⟩, fields)

/-- A node from members without `__array__` and `__hash__`. -/
def bodyOf (ms : Members Member) : Except BuildError Node :=
  match Members.get? ms "__type__" with
  | some ⟨.object _, node⟩ | some ⟨.array _, node⟩ =>
    match ms.find? fun e => e.1 != "__type__" with
    | some (key, _) => .error (.unexpectedKey key)
    | none => node
  | some _ => (Leaf.ofMembers (Member.values ms)).map leaf
  | none => (recordOf ms).map fun (rule, fields) => record rule fields

/-- A hash from what `__hash__` says and the other members. -/
def hashOf (key : Json) (ms : Members Member) : Except BuildError Node := do
  let key ← HashRule.keyOf key
  let rest := Annotations.strip ms
  if rest.isEmpty then .error (.missingDirective "child node of __hash__")
  else
    let child ← bodyOf rest
    return hash ⟨.ofMembers (Member.values ms), key⟩ child

/-- A node from members without `__array__`. -/
def hashOrBodyOf (ms : Members Member) : Except BuildError Node :=
  match Members.get? ms "__hash__" with
  | some m => hashOf m.value (ms.remove "__hash__")
  | none => bodyOf ms

/-- A list from what `__array__` says and the other members. -/
def arrayOf (settings : Json) (ms : Members Member) : Except BuildError Node := do
  let settings ← ArraySettings.ofJson settings
  let rest := Annotations.strip ms
  if rest.isEmpty then .error (.missingDirective "child node of __array__")
  else
    let child ← hashOrBodyOf rest
    let rule ← settings.rule (settings.annotations (Member.values ms))
    return array rule child

/-- A node from the members of an object. -/
def ofMembers (ms : Members Member) : Except BuildError Node :=
  match Members.get? ms "__array__" with
  | some m => arrayOf m.value (ms.remove "__array__")
  | none => hashOrBodyOf ms

/-- The options of a choice from the `i`-th on; an error names the position. -/
def alternativesOf : Nat → List (Except BuildError Node) → Except BuildError (List Node)
  | _, [] => .ok []
  | i, .error e :: _ => .error (.inField (Path.indexText i) e)
  | i, .ok n :: rest => (alternativesOf (i + 1) rest).map (n :: ·)

/-- A choice of at least one option. -/
def optionsOf : List (Except BuildError Node) → Except BuildError Node
  | [] => .error (.unrecognizedFragment "an empty list of options")
  | n :: ns => (alternativesOf 0 (n :: ns)).map options

mutual

/-- The node that a fragment describes. -/
def ofFragment : Json → Except BuildError Node
  | .array items => optionsOf (nodesOf items)
  | .string name => (Leaf.ofKindName name).map leaf
  | .object members => ofMembers (membersOf members)
  | .null => .error (.unrecognizedFragment "null")
  | .bool b => .error (.unrecognizedFragment (Json.boolText b))
  | .number n => .error (.unrecognizedFragment n.text)

/-- The node of each item. -/
def nodesOf : List Json → List (Except BuildError Node)
  | [] => []
  | v :: vs => ofFragment v :: nodesOf vs

/-- Each member with the node of its value. -/
def membersOf : List (String × Json) → List (String × Member)
  | [] => []
  | (k, v) :: rest => (k, ⟨v, ofFragment v⟩) :: membersOf rest

end

/-- The node of a fragment given as JSON text. -/
def ofText (text : String) : Except BuildError Node :=
  match Json.parse? text with
  | some v => ofFragment v
  | none => .error .malformedJson

end Node

end RecordSchema

/-
Trees: records with a name, the roots of schemas. The paths of a tree's
failures and errors start with its name.
-/
import RecordSchema.Node.Clean
import RecordSchema.Node.Compile
import RecordSchema.Node.Export

namespace RecordSchema

structure Tree where
  name : String
  rule : RecordRule
  fields : List (String × Node)

namespace Tree

/-- The name that a fragment gives, or the one to fall back on where it gives none. -/
def nameOf (fallback : Option String) (m : Members Json) : Except BuildError String :=
  match Members.get? m "__name__" with
  | some (.string name) => .ok name
  | some v => .error (.invalidDirective "__name__" ("expected a string, got " ++ v.text))
  | none =>
    match fallback with
    | some name => .ok name
    | none => .error (.missingDirective "__name__")

/-- The tree of a fragment; `fallback` is its name if the fragment gives none. -/
def compile (fallback : Option String) : Json → Except BuildError Tree
  | .object m => do
    let name ← nameOf fallback m
    if !Name.isField name then .error (.invalidDirective "__name__" (name ++ " is not a valid name"))
    else
      let (rule, fields) ← Node.recordOf (Members.remove (Node.membersOf m) "__name__")
      return ⟨name, rule, fields⟩
  | v => .error (.unrecognizedFragment v.text)

/-- The tree of a fragment that gives its name. -/
def ofFragment (v : Json) : Except BuildError Tree := compile none v

/-- The tree of a fragment given as JSON text. -/
def ofText (text : String) : Except BuildError Tree :=
  match Json.parse? text with
  | some v => ofFragment v
  | none => .error .malformedJson

/-- The tree as a node, without its name. -/
def body (t : Tree) : Node := .record t.rule t.fields

def field? (t : Tree) (name : String) : Option Node := Members.get? t.fields name

/-- Where the values of the tree are: under its name, or at the root. -/
def base (t : Tree) (includeName : Bool) : Path := if includeName then .ofField t.name else .root

/-- What is wrong with a value, at paths with or without the tree's name. -/
def failuresWithName (t : Tree) (v : Json) (includeName : Bool) : Failures := t.body.failures v (t.base includeName)

def failures (t : Tree) (v : Json) : Failures := t.failuresWithName v true

def accepts (t : Tree) (v : Json) : Bool := (t.failures v).isEmpty

def clean (t : Tree) (v : Json) : Except CleanError Json := t.body.clean v (t.base true)

/-- A fragment that compiles to the tree, its name in front. -/
def toFragment (t : Tree) : Json :=
  .object (("__name__", .string t.name) :: (t.rule.members ++ Node.fieldMembers t.fields))

def setSpecial (t : Tree) (name : String) (value : Json) : Except BuildError Tree :=
  (t.rule.annotations.setSpecial name value).map fun a => { t with rule := { t.rule with annotations := a } }

end Tree

end RecordSchema

/-
Registries: trees under their names, no two under one name. A tree once
registered stays as it is; a second one of its name is refused.

Trees are kept under the key that they were registered by, in the order of
registration. What is listed is listed in the order of the keys.
-/
import RecordSchema.Tree

namespace RecordSchema

structure Registry where
  trees : Members Tree

inductive RegistryError where
  | duplicateName (name : String)
  | treeNotFound (name : String)
  | clean (error : CleanError)
  deriving DecidableEq

def RegistryError.message : RegistryError → String
  | duplicateName name => "tree '" ++ name ++ "' already registered"
  | treeNotFound name => "tree '" ++ name ++ "' not found"
  | clean error => error.message

namespace Registry

def empty : Registry := ⟨[]⟩

/-- The keys of the trees, in order. -/
def names (r : Registry) : List String := (Members.keys r.trees).mergeSort

def size (r : Registry) : Nat := r.trees.length

def isEmpty (r : Registry) : Bool := r.trees.isEmpty

def get? (r : Registry) (name : String) : Option Tree := Members.get? r.trees name

/-- Adds a tree under its name, if there is none under that name. -/
def register (r : Registry) (t : Tree) : Except RegistryError Registry :=
  if r.trees.has t.name then .error (.duplicateName t.name) else .ok ⟨r.trees.insert t.name t⟩

/-- The tree of a name that there must be. -/
def find (r : Registry) (name : String) : Except RegistryError Tree :=
  match r.get? name with
  | some t => .ok t
  | none => .error (.treeNotFound name)

/-- What is wrong with a value, by the tree of a name. -/
def failures (r : Registry) (name : String) (v : Json) : Except RegistryError Failures :=
  (r.find name).map (·.failures v)

/-- What is wrong with each of several values. -/
def failuresOfMany (r : Registry) (name : String) (vs : List Json) : Except RegistryError (List Failures) :=
  (r.find name).map fun t => vs.map t.failures

def clean (r : Registry) (name : String) (v : Json) : Except RegistryError Json :=
  match r.find name with
  | .ok t => (t.clean v).mapError .clean
  | .error e => .error e

/-- The fragments of all trees, in the order of their names. -/
def toJson (r : Registry) : Json :=
  .object (r.names.filterMap fun name => (r.get? name).map fun t => (name, t.toFragment))

end Registry

end RecordSchema

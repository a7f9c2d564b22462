/-
Fragments of nodes: an object or list that compiles to the node again.

The child of a list or a hash is merged into the container's own fragment
where its keys can not be mistaken for the container's: a leaf or a record
without annotations, and with at least one member. Any other child stands
under `__type__`.
-/
import RecordSchema.Node.Basic

namespace RecordSchema

namespace ArrayRule

/-- What `__array__` says: the mode, with the counts if there are any. -/
def settings (rule : ArrayRule) : Json :=
  if rule.minimum.isSome || rule.maximum.isSome then
    .object (("type", .string rule.mode.name)
      :: ((rule.minimum.map fun n => ("minimum", Json.ofInt n)).toList
        ++ (rule.maximum.map fun n => ("maximum", Json.ofInt n)).toList))
  else .string rule.mode.name

/-- The members of a list's fragment that are not its child's. -/
def members (rule : ArrayRule) : List (String × Json) :=
  ("__array__", rule.settings) :: rule.annotations.members

end ArrayRule

namespace HashRule

/-- What `__hash__` says: the name of a kind, or the fragment of a leaf with more to it. -/
def keyJson (rule : HashRule) : Json :=
  if rule.key.isPlain then .string rule.key.kind.name else rule.key.toFragment

/-- The members of a hash's fragment that are not its child's. -/
def members (rule : HashRule) : List (String × Json) := ("__hash__", rule.keyJson) :: rule.annotations.members

end HashRule

namespace RecordRule

/-- The fields that another field needs: one name, or a list of any other count of them. -/
def neededJson : List String → Json
  | [name] => .string name
  | names => .array (names.map .string)

def requireMembers (rule : RecordRule) : List (String × Json) :=
  if rule.requires.isEmpty then []
  else [("__require__", .object (rule.requires.map fun e => (e.1, neededJson e.2)))]

/-- The members of a record's fragment that are not its fields. -/
def members (rule : RecordRule) : List (String × Json) :=
  rule.annotations.optionalMembers ++ rule.requireMembers ++ rule.annotations.specialMembers

end RecordRule

namespace Node

/-- Whether the keys of a node's fragment can stand among those of a container. -/
def mergeable : Node → Bool
  | leaf l => l.annotations.isPlain
  | record rule _ => rule.annotations.isPlain
  | _ => false

/-- The members that write a child, given by its fragment, into a container's fragment. -/
def childMembers (merge : Bool) (fragment : Json) : List (String × Json) :=
  match merge, fragment with
  | true, .object (e :: es) => e :: es
  | _, fragment => [("__type__", fragment)]

mutual

/-- A fragment that compiles to the node. -/
def toFragment : Node → Json
  | leaf l => l.toFragment
  | array rule child => .object (rule.members ++ childMembers child.mergeable child.toFragment)
  | hash rule child => .object (rule.members ++ childMembers child.mergeable child.toFragment)
  | options alternatives => .array (toFragments alternatives)
  | record rule fields => .object (rule.members ++ fieldMembers fields)

def toFragments : List Node → List Json
  | [] => []
  | n :: ns => n.toFragment :: toFragments ns

/-- The members that write the fields of a record. -/
def fieldMembers : List (String × Node) → List (String × Json)
  | [] => []
  | (name, n) :: fields => (name, n.toFragment) :: fieldMembers fields

end

end Node

end RecordSchema

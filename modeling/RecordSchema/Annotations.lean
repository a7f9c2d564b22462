/-
What any node but a choice of options may carry besides its rules: whether
null stands for an absent value, and special values for others to read.

Reading a fragment takes the keys of both out of it (`strip`), so that what
is left belongs to the rules of the node.
-/
import RecordSchema.Change
import RecordSchema.Json.Value
import RecordSchema.Name

namespace RecordSchema

structure Annotations where
  optional : Bool
  /-- Special values under their names without underscores. -/
  specials : List (String × Json)

namespace Annotations

/-- Nothing set. -/
def plain : Annotations := ⟨false, []⟩

def isPlain (a : Annotations) : Bool := !a.optional && a.specials.isEmpty

/-- The value of the flag; anything but a bool counts as false. -/
def flag : Json → Bool
  | .bool b => b
  | _ => false

/-- Whether a member of a fragment is the flag or a special value. -/
def isOwnKey (key : String) : Bool := key == "__optional__" || (Name.specialOf? key).isSome

/-- The flag and the special values among the members of a fragment. -/
def ofMembers (m : Members Json) : Annotations where
  optional := ((Members.get? m "__optional__").map flag).getD false
  specials := m.filterMap fun e => (Name.specialOf? e.1).map fun name => (name, e.2)

/-- The members of a fragment that are neither the flag nor special values. -/
def strip {α : Type} (m : Members α) : Members α := m.filter fun e => !isOwnKey e.1

/-- The special value of a name. -/
def special? (a : Annotations) (name : String) : Option Json := Members.get? a.specials name

/-- Assigns a special value to a name, which must not turn it into a directive. -/
def assignSpecial (name : String) (value : Json) : Change Annotations Unit := do
  if !Name.isFreeSpecial name then throw (.invalidSpecialName name)
  modify fun a => { a with specials := Members.insert a.specials name value }

/-- The annotations with a special value, or why it is refused. -/
def setSpecial (a : Annotations) (name : String) (value : Json) : Except BuildError Annotations :=
  (assignSpecial name value).changed a

def optionalMembers (a : Annotations) : List (String × Json) :=
  if a.optional then [("__optional__", .bool true)] else []

def specialMembers (a : Annotations) : List (String × Json) :=
  a.specials.map fun e => (Name.wrap e.1, e.2)

/-- The members that write the annotations into a fragment. -/
def members (a : Annotations) : List (String × Json) := a.optionalMembers ++ a.specialMembers

end Annotations

end RecordSchema

/-
Paths of files: their components, which decide their order, and the stem and
the extension of the last one.

A dot as a component counts only in front of a path, and repeated or trailing
slashes do not count.
-/
namespace RecordSchema

namespace File

/-- One step of a path, in the order in which different ones sort. -/
inductive Component where
  | rootDir
  | currentDir
  | parentDir
  | normal (name : String)
  deriving DecidableEq

namespace Component

/-- The place of a component among those of other forms. -/
def rank : Component → Nat
  | rootDir => 0
  | currentDir => 1
  | parentDir => 2
  | normal _ => 3

/-- Names sort by their characters. -/
def compare : Component → Component → Ordering
  | normal a, normal b => Ord.compare a b
  | a, b => Ord.compare a.rank b.rank

end Component

/-- The parts of a text between its slashes. -/
def splitSlashes : List Char → List (List Char)
  | [] => [[]]
  | c :: cs =>
    if c = '/' then [] :: splitSlashes cs
    else match splitSlashes cs with
      | [] => [[c]]
      | part :: parts => (c :: part) :: parts

/-- The component of a part, if it counts where it is not in front. -/
def component? (part : List Char) : Option Component :=
  if part.isEmpty || part = ['.'] then none
  else if part = ['.', '.'] then some .parentDir
  else some (.normal (String.ofList part))

/-- The components of a path. -/
def components (path : String) : List Component :=
  match splitSlashes path.toList with
  | [] => []
  | [] :: rest => if rest.isEmpty then [] else .rootDir :: rest.filterMap component?
  | ['.'] :: rest => .currentDir :: rest.filterMap component?
  | parts => parts.filterMap component?

/-- The first difference decides, and the end of a path comes before anything. -/
def compareComponents : List Component → List Component → Ordering
  | [], [] => .eq
  | [], _ :: _ => .lt
  | _ :: _, [] => .gt
  | a :: as, b :: bs => (a.compare b).then (compareComponents as bs)

/-- The order of paths, by their components. -/
def comparePaths (p q : String) : Ordering := compareComponents (components p) (components q)

/-- The last component, if it is a name. -/
def fileName? (path : String) : Option String :=
  match (components path).getLast? with
  | some (.normal name) => some name
  | _ => none

/-- The parts before and after the last dot of a name; a dot in front starts no extension. -/
def splitExtension (name : String) : String × Option String :=
  let reversed := name.toList.reverse
  let after := reversed.takeWhile (· != '.')
  match reversed.dropWhile (· != '.') with
  | [] => (name, none)
  | _ :: before =>
    if before.isEmpty then (name, none)
    else (String.ofList before.reverse, some (String.ofList after.reverse))

/-- The name of a file without its extension. -/
def stem? (path : String) : Option String := (fileName? path).map fun name => (splitExtension name).1

/-- The extension of a file's name. -/
def extension? (path : String) : Option String := (fileName? path).bind fun name => (splitExtension name).2

end File

end RecordSchema

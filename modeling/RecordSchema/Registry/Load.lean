/-
Loading trees from files of JSON text.

A tree without a name of its own is named after its file. Loading a directory
takes its files with the extension `json` in the order of their paths, and
goes on past a file that fails, so that every problem is reported.
-/
import RecordSchema.File.Path
import RecordSchema.File.System
import RecordSchema.Registry.Basic

namespace RecordSchema

/-- Why a file, or some of the files of a directory, could not be loaded. -/
inductive LoadError where
  | io (path cause : String)
  | parse (path : String)
  | build (path : String) (error : BuildError)
  | invalidFileName (path : String)
  | registry (path : String) (error : RegistryError)
  | multiple (errors : List LoadError)

/-- The message of an error of a single file, where it has one of its own. -/
def LoadError.message? : LoadError → Option String
  | io path cause => some ("IO error reading " ++ path ++ ": " ++ cause)
  | parse _ => none
  | build path error => some ("Schema error in " ++ path ++ ": " ++ error.message)
  | invalidFileName path => some ("Invalid filename: " ++ path)
  | registry path error => some ("Registry error in " ++ path ++ ": " ++ error.message)
  | multiple _ => none

namespace Tree

/-- The tree that a file's text describes, under the file's name if it gives none. -/
def ofFileText (path text : String) : Except LoadError Tree :=
  match Json.parse? text with
  | none => .error (.parse path)
  | some v =>
    match File.stem? path with
    | none => .error (.invalidFileName path)
    | some stem => (compile (some stem) v).mapError (.build path)

/-- The tree of a file. -/
def load (fs : FileSystem) (path : String) : Except LoadError Tree :=
  match fs.read path with
  | .error cause => .error (.io path cause)
  | .ok text => ofFileText path text

end Tree

namespace Registry

/-- Adds the tree of a file. -/
def loadFile (r : Registry) (fs : FileSystem) (path : String) : Except LoadError Registry :=
  match Tree.load fs path with
  | .error e => .error e
  | .ok t => (r.register t).mapError (.registry path)

/-- Adds the tree of each file that loads, and gives the errors of the others. -/
def loadFiles (fs : FileSystem) : Registry → List String → Registry × List LoadError
  | r, [] => (r, [])
  | r, path :: paths =>
    match r.loadFile fs path with
    | .ok r => loadFiles fs r paths
    | .error e =>
      let (r, errors) := loadFiles fs r paths
      (r, e :: errors)

/-- The files of a listing that hold trees, in the order of their paths. -/
def treeFiles (paths : List String) : List String :=
  (paths.mergeSort fun p q => File.comparePaths p q != .gt).filter fun p => File.extension? p == some "json"

/-- Adds the trees of a directory's files; the error lists all that went wrong. -/
def loadDir (r : Registry) (fs : FileSystem) (dir : String) : Registry × Except LoadError Unit :=
  match fs.list dir with
  | .error cause => (r, .error (.io dir cause))
  | .ok paths =>
    match loadFiles fs r (treeFiles paths) with
    | (r, []) => (r, .ok ())
    | (r, errors) => (r, .error (.multiple errors))

end Registry

end RecordSchema

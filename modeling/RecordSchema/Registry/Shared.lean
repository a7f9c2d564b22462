/-
Registries that are shared: a handle stands for a registry by the place where
it is kept, and a clone of a handle for the same place. So a tree that is
registered through one of them is there for all of them.

The calls that change a registry are data (`Call`); a history of calls names
the handle that each is made through.
-/
import RecordSchema.Registry.Load

namespace RecordSchema

/-- The registries that are kept, by their places. -/
structure Storage where
  cells : List Registry

/-- What is passed around for a registry: its place. -/
structure Handle where
  place : Nat
  deriving DecidableEq

/-- A clone is a handle on the same registry; the registry is not copied. -/
def Handle.clone (h : Handle) : Handle := ⟨h.place⟩

namespace Registry

/-- A call that may add trees. -/
inductive Call where
  | register (t : Tree)
  | loadDir (fs : FileSystem) (dir : String)

end Registry

namespace Storage

/-- Puts an empty registry at a place of its own. -/
def create (s : Storage) : Storage × Handle := (⟨s.cells ++ [.empty]⟩, ⟨s.cells.length⟩)

/-- The registry of a handle, as it is now. -/
def read (s : Storage) (h : Handle) : Registry := s.cells.getD h.place .empty

def write (s : Storage) (h : Handle) (r : Registry) : Storage := ⟨s.cells.set h.place r⟩

/-- Adds a tree to the registry of a handle. -/
def register (s : Storage) (h : Handle) (t : Tree) : Storage × Except RegistryError Unit :=
  match (s.read h).register t with
  | .ok r => (s.write h r, .ok ())
  | .error e => (s, .error e)

/-- Adds the trees of a directory's files to the registry of a handle. -/
def loadDir (s : Storage) (h : Handle) (fs : FileSystem) (dir : String) : Storage × Except LoadError Unit :=
  let (r, result) := (s.read h).loadDir fs dir
  (s.write h r, result)

/-- The storage that a call through a handle leaves behind. -/
def after (s : Storage) (h : Handle) : Registry.Call → Storage
  | .register t => (s.register h t).1
  | .loadDir fs dir => (s.loadDir h fs dir).1

/-- The storage that calls leave behind, one made after the other. -/
def afterAll (s : Storage) (history : List (Handle × Registry.Call)) : Storage :=
  history.foldl (fun s c => s.after c.1 c.2) s

end Storage

end RecordSchema

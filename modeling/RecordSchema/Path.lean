/-
Where a value stands inside another: the fields and list positions that lead
to it from the root.

Fields are joined by points and positions stand in brackets, so that
`text` reads `items[2].name`. A path is extended at its end (`push`), each
step leaving the path it extends as it was.
-/
import RecordSchema.Text.Numeral

namespace RecordSchema

/-- One step into a value. -/
inductive Segment where
  | field (name : String)
  | index (position : Nat)
  deriving DecidableEq

/-- The steps from the root to a value. -/
structure Path where
  segments : List Segment
  deriving DecidableEq

namespace Path

def root : Path := ⟨[]⟩

def ofField (name : String) : Path := ⟨[.field name]⟩

def push (p : Path) (s : Segment) : Path := ⟨p.segments ++ [s]⟩

def field (p : Path) (name : String) : Path := p.push (.field name)

def index (p : Path) (position : Nat) : Path := p.push (.index position)

/-- The steps of `p` and then those of `q`. -/
def append (p q : Path) : Path := ⟨p.segments ++ q.segments⟩

instance : Append Path := ⟨append⟩

def length (p : Path) : Nat := p.segments.length

def isRoot (p : Path) : Bool := p.segments.isEmpty

def last? (p : Path) : Option Segment := p.segments.getLast?

/-- A position in brackets. -/
def indexText (position : Nat) : String := "[" ++ String.ofList (Text.decimal position) ++ "]"

/-- Segments that follow another one: each field behind a point. -/
def tailText : List Segment → String
  | [] => ""
  | .field name :: rest => "." ++ name ++ tailText rest
  | .index position :: rest => indexText position ++ tailText rest

/-- The path in one line; that of the root is empty. -/
def text (p : Path) : String :=
  match p.segments with
  | .field name :: rest => name ++ tailText rest
  | segments => tailText segments

/-- The path as messages name it, with a word for the root. -/
def describe (p : Path) : String := if p.isRoot then "(root)" else p.text

/-! ## Laws -/

@[simp] theorem segments_push (p : Path) (s : Segment) : (p.push s).segments = p.segments ++ [s] := rfl

@[simp] theorem segments_append (p q : Path) : (p ++ q).segments = p.segments ++ q.segments := rfl

theorem push_append (p q : Path) (s : Segment) : p ++ q.push s = (p ++ q).push s := by
  show Path.mk _ = Path.mk _
  simp

theorem push_append_cons (p : Path) (s : Segment) (q : Path) : p.push s ++ q = p ++ ⟨s :: q.segments⟩ := by
  show Path.mk _ = Path.mk _
  simp

theorem append_field (p q : Path) (name : String) : (p ++ q).field name = p ++ q.field name :=
  (push_append p q _).symm

theorem append_index (p q : Path) (i : Nat) : (p ++ q).index i = p ++ q.index i := (push_append p q _).symm

theorem append_root (p : Path) : p ++ root = p := by
  show Path.mk _ = p
  simp [root]

theorem root_append (p : Path) : root ++ p = p := by
  show Path.mk _ = p
  simp [root]

end Path

end RecordSchema

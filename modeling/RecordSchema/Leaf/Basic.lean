/-
Leaves: nodes for single scalar values, of one kind each, with what a schema
may add to the kind. A string may have a pattern; most kinds may have either a
list of allowed values or a minimum and a maximum.

The setters refuse what does not go together. Each is a call that assigns in
place (`assignBounds`); those who have no use for a leaf whose setter is
refused take the changed one, or the refusal (`setBounds`).
-/
import RecordSchema.Annotations
import RecordSchema.Json.Printer
import RecordSchema.Path
import RecordSchema.Kind.Pattern
import RecordSchema.Regex.Pattern
import RecordSchema.Scalar

namespace RecordSchema

structure Leaf where
  annotations : Annotations
  kind : Kind
  pattern : Option Pattern
  options : Option (List Scalar)
  minimum : Option Scalar
  maximum : Option Scalar

namespace Leaf

/-- A leaf of a kind with nothing added. -/
def bare (kind : Kind) : Leaf := ⟨.plain, kind, none, none, none, none⟩

/-- Has neither constraints nor annotations. -/
def isPlain (l : Leaf) : Bool :=
  l.annotations.isPlain && l.pattern.isNone && l.options.isNone && l.minimum.isNone && l.maximum.isNone

end Leaf

/-! ## Values as scalars -/

namespace Json

/-- The text of a string, a number or a bool. -/
def scalarText? : Json → Option String
  | .string s => some s
  | .number n => some n.text
  | .bool b => some (boolText b)
  | _ => none

end Json

namespace Kind

/-- An integer, given as a JSON integer or as a literal of the kind's form. -/
def integer? (kind : Kind) : Json → Option Int
  | .number (.int n) => some n
  | .string s => if kind.fits s then Number.intLiteral? s else none
  | _ => none

/-- The decimal a text writes, if it has the form of the kind. -/
def decimalOfText? (kind : Kind) (s : String) : Option Decimal :=
  if kind.fits s then Decimal.ofText? s else none

/-- The floating-point number of a JSON number or of a decimal text. -/
def floatOf? : Json → Option Extended
  | .number n => some n.toExtended
  | .string s => if Kind.decimal.fits s then Extended.ofText? s else none
  | _ => none

/-- The scalar that a value stands for as an option or a bound of a numeric kind. -/
def numberScalar? (kind : Kind) (v : Json) : Option Scalar :=
  match kind with
  | .int | .timestamp | .uint =>
    match kind.integer? v with
    | some n => if kind.isUnsigned && n < 0 then none else some (.int n)
    | none => none
  | .float => (floatOf? v).map .float
  | .decimal | .price =>
    match v with
    | .number n => (kind.decimalOfText? n.text).map .decimal
    | .string s => (kind.decimalOfText? s).map .decimal
    | _ => none
  | _ => none

/-- A text of the kind's form. -/
def textScalar? (kind : Kind) : Json → Option Scalar
  | .string s => if kind.fits s then some (.text s) else none
  | _ => none

/-- The scalar that a value stands for as an option. -/
def optionScalar? (kind : Kind) (v : Json) : Option Scalar :=
  match kind with
  | .base64 | .date | .datetime | .ip | .md5 | .time | .uuid => kind.textScalar? v
  | .string => v.scalarText?.map .text
  | _ => kind.numberScalar? v

/-- The scalar that a value stands for as a bound; a bound of a string is a count of characters. -/
def boundScalar? (kind : Kind) (v : Json) : Option Scalar :=
  match kind with
  | .date | .datetime | .ip | .time => kind.textScalar? v
  | .string => ((Kind.int.integer? v).filter (0 ≤ ·)).map .int
  | _ => kind.numberScalar? v

end Kind

/-! ## Setters -/

namespace Leaf

/-- Assigns the pattern of a string; a leaf of another kind ignores it. -/
def assignPattern (text : String) : Change Leaf Unit := do
  let l ← get
  if l.kind ≠ .string then return
  if l.options.isSome then throw (.conflictingDirectives "__options__" "__regex__")
  match Pattern.ofText? text with
  | some p => modify fun l => { l with pattern := some p }
  | none => throw (.invalidDirective "__regex__" "<regex error>")

/-- The leaf with a pattern, or why it is refused. -/
def setPattern (l : Leaf) (text : String) : Except BuildError Leaf := (assignPattern text).changed l

/-- The scalars of options from the `i`-th on, after those in `done`; a repeated one is left out. -/
def optionScalars (kind : Kind) : Nat → List Scalar → List Json → Except BuildError (List Scalar)
  | _, done, [] => .ok done
  | i, done, v :: vs =>
    match kind.optionScalar? v with
    | none =>
      .error (.invalidDirective ("__options__" ++ Path.indexText i)
        (v.text ++ " is not a valid " ++ kind.name))
    | some s => optionScalars kind (i + 1) (if done.any (·.same s) then done else done ++ [s]) vs

/-- The directive that allowed values can not stand beside, if the leaf has it. -/
def optionsConflict? (l : Leaf) : Option String :=
  if l.pattern.isSome then some "__regex__"
  else if l.minimum.isSome || l.maximum.isSome then some "__minimum__"
  else none

/-- Assigns the allowed values, a list of at least one. -/
def assignOptions (options : Json) : Change Leaf Unit := do
  let l ← get
  if !l.kind.supportsOptions then throw (.unsupportedDirective "__options__" l.kind.name)
  match l.optionsConflict? with
  | some other => throw (.conflictingDirectives "__options__" other)
  | none =>
    match options with
    | .array (v :: vs) =>
      let scalars ← ofExcept (optionScalars l.kind 0 [] (v :: vs))
      modify fun l => { l with options := some scalars }
    | _ => throw (.invalidDirective "__options__" "expected a non-empty list")

/-- The leaf with allowed values, or why they are refused. -/
def setOptions (l : Leaf) (options : Json) : Except BuildError Leaf := (assignOptions options).changed l

/-- The scalar of a bound that may be given; the old one stays if it is not. -/
def boundOr (kind : Kind) (directive : String) (given : Option Json) (old : Option Scalar) :
    Except BuildError (Option Scalar) :=
  match given with
  | none => .ok old
  | some v =>
    match kind.boundScalar? v with
    | some s => .ok (some s)
    | none => .error (.invalidDirective directive (v.text ++ " is not a valid bound for " ++ kind.name))

/-- Whether there are both bounds, with the minimum above the maximum. -/
def inverted (kind : Kind) : Option Scalar → Option Scalar → Bool
  | some lo, some hi => lo.compare? kind hi == some .gt
  | _, _ => false

/-- Assigns the minimum, the maximum or both; one that is not given stays as it is. -/
def assignBounds (minimum maximum : Option Json) : Change Leaf Unit := do
  let l ← get
  if !l.kind.supportsBounds then
    throw (.unsupportedDirective (if minimum.isSome then "__minimum__" else "__maximum__") l.kind.name)
  if l.options.isSome then throw (.conflictingDirectives "__options__" "__minimum__")
  let lo ← ofExcept (boundOr l.kind "__minimum__" minimum l.minimum)
  let hi ← ofExcept (boundOr l.kind "__maximum__" maximum l.maximum)
  if inverted l.kind lo hi then throw (.invalidDirective "__maximum__" "must not be less than __minimum__")
  modify fun l => { l with minimum := lo }
  modify fun l => { l with maximum := hi }

/-- The leaf with bounds, or why they are refused. -/
def setBounds (l : Leaf) (minimum maximum : Option Json) : Except BuildError Leaf :=
  (assignBounds minimum maximum).changed l

/-! ## Fragments -/

/-- A bare leaf by the name of its kind. -/
def ofKindName (name : String) : Except BuildError Leaf :=
  match Kind.ofName? name with
  | some k => .ok (bare k)
  | none => .error (.unknownKind name)

/-- The kind that a fragment names. -/
def kindOf (m : Members Json) : Except BuildError Kind :=
  match Members.get? m "__type__" with
  | some (.string name) =>
    match Kind.ofName? name with
    | some k => .ok k
    | none => .error (.unknownKind name)
  | some v => .error (.invalidDirective "__type__" ("expected a type name, got " ++ v.text))
  | none => .error (.missingDirective "__type__")

/-- The value of a directive, null counting as absent. -/
def directive? (m : Members Json) (key : String) : Option Json :=
  (Members.get? m key).filter fun v => !v.isNull

/-- The directive beside which a fragment can not give allowed values, if it is there. -/
def besideOptions? (m : Members Json) : Option String :=
  ["__regex__", "__minimum__", "__maximum__"].find? fun key => (directive? m key).isSome

/-- Refuses allowed values beside a pattern or a bound. -/
def checkConflict (m : Members Json) : Except BuildError Unit :=
  if (directive? m "__options__").isSome then
    match besideOptions? m with
    | some other => .error (.conflictingDirectives "__options__" other)
    | none => .ok ()
  else .ok ()

def applyPattern (l : Leaf) : Option Json → Except BuildError Leaf
  | none => .ok l
  | some (.string text) => l.setPattern text
  | some v => .error (.invalidDirective "__regex__" ("expected a string, got " ++ v.text))

def applyOptions (l : Leaf) : Option Json → Except BuildError Leaf
  | none => .ok l
  | some v => l.setOptions v

def applyBounds (l : Leaf) (minimum maximum : Option Json) : Except BuildError Leaf :=
  if minimum.isSome || maximum.isSome then l.setBounds minimum maximum else .ok l

/-- The keys that a leaf's fragment may have besides annotations. -/
def ownKeys : List String := ["__type__", "__regex__", "__options__", "__minimum__", "__maximum__"]

/-- Refuses a member that is none of a leaf's. -/
def checkKeys (m : Members Json) : Except BuildError Unit :=
  match (Annotations.strip m).find? fun e => !ownKeys.contains e.1 with
  | none => .ok ()
  | some (key, _) => .error (if Name.isDirective key then .unexpectedDirective key else .unexpectedKey key)

/-- A leaf from the members of its fragment. -/
def ofMembers (m : Members Json) : Except BuildError Leaf := do
  let kind ← kindOf m
  checkConflict m
  let l ← (bare kind).applyPattern (directive? m "__regex__")
  let l ← l.applyOptions (directive? m "__options__")
  let l ← l.applyBounds (directive? m "__minimum__") (directive? m "__maximum__")
  checkKeys m
  return { l with annotations := .ofMembers m }

/-- A leaf from its fragment. -/
def ofFragment : Json → Except BuildError Leaf
  | .object m => ofMembers m
  | v => .error (.unrecognizedFragment v.text)

/-- The members that write the constraints of a leaf. -/
def constraintMembers (l : Leaf) : List (String × Json) :=
  (l.pattern.map fun p => ("__regex__", Json.string p.text)).toList
    ++ (l.options.map fun os => ("__options__", Json.array (os.map Scalar.toJson))).toList
    ++ (l.minimum.map fun s => ("__minimum__", s.toJson)).toList
    ++ (l.maximum.map fun s => ("__maximum__", s.toJson)).toList

/-- The members of a fragment that the leaf is compiled from. -/
def members (l : Leaf) : List (String × Json) :=
  l.annotations.members ++ ("__type__", .string l.kind.name) :: l.constraintMembers

def toFragment (l : Leaf) : Json := .object l.members

end Leaf

end RecordSchema

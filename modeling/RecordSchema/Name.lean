/-
Names in schemas: of fields and trees, of directives, and of special values.

A directive configures the node whose fragment it stands in; any other key
between double underscores is metadata, a special value, kept for others to
read. Both are told apart from field names, which start with at most one
underscore (`Name.isField_of_isDirective`).
-/
namespace RecordSchema

namespace Name

/-- The keys that configure a node. -/
def directives : List String :=
  ["__array__", "__hash__", "__maximum__", "__minimum__", "__name__", "__optional__", "__options__",
   "__regex__", "__require__", "__type__"]

def isDirective (key : String) : Bool := directives.contains key

/-- An identifier: a letter, perhaps behind one underscore, then letters, digits and underscores, all ASCII. -/
def isFieldChars : List Char → Bool
  | [] => false
  | c :: cs =>
    if c = '_' then
      match cs with
      | [] => false
      | d :: ds => d.isAlpha && ds.all fun e => e.isAlphanum || e = '_'
    else c.isAlpha && cs.all fun e => e.isAlphanum || e = '_'

/-- Whether a name can be that of a field or a tree. -/
def isField (name : String) : Bool := isFieldChars name.toList

/-- Lower case letters, digits, underscores and hyphens, all ASCII. -/
def isSpecialChar (c : Char) : Bool := c.isLower || c.isDigit || c = '_' || c = '-'

/-- Whether a text can stand between the underscores of a special key. -/
def isSpecial (name : String) : Bool := !name.toList.isEmpty && name.toList.all isSpecialChar

/-- A name between double underscores. -/
def wrap (name : String) : String := "__" ++ name ++ "__"

/-- The name between double underscores, where a key has the form of a special key. -/
def unwrap? (key : String) : Option String :=
  match key.toList with
  | '_' :: '_' :: cs =>
    let inner := cs.take (cs.length - 2)
    if cs.drop (cs.length - 2) = ['_', '_'] && !inner.isEmpty && inner.all isSpecialChar then
      some (String.ofList inner)
    else none
  | _ => none

/-- The name of the special value under a key, if the key is no directive. -/
def specialOf? (key : String) : Option String := if isDirective key then none else unwrap? key

/-- Whether a special value can be put under a name without standing for a directive. -/
def isFreeSpecial (name : String) : Bool := isSpecial name && !isDirective (wrap name)

end Name

end RecordSchema

/-
Properties by name, as in `\p{Greek}`, `\pL` or `\p{gc=Lu}`.

Case, blanks, hyphens and underscores in a name count for nothing, nor does
an `is` in front of it. A single letter names a general category or a group
of them; a name may be that of a property, of a category or of a script; and
before an equals sign or a colon it may say which of these the name behind
the sign belongs to.
-/
import RecordSchema.Regex.CharSet

namespace RecordSchema

namespace Regex

namespace PropertyName

/-- A name without what does not count in it. -/
def normalize (cs : List Char) : String :=
  let lower := cs.map Char.toLower
  let core := match lower with
    | 'i' :: 's' :: rest => rest
    | cs => cs
  let kept := core.filter fun c => c != ' ' && c != '_' && c != '-' && c.toNat < 0x80
  if kept = ['c'] && core.length < lower.length then "isc" else String.ofList kept

def ofCategories (cs : List Unicode.Category) : CharSet :=
  .ofList (cs.map fun c => .property (.category c))

/-- The groups of categories, under their names. -/
def groups : List (List String × List Unicode.Category) :=
  [(["lc", "casedletter"], [.uppercaseLetter, .lowercaseLetter, .titlecaseLetter]),
   (["l", "letter"], [.uppercaseLetter, .lowercaseLetter, .titlecaseLetter, .modifierLetter, .otherLetter]),
   (["m", "mark", "combiningmark"], [.nonspacingMark, .spacingMark, .enclosingMark]),
   (["n", "number"], [.decimalNumber, .letterNumber, .otherNumber]),
   (["p", "punctuation", "punct"],
    [.connectorPunctuation, .dashPunctuation, .openPunctuation, .closePunctuation, .initialPunctuation,
     .finalPunctuation, .otherPunctuation]),
   (["s", "symbol"], [.mathSymbol, .currencySymbol, .modifierSymbol, .otherSymbol]),
   (["z", "separator"], [.spaceSeparator, .lineSeparator, .paragraphSeparator])]

/-- The general category, or the group of them, of a normalized name. -/
def category? (name : String) : Option CharSet :=
  if name = "any" then some .all
  else if name = "ascii" then some .ascii
  else if name = "assigned" then some (.property .assigned)
  else if name = "cn" || name = "unassigned" then some (.compl (.property .assigned))
  else if name = "c" || name = "other" then
    some (.union (.compl (.property .assigned)) (ofCategories [.control, .format, .surrogate, .privateUse]))
  else match groups.find? fun g => g.1.contains name with
    | some (_, cs) => some (ofCategories cs)
    | none => (Unicode.Category.all.find? fun c => c.names.contains name).map fun c => .property (.category c)

/-- The script of a normalized name. -/
def script? (name : String) : Option CharSet :=
  (Unicode.Script.all.find? fun s => s.names.contains name).map fun s => .property (.script s)

/-- The property that is called by a normalized name and is either had or lacked. -/
def binary? (name : String) : Option CharSet :=
  if name = "alphabetic" || name = "alpha" then some (.property .alphabetic)
  else if name = "lowercase" || name = "lower" then some (.property .lowercase)
  else if name = "uppercase" || name = "upper" then some (.property .uppercase)
  else if name = "whitespace" || name = "wspace" || name = "space" then some (.property .blank)
  else none

/-- The characters that a name alone stands for. -/
def named? (cs : List Char) : Option CharSet :=
  let name := normalize cs
  match binary? name with
  | some s => some s
  | none =>
    match category? name with
    | some s => some s
    | none => script? name

/-- The characters that the name `value` of a kind of property stands for. -/
def valued? (property value : List Char) : Option CharSet :=
  let property := normalize property
  if property = "gc" || property = "generalcategory" then category? (normalize value)
  else if property = "sc" || property = "script" then script? (normalize value)
  else none

/-- The text before a mark of two or one characters and the text after it, if the mark is there. -/
def splitAt? (mark : List Char) : List Char → Option (List Char × List Char)
  | [] => none
  | c :: cs =>
    if mark.isPrefixOf (c :: cs) then some ([], (c :: cs).drop mark.length)
    else (splitAt? mark cs).map fun (a, b) => (c :: a, b)

/-- What stands between the braces of a property: its characters, and whether they are excluded. -/
def braced? (cs : List Char) : Option (CharSet × Bool) :=
  match splitAt? ['!', '='] cs with
  | some (p, v) => (valued? p v).map (·, true)
  | none =>
    match splitAt? [':'] cs with
    | some (p, v) => (valued? p v).map (·, false)
    | none =>
      match splitAt? ['='] cs with
      | some (p, v) => (valued? p v).map (·, false)
      | none => (named? cs).map (·, false)

end PropertyName

end Regex

end RecordSchema

/-
Reading a pattern's text.

The characters are taken one item at a time: a literal, an escape, a class,
a group's opening or closing, a bar, a repetition of the item before. `State`
holds what has been read of the innermost open group and, in `Group`, what
waits outside it. There is no look-around and no reference to what a group
matched; both are refused, as is everything that does not belong to the
language of patterns (`read?` gives `none`).

The characters left are passed along, and each round of a loop takes at least
one of them, so that their count bounds the loops.
-/
import RecordSchema.Regex.PropertyName
import RecordSchema.Regex.Size
import RecordSchema.Text.Numeral

namespace RecordSchema

namespace Regex

namespace Reader

/-- What the letters of `(?…)` switch on and off. -/
structure Flags where
  caseless : Bool
  multiline : Bool
  dotAll : Bool
  crlf : Bool
  unicode : Bool
  spaced : Bool

/-- The flags that a pattern starts with. -/
def Flags.initial : Flags := ⟨false, false, false, false, true, false⟩

/-! ## Blanks -/

/-- Leaves out blanks, and comments from a number sign to the line's end; `fuel` bounds the comments. -/
def skipFree : Nat → List Char → List Char
  | 0, cs => cs
  | fuel + 1, cs =>
    match cs.dropWhile Text.isBlank with
    | '#' :: rest => skipFree fuel ((rest.dropWhile (· != '\n')).drop 1)
    | rest => rest

/-- Leaves out blanks and comments where the flags make them free. -/
def skip (f : Flags) (cs : List Char) : List Char := if f.spaced then skipFree (cs.length + 1) cs else cs

/-! ## Numbers and escapes -/

/-- The decimal digits at the front, with free blanks between them, and what follows. -/
def spacedDigits (f : Flags) : Nat → List Char → List Char × List Char
  | 0, cs => ([], cs)
  | fuel + 1, cs =>
    match cs with
    | [] => ([], [])
    | c :: rest =>
      if c.isDigit then
        let (ds, rest) := spacedDigits f fuel (skip f rest)
        (c :: ds, rest)
      else ([], c :: rest)

/-- A number of repetitions, blanks around it aside; it has at most 32 bits. -/
def number? (f : Flags) (cs : List Char) : Option (Nat × List Char) :=
  let cs := cs.dropWhile Text.isBlank
  let (ds, rest) := spacedDigits f (cs.length + 1) cs
  match Text.numeral? 10 ds with
  | some n => if n < 2 ^ 32 then some (n, skip f (rest.dropWhile Text.isBlank)) else none
  | none => none

/-- The character of a code in hexadecimal, if there is one. -/
def hexCode? (ds : List Char) : Option Char :=
  match Text.numeral? 16 ds with
  | some n => if n.isValidChar then some (Char.ofNat n) else none
  | none => none

/-- A given number of hexadecimal digits, with free blanks between and after them. -/
def hexDigits? (f : Flags) : Nat → List Char → Option (List Char × List Char)
  | 0, cs => some ([], cs)
  | n + 1, c :: cs =>
    if (Text.hexDigit? c).isSome then (hexDigits? f n (skip f cs)).map fun (ds, cs) => (c :: ds, cs) else none
  | _ + 1, [] => none

/-- The characters up to a closing brace, with free blanks left out, and what follows the brace. -/
def untilBrace? (f : Flags) : Nat → List Char → Option (List Char × List Char)
  | 0, _ => none
  | _ + 1, [] => none
  | fuel + 1, c :: cs =>
    if c = '\x7d' then some ([], cs) else (untilBrace? f fuel (skip f cs)).map fun (ds, cs) => (c :: ds, cs)

/-- One item of a pattern or a class that is more than a bracket. -/
inductive Atom where
  /-- A character; `byte` says that two hexadecimal digits were its spelling. -/
  | char (c : Char) (byte : Bool)
  | dot
  | look (a : Assertion)
  | lineStart
  | lineEnd
  | set (s : CharSet)
  /-- A set named by a property, closed under case where case does not count. -/
  | property (s : CharSet) (negated : Bool)

/-- A character by its code, after the letter of the escape: digits in braces or a fixed count of them. -/
def codeEscape? (f : Flags) (width : Nat) (cs : List Char) : Option (Atom × List Char) :=
  match skip f cs with
  | '\x7b' :: cs =>
    match untilBrace? f (cs.length + 1) (skip f cs) with
    | some (ds, cs) => (hexCode? ds).map fun c => (.char c false, skip f cs)
    | none => none
  | cs =>
    match hexDigits? f width cs with
    | some (ds, cs) => (hexCode? ds).map fun c => (.char c (width == 2), cs)
    | none => none

/-- A property, after the letter of the escape. -/
def propertyEscape? (f : Flags) (negated : Bool) (cs : List Char) : Option (Atom × List Char) :=
  if !f.unicode then none else
  match skip f cs with
  | '\x7b' :: cs =>
    match untilBrace? f (cs.length + 1) (skip f cs) with
    | some (name, cs) => (PropertyName.braced? name).map fun (s, n) => (.property s (negated != n), cs)
    | none => none
  | '\\' :: _ => none
  | c :: cs => (PropertyName.named? [c]).map fun s => (.property s negated, skip f cs)
  | [] => none

/-- What is not in a set, among all characters or, without the flag for them, among bytes. -/
def negate (f : Flags) (s : CharSet) : CharSet :=
  if f.unicode then .compl s else .diff (.range 0 0xFF) s

/-- Whether a set can stand where text must stay text: any set of characters, or ASCII bytes. -/
def admissible (f : Flags) (s : CharSet) : Bool :=
  f.unicode || (List.range 128).all fun i => !s.contains (i + 128)

/-- The class of a letter escape: digits, blanks or word characters. -/
def letterClass (f : Flags) (c : Char) : CharSet :=
  if c = 'd' then if f.unicode then .digit else .asciiDigit
  else if c = 's' then
    if f.unicode then .property .blank else .ofChars ['\t', '\n', '\x0b', '\x0c', '\r', ' ']
  else if f.unicode then .property .word
  else .ofList [.between 'a' 'z', .between 'A' 'Z', .asciiDigit, .single '_']

/-- The edge of a word that a name in braces picks. -/
def edge? (name : List Char) : Option Edge :=
  let name := String.ofList name
  if name = "start" then some .start
  else if name = "end" then some .stop
  else if name = "start-half" then some .startHalf
  else if name = "end-half" then some .stopHalf
  else none

def isEdgeChar (c : Char) : Bool := c.isAlpha || c = '-'

/-- The letters and hyphens at the front, with free blanks between them, and what follows. -/
def edgeName (f : Flags) : Nat → List Char → List Char × List Char
  | 0, cs => ([], cs)
  | fuel + 1, cs =>
    match cs with
    | [] => ([], [])
    | c :: rest =>
      if isEdgeChar c then
        let (ds, rest) := edgeName f fuel (skip f rest)
        (c :: ds, rest)
      else ([], c :: rest)

/-- The edge of a word, after the letter `b`; braces that hold no name are left for a repetition. -/
def edgeEscape? (f : Flags) (cs : List Char) : Option (Atom × List Char) :=
  let plain := some (Atom.look (.word .either (!f.unicode)), cs)
  match cs with
  | '\x7b' :: inner =>
    match skip f inner with
    | [] => none
    | c :: rest =>
      if isEdgeChar c then
        match edgeName f (inner.length + 1) (c :: rest) with
        | (name, '\x7d' :: after) => (edge? name).map fun e => (.look (.word e (!f.unicode)), after)
        | _ => none
      else plain
  | _ => plain

/-- An escape, after its backslash. -/
def escape? (f : Flags) : List Char → Option (Atom × List Char)
  | [] => none
  | c :: cs =>
    if c.isDigit then none
    else if c = 'x' then codeEscape? f 2 cs
    else if c = 'u' then codeEscape? f 4 cs
    else if c = 'U' then codeEscape? f 8 cs
    else if c = 'p' then propertyEscape? f false cs
    else if c = 'P' then propertyEscape? f true cs
    else if c = 'd' || c = 's' || c = 'w' then some (.set (letterClass f c), cs)
    else if c = 'D' || c = 'S' || c = 'W' then some (.set (negate f (letterClass f c.toLower)), cs)
    else if c = 'a' then some (.char '\x07' false, cs)
    else if c = 'f' then some (.char '\x0c' false, cs)
    else if c = 't' then some (.char '\t' false, cs)
    else if c = 'n' then some (.char '\n' false, cs)
    else if c = 'r' then some (.char '\r' false, cs)
    else if c = 'v' then some (.char '\x0b' false, cs)
    else if c = 'A' then some (.look .textStart, cs)
    else if c = 'z' then some (.look .textEnd, cs)
    else if c = 'b' then edgeEscape? f cs
    else if c = 'B' then some (.look (.word .neither (!f.unicode)), cs)
    else if c = '<' then some (.look (.word .start (!f.unicode)), cs)
    else if c = '>' then some (.look (.word .stop (!f.unicode)), cs)
    else if c.isAlpha || 0x80 ≤ c.toNat then none
    else some (.char c false, cs)

/-! ## Sets -/

/-- Closes a set under the change of case, where case does not count. -/
def closeCase (f : Flags) (s : CharSet) : CharSet :=
  if f.caseless then if f.unicode then .caseless s else .asciiCaseless s else s

def negateIf (f : Flags) (negated : Bool) (s : CharSet) : CharSet := if negated then negate f s else s

/-- The set that an atom stands for on its own; assertions stand for none. -/
def Atom.toSet? (f : Flags) : Atom → Option CharSet
  | .char c byte => if byte && !f.unicode && 0x80 ≤ c.toNat then none else some (closeCase f (.single c))
  | .dot =>
    if !f.unicode then none
    else if f.dotAll then some .all
    else if f.crlf then some (.compl (.ofChars ['\r', '\n']))
    else some (.compl (.single '\n'))
  | .set s => if admissible f s then some s else none
  | .property s negated => some (negateIf f negated (closeCase f s))
  | _ => none

/-- The expression that an atom stands for. -/
def Atom.toRegex? (f : Flags) : Atom → Option Regex
  | .look a => some (.look a)
  | .lineStart => some (.look (if f.multiline then .lineStart f.crlf else .textStart))
  | .lineEnd => some (.look (if f.multiline then .lineEnd f.crlf else .textEnd))
  | a => (a.toSet? f).map .one

/-- The classes that are named between colons. -/
def colonClass? (name : String) : Option CharSet :=
  let lower := CharSet.between 'a' 'z'
  let upper := CharSet.between 'A' 'Z'
  let digit := CharSet.asciiDigit
  if name = "alnum" then some (.ofList [digit, upper, lower])
  else if name = "alpha" then some (.union upper lower)
  else if name = "ascii" then some .ascii
  else if name = "blank" then some (.ofChars ['\t', ' '])
  else if name = "cntrl" then some (.union (.range 0 0x1F) (.single '\x7f'))
  else if name = "digit" then some digit
  else if name = "graph" then some (.between '!' '~')
  else if name = "lower" then some lower
  else if name = "print" then some (.between ' ' '~')
  else if name = "punct" then
    some (.ofList [.between '!' '/', .between ':' '@', .range 0x5B 0x60, .range 0x7B 0x7E])
  else if name = "space" then some (.ofChars ['\t', '\n', '\x0b', '\x0c', '\r', ' '])
  else if name = "upper" then some upper
  else if name = "word" then some (.ofList [digit, upper, lower, .single '_'])
  else if name = "xdigit" then some .hexDigit
  else none

/-! ## Classes in brackets -/

/-- A set, and how deep the brackets and operations that describe it nest. -/
structure Described where
  set : CharSet
  depth : Nat

/-- The operations between the sets of a class. -/
inductive SetOp where
  | inter
  | diff
  | symmDiff

def SetOp.apply : SetOp → CharSet → CharSet → CharSet
  | .inter => .inter
  | .diff => .diff
  | .symmDiff => .symmDiff

/-- What waits outside the items that are being read. -/
inductive Waiting where
  /-- A bracket that is open, with the items before it in the class around it. -/
  | bracket (negated : Bool) (items : List Described)
  /-- The left side of an operation. -/
  | left (op : SetOp) (lhs : Described)

/-- The union of the items of a class. -/
def unionOf (items : List Described) : Described :=
  match items with
  | [] => ⟨.none, 0⟩
  | [d] => d
  | d :: ds => ⟨.ofList ((d :: ds).map (·.set)), 1 + (ds.foldl (fun n e => max n e.depth) d.depth)⟩

/-- Applies an operation that waits for its right side; case is made free on both sides first. -/
def applyLeft (f : Flags) (waiting : List Waiting) (rhs : Described) : Described × List Waiting :=
  match waiting with
  | .left op lhs :: rest =>
    (⟨op.apply (closeCase f lhs.set) (closeCase f rhs.set), 1 + max lhs.depth rhs.depth⟩, rest)
  | rest => (rhs, rest)

/-- The hyphens at the front, with free blanks between them, each as an item, and what follows. -/
def leadingHyphens (f : Flags) : Nat → List Char → List Described × List Char
  | 0, cs => ([], cs)
  | fuel + 1, cs =>
    match cs with
    | '-' :: rest =>
      let (items, rest) := leadingHyphens f fuel (skip f rest)
      (⟨.single '-', 0⟩ :: items, rest)
    | rest => ([], rest)

/-- The beginning of a class, after its bracket: whether it is negated, and the hyphens or the closing
bracket that stand for themselves there. -/
def openClass? (f : Flags) (cs : List Char) : Option (Bool × List Described × List Char) :=
  let cs := skip f cs
  let (negated, cs) := match cs with
    | '^' :: r => (true, skip f r)
    | r => (false, r)
  match leadingHyphens f (cs.length + 1) cs with
  | ([], ']' :: r) => some (negated, [⟨.single ']', 0⟩], skip f r)
  | (items, cs) => some (negated, items, cs)

/-- A class named between colons, after its bracket; `none` leaves the bracket to open a class. -/
def colonItem? (f : Flags) (cs : List Char) : Option (CharSet × List Char) :=
  match cs with
  | ':' :: rest =>
    let (negated, rest) := match rest with
      | '^' :: r => (true, r)
      | r => (false, r)
    match rest.dropWhile (· != ':') with
    | ':' :: ']' :: after =>
      (colonClass? (String.ofList (rest.takeWhile (· != ':')))).map fun s =>
        (negateIf f negated (closeCase f s), after)
    | _ => none
  | _ => none

/-- A character or an escape in a class. -/
def classAtom? (f : Flags) : List Char → Option (Atom × List Char)
  | [] => none
  | '\\' :: cs => escape? f cs
  | c :: cs => some (.char c false, cs)

/-- The character of an atom that ends a range. -/
def Atom.char? (f : Flags) : Atom → Option Char
  | .char c byte => if f.unicode || c.toNat < 0x80 || byte then some c else none
  | _ => none

/-- The set of an atom that stands alone in a class; case is made free for the class as a whole. -/
def Atom.classSet? (f : Flags) : Atom → Option CharSet
  | .char c byte => ((Atom.char c byte).char? f).map .single
  | .set s => some s
  | .property s negated => some (negateIf f negated (closeCase f s))
  | _ => none

/-- An atom of a class, or the range that a hyphen makes of two. -/
def range? (f : Flags) (cs : List Char) : Option (CharSet × List Char) :=
  match classAtom? f cs with
  | none => none
  | some (first, cs) =>
    match skip f cs with
    | [] => none
    | '-' :: rest =>
      match skip f rest with
      | ']' :: _ | '-' :: _ => (first.classSet? f).map (·, '-' :: rest)
      | rest =>
        match classAtom? f rest with
        | none => none
        | some (last, cs) =>
          match first.char? f, last.char? f with
          | some lo, some hi => if lo ≤ hi then some (.between lo hi, cs) else none
          | _, _ => none
    | cs => (first.classSet? f).map (·, cs)

/-- The rest of a class: the items read in reverse, and what waits outside them. -/
def classRest? (f : Flags) : Nat → List Described → List Waiting → List Char → Option (Described × List Char)
  | 0, _, _, _ => none
  | fuel + 1, items, waiting, cs =>
    let operate (op : SetOp) (rest : List Char) :=
      let (lhs, waiting) := applyLeft f waiting (unionOf items.reverse)
      classRest? f fuel [] (.left op lhs :: waiting) rest
    match skip f cs with
    | [] => none
    | '[' :: rest =>
      match colonItem? f rest with
      | some (s, rest) => classRest? f fuel (⟨s, 0⟩ :: items) waiting rest
      | none =>
        match openClass? f rest with
        | some (negated, inner, rest) => classRest? f fuel inner (.bracket negated items :: waiting) rest
        | none => none
    | ']' :: rest =>
      match applyLeft f waiting (unionOf items.reverse) with
      | (d, .bracket negated outer :: waiting) =>
        let closed : Described := ⟨negateIf f negated (closeCase f d.set), d.depth + 1⟩
        if !admissible f closed.set then none
        else if waiting.isEmpty then some (closed, rest)
        else classRest? f fuel (closed :: outer) waiting rest
      | _ => none
    | '&' :: '&' :: rest => operate .inter rest
    | '-' :: '-' :: rest => operate .diff rest
    | '~' :: '~' :: rest => operate .symmDiff rest
    | rest =>
      match range? f rest with
      | some (s, rest) => classRest? f fuel (⟨s, 0⟩ :: items) waiting rest
      | none => none

/-- A class, after its opening bracket. -/
def class? (f : Flags) (cs : List Char) : Option (Described × List Char) :=
  match openClass? f cs with
  | some (negated, items, rest) => classRest? f (rest.length + 1) items [.bracket negated []] rest
  | none => none

/-! ## Sequences and groups -/

/-- An expression, and how deep groups, repetitions, sequences and classes nest in it. -/
structure Built where
  regex : Regex
  depth : Nat

/-- One thing in a sequence; a change of flags matches nothing and can not be repeated. -/
inductive Piece where
  | flags
  | built (b : Built)

def Piece.toBuilt : Piece → Built
  | .flags => ⟨.empty, 0⟩
  | .built b => b

/-- Joins parts, as deep as the deepest of them and one more where there are several. -/
def join (combine : List Regex → Regex) (parts : List Built) : Built :=
  match parts with
  | [] => ⟨.empty, 0⟩
  | [b] => b
  | b :: bs => ⟨combine ((b :: bs).map (·.regex)), 1 + (bs.foldl (fun n e => max n e.depth) b.depth)⟩

/-- What waits outside an open group: the flags to come back to, the branches and the pieces before it. -/
structure Group where
  flags : Flags
  branches : List Built
  pieces : List Piece

/-- What has been read of the innermost group, latest first, and the groups around it. -/
structure State where
  flags : Flags
  branches : List Built
  pieces : List Piece
  groups : List Group
  names : List String

def State.push (st : State) (b : Built) : State := { st with pieces := .built b :: st.pieces }

/-- The pieces since the last bar, in sequence. -/
def State.sequence (st : State) : Built := join ofSeq (st.pieces.reverse.map Piece.toBuilt)

/-- All branches of the innermost group. -/
def State.body (st : State) : Built := join ofAlt (st.sequence :: st.branches).reverse

/-- Starts the next branch. -/
def State.bar (st : State) : State := { st with branches := st.sequence :: st.branches, pieces := [] }

def State.openGroup (st : State) (flags : Flags) : State :=
  { st with flags, branches := [], pieces := [], groups := ⟨st.flags, st.branches, st.pieces⟩ :: st.groups }

/-- Ends the innermost group, which the flags set in it do not outlive. -/
def State.closeGroup? (st : State) : Option State :=
  match st.groups with
  | [] => none
  | g :: groups =>
    let b := st.body
    some { st with
      flags := g.flags, branches := g.branches, groups
      pieces := .built ⟨b.regex, b.depth + 1⟩ :: g.pieces }

/-- Repeats the piece before, if there is one that can be. -/
def State.repeat? (st : State) (count : Count) : Option State :=
  match st.pieces with
  | .built b :: rest => some { st with pieces := .built ⟨.repeat b.regex count, b.depth + 1⟩ :: rest }
  | _ => none

/-- A count with an upper bound, if the lower one does not exceed it. -/
def countBetween? (least most : Nat) : Option Count :=
  if h : least ≤ most then some ⟨least, some most, by simp; omega⟩ else none

/-- A count in braces, after the opening one. -/
def count? (f : Flags) (cs : List Char) : Option (Count × List Char) :=
  match number? f (skip f cs) with
  | none => none
  | some (least, rest) =>
    match rest with
    | ',' :: rest =>
      match skip f rest with
      | '\x7d' :: rest => some (.atLeast least, rest)
      | rest =>
        match number? f rest with
        | some (most, '\x7d' :: rest) => (countBetween? least most).map (·, rest)
        | _ => none
    | '\x7d' :: rest => some (.exactly least, rest)
    | _ => none

/-- The mark after a repetition that asks for few rather than many, which changes no verdict. -/
def skipLazy : List Char → List Char
  | '?' :: cs => cs
  | cs => cs

/-- Sets the flag of a letter; `none` for a letter that is no flag. -/
def Flags.set? (f : Flags) (c : Char) (on : Bool) : Option Flags :=
  if c = 'i' then some { f with caseless := on }
  else if c = 'm' then some { f with multiline := on }
  else if c = 's' then some { f with dotAll := on }
  else if c = 'R' then some { f with crlf := on }
  else if c = 'u' then some { f with unicode := on }
  else if c = 'x' then some { f with spaced := on }
  else if c = 'U' then some f
  else none

/-- The flags of `(?…)` up to the colon or the closing bracket, which comes back with them. No letter
may repeat, and a minus sign switches off what follows it, which must be something. -/
def flags? (f : Flags) (seen : List Char) : List Char → Option (Flags × Char × List Char)
  | [] => none
  | c :: cs =>
    if c = ':' || c = ')' then if seen.head? = some '-' then none else some (f, c, cs)
    else if seen.contains c then none
    else if c = '-' then flags? f (c :: seen) cs
    else match f.set? c (!seen.contains '-') with
      | some f => flags? f (c :: seen) cs
      | none => none

/-- Whether a character may stand in a group's name, or be its first. -/
def isNameChar (first : Bool) (c : Char) : Bool :=
  let n := c.toNat
  if first then c = '_' || Unicode.isAlphabetic n
  else c = '_' || c = '.' || c = '[' || c = ']' || Unicode.isAlphabetic n || Unicode.isNumber n

/-- A group's name and what follows its closing angle. -/
def groupName? (cs : List Char) : Option (String × List Char) :=
  match cs.takeWhile (· != '>'), cs.dropWhile (· != '>') with
  | c :: name, _ :: rest =>
    if isNameChar true c && name.all (isNameChar false) then some (String.ofList (c :: name), rest) else none
  | _, _ => none

/-- A group under a name that no other group has. -/
def namedGroup? (st : State) (cs : List Char) : Option (State × List Char) :=
  match groupName? cs with
  | some (name, rest) =>
    if st.names.contains name then none
    else some ({ st with names := name :: st.names }.openGroup st.flags, rest)
  | none => none

/-- A group or a change of flags, after the opening bracket. -/
def group? (st : State) (cs : List Char) : Option (State × List Char) :=
  match skip st.flags cs with
  | '?' :: '=' :: _ | '?' :: '!' :: _ | '?' :: '<' :: '=' :: _ | '?' :: '<' :: '!' :: _ => none
  | '?' :: 'P' :: '<' :: cs => namedGroup? st cs
  | '?' :: '<' :: cs => namedGroup? st cs
  | '?' :: ')' :: _ => none
  | '?' :: cs =>
    match flags? st.flags [] cs with
    | some (f, ')', rest) => some ({ st with flags := f, pieces := .flags :: st.pieces }, rest)
    | some (f, _, rest) => some (st.openGroup f, rest)
    | none => none
  | cs => some (st.openGroup st.flags, cs)

/-- One item of the pattern, which starts with `c`. -/
def item? (st : State) (c : Char) (cs : List Char) : Option (State × List Char) :=
  let f := st.flags
  let repeated (count : Count) (rest : List Char) := (st.repeat? count).map (·, skipLazy rest)
  let atom (a : Atom) (rest : List Char) := (a.toRegex? f).map fun r => (st.push ⟨r, 0⟩, rest)
  if c = '(' then group? st cs
  else if c = ')' then st.closeGroup?.map (·, cs)
  else if c = '|' then some (st.bar, cs)
  else if c = '[' then (class? f cs).map fun (d, rest) => (st.push ⟨.one d.set, d.depth⟩, rest)
  else if c = '?' then repeated .optional cs
  else if c = '*' then repeated (.atLeast 0) cs
  else if c = '+' then repeated (.atLeast 1) cs
  else if c = '\x7b' then
    match count? f cs with
    | some (count, rest) => repeated count (skip f rest)
    | none => none
  else if c = '\\' then
    match escape? f cs with
    | some (a, rest) => atom a rest
    | none => none
  else if c = '.' then atom .dot cs
  else if c = '^' then atom .lineStart cs
  else if c = '$' then atom .lineEnd cs
  else atom (.char c false) cs

/-- Item after item, up to the end of the pattern. -/
def items? : Nat → State → List Char → Option State
  | 0, _, _ => none
  | fuel + 1, st, cs =>
    match skip st.flags cs with
    | [] => some st
    | c :: cs =>
      match item? st c cs with
      | some (st, cs) => items? fuel st cs
      | none => none

/-- How deep a pattern may nest. -/
def maxDepth : Nat := 250

end Reader

open Reader in
/-- The regular expression that a pattern's text describes; `none` if the text is no pattern. -/
def read? (text : String) : Option Regex :=
  let cs := text.toList
  match items? (cs.length + 1) ⟨.initial, [], [], [], []⟩ cs with
  | some st =>
    let b := st.body
    if st.groups.isEmpty && b.depth ≤ maxDepth && b.regex.size ≤ maxSize then some b.regex else none
  | none => none

end Regex

end RecordSchema

import Ebuild.Text.Blank
import Ebuild.Text.Digits
import Ebuild.Text.Word
import Ebuild.Version.Operator

/-!
# Atom grammar

An expression has one of four shapes:

* `category/name`
* `OP category/name-version`, without the blank
* `category/name:slot`
* `OP category/name-version:slot`, then maybe `:repository` or `::repository`

`Shape.read?` takes an expression apart and `Shape.render` puts it together again. Where a name
and a version could be parted in two ways, the name is the longer one.
-/

namespace Ebuild

/-! ### Words -/

namespace Grammar

def isNameChar (c : Char) : Bool :=
  Text.isWordChar c || c == '+' || c == '.' || c == '*' || c == '?' || c == '-'

def isName (cs : List Char) : Bool := !cs.isEmpty && cs.all isNameChar

/-- A character of a version before its revision. -/
def isVersionChar (c : Char) : Bool :=
  c.isAlphanum || c == '.' || c == '_' || c == '+' || c == '*'

/-- `-r` and a number. -/
def isRevision : List Char → Bool
  | '-' :: 'r' :: digits => Text.isNumber digits
  | _ => false

def isVersion : List Char → Bool
  | [] => false
  | c :: cs =>
    let rest := cs.dropWhile isVersionChar
    (c.isDigit || c == '*') && (rest.isEmpty || isRevision rest)

def isLabelChar (c : Char) : Bool := !Text.isBlank c && c != ':'

def isLabel (cs : List Char) : Bool := !cs.isEmpty && cs.all isLabelChar

/-! ### Cuts -/

/-- The text before and after the first `sep`. -/
def cut? (sep : Char) : List Char → Option (List Char × List Char)
  | [] => none
  | c :: cs => if c = sep then some ([], cs) else (cut? sep cs).map fun (a, b) => (c :: a, b)

def operator? : List Char → Option (Operator × List Char)
  | '<' :: '=' :: cs => some (.lessEqual, cs)
  | '>' :: '=' :: cs => some (.greaterEqual, cs)
  | '<' :: cs => some (.less, cs)
  | '>' :: cs => some (.greater, cs)
  | '=' :: cs => some (.equal, cs)
  | '~' :: cs => some (.approximate, cs)
  | _ => none

def category? (cs : List Char) : Option (List Char × List Char) :=
  (cut? '/' cs).filter fun (category, _) => isName category

/-- The last dash with a version after it, as the text before and after it. -/
def lastVersion? : List Char → Option (List Char × List Char)
  | [] => none
  | c :: cs =>
    match lastVersion? cs with
    | some (name, version) => some (c :: name, version)
    | none => if c == '-' && isVersion cs then some ([], cs) else none

def nameVersion? (cs : List Char) : Option (List Char × List Char) :=
  (lastVersion? cs).filter fun (name, _) => isName name

def cpv? (cs : List Char) : Option (List Char × List Char × List Char) := do
  let (category, rest) ← category? cs
  let (name, version) ← nameVersion? rest
  return (category, name, version)

/-- A repository after a slot: nothing, `:repository` or `::repository`. -/
def repository? : List Char → Option (List Char)
  | [] => some []
  | ':' :: ':' :: cs => if isLabel cs then some cs else none
  | ':' :: cs => if isLabel cs then some cs else none
  | _ => none

end Grammar

/-! ### Shapes -/

/-- The parts of an expression. An absent repository is empty. -/
inductive Shape
  | basic (category name : List Char)
  | versioned (operator : Operator) (category name version : List Char)
  | slotted (category name slot : List Char)
  | qualified (operator : Operator) (category name version slot repository : List Char)
  deriving DecidableEq, Repr

namespace Shape
open Grammar

def basic? (cs : List Char) : Option Shape := do
  let (category, name) ← category? cs
  if isName name then some (.basic category name) else none

def versioned? (cs : List Char) : Option Shape := do
  let (operator, rest) ← operator? cs
  let (category, name, version) ← cpv? rest
  some (.versioned operator category name version)

def slotted? (cs : List Char) : Option Shape := do
  let (front, slot) ← cut? ':' cs
  let (category, name) ← category? front
  if isName name && isLabel slot then some (.slotted category name slot) else none

def qualified? (cs : List Char) : Option Shape := do
  let (front, back) ← cut? ':' cs
  let (operator, rest) ← operator? front
  let (category, name, version) ← cpv? rest
  let repository ← repository? (back.dropWhile isLabelChar)
  some (.qualified operator category name version (back.takeWhile isLabelChar) repository)

/-- The readers of the four shapes, in the order in which they are tried. -/
def readers : List (List Char → Option Shape) := [versioned?, basic?, slotted?, qualified?]

def read? (cs : List Char) : Option Shape := readers.findSome? fun reader => reader cs

/-- The expression of a shape, with two colons before a repository. -/
def render : Shape → List Char
  | basic category name => category ++ '/' :: name
  | versioned operator category name version =>
    operator.text.toList ++ category ++ '/' :: name ++ '-' :: version
  | slotted category name slot => category ++ '/' :: name ++ ':' :: slot
  | qualified operator category name version slot repository =>
    operator.text.toList ++ category ++ '/' :: name ++ '-' :: version ++ ':' :: slot ++
      (if repository.isEmpty then [] else ':' :: ':' :: repository)

end Shape

end Ebuild

import Ebuild.Error

/-!
# Globs

In a glob `*` stands for any run of characters and `?` for any one character. `Glob.parse` sorts a
pattern into four forms, three of which are checked without walking through the pattern. In the
fourth form no wildcard stands for a line feed. Such a pattern goes to an engine for expressions,
which may refuse it for its size; which ones it refuses is left open (`Glob.Engine`).
-/

namespace Ebuild

inductive Glob
  /-- A lone `*`. -/
  | any
  /-- A text without wildcards. -/
  | exact (text : String)
  /-- A text without wildcards before a final `*`. -/
  | stem (text : String)
  | pattern (text : String)
  deriving DecidableEq, Repr

namespace Glob

def isWildcard (c : Char) : Bool := c == '*' || c == '?'

def hasWildcard (text : String) : Bool := text.toList.any isWildcard

/-- What runs patterns of the fourth form. -/
class Engine where
  /-- Whether it takes the pattern. -/
  compiles : String → Bool

/-- The engine of the command line. Its limit stands in for one on the size of compiled expressions;
all that is proved holds of any engine. -/
instance : Engine := ⟨fun pattern => pattern.toList.countP isWildcard ≤ 10000⟩

/-- The text before a final `*` if it has no wildcard itself. -/
def stem? (cs : List Char) : Option (List Char) :=
  if cs.getLast? = some '*' && !cs.dropLast.any isWildcard then some cs.dropLast else none

def parse [Engine] (text : String) : Except Error Glob :=
  if text = "*" then .ok any
  else if !hasWildcard text then .ok (exact text)
  else match stem? text.toList with
    | some cs => .ok (stem (String.ofList cs))
    | none =>
      if Engine.compiles text then .ok (pattern text) else .error (.oversizedGlob text)

def text : Glob → String
  | any => "*"
  | exact text => text
  | stem text => text ++ "*"
  | pattern text => text

def isLiteral : Glob → Bool
  | exact _ => true
  | _ => false

/-! ### Walking through a pattern

A row for a value holds, for each of its suffixes from the longest to the empty one, whether some
pattern covers that suffix. -/

def emptyRow : List Char → List Bool
  | [] => [true]
  | _ :: cs => false :: emptyRow cs

/-- Whether the pattern character `p` covers the one character `c`. -/
def coversChar (p c : Char) : Bool := if isWildcard p then c != '\n' else p == c

/-- The row of `p` followed by the pattern of the row `next`. -/
def consRow (p : Char) : List Char → List Bool → List Bool
  | [], next => [p == '*' && next.headD false]
  | c :: cs, next =>
    let row := consRow p cs next.tail
    if p = '*' then (next.headD false || (coversChar p c && row.headD false)) :: row
    else (coversChar p c && next.tail.headD false) :: row

/-- The row of a pattern. -/
def row (pattern value : List Char) : List Bool :=
  pattern.foldr (fun p next => consRow p value next) (emptyRow value)

/-- Whether a pattern covers a whole value, no wildcard taking a line feed. -/
def covers (pattern value : List Char) : Bool := (row pattern value).headD false

def accepts : Glob → String → Bool
  | any, _ => true
  | exact text, value => text = value
  | stem text, value => text.toList.isPrefixOf value.toList
  | pattern text, value => covers text.toList value.toList

/-- `accepts` for a pattern text; a refused pattern accepts nothing. -/
def acceptsText [Engine] (pattern value : String) : Bool :=
  match parse pattern with
  | .ok glob => glob.accepts value
  | .error _ => false

end Glob

end Ebuild

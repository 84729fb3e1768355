import Ebuild.Error
import Ebuild.Text.Occurrence
import Ebuild.Version.Basic

/-!
# Version operators

`bound.accepts op candidate` asks whether the candidate stands in the relation `op` to the bound.
Under `=` a bound may be a wildcard.
-/

namespace Ebuild

inductive Operator
  /-- Equal apart from the revision. -/
  | approximate
  | equal
  | greaterEqual
  | lessEqual
  | greater
  | less
  deriving DecidableEq, Repr

namespace Operator

def all : List Operator := [approximate, equal, greaterEqual, lessEqual, greater, less]

def text : Operator → String
  | approximate => "~"
  | equal => "="
  | greaterEqual => ">="
  | lessEqual => "<="
  | greater => ">"
  | less => "<"

def ofText? (text : String) : Option Operator := all.find? fun op => op.text = text

theorem mem_all (op : Operator) : op ∈ all := by cases op <;> simp [all]

theorem ofText?_text (op : Operator) : ofText? op.text = some op := by cases op <;> rfl

def parse (text : String) : Except Error Operator :=
  match ofText? text with
  | some op => .ok op
  | none => .error (.unknownOperator text)

end Operator

namespace Version

/-- Equality with the bound `v`, or the meaning of its stars. -/
def acceptsEqual (v candidate : Version) : Bool :=
  match v.wildcard with
  | .within text => Text.occursIn text candidate.raw.toList
  | .leading tokens => tokens.isPrefixOf candidate.tokenList
  | .none => v.compare candidate == .eq

/-- Whether `candidate` satisfies the bound `v`. -/
def accepts (v : Version) (op : Operator) (candidate : Version) : Bool :=
  match op with
  | .equal => v.acceptsEqual candidate
  | .approximate => v.compareRelease candidate == .eq
  | .greaterEqual => candidate.compare v != .lt
  | .lessEqual => candidate.compare v != .gt
  | .greater => candidate.compare v == .gt
  | .less => candidate.compare v == .lt

end Version

end Ebuild

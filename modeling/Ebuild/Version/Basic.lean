import Ebuild.Text.Blank
import Ebuild.Version.Token
import Ebuild.Version.Slot

/-!
# Versions

A version is its text without surrounding white space. Reading one never fails: what follows the
first character that no version holds is ignored. `Version.compare` goes through the slots.
-/

namespace Ebuild

structure Version where
  raw : String
  deriving DecidableEq, Repr

inductive Wildcard
  | none
  /-- A final star: the tokens before it. -/
  | leading (tokens : List (List Char))
  /-- Stars at both ends: the text between them. -/
  | within (text : List Char)
  deriving DecidableEq, Repr

namespace Version

def parse (text : String) : Version := ⟨Text.trimmed text⟩

def tokenList (v : Version) : List (List Char) := tokens v.raw.toList

def endsInStar (v : Version) : Bool := v.tokenList.getLast? = some ['*']

def body (v : Version) : List (List Char) :=
  if v.endsInStar then v.tokenList.dropLast else v.tokenList

def slots (v : Version) : List Slot := slotsOf v.body

/-- The text between a star at the start and another one at the end. -/
def innerText? : List Char → Option (List Char)
  | '*' :: cs => if cs.getLast? = some '*' then some cs.dropLast else none
  | _ => none

def wildcard (v : Version) : Wildcard :=
  match innerText? v.raw.toList with
  | some inner => .within inner
  | none => if v.endsInStar then .leading v.body else .none

def isWildcard (v : Version) : Bool := v.wildcard != .none

/-! ### Views -/

def components (v : Version) : List String := v.tokenList.map String.ofList

def normalized (v : Version) : List String := v.slots.map fun slot => String.ofList slot.text

/-- The slots as signed 64-bit words. -/
def numeric (v : Version) : List Int := v.slots.map Slot.value

/-- The component at an index, empty past the end. -/
def cut (v : Version) (index : Nat) : String := v.components.getD index ""

/-- The slot text at an index, empty past the end. -/
def cutNormalized (v : Version) (index : Nat) : String := v.normalized.getD index ""

/-- The revision digits, `0` where the version has none. -/
def revision (v : Version) : String := v.cutNormalized revisionSlot

/-! ### Order -/

def compareSlots (a b : List Slot) : Ordering := List.compareLex Slot.compare a b

def compare (a b : Version) : Ordering := compareSlots a.slots b.slots

/-- `compare` without the revision. -/
def compareRelease (a b : Version) : Ordering :=
  compareSlots (a.slots.take revisionSlot) (b.slots.take revisionSlot)

end Version

end Ebuild

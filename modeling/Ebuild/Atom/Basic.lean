import Ebuild.Glob
import Ebuild.Package

/-!
# Atoms

An atom names packages by globs on category and name, and may constrain their version and slot.
`Atom.accepts` asks about the constraint alone, `Atom.acceptsPackage` about the names too.
-/

namespace Ebuild

structure SlotPattern where
  slot : Glob
  /-- Without one, every subslot will do. -/
  subslot : Option Glob
  deriving DecidableEq, Repr

namespace SlotPattern

/-- Reads `slot` or `slot/subslot`; an empty slot is `*` and an empty subslot is none. -/
def parse [Glob.Engine] (text : List Char) : Except Error SlotPattern := do
  let (slot, subslot) := (Grammar.cut? '/' text).getD (text, [])
  let slot ← if slot.isEmpty then pure Glob.any else Glob.parse (String.ofList slot)
  let subslot ← if subslot.isEmpty then pure none else some <$> Glob.parse (String.ofList subslot)
  return { slot, subslot }

def accepts (p : SlotPattern) (slot subslot : String) : Bool :=
  p.slot.accepts slot && p.subslot.all fun glob => glob.accepts subslot

def text (p : SlotPattern) : String :=
  p.slot.text ++ (p.subslot.elim "" fun glob => "/" ++ glob.text)

end SlotPattern

inductive Constraint
  | basic
  | versioned (operator : Operator) (version : Version)
  | slotted (slot : SlotPattern)
  | qualified (operator : Operator) (version : Version) (slot : SlotPattern) (repo : Option Glob)
  deriving DecidableEq, Repr

namespace Constraint

def name : Constraint → String
  | basic => "basic"
  | versioned .. => "version-constrained"
  | slotted _ => "slotted"
  | qualified .. => "repository-qualified"

def operator? : Constraint → Option Operator
  | versioned operator _ | qualified operator _ _ _ => some operator
  | _ => none

def version? : Constraint → Option Version
  | versioned _ version | qualified _ version _ _ => some version
  | _ => none

def slot? : Constraint → Option SlotPattern
  | slotted slot | qualified _ _ slot _ => some slot
  | _ => none

def repo? : Constraint → Option Glob
  | qualified _ _ _ repo => repo
  | _ => none

def accepts : Constraint → Package → Bool
  | basic, _ => true
  | versioned operator version, p => version.accepts operator p.version
  | slotted slot, p => slot.accepts p.slot p.subslot
  | qualified operator version slot _, p =>
    version.accepts operator p.version && slot.accepts p.slot p.subslot

end Constraint

structure Atom where
  /-- The text that the atom was read from. -/
  expression : String
  category : Glob
  package : Glob
  constraint : Constraint
  deriving DecidableEq, Repr

namespace Atom

variable [Glob.Engine]

def repoOf (text : List Char) : Except Error (Option Glob) :=
  if text.isEmpty then pure none else some <$> Glob.parse (String.ofList text)

def constraintOf : Shape → Except Error Constraint
  | .basic _ _ => pure .basic
  | .versioned operator _ _ version => pure (.versioned operator (.parse (String.ofList version)))
  | .slotted _ _ slot => .slotted <$> SlotPattern.parse slot
  | .qualified operator _ _ version slot repository => do
    let slot ← SlotPattern.parse slot
    let repo ← repoOf repository
    return .qualified operator (.parse (String.ofList version)) slot repo

def namesOf : Shape → List Char × List Char
  | .basic category name | .versioned _ category name _ | .slotted category name _
  | .qualified _ category name _ _ _ => (category, name)

def ofShape (expression : String) (shape : Shape) : Except Error Atom := do
  let constraint ← constraintOf shape
  let category ← Glob.parse (String.ofList (namesOf shape).1)
  let package ← Glob.parse (String.ofList (namesOf shape).2)
  return { expression, category, package, constraint }

/-- Reads an expression, white space around it ignored. -/
def parse (text : String) : Except Error Atom :=
  let text := Text.trimmed text
  match Shape.read? text.toList with
  | some shape => ofShape text shape
  | none => .error (.invalidAtom text)

/-- `category/name` as written, wildcards included. -/
def cpn (a : Atom) : String := a.category.text ++ "/" ++ a.package.text

def hasWildcard (a : Atom) : Bool := !a.category.isLiteral || !a.package.isLiteral

/-- Whether a package satisfies the constraint, whatever its names are. -/
def accepts (a : Atom) (p : Package) : Bool := a.constraint.accepts p

def acceptsPackage (a : Atom) (p : Package) : Bool :=
  a.category.accepts p.category && a.package.accepts p.name && a.accepts p

def acceptsRepo (a : Atom) (repo : String) : Bool :=
  a.constraint.repo?.all fun glob => glob.accepts repo

end Atom

end Ebuild

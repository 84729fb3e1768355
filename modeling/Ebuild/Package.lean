import Ebuild.Atom.Grammar
import Ebuild.Error

/-!
# Packages

One version of a package, with its slot and its keywords.
-/

namespace Ebuild

structure Package where
  category : String
  name : String
  slot : String := "0"
  /-- Empty where there is none. -/
  subslot : String := ""
  version : Version
  /-- The keywords, separated by white space. -/
  keywords : String := ""
  deriving DecidableEq, Repr

namespace Package

/-- A package from the text of its version. -/
def ofParts (category name version : String) : Package :=
  { category, name, version := Version.parse version }

def parse (text : String) : Except Error Package :=
  let text := Text.trimmed text
  match Grammar.cpv? text.toList with
  | some (category, name, version) =>
    .ok (ofParts (String.ofList category) (String.ofList name) (String.ofList version))
  | none => .error (.invalidVersion text)

/-- Sets the slot, and the subslot too if the text has a slash. -/
def withSlot (p : Package) (text : String) : Package :=
  match Grammar.cut? '/' text.toList with
  | some (slot, subslot) =>
    { p with slot := String.ofList slot, subslot := String.ofList subslot }
  | none => { p with slot := text }

def withSubslot (p : Package) (subslot : String) : Package := { p with subslot }

def withKeywords (p : Package) (keywords : String) : Package := { p with keywords }

def cpn (p : Package) : String := p.category ++ "/" ++ p.name

def cpv (p : Package) : String := p.cpn ++ "-" ++ p.version.raw

def keywordList (p : Package) : List String := Text.wordList p.keywords

/-- `category/name-version:slot`, then the subslot if there is one. -/
def text (p : Package) : String :=
  p.cpv ++ ":" ++ p.slot ++ (if p.subslot = "" then "" else "/" ++ p.subslot)

end Package

end Ebuild

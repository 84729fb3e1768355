import Ebuild.Atom.Basic
import Ebuild.Text.Lines

/-!
# Rule lines

A line of a rule file asks for at most one change of the rules, its `Directive`. A rule is kept in
the cheapest form that can represent it: a name, a name with an exact version, or an atom.
-/

namespace Ebuild

inductive MaskKind
  | mask
  | unmask
  deriving DecidableEq, Repr

def MaskKind.name : MaskKind → String
  | mask => "mask"
  | unmask => "unmask"

inductive RuleFile
  | masks (kind : MaskKind)
  | acceptKeywords
  deriving DecidableEq, Repr

def RuleFile.name : RuleFile → String
  | masks kind => kind.name
  | acceptKeywords => "accept_keywords"

inductive MaskRule
  /-- All versions of `category/name`. -/
  | plain (cpn : String)
  /-- The one version `category/name-version`. -/
  | exact (cpv : String)
  | atom (atom : Atom)
  deriving DecidableEq, Repr

structure KeywordRule (α : Type) where
  subject : α
  /-- Keyword tokens, separated by single spaces. -/
  allowed : String
  deriving DecidableEq, Repr

inductive Directive
  | mask (kind : MaskKind) (rule : MaskRule)
  /-- Takes a plain mask back. -/
  | dropMask (entry : String)
  | acceptPlain (rule : KeywordRule String)
  | acceptAtom (rule : KeywordRule Atom)
  /-- Keywords accepted for every package. -/
  | acceptAll (allowed : String)
  /-- No rule, and why. -/
  | skip (file : RuleFile) (reason : Error)
  deriving DecidableEq, Repr

/-- A line without its comment and the white space around it, none if nothing is left. -/
def ruleText? (line : List Char) : Option (List Char) :=
  let text := Text.trim (line.takeWhile (· != '#'))
  if text.isEmpty then none else some text

namespace MaskRule

def read [Glob.Engine] (entry : List Char) : Except Error MaskRule :=
  let asAtom := atom <$> Atom.parse (String.ofList entry)
  if entry.any Glob.isWildcard then asAtom
  else if (Shape.basic? entry).isSome then .ok (plain (String.ofList entry))
  else match Shape.versioned? entry with
    | some (.versioned .equal category name version) =>
      .ok (exact (String.ofList (category ++ '/' :: name ++ '-' :: version)))
    | _ => asAtom

end MaskRule

namespace Directive

variable [Glob.Engine]

/-- Reads a line of a mask or unmask file. A dash takes back a plain mask in files of both kinds. -/
def ofMaskLine (kind : MaskKind) (line : List Char) : Option Directive :=
  (ruleText? line).map fun
    | '-' :: entry => dropMask (String.ofList (Text.trim entry))
    | entry =>
      match MaskRule.read entry with
      | .ok rule => mask kind rule
      | .error reason => skip (.masks kind) reason

/-- The first word of a line and the keywords after it, `~arch` if there are none. -/
def splitKeywords (arch : String) (text : List Char) : List Char × String :=
  let subject := text.takeWhile fun c => !Text.isBlank c
  match text.drop subject.length with
  | [] => (subject, "~" ++ arch)
  | rest => (subject, " ".intercalate ((Text.words rest).map String.ofList))

def acceptKeywords (subject : List Char) (allowed : String) : Directive :=
  if !subject.any Glob.isWildcard && (Shape.basic? subject).isSome then
    acceptPlain ⟨String.ofList subject, allowed⟩
  else match Atom.parse (String.ofList subject) with
    | .ok atom => acceptAtom ⟨atom, allowed⟩
    | .error reason => skip .acceptKeywords reason

def ofKeywordLine (arch : String) (line : List Char) : Option Directive :=
  (ruleText? line).map fun text =>
    let (subject, allowed) := splitKeywords arch text
    match subject with
    | '-' :: entry => dropMask (String.ofList entry)
    | _ => acceptKeywords subject allowed

def ofLine (arch : String) : RuleFile → String → Option Directive
  | .masks kind, line => ofMaskLine kind line.toList
  | .acceptKeywords, line => ofKeywordLine arch line.toList

/-- The keywords of a list accepted for every package, nothing for an empty list. -/
def ofKeywords (keywords : List String) : Option Directive :=
  if keywords.isEmpty then none else some (acceptAll (" ".intercalate keywords))

end Directive

end Ebuild

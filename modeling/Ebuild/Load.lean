import Ebuild.Profile
import Ebuild.Settings

/-!
# Loading by settings

The rules of a system: first those of its profile, then those under `etc/portage`, then the
keywords accepted for every package. What is missing gives no rules.
-/

namespace Ebuild.Settings

def profileLink (s : Settings) : String := Path.join s.portageDir "make.profile"

/-- The profile folder to load. The target of a link counts from the folder of the link. -/
def profilePath? (s : Settings) (t : FileTree) : Option String :=
  match s.profile with
  | some path => some path
  | none =>
    match t.readLink? s.profileLink with
    | some target => some (Path.join s.portageDir target)
    | none => if t.isFolder s.profileLink then some s.profileLink else none

/-- The rule files under `etc/portage`, in the order of loading. -/
def ruleFiles : List (RuleFile × String) :=
  [(.masks .mask, "package.mask"), (.masks .unmask, "package.unmask"),
    (.acceptKeywords, "package.accept_keywords"), (.acceptKeywords, "package.keywords")]

def profileWalk (s : Settings) (t : FileTree) : Traversal :=
  match s.profilePath? t with
  | some path => t.traverse [] [path]
  | none => ⟨[.note (.noProfile s.profileLink)], []⟩

def steps (s : Settings) (t : FileTree) : List Step :=
  (s.profileWalk t).steps ++
    (ruleFiles.flatMap fun (file, name) => t.ruleSteps file (Path.join s.portageDir name)) ++
    [.acceptAll s.acceptKeywords]

def load [Glob.Engine] (s : Settings) (t : FileTree) : Loader :=
  let visited := (s.profileWalk t).visited
  let loader := { ({ arch := s.arch } : Loader).run (s.steps t) with visited }
  loader.step (.note (.loaded loader.rules.counts.total s.portageDir visited.length))

end Ebuild.Settings

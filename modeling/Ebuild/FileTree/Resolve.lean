import Ebuild.FileTree.Basic

/-!
# Path resolution

`follow` takes the steps of a path one by one and goes through symbolic links, of which only so
many may be met. What is opened must have a short path as it is written (`lookup`). A canonical path
is made step by step, asking for each place on the way by its own path, which must be short then
(`resolve`).
-/

namespace Ebuild

inductive PathError
  | notFound
  | notFolder
  | nameTooLong
  | pathTooLong
  | tooManyLinks
  | nulInPath
  deriving DecidableEq, Repr

def PathError.message : PathError → String
  | notFound => "No such file or directory (os error 2)"
  | notFolder => "Not a directory (os error 20)"
  | nameTooLong | pathTooLong => "File name too long (os error 36)"
  | tooManyLinks => "Too many levels of symbolic links (os error 40)"
  | nulInPath => "file name contained an unexpected NUL byte"

/-- Where a path leads, and how many more links may be met on the way on. -/
structure Spot where
  place : Place
  links : Nat
  deriving DecidableEq, Repr

namespace FileTree

def start (t : FileTree) (path : String) : Place := if Path.isAbsolute path then [] else t.current

def maxNameSize : Nat := 255

/-- The paths that may be asked for have fewer bytes. -/
def maxPathSize : Nat := 4096

def isShort (place : Place) : Bool := place.path.utf8ByteSize < maxPathSize

def anywhere (_ : Place) : Bool := true

/-- What one step comes to: a place, or a link, from which the steps of its target go on. -/
inductive Move
  | place (place : Place)
  | link (place : Place) (steps : List String)

/-- One step of a path, if `fits` admits the place that it asks for. -/
def move (t : FileTree) (fits : Place → Bool) (here : Place) (name : String) :
    Except PathError Move :=
  match t.node? here with
  | none => .error .notFound
  | some node =>
    -- What is too long is refused before it is seen whether this is a folder.
    if name ≠ "." ∧ name ≠ ".." ∧ fits (here ++ [name]) = false then .error .pathTooLong
    else
      match node with
      | .folder =>
        if name = "." then .ok (.place here)
        else if name = ".." then .ok (.place here.dropLast)
        else
          match t.node? (here ++ [name]) with
          | none => .error (if maxNameSize < name.utf8ByteSize then .nameTooLong else .notFound)
          | some (.link target) =>
            if target = "" then .error .notFound
            else .ok (.link (if Path.isAbsolute target then [] else here) (Path.components target))
          | some _ => .ok (.place (here ++ [name]))
      | _ => .error .notFolder

/-- Takes steps up to the first link, from which `viaLink` goes on with all steps that are left. -/
def walk (t : FileTree) (fits : Place → Bool)
    (viaLink : Place → List String → Except PathError Spot) (links : Nat) :
    Place → List String → Except PathError Spot
  | here, [] => if (t.node? here).isSome then .ok ⟨here, links⟩ else .error .notFound
  | here, name :: rest =>
    match t.move fits here name with
    | .error reason => .error reason
    | .ok (.place place) => walk t fits viaLink links place rest
    | .ok (.link place steps) => viaLink place (steps ++ rest)

/-- Takes steps from a place, through at most `links` links. -/
def follow (t : FileTree) (fits : Place → Bool) :
    (links : Nat) → Place → List String → Except PathError Spot
  | 0 => walk t fits (fun _ _ => .error .tooManyLinks) 0
  | links + 1 => walk t fits (follow t fits links) (links + 1)

/-- The most links on the way of one path. -/
def maxLinks : Nat := 40

def locate (t : FileTree) (fits : Place → Bool) (path : String) : Except PathError Spot :=
  if path = "" then .error .notFound
  else if path.toList.contains '\x00' then .error .nulInPath
  else follow t fits maxLinks (t.start path) (Path.components path)

/-- Where a path leads by its canonical form. -/
def resolve (t : FileTree) (path : String) : Except PathError Spot := t.locate isShort path

/-- Where a path leads that is opened. -/
def lookup (t : FileTree) (path : String) : Except PathError Spot :=
  if maxPathSize ≤ path.utf8ByteSize then .error .pathTooLong else t.locate anywhere path

/-- What a path leads to, links followed. -/
def target? (t : FileTree) (path : String) : Option Node :=
  (t.lookup path).toOption.bind fun spot => t.node? spot.place

def reaches (t : FileTree) (path : String) : Bool := (t.target? path).isSome

def isFolder (t : FileTree) (path : String) : Bool :=
  match t.target? path with
  | some .folder => true
  | _ => false

def readLink? (t : FileTree) (path : String) : Option String := do
  let steps := Path.components path
  let name ← steps.getLast?
  let spot ← (follow t anywhere maxLinks (t.start path) steps.dropLast).toOption
  if maxPathSize ≤ path.utf8ByteSize ∨ name = "." ∨ name = ".." then none
  else match t.node? (spot.place ++ [name]) with
    | some (.link target) => some target
    | _ => none

/-! ### What a walk keeps -/

/-- Goes on from a link, with `links` links to go before it. -/
def followLink (t : FileTree) (fits : Place → Bool) (links : Nat) (here : Place)
    (steps : List String) : Except PathError Spot :=
  match links with
  | 0 => .error .tooManyLinks
  | links + 1 => follow t fits links here steps

section
variable {t : FileTree} {fits : Place → Bool} {here : Place} {spot : Spot}

theorem walk_found {viaLink : Place → List String → Except PathError Spot} {links : Nat}
    (found : ∀ here steps spot, viaLink here steps = .ok spot →
      (t.node? spot.place).isSome ∧ spot.links ≤ links) {steps : List String}
    (h : walk t fits viaLink links here steps = .ok spot) :
    (t.node? spot.place).isSome ∧ spot.links ≤ links := by
  induction steps generalizing here with
  | nil =>
    rw [walk] at h
    split at h
    · cases h; exact ⟨by assumption, Nat.le_refl _⟩
    · cases h
  | cons name rest ih =>
    rw [walk] at h
    split at h
    · cases h
    · exact ih h
    · exact found _ _ _ h

theorem follow_nil (t : FileTree) (links : Nat) (here : Place) : follow t fits links here [] =
    if (t.node? here).isSome then .ok ⟨here, links⟩ else .error .notFound := by
  cases links <;> rfl

theorem follow_cons (t : FileTree) (links : Nat) (here : Place) (name : String)
    (rest : List String) :
    follow t fits links here (name :: rest) =
      match t.move fits here name with
      | .error reason => .error reason
      | .ok (.place place) => follow t fits links place rest
      | .ok (.link place steps) => t.followLink fits links place (steps ++ rest) := by
  have level : ∀ here steps, follow t fits links here steps =
      walk t fits (t.followLink fits links) links here steps := by
    intro here steps
    cases links <;> rfl
  simp only [level, walk]

theorem follow_found {links : Nat} {steps : List String}
    (h : follow t fits links here steps = .ok spot) :
    (t.node? spot.place).isSome ∧ spot.links ≤ links := by
  induction links generalizing here steps spot with
  | zero => exact walk_found (fun _ _ _ h => by cases h) h
  | succ links ih =>
    refine walk_found (fun _ _ _ h => ?_) h
    have := ih h
    exact ⟨this.1, by omega⟩

theorem locate_found {path : String} (h : t.locate fits path = .ok spot) :
    (t.node? spot.place).isSome := by
  unfold locate at h
  split at h
  · cases h
  · split at h
    · cases h
    · exact (follow_found h).1

theorem resolve_found {path : String} (h : t.resolve path = .ok spot) :
    (t.node? spot.place).isSome :=
  locate_found h

theorem move_name {name : String} {place : Place} (h : t.move fits here name = .ok (.place place))
    (dot : name ≠ ".") (dots : name ≠ "..") : place = here ++ [name] := by
  unfold move at h
  simp only [dot, dots, if_false] at h
  split at h
  · cases h
  split at h
  · cases h
  split at h
  · split at h
    · cases h
    · split at h <;> cases h
    · cases h; rfl
  · cases h

/-- One step to a name either goes one place down or meets a link. -/
theorem follow_name {links : Nat} {name : String} (h : follow t fits links here [name] = .ok spot)
    (dot : name ≠ ".") (dots : name ≠ "..") :
    spot = ⟨here ++ [name], links⟩ ∨ spot.links < links := by
  rw [follow_cons] at h
  split at h
  · cases h
  · rename_i place moved
    rw [follow_nil, move_name moved dot dots] at h
    split at h
    · cases h; exact .inl rfl
    · cases h
  · cases links with
    | zero => cases h
    | succ links =>
      have := (follow_found h).2
      exact .inr (by omega)

end

/-! ### Writing through links -/

/-- Makes folders along the steps where nothing is yet, and gives the place that is reached. -/
def makeFolders (t : FileTree) (here : Place) : List String → FileTree × Place
  | [] => (t, here)
  | name :: rest =>
    match follow t anywhere maxLinks here [name] with
    | .ok spot => makeFolders t spot.place rest
    | .error _ => makeFolders (t.ensureFolder (here ++ [name])) (here ++ [name]) rest

/-- The place of a file written at a path, if one can be there. A link leads to the place that it
names, whether or not something is there. -/
def landing? (t : FileTree) (links : Nat) (here : Place) (steps : List String) : Option Place := do
  let name ← steps.getLast?
  let spot ← (follow t anywhere maxLinks here steps.dropLast).toOption
  if name = "." ∨ name = ".." then none
  else
    match links, t.node? (spot.place ++ [name]) with
    | links + 1, some (.link target) =>
      landing? t links (if Path.isAbsolute target then [] else spot.place) (Path.components target)
    | 0, some (.link _) | _, some .folder => none
    | _, _ => some (spot.place ++ [name])

def write (t : FileTree) (path : String) (node : Node) : FileTree :=
  let steps := Path.components path
  let (t, here) := makeFolders t (t.start path) steps.dropLast
  let last := steps.drop (steps.length - 1)
  match node with
  | .file _ => (t.landing? maxLinks here last).elim t fun place => t.put place node
  | .folder => (t.makeFolders here last).1
  | .link _ => t.put (here ++ last) node

/-- Removes the file or link that a path names; the target of a link stays. -/
def unlink (t : FileTree) (path : String) : FileTree :=
  let steps := Path.components path
  let last := steps.drop (steps.length - 1)
  match follow t anywhere maxLinks (t.start path) steps.dropLast with
  | .error _ => t
  | .ok spot =>
    match t.node? (spot.place ++ last) with
    | some .folder => t
    | _ => t.remove (spot.place ++ last)

end FileTree

end Ebuild

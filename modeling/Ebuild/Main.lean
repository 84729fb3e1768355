import Ebuild.Command.Run

/-!
# Command line

The program around `Command.run`: it reads arguments and environment, and copies from the disk what
the run asks for until the run misses nothing that is there.
-/

namespace Ebuild.Command

/-- The path of a place as the system takes it. -/
def entryAt (place : Place) : IO.FS.DirEntry := { root := "/", fileName := "/".intercalate place }

/-- What is at a place of the disk, links not followed. -/
def kindAt? (place : Place) : IO (Option IO.FS.FileType) := do
  try
    return some (← (entryAt place).path.symlinkMetadata).type
  catch _ => return none

def linkPlace? (place : Place) : IO (Option Place) := do
  try
    let real ← IO.FS.realPath (entryAt place).path
    return some (Path.components real.toString)
  catch _ => return none

/-- Copies what is at a place, folders with all that is below them. -/
partial def copy (t : FileTree) (place : Place) : IO FileTree := do
  match ← kindAt? place with
  | some .dir =>
    let mut t := t.ensureFolder place
    for entry in ← (entryAt place).path.readDir do
      t ← copy t (place ++ [entry.fileName])
    return t
  | some .file => return t.put place (.file (← IO.FS.readBinFile (entryAt place).path))
  | some .symlink =>
    -- Where a link leads nowhere, so does its copy.
    let target := (← linkPlace? place).getD (place.dropLast ++ [place.getLastD "" ++ ".gone"])
    return t.put place (.link target.path)
  | _ => return t

/-- Goes along the steps of a path, copying what is met, and the whole of what it leads to. -/
partial def copyAlong (t : FileTree) (here : Place) : (steps : List String) → IO FileTree
  | [] => copy t here
  | "." :: rest => copyAlong t here rest
  | ".." :: rest => copyAlong t here.dropLast rest
  | name :: rest => do
    let place := here ++ [name]
    match ← kindAt? place with
    | some .dir => copyAlong (t.ensureFolder place) place rest
    | some .symlink =>
      let t ← copy t place
      match ← linkPlace? place with
      | some target => copyAlong t [] (target ++ rest)
      | none => return t
    | _ => if rest.isEmpty then copy t place else return t

/-- Runs a command line on the part of the disk that it asks for. -/
partial def runOnDisk (lookup : String → Option String) (args : List String) (t : FileTree)
    (tried : List String) : IO (Nat × List String) := do
  let wanted := (missingPaths lookup t args).filter (!tried.contains ·)
  if wanted.isEmpty then
    return run lookup t args
  let mut t := t
  for path in wanted do
    t ← copyAlong t (t.start path) (Path.components path)
  runOnDisk lookup args t (tried ++ wanted)

end Ebuild.Command

open Ebuild Command in
def main (args : List String) : IO UInt32 := do
  let values ← variableNames.mapM fun name => return (name, ← IO.getEnv name)
  let lookup (name : String) : Option String := (values.lookup name).join
  let current := Path.components (← IO.currentDir).toString
  let empty := (FileTree.empty.makeFolders [] current).1
  let (exit, lines) ← runOnDisk lookup args { empty with current } []
  lines.forM IO.println
  return exit.toUInt32

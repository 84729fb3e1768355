import Std.Data.HashMap
import Ebuild.Atom.Basic

/-!
# Atom index

Atoms under identifiers of the caller's choice. Atoms without wildcards in their names are found
by `category/name`, the others by trying each.
-/

namespace Ebuild

structure AtomIndex (α : Type) where
  literal : Std.HashMap String (Array (α × Atom)) := ∅
  wild : Array (α × Atom) := #[]

namespace AtomIndex

variable {α : Type}

def empty : AtomIndex α := {}

def isEmpty (index : AtomIndex α) : Bool := index.literal.isEmpty && index.wild.isEmpty

def size (index : AtomIndex α) : Nat :=
  index.literal.fold (fun total _ bucket => total + bucket.size) index.wild.size

def insert (index : AtomIndex α) (id : α) (atom : Atom) : AtomIndex α :=
  if atom.hasWildcard then
    { index with wild := index.wild.push (id, atom) }
  else
    let bucket := index.literal.getD atom.cpn #[]
    { index with literal := index.literal.insert atom.cpn (bucket.push (id, atom)) }

/-- Reads an expression and then inserts its atom. -/
def append [Glob.Engine] (index : AtomIndex α) (id : α) (expression : String) :
    Except Error (AtomIndex α) :=
  (index.insert id) <$> Atom.parse expression

/-- The identifiers of the atoms that accept a package, atoms without wildcards first. -/
def find (index : AtomIndex α) (p : Package) : List α :=
  let named := (index.literal.getD p.cpn #[]).toList.filter fun (_, atom) => atom.accepts p
  let wild := index.wild.toList.filter fun (_, atom) => atom.acceptsPackage p
  (named ++ wild).map Prod.fst

end AtomIndex

end Ebuild

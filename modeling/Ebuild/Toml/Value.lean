/-!
# TOML values

Values and the tables that hold them. A table remembers how it came about, because that decides
what may still be added to it.
-/

namespace Ebuild.Toml

inductive TableOrigin
  /-- By its own header, or as the top of the document. -/
  | header
  /-- On the way to the header of a table inside it. -/
  | implied
  /-- By a dotted key. -/
  | dotted
  /-- In braces, and complete. -/
  | inline
  deriving DecidableEq, Repr

inductive Value
  | string (text : String)
  | integer (value : Int)
  /-- A float as written. -/
  | float (text : String)
  | boolean (value : Bool)
  /-- A date or time as written. -/
  | moment (text : String)
  | array (items : List Value)
  /-- Tables of one name, each with its own header. -/
  | tables (items : List (List (String × Value)))
  | table (origin : TableOrigin) (entries : List (String × Value))

abbrev Entries := List (String × Value)

namespace Entries

/-- Puts a value at a key, in place of the one there. -/
def set (entries : Entries) (key : String) (value : Value) : Entries :=
  if entries.any fun (other, _) => other == key then
    entries.map fun (other, old) => if other == key then (other, value) else (other, old)
  else entries ++ [(key, value)]

def modifyLast (change : Entries → Option Entries) : List Entries → Option (List Entries)
  | [] => none
  | [last] => (change last).map fun last => [last]
  | first :: rest => (modifyLast change rest).map (first :: ·)

/-- Changes the table that a dotted key leads to, none if the key may not lead there. -/
def changeDotted (change : TableOrigin → Entries → Option Entries) :
    (path : List String) → TableOrigin → Entries → Option Entries
  | [], origin, entries => change origin entries
  | key :: path, _, entries =>
    match entries.lookup key with
    | none => do
      let inner ← changeDotted change path .dotted []
      return entries.set key (.table .dotted inner)
    | some (.tables items) => do
      let items ← modifyLast (changeDotted change path .header) items
      return entries.set key (.tables items)
    | some (.table .dotted inner) => do
      let inner ← changeDotted change path .dotted inner
      return entries.set key (.table .dotted inner)
    | some (.table .implied inner) => do
      let inner ← changeDotted change path .implied inner
      return entries.set key (.table .implied inner)
    | some _ => none

/-- Adds `path.key = value` to a table. A key without a path goes to the table itself, and one with
a path must lead to a table that dotted keys made. -/
def addDotted (origin : TableOrigin) (entries : Entries) (path : List String) (key : String)
    (value : Value) : Option Entries :=
  changeDotted (fun reached inner =>
    if path.isEmpty || reached = .dotted then
      if inner.any fun (other, _) => other == key then none else some (inner ++ [(key, value)])
    else none) path origin entries

/-- Changes the table that a header's path leads to. -/
def changeAt (change : Entries → Option Entries) : (path : List String) → Entries → Option Entries
  | [], entries => change entries
  | key :: path, entries =>
    match entries.lookup key with
    | none => do
      let inner ← changeAt change path []
      return entries.set key (.table .implied inner)
    | some (.tables items) => do
      let items ← modifyLast (changeAt change path) items
      return entries.set key (.tables items)
    | some (.table .inline _) => none
    | some (.table origin inner) => do
      let inner ← changeAt change path inner
      return entries.set key (.table origin inner)
    | some _ => none

/-- Adds the table of the header `[path.key]`. -/
def addTable (entries : Entries) (path : List String) (key : String)
    (fill : Entries → Option Entries) : Option Entries :=
  changeAt (fun outer =>
    match outer.lookup key with
    | none => do return outer ++ [(key, .table .header (← fill []))]
    | some (.table .implied inner) => do return outer.set key (.table .header (← fill inner))
    | some _ => none) path entries

/-- Adds a table under the header `[[path.key]]`. -/
def addTableOf (entries : Entries) (path : List String) (key : String)
    (fill : Entries → Option Entries) : Option Entries :=
  changeAt (fun outer =>
    match outer.lookup key with
    | none => do return outer ++ [(key, .tables [← fill []])]
    | some (.tables items) => do return outer.set key (.tables (items ++ [← fill []]))
    | some _ => none) path entries

end Entries

end Ebuild.Toml

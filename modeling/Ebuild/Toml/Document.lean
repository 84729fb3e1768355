import Ebuild.Toml.Scalar
import Ebuild.Toml.Text

/-!
# TOML documents

`document?` reads a whole document into the entries of its top table.
-/

namespace Ebuild.Toml

/-! ### Values -/

/-- Items up to a closing bracket, with commas between them and maybe one after the last. -/
def arrayItems (item : Reader Value) (fuel : Nat) : Reader (List Value) := fun cs =>
  match fuel, skipTrivia cs.length cs with
  | 0, _ => none
  | _, ']' :: rest => some ([], rest)
  | fuel + 1, cs => do
    let (first, rest) ← item cs
    match skipTrivia rest.length rest with
    | ']' :: rest => return ([first], rest)
    | ',' :: rest => do
      let (more, rest) ← arrayItems item fuel rest
      return (first :: more, rest)
    | _ => none

def keyValue (item : Reader Value) : Reader (List String × String × Value) := fun cs => do
  let ((path, last), rest) ← key nestingLimit cs
  match rest with
  | '=' :: rest => do
    let (value, rest) ← item (skipSpace rest)
    return ((path, last, value), rest)
  | _ => none

/-- The pairs of a table in braces, of which there is at least one. -/
def inlinePairs (item : Reader Value) (fuel : Nat) : Reader (List (List String × String × Value)) :=
  fun cs =>
    match fuel with
    | 0 => none
    | fuel + 1 => do
      let (pair, rest) ← keyValue item cs
      match skipSpace rest with
      | '\x7d' :: rest => return ([pair], rest)
      | ',' :: rest => do
        let (more, rest) ← inlinePairs item fuel rest
        return (pair :: more, rest)
      | _ => none

def fill (origin : TableOrigin) (pairs : List (List String × String × Value)) (entries : Entries) :
    Option Entries :=
  pairs.foldlM (fun entries (path, key, value) => entries.addDotted origin path key value) entries

/-- A value, with at most `depth` brackets and braces inside each other. -/
def value : (depth : Nat) → Reader Value
  | 0, cs => plain cs
  | depth + 1, cs =>
    match cs with
    | '[' :: rest => do
      let (items, rest) ← arrayItems (value depth) (rest.length + 1) rest
      return (.array items, rest)
    | '\x7b' :: rest =>
      match skipSpace rest with
      | '\x7d' :: rest => some (.table .inline [], rest)
      | rest => do
        let (pairs, rest) ← inlinePairs (value depth) (rest.length + 1) rest
        let entries ← fill .inline pairs []
        return (.table .inline entries, rest)
    | cs => plain cs
where
  plain (cs : List Char) : Option (Value × List Char) :=
    match cs with
    | '\x22' :: _ | '\x27' :: _ => (string cs).map fun (s, rest) => (.string s, rest)
    | _ =>
      let run := scalarRun cs
      (scalarOf? run).map fun v => (v, cs.drop run.length)

/-! ### Sections -/

def pairs (fuel : Nat) : Reader (List (List String × String × Value)) := fun cs =>
  let cs := skipTrivia cs.length cs
  match fuel, cs with
  | 0, _ => none
  | _, [] => some ([], [])
  | _, '[' :: _ => some ([], cs)
  | fuel + 1, cs => do
    let (pair, rest) ← keyValue (value (nestingLimit - 1)) cs
    let rest ← lineEnd? rest
    let (more, rest) ← pairs fuel rest
    return (pair :: more, rest)

/-- The rest after the given brackets and the end of their line. -/
def afterHeader? (brackets : List Char) (cs : List Char) : Option (List Char) :=
  let cs := skipSpace cs
  if brackets.isPrefixOf cs then lineEnd? (cs.drop brackets.length) else none

def sections (fuel : Nat) (entries : Entries) (cs : List Char) : Option Entries :=
  match fuel, cs with
  | 0, _ => none
  | _, [] => some entries
  | fuel + 1, '[' :: '[' :: cs => do
    let ((path, last), rest) ← key nestingLimit cs
    let rest ← afterHeader? [']', ']'] rest
    let (body, rest) ← pairs (rest.length + 1) rest
    sections fuel (← entries.addTableOf path last (fill .header body)) rest
  | fuel + 1, '[' :: cs => do
    let ((path, last), rest) ← key nestingLimit cs
    let rest ← afterHeader? [']'] rest
    let (body, rest) ← pairs (rest.length + 1) rest
    sections fuel (← entries.addTable path last (fill .header body)) rest
  | _, _ => none

/-- The entries of a document, a byte order mark at its start ignored. -/
def document? (text : String) : Option Entries := do
  let cs := text.toList
  let cs := if cs.head? = some '\ufeff' then cs.tail else cs
  let (body, rest) ← pairs (cs.length + 1) cs
  sections (rest.length + 1) (← fill .header body []) rest

end Ebuild.Toml

/-!
# TOML text

White space, comments, strings and keys. Every reader gives what it read and the rest of the
document, none if what stands there is refused.
-/

namespace Ebuild.Toml

abbrev Reader (α : Type) := List Char → Option (α × List Char)

/-! ### Between the values -/

def isSpace (c : Char) : Bool := c == ' ' || c == '\t'

def skipSpace (cs : List Char) : List Char := cs.dropWhile isSpace

/-- A character of a comment or a string: a tab, or no control character. -/
def isTextChar (c : Char) : Bool := c == '\t' || (32 ≤ c.toNat && c.toNat != 127)

/-- The rest after a line feed, which may have a carriage return before it. -/
def newline? : List Char → Option (List Char)
  | '\n' :: cs => some cs
  | '\r' :: '\n' :: cs => some cs
  | _ => none

def skipComment : List Char → List Char
  | '#' :: cs => cs.dropWhile isTextChar
  | cs => cs

/-- The rest after the end of a line. Only blanks and a comment may stand before it. -/
def lineEnd? (cs : List Char) : Option (List Char) :=
  match skipComment (skipSpace cs) with
  | [] => some []
  | rest => newline? rest

def skipTrivia (fuel : Nat) (cs : List Char) : List Char :=
  match fuel with
  | 0 => cs
  | fuel + 1 =>
    let rest := skipComment (skipSpace cs)
    match newline? rest with
    | some rest => skipTrivia fuel rest
    | none => rest

/-! ### Strings -/

def hexDigit? (c : Char) : Option Nat :=
  if c.isDigit then some (c.toNat - '0'.toNat)
  else if 'a' ≤ c && c ≤ 'f' then some (c.toNat - 'a'.toNat + 10)
  else if 'A' ≤ c && c ≤ 'F' then some (c.toNat - 'A'.toNat + 10)
  else none

/-- The character of exactly `count` hexadecimal digits. -/
def scalar? (count : Nat) : Reader Char := fun cs => do
  let digits ← (cs.take count).mapM hexDigit?
  let n := digits.foldl (fun n d => 16 * n + d) 0
  if h : digits.length = count ∧ n.isValidChar then some (Char.ofNatAux n h.2, cs.drop count)
  else none

def escape? : Reader Char
  | 'b' :: cs => some ('\x08', cs)
  | 't' :: cs => some ('\t', cs)
  | 'n' :: cs => some ('\n', cs)
  | 'f' :: cs => some ('\x0c', cs)
  | 'r' :: cs => some ('\r', cs)
  | '\x22' :: cs => some ('\x22', cs)
  | '\x5c' :: cs => some ('\x5c', cs)
  | 'u' :: cs => scalar? 4 cs
  | 'U' :: cs => scalar? 8 cs
  | _ => none

def skipLines (fuel : Nat) (cs : List Char) : List Char :=
  match fuel, newline? (skipSpace cs) with
  | fuel + 1, some rest => skipLines fuel rest
  | _, _ => skipSpace cs

/-- The rest after a backslash at the end of a line, up to the next text. -/
def continued? (cs : List Char) : Option (List Char) :=
  (newline? (skipSpace cs)).map fun rest => skipLines rest.length rest

/-- The body of a string in quotes, escapes taken or not, after the opening quote. -/
def shortBody (quote : Char) (escapes : Bool) (fuel : Nat) : Reader (List Char) := fun cs =>
  match fuel, cs with
  | 0, _ => none
  | _, [] => none
  | fuel + 1, c :: cs =>
    if c = quote then some ([], cs)
    else if c = '\x5c' && escapes then do
      let (e, cs) ← escape? cs
      let (body, rest) ← shortBody quote escapes fuel cs
      return (e :: body, rest)
    else if isTextChar c then do
      let (body, rest) ← shortBody quote escapes fuel cs
      return (c :: body, rest)
    else none

/-- The body of a string in triple quotes. Up to two quotes may stand before the closing three. -/
def longBody (quote : Char) (escapes : Bool) (fuel : Nat) : Reader (List Char) := fun cs =>
  match fuel, cs with
  | 0, _ => none
  | _, [] => none
  | fuel + 1, c :: cs =>
    let more (front : List Char) (rest : List Char) : Option (List Char × List Char) := do
      let (body, rest) ← longBody quote escapes fuel rest
      return (front ++ body, rest)
    if c = quote then
      let run := 1 + (cs.takeWhile (· == quote)).length
      if 3 ≤ run then some (List.replicate (min (run - 3) 2) quote, cs.drop (min run 5 - 1))
      else more [c] cs
    else if c = '\x5c' && escapes then
      match escape? cs, continued? cs with
      | some (e, rest), _ => more [e] rest
      | none, some rest => more [] rest
      | none, none => none
    else match newline? (c :: cs) with
      | some rest => more ['\n'] rest
      | none => if isTextChar c then more [c] cs else none

def shortString : Reader String := fun cs =>
  match cs with
  | '\x22' :: cs =>
    (shortBody '\x22' true (cs.length + 1) cs).map fun (s, r) => (String.ofList s, r)
  | '\x27' :: cs =>
    (shortBody '\x27' false (cs.length + 1) cs).map fun (s, r) => (String.ofList s, r)
  | _ => none

/-- A string of any of the four forms. A line feed right after three quotes is dropped. -/
def string : Reader String := fun cs =>
  let long (quote : Char) (escapes : Bool) (cs : List Char) : Option (String × List Char) :=
    let cs := (newline? cs).getD cs
    (longBody quote escapes (cs.length + 1) cs).map fun (s, r) => (String.ofList s, r)
  match cs with
  | '\x22' :: '\x22' :: '\x22' :: cs => long '\x22' true cs
  | '\x27' :: '\x27' :: '\x27' :: cs => long '\x27' false cs
  | cs => shortString cs

/-! ### Keys -/

def isBareChar (c : Char) : Bool := c.isAlphanum || c == '_' || c == '-'

def keyPart : Reader String := fun cs =>
  match cs with
  | '\x22' :: _ | '\x27' :: _ => shortString cs
  | _ =>
    let bare := cs.takeWhile isBareChar
    if bare.isEmpty then none else some (String.ofList bare, cs.drop bare.length)

/-- The most parts of a key and the most values inside each other, plus one. -/
def nestingLimit : Nat := 80

/-- A dotted key with fewer parts than `limit`, as the parts before the last one and the last. -/
def key : (limit : Nat) → Reader (List String × String)
  | 0, _ => none
  | 1, _ => none
  | limit + 2, cs => do
    let (part, rest) ← keyPart (skipSpace cs)
    match skipSpace rest with
    | '.' :: rest => do
      let ((path, last), rest) ← key (limit + 1) rest
      return ((part :: path, last), rest)
    | rest => return (([], part), rest)

end Ebuild.Toml

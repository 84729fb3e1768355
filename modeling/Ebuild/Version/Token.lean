/-!
# Version tokens

A version text is read as runs of digits, runs of letters and single stars. Separators end a run
and are dropped, and the first character of any other kind ends the reading.
-/

namespace Ebuild.Version

inductive CharKind
  | digit
  | letter
  | star
  | separator
  | other
  deriving DecidableEq, Repr

def CharKind.of (c : Char) : CharKind :=
  if c.isDigit then .digit
  else if c.isAlpha then .letter
  else if c = '*' then .star
  else if c = '.' ∨ c = '_' ∨ c = '-' ∨ c = '+' then .separator
  else .other

/-- The tokens of a version, from left to right. A digit or letter joins the token that starts
right after it when that is of the same kind. -/
def tokens : List Char → List (List Char)
  | [] => []
  | c :: cs =>
    match CharKind.of c with
    | .other => []
    | .separator => tokens cs
    | .star => ['*'] :: tokens cs
    | kind =>
      if cs.head?.map CharKind.of = some kind then (tokens cs).modifyHead (c :: ·)
      else [c] :: tokens cs

end Ebuild.Version

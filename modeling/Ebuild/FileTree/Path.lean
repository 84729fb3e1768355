/-!
# Paths

Paths as text. `join` appends one path to another, `components` lists the steps of a path.
-/

namespace Ebuild.Path

def isAbsolute (path : String) : Bool := path.toList.head? = some '/'

/-- `path` followed by `more`, which replaces it if absolute. -/
def join (path more : String) : String :=
  if isAbsolute more || path = "" then more
  else if path.toList.getLast? = some '/' then path ++ more
  else path ++ "/" ++ more

/-- The steps of a path. A slash at the end counts as a final `.`, so that the path must lead to a
folder. -/
def components (path : String) : List String :=
  let names := (path.toList.splitOn '/').filter (!·.isEmpty)
  let final := if path.toList.getLast? = some '/' then ["."] else []
  names.map String.ofList ++ final

end Ebuild.Path

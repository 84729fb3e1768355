/-!
# Lines

A line ends at a line feed, and a carriage return right before that line feed belongs to the
line's end. Text after the last line feed is a line unless it is empty.
-/

namespace Ebuild.Text

/-- A text without the carriage return at its end. -/
def chomp (cs : List Char) : List Char := if cs.getLast? = some '\r' then cs.dropLast else cs

def lines (cs : List Char) : List (List Char) :=
  let pieces := cs.splitOn '\n'
  pieces.dropLast.map chomp ++ pieces.getLast?.toList.filter (!·.isEmpty)

def lineList (s : String) : List String := (lines s.toList).map String.ofList

end Ebuild.Text

import Ebuild.Text.Hidden

/-!
# Quoted text

A text between double quotes, with backslash escapes for the quote, the backslash and everything
that does not show when printed.
-/

namespace Ebuild.Text

/-- A character as it stands between quotes. -/
def escaped (c : Char) : List Char :=
  if c = '\t' then ['\x5c', 't']
  else if c = '\n' then ['\x5c', 'n']
  else if c = '\r' then ['\x5c', 'r']
  else if c.toNat = 0 then ['\x5c', '0']
  else if c = '\x22' || c = '\x5c' then ['\x5c', c]
  else if isHidden c then
    ['\x5c', 'u', '\x7b'] ++ Nat.toDigits 16 c.toNat ++ ['\x7d']
  else [c]

def quoted (s : String) : String :=
  String.ofList ('\x22' :: s.toList.flatMap escaped ++ ['\x22'])

end Ebuild.Text

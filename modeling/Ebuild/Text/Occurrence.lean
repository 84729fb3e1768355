/-!
# Occurrences

`occursIn` decides whether a text stands somewhere in another one.
-/

namespace Ebuild.Text

def occursIn (text : List Char) : List Char → Bool
  | [] => text.isEmpty
  | c :: cs => text.isPrefixOf (c :: cs) || occursIn text cs

theorem occursIn_iff {text cs : List Char} : occursIn text cs = true ↔ text <:+: cs := by
  induction cs with
  | nil => rw [occursIn, List.isEmpty_iff, List.infix_nil]
  | cons c cs ih =>
    rw [occursIn, Bool.or_eq_true_iff, List.isPrefixOf_iff_prefix, ih, List.infix_cons_iff]

end Ebuild.Text

import Ebuild.Proofs.Atom.Parse
import Ebuild.Proofs.Glob.Pieces

/-!
# Globs as regular expressions

A glob of the fourth form stands for an anchored regular expression, its `translation`. The other
forms are shorter ways to the same answer on values of one line. `accepts_iff_spells` says what
each form accepts, and `matches_translation_iff` that the expression accepts what the pattern
spells, each character but the wildcards standing for itself.
-/

namespace Ebuild.Glob

/-! ### Regular expressions -/

namespace Expression

inductive Item
  /-- The start of the text. -/
  | start
  /-- The end of the text. -/
  | finish
  /-- One character other than a line feed. -/
  | any
  /-- A run of characters other than line feeds. -/
  | run
  | char (c : Char)
  deriving DecidableEq, Repr

/-- The characters that do not stand for themselves. -/
def isOperator (c : Char) : Bool :=
  ['\x5c', '.', '+', '*', '?', '(', ')', '|', '[', ']', '\x7b', '\x7d', '^', '$'].contains c

/-- The characters that may be escaped: operators, and what is special within brackets. -/
def isMeta (c : Char) : Bool := isOperator c || ['#', '&', '-', '~'].contains c

def escape (c : Char) : List Char := if isMeta c then ['\x5c', c] else [c]

/-- Reads an expression of these items, none if there is anything else in it. -/
def read? : List Char → Option (List Item)
  | [] => some []
  | '^' :: cs => (read? cs).map (.start :: ·)
  | '$' :: cs => (read? cs).map (.finish :: ·)
  | '.' :: '*' :: cs => (read? cs).map (.run :: ·)
  | '.' :: cs => (read? cs).map (.any :: ·)
  | '\x5c' :: c :: cs => if isMeta c then (read? cs).map (.char c :: ·) else none
  | c :: cs => if isOperator c then none else (read? cs).map (.char c :: ·)

/-- Whether items match at the place between the two parts of a text. -/
def MatchesAt : List Item → List Char → List Char → Prop
  | [], _, _ => True
  | .start :: items, before, after => before = [] ∧ MatchesAt items before after
  | .finish :: items, before, after => after = [] ∧ MatchesAt items before after
  | .any :: items, before, after =>
    ∃ c rest, after = c :: rest ∧ c ≠ '\n' ∧ MatchesAt items (before ++ [c]) rest
  | .run :: items, before, after =>
    ∃ cs rest, after = cs ++ rest ∧ (∀ c ∈ cs, c ≠ '\n') ∧ MatchesAt items (before ++ cs) rest
  | .char c :: items, before, after =>
    ∃ rest, after = c :: rest ∧ MatchesAt items (before ++ [c]) rest

/-- Whether an expression matches anywhere in a text. -/
def Matches (expression text : List Char) : Prop :=
  ∃ items, read? expression = some items ∧
    ∃ before after, text = before ++ after ∧ MatchesAt items before after

theorem read?_escape (c : Char) (cs : List Char) :
    read? (escape c ++ cs) = (read? cs).map (.char c :: ·) := by
  unfold escape
  split
  · rename_i special
    simp [read?, special]
  · rename_i plain
    have noOperator : isOperator c = false := by
      rw [Bool.not_eq_true, isMeta, Bool.or_eq_false_iff] at plain
      exact plain.1
    have other {d : Char} (operator : isOperator d = true) : c ≠ d := by
      rintro rfl
      rw [operator] at noOperator
      cases noOperator
    have start : c ≠ '^' := other rfl
    have finish : c ≠ '$' := other rfl
    have dot : c ≠ '.' := other rfl
    have backslash : c ≠ '\x5c' := other rfl
    simp [read?, dot, backslash, noOperator]

theorem star_not_mem_head_escape (c : Char) (cs : List Char) :
    (escape c ++ cs).head? ≠ some '*' := by
  unfold escape
  split
  · simp
  · rename_i plain
    simp only [List.singleton_append, List.head?_cons, ne_eq, Option.some.injEq]
    rintro rfl
    exact plain rfl

end Expression

/-! ### The expression of a glob -/

open Expression

/-- The expression of one character of a pattern. -/
def symbol (p : Char) : List Char :=
  if p = '*' then ['.', '*'] else if p = '?' then ['.'] else escape p

def translation (pattern : List Char) : List Char := '^' :: pattern.flatMap symbol ++ ['$']

/-- The item that `symbol` writes. -/
def item (p : Char) : Item := if p = '*' then .run else if p = '?' then .any else .char p

theorem head_symbols (pattern : List Char) :
    (pattern.flatMap symbol ++ ['$']).head? ≠ some '*' := by
  cases pattern with
  | nil => decide
  | cons p ps =>
    rw [List.flatMap_cons, List.append_assoc]
    unfold symbol
    split
    · simp
    · split
      · simp
      · exact star_not_mem_head_escape p _

theorem read?_symbol_append (p : Char) {cs : List Char} (next : cs.head? ≠ some '*') :
    read? (symbol p ++ cs) = (read? cs).map (item p :: ·) := by
  by_cases star : p = '*'
  · subst star
    rfl
  by_cases question : p = '?'
  · subst question
    cases cs with
    | nil => rfl
    | cons c cs =>
      -- no star follows, so the dot stands for a single character
      have noStar : c ≠ '*' := by simpa using next
      simp [symbol, item, read?, noStar]
  · simp only [symbol, item, star, question, if_false]
    exact read?_escape p cs

theorem read?_symbols (pattern : List Char) :
    read? (pattern.flatMap symbol ++ ['$']) = some (pattern.map item ++ [.finish]) := by
  induction pattern with
  | nil => rfl
  | cons p ps ih =>
    rw [List.flatMap_cons, List.append_assoc, read?_symbol_append p (head_symbols ps), ih]
    rfl

theorem matchesAt_item_of_ne_star {p : Char} (other : p ≠ '*') {items : List Item}
    {before after : List Char} :
    MatchesAt (item p :: items) before after ↔
      ∃ c rest, after = c :: rest ∧ (if isWildcard p then LineFree c else p = c) ∧
        MatchesAt items (before ++ [c]) rest := by
  by_cases question : p = '?'
  · subst question
    exact Iff.rfl
  · have literal : isWildcard p = false := by simp [isWildcard, other, question]
    simp only [item, other, question, if_false, literal, MatchesAt, Bool.false_eq_true]
    constructor
    · rintro ⟨rest, rfl, later⟩
      exact ⟨p, rest, rfl, rfl, later⟩
    · rintro ⟨_, rest, rfl, rfl, later⟩
      exact ⟨rest, rfl, later⟩

theorem matchesAt_items {pattern before after : List Char} :
    MatchesAt (pattern.map item ++ [.finish]) before after ↔ Spells LineFree pattern after := by
  induction pattern generalizing before after with
  | nil => simp [MatchesAt, spells_nil]
  | cons p ps ih =>
    rw [List.map_cons, List.cons_append]
    by_cases star : p = '*'
    · subst star
      simp only [item, if_true, MatchesAt, ih, spells_cons, piece_star]
      rfl
    · simp only [matchesAt_item_of_ne_star star, spells_cons_of_ne_star star, ih]

theorem matches_translation_iff {pattern value : List Char} :
    Matches (translation pattern) value ↔ Spells LineFree pattern value := by
  have read : read? (translation pattern) = some (.start :: (pattern.map item ++ [.finish])) := by
    rw [translation, List.cons_append, Expression.read?, read?_symbols]
    rfl
  constructor
  · rintro ⟨items, same, before, after, rfl, atStart⟩
    rw [read] at same
    cases same
    obtain ⟨rfl, later⟩ := atStart
    exact matchesAt_items.1 later
  · intro spells
    exact ⟨_, read, [], value, rfl, rfl, matchesAt_items.2 spells⟩

/-! ### The four forms -/

/-- Whether a pattern is neither a lone star, nor without wildcards, nor so before a final star. -/
def NeedsExpression (pattern : List Char) : Prop :=
  pattern ≠ ['*'] ∧ pattern.any isWildcard = true ∧
    ¬ ∃ front, pattern = front ++ ['*'] ∧ front.any isWildcard = false

inductive FormOf : List Char → Glob → Prop
  | any : FormOf ['*'] any
  | exact {cs : List Char} (literal : cs.any isWildcard = false) :
    FormOf cs (exact (String.ofList cs))
  | stem {front : List Char} (literal : front.any isWildcard = false) :
    FormOf (front ++ ['*']) (stem (String.ofList front))
  | pattern {cs : List Char} (needs : NeedsExpression cs) : FormOf cs (pattern (String.ofList cs))

section
variable [Engine]

/-- Only a pattern of the fourth form goes to the engine. -/
theorem parse_cases (cs : List Char) :
    (∃ glob, FormOf cs glob ∧ ¬ NeedsExpression cs ∧ parse (String.ofList cs) = .ok glob) ∨
      NeedsExpression cs ∧ parse (String.ofList cs) =
        if Engine.compiles (String.ofList cs) then .ok (pattern (String.ofList cs))
        else .error (.oversizedGlob (String.ofList cs)) := by
  have star : String.ofList cs = "*" ↔ cs = ['*'] := by
    rw [← String.toList_inj, String.toList_ofList]
    rfl
  simp only [parse, hasWildcard, String.toList_ofList, star]
  split
  · rename_i same
    subst same
    exact .inl ⟨_, .any, fun needs => needs.1 rfl, rfl⟩
  · rename_i notStar
    split
    · rename_i literal
      have literal : cs.any isWildcard = false := by simpa using literal
      exact .inl ⟨_, .exact literal, fun needs => by simp [needs.2.1] at literal, rfl⟩
    · rename_i wild
      split
      · rename_i front cut
        obtain ⟨rfl, literal⟩ := stem?_eq_some_iff.1 cut
        exact .inl ⟨_, .stem literal, fun needs => needs.2.2 ⟨front, rfl, literal⟩, rfl⟩
      · rename_i noStem
        refine .inr ⟨⟨notStar, by simpa using wild, ?_⟩, rfl⟩
        rintro ⟨front, same, literal⟩
        rw [stem?_eq_some_iff.2 ⟨same, literal⟩] at noStem
        cases noStem

theorem formOf_parse {text : String} {glob : Glob} (read : parse text = .ok glob) :
    FormOf text.toList glob := by
  rw [← text.ofList_toList] at read
  rcases parse_cases text.toList with ⟨glob', form, -, same⟩ | ⟨needs, same⟩
  · rw [same] at read
    cases read
    exact form
  · rw [same] at read
    split at read
    · cases read
      exact .pattern needs
    · cases read

theorem exists_parse_iff {text : String} :
    (∃ glob, parse text = .ok glob) ↔
      (NeedsExpression text.toList → Engine.compiles text = true) := by
  rcases parse_cases text.toList with ⟨glob, -, simple, same⟩ | ⟨needs, same⟩
  · rw [String.ofList_toList] at same
    exact iff_of_true ⟨glob, same⟩ fun needs => absurd needs simple
  · rw [String.ofList_toList] at same
    rw [same]
    by_cases taken : Engine.compiles text = true
    · simp [taken]
    · simp [taken, needs]

end

theorem FormOf.accepts_iff {cs : List Char} {glob : Glob} (form : FormOf cs glob) (value : String) :
    glob.accepts value = true ↔
      Spells (fun c => NeedsExpression cs → c ≠ '\n') cs value.toList := by
  cases form with
  | any =>
    have spells : Spells (fun c => NeedsExpression ['*'] → c ≠ '\n') ['*'] value.toList :=
      spells_cons.2 ⟨value.toList, [], by simp, .run fun c _ needs => absurd rfl needs.1,
        spells_nil.2 rfl⟩
    exact iff_of_true rfl spells
  | exact literal =>
    rw [spells_literal literal, accepts, decide_eq_true_iff, ← String.toList_inj,
      String.toList_ofList, eq_comm]
  | @stem front literal =>
    have simple : ¬ NeedsExpression (front ++ ['*']) := fun needs =>
      needs.2.2 ⟨front, rfl, literal⟩
    rw [accepts, String.toList_ofList, List.isPrefixOf_iff_prefix]
    simp only [spells_append, spells_literal literal]
    constructor
    · rintro ⟨back, split⟩
      exact ⟨front, back, split.symm, rfl, spells_cons.2 ⟨back, [], by simp,
        .run fun c _ needs => absurd needs simple, spells_nil.2 rfl⟩⟩
    · rintro ⟨_, back, split, rfl, -⟩
      exact ⟨back, split.symm⟩
  | pattern needs =>
    rw [accepts, String.toList_ofList, covers_iff]
    constructor
    · exact fun spells => spells.mono fun c _ free _ => free
    · exact fun spells => spells.mono fun c _ free => free needs

/-- A pattern accepts what it spells, and in the fourth form no wildcard takes a line feed. Its
expression gives the same answer in this form, and in the others on values of one line. -/
theorem accepts_iff_spells [Engine] (pattern : String) :
    ((∃ glob, parse pattern = .ok glob) ↔
      (NeedsExpression pattern.toList → Engine.compiles pattern = true)) ∧
    ∀ glob, parse pattern = .ok glob → ∀ value : String,
      (glob.accepts value = true ↔
        Spells (fun c => NeedsExpression pattern.toList → c ≠ '\n') pattern.toList value.toList) ∧
      (NeedsExpression pattern.toList ∨ '\n' ∉ value.toList →
        (glob.accepts value = true ↔ Matches (translation pattern.toList) value.toList)) ∧
      acceptsText pattern value = glob.accepts value := by
  refine ⟨exists_parse_iff, fun glob read value => ?_⟩
  have meaning := (formOf_parse read).accepts_iff value
  refine ⟨meaning, fun agree => ?_, by rw [acceptsText, read]⟩
  rw [meaning, matches_translation_iff]
  constructor
  · intro spells
    refine spells.mono fun c mem free => ?_
    rcases agree with needs | oneLine
    · exact free needs
    · exact fun feed => oneLine (feed ▸ mem)
  · exact fun spells => spells.mono fun c _ free _ => free

/-- The dot stands for itself, and what the star takes is not determined. -/
theorem accepts_iff_spells_dotted :
    (∃ glob, parse "a.b*?" = .ok glob) ∧ NeedsExpression "a.b*?".toList ∧
      Engine.compiles "a.b*?" = true ∧
      acceptsText "a.b*?" "a.bbb" = true ∧ acceptsText "a.b*?" "axbbb" = false ∧
      Matches (translation "a.b*?".toList) "a.bbb".toList ∧
      ¬ Matches (translation "a.b*?".toList) "axbbb".toList := by
  have taken : Engine.compiles "a.b*?" = true := by decide +kernel
  have needs : NeedsExpression "a.b*?".toList := by
    refine ⟨by decide, by decide, ?_⟩
    rintro ⟨front, same, -⟩
    have last := congrArg List.getLast? same
    rw [List.getLast?_concat] at last
    revert last
    decide
  obtain ⟨glob, read⟩ := (accepts_iff_spells "a.b*?").1.2 fun _ => taken
  obtain ⟨-, expression, same⟩ := (accepts_iff_spells "a.b*?").2 glob read "a.bbb"
  obtain ⟨-, expression', same'⟩ := (accepts_iff_spells "a.b*?").2 glob read "axbbb"
  have dot : acceptsText "a.b*?" "a.bbb" = true := by decide +kernel
  have other : acceptsText "a.b*?" "axbbb" = false := by decide +kernel
  refine ⟨⟨glob, read⟩, needs, taken, dot, other, ?_, ?_⟩
  · exact (expression (.inl needs)).1 (same.symm.trans dot)
  · intro expressed
    have accepted := same'.trans ((expression' (.inl needs)).2 expressed)
    rw [other] at accepted
    cases accepted

end Ebuild.Glob

import Mathlib.Data.List.TakeWhile
import Ebuild.Text.Blank

/-!
# Trimmed texts and words

A text that neither starts nor ends with white space is trimmed. Words are solid, which is to say
that they are not empty and hold no white space, and solid texts joined by blanks are the words of
the result.
-/

namespace Ebuild.Text

theorem isBlank_of_ascii {c : Char} (low : 33 ≤ c.toNat) (high : c.toNat < 127) :
    isBlank c = false := by
  simp only [isBlank, Bool.or_eq_false_iff, Bool.and_eq_false_iff, decide_eq_false_iff_not,
    beq_eq_false_iff_ne]
  omega

/-! ### Trimming -/

theorem dropWhile_blank_of_head {cs : List Char} (first : ∀ c ∈ cs.head?, isBlank c = false) :
    cs.dropWhile isBlank = cs := by
  cases cs with
  | nil => rfl
  | cons c cs => exact List.dropWhile_cons_of_neg (by simp [first c rfl])

theorem trim_eq_self {cs : List Char} (first : ∀ c ∈ cs.head?, isBlank c = false)
    (last : ∀ c ∈ cs.getLast?, isBlank c = false) : trim cs = cs := by
  rw [trim, trimRight, dropWhile_blank_of_head first, dropWhile_blank_of_head (by simpa using last),
    List.reverse_reverse]

theorem trim_of_solid {cs : List Char} (solid : ∀ c ∈ cs, isBlank c = false) : trim cs = cs :=
  trim_eq_self (fun c mem => solid c (List.mem_of_mem_head? mem))
    fun c mem => solid c (List.mem_of_getLast? mem)

theorem head_dropWhile_blank (cs : List Char) :
    ∀ c ∈ (cs.dropWhile isBlank).head?, isBlank c = false := by
  intro c mem
  have := List.head?_dropWhile_not isBlank cs
  rw [Option.mem_def.1 mem] at this
  simpa using this

theorem getLast_trim (cs : List Char) : ∀ c ∈ (trim cs).getLast?, isBlank c = false := by
  rw [trim, trimRight, List.getLast?_reverse]
  exact head_dropWhile_blank _

theorem trimRight_prefix (cs : List Char) : trimRight cs <+: cs := by
  have := List.reverse_prefix.2 (List.dropWhile_suffix (l := cs.reverse) isBlank)
  rwa [List.reverse_reverse] at this

theorem head_trim (cs : List Char) : ∀ c ∈ (trim cs).head?, isBlank c = false := by
  intro c mem
  refine head_dropWhile_blank cs c ?_
  obtain ⟨rest, split⟩ := trimRight_prefix (cs.dropWhile isBlank)
  rw [← split, List.head?_append]
  rw [trim] at mem
  simp [Option.mem_def.1 mem]

theorem trim_trim (cs : List Char) : trim (trim cs) = trim cs :=
  trim_eq_self (head_trim cs) (getLast_trim cs)

theorem trimmed_eq_self {cs : List Char} (trimmed : trim cs = cs) :
    Text.trimmed (String.ofList cs) = String.ofList cs := by
  rw [Text.trimmed, String.toList_ofList, trimmed]

theorem trim_toList {s : String} (trimmed : Text.trimmed s = s) : trim s.toList = s.toList := by
  have same := congrArg String.toList trimmed
  rwa [Text.trimmed, String.toList_ofList] at same

/-! ### Trimming two texts put together -/

theorem trimRight_append {front : List Char} (rest : List Char)
    (last : ∀ c ∈ front.getLast?, isBlank c = false) :
    trimRight (front ++ rest) = front ++ trimRight rest := by
  have kept : front.reverse.dropWhile isBlank = front.reverse :=
    dropWhile_blank_of_head (by rwa [List.head?_reverse])
  rw [trimRight, trimRight, List.reverse_append, List.dropWhile_append]
  split
  next empty =>
    rw [List.isEmpty_iff.1 empty, kept, List.reverse_reverse, List.reverse_nil, List.append_nil]
  next => rw [List.reverse_append, List.reverse_reverse]

theorem trim_append {front : List Char} (rest : List Char) (nonempty : front ≠ [])
    (solid : ∀ c ∈ front, isBlank c = false) : trim (front ++ rest) = front ++ trimRight rest := by
  have first : ∀ c ∈ (front ++ rest).head?, isBlank c = false := by
    intro c mem
    obtain ⟨d, ds, rfl⟩ := List.exists_cons_of_ne_nil nonempty
    exact solid c (List.mem_of_mem_head? mem)
  rw [trim, dropWhile_blank_of_head first,
    trimRight_append rest fun c mem => solid c (List.mem_of_getLast? mem)]

theorem trim_blank_append {front : List Char} (rest : List Char)
    (blank : ∀ c ∈ front, isBlank c = true) : trim (front ++ rest) = trim rest := by
  rw [trim, List.dropWhile_append_of_pos blank, trim]

theorem trim_append_blank {back : List Char} (front : List Char)
    (blank : ∀ c ∈ back, isBlank c = true) : trim (front ++ back) = trim front := by
  have trimRight_blank (cs : List Char) : trimRight (cs ++ back) = trimRight cs := by
    rw [trimRight, List.reverse_append,
      List.dropWhile_append_of_pos fun c mem => blank c (List.mem_reverse.1 mem), trimRight]
  rw [trim, List.dropWhile_append]
  split
  next empty =>
    rw [List.dropWhile_eq_nil_iff.2 blank, trim, List.isEmpty_iff.1 empty]
  next => exact trimRight_blank _

/-- A first character that is not white space stays the first. -/
theorem mem_head_trimRight_iff {c : Char} {cs : List Char} (solid : isBlank c = false) :
    c ∈ (trimRight cs).head? ↔ c ∈ cs.head? := by
  constructor
  · intro head
    obtain ⟨rest, split⟩ := trimRight_prefix cs
    rw [← split, List.head?_append, Option.mem_def.1 head]
    rfl
  · intro head
    obtain ⟨cs, rfl⟩ := List.head?_eq_some_iff.1 head
    have last : ∀ d ∈ [c].getLast?, isBlank d = false := by
      rintro d mem
      cases mem
      exact solid
    have kept := trimRight_append cs last
    rw [← List.singleton_append, kept]
    rfl

/-! ### Words -/

/-- A word: not empty and without white space. -/
def Solid (cs : List Char) : Prop := cs ≠ [] ∧ ∀ c ∈ cs, isBlank c = false

theorem words_cons_blank {b : Char} {cs : List Char} (blank : isBlank b = true) :
    words (b :: cs) = words cs := by
  simp [words, List.splitOnP_cons_eq_if_modifyHead, blank]

theorem words_solid {cs : List Char} (solid : Solid cs) : words cs = [cs] := by
  simp [words, List.splitOnP_eq_singleton solid.2, solid.1]

theorem words_append_blank {w cs : List Char} {b : Char} (solid : Solid w)
    (blank : isBlank b = true) : words (w ++ b :: cs) = w :: words cs := by
  simp [words, List.splitOnP_append_cons_of_forall_mem solid.2 b blank cs, solid.1]

theorem not_separator_of_mem_splitOnP (separator : Char → Bool) (cs : List Char) :
    ∀ piece ∈ cs.splitOnP separator, ∀ c ∈ piece, separator c = false := by
  induction cs with
  | nil => simp
  | cons c cs ih =>
    rw [List.splitOnP_cons_eq_if_modifyHead]
    split
    next => simpa using ih
    next solid =>
      obtain ⟨w, ws, split⟩ := List.exists_cons_of_ne_nil (List.splitOnP_ne_nil separator cs)
      rw [split, List.forall_mem_cons] at ih
      rw [split, List.modifyHead_cons, List.forall_mem_cons, List.forall_mem_cons]
      exact ⟨⟨by simpa using solid, ih.1⟩, ih.2⟩

theorem not_mem_of_mem_splitOn {separator : Char} {cs piece : List Char}
    (mem : piece ∈ cs.splitOn separator) : separator ∉ piece := by
  intro inside
  rw [List.splitOn_eq_splitOnP] at mem
  simpa using not_separator_of_mem_splitOnP _ cs piece mem separator inside

theorem solid_of_mem_words {cs : List Char} : ∀ w ∈ words cs, Solid w := by
  intro w mem
  simp only [words, List.mem_filter, Bool.not_eq_true', List.isEmpty_eq_false_iff] at mem
  exact ⟨mem.2, not_separator_of_mem_splitOnP isBlank cs w mem.1⟩

theorem words_dropWhile_blank (cs : List Char) : words (cs.dropWhile isBlank) = words cs := by
  induction cs with
  | nil => rfl
  | cons c cs ih =>
    cases blank : isBlank c with
    | true => rw [List.dropWhile_cons_of_pos blank, ih, words_cons_blank blank]
    | false => rw [List.dropWhile_cons_of_neg (by simp [blank])]

/-- The first word of a text that starts with one, and what follows it. -/
theorem words_of_head {cs : List Char} (nonempty : cs ≠ [])
    (first : ∀ c ∈ cs.head?, isBlank c = false) :
    Solid (cs.takeWhile fun c => !isBlank c) ∧
      words cs =
        (cs.takeWhile fun c => !isBlank c) :: words (cs.dropWhile fun c => !isBlank c) := by
  have solid : Solid (cs.takeWhile fun c => !isBlank c) := by
    refine ⟨?_, ?_⟩
    · obtain ⟨c, cs, rfl⟩ := List.exists_cons_of_ne_nil nonempty
      rw [List.takeWhile_cons_of_pos (by simp [first c rfl])]
      exact List.cons_ne_nil _ _
    · intro c mem
      simpa using List.all_eq_true.1 List.all_takeWhile c mem
  refine ⟨solid, ?_⟩
  have parts := List.takeWhile_append_dropWhile (p := fun c => !isBlank c) (l := cs)
  cases rest : cs.dropWhile fun c => !isBlank c with
  | nil =>
    rw [rest, List.append_nil] at parts
    conv => lhs; rw [← parts]
    rw [words_solid solid]
    rfl
  | cons b ds =>
    have blank : isBlank b = true := by
      have := List.head?_dropWhile_not (fun c => !isBlank c) cs
      rw [rest] at this
      simpa using this
    rw [rest] at parts
    conv => lhs; rw [← parts]
    rw [words_append_blank solid blank, words_cons_blank blank]

theorem words_ne_nil {cs : List Char} {c : Char} (mem : c ∈ cs) (solid : isBlank c = false) :
    words cs ≠ [] := by
  have nonempty : cs.dropWhile isBlank ≠ [] := by
    intro none
    have parts := List.takeWhile_append_dropWhile (p := isBlank) (l := cs)
    rw [none, List.append_nil] at parts
    rw [← parts] at mem
    rw [List.all_eq_true.1 List.all_takeWhile c mem] at solid
    cases solid
  rw [← words_dropWhile_blank, (words_of_head nonempty (head_dropWhile_blank cs)).2]
  exact List.cons_ne_nil _ _

theorem words_intercalate {ws : List (List Char)} (solid : ∀ w ∈ ws, Solid w) :
    words ([' '].intercalate ws) = ws := by
  induction ws with
  | nil => rfl
  | cons w ws ih =>
    cases ws with
    | nil => simpa using words_solid (solid w (by simp))
    | cons v ws =>
      rw [List.intercalate_cons_cons, List.append_assoc, List.singleton_append,
        words_append_blank (solid w (by simp)) rfl,
        ih fun u mem => solid u (List.mem_cons_of_mem _ mem)]

theorem wordList_intercalate {ws : List String} (solid : ∀ w ∈ ws, Solid w.toList) :
    wordList (" ".intercalate ws) = ws := by
  have chars : ∀ w ∈ ws.map String.toList, Solid w := by
    intro w mem
    obtain ⟨word, inWords, rfl⟩ := List.mem_map.1 mem
    exact solid word inWords
  rw [wordList, String.toList_intercalate, show " ".toList = [' '] from rfl,
    words_intercalate chars, List.map_map]
  simp

/-- Only words come back from a text of words joined by blanks. -/
theorem wordList_intercalate_iff {ws : List String} :
    wordList (" ".intercalate ws) = ws ↔ ∀ w ∈ ws, Solid w.toList := by
  constructor
  · intro same w mem
    rw [← same] at mem
    obtain ⟨word, inWords, rfl⟩ := List.mem_map.1 mem
    rw [String.toList_ofList]
    exact solid_of_mem_words word inWords
  · exact wordList_intercalate

end Ebuild.Text

import Ebuild.Proofs.Atom.Readers
import Ebuild.Proofs.Version.Bytes
import Ebuild.Proofs.Version.Pieces

/-!
# The version in an expression

What the grammar takes for a version holds no character that ends the reading of a version, so the
components of the version are its whole text without the separators. `text_cut_into_pieces` says so
beside what the tokens of any text are.
-/

namespace Ebuild
open Grammar

def Shape.version? : Shape → Option (List Char)
  | versioned _ _ _ version | qualified _ _ _ version _ _ => some version
  | basic _ _ | slotted _ _ _ => none

/-- The version has this text, and its components joined are the text without the separators. -/
def Version.ReadInFull (version : List Char) : Prop :=
  let v := Version.parse (String.ofList version)
  v.raw = String.ofList version ∧
    String.join v.components = String.ofList (version.filter fun c => !isSeparator c)

namespace Grammar
open Version

theorem isKnown_of_isVersionChar {c : Char} (char : isVersionChar c = true) :
    isKnown c = true := by
  simp only [isVersionChar, Char.isAlphanum, Bool.or_eq_true, beq_iff_eq] at char
  rcases char with ((((alpha | digit) | rfl) | rfl) | rfl) | rfl
  · simp [isKnown, alpha]
  · simp [isKnown, digit]
  all_goals rfl

theorem isKnown_of_isVersion {version : List Char} (isVersion : isVersion version = true) :
    ∀ c ∈ version, isKnown c = true := by
  intro c mem
  cases isVersion_iff.1 isVersion with
  | plain start body => exact isKnown_of_isVersionChar (versionChars_of_start start body c mem)
  | revised start body number =>
    rcases List.mem_append.1 mem with mem | mem
    · exact isKnown_of_isVersionChar (versionChars_of_start start body c mem)
    · rcases List.mem_cons.1 mem with rfl | mem
      · rfl
      · exact isKnown_of_isVersionChar (versionChars_of_number number c mem)

theorem readInFull_of_isVersion {version : List Char} (isVersion : isVersion version = true) :
    ReadInFull version := by
  have kept := flatten_tokens version
  rw [knownFront, List.takeWhile_eq_self_iff.2 (isKnown_of_isVersion isVersion)] at kept
  rw [ReadInFull, parse_of_isVersion isVersion, ← kept]
  refine ⟨rfl, String.toList_inj.1 ?_⟩
  rw [components, tokenList, String.toList_join, List.flatMap_map, List.flatMap_def]
  simp

theorem isVersion_of_read? {cs : List Char} {shape : Shape} {version : List Char}
    (read : Shape.read? cs = some shape) (has : shape.version? = some version) :
    isVersion version = true := by
  rcases Shape.exists_reader_of_read? read with read | read | read | read
  · obtain ⟨_, _, _, _, rfl, -, -, -, isVersion⟩ := Shape.versioned?_text_iff.1 read
    cases has
    exact isVersion
  · obtain ⟨_, _, rfl, -⟩ := Shape.basic?_eq_some_iff.1 read
    cases has
  · obtain ⟨_, _, _, rfl, -⟩ := Shape.slotted?_eq_some_iff.1 read
    cases has
  · obtain ⟨_, _, _, _, _, _, _, rfl, -, -, -, isVersion, -⟩ := Shape.qualified?_text_iff.1 read
    cases has
    exact isVersion

end Grammar

namespace Version

/-- The tokens of a text are the pieces of its longest front that a version can hold: none is empty,
and only separators are lost. They are found among its bytes without a cut inside a character. The
version that an expression or a package has in its text is read in full. -/
theorem text_cut_into_pieces (text : String) :
    tokens text.toList = pieces text.toList ∧
    (∀ piece ∈ tokens text.toList, piece ≠ []) ∧
    (tokens text.toList).flatten = (knownFront text.toList).filter (fun c => !isSeparator c) ∧
    (spans 0 (Text.bytes text)).mapM (fun span => slice? text span.1 span.2) =
      some ((tokens text.toList).map String.ofList) ∧
    (∀ shape version, Shape.read? text.toList = some shape → shape.version? = some version →
      ReadInFull version) ∧
    (∀ category name version, cpv? text.toList = some (category, name, version) →
      ReadInFull version) := by
  refine ⟨tokens_eq_pieces _, fun piece mem => (token_spec _ piece mem).1.ne_nil, flatten_tokens _,
    ?_, ?_, ?_⟩
  · have slices := slices_spans_append text "" text.toList (by simp)
    rwa [String.ofList_toList] at slices
  · intro shape version read has
    exact readInFull_of_isVersion (isVersion_of_read? read has)
  · intro category name version read
    exact readInFull_of_isVersion (cpv?_eq_some read).2.2.2

/-- The version of an atom, that of a package, and a text that ends at a character of two bytes. -/
theorem text_cut_into_pieces_of_slotted :
    let shape := Shape.qualified .greaterEqual "x11-libs".toList "gtk+".toList
      "2.24_rc1-r2".toList "2".toList []
    Shape.read? ">=x11-libs/gtk+-2.24_rc1-r2:2".toList = some shape ∧
      ReadInFull "2.24_rc1-r2".toList ∧
      cpv? "x11-libs/gtk+-3.0*-r1".toList =
        some ("x11-libs".toList, "gtk+".toList, "3.0*-r1".toList) ∧
      ReadInFull "3.0*-r1".toList ∧
      (spans 0 (Text.bytes "2.24_rc\u00e91")).mapM
        (fun span => slice? "2.24_rc\u00e91" span.1 span.2) = some ["2", "24", "rc"] := by
  intro shape
  have read : Shape.read? ">=x11-libs/gtk+-2.24_rc1-r2:2".toList = some shape := by decide +kernel
  have parts : cpv? "x11-libs/gtk+-3.0*-r1".toList =
      some ("x11-libs".toList, "gtk+".toList, "3.0*-r1".toList) := by decide +kernel
  obtain ⟨-, -, -, -, captured, -⟩ := text_cut_into_pieces ">=x11-libs/gtk+-2.24_rc1-r2:2"
  obtain ⟨-, -, -, -, -, alone⟩ := text_cut_into_pieces "x11-libs/gtk+-3.0*-r1"
  obtain ⟨-, -, -, slices, -⟩ := text_cut_into_pieces "2.24_rc\u00e91"
  exact ⟨read, captured shape _ read rfl, parts, alone _ _ _ parts, slices⟩

end Version

end Ebuild

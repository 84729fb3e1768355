import Ebuild.Proofs.Text.Bytes
import Ebuild.Proofs.Version.Token

/-!
# Tokens by their bytes

A reader that knows the bytes of a text only, and says of each token where its bytes start and stop.
`slices_spans_append` says that it stops and starts between characters, never inside one, and that
it finds the tokens of the text: a byte of a longer character ends the reading as the character
does.
-/

namespace Ebuild.Version
open Text

def byteKind (b : UInt8) : CharKind := CharKind.of (Char.ofUInt8 b)

/-- Where the bytes of the tokens start and stop, if the first byte is at `start`. -/
def spans (start : Nat) : List UInt8 → List (Nat × Nat)
  | [] => []
  | b :: bs =>
    match byteKind b with
    | .other => []
    | .separator => spans (start + 1) bs
    | .star => (start, start + 1) :: spans (start + 1) bs
    | kind =>
      let stop := start + 1 + (bs.takeWhile (byteKind · = kind)).length
      (start, stop) :: spans stop (bs.dropWhile (byteKind · = kind))
termination_by bs => bs.length
decreasing_by all_goals
  try have := (List.dropWhile_suffix (l := bs) (byteKind · = kind)).length_le
  rw [List.length_cons]
  omega

/-- The text between two bytes, none where one of them is inside a character. -/
def slice? (s : String) (start stop : Nat) : Option String :=
  if h : start ≤ stop ∧ (String.Pos.Raw.mk start).IsValid s ∧
      (String.Pos.Raw.mk stop).IsValid s then
    some (s.extract (s.pos _ h.2.1) (s.pos _ h.2.2))
  else none

theorem slice?_append (front piece rest : String) :
    slice? (front ++ (piece ++ rest)) front.utf8ByteSize (front.utf8ByteSize + piece.utf8ByteSize) =
      some piece := by
  have start : (String.Pos.Raw.mk front.utf8ByteSize).IsValid (front ++ (piece ++ rest)) :=
    String.Pos.Raw.isValid_iff_exists_append.2 ⟨front, piece ++ rest, rfl, rfl⟩
  have stop : (String.Pos.Raw.mk (front.utf8ByteSize + piece.utf8ByteSize)).IsValid
      (front ++ (piece ++ rest)) :=
    String.Pos.Raw.isValid_iff_exists_append.2
      ⟨front ++ piece, rest, String.append_assoc.symm, by simp [String.Pos.Raw.ext_iff]⟩
  rw [slice?, dif_pos ⟨Nat.le_add_right _ _, start, stop⟩, Option.some.injEq,
    ← String.toByteArray_inj]
  simp only [String.toByteArray_extract, String.offset_pos, String.toByteArray_append,
    ← String.size_toByteArray]
  calc (front.toByteArray ++ (piece.toByteArray ++ rest.toByteArray)).extract
        (front.toByteArray.size + 0) (front.toByteArray.size + piece.toByteArray.size)
    _ = (piece.toByteArray ++ rest.toByteArray).extract 0 piece.toByteArray.size :=
      ByteArray.extract_append_size_add
    _ = piece.toByteArray := ByteArray.extract_append_eq_left rfl

/-! ### Bytes of characters -/

theorem kind_of_wide {c : Char} (wide : 128 ≤ c.toNat) : CharKind.of c = .other := by
  apply Decidable.of_not_not
  intro known
  cases kind : CharKind.of c with
  | digit =>
    have := isDigit_iff.1 (isDigit_of_kind kind)
    omega
  | letter =>
    have := isAlpha_iff.1 (isAlpha_of_kind kind)
    omega
  | star =>
    obtain rfl := eq_star_of_kind kind
    exact absurd wide (by decide)
  | separator =>
    rcases eq_separator_of_kind kind with rfl | rfl | rfl | rfl
    all_goals exact absurd wide (by decide)
  | other => exact known kind

theorem toNat_ofUInt8 (b : UInt8) : (Char.ofUInt8 b).toNat = b.toNat := UInt8.toNat_toUInt32 b

theorem wide_of_first {c : Char} {b : UInt8} {bs : List UInt8} (wide : 128 ≤ c.toNat)
    (written : String.utf8EncodeChar c = b :: bs) : 128 ≤ b.toNat := by
  unfold String.utf8EncodeChar at written
  have wide : ¬ c.val.toNat ≤ 127 := Nat.not_le.2 wide
  simp only [if_neg wide] at written
  split at written
  · obtain ⟨rfl, -⟩ := List.cons.inj written
    rw [UInt8.toNat_ofNat']
    omega
  · split at written <;>
    · obtain ⟨rfl, -⟩ := List.cons.inj written
      rw [UInt8.toNat_ofNat']
      omega

/-- The first byte of a character means what the character does, and only characters that mean
nothing have more bytes. -/
theorem exists_bytes (c : Char) : ∃ b bs, String.utf8EncodeChar c = b :: bs ∧
    byteKind b = CharKind.of c ∧ (CharKind.of c ≠ .other → bs = []) := by
  rcases Nat.lt_or_ge c.toNat 128 with ascii | wide
  · refine ⟨UInt8.ofNat c.toNat, [], if_pos (Nat.le_of_lt_succ ascii), ?_, fun _ => rfl⟩
    have same : Char.ofUInt8 (UInt8.ofNat c.toNat) = c := by
      rw [← Char.toNat_inj, toNat_ofUInt8, UInt8.toNat_ofNat']
      omega
    rw [byteKind, same]
  · obtain ⟨b, bs, written⟩ := List.exists_cons_of_ne_nil (String.utf8EncodeChar_ne_nil (c := c))
    have first := wide_of_first wide written
    refine ⟨b, bs, written, ?_, fun known => absurd (kind_of_wide wide) known⟩
    rw [byteKind, kind_of_wide wide, kind_of_wide (by rwa [toNat_ofUInt8])]

section
variable {c : Char} {cs : List Char}

theorem head_bytes : (bytes (String.ofList cs)).head?.map byteKind = cs.head?.map CharKind.of := by
  cases cs with
  | nil => rfl
  | cons c cs =>
    obtain ⟨b, bs, written, kind, -⟩ := exists_bytes c
    rw [bytes_eq_flatMap, String.toList_ofList, List.flatMap_cons, written]
    exact congrArg some kind

theorem bytes_of_known (known : ∀ c ∈ cs, CharKind.of c ≠ .other) :
    ∀ b ∈ bytes (String.ofList cs), ∃ c ∈ cs, byteKind b = CharKind.of c := by
  intro b mem
  rw [bytes_eq_flatMap, String.toList_ofList, List.mem_flatMap] at mem
  obtain ⟨c, memC, memB⟩ := mem
  obtain ⟨first, bs, written, kind, single⟩ := exists_bytes c
  rw [written, single (known c memC), List.mem_singleton] at memB
  exact ⟨c, memC, memB ▸ kind⟩

theorem exists_byte (cs : List Char) (known : CharKind.of c ≠ .other) :
    ∃ b, bytes (String.ofList (c :: cs)) = b :: bytes (String.ofList cs) ∧
      byteKind b = CharKind.of c ∧ (String.ofList [c]).utf8ByteSize = 1 := by
  obtain ⟨b, bs, written, kind, single⟩ := exists_bytes c
  obtain rfl := single known
  have one : bytes (String.ofList [c]) = [b] := by
    rw [bytes_eq_flatMap, String.toList_ofList, List.flatMap_singleton, written]
  refine ⟨b, ?_, kind, ?_⟩
  · rw [← List.singleton_append, String.ofList_append, bytes_append, one, List.singleton_append]
  · rw [← length_bytes, one, List.length_singleton]

end

/-! ### The reader on bytes -/

section
variable {start : Nat} {b : UInt8} {bs : List UInt8}

theorem spans_other (kind : byteKind b = .other) : spans start (b :: bs) = [] := by
  rw [spans, kind]

theorem spans_separator (kind : byteKind b = .separator) :
    spans start (b :: bs) = spans (start + 1) bs := by
  rw [spans, kind]

theorem spans_star (kind : byteKind b = .star) :
    spans start (b :: bs) = (start, start + 1) :: spans (start + 1) bs := by
  rw [spans, kind]

theorem spans_run {kind : CharKind} {run rest : List UInt8} (joins : kind.Joins)
    (nonempty : run ≠ []) (same : ∀ b ∈ run, byteKind b = kind)
    (stop : rest.head?.map byteKind ≠ some kind) :
    spans start (run ++ rest) =
      (start, start + run.length) :: spans (start + run.length) rest := by
  obtain ⟨b, bs, rfl⟩ := List.exists_cons_of_ne_nil nonempty
  obtain ⟨first, later⟩ := List.forall_mem_cons.1 same
  obtain ⟨taken, dropped⟩ : (bs ++ rest).takeWhile (byteKind · = kind) = bs ∧
      (bs ++ rest).dropWhile (byteKind · = kind) = rest := by
    refine span_append (fun b mem => decide_eq_true (later b mem)) fun b head => ?_
    rw [decide_eq_false_iff_not]
    intro next
    exact stop (by rw [Option.mem_def.1 head, Option.map_some, next])
  rw [List.cons_append, spans, List.length_cons, Nat.add_comm bs.length, ← Nat.add_assoc]
  rcases joins with rfl | rfl <;> simp only [first, taken, dropped]

end

theorem mapM_cons_some {α β : Type} {f : α → Option β} {a : α} {as : List α} {b : β} {bs : List β}
    (first : f a = some b) (later : as.mapM f = some bs) : (a :: as).mapM f = some (b :: bs) := by
  rw [List.mapM_cons, first, later]
  rfl

/-- The tokens of what follows `front` in a text are between the bytes that the reader names. -/
theorem slices_spans_append (text front : String) (cs : List Char)
    (split : text = front ++ String.ofList cs) :
    (spans front.utf8ByteSize (bytes (String.ofList cs))).mapM
        (fun span => slice? text span.1 span.2) = some ((tokens cs).map String.ofList) := by
  have onward {front : String} {run rest : List Char}
      (split : text = front ++ String.ofList (run ++ rest)) :
      text = front ++ String.ofList run ++ String.ofList rest := by
    rw [split, String.ofList_append, String.append_assoc]
  have slice {front : String} (run rest : List Char)
      (split : text = front ++ String.ofList (run ++ rest)) :
      slice? text front.utf8ByteSize (front.utf8ByteSize + (String.ofList run).utf8ByteSize) =
        some (String.ofList run) := by
    rw [split, String.ofList_append]
    exact slice?_append front (String.ofList run) (String.ofList rest)
  induction cs using reading_induction generalizing front with
  | nil =>
    rw [show bytes (String.ofList []) = [] from rfl, spans]
    rfl
  | other c cs kind =>
    have first : (bytes (String.ofList (c :: cs))).head?.map byteKind = some .other :=
      head_bytes.trans (congrArg some kind)
    obtain ⟨b, head, kindB⟩ := Option.map_eq_some_iff.1 first
    obtain ⟨bs, written⟩ := List.head?_eq_some_iff.1 head
    rw [written, spans_other kindB, tokens_other kind]
    rfl
  | separator c cs kind ih =>
    obtain ⟨b, written, kindB, one⟩ := exists_byte cs (show CharKind.of c ≠ .other by simp [kind])
    have later := ih (front ++ String.ofList [c]) (onward split)
    rw [String.utf8ByteSize_append, one] at later
    rw [written, spans_separator (kindB.trans kind), tokens_separator kind, later]
  | star c cs kind ih =>
    obtain ⟨b, written, kindB, one⟩ := exists_byte cs (show CharKind.of c ≠ .other by simp [kind])
    obtain rfl := eq_star_of_kind kind
    have first := slice ['*'] cs split
    have later := ih (front ++ String.ofList ['*']) (onward split)
    rw [String.utf8ByteSize_append, one] at later
    rw [one] at first
    rw [written, spans_star (kindB.trans kind), tokens_star kind]
    exact mapM_cons_some first later
  | run kind run rest joins nonempty same stop ih =>
    have known : ∀ c ∈ run, CharKind.of c ≠ .other := by
      intro c mem
      rw [same c mem]
      rcases joins with rfl | rfl <;> decide
    have sameB : ∀ b ∈ bytes (String.ofList run), byteKind b = kind := by
      intro b mem
      obtain ⟨c, memC, kindB⟩ := bytes_of_known known b mem
      rw [kindB, same c memC]
    have nonemptyB : bytes (String.ofList run) ≠ [] := by
      intro empty
      have none : (bytes (String.ofList run)).head?.map byteKind = none := by rw [empty]; rfl
      rw [head_bytes, Option.map_eq_none_iff, List.head?_eq_none_iff] at none
      exact nonempty none
    have first := slice run rest split
    have later := ih (front ++ String.ofList run) (onward split)
    rw [String.utf8ByteSize_append] at later
    rw [String.ofList_append, bytes_append, spans_run joins nonemptyB sameB (by rwa [head_bytes]),
      length_bytes, tokens_run joins nonempty same stop]
    exact mapM_cons_some first later

end Ebuild.Version

import Ebuild.Atom.Index
import Ebuild.Proofs.Atom.Literal
import Ebuild.Proofs.Atom.Parse

/-!
# The atom index against a scan

An index is filled by calls that store one atom each, or none where an expression cannot be read.
`AtomIndex.find_eq_scan` says that it then answers as if every stored atom were tried, those without
wildcards first: the text of both names is a key that no other pair of names has.
-/

namespace Ebuild

namespace Atom

/-- Whether the text of the category or of the name has a wildcard. -/
def Wild (atom : Atom) : Prop :=
  Glob.hasWildcard atom.category.text = true ∨ Glob.hasWildcard atom.package.text = true

instance (atom : Atom) : Decidable atom.Wild := inferInstanceAs (Decidable (_ ∨ _))

variable [Glob.Engine]

theorem Readable.hasWildcard_iff {atom : Atom} (readable : atom.Readable) :
    atom.hasWildcard = true ↔ atom.Wild := by
  obtain ⟨category, name, -, -, front, back⟩ := readable.names
  obtain ⟨text, literal⟩ := Glob.parse_spec front
  obtain ⟨text', literal'⟩ := Glob.parse_spec back
  rw [hasWildcard, Wild, literal, literal', text, text']
  simp

/-- Without wildcards, an atom accepts the packages of its own `category/name` that satisfy its
constraint. -/
theorem Readable.acceptsPackage_eq {atom : Atom} (readable : atom.Readable)
    (literal : atom.hasWildcard = false) (p : Package) :
    atom.acceptsPackage p = (atom.cpn == p.cpn && atom.accepts p) := by
  obtain ⟨category, name, isCategory, isName, front, back⟩ := readable.names
  obtain ⟨text, -⟩ := Glob.parse_spec front
  obtain ⟨text', -⟩ := Glob.parse_spec back
  rw [hasWildcard, Bool.or_eq_false_iff, Bool.not_eq_false', Bool.not_eq_false'] at literal
  have key : atom.cpn = String.ofList (category ++ '/' :: name) := by
    apply String.toList_inj.1
    simp [cpn, text, text']
  have named := Package.cpn_eq_iff (p := p) (Grammar.not_mem_of_isName isCategory (by decide))
    (Grammar.not_mem_of_isName isName (by decide))
  rw [acceptsPackage, Glob.accepts_of_isLiteral literal.1, Glob.accepts_of_isLiteral literal.2,
    text, text', key, Bool.eq_iff_iff]
  simp only [Bool.and_eq_true, decide_eq_true_iff, beq_iff_eq, named]

end Atom

namespace AtomIndex

variable {α : Type}

/-! ### What an index holds -/

structure Holds (index : AtomIndex α) (stored : List (α × Atom)) : Prop where
  literal : ∀ key, (index.literal.getD key #[]).toList =
    stored.filter fun entry => !entry.2.hasWildcard && entry.2.cpn == key
  wild : index.wild.toList = stored.filter fun entry => entry.2.hasWildcard
  size : index.size = stored.length
  isEmpty : index.isEmpty = stored.isEmpty

theorem holds_empty : (empty : AtomIndex α).Holds [] where
  literal key := by simp [empty]
  wild := rfl
  size := by simp [empty, size, Std.HashMap.fold_eq_foldl_toList]
  isEmpty := by simp [empty, isEmpty]

section
variable {β : Type} (start : Nat) (m : Std.HashMap String (Array β))

/-- The number of entries in all buckets, counted from `start`. -/
def count : Nat := m.fold (fun total _ bucket => total + bucket.size) start

theorem foldl_size_add (buckets : List (String × Array β)) (more : Nat) :
    buckets.foldl (fun total entry => total + entry.2.size) (start + more) =
      buckets.foldl (fun total entry => total + entry.2.size) start + more := by
  induction buckets generalizing start with
  | nil => rfl
  | cons entry buckets ih => rw [List.foldl_cons, List.foldl_cons, Nat.add_right_comm, ih]

theorem count_add (more : Nat) : count (start + more) m = count start m + more := by
  simp only [count, Std.HashMap.fold_eq_foldl_toList, foldl_size_add]

theorem count_perm {m' : Std.HashMap String (Array β)} {buckets : List (String × Array β)}
    (perm : m'.toList.Perm buckets) :
    count start m' = buckets.foldl (fun total entry => total + entry.2.size) start := by
  rw [count, Std.HashMap.fold_eq_foldl_toList]
  exact perm.foldl_eq' (fun _ _ _ _ _ => Nat.add_right_comm ..) _

theorem filter_of_absent {key : String} (absent : m[key]? = none) :
    m.toList.filter (fun entry => ¬ key == entry.1) = m.toList := by
  rw [List.filter_eq_self]
  rintro ⟨key', bucket⟩ mem
  have here := Std.HashMap.mem_toList_iff_getElem?_eq_some.1 mem
  rw [decide_eq_true_iff, beq_iff_eq]
  rintro rfl
  rw [absent] at here
  cases here

theorem equiv_insert_of_present {key : String} {bucket : Array β}
    (present : m[key]? = some bucket) : (m.insert key bucket).Equiv m := by
  refine Std.HashMap.Equiv.of_forall_getElem?_eq fun key' => ?_
  rw [Std.HashMap.getElem?_insert]
  split
  · rename_i same
    rw [← beq_iff_eq.1 same, present]
  · rfl

theorem count_insert_add (key : String) (bucket : Array β) :
    count start (m.insert key bucket) + (m.getD key #[]).size = count start m + bucket.size := by
  have inserted (bucket : Array β) :=
    count_perm start (m.toList_insert_perm (k := key) (v := bucket))
  simp only [List.foldl_cons, foldl_size_add] at inserted
  have counted := count_perm start (.refl m.toList)
  rw [inserted, Std.HashMap.getD_eq_getD_getElem?]
  cases old : m[key]? with
  | none =>
    rw [filter_of_absent m old, ← counted]
    rfl
  | some before =>
    -- the map is as if the old bucket had just been inserted
    have again := count_perm start (equiv_insert_of_present m old).toList_perm
    rw [counted, ← again, inserted, Option.getD_some]
    omega

end

theorem Holds.insert {index : AtomIndex α} {stored : List (α × Atom)} (holds : index.Holds stored)
    (id : α) (atom : Atom) : (index.insert id atom).Holds (stored ++ [(id, atom)]) := by
  have before : count index.wild.size index.literal = stored.length := holds.size
  cases wild : atom.hasWildcard with
  | true =>
    rw [AtomIndex.insert, if_pos wild]
    refine ⟨fun key => ?_, ?_, ?_, ?_⟩
    · simp [holds.literal, wild]
    · simp [holds.wild, wild]
    · change count (index.wild.push (id, atom)).size index.literal = _
      rw [Array.size_push, count_add, before, List.length_append, List.length_singleton]
    · simp [AtomIndex.isEmpty]
  | false =>
    rw [AtomIndex.insert, if_neg (by simp [wild])]
    refine ⟨fun key => ?_, ?_, ?_, ?_⟩
    · rw [Std.HashMap.getD_insert]
      split
      · rename_i same
        obtain rfl := beq_iff_eq.1 same
        simp [holds.literal, wild]
      · rename_i other
        simp [holds.literal, wild, other]
    · simp [holds.wild, wild]
    · let bucket := (index.literal.getD atom.cpn #[]).push (id, atom)
      have counted := count_insert_add index.wild.size index.literal atom.cpn bucket
      rw [Array.size_push] at counted
      change count index.wild.size (index.literal.insert atom.cpn bucket) = _
      rw [List.length_append, List.length_singleton]
      omega
    · simp [AtomIndex.isEmpty]

variable [Glob.Engine]

theorem Holds.find {index : AtomIndex α} {stored : List (α × Atom)} (holds : index.Holds stored)
    (readable : ∀ entry ∈ stored, entry.2.Readable) (p : Package) :
    index.find p =
      ((stored.filter fun entry => ¬ entry.2.Wild ∧ entry.2.acceptsPackage p) ++
        (stored.filter fun entry => entry.2.Wild ∧ entry.2.acceptsPackage p)).map Prod.fst := by
  have named : (index.literal.getD p.cpn #[]).toList.filter (fun entry => entry.2.accepts p) =
      stored.filter fun entry => ¬ entry.2.Wild ∧ entry.2.acceptsPackage p := by
    rw [holds.literal, List.filter_filter]
    refine List.filter_congr fun entry mem => ?_
    have wild := (readable entry mem).hasWildcard_iff
    cases literal : entry.2.hasWildcard with
    | true => simp [wild.1 literal]
    | false =>
      rw [(readable entry mem).acceptsPackage_eq literal, Bool.eq_iff_iff]
      rw [literal] at wild
      simp [← wild, and_comm]
  have others : index.wild.toList.filter (fun entry => entry.2.acceptsPackage p) =
      stored.filter fun entry => entry.2.Wild ∧ entry.2.acceptsPackage p := by
    rw [holds.wild, List.filter_filter]
    refine List.filter_congr fun entry mem => ?_
    simp [← (readable entry mem).hasWildcard_iff, Bool.and_comm]
  rw [← named, ← others]
  rfl

/-! ### Calls -/

/-- A call that fills an index: with an expression, or with an atom read before. -/
inductive Call (α : Type)
  | append (id : α) (expression : String)
  | insert (id : α) (atom : Atom) (readable : atom.Readable)

namespace Call

/-- The index after a call. An expression is read before anything is stored, so a call that fails
leaves the index as it was. -/
def apply (index : AtomIndex α) : Call α → AtomIndex α
  | append id expression => (index.append id expression).toOption.getD index
  | insert id atom _ => index.insert id atom

/-- The entry that a call stores, none if it fails. -/
def stored? : Call α → Option (α × Atom)
  | append id expression => (Atom.parse expression).toOption.map fun atom => (id, atom)
  | insert id atom _ => some (id, atom)

theorem readable_of_stored? {call : Call α} {entry : α × Atom}
    (stored : call.stored? = some entry) : entry.2.Readable := by
  cases call with
  | append id expression =>
    obtain ⟨atom, read, rfl⟩ := Option.map_eq_some_iff.1 stored
    refine ⟨expression, ?_⟩
    cases result : Atom.parse expression with
    | error e => simp [result, Except.toOption] at read
    | ok atom' => simpa [result, Except.toOption] using read
  | insert id atom readable =>
    cases stored
    exact readable

theorem apply_eq (index : AtomIndex α) (call : Call α) :
    call.apply index = call.stored?.elim index fun entry => index.insert entry.1 entry.2 := by
  cases call with
  | append id expression =>
    rw [apply, AtomIndex.append, stored?]
    cases Atom.parse expression <;> rfl
  | insert id atom readable => rfl

end Call

def ofCalls (calls : List (Call α)) : AtomIndex α := calls.foldl Call.apply empty

theorem Holds.apply {index : AtomIndex α} {stored : List (α × Atom)} (holds : index.Holds stored)
    (call : Call α) : (call.apply index).Holds (stored ++ call.stored?.toList) := by
  rw [Call.apply_eq]
  cases call.stored? with
  | none => simpa using holds
  | some entry => exact holds.insert entry.1 entry.2

theorem Holds.foldl {index : AtomIndex α} {stored : List (α × Atom)} (holds : index.Holds stored)
    (calls : List (Call α)) :
    (calls.foldl Call.apply index).Holds (stored ++ calls.filterMap Call.stored?) := by
  induction calls generalizing index stored with
  | nil => simpa using holds
  | cons call calls ih =>
    have after := ih (holds.apply call)
    rw [List.append_assoc] at after
    rw [List.filterMap_cons]
    cases entry : call.stored? <;> simpa [entry] using after

theorem holds_ofCalls (calls : List (Call α)) :
    (ofCalls calls).Holds (calls.filterMap Call.stored?) := by
  simpa [ofCalls] using holds_empty.foldl calls

/-- An index answers as a scan of the stored atoms would, those without wildcards before the others
and both in the order of the calls. Its size is the number of calls that stored something, and a
call that fails is as if it had never been made. -/
theorem find_eq_scan (calls : List (Call α)) :
    let index := ofCalls calls
    let stored := calls.filterMap Call.stored?
    (∀ p, index.find p =
      ((stored.filter fun entry => ¬ entry.2.Wild ∧ entry.2.acceptsPackage p) ++
        (stored.filter fun entry => entry.2.Wild ∧ entry.2.acceptsPackage p)).map Prod.fst) ∧
    index.size = calls.countP (fun call => call.stored?.isSome) ∧
    (index.isEmpty = true ↔ index.size = 0) ∧
    ∀ id expression error later, index.append id expression = .error error →
      ofCalls (calls ++ .append id expression :: later) = ofCalls (calls ++ later) := by
  intro index stored
  have holds : index.Holds stored := holds_ofCalls calls
  refine ⟨fun p => holds.find ?_ p, ?_, ?_, ?_⟩
  · intro entry mem
    obtain ⟨call, -, read⟩ := List.mem_filterMap.1 mem
    exact Call.readable_of_stored? read
  · rw [holds.size, List.length_filterMap_eq_countP]
  · rw [holds.isEmpty, holds.size, List.isEmpty_iff, List.length_eq_zero_iff]
  · intro id expression error later failed
    have unchanged : Call.apply index (.append id expression) = index := by
      rw [Call.apply, failed]
      rfl
    simp only [ofCalls, List.foldl_append, List.foldl_cons]
    exact congrArg (later.foldl Call.apply) unchanged

end AtomIndex

end Ebuild

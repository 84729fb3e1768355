import Ebuild.FileTree.Resolve
import Ebuild.Proofs.FileTree.Path

/-!
# Laws of path resolution

Steps taken after one another are taken from where the first ones lead (`follow_append`), and more
links to go make no difference unless they run out (`follow_add`), nor does it which places are
admitted unless one is refused (`follow_anywhere`). So a joined path leads to where its second part
leads from the place of its first (`locate_join`). What is canonical is short
(`isShort_of_resolve`).
-/

namespace Ebuild

namespace FileTree

/-- The place from which a move goes on. -/
def Move.start : Move → Place
  | place here | link here _ => here

variable (t : FileTree) {fits : Place → Bool}

/-! ### Steps -/

theorem move_of_none {here : Place} (nothing : t.node? here = none) (name : String) :
    t.move fits here name = .error .notFound := by
  rw [move, nothing]

theorem follow_of_none {links : Nat} {here : Place} (nothing : t.node? here = none)
    (steps : List String) : follow t fits links here steps = .error .notFound := by
  cases steps with
  | nil => simp [follow_nil, nothing]
  | cons name rest => rw [follow_cons, t.move_of_none nothing]

theorem folder_of_move {here : Place} {name : String} {next : Move}
    (moved : t.move fits here name = .ok next) : t.node? here = some .folder := by
  cases node : t.node? here with
  | none => simp [t.move_of_none node] at moved
  | some node' =>
    unfold move at moved
    rw [node] at moved
    dsimp only at moved
    split at moved
    · cases moved
    · cases node' with
      | folder => rfl
      | file bytes => cases moved
      | link target => cases moved

theorem node?_of_move {here : Place} {name : String} {next : Move} (dot : name ≠ ".")
    (dots : name ≠ "..") (moved : t.move fits here name = .ok next) :
    (t.node? (here ++ [name])).isSome = true := by
  have folder := t.folder_of_move moved
  unfold move at moved
  simp only [folder, if_neg dot, if_neg dots] at moved
  split at moved
  · cases moved
  · cases child : t.node? (here ++ [name]) with
    | none => simp [child] at moved
    | some _ => rfl

/-- Steps in a row are taken from where the first of them lead. -/
theorem follow_append (links : Nat) (here : Place) (first second : List String) :
    follow t fits links here (first ++ second) =
      (follow t fits links here first).bind fun spot =>
        follow t fits spot.links spot.place second := by
  induction links using Nat.strong_induction_on generalizing here first with
  | _ links fewer =>
    induction first generalizing here with
    | nil =>
      rw [List.nil_append, follow_nil]
      cases node : t.node? here with
      | none => exact t.follow_of_none node second
      | some _ => rfl
    | cons name first ih =>
      rw [List.cons_append, follow_cons, follow_cons]
      cases t.move fits here name with
      | error reason => rfl
      | ok next =>
        cases next with
        | place place => exact ih place
        | link place steps =>
          cases links with
          | zero => rfl
          | succ links =>
            have further := fewer links (Nat.lt_succ_self links) place (steps ++ first)
            rwa [List.append_assoc] at further

theorem follow_cons_eq_ok_iff {links : Nat} {here : Place} {name : String} {rest : List String}
    {spot : Spot} : follow t fits links here (name :: rest) = .ok spot ↔
      ∃ next, follow t fits links here [name] = .ok next ∧
        follow t fits next.links next.place rest = .ok spot := by
  rw [← List.singleton_append, follow_append]
  cases follow t fits links here [name] with
  | error reason => simp [Except.bind]
  | ok next => simp [Except.bind]

theorem exists_move_of_follow {links : Nat} {here : Place} {name : String} {rest : List String}
    {spot : Spot} (found : follow t fits links here (name :: rest) = .ok spot) :
    ∃ next, t.move fits here name = .ok next := by
  rw [follow_cons] at found
  cases moved : t.move fits here name with
  | error reason => simp [moved] at found
  | ok next => exact ⟨next, rfl⟩

theorem folder_of_follow {links : Nat} {here : Place} {name : String} {rest : List String}
    {spot : Spot} (found : follow t fits links here (name :: rest) = .ok spot) :
    t.node? here = some .folder := by
  obtain ⟨next, moved⟩ := t.exists_move_of_follow found
  exact t.folder_of_move moved

theorem node?_of_follow {links : Nat} {here : Place} {name : String} {rest : List String}
    {spot : Spot} (dot : name ≠ ".") (dots : name ≠ "..")
    (found : follow t fits links here (name :: rest) = .ok spot) :
    (t.node? (here ++ [name])).isSome = true := by
  obtain ⟨next, moved⟩ := t.exists_move_of_follow found
  exact t.node?_of_move dot dots moved

theorem isName_of_follow (wf : t.WellFormed) {links : Nat} {here : Place} {steps : List String}
    {spot : Spot} (found : follow t fits links here steps = .ok spot) {name : String}
    (mem : name ∈ steps) (dot : name ≠ ".") (dots : name ≠ "..") : IsName name := by
  induction steps generalizing links here with
  | nil => cases mem
  | cons first rest ih =>
    rcases List.mem_cons.1 mem with rfl | later
    · have there := t.node?_of_follow dot dots found
      exact wf.isName there
    · obtain ⟨next, -, onward⟩ := t.follow_cons_eq_ok_iff.1 found
      exact ih onward later

/-- More links to go make no difference to a path that does not run out of them. -/
theorem follow_add {links : Nat} {here : Place} {steps : List String}
    (enough : follow t fits links here steps ≠ .error .tooManyLinks) (more : Nat) :
    follow t fits (links + more) here steps =
      (follow t fits links here steps).map fun spot => ⟨spot.place, spot.links + more⟩ := by
  induction links using Nat.strong_induction_on generalizing here steps with
  | _ links fewer =>
    induction steps generalizing here with
    | nil =>
      rw [follow_nil, follow_nil]
      cases (t.node? here).isSome <;> rfl
    | cons name rest ih =>
      rw [follow_cons] at enough ⊢
      rw [follow_cons]
      cases moved : t.move fits here name with
      | error reason => rfl
      | ok next =>
        rw [moved] at enough
        cases next with
        | place place => exact ih enough
        | link place steps =>
          cases links with
          | zero => exact absurd rfl enough
          | succ links =>
            rw [Nat.add_right_comm]
            exact fewer links (Nat.lt_succ_self links) enough

theorem follow_dot {links : Nat} {here : Place} (folder : t.node? here = some .folder)
    (steps : List String) :
    follow t fits links here ("." :: steps) = follow t fits links here steps := by
  rw [follow_cons, move]
  simp [folder]

/-! ### Admitted places -/

theorem move_anywhere {here : Place} {name : String}
    (fit : t.move fits here name ≠ .error .pathTooLong) :
    t.move anywhere here name = t.move fits here name := by
  unfold move at fit ⊢
  cases node : t.node? here with
  | none => rfl
  | some node' =>
    rw [node] at fit
    dsimp only at fit ⊢
    have admitted : ¬ (name ≠ "." ∧ name ≠ ".." ∧ fits (here ++ [name]) = false) := by
      intro refused
      rw [if_pos refused] at fit
      exact fit rfl
    rw [if_neg admitted, if_neg (by simp [anywhere])]

/-- Where no place on the way is refused, it makes no difference which places are admitted. -/
theorem follow_anywhere {links : Nat} {here : Place} {steps : List String}
    (fit : follow t fits links here steps ≠ .error .pathTooLong) :
    follow t anywhere links here steps = follow t fits links here steps := by
  -- The steps of a target come on top of those left, so links count before steps.
  induction links using Nat.strong_induction_on generalizing here steps with
  | _ links fewer =>
    induction steps generalizing here with
    | nil => rw [follow_nil, follow_nil]
    | cons name rest ih =>
      rw [follow_cons] at fit ⊢
      rw [follow_cons]
      have same : t.move anywhere here name = t.move fits here name := by
        refine t.move_anywhere fun refused => ?_
        rw [refused] at fit
        exact fit rfl
      rw [same]
      cases moved : t.move fits here name with
      | error reason => rfl
      | ok next =>
        rw [moved] at fit
        cases next with
        | place place => exact ih fit
        | link place steps =>
          cases links with
          | zero => rfl
          | succ links => exact fewer links (Nat.lt_succ_self links) fit

section
variable {t} (root : fits [] = true) (up : ∀ place, fits place = true → fits place.dropLast = true)
include root up

theorem fits_of_move {here : Place} {name : String} {next : Move} (fit : fits here = true)
    (moved : t.move fits here name = .ok next) : fits next.start = true := by
  have folder := t.folder_of_move moved
  unfold move at moved
  rw [folder] at moved
  dsimp only at moved
  split at moved
  · cases moved
  rename_i admitted
  split at moved
  · cases moved; exact fit
  split at moved
  · cases moved; exact up here fit
  rename_i dot dots
  split at moved
  · cases moved
  · split at moved
    · cases moved
    · cases moved
      rw [Move.start]
      split
      · exact root
      · exact fit
  · cases moved
    simpa [dot, dots, Move.start] using admitted

/-- A way from an admitted place leads to admitted places. -/
theorem fits_of_follow {links : Nat} {here : Place} {steps : List String} {spot : Spot}
    (fit : fits here = true) (found : follow t fits links here steps = .ok spot) :
    fits spot.place = true := by
  induction links using Nat.strong_induction_on generalizing here steps with
  | _ links fewer =>
    induction steps generalizing here with
    | nil =>
      rw [follow_nil] at found
      split at found
      · cases found; exact fit
      · cases found
    | cons name rest ih =>
      rw [follow_cons] at found
      cases moved : t.move fits here name with
      | error reason => simp [moved] at found
      | ok next =>
        have further := fits_of_move root up fit moved
        rw [moved] at found
        cases next with
        | place place => exact ih further found
        | link place steps =>
          cases links with
          | zero => cases found
          | succ links => exact fewer links (Nat.lt_succ_self links) further found

end

/-! ### Paths -/

section
variable {path more : String}

theorem locate_of_nul (nul : '\x00' ∈ path.toList) :
    t.locate fits path = .error .nulInPath := by
  have nonempty : path ≠ "" := by
    rintro rfl
    simp at nul
  simp [locate, nonempty, nul]

theorem locate_eq_follow (nonempty : path ≠ "") (clean : '\x00' ∉ path.toList) :
    t.locate fits path = follow t fits maxLinks (t.start path) (Path.components path) := by
  simp [locate, nonempty, clean]

theorem ne_empty_of_locate {spot : Spot} (found : t.locate fits path = .ok spot) : path ≠ "" := by
  rintro rfl
  cases found

theorem locate_anywhere (fit : t.locate fits path ≠ .error .pathTooLong) :
    t.locate anywhere path = t.locate fits path := by
  by_cases empty : path = ""
  · rw [locate, locate, if_pos empty, if_pos empty]
  by_cases nul : '\x00' ∈ path.toList
  · rw [t.locate_of_nul nul, t.locate_of_nul nul]
  rw [t.locate_eq_follow empty nul] at fit ⊢
  rw [t.locate_eq_follow empty nul, t.follow_anywhere fit]

/-- A slash at the end of a path makes no difference to what the steps after it lead to. -/
theorem follow_components_append_eq_ok_iff {links : Nat} {here : Place} {steps : List String}
    {spot : Spot} (more : steps ≠ []) :
    follow t fits links here (Path.components path ++ steps) = .ok spot ↔
      follow t fits links here (Path.names path ++ steps) = .ok spot := by
  obtain ⟨name, rest, rfl⟩ := List.exists_cons_of_ne_nil more
  rw [Path.components_eq, List.append_assoc, follow_append, follow_append]
  cases follow t fits links here (Path.names path) with
  | error reason => exact Iff.rfl
  | ok next =>
    show follow t fits next.links next.place _ = .ok spot ↔ follow t fits _ _ _ = .ok spot
    by_cases slash : path.toList.getLast? = some '/'
    · rw [if_pos slash, List.singleton_append]
      constructor
      · intro found
        rwa [t.follow_dot (t.folder_of_follow found)] at found
      · intro found
        rwa [t.follow_dot (t.folder_of_follow found)]
    · rw [if_neg slash, List.nil_append]

section
variable (nonempty : path ≠ "") (relative : Path.isAbsolute more = false) (nonempty' : more ≠ "")
include nonempty relative nonempty'

theorem locate_join_eq_follow (clean : '\x00' ∉ path.toList) (clean' : '\x00' ∉ more.toList) :
    t.locate fits (Path.join path more) =
      follow t fits maxLinks (t.start path) (Path.names path ++ Path.components more) := by
  have joined : '\x00' ∉ (Path.join path more).toList := by
    rw [Path.nul_mem_join_iff relative, not_or]
    exact ⟨clean, clean'⟩
  have start : t.start (Path.join path more) = t.start path := by
    rw [start, start, Path.isAbsolute_join relative nonempty]
  rw [t.locate_eq_follow (Path.join_ne_empty relative nonempty') joined, start,
    Path.components_join relative nonempty']

/-- A joined path leads to where its second part leads from the place of its first. -/
theorem locate_join (clean : '\x00' ∉ more.toList) (noSlash : path.toList.getLast? ≠ some '/') :
    t.locate fits (Path.join path more) =
      (t.locate fits path).bind fun spot =>
        follow t fits spot.links spot.place (Path.components more) := by
  by_cases nul : '\x00' ∈ path.toList
  · rw [t.locate_of_nul nul, t.locate_of_nul ((Path.nul_mem_join_iff relative).2 (.inl nul))]
    rfl
  rw [t.locate_join_eq_follow nonempty relative nonempty' nul clean,
    t.locate_eq_follow nonempty nul, Path.components_of_no_slash noSlash, follow_append]

theorem locate_join_eq_ok_iff (clean : '\x00' ∉ more.toList) {spot : Spot} :
    t.locate fits (Path.join path more) = .ok spot ↔ ∃ next, t.locate fits path = .ok next ∧
      follow t fits next.links next.place (Path.components more) = .ok spot := by
  by_cases nul : '\x00' ∈ path.toList
  · rw [t.locate_of_nul nul, t.locate_of_nul ((Path.nul_mem_join_iff relative).2 (.inl nul))]
    simp
  have someName : Path.components more ≠ [] := by
    rw [Path.components_eq]
    exact List.append_ne_nil_of_left_ne_nil (Path.names_ne_nil relative nonempty') _
  rw [t.locate_join_eq_follow nonempty relative nonempty' nul clean,
    t.locate_eq_follow nonempty nul, ← t.follow_components_append_eq_ok_iff someName,
    follow_append]
  cases follow t fits maxLinks (t.start path) (Path.components path) with
  | error reason => simp [Except.bind]
  | ok next => simp [Except.bind]

end

section
variable {name : String} (nonempty : path ≠ "") (isName : IsName name)
include nonempty isName

theorem locate_join_name (noSlash : path.toList.getLast? ≠ some '/') :
    t.locate fits (Path.join path name) =
      (t.locate fits path).bind fun spot => follow t fits spot.links spot.place [name] := by
  rw [t.locate_join nonempty isName.isRelative isName.nonempty isName.noNul noSlash,
    isName.components]

theorem locate_join_name_eq_ok_iff {spot : Spot} :
    t.locate fits (Path.join path name) = .ok spot ↔ ∃ next, t.locate fits path = .ok next ∧
      follow t fits next.links next.place [name] = .ok spot := by
  rw [t.locate_join_eq_ok_iff nonempty isName.isRelative isName.nonempty isName.noNul,
    isName.components]

end

/-- A canonical path is short. -/
theorem isShort_of_resolve (current : isShort t.current = true) {spot : Spot}
    (found : t.resolve path = .ok spot) : isShort spot.place = true := by
  have nonempty := t.ne_empty_of_locate found
  have clean : '\x00' ∉ path.toList := by
    intro nul
    rw [resolve, t.locate_of_nul nul] at found
    cases found
  rw [resolve, t.locate_eq_follow nonempty clean] at found
  refine fits_of_follow (by decide) (fun place short => ?_) ?_ found
  · rw [isShort, decide_eq_true_iff] at short ⊢
    exact Nat.lt_of_le_of_lt (Path.utf8ByteSize_dropLast_le place) short
  · rw [start]
    split
    · decide
    · exact current

/-! ### Paths that are opened -/

theorem lookup_of_short (short : path.utf8ByteSize < maxPathSize) :
    t.lookup path = t.locate anywhere path := by
  rw [lookup, if_neg (Nat.not_le.2 short)]

theorem lookup_eq_ok_iff {spot : Spot} : t.lookup path = .ok spot ↔
    path.utf8ByteSize < maxPathSize ∧ t.locate anywhere path = .ok spot := by
  by_cases long : maxPathSize ≤ path.utf8ByteSize
  · simp [lookup, long, Nat.not_lt.2 long]
  · rw [t.lookup_of_short (Nat.not_le.1 long)]
    simp [Nat.not_le.1 long]

/-- A short path is opened where its canonical form is, if that is short all along. -/
theorem lookup_eq_resolve (short : path.utf8ByteSize < maxPathSize)
    (fit : t.resolve path ≠ .error .pathTooLong) : t.lookup path = t.resolve path := by
  rw [t.lookup_of_short short]
  exact t.locate_anywhere fit

theorem lookup_join_eq_ok_iff {name : String} {spot : Spot} (nonempty : path ≠ "")
    (isName : IsName name) : t.lookup (Path.join path name) = .ok spot ↔
      ∃ folder, t.lookup path = .ok folder ∧
        (Path.join path name).utf8ByteSize < maxPathSize ∧
          follow t anywhere folder.links folder.place [name] = .ok spot := by
  have shorter := Path.utf8ByteSize_le_join isName.isRelative path
  rw [lookup_eq_ok_iff, t.locate_join_name_eq_ok_iff nonempty isName]
  constructor
  · rintro ⟨short, folder, found, step⟩
    exact ⟨folder, t.lookup_eq_ok_iff.2 ⟨Nat.lt_of_le_of_lt shorter short, found⟩, short, step⟩
  · rintro ⟨folder, found, short, step⟩
    exact ⟨short, folder, (t.lookup_eq_ok_iff.1 found).2, step⟩

end

end FileTree

namespace FileTree

variable {t : FileTree} {fits : Place → Bool} {path : String}

/-! ### Canonical paths -/

theorem isFolder_eq_true_iff : t.isFolder path = true ↔
    ∃ spot, t.lookup path = .ok spot ∧ t.node? spot.place = some .folder := by
  rw [isFolder, target?]
  cases t.lookup path with
  | error reason => simp [Except.toOption]
  | ok spot =>
    simp only [Except.toOption, Option.bind_some, Except.ok.injEq, exists_eq_left']
    cases t.node? spot.place with
    | none => simp
    | some node => cases node <;> simp

/-- A step to what is no link leads there. -/
theorem follow_entry (wf : t.WellFormed) {here : Place} {name : String}
    (there : (t.node? (here ++ [name])).isSome = true)
    (notLink : ∀ target, t.node? (here ++ [name]) ≠ some (.link target)) (links : Nat) :
    follow t anywhere links here [name] = .ok ⟨here ++ [name], links⟩ := by
  have isName := wf.isName there
  have step : t.move anywhere here name = .ok (.place (here ++ [name])) := by
    unfold move
    simp only [wf.folder there, if_neg isName.notDot, if_neg isName.notDots, anywhere,
      Bool.true_eq_false, and_false, if_false]
    cases child : t.node? (here ++ [name]) with
    | none => simp [child] at there
    | some node =>
      cases node with
      | link target => exact absurd child (notLink target)
      | file bytes => rfl
      | folder => rfl
  rw [follow_cons, step]
  simp only [follow_nil, if_pos there]

/-- A step to a link is the way to its target, with one link less to go. -/
theorem follow_link (wf : t.WellFormed) {here : Place} {name target : String}
    (entry : t.node? (here ++ [name]) = some (.link target)) (links : Nat)
    (fit : follow t fits links here [name] ≠ .error .pathTooLong) :
    follow t fits links here [name] = t.followLink fits links
      (if Path.isAbsolute target then [] else here) (Path.components target) := by
  have there : (t.node? (here ++ [name])).isSome = true := by rw [entry]; rfl
  have isName := wf.isName there
  obtain ⟨nonempty, -⟩ := wf.node entry
  have admitted : fits (here ++ [name]) = true := by
    by_contra refused
    have refused : fits (here ++ [name]) = false := by simpa using refused
    refine fit ?_
    rw [follow_cons, move]
    simp [wf.folder there, isName.notDot, isName.notDots, refused]
  rw [follow_cons, move]
  simp only [wf.folder there, entry, if_neg isName.notDot, if_neg isName.notDots,
    if_neg nonempty, admitted, Bool.true_eq_false, and_false, if_false, List.append_nil]

/-- The names of a place lead there, for no link is on the way. -/
theorem follow_place (wf : t.WellFormed) {place : Place} (there : (t.node? place).isSome = true)
    (notLink : ∀ target, t.node? place ≠ some (.link target)) (links : Nat) :
    follow t anywhere links [] place = .ok ⟨place, links⟩ := by
  induction place using List.reverseRecOn with
  | nil => rw [follow_nil, if_pos there]
  | append_singleton front name ih =>
    have parent := wf.folder there
    rw [follow_append, ih (by simp [parent]) (by simp [parent])]
    exact follow_entry wf there notLink links

/-- The path of a place leads there. -/
theorem locate_path (wf : t.WellFormed) {place : Place} (there : (t.node? place).isSome = true)
    (notLink : ∀ target, t.node? place ≠ some (.link target)) :
    t.locate anywhere place.path = .ok ⟨place, maxLinks⟩ := by
  have valid := wf.names _ (mem_places_of_node? there)
  have clean : '\x00' ∉ place.path.toList := by
    intro nul
    obtain ⟨name, listed, inside⟩ := Path.mem_names_of_mem nul (by decide)
    rw [Path.names_place valid] at listed
    exact (valid name listed).noNul inside
  have start : t.start place.path = [] := by simp [FileTree.start, Path.isAbsolute, Place.path]
  rw [t.locate_eq_follow (Path.path_ne_empty place) clean, start]
  rcases List.eq_nil_or_concat' place with rfl | ⟨front, name, rfl⟩
  · have root : t.node? [] = some .folder := rfl
    show follow t anywhere maxLinks [] ["."] = _
    simp [follow_cons, move, follow_nil, root]
  · rw [Path.components_of_no_slash (Path.getLast?_path (wf.isName there)), Path.names_place valid]
    exact follow_place wf there notLink maxLinks

/-! ### Links -/

section
variable {dir name target : String}

theorem links_le_of_locate {spot : Spot} (found : t.locate fits path = .ok spot) :
    spot.links ≤ maxLinks := by
  unfold locate at found
  split at found
  · cases found
  · split at found
    · cases found
    · exact (follow_found found).2

/-- A target counts from the place of a path joined with it, with links to spare. -/
theorem exists_locate_join {place : Place} {links : Nat}
    (found : t.locate fits dir = .ok ⟨place, links + 1⟩)
    (noSlash : dir.toList.getLast? ≠ some '/') (nonempty : target ≠ "")
    (clean : '\x00' ∉ target.toList) :
    ∃ more, t.locate fits (Path.join dir target) = follow t fits (links + more)
      (if Path.isAbsolute target then [] else place) (Path.components target) := by
  cases absolute : Path.isAbsolute target with
  | true =>
    have few : links + 1 ≤ maxLinks := links_le_of_locate found
    have all : links + (maxLinks - links) = maxLinks := Nat.add_sub_of_le (Nat.le_of_succ_le few)
    refine ⟨maxLinks - links, ?_⟩
    rw [Path.join, absolute, Bool.true_or, if_pos rfl, t.locate_eq_follow nonempty clean, start,
      absolute, all]
    rfl
  | false =>
    refine ⟨1, ?_⟩
    rw [t.locate_join (t.ne_empty_of_locate found) absolute nonempty clean noSlash, found]
    rfl

/-- The target of a link leads to where the link leads, if that meets no limit. -/
theorem locate_join_target (wf : t.WellFormed) {spot : Spot} (found : t.locate fits dir = .ok spot)
    (noSlash : dir.toList.getLast? ≠ some '/')
    (entry : t.node? (spot.place ++ [name]) = some (.link target))
    (enough : t.locate fits (Path.join dir name) ≠ .error .tooManyLinks)
    (fit : t.locate fits (Path.join dir name) ≠ .error .pathTooLong) :
    (t.locate fits (Path.join dir target)).map Spot.place =
      (t.locate fits (Path.join dir name)).map Spot.place := by
  obtain ⟨place, links⟩ := spot
  have isName : IsName name := wf.isName (by rw [entry]; rfl)
  have step : t.locate fits (Path.join dir name) = follow t fits links place [name] := by
    rw [t.locate_join_name (t.ne_empty_of_locate found) isName noSlash, found]
    rfl
  rw [step] at fit
  rw [step, follow_link wf entry links fit] at enough ⊢
  cases links with
  | zero => exact absurd rfl enough
  | succ links =>
    obtain ⟨nonempty, clean⟩ := wf.node entry
    obtain ⟨more, direct⟩ := exists_locate_join found noSlash nonempty clean
    rw [direct, t.follow_add enough]
    show _ = (follow t fits links _ _).map Spot.place
    cases follow t fits links (if Path.isAbsolute target then [] else place)
      (Path.components target) <;> rfl

theorem follow_names (wf : t.WellFormed) (nonempty : dir ≠ "")
    (noSlash : dir.toList.getLast? ≠ some '/') :
    (follow t fits maxLinks (t.start dir) (Path.names dir)).toOption =
      (t.locate fits dir).toOption := by
  by_cases nul : '\x00' ∈ dir.toList
  · rw [t.locate_of_nul nul]
    cases way : follow t fits maxLinks (t.start dir) (Path.names dir) with
    | error reason => rfl
    | ok spot =>
      obtain ⟨name, listed, inside⟩ := Path.mem_names_of_mem nul (by decide)
      have isName : IsName name := t.isName_of_follow wf way listed
        (by rintro rfl; simp at inside) (by rintro rfl; simp at inside)
      exact absurd inside isName.noNul
  · rw [t.locate_eq_follow nonempty nul, Path.components_of_no_slash noSlash]

theorem readLink?_join (wf : t.WellFormed) (isName : IsName name) (nonempty : dir ≠ "")
    (noSlash : dir.toList.getLast? ≠ some '/')
    (short : (Path.join dir name).utf8ByteSize < maxPathSize) :
    t.readLink? (Path.join dir name) = (t.lookup dir).toOption.bind fun spot =>
      (t.node? (spot.place ++ [name])).bind Node.target? := by
  have steps : Path.components (Path.join dir name) = Path.names dir ++ [name] := by
    rw [Path.components_join isName.isRelative isName.nonempty, isName.components]
  have start : t.start (Path.join dir name) = t.start dir := by
    rw [FileTree.start, FileTree.start, Path.isAbsolute_join isName.isRelative nonempty]
  have named : ¬ (maxPathSize ≤ (Path.join dir name).utf8ByteSize ∨ name = "." ∨ name = "..") :=
    not_or.2 ⟨Nat.not_le.2 short, not_or.2 ⟨isName.notDot, isName.notDots⟩⟩
  have shorter := Path.utf8ByteSize_le_join isName.isRelative dir
  rw [readLink?, steps, start, List.getLast?_concat, List.dropLast_concat,
    t.lookup_of_short (Nat.lt_of_le_of_lt shorter short)]
  change ((follow t anywhere maxLinks (t.start dir) (Path.names dir)).toOption.bind
    fun spot => _) = _
  rw [follow_names wf nonempty noSlash]
  refine congrArg _ (funext fun spot => (if_neg named).trans ?_)
  cases t.node? (spot.place ++ [name]) with
  | none => rfl
  | some node => cases node <;> rfl

end

end FileTree

end Ebuild

import Mathlib.Data.String.Basic
import ServerKeeper.Proofs.FileTree.Directories

namespace ServerKeeper.FileTree

def LinkFree (t : FileTree) : Prop :=
  ∀ l target, t.find? l ≠ some (.link target)

theorem LinkFree.of_extends {t larger : FileTree} (free : larger.LinkFree) (grown : t.Extends larger) :
    t.LinkFree :=
  fun l target found => free l target (grown.entry l _ found)

theorem linkFree_of_entries {t : FileTree} (noLink : ∀ p ∈ t.entries, ∀ target, p.2 ≠ .link target) :
    t.LinkFree := by
  intro l target found
  by_cases root : l = []
  · rw [root] at found
    cases found
  · rw [find?_of_ne root] at found
    obtain ⟨front, back, split, -⟩ := List.lookup_eq_some_iff.mp found
    exact noLink (l, .link target) (by simp [split]) target rfl

theorem LinkFree.put {t : FileTree} (free : t.LinkFree) {l : Location} (proper : l ≠ []) {e : Entry}
    (noLink : ∀ target, e ≠ .link target) : (t.put l e).LinkFree := by
  intro other target link
  rw [find?_put proper] at link
  split at link
  · exact noLink target (Option.some.inj link)
  · exact free other target link

@[simp]
def obstacle (t : FileTree) : Location → List String → FileFault
  | _, [] => .notFound
  | here, name :: names =>
    match t.find? (here ++ [name]) with
    | some (.file ..) => .notADirectory
    | _ => t.obstacle (here ++ [name]) names

def locate (t : FileTree) (path : String) : Location :=
  t.origin path ++ Path.named (Path.segments path)

theorem start_of_upward {names : List String} (upward : ".." ∉ names) (t : FileTree)
    (path : String) :
    t.start path names =
      if t.hasDirectory (t.origin path) then .ok (t.origin path) else .error .notFound := by
  rw [start, leadsOn_of_upward upward]

section Ways

variable {t : FileTree} (wf : t.WellFormed)

include wf

theorem WellFormed.hasDirectory_of_append {l more : Location}
    (directory : t.hasDirectory (l ++ more) = true) : t.hasDirectory l = true := by
  induction more using List.reverseRecOn with
  | nil => rwa [List.append_nil] at directory
  | append_singleton more name ih =>
    obtain ⟨mode, found⟩ := hasDirectory_iff.mp directory
    rw [← List.append_assoc] at found
    exact ih (hasDirectory_iff.mpr (wf _ _ _ found))

theorem WellFormed.no_directory_below {l : Location} (none : t.hasDirectory l = false)
    (more : Location) : t.hasDirectory (l ++ more) = false := by
  rw [Bool.eq_false_iff] at none ⊢
  exact fun directory => none (wf.hasDirectory_of_append directory)

theorem WellFormed.hasDirectory_above {l : Location} {name : String} {e : Entry}
    (found : t.find? (l ++ [name]) = some e) : t.hasDirectory l = true :=
  hasDirectory_iff.mpr (wf _ _ _ found)

theorem WellFormed.hasDirectory_before {l more : Location} {e : Entry} (some : more ≠ [])
    (found : t.find? (l ++ more) = .some e) : t.hasDirectory l = true := by
  rcases List.eq_nil_or_concat more with none | ⟨above, last, split⟩
  · exact absurd none some
  · rw [split, List.concat_eq_append, ← List.append_assoc] at found
    exact wf.hasDirectory_of_append (wf.hasDirectory_above found)

theorem WellFormed.vacant {l : Location} (none : t.hasDirectory l = false) (name : String) :
    t.find? (l ++ [name]) = .none := by
  apply wf.nothing_below
  intro mode found
  rw [hasDirectory_iff.mpr ⟨mode, found⟩] at none
  cases none

theorem obstacle_of_directory {here : Location} {names : List String}
    (directory : t.hasDirectory (here ++ names) = true) : t.obstacle here names = .notFound := by
  induction names generalizing here with
  | nil => rfl
  | cons name names ih =>
    rw [List.append_cons] at directory
    obtain ⟨mode, found⟩ := hasDirectory_iff.mp (wf.hasDirectory_of_append directory)
    rw [obstacle, found]
    exact ih directory

theorem obstacle_of_vacant {here : Location} (none : t.hasDirectory here = false)
    (names : List String) : t.obstacle here names = .notFound := by
  induction names generalizing here with
  | nil => rfl
  | cons name names ih =>
    have vacant := wf.vacant none name
    rw [obstacle, vacant]
    exact ih (by rw [hasDirectory, vacant]; rfl)

end Ways

theorem obstacle_concat {t : FileTree} {here : Location} {names : List String} {last : String}
    (vacant : t.find? (here ++ names ++ [last]) = none) :
    t.obstacle here (names ++ [last]) = t.obstacle here names := by
  induction names generalizing here with
  | nil =>
    rw [List.append_nil] at vacant
    simp [vacant]
  | cons name names ih =>
    rw [List.append_cons here name names] at vacant
    rw [List.cons_append, obstacle, obstacle, ih vacant]

theorem obstacle_of_file {t : FileTree} {here : Location} {names : List String} (some : names ≠ [])
    {content : ByteArray} {mode : Nat} (found : t.find? (here ++ names) = .some (.file content mode)) :
    t.obstacle here names = .notADirectory := by
  induction names generalizing here with
  | nil => exact absurd rfl some
  | cons name names ih =>
    rw [List.append_cons here name names] at found
    unfold obstacle
    split
    · rfl
    · rename_i other
      refine ih ?_ found
      rintro rfl
      rw [List.append_nil] at found
      exact other _ _ found

theorem obstacle_cases (t : FileTree) (here : Location) (names : List String) :
    t.obstacle here names = .notFound ∨ t.obstacle here names = .notADirectory := by
  induction names generalizing here with
  | nil => exact .inl rfl
  | cons name names ih =>
    unfold obstacle
    split
    · exact .inr rfl
    · exact ih _

theorem named_cons {name : String} (isName : IsName name) (rest : List String) :
    Path.named (name :: rest) = name :: Path.named rest := by
  simp [Path.named, isName.filled, isName.noDot]

/-- Names that never go up end in the location that they spell, where they lead into a directory. -/
theorem follow_straight {t : FileTree} (wf : t.WellFormed) (free : t.LinkFree) {followLast : Bool}
    {onLink : Location → List String → Except FileFault Place} {front : List String} {last : String}
    (upward : ".." ∉ front) (fits : ∀ name ∈ Path.named front, name.utf8ByteSize ≤ maxName)
    (isName : IsName last) {here : Location} (start : t.hasDirectory here = true) :
    follow t followLast onLink here (front ++ [last]) =
      if t.hasDirectory (here ++ Path.named front) then
        .ok ⟨here ++ Path.named front ++ [last], t.find? (here ++ Path.named front ++ [last]), false⟩
      else .error (t.obstacle here (Path.named front)) := by
  induction front generalizing here with
  | nil =>
    have none : Path.named [] = [] := rfl
    rw [none, List.append_nil, if_pos start, List.nil_append, follow_of_isName isName]
    cases found : t.find? (here ++ [last]) with
    | none => simp
    | some e =>
      cases e with
      | file => simp
      | directory => simp [follow, found]
      | link target => exact absurd found (free _ target)
  | cons name front ih =>
    rw [List.mem_cons, not_or] at upward
    by_cases stays : name = "" ∨ name = "."
    · have same : Path.named (name :: front) = Path.named front := by
        rcases stays with rfl | rfl <;> rfl
      rw [same] at fits ⊢
      rw [List.cons_append, follow, if_pos stays]
      exact ih upward.2 fits start
    · rw [not_or] at stays
      have moves : Path.named (name :: front) = name :: Path.named front := by
        simp [Path.named, stays]
      rw [moves] at fits ⊢
      rw [List.forall_mem_cons] at fits
      have first : IsName name := ⟨stays.1, stays.2, Ne.symm upward.1, fits.1⟩
      have more : ¬(front ++ [last] = [] ∨ front ++ [last] = [""]) := by
        rintro (none | slash)
        · simp at none
        · rcases List.append_eq_singleton_iff.mp slash with ⟨-, same⟩ | ⟨-, same⟩
          · exact isName.filled (List.singleton_injective same)
          · cases same
      rw [List.cons_append, follow_of_isName first, obstacle,
        List.append_cons here name (Path.named front)]
      cases found : t.find? (here ++ [name]) with
      | none =>
        have none : t.hasDirectory (here ++ [name]) = false := by rw [hasDirectory, found]; rfl
        rw [wf.no_directory_below none]
        simp only [if_neg more, obstacle_of_vacant wf none, Bool.false_eq_true, if_false]
      | some e =>
        cases e with
        | directory mode => exact ih upward.2 fits.2 (hasDirectory_iff.mpr ⟨mode, found⟩)
        | link target => exact absurd found (free _ target)
        | file content mode =>
          have none : t.hasDirectory (here ++ [name]) = false := by rw [hasDirectory, found]; rfl
          rw [wf.no_directory_below none]
          simp only [if_neg more, Bool.false_eq_true, if_false]

theorem find?_removed {l : Location} (proper : l ≠ []) (t : FileTree) (other : Location) :
    ((t.clear l).prune l).find? other = if l <+: other then none else t.find? other := by
  rw [find?_prune proper, find?_clear]
  by_cases below : l <+: other <;> simp [below]

theorem removed_extends {l : Location} (proper : l ≠ []) (t : FileTree) :
    ((t.clear l).prune l).Extends t :=
  (prune_extends proper _).trans (clear_extends l t)

/-- A path that goes over `front` to `last` without ever going up, and that a file system can hold. -/
structure IsStraight (path : String) (front : List String) (last : String) : Prop where
  split : Path.segments path = front ++ [last]
  plain : Path.IsPlain last
  upward : ".." ∉ front
  fits : ∀ name ∈ Path.named (Path.segments path), name.utf8ByteSize ≤ maxName

section Straight

variable {t : FileTree} {path last : String} {front : List String}
  (straight : IsStraight path front last)

include straight

theorem IsStraight.upward_segments : ".." ∉ Path.segments path := by
  rw [straight.split]
  simp [straight.upward, Ne.symm straight.plain.2.2.2]

theorem IsStraight.named : Path.named (Path.segments path) = Path.named front ++ [last] := by
  rw [straight.split, Path.named_append]
  simp [Path.named, straight.plain.1, straight.plain.2.2.1]

theorem IsStraight.isName : IsName last :=
  isName_of_isPlain straight.plain (straight.fits last (by simp [straight.named]))

theorem IsStraight.locate (t : FileTree) :
    t.locate path = t.origin path ++ Path.named front ++ [last] := by
  rw [FileTree.locate, straight.named, List.append_assoc]

theorem IsStraight.approach (wf : t.WellFormed) (free : t.LinkFree) (followLast : Bool) :
    t.approach followLast path (Path.segments path) = checkPath path >>= fun _ =>
      if t.hasDirectory (t.origin path ++ Path.named front) then
        .ok ⟨t.locate path, t.find? (t.locate path), false⟩
      else .error (t.obstacle (t.origin path) (Path.named front)) := by
  have fits : ∀ name ∈ Path.named front, name.utf8ByteSize ≤ maxName := fun name among =>
    straight.fits name (by simp [straight.named, among])
  unfold FileTree.approach
  rw [start_of_upward straight.upward_segments, walk_eq_follow, straight.split, straight.locate]
  cases start : t.hasDirectory (t.origin path) with
  | true =>
    rw [if_pos rfl]
    exact congrArg _ (funext fun _ =>
      follow_straight wf free straight.upward fits straight.isName start)
  | false =>
    rw [wf.no_directory_below start, obstacle_of_vacant wf start]
    rfl

variable (wf : t.WellFormed) (free : t.LinkFree)

include wf free

theorem IsStraight.place (bare : steps path = Path.segments path) (followLast : Bool) :
    t.place followLast path = checkPath path >>= fun _ =>
      if t.hasDirectory (t.origin path ++ Path.named front) then
        .ok ⟨t.locate path, t.find? (t.locate path), false⟩
      else .error (t.obstacle (t.origin path) (Path.named front)) := by
  rw [FileTree.place, bare, straight.approach wf free]

theorem IsStraight.existing (bare : steps path = Path.segments path) (followLast : Bool) :
    t.existing followLast path = checkPath path >>= fun _ =>
      match t.find? (t.locate path) with
      | some e => .ok (t.locate path, e)
      | none => .error (t.obstacle (t.origin path) (Path.named (Path.segments path))) := by
  unfold FileTree.existing
  rw [straight.place wf free bare]
  cases checkPath path with
  | error => rfl
  | ok =>
    simp only [bind, Except.bind]
    cases directory : t.hasDirectory (t.origin path ++ Path.named front) with
    | true =>
      rw [if_pos rfl]
      cases found : t.find? (t.locate path) with
      | some e => simp
      | none =>
        rw [straight.locate] at found
        rw [straight.named, obstacle_concat found, obstacle_of_directory wf directory]
    | false =>
      have vacant := wf.vacant directory last
      rw [straight.locate, vacant, straight.named, obstacle_concat vacant]
      rfl

theorem IsStraight.makeDirectory (mode : Nat) :
    t.makeDirectory path mode = checkPath path >>= fun _ =>
      if t.hasDirectory (t.origin path ++ Path.named front) then
        match t.find? (t.locate path) with
        | some _ => .error .alreadyExists
        | none => .ok (t.put (t.locate path) (.directory mode))
      else .error (t.obstacle (t.origin path) (Path.named front)) := by
  unfold FileTree.makeDirectory bareSteps
  rw [straight.approach wf free]
  cases checkPath path with
  | error => rfl
  | ok => cases t.hasDirectory (t.origin path ++ Path.named front) <;> rfl

theorem IsStraight.isDirectory (bare : steps path = Path.segments path)
    (checked : checkPath path = .ok ()) : t.isDirectory path = t.hasDirectory (t.locate path) := by
  rw [FileTree.isDirectory, straight.existing wf free bare, checked, hasDirectory]
  cases t.find? (t.locate path) <;> rfl

theorem IsStraight.removeTree (bare : steps path = Path.segments path) :
    t.removeTree path =
      match t.existing false path with
      | .error fault => (.error fault, t)
      | .ok (_, .file ..) => (.error .notADirectory, t)
      | .ok _ => (.ok (), (t.clear (t.locate path)).prune (t.locate path)) := by
  rcases stands : t.existing false path with fault | ⟨l, e⟩
  · simp only [FileTree.removeTree, stands]
  have found := stands
  rw [straight.existing wf free bare] at found
  cases checked : checkPath path with
  | error fault => simp [checked, bind, Except.bind] at found
  | ok =>
    cases entry : t.find? (t.locate path) with
    | none => simp [checked, entry, bind, Except.bind] at found
    | some e' =>
      obtain ⟨rfl, rfl⟩ : t.locate path = l ∧ e' = e := by
        simpa [checked, entry, bind, Except.bind] using found
      cases e' with
      | file => simp only [FileTree.removeTree, stands]
      | link target => exact absurd entry (free _ target)
      | directory mode =>
        have kept : (t.clear (t.locate path)).find? (t.locate path) = some (.directory mode) := by
          rw [find?_clear, if_neg (by simp), entry]
        have outside : (t.clear (t.locate path)).existing false path =
            .ok (t.locate path, .directory mode) := by
          have same : (t.clear (t.locate path)).locate path = t.locate path := rfl
          rw [straight.existing (wf.clear _) (free.of_extends (clear_extends _ t)) bare, checked, same,
            kept]
          rfl
        exact removeTree_directory straight.split straight.plain bare outside

theorem IsStraight.writeBytes (bare : steps path = Path.segments path) (content : ByteArray) :
    t.writeBytes path content = checkPath path >>= fun _ =>
      if t.hasDirectory (t.origin path ++ Path.named front) then
        match t.find? (t.locate path) with
        | none => .ok (t.put (t.locate path) (.file content newFileMode))
        | some (.file _ mode) => .ok (t.put (t.locate path) (.file content mode))
        | some _ => .error .isADirectory
      else .error (t.obstacle (t.origin path) (Path.named front)) := by
  rw [FileTree.writeBytes, straight.place wf free bare]
  cases checkPath path with
  | error => rfl
  | ok => cases t.hasDirectory (t.origin path ++ Path.named front) <;> rfl

end Straight

def verdict (t : FileTree) (path : String) : Except FileFault Unit := do
  checkPath path
  if t.hasDirectory (t.origin path) then
    match t.find? (t.locate path) with
    | some (.directory _) => .ok ()
    | some _ => .error .alreadyExists
    | none =>
      match t.obstacle (t.origin path) (Path.named (Path.segments path)) with
      | .notFound => .ok ()
      | fault => .error fault
  else .error .notFound

theorem hasDirectory_of_verdict {t : FileTree} {path : String} (ok : t.verdict path = .ok ()) :
    t.hasDirectory (t.origin path) = true := by
  by_contra closed
  unfold verdict at ok
  rw [if_neg closed] at ok
  cases checked : checkPath path <;> simp [checked, bind, Except.bind] at ok

/-- A tree that has directories all the way to a location, those that it lacked being new. -/
structure Paved (t : FileTree) (l : Location) (made : FileTree) : Prop where
  current : made.current = t.current
  entry : ∀ other, made.find? other =
    (t.find? other).or (if other <+: l then some (.directory newDirectoryMode) else none)

section Paved

variable {t made : FileTree}

theorem paved_refl (wf : t.WellFormed) {l : Location} (directory : t.hasDirectory l = true) :
    t.Paved l t := by
  refine ⟨rfl, fun other => ?_⟩
  split
  · rename_i above
    obtain ⟨more, rfl⟩ := above
    obtain ⟨mode, found⟩ := hasDirectory_iff.mp (wf.hasDirectory_of_append directory)
    rw [found]
    rfl
  · rw [Option.or_none]

theorem Paved.linkFree {l : Location} (paved : t.Paved l made) (free : t.LinkFree) :
    made.LinkFree := by
  intro other target found
  rw [paved.entry] at found
  cases before : t.find? other with
  | some e =>
    rw [before, Option.some_or] at found
    exact free other target (before.trans found)
  | none =>
    rw [before, Option.none_or] at found
    split at found <;> cases found

theorem Paved.put {l : Location} {name : String} (paved : t.Paved l made)
    (vacant : t.find? (l ++ [name]) = none) :
    t.Paved (l ++ [name]) (made.put (l ++ [name]) (.directory newDirectoryMode)) := by
  refine ⟨paved.current, fun other => ?_⟩
  rw [find?_put (by simp), paved.entry]
  by_cases same : other = l ++ [name]
  · subst same
    simp [vacant]
  · rw [if_neg same]
    simp [List.prefix_concat_iff, same]

end Paved

theorem checkPath_of_sublist {path shorter : String}
    (fewer : shorter.toList.Sublist path.toList) (filled : shorter ≠ "")
    (checked : checkPath path = .ok ()) : checkPath shorter = .ok () := by
  have size : shorter.utf8ByteSize ≤ path.utf8ByteSize := by
    rw [← String.ofList_toList (s := shorter), ← String.ofList_toList (s := path),
      String.utf8ByteSize_ofList, String.utf8ByteSize_ofList]
    exact String.utf8Len_le_of_sublist fewer
  unfold checkPath at checked ⊢
  split at checked
  · cases checked
  · rename_i clean
    have clean' : ¬shorter.toList.contains '\x00' = true := by
      simp only [List.contains_iff_mem] at clean ⊢
      exact fun member => clean (fewer.subset member)
    rw [if_neg clean', if_neg filled]
    split at checked
    · cases checked
    · split at checked
      · cases checked
      · rename_i short
        rw [if_neg (by omega)]

theorem IsStraight.parent {path last : String} {front : List String}
    (straight : IsStraight path front last) (more : Path.named front ≠ []) :
    ∃ up front' last', Path.parent? path = some up ∧ IsStraight up front' last' ∧
      Path.isAbsolute up = Path.isAbsolute path ∧ Path.named (Path.segments up) = Path.named front := by
  obtain ⟨up, parent, absolute, names, shape⟩ :=
    Path.parent?_of_split straight.split straight.plain straight.upward
  rcases shape with ⟨front', last', split, plain, upward⟩ | bare
  · refine ⟨up, front', last', parent, ⟨split, plain, upward, fun name among => ?_⟩, absolute, names⟩
    rw [names] at among
    exact straight.fits name (by simp [straight.named, among])
  · refine absurd ?_ more
    rw [← names]
    rcases bare with rfl | rfl | rfl <;> rfl

theorem find?_of_obstacle {t : FileTree} (free : t.LinkFree) {here : Location} {names : List String}
    (some : names ≠ []) (closed : t.hasDirectory (here ++ names) = false)
    (clear : t.obstacle here names = .notFound) : t.find? (here ++ names) = none := by
  cases found : t.find? (here ++ names) with
  | none => rfl
  | some e =>
    cases e with
    | file =>
      rw [obstacle_of_file some found] at clear
      cases clear
    | directory => simp [hasDirectory, found, Entry.isDirectory] at closed
    | link target => exact absurd found (free _ target)

theorem Paved.makeDirectory {t within : FileTree} (wf : within.WellFormed) (free : t.LinkFree)
    {path last : String} {front : List String} (straight : IsStraight path front last)
    (checked : checkPath path = .ok ()) (paved : t.Paved (t.origin path ++ Path.named front) within)
    (closed : t.find? (t.origin path ++ Path.named front) = none)
    (vacant : t.find? (t.locate path) = none) :
    within.makeDirectory path newDirectoryMode =
      .ok (within.put (t.locate path) (.directory newDirectoryMode)) := by
  have origin : within.origin path = t.origin path := by
    rw [FileTree.origin, FileTree.origin, paved.current]
  have location : within.locate path = t.locate path := by
    rw [straight.locate, straight.locate, origin]
  have stands : within.hasDirectory (t.origin path ++ Path.named front) = true := by
    rw [hasDirectory, paved.entry, closed]
    simp [Entry.isDirectory]
  have beyond : ¬t.locate path <+: t.origin path ++ Path.named front := by
    rw [straight.locate]
    exact fun below => absurd below.length_le (by simp)
  have still : within.find? (t.locate path) = none := by
    rw [paved.entry, vacant, if_neg beyond]
    rfl
  rw [straight.makeDirectory wf (paved.linkFree free), checked, origin, stands, location, still]
  rfl

theorem makeDirectoriesFrom_paved {t : FileTree} (wf : t.WellFormed) (free : t.LinkFree)
    {above : Nat} {path last : String} {front : List String} (straight : IsStraight path front last)
    (checked : checkPath path = .ok ()) (start : t.hasDirectory (t.origin path) = true)
    (vacant : t.find? (t.locate path) = none)
    (clear : t.obstacle (t.origin path) (Path.named front) = .notFound)
    (enough : (Path.named front).length ≤ above) :
    ∃ made, t.makeDirectoriesFrom above path = (.ok (), made) ∧ t.Paved (t.locate path) made := by
  induction above using Nat.strong_induction_on generalizing path front last with
  | _ above ih =>
    have filled := Path.ne_empty_of_split straight.split
    have location := straight.locate t
    unfold makeDirectoriesFrom
    rw [if_neg filled, straight.makeDirectory wf free, checked]
    cases directory : t.hasDirectory (t.origin path ++ Path.named front) with
    | true =>
      simp only [bind, Except.bind, if_true, vacant]
      rw [location] at vacant ⊢
      exact ⟨_, rfl, (paved_refl wf directory).put vacant⟩
    | false =>
      have more : Path.named front ≠ [] := by
        intro none
        rw [none, List.append_nil, start] at directory
        cases directory
      obtain ⟨up, front', last', parent, outer, absolute, names⟩ := straight.parent more
      have origin : t.origin up = t.origin path := by rw [FileTree.origin, FileTree.origin, absolute]
      have place : t.locate up = t.origin path ++ Path.named front := by
        rw [FileTree.locate, origin, names]
      have parts : Path.named front = Path.named front' ++ [last'] := names.symm.trans outer.named
      have missing := find?_of_obstacle free more directory clear
      have clear' : t.obstacle (t.origin up) (Path.named front') = .notFound := by
        rw [parts, ← List.append_assoc] at missing
        rw [origin, ← obstacle_concat missing, ← parts, clear]
      have length := congrArg List.length parts
      rw [List.length_append, List.length_singleton] at length
      cases above with
      | zero => omega
      | succ above =>
        have filledUp : up ≠ "" := by
          rintro rfl
          exact more names.symm
        obtain ⟨within, inner, paved⟩ := ih above (Nat.lt_succ_self above) outer
          (checkPath_of_sublist (Path.parent?_sublist parent) filledUp checked)
          (origin ▸ start) (place ▸ missing) clear' (by omega)
        have within_wf : within.WellFormed := by
          have gains := gains_makeDirectoriesFrom wf above up
          rw [inner] at gains
          exact gains.wellFormed
        rw [place] at paved
        have made := paved.makeDirectory within_wf free straight checked missing vacant
        simp only [bind, Except.bind, Bool.false_eq_true, if_false, clear, parent, inner, made]
        rw [location] at vacant ⊢
        exact ⟨_, rfl, paved.put vacant⟩

theorem filled_of_checkPath {path : String} (checked : checkPath path = .ok ()) : path ≠ "" := by
  rintro rfl
  cases checked

theorem makeDirectories_of_error {t : FileTree} {path : String} (filled : path ≠ "") {fault : FileFault}
    (first : t.makeDirectory path newDirectoryMode = .error fault) (other : fault ≠ .notFound) :
    t.makeDirectories path = (if t.isDirectory path then .ok () else .error fault, t) := by
  unfold makeDirectories makeDirectoriesFrom
  rw [if_neg filled, first]
  cases fault <;> simp at other ⊢

theorem upward_steps {path : String} (upward : ".." ∉ Path.segments path) : ".." ∉ steps path := by
  unfold steps
  dsimp only
  split <;> simp [upward]

theorem not_made_nowhere {t : FileTree} {path : String}
    (nowhere : t.hasDirectory (t.origin path) = false) (checked : checkPath path = .ok ())
    (upward : ".." ∉ Path.segments path) :
    t.makeDirectory path newDirectoryMode = .error .notFound ∧ t.isDirectory path = false := by
  have begins := start_of_upward upward t path
  have begins' := start_of_upward (upward_steps upward) t path
  rw [nowhere] at begins begins'
  simp [makeDirectory, bareSteps, isDirectory, existing, place, approach, checked, begins, begins',
    bind, Except.bind]

theorem makeDirectoriesFrom_nowhere {t : FileTree} {above : Nat} {path : String}
    (nowhere : t.hasDirectory (t.origin path) = false) (checked : checkPath path = .ok ())
    (shape : Path.IsDownward path ∨ path = ".") :
    t.makeDirectoriesFrom above path = (.error .notFound, t) := by
  induction above generalizing path with
  | zero =>
    have filled := filled_of_checkPath checked
    have upward : ".." ∉ Path.segments path := shape.elim Path.IsDownward.upward (· ▸ by decide)
    obtain ⟨made, -⟩ := not_made_nowhere nowhere checked upward
    unfold makeDirectoriesFrom
    rw [if_neg filled, made]
  | succ above ih =>
    have filled := filled_of_checkPath checked
    have upward : ".." ∉ Path.segments path := shape.elim Path.IsDownward.upward (· ▸ by decide)
    obtain ⟨made, noDirectory⟩ := not_made_nowhere nowhere checked upward
    have onto (up : String) (parent : Path.parent? path = some up)
        (outer : t.makeDirectoriesFrom above up = (.ok (), t) ∨
          t.makeDirectoriesFrom above up = (.error .notFound, t)) :
        t.makeDirectoriesFrom (above + 1) path = (.error .notFound, t) := by
      unfold makeDirectoriesFrom
      rw [if_neg filled, made, parent]
      rcases outer with outer | outer <;> simp [outer, made, noDirectory]
    have bottom := t.makeDirectoriesFrom_empty above
    rcases shape with ⟨front, last, split, plain, upward⟩ | rfl
    · obtain ⟨up, parent, absolute, -, shape⟩ := Path.parent?_of_split split plain upward
      apply onto up parent
      by_cases none : up = ""
      · exact .inl (none ▸ bottom)
      · right
        have same : t.origin up = t.origin path := by rw [origin, origin, absolute]
        have checkedUp := checkPath_of_sublist (Path.parent?_sublist parent) none checked
        rcases shape with downward | rfl | rfl | rfl
        · exact ih (same ▸ nowhere) checkedUp (.inl downward)
        · exact absurd rfl none
        · exact ih (same ▸ nowhere) checkedUp (.inr rfl)
        · cases (same ▸ nowhere : t.hasDirectory (t.origin "/") = false)
    · exact onto "" (by decide) (.inl bottom)

theorem IsStraight.makeDirectories {t : FileTree} {path last : String} {front : List String}
    (straight : IsStraight path front last) (wf : t.WellFormed) (free : t.LinkFree)
    (bare : steps path = Path.segments path) :
    ∃ made, t.makeDirectories path = (t.verdict path, made) ∧
      (t.verdict path = .ok () ∧ t.Paved (t.locate path) made ∨
        (∃ fault, t.verdict path = .error fault) ∧ made = t) := by
  have filled := Path.ne_empty_of_split straight.split
  have first := straight.makeDirectory wf free newDirectoryMode
  unfold verdict
  cases checked : checkPath path with
  | error fault =>
    rw [checked] at first
    have noDirectory : t.isDirectory path = false := by
      rw [FileTree.isDirectory, straight.existing wf free bare, checked]
      rfl
    have other : fault ≠ .notFound := by
      rintro rfl
      exact checkPath_ne_notFound filled checked
    refine ⟨t, ?_, .inr ⟨⟨fault, rfl⟩, rfl⟩⟩
    rw [makeDirectories_of_error filled first other, noDirectory]
    rfl
  | ok =>
    cases start : t.hasDirectory (t.origin path) with
    | false =>
      refine ⟨t, makeDirectoriesFrom_nowhere start checked (.inl ?_), .inr ⟨⟨_, rfl⟩, rfl⟩⟩
      exact ⟨front, last, straight.split, straight.plain, straight.upward⟩
    | true =>
      rw [checked] at first
      have there := straight.isDirectory wf free bare checked
      cases found : t.find? (t.locate path) with
      | some e =>
        have above : t.hasDirectory (t.origin path ++ Path.named front) = true :=
          wf.hasDirectory_above (straight.locate t ▸ found)
        rw [above, found] at first
        rw [makeDirectories_of_error filled first (by simp), there]
        cases e with
        | file => exact ⟨t, by simp [hasDirectory, found, Entry.isDirectory, bind, Except.bind],
            .inr ⟨⟨_, rfl⟩, rfl⟩⟩
        | link target => exact absurd found (free _ target)
        | directory mode =>
          have directory : t.hasDirectory (t.locate path) = true := hasDirectory_iff.mpr ⟨mode, found⟩
          rw [directory]
          exact ⟨t, rfl, .inl ⟨rfl, paved_refl wf directory⟩⟩
      | none =>
        have whole : t.obstacle (t.origin path) (Path.named (Path.segments path)) =
            t.obstacle (t.origin path) (Path.named front) := by
          rw [straight.named, obstacle_concat (straight.locate t ▸ found)]
        rw [whole]
        rcases obstacle_cases t (t.origin path) (Path.named front) with clear | blocked
        · have enough : (Path.named front).length ≤ (Path.components path).length := by
            rw [Path.components_eq, straight.named]
            simp only [List.length_append, List.length_map]
            omega
          obtain ⟨made, run, paved⟩ :=
            makeDirectoriesFrom_paved wf free straight checked start found clear enough
          rw [clear]
          exact ⟨made, run, .inl ⟨rfl, paved⟩⟩
        · have closed : t.hasDirectory (t.origin path ++ Path.named front) = false := by
            rw [Bool.eq_false_iff]
            intro directory
            rw [obstacle_of_directory wf directory] at blocked
            cases blocked
          rw [closed, blocked] at first
          rw [makeDirectories_of_error filled first (by simp), there, blocked]
          exact ⟨t, by simp [hasDirectory, found, bind, Except.bind], .inr ⟨⟨_, rfl⟩, rfl⟩⟩

theorem named_of_atEnd {names : List String} (last : AtEnd names) : Path.named names = [] := by
  rcases last with rfl | rfl <;> rfl

section Leads

variable {t : FileTree} {here : Location} {names : List String}

theorem Leads.location_eq (free : t.LinkFree) (upward : ".." ∉ names) {followLast : Bool} {links : Nat}
    {p : Place} (leads : Leads t followLast links here names p) :
    p.location = here ++ Path.named names := by
  induction leads with
  | stay => simp [Path.named]
  | skip stays _ ih =>
    rw [ih (fun member => upward (List.mem_cons_of_mem _ member))]
    rcases stays with rfl | rfl <;> rfl
  | up => simp at upward
  | vacant isName _ last => rw [named_cons isName, named_of_atEnd last]
  | file isName _ last => rw [named_cons isName, named_of_atEnd last]
  | into isName _ _ ih =>
    rw [ih (fun member => upward (List.mem_cons_of_mem _ member)), named_cons isName]
    simp
  | lastLink _ _ found => exact absurd found (free _ _)
  | link _ _ found => exact absurd found (free _ _)

theorem Leads.to_file {u : FileTree} (free : t.LinkFree) (wf : u.WellFormed) (upward : ".." ∉ names)
    {followLast : Bool} {links : Nat} {p : Place} (leads : Leads t followLast links here names p)
    {content : ByteArray} {mode : Nat} (file : p.entry = some (.file content mode))
    (found : u.find? p.location = some (.file content mode)) :
    Leads u followLast links here names p := by
  induction leads with
  | stay => exact .stay (found.trans file.symm)
  | skip stays _ ih =>
    exact .skip stays (ih (fun member => upward (List.mem_cons_of_mem _ member)) file found)
  | up => simp at upward
  | vacant => cases file
  | file isName _ last =>
    cases file
    exact .file isName found last
  | @into _ here name rest _ _ isName way leads ih =>
    have rest_upward : ".." ∉ rest := fun member => upward (List.mem_cons_of_mem _ member)
    have further := leads.location_eq free rest_upward
    have more : Path.named rest ≠ [] := by
      intro none
      have same := leads.entry_eq
      rw [further, none, List.append_nil, way, file] at same
      cases same
    have inside : u.hasDirectory (here ++ [name]) = true := by
      rw [further] at found
      exact wf.hasDirectory_before more found
    obtain ⟨mode, way⟩ := hasDirectory_iff.mp inside
    exact .into isName way (ih rest_upward file found)
  | lastLink _ _ way => exact absurd way (free _ _)
  | link _ _ way => exact absurd way (free _ _)

end Leads

theorem locate_congr {t u : FileTree} (current : u.current = t.current) (path : String) :
    u.locate path = t.locate path := by
  rw [locate, locate, origin, origin, current]

theorem isExecutable_of_file {t u : FileTree} (free : t.LinkFree) (wf : u.WellFormed)
    (current : u.current = t.current) {path : String} (upward : ".." ∉ Path.segments path)
    (files : ∀ content mode, t.find? (t.locate path) = some (.file content mode) →
      u.find? (t.locate path) = some (.file content mode))
    (executable : t.isExecutable path = true) : u.isExecutable path = true := by
  obtain ⟨l, content, mode, place, runs⟩ := isExecutable_eq_true_iff.mp executable
  obtain ⟨checked, start, begins, leads⟩ := approach_eq_ok_iff.mp place
  have steps_upward := upward_steps upward
  have location := leads.location_eq free steps_upward
  rw [named_steps] at location
  obtain ⟨rfl, on⟩ := start_eq_ok_iff.mp begins
  rw [leadsOn_of_upward steps_upward] at on
  obtain ⟨outer, above⟩ := hasDirectory_iff.mp on
  have file := leads.entry_eq
  dsimp only at file location
  have some : Path.named (Path.segments path) ≠ [] := by
    intro none
    rw [location, none, List.append_nil, above] at file
    cases file
  obtain rfl : t.locate path = l := location.symm
  have found := files content mode file
  have begins : u.start path (steps path) = .ok (t.origin path) := by
    rw [start_of_upward steps_upward, origin, current, ← origin, wf.hasDirectory_before some found]
    rfl
  have further := leads.to_file free wf steps_upward rfl found
  have again := approach_eq_ok_iff.mpr ⟨checked, _, begins, further⟩
  exact isExecutable_eq_true_iff.mpr ⟨_, content, mode, again, runs⟩

end ServerKeeper.FileTree

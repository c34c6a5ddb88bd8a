import ServerKeeper.Proofs.FileTree.Straight

namespace ServerKeeper

/-- A directory under a root: where paths to it start, the names from there to the root, and its own
name. -/
structure Site where
  start : Location
  way : List String
  name : String

namespace Site

variable {p q : Site} {l : Location}

def root (p : Site) : Location := p.start ++ p.way

def base (p : Site) : Location := p.root ++ [p.name]

def Passes (p : Site) (l : Location) : Prop :=
  l <+: p.root ∧ ¬l <+: p.start

def Sees (p : Site) (l : Location) : Prop :=
  p.base <+: l ∨ ∀ other, ¬p.root ++ [other] <+: l

theorem not_passes (own : p.base <+: l) : ¬p.Passes l := by
  rintro ⟨above, -⟩
  have := (own.trans above).length_le
  simp [base] at this

theorem sees_of_prefix {more : Location} (above : l <+: p.base ++ more) : p.Sees l := by
  by_cases own : p.base <+: l
  · exact .inl own
  · right
    intro other inside
    have length := inside.length_le
    have same := List.prefix_of_prefix_length_le (inside.trans above)
      (List.prefix_append p.base more) (by simp [base])
    exact own ((same.eq_of_length (by simp [base])) ▸ inside)

theorem not_own_of_sees (root : q.root = p.root) (apart : q.name ≠ p.name) (sees : p.Sees l) :
    ¬q.base <+: l := by
  intro other
  rcases sees with own | outside
  · have same := List.prefix_of_prefix_length_le other own (by simp [base, root])
    have equal := same.eq_of_length (by simp [base, root])
    simp [base, root, apart] at equal
  · exact outside q.name (root ▸ other)

end Site

namespace FileTree

/-- Another tree has at some locations what this one has, and otherwise directories that were made on
the way to the root of a site. -/
structure Resembles (p : Site) (seen : Location → Prop) (t u : FileTree) : Prop where
  current : u.current = t.current
  entry : ∀ l, seen l → u.find? l = t.find? l ∨
    p.Passes l ∧ t.find? l = none ∧ u.find? l = some (.directory newDirectoryMode)

structure Matches (seen : Location → Prop) (t u : FileTree) : Prop where
  current : u.current = t.current
  entry : ∀ l, seen l → u.find? l = t.find? l

variable {p : Site} {seen : Location → Prop} {t u v : FileTree}

theorem Matches.resembles (same : t.Matches seen u) : t.Resembles p seen u :=
  ⟨same.current, fun l sees => .inl (same.entry l sees)⟩

theorem matches_refl (t : FileTree) : t.Matches seen t :=
  ⟨rfl, fun _ _ => rfl⟩

theorem Resembles.trans (first : t.Resembles p seen u) (second : u.Resembles p seen v) :
    t.Resembles p seen v := by
  refine ⟨second.current.trans first.current, fun l sees => ?_⟩
  rcases second.entry l sees with same | ⟨passes, vacant, made⟩
  · rw [same]
    exact first.entry l sees
  · rcases first.entry l sees with same | ⟨-, -, there⟩
    · exact .inr ⟨passes, same ▸ vacant, made⟩
    · rw [there] at vacant
      cases vacant

theorem Resembles.mono {fewer : Location → Prop} (resembles : t.Resembles p seen u)
    (among : ∀ l, fewer l → seen l) : t.Resembles p fewer u :=
  ⟨resembles.current, fun l sees => resembles.entry l (among l sees)⟩

theorem Resembles.beside {q : Site} (resembles : t.Resembles p (¬p.base <+: ·) u)
    (start : p.start = q.start) (way : p.way = q.way) (apart : p.name ≠ q.name) :
    t.Resembles q q.Sees u := by
  have root : p.root = q.root := by rw [Site.root, Site.root, start, way]
  refine ⟨resembles.current, fun l sees => ?_⟩
  have entry := resembles.entry l (Site.not_own_of_sees root apart sees)
  rwa [Site.Passes, root, start] at entry

structure Solid (ways t : FileTree) : Prop where
  wellFormed : t.WellFormed
  linkFree : t.LinkFree
  holds : ways.Extends t

theorem Resembles.holds {ways : FileTree} (resembles : t.Resembles p (¬p.base <+: ·) u)
    (spared : ∀ l, p.base <+: l → ways.find? l = none) (holds : ways.Extends t) : ways.Extends u := by
  refine ⟨resembles.current.trans holds.current, fun l e found => ?_⟩
  have outside : ¬p.base <+: l := fun own => by
    rw [spared l own] at found
    cases found
  have there := holds.entry l e found
  rcases resembles.entry l outside with same | ⟨-, vacant, -⟩
  · exact same.trans there
  · rw [vacant] at there
    cases there

structure DoneAt (p : Site) (t u ways : FileTree) : Prop where
  solid : Solid ways u
  outside : t.Resembles p (¬p.base <+: ·) u

theorem doneAt_refl {ways : FileTree} (solid : Solid ways t) : t.DoneAt p t ways :=
  ⟨solid, (matches_refl t).resembles⟩

theorem DoneAt.trans {ways : FileTree} (first : t.DoneAt p u ways) (second : u.DoneAt p v ways) :
    t.DoneAt p v ways :=
  ⟨second.solid, first.outside.trans second.outside⟩

theorem doneAt_of_matches {ways : FileTree} (solid : Solid ways t)
    (spared : ∀ l, p.base <+: l → ways.find? l = none) (same : t.Matches (¬p.base <+: ·) u)
    (wf : u.WellFormed) (free : u.LinkFree) : t.DoneAt p u ways :=
  ⟨⟨wf, free, same.resembles.holds spared solid.holds⟩, same.resembles⟩

section Own

variable {ways : FileTree} {path last : String} {front : List String}
  (resembles : t.Resembles p p.Sees u)

include resembles

theorem Resembles.find?_eq {l : Location} (own : p.base <+: l) : u.find? l = t.find? l := by
  rcases resembles.entry l (.inl own) with same | ⟨passes, -⟩
  · exact same
  · exact absurd passes (Site.not_passes own)

theorem Resembles.file_iff {l : Location} (sees : p.Sees l) (content : ByteArray) (mode : Nat) :
    u.find? l = some (.file content mode) ↔ t.find? l = some (.file content mode) := by
  rcases resembles.entry l sees with same | ⟨-, vacant, made⟩
  · rw [same]
  · simp [vacant, made]

theorem Resembles.origin_eq (path : String) : u.origin path = t.origin path := by
  rw [origin, origin, resembles.current]

theorem Resembles.obstacle_eq {here : Location} {names more : List String}
    (own : here ++ names <+: p.base ++ more) : u.obstacle here names = t.obstacle here names := by
  induction names generalizing here with
  | nil => rfl
  | cons name names ih =>
    rw [List.append_cons here name names] at own
    have sees := Site.sees_of_prefix ((List.prefix_append (here ++ [name]) names).trans own)
    have files := resembles.file_iff sees
    have later := ih own
    unfold obstacle
    split
    · rename_i content mode found
      rw [(files content mode).mp found]
    · rename_i other
      split
      · rename_i content mode found
        exact absurd ((files content mode).mpr found) (other content mode)
      · exact later

theorem Resembles.obstacle_own (own : p.base <+: t.locate path) :
    u.obstacle (t.origin path) (Path.named (Path.segments path)) =
      t.obstacle (t.origin path) (Path.named (Path.segments path)) := by
  obtain ⟨more, split⟩ := own
  have whole : t.origin path ++ Path.named (Path.segments path) <+: p.base ++ more := by
    rw [split, locate]
  exact resembles.obstacle_eq whole

theorem Resembles.hasDirectory_start : u.hasDirectory p.start = t.hasDirectory p.start := by
  have first : u.find? p.start = t.find? p.start := by
    have above : p.start <+: p.base ++ [] := by
      simp only [Site.base, Site.root, List.append_assoc]
      exact List.prefix_append ..
    rcases resembles.entry p.start (Site.sees_of_prefix above) with same | ⟨passes, -⟩
    · exact same
    · exact absurd (List.prefix_refl _) passes.2
  rw [hasDirectory, hasDirectory, first]

theorem Resembles.verdict_eq (start : t.origin path = p.start) (place : t.locate path = p.base) :
    u.verdict path = t.verdict path := by
  have own : p.base <+: t.locate path := place ▸ List.prefix_refl _
  rw [verdict, verdict, locate_congr resembles.current, resembles.find?_eq own, resembles.origin_eq,
    start, resembles.hasDirectory_start, ← start, resembles.obstacle_own own]

variable (solid : Solid ways t) (solid' : Solid ways u)

include solid solid'

theorem Resembles.isExecutable_eq (upward : ".." ∉ Path.segments path)
    (sees : p.Sees (t.locate path)) : u.isExecutable path = t.isExecutable path := by
  have same := locate_congr resembles.current path
  rw [Bool.eq_iff_iff]
  constructor
  · refine isExecutable_of_file solid'.linkFree solid.wellFormed resembles.current.symm upward
      fun content mode => ?_
    rw [same]
    exact (resembles.file_iff sees content mode).mp
  · exact isExecutable_of_file solid.linkFree solid'.wellFormed resembles.current upward
      fun content mode => (resembles.file_iff sees content mode).mpr

variable (straight : IsStraight path front last) (bare : steps path = Path.segments path)

include straight bare

theorem Resembles.existing_eq (own : p.base <+: t.locate path) (followLast : Bool) :
    u.existing followLast path = t.existing followLast path := by
  rw [straight.existing solid'.wellFormed solid'.linkFree bare,
    straight.existing solid.wellFormed solid.linkFree bare, locate_congr resembles.current,
    resembles.find?_eq own, resembles.origin_eq, resembles.obstacle_own own]

theorem Resembles.readText_eq (own : p.base <+: t.locate path) : u.readText path = t.readText path := by
  rw [readText, readText, readBytes, readBytes,
    resembles.existing_eq solid solid' straight bare own]

end Own

section Made

variable {ways : FileTree} {path last : String} {front : List String}
  (straight : IsStraight path front last) (bare : steps path = Path.segments path)
  (start : t.origin path = p.start) (place : t.locate path = p.base)

include straight bare start place

theorem doneAt_makeDirectories (solid : Solid ways t)
    (spared : ∀ l, p.base <+: l → ways.find? l = none) :
    t.DoneAt p (t.makeDirectories path).2 ways := by
  obtain ⟨made, run, cases⟩ := straight.makeDirectories solid.wellFormed solid.linkFree bare
  have wf := (gains_makeDirectories solid.wellFormed path).wellFormed
  rw [run] at wf ⊢
  rcases cases with ⟨ok, paved⟩ | ⟨-, rfl⟩
  · have resembles : t.Resembles p (¬p.base <+: ·) made := by
      refine ⟨paved.current, fun l outside => ?_⟩
      rw [paved.entry, place]
      cases before : t.find? l with
      | some e => exact .inl rfl
      | none =>
        by_cases above : l <+: p.base
        · right
          rw [if_pos above]
          rcases List.prefix_concat_iff.mp above with rfl | above
          · exact absurd (List.prefix_refl _) outside
          · refine ⟨⟨above, fun before_start => ?_⟩, rfl, rfl⟩
            -- the start is a directory, and so is all that is above it
            obtain ⟨more, split⟩ := before_start
            have directory := hasDirectory_of_verdict ok
            rw [start, ← split] at directory
            obtain ⟨mode, found⟩ := hasDirectory_iff.mp (solid.wellFormed.hasDirectory_of_append directory)
            rw [before] at found
            cases found
        · rw [if_neg above]
          exact .inl rfl
    exact ⟨⟨wf, paved.linkFree solid.linkFree, resembles.holds spared solid.holds⟩, resembles⟩
  · exact doneAt_refl solid

/-- Once a site was made the same is seen in both trees: what one of them had on the way to the root
before, the other has now. -/
theorem Resembles.makeDirectories (resembles : t.Resembles p p.Sees u) (solid : Solid ways t)
    (solid' : Solid ways u) :
    (u.makeDirectories path).1 = (t.makeDirectories path).1 ∧
      (t.makeDirectories path).2.Resembles p p.Sees (u.makeDirectories path).2 ∧
      ((t.makeDirectories path).1 = .ok () →
        (t.makeDirectories path).2.Matches p.Sees (u.makeDirectories path).2) := by
  obtain ⟨made, run, cases⟩ := straight.makeDirectories solid.wellFormed solid.linkFree bare
  obtain ⟨made', run', cases'⟩ := straight.makeDirectories solid'.wellFormed solid'.linkFree bare
  have same := resembles.verdict_eq start place
  rw [run, run', same]
  rw [same] at cases'
  refine ⟨rfl, ?_⟩
  rcases cases with ⟨ok, paved⟩ | ⟨⟨fault, failed⟩, rfl⟩
  · rcases cases' with ⟨-, paved'⟩ | ⟨⟨fault, failed⟩, -⟩
    · have matched : made.Matches p.Sees made' := by
        refine ⟨paved'.current.trans (resembles.current.trans paved.current.symm), fun l sees => ?_⟩
        rw [paved.entry, paved'.entry, locate_congr resembles.current, place]
        rcases resembles.entry l sees with same | ⟨⟨above, -⟩, vacant, there⟩
        · rw [same]
        · have whole : l <+: p.base := above.trans (List.prefix_append ..)
          rw [vacant, there, if_pos whole]
          rfl
      exact ⟨matched.resembles, fun _ => matched⟩
    · rw [ok] at failed
      cases failed
  · rcases cases' with ⟨ok, -⟩ | ⟨-, rfl⟩
    · rw [failed] at ok
      cases ok
    · exact ⟨resembles, fun ok => by rw [failed] at ok; cases ok⟩

omit start in
theorem doneAt_removeTree (solid : Solid ways t)
    (spared : ∀ l, p.base <+: l → ways.find? l = none) :
    t.DoneAt p (t.removeTree path).2 ways := by
  have proper : p.base ≠ [] := by simp [Site.base]
  rw [straight.removeTree solid.wellFormed solid.linkFree bare, place]
  have removed : t.DoneAt p ((t.clear p.base).prune p.base) ways := by
    refine doneAt_of_matches solid spared ⟨rfl, fun l outside => ?_⟩
      ((solid.wellFormed.clear _).prune proper) (solid.linkFree.of_extends (removed_extends proper t))
    rw [find?_removed proper, if_neg outside]
  rcases t.existing false path with fault | ⟨l, e⟩
  · exact doneAt_refl solid
  · cases e with
    | file => exact doneAt_refl solid
    | directory => exact removed
    | link => exact removed

omit start in
theorem Resembles.removeTree (resembles : t.Resembles p p.Sees u) (solid : Solid ways t)
    (solid' : Solid ways u) :
    (u.removeTree path).1 = (t.removeTree path).1 ∧
      (t.removeTree path).2.Resembles p p.Sees (u.removeTree path).2 := by
  have proper : p.base ≠ [] := by simp [Site.base]
  have own : p.base <+: t.locate path := place ▸ List.prefix_refl _
  rw [straight.removeTree solid.wellFormed solid.linkFree bare,
    straight.removeTree solid'.wellFormed solid'.linkFree bare,
    resembles.existing_eq solid solid' straight bare own, locate_congr resembles.current, place]
  have removed : ((t.clear p.base).prune p.base).Resembles p p.Sees ((u.clear p.base).prune p.base) := by
    refine ⟨resembles.current, fun l sees => ?_⟩
    rw [find?_removed proper, find?_removed proper]
    by_cases own : p.base <+: l
    · simp [own]
    · simp only [if_neg own]
      exact resembles.entry l sees
  rcases t.existing false path with fault | ⟨l, e⟩
  · exact ⟨rfl, resembles⟩
  · cases e with
    | file => exact ⟨rfl, resembles⟩
    | directory => exact ⟨rfl, removed⟩
    | link => exact ⟨rfl, removed⟩

end Made

theorem Resembles.put (resembles : t.Resembles p seen u) {l : Location} (proper : l ≠ []) (e : Entry) :
    (t.put l e).Resembles p seen (u.put l e) := by
  refine ⟨resembles.current, fun other sees => ?_⟩
  rw [find?_put proper, find?_put proper]
  split
  · exact .inl rfl
  · exact resembles.entry other sees

section Written

variable {ways : FileTree} {path last : String} {front : List String}
  (straight : IsStraight path front last) (bare : steps path = Path.segments path)
  (place : t.origin path ++ Path.named front = p.base)

include straight bare place

theorem doneAt_writeBytes (solid : Solid ways t) (spared : ∀ l, p.base <+: l → ways.find? l = none)
    {content : ByteArray} {written : FileTree} (ok : t.writeBytes path content = .ok written) :
    t.DoneAt p written ways := by
  have wf := solid.wellFormed.writeBytes ok
  obtain ⟨l, mode, found, writable, rfl⟩ := writeBytes_eq_ok_iff.mp ok
  obtain rfl : p.base ++ [last] = l := by
    rw [straight.place solid.wellFormed solid.linkFree bare, straight.locate, place] at found
    cases checked : checkPath path with
    | error => simp [checked, bind, Except.bind] at found
    | ok =>
      cases directory : t.hasDirectory p.base <;>
        simp [checked, directory, bind, Except.bind] at found
      exact found.1
  refine doneAt_of_matches solid spared ⟨rfl, fun other outside => ?_⟩ wf
    (solid.linkFree.put (by simp) nofun)
  rw [find?_put (by simp), if_neg]
  rintro rfl
  exact outside (List.prefix_append ..)

theorem Resembles.writeBytes (resembles : t.Resembles p p.Sees u) (solid : Solid ways t)
    (solid' : Solid ways u) (content : ByteArray) :
    (∃ fault, t.writeBytes path content = .error fault ∧ u.writeBytes path content = .error fault) ∨
      ∃ written written', t.writeBytes path content = .ok written ∧
        u.writeBytes path content = .ok written' ∧ written.Resembles p p.Sees written' := by
  have proper : p.base ++ [last] ≠ [] := by simp
  have directory : u.hasDirectory p.base = t.hasDirectory p.base := by
    rw [hasDirectory, hasDirectory, resembles.find?_eq (List.prefix_refl _)]
  have entry := resembles.find?_eq (List.prefix_append p.base [last])
  have obstacle : u.obstacle (t.origin path) (Path.named front) =
      t.obstacle (t.origin path) (Path.named front) := by
    have inside : t.origin path ++ Path.named front <+: p.base ++ [last] := by
      rw [place]
      exact List.prefix_append ..
    exact resembles.obstacle_eq inside
  rw [straight.writeBytes solid.wellFormed solid.linkFree bare,
    straight.writeBytes solid'.wellFormed solid'.linkFree bare, straight.locate, straight.locate,
    resembles.origin_eq, place, directory, entry, obstacle]
  cases checkPath path with
  | error fault => exact .inl ⟨fault, rfl, rfl⟩
  | ok =>
    cases t.hasDirectory p.base with
    | false => exact .inl ⟨_, rfl, rfl⟩
    | true =>
      cases t.find? (p.base ++ [last]) with
      | none => exact .inr ⟨_, _, rfl, rfl, resembles.put proper _⟩
      | some e =>
        cases e with
        | file => exact .inr ⟨_, _, rfl, rfl, resembles.put proper _⟩
        | directory => exact .inl ⟨_, rfl, rfl⟩
        | link => exact .inl ⟨_, rfl, rfl⟩

end Written

end FileTree

end ServerKeeper

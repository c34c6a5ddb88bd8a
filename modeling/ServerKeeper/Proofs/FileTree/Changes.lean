import ServerKeeper.Proofs.FileTree.Resolution

namespace ServerKeeper.FileTree

theorem lookup_filter_fst (keep : Location → Bool) (l : Location) (entries : List (Location × Entry)) :
    (entries.filter fun p => keep p.1).lookup l = if keep l then entries.lookup l else none := by
  induction entries with
  | nil => simp
  | cons p entries ih =>
    obtain ⟨at_, e⟩ := p
    by_cases same : l = at_
    · subst same
      cases kept : keep l <;> simp [kept, ih]
    · have apart : (l == at_) = false := beq_eq_false_iff_ne.mpr same
      cases kept : keep at_ <;> simp [kept, ih, List.lookup_cons, apart]

@[simp] theorem find?_root (t : FileTree) : t.find? [] = some (.directory 0o755) := rfl

theorem find?_of_ne {l : Location} (proper : l ≠ []) (t : FileTree) :
    t.find? l = t.entries.lookup l := if_neg proper

theorem find?_put {l : Location} (proper : l ≠ []) (t : FileTree) (e : Entry) (other : Location) :
    (t.put l e).find? other = if other = l then some e else t.find? other := by
  by_cases root : other = []
  · subst root
    simp [Ne.symm proper]
  by_cases same : other = l
  · subst same
    simp [find?_of_ne proper, put]
  · have apart : (other == l) = false := beq_eq_false_iff_ne.mpr same
    rw [find?_of_ne root, find?_of_ne root, put, List.lookup_cons, apart,
      lookup_filter_fst (fun at_ => at_ != l), if_neg same]
    simp [same]

theorem find?_prune {l : Location} (proper : l ≠ []) (t : FileTree) (other : Location) :
    (t.prune l).find? other = if l <+: other then none else t.find? other := by
  by_cases root : other = []
  · subst root
    simp [proper]
  · rw [find?_of_ne root, find?_of_ne root, prune, lookup_filter_fst (fun at_ => !l.isPrefixOf at_)]
    by_cases below : l <+: other <;> simp [below]

theorem find?_clear (l : Location) (t : FileTree) (other : Location) :
    (t.clear l).find? other = if l <+: other ∧ other ≠ l then none else t.find? other := by
  by_cases root : other = []
  · subst root
    simp [eq_comm]
  · rw [find?_of_ne root, find?_of_ne root, clear,
      lookup_filter_fst (fun at_ => !(l.isPrefixOf at_ && at_ != l))]
    by_cases below : l <+: other <;> by_cases same : other = l <;> simp [below, same]

def WellFormed (t : FileTree) : Prop :=
  ∀ l name e, t.find? (l ++ [name]) = some e → ∃ mode, t.find? l = some (.directory mode)

theorem WellFormed.nothing_below {t : FileTree} (wf : t.WellFormed) {l : Location}
    (leaf : ∀ mode, t.find? l ≠ some (.directory mode)) (name : String) :
    t.find? (l ++ [name]) = none := by
  cases found : t.find? (l ++ [name]) with
  | none => rfl
  | some e =>
    obtain ⟨mode, directory⟩ := wf l name e found
    exact absurd directory (leaf mode)

def placesAll (t : FileTree) : Bool :=
  t.entries.all fun p => (t.find? p.1.dropLast).any Entry.isDirectory

theorem wellFormed_of_placesAll {t : FileTree} (all : t.placesAll = true) : t.WellFormed := by
  intro l name e found
  rw [find?_of_ne (by simp)] at found
  obtain ⟨front, back, split, -⟩ := List.lookup_eq_some_iff.mp found
  have member : (l ++ [name], e) ∈ t.entries := by simp [split]
  have placed := List.all_eq_true.mp all _ member
  simp only [List.dropLast_concat] at placed
  cases above : t.find? l with
  | none => simp [above] at placed
  | some e =>
    cases e with
    | directory mode => exact ⟨mode, rfl⟩
    | file => simp [above, Entry.isDirectory] at placed
    | link => simp [above, Entry.isDirectory] at placed

theorem WellFormed.put {t : FileTree} (wf : t.WellFormed) {dir : Location} {name : String} {mode : Nat}
    {e : Entry} (above : t.find? dir = some (.directory mode))
    (leaf : ∀ mode, t.find? (dir ++ [name]) ≠ some (.directory mode)) :
    (t.put (dir ++ [name]) e).WellFormed := by
  intro l other e' found
  have proper : dir ++ [name] ≠ [] := by simp
  rw [find?_put proper] at found ⊢
  by_cases same : l ++ [other] = dir ++ [name]
  · obtain ⟨rfl, last⟩ := List.append_inj' same rfl
    have apart : l ≠ l ++ [name] := by simp
    rw [if_neg apart]
    exact ⟨mode, above⟩
  · rw [if_neg same] at found
    obtain ⟨mode', directory⟩ := wf l other e' found
    have apart : l ≠ dir ++ [name] := fun same => leaf mode' (same ▸ directory)
    rw [if_neg apart]
    exact ⟨mode', directory⟩

theorem WellFormed.prune {t : FileTree} (wf : t.WellFormed) {l : Location} (proper : l ≠ []) :
    (t.prune l).WellFormed := by
  intro dir name e found
  rw [find?_prune proper] at found ⊢
  by_cases below : l <+: dir ++ [name]
  · simp [below] at found
  · rw [if_neg below] at found
    rw [if_neg (fun above => below (above.trans (List.prefix_append ..)))]
    exact wf dir name e found

theorem WellFormed.clear {t : FileTree} (wf : t.WellFormed) (l : Location) : (t.clear l).WellFormed := by
  intro dir name e found
  rw [find?_clear] at found ⊢
  by_cases below : l <+: dir ++ [name] ∧ dir ++ [name] ≠ l
  · simp [below] at found
  · rw [if_neg below] at found
    rw [if_neg]
    · exact wf dir name e found
    · rintro ⟨above, apart⟩
      refine below ⟨above.trans (List.prefix_append ..), ?_⟩
      rintro rfl
      exact absurd above.length_le (by simp)

/-- A tree that has all the entries of another, as they are there. -/
structure Extends (t larger : FileTree) : Prop where
  current : larger.current = t.current
  entry : ∀ l e, t.find? l = some e → larger.find? l = some e

theorem extends_put {t : FileTree} {l : Location} {e : Entry} (proper : l ≠ [])
    (vacant : t.find? l = none) : t.Extends (t.put l e) := by
  refine ⟨rfl, fun other e' found => ?_⟩
  have apart : other ≠ l := by
    rintro rfl
    simp [vacant] at found
  rw [find?_put proper, if_neg apart, found]

theorem prune_extends {l : Location} (proper : l ≠ []) (t : FileTree) : (t.prune l).Extends t := by
  refine ⟨rfl, fun other e found => ?_⟩
  rw [find?_prune proper] at found
  split at found
  · cases found
  · exact found

theorem clear_extends (l : Location) (t : FileTree) : (t.clear l).Extends t := by
  refine ⟨rfl, fun other e found => ?_⟩
  rw [find?_clear] at found
  split at found
  · cases found
  · exact found

theorem Extends.trans {t u v : FileTree} (first : t.Extends u) (second : u.Extends v) : t.Extends v :=
  ⟨second.current.trans first.current, fun l e found => second.entry l e (first.entry l e found)⟩

theorem Enters.mono {t other : FileTree}
    (ways : ∀ l e, t.find? l = some e → (∀ content mode, e ≠ .file content mode) →
      other.find? l = some e)
    {links left : Nat} {here dir : Location} {names : List String}
    (enters : Enters t links here names left dir) : Enters other links here names left dir := by
  induction enters with
  | here => exact .here
  | skip stays _ ih => exact .skip stays ih
  | up _ ih => exact .up ih
  | into isName found _ ih => exact .into isName (ways _ _ found nofun) ih
  | link isName found filled _ ih => exact .link isName (ways _ _ found nofun) filled ih

theorem start_of_directories {t other : FileTree} (current : other.current = t.current)
    (directories : ∀ l mode, t.find? l = some (.directory mode) →
      other.find? l = some (.directory mode))
    {path : String} {names : List String} {here : Location} (begins : t.start path names = .ok here) :
    other.start path names = .ok here := by
  obtain ⟨same, on⟩ := start_eq_ok_iff.mp begins
  refine start_eq_ok_iff.mpr ⟨?_, leadsOn_of_directories directories on⟩
  rw [← same, origin, origin, current]

theorem Reaches.mono {t other : FileTree} (current : other.current = t.current)
    (ways : ∀ l e, t.find? l = some e → (∀ content mode, e ≠ .file content mode) →
      other.find? l = some e)
    {path : String} {names : List String} {left : Nat} {dir : Location}
    (reaches : t.Reaches path names left dir) : other.Reaches path names left dir := by
  obtain ⟨origin, begins, enters⟩ := reaches
  have starts := start_of_directories current (fun l mode found => ways l _ found nofun) begins
  exact ⟨origin, starts, enters.mono ways⟩

theorem Extends.reaches {t larger : FileTree} (grown : t.Extends larger) {path : String}
    {names : List String} {left : Nat} {dir : Location} (reaches : t.Reaches path names left dir) :
    larger.Reaches path names left dir :=
  reaches.mono grown.current fun l e found _ => grown.entry l e found

theorem WellFormed.above {t : FileTree} (wf : t.WellFormed) {l : Location} {mode : Nat}
    (found : t.find? l = some (.directory mode)) :
    ∃ mode, t.find? l.dropLast = some (.directory mode) := by
  rcases List.eq_nil_or_concat l with rfl | ⟨dir, name, rfl⟩
  · exact ⟨_, t.find?_root⟩
  · rw [List.concat_eq_append] at found ⊢
    rw [List.dropLast_concat]
    exact wf dir name _ found

theorem WellFormed.leadsOn_link {t : FileTree} (wf : t.WellFormed) {here : Location}
    {name target : String} (found : t.find? (here ++ [name]) = some (.link target))
    (names : List String) : t.leadsOn (linkStart here target) names = true := by
  apply leadsOn_of_directory
  rw [hasDirectory_iff]
  unfold linkStart
  split
  · exact ⟨_, t.find?_root⟩
  · exact wf _ _ _ found

theorem WellFormed.leadsOn_up {t : FileTree} (wf : t.WellFormed) {here : Location}
    {rest : List String} (on : t.leadsOn here (".." :: rest) = true) :
    t.leadsOn here.dropLast rest = true := by
  cases stands : t.hasDirectory here with
  | true =>
    obtain ⟨mode, found⟩ := hasDirectory_iff.mp stands
    exact leadsOn_of_directory (hasDirectory_iff.mpr (wf.above found)) rest
  | false => simpa [leadsOn, stands] using on

theorem Enters.directory {t : FileTree} (wf : t.WellFormed) {links left : Nat} {here dir : Location}
    {names : List String} (enters : Enters t links here names left dir)
    (on : t.leadsOn here names = true) : ∃ mode, t.find? dir = some (.directory mode) := by
  induction enters with
  | here => exact hasDirectory_iff.mp on
  | skip stays _ ih => exact ih (leadsOn_of_stays stays _ ▸ on)
  | up _ ih => exact ih (wf.leadsOn_up on)
  | into _ found _ ih => exact ih (leadsOn_of_directory (hasDirectory_iff.mpr ⟨_, found⟩) _)
  | link _ found _ _ ih => exact ih (wf.leadsOn_link found _)

theorem Reaches.directory {t : FileTree} (wf : t.WellFormed) {path : String} {names : List String}
    {left : Nat} {dir : Location} (reaches : t.Reaches path names left dir) :
    ∃ mode, t.find? dir = some (.directory mode) := by
  obtain ⟨origin, begins, enters⟩ := reaches
  exact enters.directory wf (start_eq_ok_iff.mp begins).2

theorem Enters.leads_directory {t : FileTree} {links left : Nat} {here dir : Location} {mode : Nat}
    {names : List String} (enters : Enters t links here names left dir)
    (found : t.find? dir = some (.directory mode)) :
    Leads t true links here names ⟨dir, some (.directory mode), false⟩ ∧
      Leads t true links here (names ++ [""]) ⟨dir, some (.directory mode), false⟩ := by
  induction enters with
  | here => exact ⟨.stay found, .skip (.inl rfl) (.stay found)⟩
  | skip stays _ ih => exact ⟨.skip stays (ih found).1, .skip stays (ih found).2⟩
  | up _ ih => exact ⟨.up (ih found).1, .up (ih found).2⟩
  | into isName entry _ ih => exact ⟨.into isName entry (ih found).1, .into isName entry (ih found).2⟩
  | @link links here name rest target left dir isName entry filled _ ih =>
    obtain ⟨bare, slash⟩ := ih found
    constructor
    · refine .link isName (.inr rfl) entry filled ?_
      rcases List.eq_nil_or_concat rest with rfl | ⟨front, last, rfl⟩
      · rw [List.append_nil] at bare slash
        simp only [linkSteps, if_pos, steps]
        split
        · exact slash
        · exact bare
      · rw [List.concat_eq_append] at bare ⊢
        rwa [linkSteps_append target (List.cons_ne_nil last []), List.append_assoc]
    · refine .link isName (.inr rfl) entry filled ?_
      change Leads t true links _ (linkSteps target (rest ++ [""])) _
      rw [linkSteps_append target (List.cons_ne_nil "" [])]
      exact slash

theorem isDirectory_iff {t : FileTree} (wf : t.WellFormed) (path : String) :
    t.isDirectory path = true ↔ checkPath path = .ok () ∧ t.Opens path := by
  constructor
  · intro directory
    unfold isDirectory at directory
    cases found : t.existing true path with
    | error fault => simp [found] at directory
    | ok pair =>
      obtain ⟨l, e⟩ := pair
      obtain ⟨slash, place, -⟩ := existing_eq_ok_iff.mp found
      obtain ⟨checked, origin, begins, leads⟩ := approach_eq_ok_iff.mp place
      cases e with
      | directory mode =>
        obtain ⟨left, enters⟩ := leads.enters rfl
        have begins := (start_congr rfl (named_steps path) t).symm.trans begins
        exact ⟨checked, left, l, origin, begins, enters.of_named_eq (named_steps path).symm⟩
      | file => simp [found, Entry.isDirectory] at directory
      | link => simp [found, Entry.isDirectory] at directory
  · rintro ⟨checked, left, dir, reaches⟩
    obtain ⟨mode, found⟩ := reaches.directory wf
    obtain ⟨origin, begins, enters⟩ := reaches
    have leads := ((enters.of_named_eq (named_steps path)).leads_directory found).1
    have begins := (start_congr rfl (named_steps path) t).trans begins
    have place : t.place true path = .ok ⟨dir, some (.directory mode), false⟩ :=
      approach_eq_ok_iff.mpr ⟨checked, origin, begins, leads⟩
    have existing := existing_eq_ok_iff.mpr ⟨false, place, by simp⟩
    simp [isDirectory, existing, Entry.isDirectory]

theorem walk_plain {left : Nat} {dir : Location} {name : String} (plain : Path.IsPlain name)
    (t : FileTree) :
    walk t false left dir [name] =
      if name.utf8ByteSize ≤ maxName then .ok ⟨dir ++ [name], t.find? (dir ++ [name]), false⟩
      else .error .nameTooLong := by
  by_cases fits : name.utf8ByteSize ≤ maxName
  · rw [if_pos fits, walk_eq_follow, follow_of_isName (isName_of_isPlain plain fits)]
    cases found : t.find? (dir ++ [name]) with
    | none => simp
    | some e => cases e <;> simp [follow, found]
  · have moves : ¬(name = "" ∨ name = ".") := by simp [plain.1, plain.2.2.1]
    rw [if_neg fits, walk_eq_follow, follow, if_neg moves, if_neg plain.2.2.2,
      if_pos (Nat.lt_of_not_le fits)]

theorem leads_plain_iff {t : FileTree} {left : Nat} {dir : Location} {name : String} {p : Place}
    (plain : Path.IsPlain name) :
    Leads t false left dir [name] p ↔
      name.utf8ByteSize ≤ maxName ∧ p = ⟨dir ++ [name], t.find? (dir ++ [name]), false⟩ := by
  rw [← walk_eq_ok_iff, walk_plain plain]
  split
  · rename_i fits
    simp [fits, eq_comm]
  · rename_i long
    simp [long]

theorem Enters.plain {t : FileTree} {left fewer : Nat} {dir last : Location} {name : String}
    (enters : Enters t left dir [name] fewer last) (plain : Path.IsPlain name) :
    name.utf8ByteSize ≤ maxName ∧ ∃ e, t.find? (dir ++ [name]) = some e := by
  cases enters with
  | skip stays => exact absurd stays (by simp [plain.1, plain.2.2.1])
  | up => exact absurd rfl plain.2.2.2
  | into isName found => exact ⟨isName.fits, _, found⟩
  | link isName found => exact ⟨isName.fits, _, found⟩

theorem checkPath_ne_notFound {path : String} (filled : path ≠ "") :
    checkPath path ≠ .error .notFound := by
  unfold checkPath
  split
  · nofun
  · split <;> nofun

theorem makeDirectory_eq_ok_iff {t made : FileTree} {path : String} {mode : Nat} :
    t.makeDirectory path mode = .ok made ↔
      ∃ l slash, t.approach false path (Path.segments path) = .ok ⟨l, none, slash⟩ ∧
        made = t.put l (.directory mode) := by
  unfold makeDirectory bareSteps
  cases found : t.approach false path (Path.segments path) with
  | error fault => simp [bind, Except.bind]
  | ok p =>
    obtain ⟨l, _ | e, slash⟩ := p
    · simp [bind, Except.bind, eq_comm]
    · simp [bind, Except.bind]

section Named

variable {t : FileTree} {path last : String} {front : List String}

/-- A path that ends in a plain name, not followed, leads into the directory before that name. -/
theorem approach_plain_iff (split : Path.segments path = front ++ [last])
    (plain : Path.IsPlain last) {p : Place} :
    t.approach false path (Path.segments path) = .ok p ↔
      checkPath path = .ok () ∧ last.utf8ByteSize ≤ maxName ∧
        ∃ left dir, t.Reaches path front left dir ∧
          p = ⟨dir ++ [last], t.find? (dir ++ [last]), false⟩ := by
  rw [split]
  constructor
  · intro ok
    obtain ⟨left, dir, reaches, leads⟩ := reaches_of_approach plain ok
    obtain ⟨fits, same⟩ := (leads_plain_iff plain).mp leads
    exact ⟨(approach_eq_ok_iff.mp ok).1, fits, left, dir, reaches, same⟩
  · rintro ⟨checked, fits, left, dir, reaches, rfl⟩
    exact reaches.approach checked (by simp) ((leads_plain_iff plain).mpr ⟨fits, rfl⟩)

theorem Opens.above (split : Path.segments path = front ++ [last]) (plain : Path.IsPlain last)
    (opens : t.Opens path) :
    ∃ left dir e, t.Reaches path front left dir ∧ last.utf8ByteSize ≤ maxName ∧
      t.find? (dir ++ [last]) = some e := by
  obtain ⟨fewer, inner, reaches⟩ := opens
  rw [split] at reaches
  obtain ⟨left, dir, before, enters⟩ := reaches.split plain
  obtain ⟨fits, e, found⟩ := enters.plain plain
  exact ⟨left, dir, e, before, fits, found⟩

theorem makeDirectory_eq_ok {mode : Nat} {made : FileTree}
    (split : Path.segments path = front ++ [last]) (plain : Path.IsPlain last)
    (ok : t.makeDirectory path mode = .ok made) :
    ∃ left dir, t.Reaches path front left dir ∧ last.utf8ByteSize ≤ maxName ∧
      t.find? (dir ++ [last]) = none ∧ made = t.put (dir ++ [last]) (.directory mode) := by
  obtain ⟨l, slash, approach, rfl⟩ := makeDirectory_eq_ok_iff.mp ok
  obtain ⟨-, fits, left, dir, reaches, same⟩ := (approach_plain_iff split plain).mp approach
  obtain ⟨rfl, vacant, -⟩ : l = dir ++ [last] ∧ none = t.find? (dir ++ [last]) ∧ slash = false := by
    simpa using same
  exact ⟨left, dir, reaches, fits, vacant.symm, rfl⟩

/-- Making directories leaves a tree with more directories: `path` was no directory, and now it is
an empty one, unless making it failed. -/
structure Grows (t : FileTree) (path : String) (result : Except FileFault Unit) (made : FileTree) :
    Prop where
  wellFormed : made.WellFormed
  grown : t.Extends made
  fresh : ¬t.Opens path
  ok : result = .ok () → ∃ left dir, made.Reaches path (Path.segments path) left dir ∧
    ∀ name, made.find? (dir ++ [name]) = none
  error : ∀ fault, result = .error fault → ¬made.Opens path

theorem not_opens_of_vacant {left : Nat} {dir : Location} (split : Path.segments path = front ++ [last])
    (plain : Path.IsPlain last) (reaches : t.Reaches path front left dir)
    (vacant : t.find? (dir ++ [last]) = none) : ¬t.Opens path := by
  intro opens
  obtain ⟨fewer, other, e, again, -, found⟩ := opens.above split plain
  obtain ⟨-, rfl⟩ := reaches.unique again
  simp [vacant] at found

theorem makeDirectory_grows {mode : Nat} {made : FileTree} (wf : t.WellFormed)
    (split : Path.segments path = front ++ [last]) (plain : Path.IsPlain last)
    (ok : t.makeDirectory path mode = .ok made) : t.Grows path (.ok ()) made := by
  obtain ⟨left, dir, reaches, fits, vacant, rfl⟩ := makeDirectory_eq_ok split plain ok
  obtain ⟨outer, above⟩ := reaches.directory wf
  have proper : dir ++ [last] ≠ [] := by simp
  have leaf : ∀ mode, t.find? (dir ++ [last]) ≠ some (.directory mode) := by simp [vacant]
  have grown := extends_put proper vacant (e := .directory mode)
  refine ⟨wf.put above leaf, grown, not_opens_of_vacant split plain reaches vacant, ?_, nofun⟩
  intro _
  refine ⟨left, dir ++ [last], ?_, fun name => ?_⟩
  · rw [split]
    have found : (t.put (dir ++ [last]) (.directory mode)).find? (dir ++ [last]) =
        some (.directory mode) := by simp [find?_put proper]
    exact (grown.reaches reaches).append (.into (isName_of_isPlain plain fits) found .here)
  · rw [find?_put proper, if_neg (by simp)]
    exact wf.nothing_below leaf name

end Named

theorem entry_of_stays {t : FileTree} {followLast : Bool} {links : Nat} {here : Location}
    {names : List String} {p : Place} (stays : ∀ name ∈ names, name = "" ∨ name = ".")
    (leads : Leads t followLast links here names p) : p.entry ≠ none := by
  induction leads with
  | stay => nofun
  | skip _ _ ih => exact ih fun name member => stays name (List.mem_cons_of_mem _ member)
  | up => simp at stays
  | vacant isName => exact absurd isName (not_isName_of_stays (stays _ List.mem_cons_self))
  | file => nofun
  | into isName => exact absurd isName (not_isName_of_stays (stays _ List.mem_cons_self))
  | lastLink => nofun
  | link isName => exact absurd isName (not_isName_of_stays (stays _ List.mem_cons_self))

theorem makeDirectory_ne_ok {path : String} (stays : ∀ name ∈ Path.segments path, name = "" ∨ name = ".")
    (t : FileTree) (mode : Nat) (made : FileTree) : t.makeDirectory path mode ≠ .ok made := by
  intro ok
  obtain ⟨l, slash, approach, -⟩ := makeDirectory_eq_ok_iff.mp ok
  obtain ⟨-, origin, -, leads⟩ := approach_eq_ok_iff.mp approach
  exact entry_of_stays stays leads rfl

theorem makeDirectoriesFrom_empty (t : FileTree) (above : Nat) :
    t.makeDirectoriesFrom above "" = (.ok (), t) := by
  unfold makeDirectoriesFrom
  rfl

theorem makeDirectoriesFrom_bare {path : String} (bare : path = "" ∨ path = "." ∨ path = "/")
    (t : FileTree) (above : Nat) : (t.makeDirectoriesFrom above path).2 = t := by
  have stays : ∀ name ∈ Path.segments path, name = "" ∨ name = "." := by
    rcases bare with rfl | rfl | rfl <;> decide
  have stuck := makeDirectory_ne_ok stays t newDirectoryMode
  have parent : Path.parent? path = none ∨ Path.parent? path = some "" := by
    rcases bare with rfl | rfl | rfl <;> decide
  unfold makeDirectoriesFrom
  split
  · rfl
  · split
    · rename_i made ok
      exact absurd ok (stuck made)
    · split
      · rename_i up next
        obtain rfl : up = "" := by
          rcases parent with none | some <;> simp_all
        rw [makeDirectoriesFrom_empty]
        dsimp only
        split
        · rename_i made ok
          exact absurd ok (stuck made)
        · rfl
      · rfl
    · rfl

section Above

variable {t made : FileTree} {path up last : String} {front : List String}
  (split : Path.segments path = front ++ [last]) (plain : Path.IsPlain last)
  (absolute : Path.isAbsolute up = Path.isAbsolute path)
  (names : Path.named (Path.segments up) = Path.named front)

include split plain absolute names

theorem Opens.parent (opens : t.Opens path) : t.Opens up := by
  obtain ⟨left, dir, e, reaches, -⟩ := opens.above split plain
  exact ⟨left, dir, reaches.congr absolute names⟩

theorem Grows.of_error {fault : FileFault} (grows : t.Grows up (.error fault) made) :
    t.Grows path (.error fault) made :=
  ⟨grows.wellFormed, grows.grown, fun opens => grows.fresh (opens.parent split plain absolute names),
    nofun, fun _ _ opens => grows.error fault rfl (opens.parent split plain absolute names)⟩

theorem Grows.of_made {mode : Nat} {next : FileTree} (grows : t.Grows up (.ok ()) made)
    (ok : made.makeDirectory path mode = .ok next) : t.Grows path (.ok ()) next := by
  have more := makeDirectory_grows grows.wellFormed split plain ok
  exact ⟨more.wellFormed, grows.grown.trans more.grown,
    fun opens => grows.fresh (opens.parent split plain absolute names), more.ok, nofun⟩

theorem Grows.of_stuck (grows : t.Grows up (.ok ()) made) (fault : FileFault) :
    made.isDirectory path = false ∧ t.Grows path (.error fault) made := by
  obtain ⟨left, dir, reaches, empty⟩ := grows.ok rfl
  have before := reaches.congr absolute.symm names.symm
  -- what was made now is empty, so a directory that cannot be made in it is not there either
  have closed := not_opens_of_vacant split plain before (empty last)
  constructor
  · rw [Bool.eq_false_iff]
    exact fun directory => closed ((isDirectory_iff grows.wellFormed path).mp directory).2
  · exact ⟨grows.wellFormed, grows.grown,
      fun opens => grows.fresh (opens.parent split plain absolute names), nofun, fun _ _ => closed⟩

end Above

theorem makeDirectoriesFrom_cases {t : FileTree} (wf : t.WellFormed) {above : Nat} {path : String}
    (downward : Path.IsDownward path) {result : Except FileFault Unit} {made : FileTree}
    (run : t.makeDirectoriesFrom above path = (result, made)) :
    made = t ∨ t.Grows path result made := by
  induction above using Nat.strong_induction_on generalizing path result made with
  | _ above ih =>
    obtain ⟨front, last, split, plain, free⟩ := downward
    have filled := Path.ne_empty_of_split split
    obtain ⟨up, parent, absolute, names, shape⟩ := Path.parent?_of_split split plain free
    unfold makeDirectoriesFrom at run
    rw [if_neg filled, parent] at run
    cases first : t.makeDirectory path newDirectoryMode with
    | ok next =>
      simp only [first, Prod.mk.injEq] at run
      obtain ⟨rfl, rfl⟩ := run
      exact .inr (makeDirectory_grows wf split plain first)
    | error fault =>
      by_cases missing : fault = .notFound
      · subst missing
        cases above with
        | zero =>
          simp only [first, Prod.mk.injEq] at run
          exact .inl run.2.symm
        | succ above =>
          cases inner : t.makeDirectoriesFrom above up with
          | mk outcome within =>
            -- a path that is all dots or slashes has no names left to make
            have cases : within = t ∨ t.Grows up outcome within := by
              rcases shape with downward | bare
              · exact ih above (Nat.lt_succ_self above) downward inner
              · left
                rw [← makeDirectoriesFrom_bare bare t above, inner]
            cases outcome with
            | error fault =>
              simp only [first, inner, Prod.mk.injEq] at run
              obtain ⟨rfl, rfl⟩ := run
              exact cases.imp id (·.of_error split plain absolute names)
            | ok =>
              cases second : within.makeDirectory path newDirectoryMode with
              | ok next =>
                simp only [first, inner, second, Prod.mk.injEq] at run
                obtain ⟨rfl, rfl⟩ := run
                rcases cases with rfl | grows
                · simp [second] at first
                · exact .inr (grows.of_made split plain absolute names second)
              | error fault =>
                simp only [first, inner, second, Prod.mk.injEq] at run
                obtain ⟨rfl, rfl⟩ := run
                refine cases.imp id fun grows => ?_
                obtain ⟨noDirectory, grows⟩ := grows.of_stuck split plain absolute names fault
                rwa [noDirectory]
      · have stays : made = t := by
          cases fault <;> simp_all
        exact .inl stays

theorem makeDirectories_cases {t : FileTree} (wf : t.WellFormed) {path : String}
    (downward : Path.IsDownward path) :
    (t.makeDirectories path).2 = t ∨
      t.Grows path (t.makeDirectories path).1 (t.makeDirectories path).2 :=
  makeDirectoriesFrom_cases wf downward rfl

section Removed

variable {t : FileTree} {path last : String} {front : List String}

theorem not_opens_of_prune {u : FileTree} {left : Nat} {dir : Location}
    (split : Path.segments path = front ++ [last]) (plain : Path.IsPlain last)
    (reaches : t.Reaches path front left dir) (smaller : u.Extends t) :
    ¬(u.prune (dir ++ [last])).Opens path := by
  intro opens
  have proper : dir ++ [last] ≠ [] := by simp
  obtain ⟨fewer, other, e, again, -, found⟩ := opens.above split plain
  obtain ⟨-, rfl⟩ := reaches.unique (((prune_extends proper u).trans smaller).reaches again)
  simp [find?_prune proper] at found

theorem existing_plain_iff (split : Path.segments path = front ++ [last]) (plain : Path.IsPlain last)
    (bare : steps path = Path.segments path) {l : Location} {e : Entry} :
    t.existing false path = .ok (l, e) ↔
      checkPath path = .ok () ∧ last.utf8ByteSize ≤ maxName ∧
        ∃ left dir, t.Reaches path front left dir ∧ l = dir ++ [last] ∧ t.find? l = some e := by
  rw [existing_eq_ok_iff, FileTree.place, bare]
  constructor
  · rintro ⟨slash, place, -⟩
    obtain ⟨checked, fits, left, dir, reaches, same⟩ := (approach_plain_iff split plain).mp place
    obtain ⟨rfl, found, -⟩ : l = dir ++ [last] ∧ some e = t.find? (dir ++ [last]) ∧ slash = false := by
      simpa using same
    exact ⟨checked, fits, left, dir, reaches, rfl, found.symm⟩
  · rintro ⟨checked, fits, left, dir, reaches, rfl, found⟩
    refine ⟨false, ?_, nofun⟩
    exact (approach_plain_iff split plain).mpr ⟨checked, fits, left, dir, reaches, by rw [found]⟩

theorem removeEmptied_clear {left mode : Nat} {dir : Location}
    (split : Path.segments path = front ++ [last]) (plain : Path.IsPlain last)
    (checked : checkPath path = .ok ()) (fits : last.utf8ByteSize ≤ maxName)
    (reaches : t.Reaches path front left dir)
    (found : t.find? (dir ++ [last]) = some (.directory mode)) :
    (t.clear (dir ++ [last])).removeEmptied path (dir ++ [last]) =
        (.ok (), (t.clear (dir ++ [last])).prune (dir ++ [last])) ∨
      (t.clear (dir ++ [last])).removeEmptied path (dir ++ [last]) =
        (.ok (), t.clear (dir ++ [last])) ∧ ¬(t.clear (dir ++ [last])).Opens path := by
  have smaller := clear_extends (dir ++ [last]) t
  generalize cleared : t.clear (dir ++ [last]) = u at smaller ⊢
  have lastName : (Path.segments path).getLast? = some last := by simp [split]
  -- emptying the directory may have taken a link that the path leads over
  by_cases again : ∃ left, u.Reaches path front left dir
  · obtain ⟨fewer, again⟩ := again
    have kept : u.find? (dir ++ [last]) = some (.directory mode) := by
      rw [← cleared, find?_clear, if_neg (by simp), found]
    have place := (approach_plain_iff split plain).mpr ⟨checked, fits, fewer, dir, again, rfl⟩
    left
    simp [removeEmptied, bareSteps, place, kept, lastName, plain.2.2.1, plain.2.2.2]
  · right
    have closed : ¬u.Opens path := by
      intro opens
      obtain ⟨fewer, other, e, before, -⟩ := opens.above split plain
      obtain ⟨-, rfl⟩ := reaches.unique (smaller.reaches before)
      exact again ⟨fewer, before⟩
    refine ⟨?_, closed⟩
    cases place : u.approach false path (Path.segments path) with
    | error fault => simp [removeEmptied, bareSteps, place]
    | ok p =>
      obtain ⟨-, -, fewer, other, before, -⟩ := (approach_plain_iff split plain).mp place
      obtain ⟨-, rfl⟩ := reaches.unique (smaller.reaches before)
      exact absurd ⟨fewer, before⟩ again

theorem removeTree_ok (wf : t.WellFormed) (split : Path.segments path = front ++ [last])
    (plain : Path.IsPlain last) (bare : steps path = Path.segments path) {left : FileTree}
    (ok : t.removeTree path = (.ok (), left)) : left.WellFormed ∧ ¬left.Opens path := by
  unfold removeTree at ok
  cases found : t.existing false path with
  | error fault => simp [found] at ok
  | ok pair =>
    obtain ⟨l, e⟩ := pair
    obtain ⟨checked, fits, _, dir, reaches, rfl, entry⟩ :=
      (existing_plain_iff split plain bare).mp found
    have proper : dir ++ [last] ≠ [] := by simp
    rw [found] at ok
    cases e with
    | file => simp at ok
    | link target =>
      obtain rfl : t.prune (dir ++ [last]) = left := by simpa using ok
      exact ⟨wf.prune proper, not_opens_of_prune split plain reaches ⟨rfl, fun _ _ found => found⟩⟩
    | directory mode =>
      have smaller := clear_extends (dir ++ [last]) t
      rcases removeEmptied_clear split plain checked fits reaches entry with gone | ⟨gone, closed⟩
      · obtain rfl := congrArg Prod.snd (gone.symm.trans ok)
        exact ⟨(wf.clear _).prune proper, not_opens_of_prune split plain reaches smaller⟩
      · obtain rfl := congrArg Prod.snd (gone.symm.trans ok)
        exact ⟨wf.clear _, closed⟩

theorem removeTree_error (split : Path.segments path = front ++ [last])
    (plain : Path.IsPlain last) (bare : steps path = Path.segments path) {fault : FileFault}
    {left : FileTree} (failed : t.removeTree path = (.error fault, left)) :
    left = t ∧ (t.existing false path = .error fault ∨ fault = .notADirectory) := by
  unfold removeTree at failed
  cases found : t.existing false path with
  | error other =>
    simp only [found, Prod.mk.injEq, Except.error.injEq] at failed
    exact ⟨failed.2.symm, .inl (congrArg _ failed.1)⟩
  | ok pair =>
    obtain ⟨l, e⟩ := pair
    obtain ⟨checked, fits, _, dir, reaches, rfl, entry⟩ :=
      (existing_plain_iff split plain bare).mp found
    rw [found] at failed
    cases e with
    | file =>
      simp only [Prod.mk.injEq, Except.error.injEq] at failed
      exact ⟨failed.2.symm, .inr failed.1.symm⟩
    | link target => simp at failed
    | directory mode =>
      rcases removeEmptied_clear split plain checked fits reaches entry with gone | ⟨gone, -⟩ <;>
        exact absurd (congrArg Prod.fst (gone.symm.trans failed)) nofun

theorem not_opens_of_missing (split : Path.segments path = front ++ [last])
    (plain : Path.IsPlain last) (bare : steps path = Path.segments path)
    (missing : t.existing false path = .error .notFound) : ¬t.Opens path := by
  intro opens
  have filled := Path.ne_empty_of_split split
  obtain ⟨left, dir, e, reaches, fits, entry⟩ := opens.above split plain
  cases checked : checkPath path with
  | ok =>
    have found := (existing_plain_iff (t := t) split plain bare).mpr
      ⟨checked, fits, left, dir, reaches, rfl, entry⟩
    simp [missing] at found
  | error fault =>
    have other := checkPath_ne_notFound filled
    simp only [existing, FileTree.place, approach, checked, bind, Except.bind,
      Except.error.injEq] at missing
    exact other (missing ▸ checked)

end Removed

end ServerKeeper.FileTree

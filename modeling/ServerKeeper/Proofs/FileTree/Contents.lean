import ServerKeeper.Proofs.FileTree.Changes

namespace ServerKeeper.FileTree

theorem Leads.entry_eq {t : FileTree} {followLast : Bool} {links : Nat} {here : Location}
    {names : List String} {p : Place} (leads : Leads t followLast links here names p) :
    t.find? p.location = p.entry := by
  induction leads with
  | stay found => exact found
  | skip _ _ ih => exact ih
  | up _ ih => exact ih
  | vacant _ found _ => exact found
  | file _ found _ => exact found
  | into _ _ _ ih => exact ih
  | lastLink _ _ found => exact found
  | link _ _ _ _ _ ih => exact ih

inductive Writable : Option Entry → Nat → Prop
  | new : Writable none newFileMode
  | old {content mode} : Writable (some (.file content mode)) mode

theorem Writable.ne_directory {entry : Option Entry} {mode : Nat} (writable : Writable entry mode)
    (other : Nat) : entry ≠ some (.directory other) := by
  cases writable <;> nofun

theorem Writable.proper {t : FileTree} {l : Location} {mode : Nat}
    (writable : Writable (t.find? l) mode) : l ≠ [] := by
  rintro rfl
  exact writable.ne_directory _ t.find?_root

theorem writeBytes_eq_ok_iff {t written : FileTree} {path : String} {content : ByteArray} :
    t.writeBytes path content = .ok written ↔
      ∃ l mode, t.place true path = .ok ⟨l, t.find? l, false⟩ ∧ Writable (t.find? l) mode ∧
        written = t.put l (.file content mode) := by
  constructor
  · intro ok
    unfold writeBytes at ok
    cases found : t.place true path with
    | error fault => simp [found, bind, Except.bind] at ok
    | ok p =>
      obtain ⟨l, entry, slash⟩ := p
      obtain ⟨-, _, -, leads⟩ := approach_eq_ok_iff.mp found
      obtain rfl : t.find? l = entry := leads.entry_eq
      cases slash with
      | true => simp [found, bind, Except.bind] at ok
      | false =>
        cases entry : t.find? l with
        | none =>
          simp only [found, entry, bind, Except.bind, Bool.false_eq_true, if_false,
            Except.ok.injEq] at ok
          exact ⟨l, _, by rw [entry], entry ▸ .new, ok.symm⟩
        | some e =>
          cases e <;> simp only [found, entry, bind, Except.bind, Bool.false_eq_true, if_false,
            Except.ok.injEq, reduceCtorEq] at ok
          exact ⟨l, _, by rw [entry], entry ▸ .old, ok.symm⟩
  · rintro ⟨l, mode, place, writable, rfl⟩
    generalize entry : t.find? l = e at place writable
    cases writable <;> simp [writeBytes, place, bind, Except.bind]

theorem find?_written {t : FileTree} {l : Location} {mode : Nat}
    (writable : Writable (t.find? l) mode) (content : ByteArray) (other : Location) :
    (t.put l (.file content mode)).find? other =
      if other = l then some (.file content mode) else t.find? other :=
  find?_put writable.proper ..

/-- The ways of a tree go on in another one, and so do its programs; other files may differ. -/
structure Keeps (t other : FileTree) : Prop where
  current : other.current = t.current
  ways : ∀ l e, t.find? l = some e → (∀ content mode, e ≠ .file content mode) → other.find? l = some e
  programs : ∀ l content mode, t.find? l = some (.file content mode) →
    (Entry.file content mode).isExecutable = true → ∃ content, other.find? l = some (.file content mode)

section Written

variable {t : FileTree} {l : Location} {content : ByteArray} {mode : Nat}

theorem keeps_written (writable : Writable (t.find? l) mode) :
    t.Keeps (t.put l (.file content mode)) := by
  refine ⟨rfl, fun other e found way => ?_, fun other content' mode' found program => ?_⟩
  · rw [find?_written writable, if_neg, found]
    rintro rfl
    rw [found] at writable
    cases writable
    exact way _ _ rfl
  · rw [find?_written writable]
    split
    · rename_i same
      rw [← same, found] at writable
      cases writable
      exact ⟨content, rfl⟩
    · exact ⟨content', found⟩

theorem written_keeps (writable : Writable (t.find? l) mode) :
    (t.put l (.file content mode)).Keeps t := by
  refine ⟨rfl, fun other e found way => ?_, fun other content' mode' found program => ?_⟩
  · rw [find?_written writable] at found
    split at found
    · cases found
      exact absurd rfl (way _ _)
    · exact found
  · rw [find?_written writable] at found
    split at found
    · rename_i same
      cases found
      generalize entry : t.find? l = e at writable
      cases writable with
      | new => simp [Entry.isExecutable, newFileMode] at program
      | @old before => exact ⟨before, same ▸ entry⟩
    · exact ⟨content', found⟩

end Written

theorem Keeps.start {t other : FileTree} (keeps : t.Keeps other) {path : String}
    {names : List String} {here : Location} (begins : t.start path names = .ok here) :
    other.start path names = .ok here :=
  start_of_directories keeps.current (fun l _ found => keeps.ways l _ found nofun) begins

theorem Keeps.reaches {t other : FileTree} (keeps : t.Keeps other) {path : String}
    {names : List String} {left : Nat} {dir : Location} (reaches : t.Reaches path names left dir) :
    other.Reaches path names left dir :=
  reaches.mono keeps.current keeps.ways

theorem Leads.kept {t other : FileTree} (keeps : t.Keeps other) {links : Nat} {here : Location}
    {names : List String} {p : Place} (leads : Leads t true links here names p)
    {content : ByteArray} {mode : Nat} (found : other.find? p.location = some (.file content mode)) :
    Leads other true links here names ⟨p.location, some (.file content mode), p.slash⟩ := by
  induction leads with
  | stay => exact .stay found
  | skip stays _ ih => exact .skip stays (ih found)
  | up _ ih => exact .up (ih found)
  | vacant isName _ last => exact .file isName found last
  | file isName _ last => exact .file isName found last
  | into isName way _ ih => exact .into isName (keeps.ways _ _ way nofun) (ih found)
  | lastLink _ meant => cases meant
  | link isName followed way filled _ ih =>
    exact .link isName followed (keeps.ways _ _ way nofun) filled (ih found)

theorem Keeps.place {t other : FileTree} (keeps : t.Keeps other) {path : String} {p : Place}
    (place : t.place true path = .ok p) {content : ByteArray} {mode : Nat}
    (found : other.find? p.location = some (.file content mode)) :
    other.place true path = .ok ⟨p.location, some (.file content mode), p.slash⟩ := by
  obtain ⟨checked, origin, begins, leads⟩ := approach_eq_ok_iff.mp place
  exact approach_eq_ok_iff.mpr ⟨checked, origin, keeps.start begins, leads.kept keeps found⟩

theorem isExecutable_eq_true_iff {t : FileTree} {path : String} :
    t.isExecutable path = true ↔
      ∃ l content mode, t.place true path = .ok ⟨l, some (.file content mode), false⟩ ∧
        (Entry.file content mode).isExecutable = true := by
  constructor
  · intro executable
    unfold isExecutable at executable
    cases found : t.existing true path with
    | error fault => simp [found] at executable
    | ok pair =>
      obtain ⟨l, e⟩ := pair
      obtain ⟨slash, place, bare⟩ := existing_eq_ok_iff.mp found
      cases e with
      | file content mode =>
        cases slash with
        | true => exact absurd (bare rfl) nofun
        | false => exact ⟨l, content, mode, place, by simpa [found] using executable⟩
      | directory => simp [found, Entry.isExecutable] at executable
      | link => simp [found, Entry.isExecutable] at executable
  · rintro ⟨l, content, mode, place, executable⟩
    have found := existing_eq_ok_iff.mpr ⟨false, place, nofun⟩
    simpa [isExecutable, found] using executable

theorem Keeps.isExecutable {t other : FileTree} (keeps : t.Keeps other) {path : String}
    (executable : t.isExecutable path = true) : other.isExecutable path = true := by
  obtain ⟨l, content, mode, place, program⟩ := isExecutable_eq_true_iff.mp executable
  obtain ⟨-, _, -, leads⟩ := approach_eq_ok_iff.mp place
  obtain ⟨now, found⟩ := keeps.programs l content mode leads.entry_eq program
  exact isExecutable_eq_true_iff.mpr ⟨l, now, mode, keeps.place place found, program⟩

/-- Writing a file makes no program and unmakes none: a new file is no program, and one that was
there keeps its mode. -/
theorem isExecutable_writeBytes {t written : FileTree} {path : String} {content : ByteArray}
    (ok : t.writeBytes path content = .ok written) (other : String) :
    written.isExecutable other = t.isExecutable other := by
  obtain ⟨l, mode, -, writable, rfl⟩ := writeBytes_eq_ok_iff.mp ok
  rw [Bool.eq_iff_iff]
  exact ⟨(written_keeps writable).isExecutable, (keeps_written writable).isExecutable⟩

theorem readBytes_writeBytes {t written : FileTree} {path : String} {content : ByteArray}
    (ok : t.writeBytes path content = .ok written) : written.readBytes path = .ok content := by
  obtain ⟨l, mode, place, writable, rfl⟩ := writeBytes_eq_ok_iff.mp ok
  have found := find?_written writable content l
  rw [if_pos rfl] at found
  have again := (keeps_written writable).place place found
  have existing := existing_eq_ok_iff.mpr ⟨false, again, nofun⟩
  simp [readBytes, existing, bind, Except.bind]

theorem readText_writeText {t written : FileTree} {path text : String}
    (ok : t.writeText path text = .ok written) : written.readText path = .ok text := by
  have decoded : String.fromUTF8? text.toUTF8 = some text := by
    simp [String.fromUTF8?, String.fromUTF8, text.isValidUTF8]
  simp only [readText, readBytes_writeBytes ok, bind, Except.bind, decoded]

theorem Leads.above {t : FileTree} (wf : t.WellFormed) {followLast : Bool} {links : Nat}
    {here : Location} {names : List String} {p : Place}
    (leads : Leads t followLast links here names p)
    (on : t.leadsOn here names = true) (vacant : p.entry = none) :
    ∃ dir name mode, p.location = dir ++ [name] ∧ t.find? dir = some (.directory mode) := by
  induction leads with
  | stay => cases vacant
  | skip stays _ ih => exact ih (leadsOn_of_stays stays _ ▸ on) vacant
  | up _ ih => exact ih (wf.leadsOn_up on) vacant
  | vacant isName =>
    rw [leadsOn_of_isName isName] at on
    obtain ⟨mode, found⟩ := hasDirectory_iff.mp on
    exact ⟨_, _, mode, rfl, found⟩
  | file => cases vacant
  | into _ found _ ih => exact ih (leadsOn_of_directory (hasDirectory_iff.mpr ⟨_, found⟩) _) vacant
  | lastLink => cases vacant
  | link _ _ found _ _ ih => exact ih (wf.leadsOn_link found _) vacant

theorem WellFormed.writeBytes {t written : FileTree} (wf : t.WellFormed) {path : String}
    {content : ByteArray} (ok : t.writeBytes path content = .ok written) : written.WellFormed := by
  obtain ⟨l, mode, place, writable, rfl⟩ := writeBytes_eq_ok_iff.mp ok
  have above : ∃ dir name mode, l = dir ++ [name] ∧ t.find? dir = some (.directory mode) := by
    cases entry : t.find? l with
    | none =>
      obtain ⟨-, origin, begins, leads⟩ := approach_eq_ok_iff.mp place
      exact leads.above wf (start_eq_ok_iff.mp begins).2 entry
    | some e =>
      rcases List.eq_nil_or_concat l with rfl | ⟨dir, name, same⟩
      · exact absurd rfl writable.proper
      · rw [List.concat_eq_append] at same
        obtain ⟨mode, found⟩ := wf dir name e (same ▸ entry)
        exact ⟨dir, name, mode, same, found⟩
  obtain ⟨dir, name, outer, rfl, found⟩ := above
  exact wf.put found writable.ne_directory

section Behind

variable {t : FileTree} {base name : String} (plain : Path.IsPlain name)

include plain

theorem steps_join : steps (Path.join base name) = Path.segments base ++ [name] := by
  have last : (Path.join base name).toList.getLast? ≠ some '/' := by
    rw [Path.getLast?_join plain.1]
    exact fun last => plain.2.1 (List.mem_of_getLast? last)
  simp [steps, last, Path.segments_join plain.isSegment]

theorem Reaches.approach_join {left : Nat} {dir : Location}
    (reaches : t.Reaches base (Path.segments base) left dir) :
    t.approach false (Path.join base name) (Path.segments (Path.join base name)) =
      checkPath (Path.join base name) >>= fun _ =>
        if name.utf8ByteSize ≤ maxName then .ok ⟨dir ++ [name], t.find? (dir ++ [name]), false⟩
        else .error .nameTooLong := by
  obtain ⟨origin, begins, enters⟩ := reaches
  have begins := (start_congr (Path.isAbsolute_join plain.isSegment) rfl t).trans begins
  have behind : t.Reaches (Path.join base name) (Path.segments base) left dir :=
    ⟨origin, begins, enters⟩
  rw [Path.segments_join plain.isSegment, behind.approach_eq (List.cons_ne_nil name []),
    walk_plain plain]

theorem Reaches.place_join {left : Nat} {dir : Location}
    (reaches : t.Reaches base (Path.segments base) left dir) :
    t.place false (Path.join base name) =
      checkPath (Path.join base name) >>= fun _ =>
        if name.utf8ByteSize ≤ maxName then .ok ⟨dir ++ [name], t.find? (dir ++ [name]), false⟩
        else .error .nameTooLong := by
  rw [FileTree.place, steps_join plain, ← Path.segments_join plain.isSegment,
    reaches.approach_join plain]

theorem entry_of_readText {text : String} (ok : t.readText (Path.join base name) = .ok text) :
    ∃ left dir e, t.Reaches base (Path.segments base) left dir ∧
      t.find? (dir ++ [name]) = some e := by
  unfold readText readBytes at ok
  cases found : t.existing true (Path.join base name) with
  | error fault => simp [found, bind, Except.bind] at ok
  | ok pair =>
    obtain ⟨l, e⟩ := pair
    obtain ⟨slash, place, -⟩ := existing_eq_ok_iff.mp found
    rw [FileTree.place, steps_join plain] at place
    obtain ⟨left, dir, reaches, leads⟩ := reaches_of_approach plain place
    have here : ∃ e, t.find? (dir ++ [name]) = some e := by
      cases leads with
      | skip stays => exact absurd stays (by simp [plain.1, plain.2.2.1])
      | up => exact absurd rfl plain.2.2.2
      | file _ entry => exact ⟨_, entry⟩
      | into _ entry => exact ⟨_, entry⟩
      | lastLink _ _ entry => exact ⟨_, entry⟩
      | link _ _ entry => exact ⟨_, entry⟩
    obtain ⟨e, entry⟩ := here
    exact ⟨left, dir, e, reaches.congr (Path.isAbsolute_join plain.isSegment).symm rfl, entry⟩

theorem readText_of_not_opens (closed : ¬t.Opens base) :
    (t.readText (Path.join base name)).toOption = none := by
  cases read : t.readText (Path.join base name) with
  | error => rfl
  | ok text =>
    obtain ⟨left, dir, -, reaches, -⟩ := entry_of_readText plain read
    exact absurd ⟨left, dir, reaches⟩ closed

theorem readText_of_empty {left : Nat} {dir : Location}
    (reaches : t.Reaches base (Path.segments base) left dir)
    (empty : t.find? (dir ++ [name]) = none) :
    (t.readText (Path.join base name)).toOption = none := by
  cases read : t.readText (Path.join base name) with
  | error => rfl
  | ok text =>
    obtain ⟨fewer, other, e, again, found⟩ := entry_of_readText plain read
    obtain ⟨-, rfl⟩ := reaches.unique again
    simp [empty] at found

theorem readText_makeDirectories (wf : t.WellFormed) (downward : Path.IsDownward base) :
    ((t.makeDirectories base).2.readText (Path.join base name)).toOption =
      (t.readText (Path.join base name)).toOption := by
  rcases makeDirectories_cases wf downward with same | grows
  · rw [same]
  · rw [readText_of_not_opens plain grows.fresh]
    cases result : (t.makeDirectories base).1 with
    | error fault => exact readText_of_not_opens plain (grows.error fault result)
    | ok =>
      obtain ⟨left, dir, reaches, empty⟩ := grows.ok result
      exact readText_of_empty plain reaches (empty name)

end Behind

end ServerKeeper.FileTree

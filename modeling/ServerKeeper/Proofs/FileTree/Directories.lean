import ServerKeeper.Proofs.FileTree.Contents

namespace ServerKeeper

/-- A path, or one that is left when its last components are taken off. -/
inductive Path.Ancestor : String → String → Prop
  | self {path} : Ancestor path path
  | above {path up other} : parent? path = some up → Ancestor up other → Ancestor path other

namespace FileTree

theorem Leads.enters_made {t larger : FileTree} (grown : t.Extends larger) {followLast : Bool}
    {links : Nat} {here : Location} {names : List String} {p : Place} {mode : Nat}
    (leads : Leads t followLast links here names p) (vacant : p.entry = none)
    (made : larger.find? p.location = some (.directory mode)) :
    ∃ left, Enters larger links here names left p.location := by
  induction leads with
  | stay => cases vacant
  | skip stays _ ih =>
    obtain ⟨left, enters⟩ := ih vacant made
    exact ⟨left, .skip stays enters⟩
  | up _ ih =>
    obtain ⟨left, enters⟩ := ih vacant made
    exact ⟨left, .up enters⟩
  | vacant isName _ last =>
    rcases last with rfl | rfl
    · exact ⟨_, .into isName made .here⟩
    · exact ⟨_, .into isName made (.skip (.inl rfl) .here)⟩
  | file => cases vacant
  | into isName found _ ih =>
    obtain ⟨left, enters⟩ := ih vacant made
    exact ⟨left, .into isName (grown.entry _ _ found) enters⟩
  | lastLink => cases vacant
  | link isName _ found filled _ ih =>
    obtain ⟨left, enters⟩ := ih vacant made
    have through := enters.of_named_eq (named_linkSteps ..).symm
    exact ⟨left, .link isName (grown.entry _ _ found) filled through⟩

structure Gains (t : FileTree) (path : String) (made : FileTree) : Prop where
  wellFormed : made.WellFormed
  grown : t.Extends made
  added : ∀ l e, t.find? l = none → made.find? l = some e →
    e = .directory newDirectoryMode ∧
      ∃ up left, Path.Ancestor path up ∧ made.Reaches up (Path.segments up) left l

theorem gains_refl {t : FileTree} (wf : t.WellFormed) (path : String) : t.Gains path t := by
  refine ⟨wf, ⟨rfl, fun _ _ found => found⟩, fun l e vacant found => ?_⟩
  rw [vacant] at found
  cases found

theorem gains_makeDirectory {t made : FileTree} (wf : t.WellFormed) {path : String}
    (ok : t.makeDirectory path newDirectoryMode = .ok made) : t.Gains path made := by
  obtain ⟨l, slash, approach, rfl⟩ := makeDirectory_eq_ok_iff.mp ok
  obtain ⟨-, origin, begins, leads⟩ := approach_eq_ok_iff.mp approach
  have vacant : t.find? l = none := leads.entry_eq
  obtain ⟨dir, name, mode, rfl, above⟩ := leads.above wf (start_eq_ok_iff.mp begins).2 rfl
  have proper : dir ++ [name] ≠ [] := by simp
  have grown := extends_put proper vacant (e := .directory newDirectoryMode)
  have made := find?_put proper t (.directory newDirectoryMode)
  refine ⟨wf.put above (by simp [vacant]), grown, fun other e absent found => ?_⟩
  by_cases same : other = dir ++ [name]
  · subst same
    rw [made, if_pos rfl] at found
    obtain ⟨left, enters⟩ := leads.enters_made grown rfl ((made _).trans (if_pos rfl))
    have starts := start_of_directories grown.current (fun l mode => grown.entry l _) begins
    exact ⟨(Option.some.inj found).symm, path, left, .self, origin, starts, enters⟩
  · rw [made, if_neg same, absent] at found
    cases found

theorem Gains.above {t made : FileTree} {path up : String} (gains : t.Gains up made)
    (parent : Path.parent? path = some up) : t.Gains path made := by
  refine ⟨gains.wellFormed, gains.grown, fun l e vacant found => ?_⟩
  obtain ⟨directory, other, left, ancestor, reaches⟩ := gains.added l e vacant found
  exact ⟨directory, other, left, .above parent ancestor, reaches⟩

theorem Gains.trans {t between made : FileTree} {path : String} (first : t.Gains path between)
    (second : between.Gains path made) : t.Gains path made := by
  refine ⟨second.wellFormed, first.grown.trans second.grown, fun l e vacant found => ?_⟩
  cases before : between.find? l with
  | none => exact second.added l e before found
  | some e' =>
    obtain rfl : e' = e := Option.some.inj ((second.grown.entry l e' before).symm.trans found)
    obtain ⟨directory, up, left, ancestor, reaches⟩ := first.added l e' vacant before
    exact ⟨directory, up, left, ancestor, second.grown.reaches reaches⟩

theorem gains_makeDirectoriesFrom {t : FileTree} (wf : t.WellFormed) (above : Nat) (path : String) :
    t.Gains path (t.makeDirectoriesFrom above path).2 := by
  fun_induction makeDirectoriesFrom t above path with
  | case1 => exact gains_refl wf _
  | case2 _ _ _ _ made => exact gains_makeDirectory wf made
  | case3 path _ _ above up parent fault within inner ih =>
    rw [inner] at ih
    exact ih.above parent
  | case4 path _ _ above up parent within inner made second ih =>
    rw [inner] at ih
    have first := ih.above parent
    exact first.trans (gains_makeDirectory first.wellFormed second)
  | case5 path _ _ above up parent within inner _ _ ih =>
    rw [inner] at ih
    exact ih.above parent
  | case6 => exact gains_refl wf _
  | case7 => exact gains_refl wf _

theorem gains_makeDirectories {t : FileTree} (wf : t.WellFormed) (path : String) :
    t.Gains path (t.makeDirectories path).2 :=
  gains_makeDirectoriesFrom wf _ path

theorem WellFormed.vacant_below {t : FileTree} (wf : t.WellFormed) {l : Location}
    (vacant : t.find? l = none) (more : Location) : t.find? (l ++ more) = none := by
  induction more using List.reverseRecOn with
  | nil => rwa [List.append_nil]
  | append_singleton more name ih =>
    rw [← List.append_assoc]
    exact wf.nothing_below (by simp [ih]) name

theorem WellFormed.isPrefixOf_eq_false {t : FileTree} (wf : t.WellFormed) {l : Location}
    (vacant : t.find? l = none) {p : Location × Entry} (member : p ∈ t.entries) :
    l.isPrefixOf p.1 = false := by
  rw [Bool.eq_false_iff, ne_eq, List.isPrefixOf_iff_prefix]
  rintro ⟨more, same⟩
  have proper : l ≠ [] := by
    rintro rfl
    simp at vacant
  have absent := wf.vacant_below vacant more
  rw [same, find?_of_ne (by simp [← same, proper]), List.lookup_eq_none_iff] at absent
  simpa using absent p member

theorem prune_clear (t : FileTree) (l : Location) : (t.clear l).prune l = t.prune l := by
  simp only [clear, prune, List.filter_filter]
  congr 2
  funext p
  cases l.isPrefixOf p.1 <;> simp

section Vacant

variable {t : FileTree} {l : Location}

theorem put_entries (wf : t.WellFormed) (vacant : t.find? l = none) (e : Entry) :
    (t.put l e).entries = (l, e) :: t.entries := by
  have kept : t.entries.filter (·.1 != l) = t.entries := by
    apply List.filter_eq_self.mpr
    intro p member
    have outside := wf.isPrefixOf_eq_false vacant member
    have apart : p.1 ≠ l := by
      rintro rfl
      simp [Bool.eq_false_iff] at outside
    simpa using apart
  simp [put, kept]

theorem clear_put (wf : t.WellFormed) (vacant : t.find? l = none) (e : Entry) :
    (t.put l e).clear l = t.put l e := by
  have kept : (t.put l e).entries.filter (fun p => !(l.isPrefixOf p.1 && p.1 != l)) =
      (t.put l e).entries := by
    apply List.filter_eq_self.mpr
    intro p member
    rw [put_entries wf vacant, List.mem_cons] at member
    rcases member with rfl | member
    · simp
    · have outside := wf.isPrefixOf_eq_false vacant member
      simp [outside]
  rw [clear, kept]

theorem prune_put (wf : t.WellFormed) (vacant : t.find? l = none) (e : Entry) :
    (t.put l e).prune l = t := by
  have kept : (t.put l e).entries.filter (fun p => !l.isPrefixOf p.1) = t.entries := by
    rw [put_entries wf vacant, List.filter_cons_of_neg (by simp)]
    apply List.filter_eq_self.mpr
    intro p member
    have outside := wf.isPrefixOf_eq_false vacant member
    simp [outside]
  rw [prune, kept]
  rfl

end Vacant

section Named

variable {t : FileTree} {path last : String} {front : List String} {mode : Nat}

theorem removeTree_directory {l : Location} (split : Path.segments path = front ++ [last])
    (plain : Path.IsPlain last) (bare : steps path = Path.segments path)
    (outside : (t.clear l).existing false path = .ok (l, .directory mode)) :
    t.removeTree path = (.ok (), (t.clear l).prune l) := by
  obtain ⟨checked, fits, left, dir, reaches, rfl, found⟩ :=
    (existing_plain_iff split plain bare).mp outside
  have smaller := clear_extends (dir ++ [last]) t
  have existing := (existing_plain_iff split plain bare).mpr
    ⟨checked, fits, left, dir, smaller.reaches reaches, rfl, smaller.entry _ _ found⟩
  have place := (approach_plain_iff split plain).mpr ⟨checked, fits, left, dir, reaches, rfl⟩
  have lastName : (Path.segments path).getLast? = some last := by simp [split]
  simp [removeTree, existing, removeEmptied, bareSteps, place, found, lastName, plain.2.2.1,
    plain.2.2.2]

end Named

end FileTree

end ServerKeeper

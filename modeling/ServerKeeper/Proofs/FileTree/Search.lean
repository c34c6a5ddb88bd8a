import Mathlib.Data.List.Basic
import Mathlib.Tactic
import ServerKeeper.FileTree.Search
import ServerKeeper.Proofs.FileTree.Contents

namespace ServerKeeper

namespace Path

/-- A path that ends in a name: neither a slash nor dots stand at its end. -/
structure EndsInName (path : String) : Prop where
  unslashed : path.toList.getLast? ≠ some '/'
  name : ∃ front last, segments path = front ++ [last] ∧ last ≠ "." ∧ last ≠ ".."

theorem filter_splitOn_ne_nil {c : Char} {text : List Char} (member : c ∈ text) (other : c ≠ '/') :
    (text.splitOn '/').filter (!·.isEmpty) ≠ [] := by
  induction text with
  | nil => cases member
  | cons d text ih =>
    rw [List.splitOn_cons_eq_if_modifyHead]
    by_cases slash : d = '/'
    · have later : c ∈ text := by
        rcases List.mem_cons.mp member with same | later
        · exact absurd (same.trans slash) other
        · exact later
      simpa [slash] using ih later
    · have filled := List.splitOn_ne_nil '/' text
      obtain ⟨piece, rest, split⟩ := List.exists_cons_of_ne_nil filled
      simp [slash, split]

theorem segments_ne_nil {path : String} {c : Char} (member : c ∈ path.toList) (other : c ≠ '/') :
    segments path ≠ [] := by
  have pieces := filter_splitOn_ne_nil member other
  simpa [segments, Text.splitOn_eq] using pieces

theorem ne_slash_of_getLast? {text : List Char} (filled : text ≠ [])
    (unslashed : text.getLast? ≠ some '/') : ∃ c ∈ text, c ≠ '/' := by
  refine ⟨text.getLast filled, List.getLast_mem filled, fun same => unslashed ?_⟩
  rw [List.getLast?_eq_getLast_of_ne_nil filled, same]

theorem length_components (path : String) :
    (components path).length = (lead path).length + (named (segments path)).length := by
  rw [components_eq, List.length_append, List.length_map]

theorem EndsInName.front_ne_nil {path last : String} {front : List String} (ends : EndsInName path)
    (relative : isAbsolute path = false) (slash : '/' ∈ path.toList)
    (split : segments path = front ++ [last]) : front ≠ [] := by
  obtain ⟨before, behind, text, free⟩ := List.eq_append_cons_of_mem slash
  have filled : before ≠ [] := by
    rintro rfl
    simp [isAbsolute, text] at relative
  have segment : IsSegment (String.ofList before) :=
    ⟨by simpa [← String.toList_inj] using filled, by simpa using free⟩
  have parts : segments path = String.ofList before :: segments (String.ofList behind) := by
    rw [← String.ofList_toList (s := path), text, segments_append_slash, segments_of_isSegment segment,
      List.singleton_append]
  have ended : behind ≠ [] := by
    rintro rfl
    exact ends.unslashed (by simp [text])
  have unslashed : behind.getLast? ≠ some '/' := by
    intro last
    apply ends.unslashed
    rw [text, List.getLast?_append, List.getLast?_cons, last]
    rfl
  obtain ⟨c, member, other⟩ := ne_slash_of_getLast? ended unslashed
  have more : segments (String.ofList behind) ≠ [] := segments_ne_nil (by simpa using member) other
  rintro rfl
  rw [split, List.nil_append] at parts
  exact more (List.cons.inj parts).2.symm

theorem EndsInName.front_pos {path last : String} {front : List String} (ends : EndsInName path)
    (slash : '/' ∈ path.toList) (split : segments path = front ++ [last]) :
    0 < (lead path).length + (named front).length := by
  cases absolute : isAbsolute path with
  | true =>
    rw [lead, if_pos absolute, List.length_singleton]
    omega
  | false =>
    obtain ⟨first, front, rfl⟩ := List.exists_cons_of_ne_nil (ends.front_ne_nil absolute slash split)
    by_cases dot : first = "."
    · have head : (segments path).head? = some "." := by simp [split, dot]
      rw [lead, absolute, if_neg Bool.false_ne_true, if_pos head, List.length_singleton]
      omega
    · have member : first ∈ segments path := by simp [split]
      have filled : first ≠ "" := (mem_segments member).1
      have kept : named (first :: front) = first :: named front := by simp [named, filled, dot]
      rw [kept, List.length_cons]
      omega

theorem EndsInName.one_lt_components {path : String} (ends : EndsInName path)
    (slash : '/' ∈ path.toList) : 1 < (components path).length := by
  obtain ⟨front, last, split, dot, -⟩ := ends.name
  have member : last ∈ segments path := by simp [split]
  have filled : last ≠ "" := (mem_segments member).1
  have ended : named (segments path) = named front ++ [last] := by
    rw [split, named_append]
    simp [named, filled, dot]
  have before := ends.front_pos slash split
  rw [length_components, ended, List.length_append, List.length_singleton]
  omega

theorem isAbsolute_of_notMem {path : String} (free : '/' ∉ path.toList) : isAbsolute path = false := by
  rw [isAbsolute, beq_eq_false_iff_ne]
  intro head
  exact free (List.mem_of_mem_head? head)

theorem components_le_one {path : String} (free : '/' ∉ path.toList) :
    (components path).length ≤ 1 := by
  by_cases empty : path = ""
  · subst empty
    decide
  · have segment : IsSegment path := ⟨empty, free⟩
    rw [components_eq, lead, segments_of_isSegment segment, not_isAbsolute_of_isSegment segment]
    by_cases dot : path = "."
    · subst dot
      decide
    · simp [named, dot, empty]

theorem EndsInName.of_join {base path : String} (ends : EndsInName (join base path))
    (relative : isAbsolute path = false) (filled : path ≠ "") : EndsInName path := by
  have unslashed : path.toList.getLast? ≠ some '/' := by
    rw [← getLast?_join filled]
    exact ends.unslashed
  have chars : path.toList ≠ [] := fun none => filled (String.toList_inj.mp none)
  obtain ⟨c, member, other⟩ := ne_slash_of_getLast? chars unslashed
  obtain ⟨front, last, split, noDots⟩ := ends.name
  rw [segments_join_of_relative relative] at split
  obtain ⟨before, last', own⟩ : ∃ before last', segments path = before ++ [last'] := by
    have some := segments_ne_nil member other
    exact ⟨_, _, (List.dropLast_concat_getLast some).symm⟩
  rw [own, ← List.append_assoc] at split
  obtain rfl : last' = last := List.singleton_inj.mp (List.append_inj_right' split rfl)
  exact ⟨unslashed, before, last', own, noDots⟩

theorem slash_mem_join {base path : String} (filled : base ≠ "") (relative : isAbsolute path = false) :
    '/' ∈ (join base path).toList := by
  have full : base.isEmpty = false := by simp [filled]
  rw [join, relative, full, Bool.or_self, if_neg Bool.false_ne_true]
  split
  · rename_i last
    have member : '/' ∈ base.toList := List.mem_of_getLast? (by simpa using last)
    simp [member]
  · simp

end Path

namespace FileTree

variable {t : FileTree}

/-- A walk that ends at a regular file ends with a name: a slash or dots would lead to a directory. -/
theorem Leads.ends_in_name (wf : t.WellFormed) {links : Nat} {here : Location} {names : List String}
    {p : Place} (leads : Leads t true links here names p)
    (on : t.leadsOn here names = true) {content : ByteArray} {mode : Nat}
    (file : p.entry = some (.file content mode)) (bare : p.slash = false) :
    ∃ front last, names = front ++ [last] ∧ last ≠ "" ∧ last ≠ "." ∧ last ≠ ".." := by
  induction leads with
  | stay found =>
    obtain ⟨above, directory⟩ := hasDirectory_iff.mp on
    cases file.symm.trans (found.symm.trans directory)
  | skip stays _ ih =>
    obtain ⟨front, last, rfl, name⟩ := ih (leadsOn_of_stays stays _ ▸ on) file bare
    exact ⟨_ :: front, last, rfl, name⟩
  | up _ ih =>
    obtain ⟨front, last, rfl, name⟩ := ih (wf.leadsOn_up on) file bare
    exact ⟨_ :: front, last, rfl, name⟩
  | vacant => cases file
  | file isName _ atEnd =>
    obtain rfl : _ = [] := by simpa using bare
    exact ⟨[], _, rfl, isName.filled, isName.noDot, isName.noDots⟩
  | @into _ _ _ rest _ _ _ found _ ih =>
    have on := leadsOn_of_directory (hasDirectory_iff.mpr ⟨_, found⟩) rest
    obtain ⟨front, last, rfl, name⟩ := ih on file bare
    exact ⟨_ :: front, last, rfl, name⟩
  | lastLink => cases file
  | @link _ _ name rest target _ isName _ found _ _ ih =>
    obtain ⟨front, last, split, last_name⟩ := ih (wf.leadsOn_link found _) file bare
    by_cases only : rest = []
    · subst only
      exact ⟨[], name, rfl, isName.filled, isName.noDot, isName.noDots⟩
    · obtain ⟨before, last', rfl⟩ : ∃ before last', rest = before ++ [last'] :=
        ⟨_, _, (List.dropLast_concat_getLast only).symm⟩
      rw [linkSteps, if_neg only, ← List.append_assoc] at split
      obtain rfl : last' = last := List.singleton_inj.mp (List.append_inj_right' split rfl)
      exact ⟨name :: before, last', rfl, last_name⟩

theorem endsInName_of_isExecutable (wf : t.WellFormed) {path : String}
    (executable : t.isExecutable path = true) : Path.EndsInName path := by
  obtain ⟨l, content, mode, place, -⟩ := isExecutable_eq_true_iff.mp executable
  obtain ⟨-, origin, begins, leads⟩ := approach_eq_ok_iff.mp place
  obtain ⟨front, last, split, filled, noDots⟩ :=
    leads.ends_in_name wf (start_eq_ok_iff.mp begins).2 rfl rfl
  unfold steps at split
  dsimp only at split
  split at split
  · obtain rfl : "" = last := List.singleton_inj.mp (List.append_inj_right' split rfl)
    exact absurd rfl filled
  · rename_i unmarked
    refine ⟨fun slash => unmarked ⟨?_, slash⟩, front, last, split, noDots⟩
    simp [split]

theorem file_of_isExecutable {path : String} (executable : t.isExecutable path = true) :
    ∃ l content mode, t.existing true path = .ok (l, .file content mode) ∧ mode &&& 0o111 ≠ 0 := by
  obtain ⟨l, content, mode, place, bits⟩ := isExecutable_eq_true_iff.mp executable
  exact ⟨l, content, mode, existing_eq_ok_iff.mpr ⟨false, place, nofun⟩,
    by simpa [Entry.isExecutable] using bits⟩

/-- What has a slash in it and still counts as one component leads to a directory from anywhere. -/
theorem one_lt_components_of_isExecutable (wf : t.WellFormed) {dir program : String}
    (slash : '/' ∈ program.toList) (executable : t.isExecutable (Path.join dir program) = true) :
    1 < (Path.components program).length := by
  have ends := endsInName_of_isExecutable wf executable
  have filled : program ≠ "" := by
    rintro rfl
    cases slash
  cases absolute : Path.isAbsolute program with
  | true =>
    have alone : Path.join dir program = program := by
      rw [Path.join, absolute, Bool.true_or, if_pos rfl]
    rw [alone] at ends
    exact ends.one_lt_components slash
  | false => exact (ends.of_join absolute filled).one_lt_components slash

theorem findProgram_of_slash (wf : t.WellFormed) {program : String} (slash : '/' ∈ program.toList)
    (searchPath : Option String) :
    t.findProgram program searchPath = if t.isExecutable program then some program else none := by
  by_cases many : 1 < (Path.components program).length
  · rw [findProgram, if_pos many]
  · have itself : Path.join "" program = program := by simp [Path.join]
    have nowhere (dir : String) : ¬t.isExecutable (Path.join dir program) = true :=
      fun executable => many (one_lt_components_of_isExecutable wf slash executable)
    have absent : ¬t.isExecutable program = true := itself ▸ nowhere ""
    rw [findProgram, if_neg many, if_neg absent, Option.bind_eq_none_iff]
    intro text _
    rw [List.find?_eq_none]
    intro path member
    obtain ⟨dir, -, rfl⟩ := List.mem_map.mp member
    exact nowhere dir

theorem findProgram_of_name {program : String} (free : '/' ∉ program.toList)
    (searchPath : Option String) :
    t.findProgram program searchPath = searchPath.bind fun text =>
      (((text.toList.splitOn ':').filter (· ≠ [])).map fun dir =>
        Path.join (String.ofList dir) program).find? t.isExecutable := by
  have few : ¬1 < (Path.components program).length := Nat.not_lt.mpr (Path.components_le_one free)
  have filled : (fun dir : List Char => !dir.isEmpty) = fun dir => decide (dir ≠ []) := by
    funext dir
    cases dir <;> rfl
  rw [findProgram, if_neg few]
  simp only [Path.searchList, Text.splitOn_eq, List.map_map, Function.comp_def, filled]

/-- The rule of the search: with a slash in it the program is a path and taken as it is; without one it
is a name, and the first directory of the search path that has it wins. What is found is an executable
file, and its path has a slash in it, so that nothing looks for it a second time. -/
theorem findProgram_rule (wf : t.WellFormed) (program : String) (searchPath : Option String) :
    (t.findProgram program searchPath =
      if '/' ∈ program.toList then if t.isExecutable program then some program else none
      else searchPath.bind fun text =>
        (((text.toList.splitOn ':').filter (· ≠ [])).map fun dir =>
          Path.join (String.ofList dir) program).find? t.isExecutable) ∧
    ∀ found, t.findProgram program searchPath = some found → '/' ∈ found.toList ∧
      ∃ l content mode, t.existing true found = .ok (l, .file content mode) ∧ mode &&& 0o111 ≠ 0 := by
  by_cases slash : '/' ∈ program.toList
  · have rule := findProgram_of_slash wf slash searchPath
    rw [if_pos slash]
    refine ⟨rule, fun path found => ?_⟩
    rw [rule, Option.ite_none_right_eq_some] at found
    obtain ⟨executable, same⟩ := found
    obtain rfl := Option.some.inj same
    exact ⟨slash, file_of_isExecutable executable⟩
  · have rule := findProgram_of_name (t := t) slash searchPath
    rw [if_neg slash]
    refine ⟨rule, fun path found => ?_⟩
    rw [rule] at found
    obtain ⟨text, -, first⟩ := Option.bind_eq_some_iff.mp found
    obtain ⟨dir, listed, rfl⟩ := List.mem_map.mp (List.mem_of_find?_eq_some first)
    have filled : String.ofList dir ≠ "" := by
      have listedText : dir ≠ [] := by simpa using (List.mem_filter.mp listed).2
      simpa [← String.toList_inj] using listedText
    have relative := Path.isAbsolute_of_notMem slash
    have executable : t.isExecutable (Path.join (String.ofList dir) program) = true :=
      List.find?_some first
    exact ⟨Path.slash_mem_join filled relative, file_of_isExecutable executable⟩

def programsAndLinks : FileTree where
  entries := [(["bin"], .directory 0o755), (["bin", "go"], .directory 0o755),
    (["tools"], .directory 0o755), (["tools", "go"], .file ByteArray.empty 0o755)]
  current := ["tools"]

theorem wellFormed_programsAndLinks : programsAndLinks.WellFormed := wellFormed_of_placesAll (by decide)

/-- A dot behind a slash is no name, so the program is not found through the search path either. -/
theorem findProgram_rule_programsAndLinks :
    programsAndLinks.findProgram "go" (some ":/bin:/tools") = some "/tools/go" ∧
      programsAndLinks.findProgram "go/." (some ":/bin:/tools") = none := by
  constructor
  · rw [(findProgram_rule wellFormed_programsAndLinks _ _).1]
    decide +kernel
  · rw [(findProgram_rule wellFormed_programsAndLinks _ _).1]
    decide +kernel

end FileTree

end ServerKeeper

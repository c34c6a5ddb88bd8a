import Mathlib.Data.List.Basic
import Mathlib.Tactic
import ServerKeeper.Path

namespace ServerKeeper

theorem Text.splitOn_eq (separator : Char) (text : List Char) :
    Text.splitOn separator text = text.splitOn separator := by
  induction text with
  | nil => rfl
  | cons c rest ih =>
    rw [Text.splitOn, List.splitOn_cons_eq_if_modifyHead, ih]
    by_cases same : c = separator
    · simp [same]
    · simp only [same, if_false, beq_iff_eq]
      cases pieces : rest.splitOn separator with
      | nil => exact absurd pieces (List.splitOn_ne_nil separator rest)
      | cons piece pieces => rfl

namespace Path

def IsPlain (name : String) : Prop :=
  name ≠ "" ∧ '/' ∉ name.toList ∧ name ≠ "." ∧ name ≠ ".."

instance (name : String) : Decidable (IsPlain name) :=
  inferInstanceAs (Decidable (_ ∧ _ ∧ _ ∧ _))

def IsSegment (name : String) : Prop :=
  name ≠ "" ∧ '/' ∉ name.toList

theorem IsPlain.isSegment {name : String} (plain : IsPlain name) : IsSegment name :=
  ⟨plain.1, plain.2.1⟩

theorem isPlain_of_isSegment {name : String} (segment : IsSegment name) (dot : name ≠ ".")
    (dots : name ≠ "..") : IsPlain name :=
  ⟨segment.1, segment.2, dot, dots⟩

theorem segments_append_slash (left right : List Char) :
    segments (String.ofList (left ++ '/' :: right)) =
      segments (String.ofList left) ++ segments (String.ofList right) := by
  simp [segments, Text.splitOn_eq, List.splitOn_append_cons_self]

theorem segments_of_isSegment {name : String} (segment : IsSegment name) :
    segments name = [name] := by
  have filled : name.toList ≠ [] := fun empty => segment.1 (String.toList_inj.mp empty)
  simp [segments, Text.splitOn_eq, List.splitOn_eq_singleton segment.2, filled]

@[simp] theorem segments_empty : segments "" = [] := rfl

theorem ne_empty_of_split {path last : String} {front : List String}
    (split : segments path = front ++ [last]) : path ≠ "" := by
  rintro rfl
  simp at split

theorem mem_segments {name path : String} (member : name ∈ segments path) : IsSegment name := by
  simp only [segments, Text.splitOn_eq, List.mem_map, List.mem_filter] at member
  obtain ⟨piece, ⟨cut, filled⟩, rfl⟩ := member
  constructor
  · intro empty
    have := congrArg String.toList empty
    simp_all
  · have free : ∀ text : List Char, ∀ piece ∈ text.splitOn '/', '/' ∉ piece := by
      intro text
      induction text with
      | nil => simp
      | cons c rest ih =>
        rw [List.splitOn_cons_eq_if_modifyHead]
        have pieces := List.splitOn_ne_nil '/' rest
        cases parts : rest.splitOn '/' with
        | nil => exact absurd parts pieces
        | cons head tail =>
          rw [parts] at ih
          split
          · simpa using ih
          · rename_i other
            simp only [beq_iff_eq] at other
            simp only [List.modifyHead_cons, List.mem_cons, forall_eq_or_imp, not_or] at ih ⊢
            exact ⟨⟨Ne.symm other, ih.1⟩, ih.2⟩
    rw [String.toList_ofList]
    exact free _ _ cut

theorem isAbsolute_append {left right : String} (filled : left ≠ "") :
    isAbsolute (left ++ right) = isAbsolute left := by
  have chars : left.toList ≠ [] := fun empty => filled (String.toList_inj.mp empty)
  cases h : left.toList with
  | nil => exact absurd h chars
  | cons c rest => simp [isAbsolute, h]

theorem not_isAbsolute_of_isSegment {name : String} (segment : IsSegment name) :
    isAbsolute name = false := by
  have free := segment.2
  cases h : name.toList with
  | nil => simp [isAbsolute, h]
  | cons c rest =>
    rw [h, List.mem_cons, not_or] at free
    simp [isAbsolute, h, Ne.symm free.1]

theorem segments_join_of_relative {base path : String} (relative : isAbsolute path = false) :
    segments (join base path) = segments base ++ segments path := by
  rw [join, relative]
  by_cases empty : base = ""
  · simp [empty]
  · have full : base.isEmpty = false := by simp [empty]
    simp only [full, Bool.or_self, Bool.false_eq_true, if_false]
    split
    · rename_i last
      obtain ⟨front, split⟩ : ∃ front, base.toList = front ++ ['/'] := by
        have := List.dropLast_append_getLast? '/' (by simpa using last)
        exact ⟨_, this.symm⟩
      have whole : base ++ path = String.ofList (front ++ '/' :: path.toList) := by
        rw [← String.toList_inj]
        simp [split]
      have cut := segments_append_slash front []
      rw [whole, segments_append_slash, String.ofList_toList, ← String.ofList_toList (s := base), split,
        cut]
      simp
    · have whole : base ++ "/" ++ path = String.ofList (base.toList ++ '/' :: path.toList) := by
        rw [← String.toList_inj]
        simp
      rw [whole, segments_append_slash, String.ofList_toList, String.ofList_toList]

theorem segments_join {base name : String} (segment : IsSegment name) :
    segments (join base name) = segments base ++ [name] := by
  rw [segments_join_of_relative (not_isAbsolute_of_isSegment segment), segments_of_isSegment segment]

theorem isAbsolute_join {base name : String} (segment : IsSegment name) :
    isAbsolute (join base name) = isAbsolute base := by
  have relative := not_isAbsolute_of_isSegment segment
  rw [join, relative]
  by_cases empty : base = ""
  · simp [empty, relative]
    rfl
  · have full : base.isEmpty = false := by simp [empty]
    simp only [full, Bool.or_self, Bool.false_eq_true, if_false]
    split
    · exact isAbsolute_append empty
    · rw [String.append_assoc]
      exact isAbsolute_append empty

theorem getLast?_join {base name : String} (filled : name ≠ "") :
    (join base name).toList.getLast? = name.toList.getLast? := by
  obtain ⟨front, last, split⟩ : ∃ front last, name.toList = front ++ [last] := by
    rcases List.eq_nil_or_concat name.toList with empty | ⟨front, last, split⟩
    · exact absurd (String.toList_inj.mp empty) filled
    · exact ⟨front, last, by rw [split, List.concat_eq_append]⟩
  have behind (before : List Char) : (before ++ name.toList).getLast? = name.toList.getLast? := by
    rw [split, ← List.append_assoc, List.getLast?_concat, List.getLast?_concat]
  unfold join
  split
  · rfl
  · split <;> rw [String.toList_append] <;> exact behind _

theorem segments_intercalate {names : List String} (free : ∀ name ∈ names, '/' ∉ name.toList) :
    segments ("/".intercalate names) = names.filter (· != "") := by
  cases names with
  | nil => rfl
  | cons first rest =>
    have cut : ("/".intercalate (first :: rest)).toList.splitOn '/' =
        (first :: rest).map String.toList := by
      rw [String.toList_intercalate]
      apply List.splitOn_intercalate
      · intro piece member
        obtain ⟨name, among, rfl⟩ := List.mem_map.mp member
        exact free name among
      · simp
    have filled (name : String) : (!name.toList.isEmpty) = (name != "") := by
      rw [Bool.eq_iff_iff]
      simp
    rw [segments, Text.splitOn_eq, cut, List.filter_map, List.map_map]
    simp only [Function.comp_def, filled, String.ofList_toList, List.map_id']

theorem isAbsolute_intercalate {first : String} (filled : first ≠ "") (rest : List String) :
    isAbsolute ("/".intercalate (first :: rest)) = isAbsolute first := by
  cases rest with
  | nil => rw [String.intercalate_singleton]
  | cons second rest =>
    rw [String.intercalate_cons_cons, String.append_assoc]
    exact isAbsolute_append filled

def lead (path : String) : List Component :=
  if isAbsolute path then [.root]
  else if (segments path).head? = some "." then [.current]
  else []

def named (names : List String) : List String :=
  names.filter fun name => name != "" && name != "."

theorem named_append (left right : List String) :
    named (left ++ right) = named left ++ named right :=
  List.filter_append ..

theorem named_segments (path : String) : (segments path).filter (· != ".") = named (segments path) := by
  apply List.filter_congr
  intro name member
  simp [(mem_segments member).1]

theorem components_eq (path : String) :
    components path = lead path ++ (named (segments path)).map Component.ofSegment := by
  simp only [components, named_segments, lead, beq_iff_eq]
  split
  · rfl
  · split <;> rfl

theorem mem_components_of_mem_segments {path : String} (member : ".." ∈ segments path) :
    Component.parent ∈ components path := by
  rw [components_eq]
  apply List.mem_append_right
  exact List.mem_map.mpr ⟨"..", List.mem_filter.mpr ⟨member, by decide⟩, by decide⟩

def IsDownward (path : String) : Prop :=
  ∃ front last, segments path = front ++ [last] ∧ IsPlain last ∧ ".." ∉ front

theorem IsDownward.upward {path : String} (downward : IsDownward path) : ".." ∉ segments path := by
  obtain ⟨front, last, split, plain, free⟩ := downward
  rw [split]
  simp [free, Ne.symm plain.2.2.2]

theorem map_ofSegment {names : List String} (free : ".." ∉ names) :
    names.map Component.ofSegment = names.map Component.name := by
  apply List.map_congr_left
  intro name member
  have different : name ≠ ".." := fun same => free (same ▸ member)
  simp [Component.ofSegment, different]

theorem parent?_eq {path last : String} {front : List String}
    (split : segments path = front ++ [last]) (plain : IsPlain last) (free : ".." ∉ front) :
    parent? path = some (ofComponents (lead path ++ (named front).map Component.name)) := by
  have noDots : ".." ∉ named front := fun member => free (List.mem_of_mem_filter member)
  have whole : components path =
      (lead path ++ (named front).map Component.name) ++ [Component.name last] := by
    rw [components_eq, split, ← map_ofSegment noDots]
    simp [named, plain.1, plain.2.2.1, Component.ofSegment, plain.2.2.2]
  rw [parent?, whole]
  simp

theorem lead_cases (path : String) :
    (isAbsolute path = true ∧ lead path = [.root]) ∨
      isAbsolute path = false ∧ (lead path = [.current] ∨ lead path = []) := by
  unfold lead
  cases isAbsolute path
  · right
    by_cases dot : (segments path).head? = some "." <;> simp [dot]
  · left
    simp

theorem segments_ofComponents {cs : List Component} (free : ∀ c ∈ cs, '/' ∉ c.text.toList) :
    segments (ofComponents cs) = (cs.map Component.text).filter (· != "") := by
  unfold ofComponents
  split
  · rfl
  · apply segments_intercalate
    intro name member
    obtain ⟨c, among, rfl⟩ := List.mem_map.mp member
    exact free c among

theorem isAbsolute_ofComponents_root (names : List String) :
    isAbsolute (ofComponents (.root :: names.map Component.name)) = true := by
  cases names with
  | nil => rfl
  | cons first rest =>
    simp [ofComponents, Component.text, isAbsolute]

theorem isAbsolute_ofComponents_names {names : List String} (plain : ∀ name ∈ names, IsPlain name) :
    isAbsolute (ofComponents (names.map Component.name)) = false := by
  cases names with
  | nil => rfl
  | cons first rest =>
    have segment := (plain first (by simp)).isSegment
    simp only [ofComponents, List.map_cons, Component.text]
    rw [isAbsolute_intercalate segment.1]
    exact not_isAbsolute_of_isSegment segment

theorem isAbsolute_ofComponents_current (names : List String) :
    isAbsolute (ofComponents (.current :: names.map Component.name)) = false := by
  simp only [ofComponents, List.map_cons, Component.text]
  rw [isAbsolute_intercalate (by decide)]
  rfl

theorem segments_ofComponents_lead (path : String) {names : List String}
    (plain : ∀ name ∈ names, IsPlain name) :
    ∃ before, named before = [] ∧
      segments (ofComponents (lead path ++ names.map Component.name)) = before ++ names := by
  have full : names.filter (· != "") = names := by
    apply List.filter_eq_self.mpr
    intro name member
    simpa using (plain name member).1
  have free : ∀ c ∈ lead path ++ names.map Component.name, '/' ∉ c.text.toList := by
    intro c member
    rcases List.mem_append.mp member with member | member
    · rcases lead_cases path with ⟨_, h⟩ | ⟨_, h | h⟩ <;> rw [h] at member <;>
        simp_all [Component.text]
    · obtain ⟨name, among, rfl⟩ := List.mem_map.mp member
      exact (plain name among).2.1
  refine ⟨((lead path).map Component.text).filter (· != ""), ?_, ?_⟩
  · rcases lead_cases path with ⟨_, h⟩ | ⟨_, h | h⟩ <;> simp [h, named, Component.text]
  · rw [segments_ofComponents free]
    simp [Function.comp_def, Component.text, full]

theorem isAbsolute_ofComponents_lead (path : String) {names : List String}
    (plain : ∀ name ∈ names, IsPlain name) :
    isAbsolute (ofComponents (lead path ++ names.map Component.name)) = isAbsolute path := by
  rcases lead_cases path with ⟨absolute, h⟩ | ⟨relative, h | h⟩
  · rw [h, absolute]
    exact isAbsolute_ofComponents_root names
  · rw [h, relative]
    exact isAbsolute_ofComponents_current names
  · rw [h, relative]
    exact isAbsolute_ofComponents_names plain

/-- The path above another starts where that one starts, and leads over the same names but the last.
It ends in a plain name again, or it has no name left. -/
theorem parent?_of_split {path last : String} {front : List String}
    (split : segments path = front ++ [last]) (plain : IsPlain last) (free : ".." ∉ front) :
    ∃ above, parent? path = some above ∧ isAbsolute above = isAbsolute path ∧
      named (segments above) = named front ∧
      (IsDownward above ∨ above = "" ∨ above = "." ∨ above = "/") := by
  have names : ∀ name ∈ named front, IsPlain name := by
    intro name member
    obtain ⟨among, moves⟩ := List.mem_filter.mp member
    have dot : name ≠ "." := by simp_all
    have member : name ∈ segments path := split ▸ List.mem_append_left [last] among
    have segment := mem_segments member
    exact isPlain_of_isSegment segment dot (fun dots => free (dots ▸ among))
  obtain ⟨before, dots, parts⟩ := segments_ofComponents_lead path names
  refine ⟨_, parent?_eq split plain free, isAbsolute_ofComponents_lead path names, ?_, ?_⟩
  · have kept : named (named front) = named front := by simp [named]
    rw [parts, named_append, dots, kept, List.nil_append]
  · by_cases empty : named front = []
    · right
      rw [empty]
      rcases lead_cases path with ⟨_, h⟩ | ⟨_, h | h⟩ <;> rw [h]
      · exact .inr (.inr rfl)
      · exact .inr (.inl rfl)
      · exact .inl rfl
    · left
      refine ⟨before ++ (named front).dropLast, (named front).getLast empty, ?_, ?_, ?_⟩
      · rw [parts, List.append_assoc, List.dropLast_concat_getLast empty]
      · exact names _ (List.getLast_mem empty)
      · intro member
        rcases List.mem_append.mp member with member | member
        · have kept : ".." ∈ named before := List.mem_filter.mpr ⟨member, by decide⟩
          rw [dots] at kept
          exact absurd kept List.not_mem_nil
        · exact (names _ (List.mem_of_mem_dropLast member)).2.2.2 rfl

theorem intercalate_sublist (separator : List Char) {some all : List (List Char)}
    (among : some.Sublist all) :
    (separator.intercalate some).Sublist (separator.intercalate all) := by
  induction among with
  | slnil => exact .refl _
  | @cons some all piece among ih =>
    cases all with
    | nil =>
      obtain rfl := List.sublist_nil.mp among
      simp
    | cons next all =>
      rw [List.intercalate_cons_cons]
      exact ih.trans (List.sublist_append_right ..)
  | @cons_cons some all piece among ih =>
    cases some with
    | nil =>
      cases all with
      | nil => exact .refl _
      | cons next all =>
        rw [List.intercalate_cons_cons, List.append_assoc, List.intercalate_singleton]
        exact List.sublist_append_left ..
    | cons first some =>
      cases all with
      | nil => cases among
      | cons next all =>
        rw [List.intercalate_cons_cons, List.intercalate_cons_cons]
        exact ih.append_left _

theorem segments_sublist (path : String) :
    ((segments path).map String.toList).Sublist (path.toList.splitOn '/') := by
  have same : (segments path).map String.toList =
      (path.toList.splitOn '/').filter (!·.isEmpty) := by
    simp [segments, Text.splitOn_eq, Function.comp_def]
  exact same ▸ List.filter_sublist

theorem isAbsolute_of_root {path : String} (root : .root ∈ components path) :
    isAbsolute path = true := by
  rw [components_eq, List.mem_append] at root
  rcases root with before | among
  · unfold lead at before
    by_contra relative
    rw [if_neg relative] at before
    split at before <;> simp at before
  · obtain ⟨name, -, same⟩ := List.mem_map.mp among
    unfold Component.ofSegment at same
    split at same <;> cases same

theorem text_ofSegment (name : String) : (Component.ofSegment name).text = name := by
  unfold Component.ofSegment
  split
  · rename_i dots
    exact dots.symm
  · rfl

theorem components_sublist (path : String) :
    ((components path).map fun c => c.text.toList).Sublist (path.toList.splitOn '/') := by
  have names : (named (segments path)).Sublist (segments path) := List.filter_sublist
  have texts : (components path).map (fun c => c.text.toList) =
      (lead path).map (fun c => c.text.toList) ++ (named (segments path)).map String.toList := by
    simp [components_eq, text_ofSegment]
  rw [texts, lead]
  split
  · rename_i absolute
    obtain ⟨rest, begins⟩ : ∃ rest, path.toList = '/' :: rest := by
      cases chars : path.toList <;> simp_all [isAbsolute]
    have inside := segments_sublist (String.ofList rest)
    have same : segments path = segments (String.ofList rest) := by
      rw [← String.ofList_toList (s := path), begins]
      exact segments_append_slash [] rest
    rw [same] at names
    rw [begins, List.splitOn_cons_eq_if_modifyHead, same]
    simp only [String.toList_ofList] at inside
    simpa [Component.text] using (names.map _).trans inside
  · split
    · rename_i dot
      obtain ⟨rest, begins⟩ : ∃ rest, segments path = "." :: rest := by
        cases parts : segments path <;> simp_all
      have whole := segments_sublist path
      rw [begins] at whole ⊢
      have names : (named rest).Sublist rest := List.filter_sublist
      have kept : named ("." :: rest) = named rest := rfl
      rw [kept]
      exact ((names.map _).cons_cons _).trans whole
    · exact (names.map _).trans (segments_sublist path)

/-- The path above another is no longer: its characters are among those of the other, in their
order. -/
theorem parent?_sublist {path up : String} (parent : parent? path = some up) :
    up.toList.Sublist path.toList := by
  have fewer := ((List.dropLast_sublist (components path)).map _).trans (components_sublist path)
  have shorter := intercalate_sublist ['/'] fewer
  rw [List.intercalate_splitOn] at shorter
  unfold parent? at parent
  split at parent
  · cases parent
  · cases parent
  · obtain rfl := Option.some.inj parent
    unfold ofComponents
    split
    · rename_i alone
      have root : .root ∈ components path := List.mem_of_mem_dropLast (by simp [alone])
      have begins : path.toList.head? = some '/' := by
        simpa [isAbsolute] using isAbsolute_of_root root
      simpa using List.mem_of_mem_head? begins
    · simpa [String.toList_intercalate, Function.comp_def] using shorter

structure Alike (path other : String) : Prop where
  absolute : isAbsolute path = isAbsolute other
  segments : segments path = segments other

section Alike

variable {path other name : String}

theorem Alike.components (alike : Alike path other) : components path = components other := by
  rw [Path.components, Path.components, alike.absolute, alike.segments]

theorem Alike.join (alike : Alike path other) (segment : IsSegment name) :
    Alike (join path name) (join other name) where
  absolute := by rw [isAbsolute_join segment, isAbsolute_join segment, alike.absolute]
  segments := by rw [segments_join segment, segments_join segment, alike.segments]

end Alike

theorem join_of_slash {base path : String} (slash : base.toList.getLast? = some '/')
    (relative : isAbsolute path = false) : join base path = base ++ path := by
  have filled : base.isEmpty = false := by
    rw [Bool.eq_false_iff, ne_eq, String.isEmpty_iff]
    rintro rfl
    cases slash
  simp [join, relative, filled, slash]

theorem join_of_bare {base path : String} (filled : base ≠ "")
    (bare : base.toList.getLast? ≠ some '/') (relative : isAbsolute path = false) :
    join base path = base ++ "/" ++ path := by
  have full : base.isEmpty = false := by simp [filled]
  simp [join, relative, full, bare]

theorem utf8ByteSize_join_le (base path : String) :
    (join base path).utf8ByteSize ≤ base.utf8ByteSize + 1 + path.utf8ByteSize := by
  unfold join
  split
  · omega
  · split
    · rw [String.utf8ByteSize_append]
      omega
    · rw [String.utf8ByteSize_append, String.utf8ByteSize_append]
      exact Nat.le_refl _

theorem notMem_join {base path : String} {c : Char} (other : c ≠ '/') (before : c ∉ base.toList)
    (behind : c ∉ path.toList) : c ∉ (join base path).toList := by
  unfold join
  split
  · exact behind
  · split <;> simp [before, behind, other]

instance (name : String) : Decidable (IsSegment name) :=
  inferInstanceAs (Decidable (_ ∧ _))

theorem join_behind_name {base name path : String} (segment : IsSegment name)
    (relative : isAbsolute path = false) :
    join (join base name) path = join base name ++ "/" ++ path := by
  have last : (join base name).toList.getLast? = name.toList.getLast? := getLast?_join segment.1
  apply join_of_bare _ _ relative
  · intro empty
    have none : name.toList.getLast? = none := by rw [← last, empty]; rfl
    exact segment.1 (String.toList_inj.mp (List.getLast?_eq_none_iff.mp none))
  · rw [last]
    exact fun slash => segment.2 (List.mem_of_getLast? slash)

theorem segments_append (left right : String) :
    segments (left ++ "/" ++ right) = segments left ++ segments right := by
  have whole : left ++ "/" ++ right = String.ofList (left.toList ++ '/' :: right.toList) := by
    rw [← String.toList_inj]
    simp
  rw [whole, segments_append_slash, String.ofList_toList, String.ofList_toList]

def slashed (path : String) (count : Nat) : String :=
  path ++ String.ofList (List.replicate count '/')

theorem slashed_succ (path : String) (count : Nat) :
    slashed path (count + 1) = slashed path count ++ "/" := by
  rw [slashed, slashed, List.replicate_succ', String.ofList_append, String.append_assoc]

theorem slashed_zero (path : String) : slashed path 0 = path := by
  rw [slashed, List.replicate_zero, String.ofList_nil, String.append_empty]

theorem alike_slashed {path : String} (filled : path ≠ "") (count : Nat) :
    Alike (slashed path count) path where
  absolute := isAbsolute_append filled
  segments := by
    induction count with
    | zero => rw [slashed_zero]
    | succ count ih =>
      have nothing : slashed path count ++ "/" = slashed path count ++ "/" ++ "" := by simp
      rw [slashed_succ, nothing, segments_append, ih, segments_empty, List.append_nil]

theorem utf8ByteSize_slashed (path : String) (count : Nat) :
    (slashed path count).utf8ByteSize = path.utf8ByteSize + count := by
  induction count with
  | zero => rw [slashed_zero, Nat.add_zero]
  | succ count ih =>
    rw [slashed_succ, String.utf8ByteSize_append, ih, Nat.add_assoc]
    rfl

theorem getLast?_slashed (path : String) (count : Nat) :
    (slashed path (count + 1)).toList.getLast? = some '/' := by
  rw [slashed_succ, String.toList_append]
  exact List.getLast?_concat

theorem mem_slashed {path : String} {c : Char} (other : c ≠ '/') (count : Nat) :
    c ∈ (slashed path count).toList ↔ c ∈ path.toList := by
  simp [slashed, List.mem_replicate, other]

end Path

end ServerKeeper

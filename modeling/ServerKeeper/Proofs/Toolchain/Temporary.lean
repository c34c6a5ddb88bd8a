import ServerKeeper.Proofs.Toolchain.Scratch

namespace ServerKeeper.Toolchain

section Names

variable {call n : Nat}

theorem isDigit_of_mem_toString {c : Char} (member : c ∈ (toString n).toList) : c.isDigit = true := by
  rw [Nat.toString_eq_repr, Nat.toList_repr] at member
  exact Nat.isDigit_of_mem_toDigits (by decide) (by decide) member

theorem toString_injective : Function.Injective (toString : Nat → String) := by
  intro m n same
  have digits : Nat.toDigits 10 m = Nat.toDigits 10 n := by
    simpa [← String.toList_inj, Nat.toString_eq_repr] using same
  calc
    m = Nat.ofDigitChars 10 (Nat.toDigits 10 m) 0 := Nat.ofDigitChars_ten_toDigits.symm
    _ = Nat.ofDigitChars 10 (Nat.toDigits 10 n) 0 := by rw [digits]
    _ = n := Nat.ofDigitChars_ten_toDigits

theorem toList_temporaryName (call n : Nat) :
    (temporaryName call n).toList =
      ".tmp".toList ++ (toString call).toList ++ 'n' :: (toString n).toList := by
  simp [temporaryName]

theorem isPlain_temporaryName (call n : Nat) : Path.IsPlain (temporaryName call n) := by
  have chars := toList_temporaryName call n
  refine ⟨?_, ?_, ?_, ?_⟩
  · intro same
    simp [same] at chars
  · intro slash
    rw [chars] at slash
    simp only [List.mem_append, List.mem_cons, Char.reduceEq, false_or] at slash
    rcases slash with (slash | slash) | slash
    · exact absurd slash (by decide)
    · exact absurd (isDigit_of_mem_toString slash) (by decide)
    · exact absurd (isDigit_of_mem_toString slash) (by decide)
  · intro same
    simp [same] at chars
  · intro same
    simp [same] at chars

theorem temporaryName_inj {other m : Nat} :
    temporaryName call n = temporaryName other m ↔ call = other ∧ n = m := by
  constructor
  · intro same
    have chars := congrArg String.toList same
    rw [toList_temporaryName, toList_temporaryName, List.append_assoc, List.append_assoc,
      List.append_cancel_left_eq] at chars
    have apart (m : Nat) : 'n' ∉ (toString m).toList := fun member =>
      absurd (isDigit_of_mem_toString member) (by decide)
    obtain ⟨calls, -, ns⟩ := (List.append_cons_inj_of_notMem (apart call) (apart n)).mp chars
    exact ⟨toString_injective (String.toList_inj.mp calls),
      toString_injective (String.toList_inj.mp ns)⟩
  · rintro ⟨rfl, rfl⟩
    rfl

end Names

theorem temporaryPath_eq (root : String) (calls : List Call) (files : FileTree) :
    ∃ n, temporaryPath root calls files =
      Path.join (absoluteRoot files root) (temporaryName calls.length n) :=
  ⟨_, rfl⟩

theorem temporaryPath_ne {root : String} {calls others : List Call} {files files' : FileTree}
    (later : calls.length ≠ others.length) :
    temporaryPath root calls files ≠ temporaryPath root others files' := by
  obtain ⟨n, first⟩ := temporaryPath_eq root calls files
  obtain ⟨m, second⟩ := temporaryPath_eq root others files'
  intro same
  have names := congrArg Path.segments (first.symm.trans (same.trans second))
  rw [(rooted_join files root (isPlain_temporaryName _ n)).split,
    (rooted_join files' root (isPlain_temporaryName _ m)).split] at names
  have last := (List.append_inj' names rfl).2
  exact later (temporaryName_inj.mp (List.singleton_inj.mp last)).1

theorem exists_vacant (files : FileTree) (dir : Location) (call : Nat) :
    ∃ n < files.entries.length + 1, files.find? (dir ++ [temporaryName call n]) = none := by
  by_contra! taken
  have listed : (List.range (files.entries.length + 1)).map (fun n => dir ++ [temporaryName call n]) ⊆
      files.entries.map Prod.fst := by
    intro l member
    obtain ⟨n, among, rfl⟩ := List.mem_map.mp member
    obtain ⟨e, found⟩ := Option.ne_none_iff_exists'.mp (taken n (List.mem_range.mp among))
    rw [FileTree.find?_of_ne (by simp)] at found
    obtain ⟨front, back, split, -⟩ := List.lookup_eq_some_iff.mp found
    simp [split]
  have distinct : ((List.range (files.entries.length + 1)).map
      fun n => dir ++ [temporaryName call n]).Nodup := by
    refine List.nodup_range.map fun m n same => ?_
    have names : temporaryName call m = temporaryName call n := by simpa using same
    exact (temporaryName_inj.mp names).2
  have longer := (distinct.subperm listed).length_le
  simp at longer

theorem find?_range_eq {p : Nat → Bool} {a b : Nat} (less : a ≤ b) (among : ∃ n < a, p n = true) :
    (List.range b).find? p = (List.range a).find? p := by
  obtain ⟨k, rfl⟩ := Nat.exists_eq_add_of_le less
  obtain ⟨n, inside, holds⟩ := among
  have found : ((List.range a).find? p).isSome = true :=
    List.find?_isSome.mpr ⟨n, List.mem_range.mpr inside, holds⟩
  rw [List.range_add, List.find?_append, Option.or_of_isSome found]

section Congr

variable {files others : FileTree} {root : String} {calls asked : List Call} {left fewer : Nat}
  {dir : Location} (current : others.current = files.current)
  (reaches : files.Reaches (absoluteRoot files root) (Path.segments (absoluteRoot files root)) left dir)
  (again : others.Reaches (absoluteRoot files root) (Path.segments (absoluteRoot files root)) fewer dir)
  (same : ∀ name, others.find? (dir ++ [name]) = files.find? (dir ++ [name]))
  (count : asked.length = calls.length)

include current reaches again same count

theorem temporaryPath_congr : temporaryPath root asked others = temporaryPath root calls files := by
  unfold temporaryPath
  rw [absoluteRoot_congr current, count]
  extract_lets path vacant free
  have place (n : Nat) : others.place false (path n) = files.place false (path n) := by
    rw [again.place_join (isPlain_temporaryName _ n), reaches.place_join (isPlain_temporaryName _ n),
      same]
  have agree : vacant = free := by
    funext n
    simp only [vacant, free, place]
  have exists_free {t : FileTree} {left : Nat}
      (reaches : t.Reaches (absoluteRoot files root) (Path.segments (absoluteRoot files root)) left dir)
      (places : ∀ n, t.place false (path n) = files.place false (path n)) :
      ∃ n < t.entries.length + 1, free n = true := by
    obtain ⟨n, inside, none⟩ := exists_vacant t dir calls.length
    refine ⟨n, inside, ?_⟩
    simp only [free, ← places, path, reaches.place_join (isPlain_temporaryName _ n), none]
    cases FileTree.checkPath (Path.join (absoluteRoot files root) (temporaryName calls.length n)) with
    | error => rfl
    | ok =>
      by_cases fits : (temporaryName calls.length n).utf8ByteSize ≤ FileTree.maxName <;>
        simp [bind, Except.bind, fits]
  rw [agree]
  rcases Nat.le_total (others.entries.length + 1) (files.entries.length + 1) with less | less
  · rw [find?_range_eq less (exists_free again place)]
  · rw [find?_range_eq less (exists_free reaches fun _ => rfl)]

theorem under_make_congr (absolute : Path.isAbsolute root = true) :
    (ScratchSource.under root).make asked others = (ScratchSource.under root).make calls files := by
  obtain ⟨n, named⟩ := temporaryPath_eq root calls files
  have plain := isPlain_temporaryName calls.length n
  unfold ScratchSource.under
  dsimp only
  rw [temporaryPath_congr current reaches again same count, named, FileTree.bareSteps,
    again.approach_join plain, reaches.approach_join plain, same]
  simp [absolute]

end Congr

theorem under_make_eq_ok {root : String} {calls : List Call} {files : FileTree} {scratch : Scratch}
    (ok : (ScratchSource.under root).make calls files = .ok scratch) :
    scratch.path = temporaryPath root calls files ∧
      ∃ slash, files.approach false scratch.path (Path.segments scratch.path) =
        .ok ⟨scratch.location, none, slash⟩ := by
  unfold ScratchSource.under at ok
  dsimp only at ok
  split at ok
  · cases ok
  · split at ok
    · cases ok
    · rename_i p approach
      obtain ⟨l, entry, slash⟩ := p
      split at ok
      · cases ok
      · rename_i vacant
        cases ok
        obtain rfl : entry = none := by simpa using vacant
        exact ⟨rfl, slash, approach⟩

section Under

variable {root : String} {calls : List Call} {files : FileTree} {scratch : Scratch}
  (ok : (ScratchSource.under root).make calls files = .ok scratch)

include ok

theorem under_make_rooted :
    ∃ n, scratch.path = Path.join (absoluteRoot files root) (temporaryName calls.length n) ∧
      Rooted scratch.path (Path.segments (absoluteRoot files root)) (temporaryName calls.length n) := by
  obtain ⟨path, -⟩ := under_make_eq_ok ok
  obtain ⟨n, same⟩ := temporaryPath_eq root calls files
  have named := path.trans same
  exact ⟨n, named, named ▸ rooted_join files root (isPlain_temporaryName calls.length n)⟩

theorem under_make_fresh : scratch.Fresh root files := by
  obtain ⟨n, named, rooted⟩ := under_make_rooted ok
  obtain ⟨-, slash, approach⟩ := under_make_eq_ok ok
  obtain ⟨checked, fits, links, dir, reaches, same⟩ :=
    (FileTree.approach_plain_iff rooted.split rooted.plain).mp approach
  obtain ⟨location, vacant, -⟩ : scratch.location = dir ++ [temporaryName calls.length n] ∧
      none = files.find? (dir ++ [temporaryName calls.length n]) ∧ slash = false := by
    simpa using same
  have proper : dir ++ [temporaryName calls.length n] ≠ [] := by simp
  refine ⟨⟨_, rooted.plain, named⟩, location ▸ vacant.symm, ?_, fun _ => checked⟩
  rw [standsAt?_eq_some_iff rooted, Scratch.putInto, location]
  refine ⟨fits, links, dir, (FileTree.extends_put proper vacant.symm).reaches reaches, rfl, ?_⟩
  rw [FileTree.find?_put proper, if_pos rfl]

theorem under_drop_prune {left : FileTree}
    (outside : directoryAt? (left.clear scratch.location) scratch.path = some scratch.location) :
    (ScratchSource.under root).drop scratch left = left.prune scratch.location := by
  obtain ⟨n, -, rooted⟩ := under_make_rooted ok
  obtain ⟨-, slash, approach⟩ := under_make_eq_ok ok
  have checked := (FileTree.approach_eq_ok_iff.mp approach).1
  obtain ⟨mode, stands⟩ := directoryAt?_eq_some_iff.mp outside
  have existing := (existing_eq_ok_iff rooted).mpr ⟨checked, stands⟩
  have removed := FileTree.removeTree_directory rooted.split rooted.plain rooted.bare existing
  exact (congrArg Prod.snd removed).trans (FileTree.prune_clear _ _)

theorem under_drop_missing {left : FileTree} (missing : standsAt? left scratch.path = none) :
    (ScratchSource.under root).drop scratch left = left := by
  obtain ⟨n, -, rooted⟩ := under_make_rooted ok
  change (left.removeTree scratch.path).2 = left
  unfold FileTree.removeTree
  cases found : left.existing false scratch.path with
  | error => rfl
  | ok pair =>
    have stands := ((existing_eq_ok_iff rooted).mp found).2
    rw [missing] at stands
    cases stands

end Under

theorem under_lawful (root : String) : (ScratchSource.under root).Lawful where
  fresh _ ok := under_make_fresh ok
  dropped ok _ outside := under_drop_prune ok outside
  missing ok _ missing := under_drop_missing ok missing

end ServerKeeper.Toolchain

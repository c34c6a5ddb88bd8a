import ServerKeeper.Proofs.FileTree.Contents
import ServerKeeper.Proofs.Manager.Marker
import ServerKeeper.Proofs.Template

namespace ServerKeeper

namespace FileTree

structure SameWay (path other : String) : Prop where
  absolute : Path.isAbsolute path = Path.isAbsolute other
  steps : steps path = steps other
  checked : checkPath path = checkPath other

variable {path other : String}

theorem sameWay_refl (path : String) : SameWay path path := ⟨rfl, rfl, rfl⟩

theorem SameWay.place (same : SameWay path other) (t : FileTree) (followLast : Bool) :
    t.place followLast path = t.place followLast other := by
  rw [FileTree.place, FileTree.place, approach, approach, same.steps, same.checked,
    start_congr same.absolute rfl]

theorem SameWay.existing (same : SameWay path other) (t : FileTree) (followLast : Bool) :
    t.existing followLast path = t.existing followLast other := by
  rw [FileTree.existing, FileTree.existing, same.place]

theorem SameWay.isExecutable (same : SameWay path other) (t : FileTree) :
    t.isExecutable path = t.isExecutable other := by
  rw [FileTree.isExecutable, FileTree.isExecutable, same.existing]

theorem SameWay.readText (same : SameWay path other) (t : FileTree) :
    t.readText path = t.readText other := by
  rw [FileTree.readText, FileTree.readText, readBytes, readBytes, same.existing]

theorem checkPath_congr (filled : path ≠ "") (others : other ≠ "")
    (chars : '\x00' ∈ path.toList ↔ '\x00' ∈ other.toList)
    (sizes : maxPath < path.utf8ByteSize ↔ maxPath < other.utf8ByteSize) :
    checkPath path = checkPath other := by
  simp only [checkPath, List.contains_iff_mem, chars, filled, others, sizes]

theorem checkPath_eq_ok (free : '\x00' ∉ path.toList) (filled : path ≠ "")
    (fits : path.utf8ByteSize ≤ maxPath) : checkPath path = .ok () := by
  simp [checkPath, free, filled, Nat.not_lt.mpr fits]

theorem sameWay_join {base other name : String} (plain : Path.IsPlain name)
    (alike : Path.Alike base other)
    (checked : checkPath (Path.join base name) = checkPath (Path.join other name)) :
    SameWay (Path.join base name) (Path.join other name) where
  absolute := (alike.join plain.isSegment).absolute
  steps := by rw [steps_join plain, steps_join plain, alike.segments]
  checked := checked

theorem isExecutable_of_long (long : maxPath < path.utf8ByteSize) (t : FileTree) :
    t.isExecutable path = false := by
  obtain ⟨fault, refused⟩ : ∃ fault, checkPath path = .error fault := by
    unfold checkPath
    split
    · exact ⟨_, rfl⟩
    · split <;> exact ⟨_, rfl⟩
  simp only [FileTree.isExecutable, FileTree.existing, FileTree.place, approach, refused, bind,
    Except.bind]

theorem steps_of_getLast? {c : Char} (last : path.toList.getLast? = some c) (other : c ≠ '/') :
    steps path = Path.segments path := by
  simp [steps, last, other]

end FileTree

/-- Settings that say nothing about where the binary is: no command, one without words, or one that
begins with a blank word. -/
def Settings.Wordless (s : Settings) : Prop :=
  ∀ word words, s.command = some (word :: words) → Text.isBlankText word = true

namespace Config

variable {c : Config}

theorem withSettings_of_wordless {s : Settings} (wordless : s.Wordless) :
    c.withSettings s = { c with managed := s.server.manageBinary } := by
  unfold withSettings
  cases given : s.command with
  | none => rfl
  | some words =>
    cases words with
    | nil => rfl
    | cons word words => simp [wordless word words given]

theorem foldl_withSettings {history : List Settings} (wordless : ∀ s ∈ history, s.Wordless) :
    ∃ managed, history.foldl withSettings c = { c with managed } := by
  induction history generalizing c with
  | nil => exact ⟨c.managed, rfl⟩
  | cons s history ih =>
    rw [List.forall_mem_cons] at wordless
    rw [List.foldl_cons, withSettings_of_wordless wordless.1]
    exact ih wordless.2

end Config

def Tight (root : String) : Prop :=
  root.toList.getLast? = some '/' ∧
    (root ++ "/LSP-gopls/bin/gopls").utf8ByteSize = FileTree.maxPath + 1

namespace Config

variable {root : String}

def installPlace (root : String) : String :=
  Path.join (Path.join (Path.join root "LSP-gopls") "bin") "gopls"

def defaultPlace (root : String) : String := root ++ "/LSP-gopls/bin/gopls"

theorem segments_installPlace (root : String) :
    Path.segments (installPlace root) = Path.segments root ++ ["LSP-gopls", "bin", "gopls"] := by
  rw [installPlace, Path.segments_join (by decide), Path.segments_join (by decide),
    Path.segments_join (by decide)]
  simp

theorem isAbsolute_installPlace (root : String) :
    Path.isAbsolute (installPlace root) = Path.isAbsolute root := by
  rw [installPlace, Path.isAbsolute_join (by decide), Path.isAbsolute_join (by decide),
    Path.isAbsolute_join (by decide)]

theorem steps_installPlace (root : String) :
    FileTree.steps (installPlace root) = Path.segments (installPlace root) := by
  rw [installPlace, FileTree.steps_join (by decide)]
  exact (Path.segments_join (by decide)).symm

theorem defaultPlace_eq (root : String) :
    defaultPlace root = root ++ "/" ++ "LSP-gopls/bin/gopls" := by
  rw [String.append_assoc]
  rfl

theorem alike_defaultPlace (filled : root ≠ "") :
    Path.Alike (defaultPlace root) (installPlace root) where
  absolute := by rw [isAbsolute_installPlace, defaultPlace, Path.isAbsolute_append filled]
  segments := by
    rw [defaultPlace_eq, Path.segments_append, segments_installPlace]
    rfl

theorem steps_defaultPlace (root : String) :
    FileTree.steps (defaultPlace root) = Path.segments (defaultPlace root) := by
  apply FileTree.steps_of_getLast? (c := 's') _ (by decide)
  rw [defaultPlace, String.toList_append, List.getLast?_append]
  rfl

theorem installPlace_eq (root : String) :
    installPlace root = Path.join root "LSP-gopls" ++ "/bin/gopls" := by
  rw [installPlace, Path.join_behind_name (by decide) (by decide),
    Path.join_behind_name (by decide) (by decide), String.append_assoc, String.append_assoc,
    String.append_assoc]
  rfl

theorem installPlace_of_slash (slash : root.toList.getLast? = some '/') :
    installPlace root = root ++ "LSP-gopls/bin/gopls" := by
  rw [installPlace_eq, Path.join_of_slash slash (by decide), String.append_assoc]
  rfl

theorem installPlace_of_bare (filled : root ≠ "") (bare : root.toList.getLast? ≠ some '/') :
    installPlace root = defaultPlace root := by
  rw [installPlace_eq, Path.join_of_bare filled bare (by decide), String.append_assoc,
    String.append_assoc]
  rfl

/-- The default place and that of an install are reached alike, unless the slash between makes the
first one too long. -/
theorem sameWay_defaultPlace (filled : root ≠ "") (loose : ¬Tight root) :
    FileTree.SameWay (defaultPlace root) (installPlace root) := by
  by_cases slash : root.toList.getLast? = some '/'
  · have alike := alike_defaultPlace filled
    refine ⟨alike.absolute, ?_, ?_⟩
    · rw [steps_defaultPlace, steps_installPlace, alike.segments]
    · have room : (defaultPlace root).utf8ByteSize ≠ FileTree.maxPath + 1 :=
        fun full => loose ⟨slash, full⟩
      have sizes : (defaultPlace root).utf8ByteSize = root.utf8ByteSize + 20 := by
        rw [defaultPlace, String.utf8ByteSize_append]
        rfl
      rw [installPlace_of_slash slash]
      apply FileTree.checkPath_congr
      · simp [defaultPlace]
      · simp
      · simp [defaultPlace]
      · have shorter : (root ++ "LSP-gopls/bin/gopls").utf8ByteSize = root.utf8ByteSize + 19 := by
          rw [String.utf8ByteSize_append]
          rfl
        omega
  · rw [installPlace_of_bare filled slash]
    exact FileTree.sameWay_refl _

def markerPlace (root : String) : String :=
  Path.join (Path.join root "LSP-gopls") "VERSION"

theorem checkPath_places (free : '\x00' ∉ root.toList)
    (room : (Path.join root "LSP-gopls").utf8ByteSize + 10 ≤ FileTree.maxPath) :
    FileTree.checkPath (installPlace root) = .ok () ∧
      FileTree.checkPath (markerPlace root) = .ok () := by
  have above : '\x00' ∉ (Path.join root "LSP-gopls").toList :=
    Path.notMem_join (by decide) free (by decide)
  have inside := Path.utf8ByteSize_join_le (Path.join root "LSP-gopls") "bin"
  have program := Path.utf8ByteSize_join_le (Path.join (Path.join root "LSP-gopls") "bin") "gopls"
  have marker := Path.utf8ByteSize_join_le (Path.join root "LSP-gopls") "VERSION"
  have sizes : "bin".utf8ByteSize = 3 ∧ "gopls".utf8ByteSize = 5 ∧ "VERSION".utf8ByteSize = 7 :=
    ⟨rfl, rfl, rfl⟩
  constructor
  · refine FileTree.checkPath_eq_ok ?_ ?_ ?_
    · exact Path.notMem_join (by decide) (Path.notMem_join (by decide) above (by decide)) (by decide)
    · exact Path.ne_empty_of_split (Path.segments_join (by decide))
    · rw [installPlace]
      omega
  · refine FileTree.checkPath_eq_ok ?_ ?_ ?_
    · exact Path.notMem_join (by decide) above (by decide)
    · exact Path.ne_empty_of_split (Path.segments_join (by decide))
    · rw [markerPlace]
      omega

/-- As long as the paths stay short, slashes behind the storage root make no difference to them. -/
theorem sameWay_slashed {count : Nat} (filled : root ≠ "") (free : '\x00' ∉ root.toList)
    (room : root.utf8ByteSize + count + 20 ≤ FileTree.maxPath) :
    FileTree.SameWay (installPlace (Path.slashed root (count + 1))) (installPlace root) ∧
      FileTree.SameWay (markerPlace (Path.slashed root (count + 1))) (markerPlace root) := by
  have alike := Path.alike_slashed filled (count + 1)
  have checked := checkPath_places free <| by
    have size := Path.utf8ByteSize_join_le root "LSP-gopls"
    have name : "LSP-gopls".utf8ByteSize = 9 := rfl
    omega
  have slashedFree : '\x00' ∉ (Path.slashed root (count + 1)).toList := by
    rwa [Path.mem_slashed (by decide)]
  have slashedChecked := checkPath_places slashedFree <| by
    rw [Path.join_of_slash (Path.getLast?_slashed root count) (by decide),
      String.utf8ByteSize_append, Path.utf8ByteSize_slashed]
    have name : "LSP-gopls".utf8ByteSize = 9 := rfl
    omega
  constructor
  · exact FileTree.sameWay_join (by decide) ((alike.join (by decide)).join (by decide))
      (slashedChecked.1.trans checked.1.symm)
  · exact FileTree.sameWay_join (by decide) (alike.join (by decide))
      (slashedChecked.2.trans checked.2.symm)

theorem components_eq_iff (root : String) :
    Path.components (defaultPlace root) = Path.components (installPlace root) ↔ root ≠ "" := by
  constructor
  · rintro same rfl
    exact absurd same (by decide)
  · exact fun filled => (alike_defaultPlace filled).components

end Config

namespace Manager

variable {m : Manager}

/-- Where the binary is looked for and where an install puts it, without a word from the user. -/
theorem places_of_wordless {root desired : String} {history : List Settings}
    (wordless : ∀ s ∈ history, s.Wordless)
    (config : m.config =
      history.foldl Config.withSettings { Config.ofRoot root with desiredVersion := desired }) :
    m.config.binaryPath = Config.defaultPlace root ∧
      m.config.managedBinaryPath = Config.installPlace root := by
  obtain ⟨managed, same⟩ := Config.foldl_withSettings
    (c := { Config.ofRoot root with desiredVersion := desired }) wordless
  rw [config, same]
  exact ⟨Template.binaryPath_of_unset rfl, rfl⟩

theorem needsInstall_of_sameWay
    (same : FileTree.SameWay m.config.binaryPath m.config.managedBinaryPath) {files : FileTree}
    (missing : m.isInstalled files = false) (managed : m.config.managed = true) :
    m.needsInstall files = true := by
  rw [isInstalled, same.isExecutable] at missing
  rw [needsInstall, managed, missing]
  rfl

theorem isInstalled_of_tight {root : String} (tight : Tight root)
    (place : m.config.binaryPath = Config.defaultPlace root) (files : FileTree) :
    m.isInstalled files = false := by
  have long : FileTree.maxPath < m.config.binaryPath.utf8ByteSize := by
    rw [place, Config.defaultPlace, tight.2]
    exact Nat.lt_succ_self _
  exact FileTree.isExecutable_of_long long files

def usual (root : String) : Manager :=
  { rehearsed [] 0 with config := .ofRoot root }

def installedFiles : FileTree :=
  rehearsedFiles
    [(["store"], .directory 0o755), (["store", "LSP-gopls"], .directory 0o755),
     (["store", "LSP-gopls", "VERSION"], .file "0.11.0".toUTF8 0o644),
     (["store", "LSP-gopls", "bin"], .directory 0o755),
     (["store", "LSP-gopls", "bin", "gopls"], .file .empty 0o755)]

section Slashed

variable {root : String} {count : Nat} {files : FileTree}

theorem usual_config (root : String) :
    (usual root).config =
      [].foldl Config.withSettings { Config.ofRoot root with desiredVersion := "0.11.0" } :=
  rfl

theorem isInstalled_usual_of_tight (tight : Tight root) :
    (usual root).isInstalled files = false :=
  isInstalled_of_tight tight (Template.binaryPath_of_unset rfl) files

/-- As long as the paths of an installation stay short, slashes behind the storage root change nothing
about whether an install is needed. -/
theorem needsInstall_slashed (filled : root ≠ "") (free : '\x00' ∉ root.toList)
    (room : root.utf8ByteSize + count + 20 ≤ FileTree.maxPath) :
    (usual (Path.slashed root (count + 1))).needsInstall files = (usual root).needsInstall files := by
  have same := Config.sameWay_slashed filled free room
  have program : (usual (Path.slashed root (count + 1))).config.managedBinaryPath =
      Config.installPlace (Path.slashed root (count + 1)) := rfl
  have marker : (usual (Path.slashed root (count + 1))).config.markerPath =
      Config.markerPlace (Path.slashed root (count + 1)) := rfl
  rw [needsInstall, needsInstall, installedVersion?, installedVersion?, program, marker,
    same.1.isExecutable, same.2.readText]
  rfl

end Slashed

theorem tight_slashed : Tight (Path.slashed "store" 4071) := by
  refine ⟨Path.getLast?_slashed "store" 4070, ?_⟩
  rw [String.utf8ByteSize_append, Path.utf8ByteSize_slashed]
  rfl

/-- Without a word from the user, however often settings are given, the binary is looked for where an
install puts it: the two paths have the same components, unless there is no storage root at all. In
every tree they lead to the same place, so that a managed server without its binary needs an install.
Only where a slash too many makes the first path too long nothing is ever found there. -/
theorem defaultPlace_exact {root desired : String} {history : List Settings}
    (wordless : ∀ s ∈ history, s.Wordless)
    (config : m.config =
      history.foldl Config.withSettings { Config.ofRoot root with desiredVersion := desired }) :
    (Path.components m.config.binaryPath = Path.components m.config.managedBinaryPath ↔ root ≠ "") ∧
    (root ≠ "" → ¬Tight root → ∀ files : FileTree,
      (∀ followLast, files.place followLast m.config.binaryPath =
        files.place followLast m.config.managedBinaryPath) ∧
      (m.isInstalled files = false → m.config.managed = true → m.needsInstall files = true)) ∧
    (Tight root → ∀ files : FileTree, m.isInstalled files = false) := by
  obtain ⟨looked, put⟩ := places_of_wordless wordless config
  refine ⟨?_, fun filled loose files => ?_, fun tight => isInstalled_of_tight tight looked⟩
  · rw [looked, put]
    exact Config.components_eq_iff root
  · have same : FileTree.SameWay m.config.binaryPath m.config.managedBinaryPath := by
      rw [looked, put]
      exact Config.sameWay_defaultPlace filled loose
    exact ⟨same.place files, needsInstall_of_sameWay same⟩

/-- A blank word, no words and no command, with a storage root that reads like a reference and ends in a
dot; and a complete installation under a root with a slash too many. -/
theorem defaultPlace_exact_unread :
    let config := [⟨some ["\u3000", "gopls"], ⟨false⟩⟩, ⟨some [], ⟨true⟩⟩, ⟨none, ⟨true⟩⟩].foldl
      Config.withSettings
        { Config.ofRoot "/srv//$\x7bstorage_path\x7d/./" with desiredVersion := "0.14.2" }
    Path.components config.binaryPath = Path.components config.managedBinaryPath ∧
      ({ rehearsed [] 0 with config }).needsInstall (rehearsedFiles []) = true ∧
      (usual (Path.slashed "store" 4071)).isInstalled installedFiles = false := by
  intro config
  have wordless : ∀ s ∈ [⟨some ["\u3000", "gopls"], ⟨false⟩⟩, ⟨some [], ⟨true⟩⟩,
      (⟨none, ⟨true⟩⟩ : Settings)], s.Wordless := by
    simp only [List.forall_mem_cons, List.not_mem_nil, false_imp_iff, implies_true, and_true]
    refine ⟨?_, ?_, ?_⟩ <;> rintro word words given
    · obtain ⟨rfl, -⟩ := List.cons.inj (Option.some.inj given)
      decide
    · cases given
    · cases given
  have places := defaultPlace_exact (m := { rehearsed [] 0 with config }) wordless rfl
  refine ⟨places.1.mpr (by decide), (places.2.1 (by decide) ?_ _).2 ?_ rfl,
    (defaultPlace_exact (by simp) (usual_config _)).2.2 tight_slashed _⟩
  · rintro ⟨-, size⟩
    revert size
    decide
  · decide +kernel

/-- One slash of the storage root too many, and a complete installation is not found. -/
theorem defaultPlace_tight :
    ¬∀ (m : Manager) (root desired : String) (history : List Settings) (files : FileTree),
      (∀ s ∈ history, s.Wordless) →
      m.config =
        history.foldl Config.withSettings { Config.ofRoot root with desiredVersion := desired } →
      root ≠ "" → m.isInstalled files = false → m.config.managed = true →
      m.needsInstall files = true := by
  intro always
  have filled : Path.slashed "store" 4071 ≠ "" := by
    have split : Path.segments (Path.slashed "store" 4071) = [] ++ ["store"] := by
      rw [(Path.alike_slashed (by decide) 4071).segments]
      decide
    exact Path.ne_empty_of_split split
  have needed := always (usual (Path.slashed "store" 4071)) _ _ [] installedFiles (by simp)
    (usual_config _) filled (isInstalled_usual_of_tight tight_slashed) rfl
  have complete : (usual (Path.slashed "store" 4071)).needsInstall installedFiles = false := by
    rw [needsInstall_slashed (by decide) (by decide) (by decide)]
    decide +kernel
  rw [complete] at needed
  cases needed

end Manager

end ServerKeeper

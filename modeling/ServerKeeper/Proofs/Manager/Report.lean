import ServerKeeper.Proofs.FileTree.Search
import ServerKeeper.Proofs.Release.Reading
import ServerKeeper.Proofs.Wire

namespace ServerKeeper

namespace Release

theorem versionText?_eq_some_iff {r : Release} {text : String} :
    r.versionText? = some text ↔ r.tag.toList = tagStart.toList ++ text.toList := by
  constructor
  · intro found
    by_cases begins : tagStart.toList <+: r.tag.toList
    · obtain ⟨rest, split⟩ := begins
      rw [versionText?_of_tag split.symm] at found
      rw [← split, ← Option.some.inj found, String.toList_ofList]
    · rw [versionText?_of_other begins] at found
      cases found
  · intro tag
    rw [versionText?_of_tag tag, String.ofList_toList]

theorem versionText?_eq_none_iff {r : Release} :
    r.versionText? = none ↔ ¬tagStart.toList <+: r.tag.toList := by
  refine ⟨fun none begins => ?_, versionText?_of_other⟩
  obtain ⟨rest, split⟩ := begins
  rw [versionText?_of_tag split.symm] at none
  cases none

theorem findSome?_versionText?_iff {listing : List Release} {text : String} :
    listing.findSome? versionText? = some text ↔ Fronted listing text.toList := by
  rw [List.findSome?_eq_some_iff]
  constructor
  · rintro ⟨others, r, more, rfl, found, foreign⟩
    exact ⟨others, r, more, rfl, fun other member => versionText?_eq_none_iff.mp (foreign other member),
      versionText?_eq_some_iff.mp found⟩
  · rintro ⟨others, r, more, rfl, foreign, tag⟩
    exact ⟨others, r, more, rfl, versionText?_eq_some_iff.mpr tag,
      fun other member => versionText?_eq_none_iff.mpr (foreign other member)⟩

def Numbered (text : List Char) : Prop :=
  ∃ front rest, text = front ++ rest ∧ Version.Begins rest

theorem isSome_parse?_iff {raw : String} :
    (Version.parse? raw).isSome = true ↔ Numbered raw.toList := by
  rw [Version.parse?, Option.isSome_map, ← not_iff_not, Bool.not_eq_true,
    Option.isSome_eq_false_iff, Option.isNone_iff_eq_none, Version.firstNumber?_eq_none_iff, Numbered]
  simp only [not_exists, not_and]

theorem parse?_render_of_parse? {raw : String} {v : Version} (read : Version.parse? raw = some v) :
    Version.parse? v.render = some v := by
  obtain ⟨⟨number, rest⟩, found, rfl⟩ := Option.map_eq_some_iff.mp read
  obtain ⟨front, first, dotted, stops⟩ := Version.firstNumber?_eq_some_iff.mp found
  exact Version.parse?_render dotted fun s taken => (Version.suffixed_iff.mpr taken).1

theorem latest?_eq {listing : List Release} {text : List Char} (fronted : Fronted listing text) :
    latest? listing = Version.parse? (String.ofList text) := by
  rw [latest?, findSome?_fronted fronted, Option.bind_some]

theorem isSome_latest?_iff {listing : List Release} :
    (latest? listing).isSome = true ↔ ∃ text, Fronted listing text ∧ Numbered text := by
  constructor
  · intro known
    obtain ⟨v, found⟩ := Option.isSome_iff_exists.mp known
    obtain ⟨text, first, read⟩ := Option.bind_eq_some_iff.mp found
    refine ⟨text.toList, findSome?_versionText?_iff.mp first, isSome_parse?_iff.mp ?_⟩
    rw [read, Option.isSome_some]
  · rintro ⟨text, fronted, numbered⟩
    rw [latest?_eq fronted, isSome_parse?_iff, String.toList_ofList]
    exact numbered

theorem parse?_render_of_latest? {listing : List Release} {v : Version}
    (found : latest? listing = some v) : Version.parse? v.render = some v := by
  obtain ⟨text, -, read⟩ := Option.bind_eq_some_iff.mp found
  exact parse?_render_of_parse? read

end Release

open Release (Version Fronted Numbered)

/-- What the fields of a status say of each other, of the files and of the listing that it was made
from. -/
structure Status.Coherent (s : Status) (m : Manager) (listing : Option (List Release))
    (files : FileTree) : Prop where
  needsInstall : s.needsInstall = false ↔ s.managed = false ∨
    (∃ l content mode, files.existing true m.config.managedBinaryPath = .ok (l, .file content mode) ∧
      mode &&& 0o111 ≠ 0) ∧ s.installedVersion = some s.desiredVersion
  paired : s.latestVersion.isSome = s.updateAvailable.isSome
  given : s.latestVersion.isSome = true ↔
    ∃ releases text, listing = some releases ∧ Fronted releases text ∧ Numbered text
  /-- Whether an update is available can be told from the status alone. -/
  recomputed : ∀ latest, s.latestVersion = some latest → ∃ v, Version.parse? latest = some v ∧
    s.updateAvailable = some (Release.isNewer s.desiredVersion v)
  latest : ∀ releases text, listing = some releases → Fronted releases text →
    s.latestVersion = (Version.parse? (String.ofList text)).map Version.render

namespace Manager

theorem isExecutable_iff_file {files : FileTree} {path : String} :
    files.isExecutable path = true ↔
      ∃ l content mode, files.existing true path = .ok (l, .file content mode) ∧
        mode &&& 0o111 ≠ 0 := by
  refine ⟨FileTree.file_of_isExecutable, ?_⟩
  rintro ⟨l, content, mode, found, bits⟩
  simpa [FileTree.isExecutable, found, Entry.isExecutable] using bits

theorem status_needsInstall (m : Manager) (listing : Option (List Release)) (files : FileTree) :
    (m.status listing files).needsInstall = false ↔ (m.status listing files).managed = false ∨
      files.isExecutable m.config.managedBinaryPath = true ∧
        (m.status listing files).installedVersion = some (m.status listing files).desiredVersion := by
  simp only [status]
  cases managed : m.config.managed with
  | false => simp [needsInstall, managed]
  | true => rw [needsInstall_eq_false_iff managed]; simp

theorem coherent_status (m : Manager) (listing : Option (List Release)) (files : FileTree) :
    (m.status listing files).Coherent m listing files where
  needsInstall := by rw [status_needsInstall, isExecutable_iff_file]
  paired := by simp only [status, Option.isSome_map]
  given := by
    simp only [status, Option.isSome_map]
    cases listing with
    | none => simp
    | some releases => simp [Release.isSome_latest?_iff]
  recomputed := by
    intro latest told
    simp only [status, Option.map_eq_some_iff] at told ⊢
    obtain ⟨v, found, rfl⟩ := told
    obtain ⟨releases, -, newest⟩ := Option.bind_eq_some_iff.mp found
    exact ⟨v, Release.parse?_render_of_latest? newest, v, found, rfl⟩
  latest := by
    rintro releases text rfl fronted
    simp only [status, Option.bind_some, Release.latest?_eq fronted]

/-- A status is coherent, and so is what is read from either layout of it. -/
theorem status_coherent (m : Manager) (listing : Option (List Release)) (files : FileTree) :
    (m.status listing files).Coherent m listing files ∧
      (∃ s, Status.fromJson? (Json.compact (m.status listing files).toJson) = .ok s ∧
        s.Coherent m listing files) ∧
      ∃ s, Status.fromJson? (Json.pretty (m.status listing files).toJson) = .ok s ∧
        s.Coherent m listing files := by
  have faithful : Json.Faithful Status.toJson Status.fromJson? :=
    Json.faithful Status.decodes_toJson (by decide) Status.isWhole_toJson
  have coherent := coherent_status m listing files
  exact ⟨coherent, ⟨_, faithful.compact _, coherent⟩, ⟨_, faithful.pretty _, coherent⟩⟩

end Manager

end ServerKeeper

import Mathlib.Data.List.Basic
import Mathlib.Tactic
import ServerKeeper.Proofs.Manager.Marker
import ServerKeeper.Proofs.Path
import ServerKeeper.Proofs.Text
import ServerKeeper.Release.Version

namespace ServerKeeper

namespace Release

open Text (Spells Stops)

structure Numbers where
  major : Nat
  minor : Nat
  patch : Nat
  deriving DecidableEq

namespace Numbers

def toList (v : Numbers) : List Nat := [v.major, v.minor, v.patch]

instance : LT Numbers := ⟨fun v w => v.toList < w.toList⟩

instance (v w : Numbers) : Decidable (v < w) :=
  inferInstanceAs (Decidable (v.toList < w.toList))

def Spelled (v : Numbers) (text : List Char) : Prop :=
  ∃ major minor patch, Spells major v.major ∧ Spells minor v.minor ∧ Spells patch v.patch ∧
    text = major ++ '.' :: minor ++ '.' :: patch

end Numbers

namespace Version

structure Digits (run : List Char) : Prop where
  filled : run ≠ []
  inside : ∀ c ∈ run, Text.isDigit c = true

def Dotted (text : List Char) : Prop :=
  ∃ major minor patch, Digits major ∧ Digits minor ∧ Digits patch ∧
    text = major ++ '.' :: minor ++ '.' :: patch

theorem digits?_run {run rest : List Char} (digits : Digits run)
    (stops : Stops Text.isDigit rest) : digits? (run ++ rest) = some (run, rest) := by
  rw [digits?, Text.takeWhile_run digits.inside stops, Text.dropWhile_run digits.inside stops,
    if_neg (by simp [digits.filled])]

theorem dot_stops (rest : List Char) : Stops Text.isDigit ('.' :: rest) :=
  Text.stops_cons (by decide) rest

theorem number?_dotted {text rest : List Char} (dotted : Dotted text)
    (stops : Stops Text.isDigit rest) : number? (text ++ rest) = some (text, rest) := by
  obtain ⟨major, minor, patch, first, second, third, rfl⟩ := dotted
  have split : major ++ '.' :: minor ++ '.' :: patch ++ rest =
      major ++ '.' :: (minor ++ '.' :: (patch ++ rest)) := by simp
  rw [split, number?, digits?_run first (dot_stops _)]
  simp only [bind, Option.bind, dottedDigits?, digits?_run second (dot_stops _),
    digits?_run third stops, List.append_assoc, List.cons_append]
  rfl

theorem firstNumber?_dotted {text rest : List Char} (dotted : Dotted text)
    (stops : Stops Text.isDigit rest) : firstNumber? (text ++ rest) = some (text, rest) := by
  have read := number?_dotted dotted stops
  cases whole : text ++ rest with
  | nil =>
    rw [whole] at read
    cases read
  | cons c tail =>
    rw [whole] at read
    rw [firstNumber?, read]

theorem parse?_dotted {text rest : List Char} (dotted : Dotted text)
    (stops : Stops Text.isDigit rest) :
    parse? (String.ofList (text ++ rest)) =
      some ⟨String.ofList text, (suffix? (dropHyphen rest)).map String.ofList⟩ := by
  simp only [parse?, String.toList_ofList, firstNumber?_dotted dotted stops, Option.map_some]

theorem hyphen_stops (rest : List Char) : Stops Text.isDigit ('-' :: rest) :=
  Text.stops_cons (by decide) rest

theorem suffix?_run {word count rest : List Char} (filled : word ≠ [])
    (letters : ∀ c ∈ word, Text.isWord c = true) (digits : Digits count)
    (stops : Stops Text.isDigit rest) :
    suffix? (word ++ '.' :: (count ++ rest)) = some (word ++ '.' :: count) := by
  have wordStops : Stops Text.isWord ('.' :: (count ++ rest)) := Text.stops_cons (by decide) _
  simp [suffix?, Text.takeWhile_run letters wordStops, Text.dropWhile_run letters wordStops, filled,
    dottedDigits?, digits?_run digits stops, guard]

end Version

theorem digits_of_spells {digits : List Char} {n : Nat} (spells : Spells digits n) :
    Version.Digits digits :=
  ⟨spells.filled, spells.isDigit⟩

theorem Numbers.Spelled.dotted {v : Numbers} {text : List Char} (spelled : v.Spelled text) :
    Version.Dotted text := by
  obtain ⟨major, minor, patch, first, second, third, split⟩ := spelled
  exact ⟨major, minor, patch, digits_of_spells first, digits_of_spells second,
    digits_of_spells third, split⟩

theorem partValue_spells {digits : List Char} {n : Nat} (spells : Spells digits n) :
    partValue digits = n := by
  have unsigned : ∀ rest, digits ≠ '+' :: rest := by
    rintro rest rfl
    exact absurd (spells.ascii '+' (by simp)) (by decide)
  unfold partValue
  split
  · rename_i rest
    exact absurd rfl (unsigned rest)
  · simp only [spells.natural?, Option.getD_some]

theorem dot_not_mem {digits : List Char} {n : Nat} (spells : Spells digits n) : '.' ∉ digits :=
  fun member => absurd (spells.ascii '.' member) (by decide)

theorem parts_spelled {v : Numbers} {version : String} (spelled : v.Spelled version.toList) :
    parts version = v.toList := by
  obtain ⟨major, minor, patch, first, second, third, text⟩ := spelled
  have split : version.toList.splitOn '.' = [major, minor, patch] := by
    rw [text, List.splitOn_append_cons_self, List.splitOn_append_cons_self,
      List.splitOn_eq_singleton (dot_not_mem first), List.splitOn_eq_singleton (dot_not_mem second),
      List.splitOn_eq_singleton (dot_not_mem third)]
    rfl
  rw [parts, Text.splitOn_eq, split]
  simp [partValue_spells first, partValue_spells second, partValue_spells third, Numbers.toList]

theorem compare_lists_eq_lt_iff {xs ys : List Nat} : compare xs ys = .lt ↔ xs < ys := by
  induction xs generalizing ys with
  | nil => cases ys <;> simp
  | cons x xs ih =>
    cases ys with
    | nil => simp
    | cons y ys =>
      rw [List.compare_cons_cons, Ordering.then_eq_lt, Nat.compare_eq_lt, Nat.compare_eq_eq, ih,
        List.cons_lt_cons_iff]

theorem compareVersions_spelled {v w : Numbers} {version other : String}
    (spelled : v.Spelled version.toList) (others : w.Spelled other.toList) :
    (compareVersions version other).isLT = decide (v < w) := by
  rw [compareVersions, parts_spelled spelled, parts_spelled others, Bool.eq_iff_iff,
    Ordering.isLT_iff_eq_lt, compare_lists_eq_lt_iff, decide_eq_true_iff]
  rfl

structure Edition where
  numbers : Numbers
  stable : Bool
  deriving DecidableEq

namespace Edition

/-- How the version of an edition is written: a pre-release has a word and a number behind. -/
inductive Written : Edition → List Char → Prop
  | stable {v text} : v.Spelled text → Written ⟨v, true⟩ text
  | prerelease {v text word count n} : v.Spelled text → word ≠ [] →
      (∀ c ∈ word, Text.isWord c = true) → Spells count n →
      Written ⟨v, false⟩ (text ++ '-' :: (word ++ '.' :: count))

def NewerThan (e other : Edition) : Prop :=
  other.numbers < e.numbers ∨
    other.numbers = e.numbers ∧ e.stable = true ∧ other.stable = false

instance (e other : Edition) : Decidable (e.NewerThan other) :=
  inferInstanceAs (Decidable (_ ∨ _ ∧ _ ∧ _))

end Edition

/-- The editions of a listing. Tags of other tools may stand between them. -/
inductive Lists : List Release → List Edition → Prop
  | none : Lists [] []
  | other {r listing editions} : ¬tagStart.toList <+: r.tag.toList → Lists listing editions →
      Lists (r :: listing) editions
  | edition {r listing e editions text} : r.tag.toList = tagStart.toList ++ text →
      e.Written text → Lists listing editions → Lists (r :: listing) (e :: editions)

theorem versionText?_of_tag {r : Release} {text : List Char}
    (tag : r.tag.toList = tagStart.toList ++ text) : r.versionText? = some (String.ofList text) := by
  rw [versionText?, tag, Text.after?, if_pos (by simp), List.drop_left]
  rfl

theorem versionText?_of_other {r : Release} (other : ¬tagStart.toList <+: r.tag.toList) :
    r.versionText? = none := by
  rw [versionText?, Text.after?, if_neg (by simpa using other)]
  rfl

theorem parse?_written {e : Edition} {text : List Char} (written : e.Written text) :
    ∃ found, Version.parse? (String.ofList text) = some found ∧
      e.numbers.Spelled found.number.toList ∧ found.isPrerelease = !e.stable := by
  cases written with
  | @stable v text spelled =>
    have read := Version.parse?_dotted spelled.dotted (Text.stops_nil _)
    rw [List.append_nil] at read
    exact ⟨_, read, by simpa using spelled, rfl⟩
  | @prerelease v text word count n spelled filled letters counts =>
    have read := Version.parse?_dotted spelled.dotted (Version.hyphen_stops (word ++ '.' :: count))
    have suffix := Version.suffix?_run filled letters (digits_of_spells counts) (Text.stops_nil _)
    rw [List.append_nil] at suffix
    rw [Version.dropHyphen, suffix] at read
    exact ⟨_, read, by simpa using spelled, rfl⟩

theorem findSome?_lists {listing : List Release} {e : Edition} {editions : List Edition}
    (lists : Lists listing (e :: editions)) :
    ∃ text, listing.findSome? versionText? = some (String.ofList text) ∧ e.Written text := by
  generalize whole : e :: editions = all at lists
  induction lists with
  | none => cases whole
  | other other _ ih =>
    obtain ⟨text, first, written⟩ := ih whole
    exact ⟨text, by rw [List.findSome?_cons, versionText?_of_other other, first], written⟩
  | edition tag written _ =>
    cases whole
    exact ⟨_, by rw [List.findSome?_cons, versionText?_of_tag tag], written⟩

theorem latest?_lists {listing : List Release} {e : Edition} {editions : List Edition}
    (lists : Lists listing (e :: editions)) :
    ∃ found, latest? listing = some found ∧ e.numbers.Spelled found.number.toList ∧
      found.isPrerelease = !e.stable := by
  obtain ⟨text, first, written⟩ := findSome?_lists lists
  obtain ⟨found, read, spelled, kind⟩ := parse?_written written
  exact ⟨found, by rw [latest?, first, Option.bind_some, read], spelled, kind⟩

theorem isNewer_spelled {v : Numbers} {e : Edition} {current : String} {latest : Version}
    (spelled : v.Spelled current.toList) (others : e.numbers.Spelled latest.number.toList)
    (kind : latest.isPrerelease = !e.stable) :
    isNewer current latest = (e.stable && decide (v < e.numbers)) := by
  rw [isNewer, kind, compareVersions_spelled spelled others, Bool.not_not]

theorem Numbers.lt_trans {u v w : Numbers} (first : u < v) (second : v < w) : u < w :=
  List.lt_trans first second

theorem lt_newest {v : Numbers} {newest e : Edition} {editions : List Edition}
    (ordered : (newest :: editions).Pairwise Edition.NewerThan) (among : e ∈ newest :: editions)
    (above : v < e.numbers) : v < newest.numbers := by
  rcases List.mem_cons.mp among with rfl | among
  · exact above
  · rcases (List.pairwise_cons.mp ordered).1 e among with below | ⟨same, -⟩
    · exact Numbers.lt_trans above below
    · rwa [← same]

end Release

namespace Manager

open Release (Edition Lists Numbers)

/-- A status speaks of an update just where the newest edition of the listing is a stable release and
some stable release is later than the desired version: a pre-release in front hides those behind. -/
theorem updateAvailable_iff (m : Manager) (files : FileTree) {listing : List Release}
    {newest : Edition} {older : List Edition} {desired : Numbers}
    (wanted : desired.Spelled m.config.desiredVersion.toList)
    (lists : Lists listing (newest :: older))
    (ordered : (newest :: older).Pairwise Edition.NewerThan) :
    ∃ flag, (m.status (some listing) files).updateAvailable = some flag ∧
      (flag = true ↔ newest.stable = true ∧
        ∃ e ∈ newest :: older, e.stable = true ∧ desired < e.numbers) := by
  obtain ⟨found, latest, spelled, kind⟩ := Release.latest?_lists lists
  refine ⟨newest.stable && decide (desired < newest.numbers), ?_, ?_⟩
  · simp only [status, Option.bind_some, latest, Option.map_some,
      Release.isNewer_spelled wanted spelled kind]
  · rw [Bool.and_eq_true, decide_eq_true_iff]
    constructor
    · rintro ⟨stable, above⟩
      exact ⟨stable, newest, List.mem_cons_self, stable, above⟩
    · rintro ⟨stable, e, among, -, above⟩
      exact ⟨stable, Release.lt_newest ordered among above⟩

theorem spelled_desired :
    Numbers.Spelled ⟨0, 11, 0⟩ (rehearsed [] 0).config.desiredVersion.toList :=
  ⟨['0'], ['1', '1'], ['0'], by decide, by decide, by decide, by decide⟩

/-- Version 0.14.2 in a listing, stable and as a pre-release, behind a tag of another tool. -/
def stableInFront : List Release :=
  [⟨"v0.16.0", none⟩, ⟨"gopls/v0.14.2", none⟩, ⟨"gopls/v0.14.2-pre.1", none⟩]

def prereleaseInFront : List Release :=
  [⟨"gopls/v0.15.0-pre.1", none⟩, ⟨"gopls/v0.14.2", none⟩]

theorem spelled_stable : Numbers.Spelled ⟨0, 14, 2⟩ "0.14.2".toList :=
  ⟨['0'], ['1', '4'], ['2'], by decide, by decide, by decide, by decide⟩

theorem spelled_next : Numbers.Spelled ⟨0, 15, 0⟩ "0.15.0".toList :=
  ⟨['0'], ['1', '5'], ['0'], by decide, by decide, by decide, by decide⟩

theorem written_prerelease {v : Numbers} {text : List Char} (spelled : v.Spelled text) :
    Edition.Written ⟨v, false⟩ (text ++ '-' :: ("pre".toList ++ '.' :: ['1'])) :=
  .prerelease spelled (by decide) (List.all_eq_true.mp (by decide))
    (show Text.Spells ['1'] 1 by decide)

theorem updateAvailable_stableInFront :
    ((rehearsed [] 0).status (some stableInFront) (rehearsedFiles [])).updateAvailable =
      some true := by
  have lists : Lists stableInFront [⟨⟨0, 14, 2⟩, true⟩, ⟨⟨0, 14, 2⟩, false⟩] :=
    .other (by decide) (.edition (by decide) (.stable spelled_stable)
      (.edition (by decide) (written_prerelease spelled_stable) .none))
  obtain ⟨flag, said, iff⟩ := updateAvailable_iff (rehearsed [] 0) (rehearsedFiles [])
    spelled_desired lists (by decide)
  rw [said, iff.mpr ⟨rfl, _, List.mem_cons_self, rfl, by decide⟩]

/-- A listing may have a later stable release, and the status denies it. -/
theorem updateAvailable_prereleaseInFront :
    ¬∀ (m : Manager) (files : FileTree) (listing : List Release) (editions : List Edition)
      (desired : Numbers), desired.Spelled m.config.desiredVersion.toList →
      Lists listing editions → editions.Pairwise Edition.NewerThan → editions ≠ [] →
      ((m.status (some listing) files).updateAvailable = some true ↔
        ∃ e ∈ editions, e.stable = true ∧ desired < e.numbers) := by
  intro promised
  have lists : Lists prereleaseInFront [⟨⟨0, 15, 0⟩, false⟩, ⟨⟨0, 14, 2⟩, true⟩] :=
    .edition (by decide) (written_prerelease spelled_next)
      (.edition (by decide) (.stable spelled_stable) .none)
  have kept := promised (rehearsed [] 0) (rehearsedFiles []) _ _ _ spelled_desired lists
    (by decide) (by decide)
  have denied : ((rehearsed [] 0).status (some prereleaseInFront) (rehearsedFiles [])).updateAvailable =
      some false := by
    decide +kernel
  rw [denied] at kept
  exact absurd (kept.mpr ⟨⟨⟨0, 14, 2⟩, true⟩, by decide, rfl, by decide⟩) (by decide)

end Manager

end ServerKeeper

import Mathlib
import ServerKeeper.Proofs.Release

namespace ServerKeeper

namespace Release

open Text (Spells Stops)

namespace Version

def IsSuffix (text : List Char) : Prop :=
  ∃ word count, word ≠ [] ∧ (∀ c ∈ word, Text.isWord c = true) ∧ Digits count ∧
    text = word ++ '.' :: count

/-- A version of these three numbers. Where it has a suffix, that is one of a pre-release. -/
structure Denotes (version : Version) (v : Numbers) : Prop where
  number : v.Spelled version.number.toList
  suffix : ∀ s, version.prerelease = some s → IsSuffix s.toList

end Version

theorem partValue_hyphen {digits : List Char} {n : Nat} (spells : Spells digits n)
    (word : List Char) : partValue (digits ++ '-' :: word) = 0 := by
  have unread : Text.natural? (UInt64.size - 1) (digits ++ '-' :: word) = none := by
    rw [Text.natural?, if_neg (by simp), Text.readDigits?_of_mem (c := '-') (by simp) (by decide)]
    rfl
  obtain ⟨c, digits, rfl⟩ := List.exists_cons_of_ne_nil spells.filled
  have unsigned : c ≠ '+' := by
    rintro rfl
    exact absurd (spells.ascii '+' List.mem_cons_self) (by decide)
  unfold partValue
  split
  · rename_i rest whole
    exact absurd (List.cons.inj whole).1 unsigned
  · simp only [unread, Option.getD_none]

theorem dot_not_mem_of {p : Char → Bool} {run : List Char} (inside : ∀ c ∈ run, p c = true)
    (out : p '.' = false) : '.' ∉ run := by
  intro member
  rw [inside '.' member] at out
  cases out

theorem dot_not_word : Text.isWord '.' = false := by decide

theorem parts_prerelease {version : Version} {v : Numbers} (denotes : version.Denotes v)
    (pre : version.isPrerelease = true) :
    ∃ count, parts version.render = [v.major, v.minor, 0, count] := by
  obtain ⟨s, suffix⟩ := Option.isSome_iff_exists.mp pre
  obtain ⟨word, count, -, letters, digits, text⟩ := denotes.suffix s suffix
  obtain ⟨major, minor, patch, first, second, third, number⟩ := denotes.number
  have split : version.render.toList =
      major ++ '.' :: (minor ++ '.' :: ((patch ++ '-' :: word) ++ '.' :: count)) := by
    simp [Version.render, suffix, number, text]
  have middle : '.' ∉ patch ++ '-' :: word := by
    simp [dot_not_mem third, dot_not_mem_of letters dot_not_word]
  have last : '.' ∉ count := dot_not_mem_of digits.inside (by decide)
  refine ⟨partValue count, ?_⟩
  rw [parts, Text.splitOn_eq, split, List.splitOn_append_cons_self, List.splitOn_append_cons_self,
    List.splitOn_append_cons_self, List.splitOn_eq_singleton (dot_not_mem first),
    List.splitOn_eq_singleton (dot_not_mem second), List.splitOn_eq_singleton middle,
    List.splitOn_eq_singleton last]
  simp [partValue_spells first, partValue_spells second, partValue_hyphen third]

/-- The numbers that a configured version is compared by: a pre-release has its patch cut off. -/
def Version.ranked (version : Version) (v : Numbers) : Numbers :=
  if version.isPrerelease then { v with patch := 0 } else v

theorem compareVersions_render {current latest : Version} {v w : Numbers}
    (denotes : current.Denotes v) (others : latest.Denotes w) :
    (compareVersions current.render latest.number).isLT = decide (current.ranked v < w) := by
  cases pre : current.isPrerelease with
  | false =>
    have plain : current.render = current.number := by
      simp only [Version.isPrerelease, Option.isSome_eq_false_iff, Option.isNone_iff_eq_none] at pre
      simp only [Version.render, pre]
    rw [plain, compareVersions_spelled denotes.number others.number, Version.ranked, pre]
    rfl
  | true =>
    obtain ⟨count, four⟩ := parts_prerelease denotes pre
    rw [compareVersions, four, parts_spelled others.number, Version.ranked, pre, Bool.eq_iff_iff,
      Ordering.isLT_iff_eq_lt, compare_lists_eq_lt_iff, decide_eq_true_iff]
    -- A fourth part behind three equal ones never comes first.
    change [v.major, v.minor, 0, count] < [w.major, w.minor, w.patch] ↔
      [v.major, v.minor, 0] < [w.major, w.minor, w.patch]
    simp [List.cons_lt_cons_iff]

theorem Numbers.lt_iff {v w : Numbers} :
    v < w ↔ v.major < w.major ∨ v.major = w.major ∧ (v.minor < w.minor ∨
      v.minor = w.minor ∧ v.patch < w.patch) := by
  change [v.major, v.minor, v.patch] < [w.major, w.minor, w.patch] ↔ _
  simp [List.cons_lt_cons_iff]

/-- A stable release is newer than a configured version of smaller numbers, and than the pre-releases
of its own. -/
def Version.Precedes (version : Version) (v w : Numbers) : Prop :=
  v < w ∨ v = w ∧ version.isPrerelease = true

/-- Where the lost patch of a pre-release tells: within one minor version, on the way from patch 0 to
the release itself and from a later patch back to an earlier one. -/
def Version.Misranked (version : Version) (v w : Numbers) : Prop :=
  version.isPrerelease = true ∧ v.major = w.major ∧ v.minor = w.minor ∧
    (v.patch = 0 ∧ w.patch = 0 ∨ 0 < w.patch ∧ w.patch < v.patch)

/-- A stable release counts as newer than a configured version just where its numbers are later, the
patch of a configured pre-release taken for zero. That is the order of releases except where the
pre-release is misranked. -/
theorem isNewer_configured {current latest : Version} {v w : Numbers}
    (denotes : current.Denotes v) (others : latest.Denotes w)
    (stable : latest.isPrerelease = false) :
    (isNewer current.render latest = true ↔ current.ranked v < w) ∧
      ((isNewer current.render latest = true ↔ current.Precedes v w) ↔
        ¬current.Misranked v w) := by
  have newer : isNewer current.render latest = true ↔ current.ranked v < w := by
    rw [isNewer, stable, compareVersions_render denotes others]
    simp
  refine ⟨newer, ?_⟩
  rw [newer]
  obtain ⟨major, minor, patch⟩ := v
  obtain ⟨major', minor', patch'⟩ := w
  cases pre : current.isPrerelease with
  | false => simp [Version.ranked, Version.Precedes, Version.Misranked, pre]
  | true =>
    simp only [Version.ranked, Version.Precedes, Version.Misranked, pre, if_true, Numbers.lt_iff,
      Numbers.mk.injEq, and_true, true_and]
    omega

def preview : Version := ⟨"0.14.2", some "pre.1"⟩

theorem denotes_preview : preview.Denotes ⟨0, 14, 2⟩ where
  number := ⟨['0'], ['1', '4'], ['2'], by decide, by decide, by decide, by decide⟩
  suffix := by
    rintro s ⟨⟩
    exact ⟨['p', 'r', 'e'], ['1'], by decide, List.all_eq_true.mp (by decide),
      ⟨by decide, List.all_eq_true.mp (by decide)⟩, by decide⟩

theorem denotes_earlier : Version.Denotes ⟨"0.14.1", none⟩ ⟨0, 14, 1⟩ where
  number := ⟨['0'], ['1', '4'], ['1'], by decide, by decide, by decide, by decide⟩
  suffix := nofun

theorem isNewer_preview : isNewer preview.render ⟨"0.14.1", none⟩ = true :=
  (isNewer_configured denotes_preview denotes_earlier rfl).1.mpr (by decide)

/-- So the order of releases is not what a configured pre-release is ranked by. -/
theorem isNewer_earlier :
    ¬∀ (current latest : Version) (v w : Numbers), current.Denotes v → latest.Denotes w →
      latest.isPrerelease = false →
      (isNewer current.render latest = true ↔ current.Precedes v w) := by
  intro ordered
  have offered : isNewer preview.render ⟨"0.14.1", none⟩ = true := by decide +kernel
  rcases (ordered _ _ _ _ denotes_preview denotes_earlier rfl).mp offered with earlier | ⟨same, -⟩
  · exact absurd earlier (by decide)
  · exact absurd same (by decide)

/-- An identifier of a semantic version: ASCII letters, digits and hyphens, one at least. -/
structure Identifier (run : List Char) : Prop where
  filled : run ≠ []
  inside : ∀ c ∈ run, c.isAlphanum = true ∨ c = '-'

instance (run : List Char) : Decidable (Identifier run) :=
  decidable_of_iff (run ≠ [] ∧ run.all (fun c => c.isAlphanum || c == '-') = true)
    ⟨fun ⟨filled, inside⟩ => ⟨filled, by simpa using inside⟩,
      fun ⟨filled, inside⟩ => ⟨filled, by simpa using inside⟩⟩

def dotJoined (identifiers : List (List Char)) : List Char :=
  ['.'].intercalate identifiers

/-- The suffixes that the reader of tags knows: the first identifier has no hyphen, and a second one
begins with a digit. -/
def Known : List (List Char) → Prop
  | word :: (c :: _) :: _ => '-' ∉ word ∧ c.isDigit = true
  | _ => False

instance (identifiers : List (List Char)) : Decidable (Known identifiers) :=
  match identifiers with
  | word :: (c :: _) :: _ => inferInstanceAs (Decidable ('-' ∉ word ∧ c.isDigit = true))
  | [] | [_] | _ :: [] :: _ => inferInstanceAs (Decidable False)

theorem Known.hyphenless {word : List Char} {others : List (List Char)}
    (known : Known (word :: others)) : '-' ∉ word := by
  match others, known with
  | (_ :: _) :: _, known => exact known.1

def alphanumCodes : List Nat :=
  List.range' 0x30 10 ++ List.range' 0x41 26 ++ List.range' 0x61 26

theorem code_of_isAlphanum {c : Char} (plain : c.isAlphanum = true) :
    c.val.toNat ∈ alphanumCodes := by
  simp only [Char.isAlphanum, Char.isAlpha, Char.isUpper, Char.isLower, Char.isDigit,
    Bool.or_eq_true, Bool.and_eq_true, decide_eq_true_eq, ge_iff_le, UInt32.le_iff_toNat_le] at plain
  have bounds : 'A'.val.toNat = 0x41 ∧ 'Z'.val.toNat = 0x5a ∧ 'a'.val.toNat = 0x61 ∧
    'z'.val.toNat = 0x7a ∧ '0'.val.toNat = 0x30 ∧ '9'.val.toNat = 0x39 := by decide
  simp only [alphanumCodes, List.mem_append, List.mem_range'_1]
  omega

theorem isDigit_of_isAlphanum {c : Char} (plain : c.isAlphanum = true) :
    Text.isDigit c = c.isDigit := by
  have codes : ∀ n ∈ alphanumCodes,
      Text.digitRanges.contains n = (decide (0x30 ≤ n) && decide (n ≤ 0x39)) := by decide +kernel
  exact codes _ (code_of_isAlphanum plain)

theorem isWord_of_isAlphanum {c : Char} (plain : c.isAlphanum = true) : Text.isWord c = true := by
  have codes : ∀ n ∈ alphanumCodes, Text.wordRanges.contains n = true := by decide +kernel
  exact codes _ (code_of_isAlphanum plain)

theorem dottedDigits?_isSome_iff {cs : List Char} :
    (Version.dottedDigits? cs).isSome = true ↔
      ∃ c rest, cs = '.' :: c :: rest ∧ Text.isDigit c = true := by
  unfold Version.dottedDigits?
  split
  · rename_i rest
    cases rest with
    | nil => simp [Version.digits?]
    | cons c rest => cases digit : Text.isDigit c <;> simp [Version.digits?, digit]
  · rename_i other
    simp only [Option.isSome_none, Bool.false_eq_true, false_iff, not_exists]
    rintro c rest ⟨rfl, -⟩
    exact other _ rfl

theorem suffix?_isSome_iff {cs : List Char} :
    (Version.suffix? cs).isSome = true ↔ cs.takeWhile Text.isWord ≠ [] ∧
      ∃ c rest, cs.dropWhile Text.isWord = '.' :: c :: rest ∧ Text.isDigit c = true := by
  rw [← dottedDigits?_isSome_iff]
  cases word : cs.takeWhile Text.isWord with
  | nil => simp [Version.suffix?, word, guard]
  | cons c run =>
    cases count : Version.dottedDigits? (cs.dropWhile Text.isWord) <;>
      simp [Version.suffix?, word, count, guard]

theorem dotJoined_cons (word : List Char) (identifiers : List (List Char)) :
    dotJoined (word :: identifiers) = word ++ match identifiers with
      | [] => []
      | _ :: _ => '.' :: dotJoined identifiers := by
  cases identifiers <;> simp [dotJoined, List.intercalate]

theorem Identifier.isWord {run : List Char} (identifier : Identifier run) (whole : '-' ∉ run) :
    ∀ c ∈ run, Text.isWord c = true := by
  intro c member
  rcases identifier.inside c member with plain | rfl
  · exact isWord_of_isAlphanum plain
  · exact absurd member whole

theorem Identifier.isDigit_head {c : Char} {rest : List Char} (identifier : Identifier (c :: rest)) :
    Text.isDigit c = c.isDigit := by
  rcases identifier.inside c List.mem_cons_self with plain | rfl
  · exact isDigit_of_isAlphanum plain
  · decide

/-- Of the suffixes of semantic versions the reader of tags takes those it knows; it drops every other
one and the tag passes for a stable release. -/
theorem suffix?_dotJoined_isSome_iff {identifiers : List (List Char)}
    (semantic : ∀ i ∈ identifiers, Identifier i) :
    (Version.suffix? (dotJoined identifiers)).isSome = true ↔ Known identifiers := by
  rw [suffix?_isSome_iff]
  cases identifiers with
  | nil => simp [dotJoined, Known]
  | cons word others =>
    rw [List.forall_mem_cons] at semantic
    obtain ⟨first, semantic⟩ := semantic
    rw [dotJoined_cons]
    by_cases hyphen : '-' ∈ word
    · -- The word ends at its hyphen, where a dot would have to stand.
      have unknown : ¬Known (word :: others) := fun known => known.hyphenless hyphen
      obtain ⟨front, back, split, free⟩ := List.eq_append_cons_of_mem hyphen
      have letters : ∀ c ∈ front, Text.isWord c = true := by
        intro c member
        refine (first.inside c (by simp [split, member])).elim isWord_of_isAlphanum ?_
        rintro rfl
        exact absurd member free
      have stops (rest : List Char) : Stops Text.isWord ('-' :: rest) :=
        Text.stops_cons (by decide) rest
      refine iff_of_false ?_ unknown
      rintro ⟨-, c, rest, dot, -⟩
      rw [split, List.append_assoc, List.cons_append, Text.dropWhile_run letters (stops _)] at dot
      cases (List.cons.inj dot).1
    · have letters := first.isWord hyphen
      cases others with
      | nil =>
        have ends := Text.dropWhile_run letters (Text.stops_nil _)
        simp only [ends, Known]
        simp
      | cons second more =>
        have stops : Stops Text.isWord ('.' :: dotJoined (second :: more)) :=
          Text.stops_cons dot_not_word _
        have filled : word ≠ [] := first.filled
        obtain ⟨c, rest, rfl⟩ := List.exists_cons_of_ne_nil (semantic second List.mem_cons_self).filled
        have head := (semantic _ List.mem_cons_self).isDigit_head
        simp only [Text.takeWhile_run letters stops, Text.dropWhile_run letters stops, Known]
        rw [dotJoined_cons]
        simp [filled, hyphen, head]

def Fronted (listing : List Release) (text : List Char) : Prop :=
  ∃ others r more, listing = others ++ r :: more ∧
    (∀ other ∈ others, ¬tagStart.toList <+: other.tag.toList) ∧
    r.tag.toList = tagStart.toList ++ text

theorem findSome?_fronted {listing : List Release} {text : List Char}
    (fronted : Fronted listing text) :
    listing.findSome? versionText? = some (String.ofList text) := by
  obtain ⟨others, r, more, rfl, foreign, tag⟩ := fronted
  have passed : others.findSome? versionText? = none :=
    List.findSome?_eq_none_iff.mpr fun other member => versionText?_of_other (foreign other member)
  rw [List.findSome?_append, passed, Option.none_or, List.findSome?_cons, versionText?_of_tag tag]

/-- A pre-release in front of a listing is the latest release. It is one to the reader of tags just
where its suffix is known. -/
theorem latest?_fronted {listing : List Release} {number : List Char}
    {identifiers : List (List Char)} (dotted : Version.Dotted number)
    (semantic : ∀ i ∈ identifiers, Identifier i)
    (fronted : Fronted listing (number ++ '-' :: dotJoined identifiers)) :
    ∃ found, latest? listing = some found ∧ found.number = String.ofList number ∧
      (found.isPrerelease = true ↔ Known identifiers) := by
  have read := Version.parse?_dotted dotted (Version.hyphen_stops (dotJoined identifiers))
  refine ⟨_, by rw [latest?, findSome?_fronted fronted, Option.bind_some, read], rfl, ?_⟩
  rw [Version.isPrerelease, Version.dropHyphen, Option.isSome_map,
    suffix?_dotJoined_isSome_iff semantic]

end Release

namespace Manager

open Release (Version Identifier Known Fronted dotJoined)

/-- A pre-release in front of a listing is kept from being an update where its suffix is known. With
any other suffix it is offered like a stable release of its numbers. -/
theorem updateAvailable_fronted (m : Manager) (files : FileTree) {listing : List Release}
    {number : List Char} {identifiers : List (List Char)} (dotted : Version.Dotted number)
    (semantic : ∀ i ∈ identifiers, Identifier i)
    (fronted : Fronted listing (number ++ '-' :: dotJoined identifiers)) :
    ∃ found, Release.latest? listing = some found ∧
      (found.isPrerelease = true ↔ Known identifiers) ∧
      (∀ current, Release.isNewer current found = true ↔ ¬Known identifiers ∧
        Release.compareVersions current (String.ofList number) = .lt) ∧
      (m.status (some listing) files).updateAvailable =
        some (Release.isNewer m.config.desiredVersion found) := by
  obtain ⟨found, latest, same, kind⟩ := Release.latest?_fronted dotted semantic fronted
  refine ⟨found, latest, kind, fun current => ?_, ?_⟩
  · rw [← kind, ← same, Release.isNewer, Bool.and_eq_true, Ordering.isLT_iff_eq_lt,
      Bool.not_eq_true', Bool.not_eq_true]
  · simp only [status, Option.bind_some, latest, Option.map_some]

def candidateInFront : List Release :=
  [⟨"v0.16.0", none⟩, ⟨"gopls/v0.15.0-rc1", none⟩]

theorem dotted_candidate : Version.Dotted "0.15.0".toList :=
  spelled_next.dotted

theorem identifiers_candidate : ∀ i ∈ ["rc1".toList], Identifier i := by decide

theorem fronted_candidate :
    Fronted candidateInFront ("0.15.0".toList ++ '-' :: dotJoined ["rc1".toList]) :=
  ⟨[⟨"v0.16.0", none⟩], ⟨"gopls/v0.15.0-rc1", none⟩, [], rfl, by decide, by decide⟩

theorem updateAvailable_candidate :
    ((rehearsed [] 0).status (some candidateInFront) (rehearsedFiles [])).updateAvailable =
      some true := by
  obtain ⟨found, -, -, newer, said⟩ := updateAvailable_fronted (rehearsed [] 0) (rehearsedFiles [])
    dotted_candidate identifiers_candidate fronted_candidate
  rw [said, (newer _).mpr ⟨by decide, by decide +kernel⟩]

/-- A pre-release may be offered as an update. -/
theorem updateAvailable_candidateInFront :
    ¬∀ (m : Manager) (files : FileTree) (listing : List Release) (number : List Char)
      (identifiers : List (List Char)), Version.Dotted number → identifiers ≠ [] →
      (∀ i ∈ identifiers, Identifier i) →
      Fronted listing (number ++ '-' :: dotJoined identifiers) →
      (m.status (some listing) files).updateAvailable = some false := by
  intro held
  have denied := held (rehearsed [] 0) (rehearsedFiles []) _ _ _ dotted_candidate (by decide)
    identifiers_candidate fronted_candidate
  have offered : ((rehearsed [] 0).status (some candidateInFront)
      (rehearsedFiles [])).updateAvailable = some true := by
    decide +kernel
  rw [offered] at denied
  cases denied

end Manager

end ServerKeeper

import Mathlib.Data.List.Basic
import Mathlib.Tactic
import ServerKeeper.Proofs.Text.Pattern
import ServerKeeper.Toolchain.Version

namespace ServerKeeper.Toolchain.Version

open Text (Run Stops FirstAt Pattern Match run?)

def Begins (text : List Char) : Prop :=
  ∃ major minor rest, Run Text.isDigit major ∧ Run Text.isDigit minor ∧
    text = 'g' :: 'o' :: (major ++ '.' :: (minor ++ rest))

/-- The third run of digits: the whole one behind a dot, if there is one. -/
inductive Third : List Char → List Char → Prop
  | dotted {patch rest} : Run Text.isDigit patch → Stops Text.isDigit rest →
      Third ('.' :: (patch ++ rest)) patch
  | missing {tail} : (∀ c rest, tail = '.' :: c :: rest → Text.isDigit c = false) → Third tail []

/-- The digits of the version at the start of a text, each run taken whole. -/
structure Stands (text : List Char) (w : Written) (tail : List Char) : Prop where
  split : text = 'g' :: 'o' :: (w.major ++ '.' :: (w.minor ++ tail))
  major : Run Text.isDigit w.major
  minor : Run Text.isDigit w.minor
  whole : Stops Text.isDigit tail
  patch : Third tail w.patch

theorem Stands.begins {text tail : List Char} {w : Written} (stands : Stands text w tail) :
    Begins text :=
  ⟨w.major, w.minor, tail, stands.major, stands.minor, stands.split⟩

theorem dot_stops (rest : List Char) : Stops Text.isDigit ('.' :: rest) :=
  Text.stops_cons (by decide) rest

theorem third_iff {tail patch : List Char} : Third tail patch ↔ patchAt tail = patch := by
  constructor
  · intro third
    cases third with
    | dotted digits stops => exact Text.takeWhile_run digits.inside stops
    | missing none =>
      unfold patchAt
      split
      · rename_i rest
        cases rest with
        | nil => rfl
        | cons c rest => simp [none c rest rfl]
      · rfl
  · rintro rfl
    unfold patchAt
    split
    · rename_i rest
      by_cases none : rest.takeWhile Text.isDigit = []
      · rw [none]
        apply Third.missing
        rintro c behind same
        obtain rfl := (List.cons.inj same).2
        by_contra digit
        simp [digit] at none
      · have third := Third.dotted (Text.run_takeWhile none) (Text.stops_dropWhile Text.isDigit rest)
        rwa [List.takeWhile_append_dropWhile] at third
    · rename_i other
      exact .missing fun c rest same => absurd same (other (c :: rest))

theorem writtenAt?_eq_some_iff {text : List Char} {w : Written} :
    writtenAt? text = some w ↔ ∃ tail, Stands text w tail := by
  constructor
  · intro found
    unfold writtenAt? at found
    split at found
    · rename_i rest
      split at found
      · rename_i behind dropped
        dsimp only at found
        split at found
        · cases found
        · rename_i filled
          obtain rfl := Option.some.inj found
          simp only [Bool.or_eq_true, List.isEmpty_iff, not_or] at filled
          refine ⟨behind.dropWhile Text.isDigit, ?_, Text.run_takeWhile filled.1,
            Text.run_takeWhile filled.2, Text.stops_dropWhile _ _, third_iff.mpr rfl⟩
          rw [List.takeWhile_append_dropWhile, ← dropped, List.takeWhile_append_dropWhile]
      · cases found
    · cases found
  · rintro ⟨tail, rfl, major, minor, whole, patch⟩
    have dot := dot_stops (w.minor ++ tail)
    simp only [writtenAt?, Text.takeWhile_run major.inside dot, Text.dropWhile_run major.inside dot,
      Text.takeWhile_run minor.inside whole, Text.dropWhile_run minor.inside whole,
      third_iff.mp patch]
    rw [if_neg (by simp [major.filled, minor.filled])]

theorem isSome_writtenAt?_iff {text : List Char} :
    (writtenAt? text).isSome = true ↔ Begins text := by
  rw [Option.isSome_iff_exists]
  constructor
  · rintro ⟨w, found⟩
    obtain ⟨tail, stands⟩ := writtenAt?_eq_some_iff.mp found
    exact stands.begins
  · rintro ⟨major, minor, rest, first, second, rfl⟩
    -- The second run may go on in what follows it.
    have whole : Run Text.isDigit (minor ++ rest.takeWhile Text.isDigit) :=
      second.append fun c member => List.mem_takeWhile_imp member
    refine ⟨⟨major, minor ++ rest.takeWhile Text.isDigit, patchAt (rest.dropWhile Text.isDigit)⟩,
      writtenAt?_eq_some_iff.mpr ⟨rest.dropWhile Text.isDigit, ?_, first, whole,
        Text.stops_dropWhile _ _, third_iff.mpr rfl⟩⟩
    rw [List.append_assoc, List.takeWhile_append_dropWhile]

theorem written?_eq (text : List Char) : written? text = text.tails.findSome? writtenAt? := by
  apply Text.eq_findSome?_tails
  · rfl
  · intro c text
    rw [written?]
    cases writtenAt? (c :: text) <;> rfl

def ofMatch (m : Match) : Written :=
  ⟨(m.group? 1).getD [], (m.group? 2).getD [], (m.group? 3).getD []⟩

theorem patchAt_eq_matchAt? (text : List Char) :
    ∃ m, (Pattern.optional (.seq (.char '.') (.group (.many Text.isDigit)))).matchAt? text = some m ∧
      (m.group? 1).getD [] = patchAt text := by
  rw [Pattern.matchAt?_optional]
  refine ⟨_, rfl, ?_⟩
  unfold patchAt
  split
  · rename_i rest
    rw [Pattern.matchAt?_char_seq, Pattern.matchAt?_group, Pattern.matchAt?_many, run?]
    split
    · rename_i empty
      simp [List.isEmpty_iff.mp empty, Match.group?]
    · rfl
  · rename_i other
    rw [Pattern.matchAt?_char_seq_of_ne other]
    rfl

theorem matchAt?_minor (text : List Char) :
    ((Pattern.seq (.group (.many Text.isDigit))
      (.optional (.seq (.char '.') (.group (.many Text.isDigit))))).matchAt? text).map
        (fun m => ((m.group? 1).getD [], (m.group? 2).getD [])) =
      (run? Text.isDigit text).map fun (minor, rest) => (minor, patchAt rest) := by
  have total : ∀ rest, ((Pattern.optional (.seq (.char '.')
      (.group (.many Text.isDigit)))).matchAt? rest).isSome = true := by
    intro rest
    rw [Pattern.matchAt?_optional, Option.isSome_some]
  rw [Pattern.matchAt?_seq_of_total total, Pattern.matchAt?_group, Pattern.matchAt?_many]
  cases run? Text.isDigit text with
  | none => rfl
  | some found =>
    obtain ⟨m, read, patch⟩ := patchAt_eq_matchAt? found.2
    simp only [Match.group?] at patch
    simp [Match.grouped, Match.append, read, Match.group?, patch]

theorem writtenAt?_eq_matchAt? (text : List Char) :
    writtenAt? text = (pattern.matchAt? text).map ofMatch := by
  unfold writtenAt? pattern
  split
  · rename_i rest
    rw [Pattern.matchAt?_char_seq, Pattern.matchAt?_char_seq,
      Pattern.matchAt?_group_many_seq (Pattern.declines_char (by decide)).seq, run?]
    by_cases none : (rest.takeWhile Text.isDigit).isEmpty
    · rw [if_pos none]
      split <;> simp [none]
    · rw [if_neg none, Option.bind_some]
      split
      · rename_i behind dropped
        have minor := congrArg (Option.map fun (minor, patch) =>
          Written.mk (rest.takeWhile Text.isDigit) minor patch) (matchAt?_minor behind)
        simp only [dropped, Pattern.matchAt?_char_seq, Option.map_map] at minor ⊢
        rw [Bool.not_eq_true] at none
        rw [none, Bool.false_or]
        refine Eq.trans ?_ minor.symm
        rw [run?]
        split <;> rfl
      · rename_i other
        simp only [Pattern.matchAt?_char_seq_of_ne other, Option.map_none]
  · rename_i other
    by_cases started : ∃ rest, text = 'g' :: rest
    · obtain ⟨rest, rfl⟩ := started
      have noLetter : ∀ more, rest ≠ 'o' :: more := by
        rintro more rfl
        exact other more rfl
      rw [Pattern.matchAt?_char_seq, Pattern.matchAt?_char_seq_of_ne noLetter]
      rfl
    · rw [Pattern.matchAt?_char_seq_of_ne fun rest same => started ⟨rest, same⟩]
      rfl

theorem written?_eq_find? (text : List Char) :
    written? text = (pattern.find? text).map ofMatch := by
  rw [written?_eq, Pattern.find?_eq, List.map_findSome?]
  congr 1
  funext rest
  exact writtenAt?_eq_matchAt? rest

theorem written?_eq_some_iff {text : List Char} {w : Written} :
    written? text = some w ↔
      ∃ front rest tail, FirstAt Begins text front rest ∧ Stands rest w tail := by
  rw [written?_eq, Text.findSome?_tails_eq_some_iff fun _ => isSome_writtenAt?_iff]
  simp only [writtenAt?_eq_some_iff, exists_and_left]

theorem written?_eq_none_iff {text : List Char} :
    written? text = none ↔ ∀ front rest, text = front ++ rest → ¬Begins rest := by
  rw [written?_eq, Text.findSome?_tails_eq_none_iff fun _ => isSome_writtenAt?_iff]

/-- What a run of digits counts for: an ASCII number of 32 bits for itself, any other for zero. -/
def worth (run : List Char) : Nat :=
  if Text.AsciiDigits run ∧ Text.decimal run < UInt32.size then Text.decimal run else 0

theorem toNat_component (run : List Char) : (component run).toNat = worth run := by
  by_cases empty : run = []
  · simp [component, worth, Text.natural?, Text.decimal, empty]
  · have limit : Text.decimal run ≤ UInt32.size - 1 ↔ Text.decimal run < UInt32.size :=
      Nat.le_sub_one_iff_lt (by decide)
    simp only [component, Text.natural?_eq _ empty, limit, worth]
    split
    · rename_i fits
      rw [Option.getD_some]
      exact UInt32.toNat_ofNat_of_lt fits.2
    · rfl

def toList (v : Version) : List Nat := [v.major.toNat, v.minor.toNat, v.patch.toNat]

theorem toList_parse {s : String} {w : Written} (found : written? s.toList = some w) :
    (parse s).toList = [worth w.major, worth w.minor, worth w.patch] := by
  simp only [parse, found, toList, toNat_component]

theorem toList_inj {v w : Version} (same : v.toList = w.toList) : v = w := by
  obtain ⟨major, minor, patch⟩ := v
  obtain ⟨major', minor', patch'⟩ := w
  simpa [toList, UInt32.toNat_inj] using same

theorem ascii_toDigits (n : Nat) : Text.AsciiDigits (Nat.toDigits 10 n) := by
  intro c member
  have digit := Nat.isDigit_of_mem_toDigits (by decide) (by decide) member
  simp only [Char.isDigit, Bool.and_eq_true, decide_eq_true_eq] at digit
  exact digit

theorem run_toDigits (n : Nat) : Run Text.isDigit (Nat.toDigits 10 n) :=
  ⟨Nat.toDigits_ne_nil, fun c member => Text.isDigit_of_ascii (ascii_toDigits n c member)⟩

theorem worth_toDigits (n : UInt32) : worth (Nat.toDigits 10 n.toNat) = n.toNat := by
  have value : Text.decimal (Nat.toDigits 10 n.toNat) = n.toNat := Nat.ofDigitChars_ten_toDigits
  rw [worth, value, if_pos ⟨ascii_toDigits _, n.toNat_lt⟩]

theorem toList_render (v : Version) :
    v.render.toList = Nat.toDigits 10 v.major.toNat ++ '.' :: (Nat.toDigits 10 v.minor.toNat ++
      '.' :: Nat.toDigits 10 v.patch.toNat) := by
  have dot : (toString ".").toList = ['.'] := rfl
  simp [render, Nat.toString_eq_repr, Nat.toList_repr, dot]

def digits (v : Version) : Written :=
  ⟨Nat.toDigits 10 v.major.toNat, Nat.toDigits 10 v.minor.toNat, Nat.toDigits 10 v.patch.toNat⟩

theorem stands_render {v : Version} {behind : List Char} (stops : Stops Text.isDigit behind) :
    Stands ('g' :: 'o' :: (v.render.toList ++ behind)) v.digits
      ('.' :: (v.digits.patch ++ behind)) where
  split := by simp [toList_render, digits]
  major := run_toDigits _
  minor := run_toDigits _
  whole := dot_stops _
  patch := .dotted (run_toDigits _) stops

/-- Where no `go` of a text has a digit right behind it, no version begins in it, whatever follows. -/
theorem firstAt_of_free {before behind : List Char}
    (free : ∀ front c rest, before = front ++ 'g' :: 'o' :: c :: rest → Text.isDigit c = false)
    (begins : Begins ('g' :: behind)) :
    FirstAt Begins (before ++ 'g' :: behind) before ('g' :: behind) := by
  refine ⟨rfl, begins, fun front rest split earlier => ?_⟩
  obtain ⟨major, minor, tail, digits, -, rfl⟩ := earlier
  obtain ⟨d, major, rfl⟩ := List.exists_cons_of_ne_nil digits.filled
  have digit : Text.isDigit d = true := digits.inside d List.mem_cons_self
  have letter : Text.isDigit 'g' = false := by decide
  rcases List.append_eq_append_iff.mp split with ⟨more, rfl, -⟩ | ⟨begun, rfl, same⟩
  · simp
  · -- The earlier version would begin in `before`, and have its first digit there too.
    match begun, same with
    | [], _ => simp
    | [_], same => simp at same
    | [_, _], same =>
      simp only [List.cons_append, List.nil_append, List.cons.injEq] at same
      obtain ⟨-, -, rfl, -⟩ := same
      exact absurd digit (by simp [letter])
    | g :: o :: c :: begun, same =>
      simp only [List.cons_append, List.cons.injEq] at same
      obtain ⟨rfl, rfl, rfl, -⟩ := same
      exact absurd digit (by simp [free front d begun rfl])

theorem parse_render (v : Version) {before behind : String}
    (free : ∀ front c rest, before.toList = front ++ 'g' :: 'o' :: c :: rest →
      Text.isDigit c = false)
    (stops : Stops Text.isDigit behind.toList) :
    parse (before ++ "go" ++ v.render ++ behind) = v := by
  have stands := stands_render (v := v) stops
  have first := firstAt_of_free free stands.begins
  have whole : (before ++ "go" ++ v.render ++ behind).toList =
      before.toList ++ 'g' :: 'o' :: (v.render.toList ++ behind.toList) := by
    simp
  have read : written? (before ++ "go" ++ v.render ++ behind).toList = some v.digits := by
    rw [whole]
    exact written?_eq_some_iff.mpr ⟨_, _, _, first, stands⟩
  apply toList_inj
  rw [toList_parse read, digits, worth_toDigits, worth_toDigits, worth_toDigits, toList]

theorem compare_eq_lt_iff {v w : Version} : compare v w = .lt ↔ v.toList < w.toList := by
  change (compare v.major w.major).then
    ((compare v.minor w.minor).then (compare v.patch w.patch)) = .lt ↔ _
  simp only [Ordering.then_eq_lt, Std.compare_eq_lt, Std.compare_eq_iff_eq, UInt32.lt_iff_toNat_lt,
    ← UInt32.toNat_inj, toList, List.cons_lt_cons_iff, List.not_lt_nil, and_false, or_false]

theorem ofVersion_eq_install_iff {v : Version} :
    Verb.ofVersion v = .install ↔ ¬v.toList < [1, 16, 0] := by
  have since : Verb.installSince.toList = [1, 16, 0] := rfl
  rw [← since, ← compare_eq_lt_iff, ← Ordering.isLT_iff_eq_lt, Verb.ofVersion]
  split <;> simp [*]

/-- A report is read for the first version in it, with each run of digits taken whole; a report
without one is read for `0.0.0`. So a printed version is read back from among any other text, and it
settles which subcommand installs modules. -/
theorem parse_exact :
    (∀ report : String,
      ((∀ front rest, report.toList = front ++ rest → ¬Begins rest) → parse report = zero) ∧
      ∀ front rest, report.toList = front ++ rest → Begins rest →
        ∃ before behind w tail, FirstAt Begins report.toList before behind ∧ Stands behind w tail ∧
          (parse report).toList = [worth w.major, worth w.minor, worth w.patch]) ∧
    ∀ (v : Version) (before behind : String),
      (∀ front c rest, before.toList = front ++ 'g' :: 'o' :: c :: rest → Text.isDigit c = false) →
      Stops Text.isDigit behind.toList →
      parse (before ++ "go" ++ v.render ++ behind) = v ∧
        (Verb.ofVersion (parse (before ++ "go" ++ v.render ++ behind)) = .install ↔
          ¬v.toList < [1, 16, 0]) := by
  refine ⟨fun report => ⟨fun none => ?_, fun front rest split begins => ?_⟩, ?_⟩
  · simp only [parse, written?_eq_none_iff.mpr none]
  · obtain ⟨before, behind, first⟩ := Text.exists_firstAt split begins
    obtain ⟨w, found⟩ := Option.isSome_iff_exists.mp (isSome_writtenAt?_iff.mpr first.here)
    obtain ⟨tail, stands⟩ := writtenAt?_eq_some_iff.mp found
    have read : written? report.toList = some w :=
      written?_eq_some_iff.mpr ⟨before, behind, tail, first, stands⟩
    exact ⟨before, behind, w, tail, first, stands, toList_parse read⟩
  · intro v before behind free stops
    have same := parse_render v free stops
    exact ⟨same, by rw [same, ofVersion_eq_install_iff]⟩

theorem parse_exact_reported :
    parse ("gogo: go version " ++ "go" ++ render ⟨1, 21, 4⟩ ++ " linux/amd64 go1.9.9") =
        ⟨1, 21, 4⟩ ∧
      parse "go1 .21" = zero := by
  have plain : ("gogo: go version ".toList.all fun c => !Text.isDigit c) = true := by decide
  have free : ∀ front c rest, "gogo: go version ".toList = front ++ 'g' :: 'o' :: c :: rest →
      Text.isDigit c = false := by
    intro front c rest split
    have letter := List.all_eq_true.mp plain c (by simp [split])
    rwa [Bool.not_eq_true'] at letter
  have none : written? "go1 .21".toList = none := by decide
  exact ⟨(parse_exact.2 ⟨1, 21, 4⟩ _ _ free (Text.stops_cons (by decide) _)).1,
    (parse_exact.1 _).1 (written?_eq_none_iff.mp none)⟩

end ServerKeeper.Toolchain.Version

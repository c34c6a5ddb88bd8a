import Mathlib
import ServerKeeper.Proofs.Release.Prerelease
import ServerKeeper.Proofs.Text.Pattern

namespace ServerKeeper.Release.Version

open Text (Stops FirstAt Pattern Match run?)

def Begins (text : List Char) : Prop :=
  ∃ number rest, Dotted number ∧ text = number ++ rest

/-- Behind the numbers, and behind a hyphen if one is there, stands the suffix of a pre-release; its
digits are taken whole. -/
def Suffixed (rest suffix : List Char) : Prop :=
  IsSuffix suffix ∧ ∃ behind, Stops Text.isDigit behind ∧
    (rest = suffix ++ behind ∨ rest = '-' :: (suffix ++ behind))

theorem digits?_eq_some_iff {text run rest : List Char} :
    digits? text = some (run, rest) ↔ text = run ++ rest ∧ Digits run ∧ Stops Text.isDigit rest := by
  constructor
  · intro found
    unfold digits? at found
    split at found
    · cases found
    · rename_i filled
      obtain ⟨rfl, rfl⟩ := Prod.mk.inj (Option.some.inj found)
      have run := Text.run_takeWhile (by simpa using filled)
      exact ⟨List.takeWhile_append_dropWhile.symm, ⟨run.filled, run.inside⟩,
        Text.stops_dropWhile _ _⟩
  · rintro ⟨rfl, digits, stops⟩
    exact digits?_run digits stops

theorem dottedDigits?_eq_some_iff {text run rest : List Char} :
    dottedDigits? text = some (run, rest) ↔
      text = '.' :: (run ++ rest) ∧ Digits run ∧ Stops Text.isDigit rest := by
  unfold dottedDigits?
  split
  · rw [digits?_eq_some_iff, List.cons.injEq, eq_self_iff_true, true_and]
  · rename_i other
    constructor
    · nofun
    · rintro ⟨same, -⟩
      exact absurd same (other _)

theorem number?_eq_some_iff {text number rest : List Char} :
    number? text = some (number, rest) ↔
      text = number ++ rest ∧ Dotted number ∧ Stops Text.isDigit rest := by
  constructor
  · intro found
    simp only [number?, bind, Option.bind_eq_some_iff, Prod.exists] at found
    obtain ⟨major, first, major?, minor, second, minor?, patch, third, patch?, result⟩ := found
    obtain ⟨rfl, majors, -⟩ := digits?_eq_some_iff.mp major?
    obtain ⟨rfl, minors, -⟩ := dottedDigits?_eq_some_iff.mp minor?
    obtain ⟨rfl, patches, stops⟩ := dottedDigits?_eq_some_iff.mp patch?
    obtain ⟨rfl, rfl⟩ := Prod.mk.inj (Option.some.inj result)
    exact ⟨by simp, ⟨major, minor, patch, majors, minors, patches, rfl⟩, stops⟩
  · rintro ⟨rfl, dotted, stops⟩
    exact number?_dotted dotted stops

theorem Dotted.append {number more : List Char} (dotted : Dotted number)
    (inside : ∀ c ∈ more, Text.isDigit c = true) : Dotted (number ++ more) := by
  obtain ⟨major, minor, patch, majors, minors, patches, rfl⟩ := dotted
  have longer : Digits (patch ++ more) :=
    ⟨by simp [patches.filled], List.forall_mem_append.mpr ⟨patches.inside, inside⟩⟩
  exact ⟨major, minor, patch ++ more, majors, minors, longer, by simp⟩

theorem isSome_number?_iff {text : List Char} : (number? text).isSome = true ↔ Begins text := by
  rw [Option.isSome_iff_exists]
  constructor
  · rintro ⟨⟨number, rest⟩, found⟩
    obtain ⟨split, dotted, -⟩ := number?_eq_some_iff.mp found
    exact ⟨number, rest, dotted, split⟩
  · rintro ⟨number, rest, dotted, rfl⟩
    -- The last run of digits may go on in what follows it.
    have longer : Dotted (number ++ rest.takeWhile Text.isDigit) :=
      dotted.append fun _ member => List.mem_takeWhile_imp member
    refine ⟨(_, rest.dropWhile Text.isDigit), number?_eq_some_iff.mpr
      ⟨?_, longer, Text.stops_dropWhile _ _⟩⟩
    rw [List.append_assoc, List.takeWhile_append_dropWhile]

theorem firstNumber?_eq (text : List Char) : firstNumber? text = text.tails.findSome? number? := by
  apply Text.eq_findSome?_tails
  · rfl
  · intro c text
    rw [firstNumber?]
    cases number? (c :: text) <;> rfl

theorem firstNumber?_eq_some_iff {text number rest : List Char} :
    firstNumber? text = some (number, rest) ↔ ∃ front,
      FirstAt Begins text front (number ++ rest) ∧ Dotted number ∧ Stops Text.isDigit rest := by
  rw [firstNumber?_eq, Text.findSome?_tails_eq_some_iff fun _ => isSome_number?_iff]
  constructor
  · rintro ⟨front, behind, first, found⟩
    obtain ⟨rfl, dotted, stops⟩ := number?_eq_some_iff.mp found
    exact ⟨front, first, dotted, stops⟩
  · rintro ⟨front, first, dotted, stops⟩
    exact ⟨front, number ++ rest, first, number?_dotted dotted stops⟩

theorem firstNumber?_eq_none_iff {text : List Char} :
    firstNumber? text = none ↔ ∀ front rest, text = front ++ rest → ¬Begins rest := by
  rw [firstNumber?_eq, Text.findSome?_tails_eq_none_iff fun _ => isSome_number?_iff]

theorem suffix?_eq_some_iff {text suffix : List Char} :
    suffix? text = some suffix ↔
      IsSuffix suffix ∧ ∃ behind, Stops Text.isDigit behind ∧ text = suffix ++ behind := by
  constructor
  · intro found
    simp only [suffix?, bind, Option.bind_eq_some_iff, Prod.exists] at found
    obtain ⟨_, guarded, count, behind, dotted, result⟩ := found
    obtain ⟨split, digits, stops⟩ := dottedDigits?_eq_some_iff.mp dotted
    obtain rfl := Option.some.inj result
    have filled : text.takeWhile Text.isWord ≠ [] := by
      intro empty
      simp [empty, guard] at guarded
    have word := Text.run_takeWhile filled
    refine ⟨⟨_, count, word.filled, word.inside, digits, rfl⟩, behind, stops, ?_⟩
    rw [List.append_assoc, List.cons_append, ← split, List.takeWhile_append_dropWhile]
  · rintro ⟨⟨word, count, filled, letters, digits, rfl⟩, behind, stops, rfl⟩
    rw [List.append_assoc, List.cons_append]
    exact suffix?_run filled letters digits stops

theorem matchAt?_dotted (text : List Char) :
    (Pattern.seq (.char '.') (.many Text.isDigit)).matchAt? text =
      (dottedDigits? text).map fun (run, rest) => ⟨'.' :: run, [], rest⟩ := by
  unfold dottedDigits?
  split
  · rw [Pattern.matchAt?_char_seq, Pattern.matchAt?_many, Option.map_map]
    rfl
  · rename_i other
    rw [Pattern.matchAt?_char_seq_of_ne other]
    rfl

theorem matchAt?_dotted_seq (second : Pattern) (text : List Char) :
    (Pattern.seq (.char '.') (.seq (.many Text.isDigit) (.seq (.char '.') second))).matchAt? text =
      (dottedDigits? text).bind fun (run, rest) =>
        ((Pattern.seq (.char '.') second).matchAt? rest).map
          (Match.append ⟨'.' :: run, [], rest⟩) := by
  unfold dottedDigits?
  split
  · rename_i rest
    rw [Pattern.matchAt?_char_seq,
      Pattern.matchAt?_many_seq (Pattern.declines_char (by decide)).seq, Option.map_bind]
    change (digits? rest).bind _ = _
    congr 1
    funext found
    rw [Function.comp_apply, Option.map_map]
    rfl
  · rename_i other
    rw [Pattern.matchAt?_char_seq_of_ne other]
    rfl

theorem number?_eq_matchAt? (text : List Char) :
    numberPattern.matchAt? text = (number? text).map fun (number, rest) => ⟨number, [], rest⟩ := by
  rw [numberPattern, Pattern.matchAt?_many_seq (Pattern.declines_char (by decide)).seq, number?]
  change (digits? text).bind _ = _
  cases digits? text with
  | none => rfl
  | some first =>
    simp only [Option.bind_some, matchAt?_dotted_seq, bind]
    cases dottedDigits? first.2 with
    | none => rfl
    | some second =>
      simp only [Option.bind_some, matchAt?_dotted]
      cases dottedDigits? second.2 with
      | none => rfl
      | some third => simp [Match.append]

theorem suffix?_eq_matchAt? (text : List Char) :
    (suffixPattern.matchAt? text).map Match.whole = suffix? text := by
  rw [suffixPattern, Pattern.matchAt?_many_seq (Pattern.declines_char (by decide)).seq, run?, suffix?]
  by_cases none : (text.takeWhile Text.isWord).isEmpty
  · simp [none, guard]
  · rw [if_neg none]
    simp only [Option.bind_some, matchAt?_dotted, guard, none]
    cases dottedDigits? (text.dropWhile Text.isWord) <;> rfl

theorem matchAt?_hyphen (text : List Char) :
    ∃ whole, (Pattern.optional (.char '-')).matchAt? text = some ⟨whole, [], dropHyphen text⟩ := by
  rw [Pattern.matchAt?_optional]
  match text with
  | [] => exact ⟨[], rfl⟩
  | c :: text =>
    by_cases hyphen : '-' = c
    · subst hyphen
      exact ⟨['-'], rfl⟩
    · refine ⟨[], ?_⟩
      rw [Pattern.matchAt?, Pattern.matchesAt, if_neg hyphen, dropHyphen]
      · rfl
      · rintro rest same
        exact hyphen (List.cons.inj same).1.symm

/-- Behind the numbers everything may be missing, so a match of the pattern never goes back on them. -/
theorem exists_matchAt?_behind (text : List Char) :
    ∃ m, (Pattern.seq (.optional (.char '-')) (.optional (.group suffixPattern))).matchAt? text =
      some m ∧ m.groups = [suffix? (dropHyphen text)] := by
  have total : ∀ rest, ((Pattern.optional (.group suffixPattern)).matchAt? rest).isSome = true := by
    intro rest
    rw [Pattern.matchAt?_optional, Option.isSome_some]
  obtain ⟨whole, hyphen⟩ := matchAt?_hyphen text
  rw [Pattern.matchAt?_seq_of_total total, hyphen, Option.bind_some, Pattern.matchAt?_optional,
    Pattern.matchAt?_group]
  refine ⟨_, rfl, ?_⟩
  rw [← suffix?_eq_matchAt?]
  cases found : suffixPattern.matchAt? (dropHyphen text) with
  | none => rfl
  | some m =>
    have groups : m.groups = [] :=
      List.length_eq_zero_iff.mp (Pattern.length_groups (List.mem_of_head? found))
    simp [Match.append, Match.grouped, groups]

theorem parse?_eq_find? (raw : String) :
    parse? raw = (pattern.find? raw.toList).map fun m =>
      ⟨String.ofList ((m.group? 1).getD []), (m.group? 2).map String.ofList⟩ := by
  rw [parse?, firstNumber?_eq, Pattern.find?_eq, List.map_findSome?, List.map_findSome?]
  congr 1
  funext text
  have total : ∀ rest, ((Pattern.seq (.optional (.char '-'))
      (.optional (.group suffixPattern))).matchAt? rest).isSome = true := by
    intro rest
    obtain ⟨m, found, -⟩ := exists_matchAt?_behind rest
    rw [found, Option.isSome_some]
  rw [pattern, Function.comp_apply, Function.comp_apply, Pattern.matchAt?_seq_of_total total,
    Pattern.matchAt?_group, number?_eq_matchAt?]
  cases number? text with
  | none => rfl
  | some found =>
    obtain ⟨m, behind, groups⟩ := exists_matchAt?_behind found.2
    simp [Match.grouped, Match.append, Match.group?, behind, groups]

theorem IsSuffix.head {suffix : List Char} (isSuffix : IsSuffix suffix) :
    ∃ c rest, suffix = c :: rest ∧ Text.isWord c = true := by
  obtain ⟨word, count, filled, letters, -, rfl⟩ := isSuffix
  obtain ⟨c, word, rfl⟩ := List.exists_cons_of_ne_nil filled
  exact ⟨c, word ++ '.' :: count, rfl, letters c List.mem_cons_self⟩

theorem suffixed_iff {rest suffix : List Char} :
    Suffixed rest suffix ↔ suffix? (dropHyphen rest) = some suffix := by
  rw [suffix?_eq_some_iff, Suffixed, and_congr_right_iff]
  intro isSuffix
  obtain ⟨c, more, rfl, letter⟩ := isSuffix.head
  have noHyphen : c ≠ '-' := by
    rintro rfl
    exact absurd letter (by decide)
  unfold dropHyphen
  split
  · rename_i tail
    simp [Ne.symm noHyphen]
  · rename_i unhyphened
    have none : ∀ tail, ¬rest = '-' :: tail := unhyphened
    simp only [none, or_false]

theorem parse?_render {number : List Char} {suffix : Option (List Char)} (dotted : Dotted number)
    (isSuffix : ∀ s, suffix = some s → IsSuffix s) :
    parse? (render ⟨String.ofList number, suffix.map String.ofList⟩) =
      some ⟨String.ofList number, suffix.map String.ofList⟩ := by
  cases suffix with
  | none =>
    have again := parse?_dotted dotted (Text.stops_nil _)
    rw [List.append_nil] at again
    exact again
  | some s =>
    have whole : suffix? s = some s :=
      suffix?_eq_some_iff.mpr ⟨isSuffix s rfl, [], Text.stops_nil _, (List.append_nil s).symm⟩
    have again := parse?_dotted dotted (hyphen_stops s)
    rw [dropHyphen, whole] at again
    have printed : render ⟨String.ofList number, some (String.ofList s)⟩ =
        String.ofList (number ++ '-' :: s) := by
      rw [← String.toList_inj]
      simp [render]
    rw [Option.map_some, printed, again, Option.map_some]

/-- A text is read for the first three dotted numbers in it, with each run of digits taken whole, and
for the suffix right behind them; it is unreadable just where it has no such numbers. A version that
was read prints as a text that is read for the same version. -/
theorem parse?_exact (raw : String) :
    (parse? raw = none ↔ ∀ front rest, raw.toList = front ++ rest → ¬Begins rest) ∧
      ∀ v, parse? raw = some v →
        (∃ front rest, FirstAt Begins raw.toList front (v.number.toList ++ rest) ∧
          Dotted v.number.toList ∧ Stops Text.isDigit rest ∧
          ∀ suffix, v.prerelease = some suffix ↔ Suffixed rest suffix.toList) ∧
        parse? v.render = some v := by
  refine ⟨?_, fun v read => ?_⟩
  · rw [parse?, Option.map_eq_none_iff, firstNumber?_eq_none_iff]
  · obtain ⟨⟨number, rest⟩, found, rfl⟩ := Option.map_eq_some_iff.mp read
    obtain ⟨front, first, dotted, stops⟩ := firstNumber?_eq_some_iff.mp found
    refine ⟨⟨front, rest, ?_⟩, ?_⟩
    · rw [String.toList_ofList]
      refine ⟨first, dotted, stops, fun suffix => ?_⟩
      rw [suffixed_iff, Option.map_eq_some_iff]
      constructor
      · rintro ⟨s, taken, rfl⟩
        rwa [String.toList_ofList]
      · intro taken
        exact ⟨suffix.toList, taken, String.ofList_toList⟩
    · exact parse?_render dotted fun s taken => (suffixed_iff.mpr taken).1

theorem parse?_exact_unhyphened :
    ∃ v, parse? "gopls/v1.2 or 0.15.0pre.1" = some v ∧ v.render = "0.15.0-pre.1" ∧
      parse? "0.15.0-pre.1" = some v := by
  have read : parse? "gopls/v1.2 or 0.15.0pre.1" = some ⟨"0.15.0", some "pre.1"⟩ := by
    decide +kernel
  exact ⟨_, read, by decide, ((parse?_exact _).2 _ read).2⟩

end ServerKeeper.Release.Version

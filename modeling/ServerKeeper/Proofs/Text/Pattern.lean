import Mathlib.Data.List.Basic
import Mathlib.Tactic
import ServerKeeper.Proofs.Text
import ServerKeeper.Text.Pattern

namespace ServerKeeper.Text

def run? (p : Char → Bool) (text : List Char) : Option (List Char × List Char) :=
  if (text.takeWhile p).isEmpty then none else some (text.takeWhile p, text.dropWhile p)

variable {p : Char → Bool}

theorem run?_cons {c : Char} (inside : p c = true) (text : List Char) :
    run? p (c :: text) = some (c :: text.takeWhile p, text.dropWhile p) := by
  simp [run?, inside]

theorem run?_cons_of_not {c : Char} (outside : p c = false) (text : List Char) :
    run? p (c :: text) = none := by
  simp [run?, outside]

namespace Pattern

variable {first second : Pattern}

theorem head?_runs (text : List Char) : (runs p text).head? = run? p text := by
  induction text with
  | nil => rfl
  | cons c text ih =>
    cases inside : p c with
    | false => simp [inside, run?_cons_of_not inside]
    | true =>
      rw [run?_cons inside, runs, if_pos inside, List.head?_append, List.head?_map, ih]
      cases text with
      | nil => rfl
      | cons d text =>
        cases next : p d with
        | false => simp [run?_cons_of_not next, next]
        | true => simp [run?_cons next, next]

theorem findSome?_runs {α : Type} {read : List Char × List Char → Option α}
    (declines : ∀ run c rest, p c = true → read (run, c :: rest) = none) (text : List Char) :
    (runs p text).findSome? read = (run? p text).bind read := by
  -- `read` also stands for reading behind the characters that the run has so far
  induction text generalizing read with
  | nil => rfl
  | cons c text ih =>
    cases inside : p c with
    | false => simp [inside, run?_cons_of_not inside]
    | true =>
      have shorter : (runs p text).findSome? (fun found => read (c :: found.1, found.2)) =
          (run? p text).bind fun found => read (c :: found.1, found.2) :=
        ih fun run d rest => declines (c :: run) d rest
      rw [run?_cons inside, runs, if_pos inside, List.findSome?_append, List.findSome?_map]
      change ((runs p text).findSome? fun found => read (c :: found.1, found.2)).or _ = _
      rw [shorter]
      cases text with
      | nil => simp [run?]
      | cons d text =>
        cases next : p d with
        | false => simp [run?_cons_of_not next, next]
        | true => simp [run?_cons next, next, declines _ d text next]

theorem matchAt?_seq (text : List Char) :
    (seq first second).matchAt? text =
      (first.matchesAt text).findSome? fun m => (second.matchAt? m.rest).map m.append := by
  simp only [matchAt?, matchesAt, List.head?_flatMap, List.head?_map]

theorem matchAt?_seq_of_total (total : ∀ rest, (second.matchAt? rest).isSome = true)
    (text : List Char) :
    (seq first second).matchAt? text =
      (first.matchAt? text).bind fun m => (second.matchAt? m.rest).map m.append := by
  rw [matchAt?_seq, matchAt?]
  cases first.matchesAt text with
  | nil => rfl
  | cons m more =>
    obtain ⟨n, found⟩ := Option.isSome_iff_exists.mp (total m.rest)
    simp [found]

theorem matchAt?_char_seq (c : Char) (text : List Char) :
    (seq (char c) second).matchAt? (c :: text) =
      (second.matchAt? text).map (Match.append ⟨[c], [], text⟩) := by
  simp [matchAt?_seq]

theorem matchAt?_char_of_ne {c : Char} {text : List Char} (other : ∀ rest, text ≠ c :: rest) :
    (char c).matchAt? text = none := by
  cases text with
  | nil => rfl
  | cons d text =>
    have different : c ≠ d := by
      rintro rfl
      exact other text rfl
    rw [matchAt?, matchesAt, if_neg different, List.head?_nil]

theorem matchAt?_seq_of_none {text : List Char} (missing : first.matchAt? text = none) :
    (seq first second).matchAt? text = none := by
  rw [matchAt?, List.head?_eq_none_iff] at missing
  rw [matchAt?_seq, missing, List.findSome?_nil]

theorem matchAt?_char_seq_of_ne {c : Char} {text : List Char} (other : ∀ rest, text ≠ c :: rest) :
    (seq (char c) second).matchAt? text = none :=
  matchAt?_seq_of_none (matchAt?_char_of_ne other)

theorem matchAt?_many (text : List Char) :
    (many p).matchAt? text = (run? p text).map fun (run, rest) => ⟨run, [], rest⟩ := by
  rw [matchAt?, matchesAt, List.head?_map, head?_runs]

theorem matchAt?_group (text : List Char) :
    (group first).matchAt? text = (first.matchAt? text).map Match.grouped := by
  rw [matchAt?, matchesAt, List.head?_map, matchAt?]

theorem matchAt?_optional (text : List Char) :
    (optional first).matchAt? text =
      some ((first.matchAt? text).getD ⟨[], first.unset, text⟩) := by
  rw [matchAt?, matchesAt, List.head?_append, matchAt?]
  cases (first.matchesAt text).head? <;> rfl

theorem matchAt?_either (text : List Char) :
    (either first second).matchAt? text =
      ((first.matchAt? text).map fun m => { m with groups := m.groups ++ second.unset }).or
        ((second.matchAt? text).map fun m => { m with groups := first.unset ++ m.groups }) := by
  simp only [matchAt?, matchesAt, List.head?_append, List.head?_map]

def Declines (pattern : Pattern) (p : Char → Bool) : Prop :=
  ∀ c rest, p c = true → pattern.matchAt? (c :: rest) = none

theorem declines_char {c : Char} (outside : p c = false) : (char c).Declines p := by
  intro d text inside
  apply matchAt?_char_of_ne
  intro rest same
  obtain ⟨rfl, -⟩ := List.cons.inj same
  simp [outside] at inside

theorem Declines.seq (declines : first.Declines p) : (seq first second).Declines p :=
  fun c rest inside => matchAt?_seq_of_none (declines c rest inside)

theorem matchAt?_many_seq (declines : second.Declines p) (text : List Char) :
    (seq (many p) second).matchAt? text =
      (run? p text).bind fun (run, rest) =>
        (second.matchAt? rest).map (Match.append ⟨run, [], rest⟩) := by
  rw [matchAt?_seq, matchesAt, List.findSome?_map]
  apply findSome?_runs
  intro run c rest inside
  simp [declines c rest inside]

theorem matchAt?_group_many_seq (declines : second.Declines p) (text : List Char) :
    (seq (group (many p)) second).matchAt? text =
      (run? p text).bind fun (run, rest) =>
        (second.matchAt? rest).map (Match.append ⟨run, [some run], rest⟩) := by
  rw [matchAt?_seq, matchesAt, matchesAt, List.map_map, List.findSome?_map]
  apply findSome?_runs
  intro run c rest inside
  simp [Match.grouped, declines c rest inside]

theorem find?_eq (pattern : Pattern) (text : List Char) :
    pattern.find? text = text.tails.findSome? pattern.matchAt? := by
  apply eq_findSome?_tails
  · rfl
  · exact fun _ _ => rfl

theorem length_groups {pattern : Pattern} {text : List Char} {m : Match}
    (found : m ∈ pattern.matchesAt text) : m.groups.length = pattern.unset.length := by
  induction pattern generalizing text m with
  | char c =>
    cases text with
    | nil => cases found
    | cons d text =>
      rw [matchesAt] at found
      split at found
      · obtain rfl := List.mem_singleton.mp found
        rfl
      · cases found
  | many p =>
    obtain ⟨run, -, rfl⟩ := List.mem_map.mp found
    rfl
  | seq first second ihFirst ihSecond =>
    obtain ⟨begun, before, found⟩ := List.mem_flatMap.mp found
    obtain ⟨ended, after, rfl⟩ := List.mem_map.mp found
    rw [Match.append, unset, List.length_append, List.length_append, ihFirst before, ihSecond after]
  | either first second ihFirst ihSecond =>
    rcases List.mem_append.mp found with found | found
    · obtain ⟨taken, before, rfl⟩ := List.mem_map.mp found
      rw [unset, List.length_append, List.length_append, ihFirst before]
    · obtain ⟨taken, after, rfl⟩ := List.mem_map.mp found
      rw [unset, List.length_append, List.length_append, ihSecond after]
  | optional inner ih =>
    rcases List.mem_append.mp found with found | found
    · exact ih found
    · obtain rfl := List.mem_singleton.mp found
      rfl
  | group inner ih =>
    obtain ⟨taken, inside, rfl⟩ := List.mem_map.mp found
    rw [Match.grouped, unset, List.length_cons, List.length_cons, ih inside]

end Pattern

end ServerKeeper.Text

import Mathlib
import ServerKeeper.Proofs.Release.Prerelease

namespace ServerKeeper

namespace Release

open Text (Spells)

/-- What a part of a version counts for: digits for a number of 64 bits count for that number, with a
plus sign before them too, and anything else counts for zero. -/
inductive Counts : List Char → Nat → Prop
  | digits {part n} : Spells part n → Counts part n
  | signed {part n} : Spells part n → Counts ('+' :: part) n
  | other {part} : (∀ n, ¬Spells part n) → (∀ rest n, part = '+' :: rest → ¬Spells rest n) →
      Counts part 0

def Parts (version : String) (numbers : List Nat) : Prop :=
  List.Forall₂ Counts (version.toList.splitOn '.') numbers

/-- Numbers come before others that go on where they end, or that have the greater number where they
first differ. -/
inductive Earlier : List Nat → List Nat → Prop
  | shorter {xs y ys} : Earlier xs (xs ++ y :: ys)
  | smaller {same x y xs ys} : x < y → Earlier (same ++ x :: xs) (same ++ y :: ys)

/-- Numbers compared pair by pair: the first pair that differs decides, and the lengths where none
does. -/
def scan (xs ys : List Nat) : Ordering :=
  ((xs.zip ys).find? fun p => p.1 != p.2).elim (compare xs.length ys.length) fun p =>
    compare p.1 p.2

theorem not_spells_plus (rest : List Char) (n : Nat) : ¬Spells ('+' :: rest) n :=
  fun spells => absurd (spells.ascii '+' List.mem_cons_self) (by decide)

theorem partValue_plus (rest : List Char) :
    partValue ('+' :: rest) = (Text.natural? (UInt64.size - 1) rest).getD 0 := rfl

theorem partValue_unsigned {part : List Char} (unsigned : ∀ rest, part ≠ '+' :: rest) :
    partValue part = (Text.natural? (UInt64.size - 1) part).getD 0 := by
  unfold partValue
  split
  · rename_i rest
    exact absurd rfl (unsigned rest)
  · rfl

theorem counts_partValue (part : List Char) : Counts part (partValue part) := by
  by_cases signed : ∃ rest, part = '+' :: rest
  · obtain ⟨rest, rfl⟩ := signed
    rw [partValue_plus]
    cases read : Text.natural? (UInt64.size - 1) rest with
    | some n => exact .signed (Text.natural?_eq_some_iff.mp read)
    | none =>
      refine .other (not_spells_plus rest) fun rest' n same => ?_
      obtain rfl := (List.cons.inj same).2
      exact Text.natural?_eq_none_iff.mp read n
  · have unsigned : ∀ rest, part ≠ '+' :: rest := fun rest same => signed ⟨rest, same⟩
    rw [partValue_unsigned unsigned]
    cases read : Text.natural? (UInt64.size - 1) part with
    | some n => exact .digits (Text.natural?_eq_some_iff.mp read)
    | none =>
      exact .other (Text.natural?_eq_none_iff.mp read) fun rest _ same => absurd same (unsigned rest)

theorem Counts.partValue_eq {part : List Char} {n : Nat} (counts : Counts part n) :
    partValue part = n := by
  cases counts with
  | digits spells => exact partValue_spells spells
  | signed spells => rw [partValue_plus, spells.natural?, Option.getD_some]
  | other plain signed =>
    by_cases sign : ∃ rest, part = '+' :: rest
    · obtain ⟨rest, rfl⟩ := sign
      rw [partValue_plus, Text.natural?_eq_none_iff.mpr fun n => signed rest n rfl, Option.getD_none]
    · rw [partValue_unsigned fun rest same => sign ⟨rest, same⟩, Text.natural?_eq_none_iff.mpr plain,
        Option.getD_none]

theorem parts_eq_iff {version : String} {numbers : List Nat} :
    parts version = numbers ↔ Parts version numbers := by
  rw [parts, Text.splitOn_eq, Parts]
  generalize version.toList.splitOn '.' = pieces
  constructor
  · rintro rfl
    exact List.forall₂_map_right_iff.mpr (List.forall₂_same.mpr fun part _ => counts_partValue part)
  · intro counts
    induction counts with
    | nil => rfl
    | cons first _ ih => rw [List.map_cons, first.partValue_eq, ih]

theorem Earlier.cons {xs ys : List Nat} (earlier : Earlier xs ys) (x : Nat) :
    Earlier (x :: xs) (x :: ys) := by
  cases earlier with
  | @shorter _ y ys => exact @Earlier.shorter (x :: xs) y ys
  | @smaller same y z ys zs less => exact @Earlier.smaller (x :: same) y z ys zs less

theorem earlier_of_lt {xs ys : List Nat} (less : xs < ys) : Earlier xs ys := by
  induction xs generalizing ys with
  | nil =>
    cases ys with
    | nil => cases less
    | cons y ys => exact @Earlier.shorter [] y ys
  | cons x xs ih =>
    cases ys with
    | nil => cases less
    | cons y ys =>
      rcases List.cons_lt_cons_iff.mp less with first | ⟨rfl, rest⟩
      · exact @Earlier.smaller [] x y xs ys first
      · exact (ih rest).cons x

theorem Earlier.lt {xs ys : List Nat} (earlier : Earlier xs ys) : xs < ys := by
  cases earlier with
  | @shorter xs y ys =>
    have longer : xs ++ [] < xs ++ y :: ys := List.append_left_lt (List.nil_lt_cons y ys)
    rwa [List.append_nil] at longer
  | smaller less => exact List.append_left_lt (List.cons_lt_cons_iff.mpr (.inl less))

theorem lt_iff_earlier {xs ys : List Nat} : xs < ys ↔ Earlier xs ys :=
  ⟨earlier_of_lt, Earlier.lt⟩

theorem compare_eq_scan (xs ys : List Nat) : compare xs ys = scan xs ys := by
  induction xs generalizing ys with
  | nil =>
    cases ys with
    | nil => rfl
    | cons y ys => exact (Nat.compare_eq_lt.mpr (Nat.succ_pos ys.length)).symm
  | cons x xs ih =>
    cases ys with
    | nil => exact (Nat.compare_eq_gt.mpr (Nat.succ_pos xs.length)).symm
    | cons y ys =>
      have lengths : compare (xs.length + 1) (ys.length + 1) = compare xs.length ys.length := by
        simp only [Nat.compare_eq_ite_lt, Nat.add_lt_add_iff_right]
      rw [List.compare_cons_cons, ih]
      by_cases level : x = y
      · subst level
        simp [scan, lengths]
      · have apart : compare x y ≠ .eq := fun same => level (Nat.compare_eq_eq.mp same)
        cases first : compare x y with
        | eq => exact absurd first apart
        | lt | gt => simp [scan, level, first]

instance : Std.TransCmp compareVersions where
  eq_swap := Std.OrientedOrd.eq_swap
  isLE_trans := Std.TransOrd.isLE_trans

theorem compareVersions_eq_lt_iff {a b : String} :
    compareVersions a b = .lt ↔ Earlier (parts a) (parts b) :=
  compare_lists_eq_lt_iff.trans lt_iff_earlier

theorem compareVersions_eq_eq_iff {a b : String} :
    compareVersions a b = .eq ↔ parts a = parts b :=
  Std.compare_eq_iff_eq

theorem compareVersions_eq_gt_iff {a b : String} :
    compareVersions a b = .gt ↔ Earlier (parts b) (parts a) := by
  rw [← compareVersions_eq_lt_iff, Std.OrientedCmp.gt_iff_lt]

theorem isNewer_eq_true_iff {current : String} {latest : Version} :
    isNewer current latest = true ↔
      latest.isPrerelease = false ∧ compareVersions current latest.number = .lt := by
  rw [isNewer, Bool.and_eq_true, Bool.not_eq_true', Ordering.isLT_iff_eq_lt]

theorem isNewer_trans {current : String} {between latest : Version}
    (first : isNewer current between = true) (second : isNewer between.number latest = true) :
    isNewer current latest = true := by
  obtain ⟨-, before⟩ := isNewer_eq_true_iff.mp first
  obtain ⟨stable, after⟩ := isNewer_eq_true_iff.mp second
  exact isNewer_eq_true_iff.mpr ⟨stable, Std.TransCmp.lt_trans before after⟩

theorem isNewer_asymm {current : String} {latest : Version} (newer : isNewer current latest = true) :
    isNewer latest.number ⟨current, none⟩ = false := by
  obtain ⟨-, before⟩ := isNewer_eq_true_iff.mp newer
  rw [Bool.eq_false_iff]
  intro back
  obtain ⟨-, after⟩ := isNewer_eq_true_iff.mp back
  rw [Std.OrientedCmp.gt_of_lt before] at after
  cases after

theorem isNewer_render (v : Version) : isNewer v.render v = false := by
  rw [Bool.eq_false_iff]
  intro newer
  obtain ⟨stable, before⟩ := isNewer_eq_true_iff.mp newer
  have bare : v.render = v.number := by
    rw [Version.isPrerelease, Option.isSome_eq_false_iff, Option.isNone_iff_eq_none] at stable
    simp only [Version.render, stable]
  rw [bare, compareVersions_eq_eq_iff.mpr rfl] at before
  cases before

end Release

def Manager.adopt (m : Manager) (version : String) : Manager :=
  { m with config := { m.config with desiredVersion := version } }

theorem Manager.updateAvailable_adopted {m : Manager} {listing : Option (List Release)}
    {files : FileTree} {latest : String}
    (told : (m.status listing files).latestVersion = some latest) (later : FileTree) :
    ((m.adopt latest).status listing later).updateAvailable = some false := by
  simp only [status, Option.map_eq_some_iff] at told ⊢
  obtain ⟨v, found, rfl⟩ := told
  exact ⟨v, found, Release.isNewer_render v⟩

namespace Release

/-- Versions are compared by the numbers that their parts count for, so any two of them, and those
with the same numbers are level. Being newer is a strict order on stable releases, and a version that
was advertised is no update of itself. -/
theorem compareVersions_ordered :
    (∀ version, ∃! numbers, Parts version numbers) ∧
    (∀ a b xs ys, Parts a xs → Parts b ys →
      compareVersions a b = scan xs ys ∧
      (compareVersions a b = .lt ↔ Earlier xs ys) ∧
      (compareVersions a b = .eq ↔ xs = ys) ∧
      (compareVersions a b = .gt ↔ Earlier ys xs)) ∧
    ((∀ a, compareVersions a a = .eq) ∧
      (∀ a b, compareVersions b a = (compareVersions a b).swap) ∧
      ∀ a b c, (compareVersions a b).isLE = true → (compareVersions b c).isLE = true →
        (compareVersions a c).isLE = true) ∧
    (∀ current between latest, isNewer current between = true →
      isNewer between.number latest = true → isNewer current latest = true) ∧
    (∀ current latest, isNewer current latest = true →
      isNewer latest.number ⟨current, none⟩ = false) ∧
    (∀ v : Version, isNewer v.render v = false) ∧
    ∀ (m : Manager) (listing : Option (List Release)) (files later : FileTree) (latest : String),
      (m.status listing files).latestVersion = some latest →
      ((m.adopt latest).status listing later).updateAvailable = some false := by
  refine ⟨fun version => ⟨parts version, parts_eq_iff.mp rfl, fun numbers read =>
    (parts_eq_iff.mpr read).symm⟩, fun a b xs ys first second => ?_, ⟨fun a => ?_, fun a b => ?_,
    fun a b c => Std.TransCmp.isLE_trans⟩, fun current between latest => isNewer_trans,
    fun current latest => isNewer_asymm, isNewer_render, fun m listing files later latest told => ?_⟩
  · obtain rfl := parts_eq_iff.mpr first
    obtain rfl := parts_eq_iff.mpr second
    exact ⟨compare_eq_scan _ _, compareVersions_eq_lt_iff, compareVersions_eq_eq_iff,
      compareVersions_eq_gt_iff⟩
  · exact compareVersions_eq_eq_iff.mpr rfl
  · exact Std.OrientedCmp.eq_swap
  · exact Manager.updateAvailable_adopted told later

/-- A part with a plus sign or with zeros in front counts for its number, and one that is no number or
too great for zero. -/
theorem compareVersions_ordered_lossy :
    Parts "0.+14.1" [0, 14, 1] ∧ Parts "0.014.x.18446744073709551616" [0, 14, 0, 0] ∧
      compareVersions "0.014.x.18446744073709551616" "0.+14.1" = .lt ∧
      (compareVersions "0.13.0" "0.+14.1").isLE = true ∧
      isNewer "0.014.x.18446744073709551616" ⟨"0.15", none⟩ = true ∧
      isNewer "0.+14.1" ⟨"0.014.x.18446744073709551616", none⟩ = false := by
  have first : Parts "0.+14.1" [0, 14, 1] := parts_eq_iff.mp (by decide +kernel)
  have second : Parts "0.014.x.18446744073709551616" [0, 14, 0, 0] :=
    parts_eq_iff.mp (by decide +kernel)
  obtain ⟨-, order, ⟨-, -, trans⟩, newer, asymm, -, -⟩ := compareVersions_ordered
  have before : compareVersions "0.014.x.18446744073709551616" "0.+14.1" = .lt :=
    (order _ _ _ _ second first).2.1.mpr (@Earlier.smaller [0, 14] 0 1 [0] [] (by decide))
  have between : isNewer "0.014.x.18446744073709551616" ⟨"0.+14.1", none⟩ = true :=
    isNewer_eq_true_iff.mpr ⟨rfl, before⟩
  refine ⟨first, second, before, trans _ "0.13.0.0" _ ?_ ?_, newer _ ⟨"0.+14.1", none⟩ _ between ?_,
    asymm _ ⟨"0.+14.1", none⟩ between⟩
  all_goals decide +kernel

end Release

end ServerKeeper

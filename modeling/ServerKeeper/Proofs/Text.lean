import Mathlib.Data.List.TakeWhile
import Mathlib.Tactic
import ServerKeeper.Text.Basic

namespace ServerKeeper.Text

def Stops (p : Char → Bool) (rest : List Char) : Prop :=
  ∀ c, rest.head? = some c → p c = false

theorem stops_nil (p : Char → Bool) : Stops p [] := nofun

theorem stops_cons {p : Char → Bool} {c : Char} (out : p c = false) (rest : List Char) :
    Stops p (c :: rest) := by
  intro first head
  obtain rfl : c = first := by simpa using head
  exact out

theorem takeWhile_run {p : Char → Bool} {run rest : List Char} (inside : ∀ c ∈ run, p c = true)
    (stops : Stops p rest) : (run ++ rest).takeWhile p = run := by
  rw [List.takeWhile_append_of_pos inside]
  cases rest with
  | nil => simp
  | cons c rest => simp [stops c rfl]

theorem dropWhile_run {p : Char → Bool} {run rest : List Char} (inside : ∀ c ∈ run, p c = true)
    (stops : Stops p rest) : (run ++ rest).dropWhile p = rest := by
  rw [List.dropWhile_append_of_pos inside]
  cases rest with
  | nil => rfl
  | cons c rest => simp [stops c rfl]

structure Run (p : Char → Bool) (run : List Char) : Prop where
  filled : run ≠ []
  inside : ∀ c ∈ run, p c = true

instance (p : Char → Bool) (run : List Char) : Decidable (Run p run) :=
  decidable_of_iff (run ≠ [] ∧ run.all p = true)
    ⟨fun ⟨filled, inside⟩ => ⟨filled, List.all_eq_true.mp inside⟩,
      fun ⟨filled, inside⟩ => ⟨filled, List.all_eq_true.mpr inside⟩⟩

theorem run_takeWhile {p : Char → Bool} {text : List Char} (filled : text.takeWhile p ≠ []) :
    Run p (text.takeWhile p) :=
  ⟨filled, fun _ => List.mem_takeWhile_imp⟩

theorem Run.append {p : Char → Bool} {run more : List Char} (first : Run p run)
    (inside : ∀ c ∈ more, p c = true) : Run p (run ++ more) :=
  ⟨by simp [first.filled], List.forall_mem_append.mpr ⟨first.inside, inside⟩⟩

theorem stops_dropWhile (p : Char → Bool) (text : List Char) : Stops p (text.dropWhile p) := by
  intro c head
  have out := List.head?_dropWhile_not p text
  rw [head] at out
  exact out

/-- The first place in a text where something stands: what is before it, and the text from there. -/
structure FirstAt (p : List Char → Prop) (text front rest : List Char) : Prop where
  split : text = front ++ rest
  here : p rest
  first : ∀ before behind, text = before ++ behind → p behind → front.length ≤ before.length

section FirstAt

variable {p : List Char → Prop} {c : Char} {text front rest : List Char}

theorem firstAt_start (here : p text) : FirstAt p text [] text :=
  ⟨rfl, here, fun before _ _ _ => Nat.zero_le before.length⟩

theorem FirstAt.cons (first : FirstAt p text front rest) (later : ¬p (c :: text)) :
    FirstAt p (c :: text) (c :: front) rest := by
  refine ⟨by rw [first.split, List.cons_append], first.here, fun before behind split stands => ?_⟩
  cases before with
  | nil => exact absurd (split ▸ stands) later
  | cons b before =>
    have shorter := first.first before behind (List.cons.inj split).2 stands
    exact Nat.succ_le_succ shorter

theorem FirstAt.of_cons (first : FirstAt p (c :: text) (c :: front) rest) :
    FirstAt p text front rest := by
  refine ⟨(List.cons.inj first.split).2, first.here, fun before behind split stands => ?_⟩
  have longer := first.first (c :: before) behind (by rw [split, List.cons_append]) stands
  exact Nat.le_of_succ_le_succ longer

theorem FirstAt.unique {other others : List Char} (first : FirstAt p text front rest)
    (again : FirstAt p text other others) : front = other ∧ rest = others := by
  have lengths : front.length = other.length :=
    Nat.le_antisymm (first.first other others again.split again.here)
      (again.first front rest first.split first.here)
  exact List.append_inj (first.split.symm.trans again.split) lengths

theorem exists_firstAt (split : text = front ++ rest) (stands : p rest) :
    ∃ front rest, FirstAt p text front rest := by
  induction text generalizing front with
  | nil =>
    obtain ⟨-, rfl⟩ := List.append_eq_nil_iff.mp split.symm
    exact ⟨[], [], firstAt_start stands⟩
  | cons c text ih =>
    by_cases here : p (c :: text)
    · exact ⟨[], c :: text, firstAt_start here⟩
    · cases front with
      | nil => exact absurd (split ▸ stands) here
      | cons b front =>
        obtain ⟨before, behind, first⟩ := ih (List.cons.inj split).2
        exact ⟨c :: before, behind, first.cons here⟩

variable {α : Type} {read search : List Char → Option α}

theorem eq_findSome?_tails (nil : search [] = read [])
    (cons : ∀ c text, search (c :: text) = (read (c :: text)).or (search text))
    (text : List Char) :
    search text = text.tails.findSome? read := by
  induction text with
  | nil => rw [List.tails, List.findSome?_singleton, nil]
  | cons c text ih =>
    rw [cons, List.tails_cons, List.findSome?_cons, ih]
    cases read (c :: text) <;> rfl

theorem findSome?_tails_eq_some_iff (reads : ∀ rest, (read rest).isSome = true ↔ p rest) {x : α} :
    text.tails.findSome? read = some x ↔
      ∃ front rest, FirstAt p text front rest ∧ read rest = some x := by
  have stands {rest : List Char} {y : α} (found : read rest = some y) : p rest :=
    (reads rest).mp (by simp [found])
  induction text with
  | nil =>
    rw [List.tails, List.findSome?_singleton]
    constructor
    · intro found
      exact ⟨[], [], firstAt_start (stands found), found⟩
    · rintro ⟨front, rest, first, found⟩
      obtain ⟨-, rfl⟩ := List.append_eq_nil_iff.mp first.split.symm
      exact found
  | cons c text ih =>
    rw [List.tails_cons, List.findSome?_cons]
    cases here : read (c :: text) with
    | some y =>
      constructor
      · intro found
        exact ⟨[], c :: text, firstAt_start (stands here), here.trans found⟩
      · rintro ⟨front, rest, first, found⟩
        have start : front = [] := by simpa using first.first [] (c :: text) rfl (stands here)
        obtain rfl : c :: text = rest := by simpa [start] using first.split
        exact here.symm.trans found
    | none =>
      have later : ¬p (c :: text) := by
        rw [← reads, here]
        nofun
      refine ih.trans ?_
      constructor
      · rintro ⟨front, rest, first, found⟩
        exact ⟨c :: front, rest, first.cons later, found⟩
      · rintro ⟨front, rest, first, found⟩
        cases front with
        | nil =>
          obtain rfl : c :: text = rest := first.split
          exact absurd first.here later
        | cons b front =>
          obtain rfl : c = b := (List.cons.inj first.split).1
          exact ⟨front, rest, first.of_cons, found⟩

theorem findSome?_tails_eq_none_iff (reads : ∀ rest, (read rest).isSome = true ↔ p rest) :
    text.tails.findSome? read = none ↔ ∀ front rest, text = front ++ rest → ¬p rest := by
  simp only [List.findSome?_eq_none_iff, ← reads, Option.not_isSome_iff_eq_none]
  constructor
  · rintro none front rest rfl
    exact none rest ((List.mem_tails _ _).mpr (List.suffix_append front rest))
  · intro none rest member
    obtain ⟨front, split⟩ := (List.mem_tails _ _).mp member
    exact none front rest split.symm

end FirstAt

def decimal (digits : List Char) : Nat :=
  digits.foldl (fun n c => 10 * n + (c.toNat - '0'.toNat)) 0

structure Spells (digits : List Char) (n : Nat) : Prop where
  filled : digits ≠ []
  ascii : ∀ c ∈ digits, '0' ≤ c ∧ c ≤ '9'
  value : decimal digits = n
  fits : n < UInt64.size

instance (digits : List Char) (n : Nat) : Decidable (Spells digits n) :=
  decidable_of_iff (digits ≠ [] ∧ (digits.all fun c => '0' ≤ c ∧ c ≤ '9') = true ∧
    decimal digits = n ∧ n < UInt64.size)
    ⟨fun ⟨filled, ascii, value, fits⟩ => ⟨filled, by simpa using ascii, value, fits⟩,
      fun ⟨filled, ascii, value, fits⟩ => ⟨filled, by simpa using ascii, value, fits⟩⟩

theorem isDigit_of_ascii {c : Char} (ascii : '0' ≤ c ∧ c ≤ '9') : isDigit c = true := by
  have low : 0x30 ≤ c.val.toNat := ascii.1
  have high : c.val.toNat ≤ 0x39 := ascii.2
  have above : ¬c.val.toNat < 0x30 := Nat.not_lt.mpr low
  simp only [isDigit, digitRanges, RangeTable.contains, above, if_false, high, if_true]

theorem readDigits?_of_ascii {digits : List Char} (ascii : ∀ c ∈ digits, '0' ≤ c ∧ c ≤ '9') (n : Nat) :
    readDigits? n digits = some (digits.foldl (fun n c => 10 * n + (c.toNat - '0'.toNat)) n) := by
  induction digits generalizing n with
  | nil => rfl
  | cons c digits ih =>
    rw [List.forall_mem_cons] at ascii
    simp only [readDigits?, digitValue?, if_pos ascii.1, Option.bind_some, ih ascii.2,
      List.foldl_cons]

theorem Spells.natural? {digits : List Char} {n : Nat} (spells : Spells digits n) :
    natural? (UInt64.size - 1) digits = some n := by
  have fits : n ≤ UInt64.size - 1 := Nat.le_sub_one_of_lt spells.fits
  have read := readDigits?_of_ascii spells.ascii 0
  rw [show List.foldl _ 0 digits = n from spells.value] at read
  rw [Text.natural?, if_neg (by simp [spells.filled]), read, Option.filter_some]
  exact if_pos (decide_eq_true fits)

theorem Spells.isDigit {digits : List Char} {n : Nat} (spells : Spells digits n) :
    ∀ c ∈ digits, isDigit c = true :=
  fun c member => isDigit_of_ascii (spells.ascii c member)

theorem readDigits?_of_mem {digits : List Char} {c : Char} (member : c ∈ digits)
    (other : digitValue? c = none) (n : Nat) : readDigits? n digits = none := by
  induction digits generalizing n with
  | nil => cases member
  | cons d digits ih =>
    rw [readDigits?]
    rcases List.mem_cons.mp member with rfl | member
    · rw [other, Option.bind_none]
    · cases digitValue? d with
      | none => rfl
      | some value => exact ih member _

theorem digitValue?_eq_none {c : Char} (other : ¬('0' ≤ c ∧ c ≤ '9')) : digitValue? c = none :=
  if_neg other

def AsciiDigits (digits : List Char) : Prop := ∀ c ∈ digits, '0' ≤ c ∧ c ≤ '9'

instance (digits : List Char) : Decidable (AsciiDigits digits) := List.decidableBAll _ digits

/-- ASCII digits are read for the number that they spell, if that is not above the limit; a digit of
another script makes the whole run unreadable. -/
theorem natural?_eq (limit : Nat) {digits : List Char} (filled : digits ≠ []) :
    natural? limit digits =
      if AsciiDigits digits ∧ decimal digits ≤ limit then some (decimal digits) else none := by
  rw [natural?, if_neg (by simp [filled])]
  by_cases ascii : AsciiDigits digits
  · have read : readDigits? 0 digits = some (decimal digits) := readDigits?_of_ascii ascii 0
    have small : AsciiDigits digits ∧ decimal digits ≤ limit ↔ decimal digits ≤ limit :=
      and_iff_right ascii
    simp only [read, Option.filter_some, decide_eq_true_eq, small]
  · have foreign : ∃ c ∈ digits, ¬('0' ≤ c ∧ c ≤ '9') := by
      simpa only [AsciiDigits, not_forall, exists_prop] using ascii
    obtain ⟨c, member, other⟩ := foreign
    rw [readDigits?_of_mem member (digitValue?_eq_none other) 0, if_neg fun fits => ascii fits.1]
    rfl

theorem natural?_eq_some_iff {digits : List Char} {n : Nat} :
    natural? (UInt64.size - 1) digits = some n ↔ Spells digits n := by
  constructor
  · intro read
    by_cases filled : digits = []
    · subst filled
      cases read
    · rw [natural?_eq _ filled] at read
      split at read
      · rename_i fits
        obtain rfl := Option.some.inj read
        exact ⟨filled, fits.1, rfl, Nat.lt_of_le_pred (by decide) fits.2⟩
      · cases read
  · exact Spells.natural?

theorem natural?_eq_none_iff {digits : List Char} :
    natural? (UInt64.size - 1) digits = none ↔ ∀ n, ¬Spells digits n := by
  simp only [Option.eq_none_iff_forall_ne_some, ne_eq, natural?_eq_some_iff]

end ServerKeeper.Text

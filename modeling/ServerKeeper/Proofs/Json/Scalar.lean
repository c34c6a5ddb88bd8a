import Mathlib.Tactic
import ServerKeeper.Json.Printer
import ServerKeeper.Proofs.Text

namespace ServerKeeper.Json

theorem hexDigit?_hexDigit {n : Nat} (small : n < 16) : hexDigit? (hexDigit n) = some n := by
  have all : ∀ n < 16, hexDigit? (hexDigit n) = some n := by decide
  exact all n small

theorem toNat_of_isControl {c : Char} (control : isControl c = true) : c.toNat < 0x20 := by
  have below : c.val < 0x20 := by simpa [isControl] using control
  exact UInt32.lt_iff_toNat_lt.mp below

theorem readUnit_digits {a b c d : Char} {n : Nat} (unit : hexUnit? a b c d = some n)
    (rest : List Char) : readUnit (a :: b :: c :: d :: rest) = .ok (n, rest) := by
  have bytes : ¬byteLength [a, b, c, d] < 4 := by
    have := a.utf8Size_pos
    have := b.utf8Size_pos
    have := c.utf8Size_pos
    have := d.utf8Size_pos
    simp only [byteLength]
    omega
  rw [readUnit, List.take_succ_cons, List.take_succ_cons, List.take_succ_cons, List.take_succ_cons,
    List.take_zero, if_neg bytes]
  simp only [unit]

theorem hexUnit?_control {c : Char} (control : isControl c = true) :
    hexUnit? '0' '0' (hexDigit (c.toNat / 16)) (hexDigit (c.toNat % 16)) = some c.toNat := by
  have below := toNat_of_isControl control
  have high : c.toNat / 16 < 16 := by omega
  have low : c.toNat % 16 < 16 := by omega
  have zero : hexDigit? '0' = some 0 := by decide
  simp only [hexUnit?, zero, hexDigit?_hexDigit high, hexDigit?_hexDigit low, bind, Option.bind, pure]
  congr 1
  omega

theorem surrogate_of_control {c : Char} (control : isControl c = true) :
    isLeading c.toNat = false ∧ isTrailing c.toNat = false := by
  have below := toNat_of_isControl control
  constructor
  · simp [isLeading]
    omega
  · simp [isTrailing]
    omega

inductive Writes : Char → List Char → Prop
  | plain {c} : c ≠ '"' → c ≠ '\\' → isControl c = false → Writes c [c]
  | letter {c d} : simpleEscape? c = some d → Writes d ['\\', c]
  | unit {a b c d n} : hexUnit? a b c d = some n → isLeading n = false → isTrailing n = false →
      Writes (Char.ofNat n) ['\\', 'u', a, b, c, d]
  | pair {a b c d e f g h n m} : hexUnit? a b c d = some n → isLeading n = true →
      hexUnit? e f g h = some m → isTrailing m = true →
      Writes (Char.ofNat (0x10000 + (n - 0xd800) * 0x400 + (m - 0xdc00)))
        ['\\', 'u', a, b, c, d, '\\', 'u', e, f, g, h]

inductive WritesAll : List Char → List Char → Prop
  | nil : WritesAll [] []
  | cons {c text cs more} : Writes c text → WritesAll cs more → WritesAll (c :: cs) (text ++ more)

def Quotes (s : String) (text : List Char) : Prop :=
  ∃ inner, WritesAll s.toList inner ∧ text = '"' :: (inner ++ ['"'])

section Quoted

variable {c : Char} {cs text rest : List Char}

theorem not_isTrailing {n : Nat} (leading : isLeading n = true) : isTrailing n = false := by
  simp only [isLeading, Bool.and_eq_true, decide_eq_true_iff] at leading
  simp only [isTrailing, Bool.and_eq_false_iff, decide_eq_false_iff_not]
  omega

theorem ne_unit_of_letter {d : Char} (letter : simpleEscape? c = some d) : c ≠ 'u' := by
  rintro rfl
  cases letter

theorem readEscape_letter {d : Char} (letter : simpleEscape? c = some d) (rest : List Char) :
    readEscape (c :: rest) = .ok (d, rest) := by
  simp [readEscape, ne_unit_of_letter letter, letter]

theorem passEscape_letter {d : Char} (letter : simpleEscape? c = some d) (rest : List Char) :
    passEscape (c :: rest) = .ok ((), rest) := by
  simp [passEscape, ne_unit_of_letter letter, letter]

theorem readQuotedFrom_writes (writes : Writes c text) (fuel : Nat) (done : List Char) :
    readQuotedFrom (fuel + 1) done (text ++ rest) = readQuotedFrom fuel (c :: done) rest := by
  cases writes with
  | plain quote backslash printed => simp [readQuotedFrom, printed]
  | @letter c _ simple =>
    have escape  := readEscape_letter simple rest
    simp only [List.cons_append, List.nil_append, readQuotedFrom, escape, bind, Except.bind]
  | unit unit leading trailing =>
    simp only [List.cons_append, List.nil_append, readQuotedFrom, readEscape, readUnicode,
      readUnit_digits unit, leading, trailing, bind, Except.bind, Bool.false_eq_true, if_false]
  | pair high leading low trailing =>
    simp only [List.cons_append, List.nil_append, readQuotedFrom, readEscape, readUnicode,
      readUnit_digits high, readUnit_digits low, leading, not_isTrailing leading, trailing, bind,
      Except.bind, Bool.false_eq_true, if_false, if_true]

theorem passQuotedFrom_writes (writes : Writes c text) :
    ∃ steps, 0 < steps ∧ steps ≤ text.length ∧ ∀ fuel rest,
      passQuotedFrom (fuel + steps) (text ++ rest) = passQuotedFrom fuel rest := by
  cases writes with
  | plain quote backslash printed =>
    exact ⟨1, Nat.one_pos, Nat.le_refl 1, fun fuel rest => by simp [passQuotedFrom, printed]⟩
  | letter simple =>
    refine ⟨1, Nat.one_pos, Nat.le_add_left 1 1, fun fuel rest => ?_⟩
    simp only [List.cons_append, List.nil_append, passQuotedFrom, passEscape_letter simple, bind,
      Except.bind]
  | unit unit =>
    refine ⟨1, Nat.one_pos, Nat.le_add_left 1 5, fun fuel rest => ?_⟩
    simp only [List.cons_append, List.nil_append, passQuotedFrom, passEscape, readUnit_digits unit,
      bind, Except.bind]
  | pair high _ low =>
    refine ⟨2, Nat.two_pos, Nat.le_add_left 2 10, fun fuel rest => ?_⟩
    simp only [List.cons_append, List.nil_append, passQuotedFrom, passEscape, readUnit_digits high,
      readUnit_digits low, bind, Except.bind]

theorem Writes.length_pos (writes : Writes c text) : 0 < text.length := by
  cases writes <;> exact Nat.zero_lt_succ _

theorem WritesAll.length_le (writes : WritesAll cs text) : cs.length ≤ text.length := by
  induction writes with
  | nil => exact Nat.le_refl 0
  | cons one _ ih =>
    have := one.length_pos
    rw [List.length_append, List.length_cons]
    omega

theorem readQuotedFrom_writesAll (writes : WritesAll cs text) {fuel : Nat} (enough : cs.length < fuel)
    (done : List Char) :
    readQuotedFrom fuel done (text ++ '"' :: rest) = .ok (done.reverse ++ cs, rest) := by
  induction writes generalizing fuel done with
  | nil =>
    obtain ⟨fuel, rfl⟩ := Nat.exists_eq_add_one.mpr enough
    simp [readQuotedFrom]
  | cons one _ ih =>
    obtain ⟨fuel, rfl⟩ := Nat.exists_eq_add_one.mpr (Nat.zero_lt_of_lt enough)
    rw [List.append_assoc, readQuotedFrom_writes one, ih (Nat.lt_of_succ_lt_succ enough),
      List.reverse_cons, List.append_assoc]
    rfl

theorem readQuoted_writes {s : String} (writes : WritesAll s.toList text) (rest : List Char) :
    readQuoted (text ++ '"' :: rest) = .ok (s, rest) := by
  have enough : s.toList.length < (text ++ '"' :: rest).length + 1 := by
    have := writes.length_le
    rw [List.length_append]
    omega
  simp only [readQuoted, readQuotedFrom_writesAll writes enough, bind, Except.bind,
    List.reverse_nil, List.nil_append, String.ofList_toList]

theorem passQuotedFrom_writesAll (writes : WritesAll cs text) {fuel : Nat}
    (enough : text.length < fuel) : passQuotedFrom fuel (text ++ '"' :: rest) = .ok ((), rest) := by
  induction writes generalizing fuel with
  | nil =>
    obtain ⟨fuel, rfl⟩ := Nat.exists_eq_add_one.mpr enough
    rfl
  | cons one _ ih =>
    obtain ⟨steps, -, few, passed⟩ := passQuotedFrom_writes one
    rw [List.length_append] at enough
    obtain ⟨fuel, rfl⟩ := Nat.exists_eq_add_of_le' (show steps ≤ fuel by omega)
    rw [List.append_assoc, passed, ih (by omega)]

theorem passQuoted_writes (writes : WritesAll cs text) (rest : List Char) :
    passQuoted (text ++ '"' :: rest) = .ok ((), rest) :=
  passQuotedFrom_writesAll writes (by rw [List.length_append]; omega)

theorem writes_escapeChar (c : Char) : Writes c (escapeChar c) := by
  unfold escapeChar
  split
  case h_8 quote backslash _ _ _ _ _ =>
    split
    case isTrue control =>
      obtain ⟨leading, trailing⟩ := surrogate_of_control control
      have unit := Writes.unit (hexUnit?_control control) leading trailing
      rwa [Char.ofNat_toNat] at unit
    case isFalse printed => exact .plain quote backslash (Bool.not_eq_true _ ▸ printed)
  all_goals exact .letter rfl

theorem writesAll_escaped (cs : List Char) : WritesAll cs (cs.flatMap escapeChar) := by
  induction cs with
  | nil => exact .nil
  | cons c cs ih => exact .cons (writes_escapeChar c) ih

theorem quotes_quote (s : String) : Quotes s (quote s) :=
  ⟨_, writesAll_escaped s.toList, rfl⟩

end Quoted

def Closed (rest : List Char) : Prop :=
  Text.Stops (fun c => Numeral.isDigit c || c == '.' || c == 'e' || c == 'E') rest

theorem closed_nil : Closed [] := Text.stops_nil _

theorem closed_cons {c : Char} (out : (Numeral.isDigit c || c == '.' || c == 'e' || c == 'E') = false)
    (rest : List Char) : Closed (c :: rest) :=
  Text.stops_cons out rest

theorem Closed.stops {rest : List Char} (closed : Closed rest) : Text.Stops Numeral.isDigit rest := by
  intro c head
  have out := closed c head
  simp only [Bool.or_eq_false_iff] at out
  exact out.1.1.1

namespace Numeral

theorem readFraction_closed {rest : List Char} (closed : Closed rest) (cut : Cause) :
    readFraction cut rest = .ok (none, rest) := by
  unfold readFraction
  split
  · exact absurd (closed '.' rfl) (by decide)
  · rfl

theorem readExponent_closed {rest : List Char} (closed : Closed rest) (cut : Cause) :
    readExponent cut rest = .ok (none, rest) := by
  unfold readExponent
  dsimp only
  split
  · exact absurd (closed 'e' rfl) (by decide)
  · exact absurd (closed 'E' rfl) (by decide)
  · rfl

structure Whole (digits : List Char) : Prop where
  filled : digits ≠ []
  ascii : ∀ c ∈ digits, isDigit c = true
  lone : digits.head? = some '0' → digits = ['0']

structure Written (digits : List Char) (n : Nat) : Prop extends Whole digits where
  value : ∀ limit, n ≤ limit → gather limit 0 digits = (n, 0)

theorem gather_append {limit n k : Nat} {front : List Char}
    (fits : gather limit n front = (k, 0)) (back : List Char) :
    gather limit n (front ++ back) = gather limit k back := by
  induction front generalizing n with
  | nil =>
    obtain rfl : n = k := by simpa [gather] using fits
    rfl
  | cons c front ih =>
    rw [gather] at fits
    rw [List.cons_append, gather]
    split at fits
    · rename_i small
      rw [if_pos small]
      exact ih fits
    · simp at fits

theorem digit_digitChar {d : Nat} (small : d < 10) :
    isDigit d.digitChar = true ∧ digit d.digitChar = d ∧ (d.digitChar = '0' → d = 0) := by
  have all : ∀ d < 10, isDigit d.digitChar = true ∧ digit d.digitChar = d ∧
    (d.digitChar = '0' → d = 0) := by decide
  exact all d small

theorem written_toDigits (n : Nat) : Written (Nat.toDigits 10 n) n := by
  induction n using Nat.strong_induction_on with
  | _ n ih =>
    by_cases small : n < 10
    · obtain ⟨isDigit, value, zero⟩ := digit_digitChar small
      rw [Nat.toDigits_of_lt_base small]
      refine ⟨⟨by simp, by simpa using isDigit, fun head => ?_⟩, fun limit fits => ?_⟩
      · obtain rfl := zero (by simpa using head)
        rfl
      · simp [gather, value, fits]
    · rw [Nat.not_lt] at small
      have last : n % 10 < 10 := Nat.mod_lt n (by decide)
      obtain ⟨isDigit, value, zero⟩ := digit_digitChar last
      have front := ih (n / 10) (by omega)
      rw [Nat.toDigits_of_base_le (by decide) small]
      refine ⟨⟨by simp, ?_, fun head => ?_⟩, fun limit fits => ?_⟩
      · intro c member
        rcases List.mem_append.mp member with member | member
        · exact front.ascii c member
        · obtain rfl : c = (n % 10).digitChar := by simpa using member
          exact isDigit
      · -- in front stand the digits of a smaller number that is not zero
        rw [List.head?_append_of_ne_nil _ front.filled] at head
        have none := front.value (n / 10) (Nat.le_refl _)
        rw [front.lone head] at none
        have zero : n / 10 = 0 := by simpa [gather, digit, eq_comm] using none
        omega
      · rw [gather_append (front.value limit (by omega)), gather, value]
        have whole : 10 * (n / 10) + n % 10 = n := Nat.div_add_mod n 10
        rw [whole, if_pos fits, gather]

theorem readWhole_run {digits rest : List Char} (whole : Whole digits)
    (stops : Text.Stops isDigit rest) (cut : Cause) :
    readWhole cut (digits ++ rest) = .ok (digits, rest) := by
  obtain ⟨filled, ascii, lone⟩ := whole
  cases digits with
  | nil => exact absurd rfl filled
  | cons c digits =>
    by_cases zero : c = '0'
    · subst zero
      obtain rfl : digits = [] := by simpa using lone rfl
      cases rest with
      | nil => rfl
      | cons c rest => simp [readWhole, stops c rfl]
    · rw [List.forall_mem_cons] at ascii
      simp [readWhole, ascii.1, Text.takeWhile_run ascii.2 stops, Text.dropWhile_run ascii.2 stops]

theorem read_written {digits rest : List Char} {n : Nat} (written : Written digits n)
    (closed : Closed rest) (cut : Cause) (negative : Bool) :
    read cut negative (digits ++ rest) = .ok (⟨negative, digits, none, none⟩, rest) := by
  simp only [read, readWhole_run written.toWhole closed.stops, readFraction_closed closed,
    readExponent_closed closed, bind, Except.bind]

end Numeral

theorem readNumber_natural {n : Nat} (fits : n < UInt64.size) {rest : List Char}
    (closed : Closed rest) :
    readNumber false (Nat.toDigits 10 n ++ rest) = .ok (.integer n, rest) := by
  have written := Numeral.written_toDigits n
  have value := written.value Numeral.maxUnsigned (Nat.le_sub_one_of_lt fits)
  simp [readNumber, Numeral.read_written written closed, bind, Except.bind, Numeral.value?, value]

theorem readNumber_negative {n : Nat} (proper : n ≠ 0) (fits : n ≤ UInt64.size / 2)
    {rest : List Char} (closed : Closed rest) :
    readNumber true (Nat.toDigits 10 n ++ rest) = .ok (.integer (-n), rest) := by
  have written := Numeral.written_toDigits n
  have small : n ≤ Numeral.maxUnsigned := Nat.le_trans fits (by decide)
  have value := written.value Numeral.maxUnsigned small
  simp [readNumber, Numeral.read_written written closed, bind, Except.bind, Numeral.value?, value,
    proper, Nat.not_lt.mpr fits]

def Fits (n : Int) : Prop := -(UInt64.size / 2 : Nat) ≤ n ∧ n < UInt64.size

theorem readScalar_digit {c : Char} (digit : Numeral.isDigit c = true) (s : List Char) :
    readScalar (c :: s) = (readNumber false (c :: s)).map fun (n, rest) => (.number n, rest) := by
  unfold readScalar
  split
  case h_7 head =>
    obtain ⟨rfl, rfl⟩ := List.cons.inj head
    rw [if_pos digit]
    cases readNumber false (c :: s) <;> rfl
  all_goals simp_all [Numeral.isDigit]

theorem readScalar_minus (s : List Char) :
    readScalar ('-' :: s) = (readNumber true s).map fun (n, rest) => (.number n, rest) := by
  rw [readScalar]
  cases readNumber true s <;> rfl

theorem render_ofNat (n : Nat) : (Number.integer (Int.ofNat n)).render = Nat.toDigits 10 n :=
  Nat.toList_repr

theorem render_negSucc (n : Nat) :
    (Number.integer (Int.negSucc n)).render = '-' :: Nat.toDigits 10 (n + 1) := by
  simp [Number.render, toString, Int.repr, String.toList_append, Nat.toList_repr]

theorem readScalar_integer {n : Int} (fits : Fits n) {rest : List Char} (closed : Closed rest) :
    readScalar ((Number.integer n).render ++ rest) = .ok (.number (.integer n), rest) := by
  cases n with
  | ofNat n =>
    have read := readNumber_natural (Int.ofNat_lt.mp fits.2) closed
    have written := Numeral.written_toDigits n
    rw [render_ofNat]
    cases run : Nat.toDigits 10 n with
    | nil => exact absurd run written.filled
    | cons c more =>
      have digit : Numeral.isDigit c = true := written.ascii c (by simp [run])
      rw [run, List.cons_append] at read
      rw [List.cons_append, readScalar_digit digit, read]
      rfl
  | negSucc n =>
    have bound : n + 1 ≤ UInt64.size / 2 := by
      have := fits.1
      omega
    rw [render_negSucc, List.cons_append, readScalar_minus,
      readNumber_negative (Nat.succ_ne_zero n) bound closed]
    rfl

end ServerKeeper.Json

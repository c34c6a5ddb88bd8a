import ServerKeeper.Json.Tagged
import ServerKeeper.Proofs.Json.Decoding

namespace ServerKeeper.Json

mutual

inductive Spells : Value → List Char → Prop
  | null : Spells .null ['n', 'u', 'l', 'l']
  | yes : Spells (.boolean true) ['t', 'r', 'u', 'e']
  | no : Spells (.boolean false) ['f', 'a', 'l', 's', 'e']
  | integer (n : Int) : Spells (.number (.integer n)) (Number.integer n).render
  | string (s : String) : Spells (.string s) (quote s)
  | list {vs text} : SpellsElements true vs text → Spells (.list vs) ('[' :: text)
  | object {ms text} : SpellsMembers true ms text → Spells (.object ms) ('\x7b' :: text)

inductive SpellsElements : Bool → List Value → List Char → Prop
  | done {first gap} : Blank gap → SpellsElements first [] (gap ++ [']'])
  | element {first lead v text vs more} : Lead first lead → Spells v text →
      SpellsElements false vs more → SpellsElements first (v :: vs) (lead ++ (text ++ more))

inductive SpellsMembers : Bool → List (String × Value) → List Char → Prop
  | done {first gap} : Blank gap → SpellsMembers first [] (gap ++ ['\x7d'])
  | member {first lead before gap v text ms more} (key : String) : Lead first lead →
      Blank before → Blank gap → Spells v text → SpellsMembers false ms more →
      SpellsMembers first ((key, v) :: ms)
        (lead ++ (quote key ++ (before ++ ':' :: (gap ++ (text ++ more)))))

end

mutual

def Value.isWhole : Value → Bool
  | .number (.float _) => false
  | .list vs => areWhole vs
  | .object ms => membersWhole ms
  | _ => true

def Value.areWhole : List Value → Bool
  | [] => true
  | v :: vs => v.isWhole && areWhole vs

def Value.membersWhole : List (String × Value) → Bool
  | [] => true
  | (_, v) :: ms => v.isWhole && membersWhole ms

end

def Number.numeral : Number → Numeral
  | integer n => ⟨decide (n < 0), Nat.toDigits 10 n.natAbs, none, none⟩
  | float _ => ⟨false, [], none, none⟩

mutual

def Value.term : Value → Term
  | .null => .null
  | .boolean b => .boolean b
  | .number n => .number n.numeral
  | .string s => .string s
  | .list vs => .list (terms vs)
  | .object ms => .object (memberTerms ms)

def Value.terms : List Value → List Term
  | [] => []
  | v :: vs => v.term :: terms vs

def Value.memberTerms : List (String × Value) → List (String × Term)
  | [] => []
  | (key, v) :: ms => (key, v.term) :: memberTerms ms

end

theorem rendersNumeral_digits_iff {negative sign : Bool} {digits text : List Char}
    (whole : Numeral.Whole digits) :
    RendersNumeral negative ⟨sign, digits, none, none⟩ text ↔ sign = negative ∧ text = digits := by
  constructor
  · intro renders
    cases renders with
    | mk _ fraction exponent =>
      cases fraction
      cases exponent
      simp
  · rintro ⟨rfl, rfl⟩
    have renders : RendersNumeral sign ⟨sign, text, none, none⟩ (text ++ ([] ++ [])) :=
      .mk whole .none .none
    rwa [List.append_nil, List.append_nil] at renders

theorem renders_integer_iff {n : Int} {text : List Char} :
    Renders (.number (Number.integer n).numeral) text ↔ text = (Number.integer n).render := by
  have run (k : Nat) : Numeral.Whole (Nat.toDigits 10 k) := (Numeral.written_toDigits k).toWhole
  cases n with
  | ofNat k =>
    rw [render_ofNat]
    constructor
    · intro renders
      cases renders with
      | number renders => exact ((rendersNumeral_digits_iff (run k)).mp renders).2
      | negative renders => cases ((rendersNumeral_digits_iff (run k)).mp renders).1
    · rintro rfl
      exact .number ((rendersNumeral_digits_iff (run k)).mpr ⟨rfl, rfl⟩)
  | negSucc k =>
    have sign : decide (Int.negSucc k < 0) = true := decide_eq_true (Int.negSucc_lt_zero k)
    rw [render_negSucc, Number.numeral, sign, Int.natAbs_negSucc]
    constructor
    · intro renders
      cases renders with
      | number renders => cases ((rendersNumeral_digits_iff (run (k + 1))).mp renders).1
      | negative renders => rw [((rendersNumeral_digits_iff (run (k + 1))).mp renders).2]
    · rintro rfl
      exact .negative ((rendersNumeral_digits_iff (run (k + 1))).mpr ⟨rfl, rfl⟩)

mutual

theorem Spells.renders : ∀ {v : Value} {text : List Char}, Spells v text → Renders v.term text
  | _, _, .null => .null
  | _, _, .yes => .yes
  | _, _, .no => .no
  | _, _, .integer n => renders_integer_iff.mpr rfl
  | _, _, .string s => .string (quotes_quote s)
  | _, _, .list spells => .list spells.renders
  | _, _, .object spells => .object spells.renders

theorem SpellsElements.renders : ∀ {first : Bool} {vs : List Value} {text : List Char},
    SpellsElements first vs text → RendersElements first (Value.terms vs) text
  | _, _, _, .done blank => .done blank
  | _, _, _, .element leads spells others => .element leads spells.renders others.renders

theorem SpellsMembers.renders : ∀ {first : Bool} {ms : List (String × Value)} {text : List Char},
    SpellsMembers first ms text → RendersMembers first (Value.memberTerms ms) text
  | _, _, _, .done blank => .done blank
  | _, _, _, .member key leads before gap spells others =>
    .member leads (quotes_quote key) before gap spells.renders others.renders

end

section Layout

variable {v : Value} {vs : List Value} {ms : List (String × Value)} {text more before gap : List Char}

theorem spells_cons (blank : Blank gap) (first : Spells v text)
    (others : SpellsElements false vs more) :
    Spells (.list (v :: vs)) ('[' :: (gap ++ (text ++ more))) :=
  .list (.element (.first blank) first others)

theorem spellsElements_cons (blank : Blank gap) (first : Spells v text)
    (others : SpellsElements false vs more) :
    SpellsElements false (v :: vs) (',' :: (gap ++ (text ++ more))) := by
  have all := SpellsElements.element (.next blank_nil blank) first others
  rwa [List.append_assoc] at all

theorem spells_member (key : String) (blank : Blank before) (after : Blank gap)
    (first : Spells v text) (others : SpellsMembers false ms more) :
    Spells (.object ((key, v) :: ms))
      ('\x7b' :: (before ++ (quote key ++ ':' :: (gap ++ (text ++ more))))) :=
  .object (.member key (.first blank) blank_nil after first others)

theorem spellsMembers_member (key : String) (blank : Blank before) (after : Blank gap)
    (first : Spells v text) (others : SpellsMembers false ms more) :
    SpellsMembers false ((key, v) :: ms)
      (',' :: (before ++ (quote key ++ ':' :: (gap ++ (text ++ more))))) := by
  have all := SpellsMembers.member key (.next blank_nil blank) blank_nil after first others
  rwa [List.append_assoc] at all

theorem isWhole_list_cons :
    (Value.list (v :: vs)).isWhole = true ↔ v.isWhole = true ∧ Value.areWhole vs = true := by
  simp only [Value.isWhole, Value.areWhole, Bool.and_eq_true]

theorem isWhole_object_cons {key : String} :
    (Value.object ((key, v) :: ms)).isWhole = true ↔
      v.isWhole = true ∧ Value.membersWhole ms = true := by
  simp only [Value.isWhole, Value.membersWhole, Bool.and_eq_true]

end Layout

mutual

theorem spells_compact : ∀ v : Value, v.isWhole = true → Spells v (compactChars v)
  | .null, _ => .null
  | .boolean true, _ => .yes
  | .boolean false, _ => .no
  | .number (.integer n), _ => .integer n
  | .string s, _ => .string s
  | .list [], _ => .list (.done blank_nil)
  | .list (v :: vs), whole => by
    obtain ⟨here, there⟩ := isWhole_list_cons.mp whole
    have list := spells_cons blank_nil (spells_compact v here) (spellsElements_compact vs there)
    simpa [compactChars] using list
  | .object [], _ => .object (.done blank_nil)
  | .object ((key, v) :: ms), whole => by
    obtain ⟨here, there⟩ := isWhole_object_cons.mp whole
    have object := spells_member key blank_nil blank_nil (spells_compact v here)
      (spellsMembers_compact ms there)
    simpa [compactChars] using object

theorem spellsElements_compact : ∀ vs : List Value, Value.areWhole vs = true →
    SpellsElements false vs (compactElements vs ++ [']'])
  | [], _ => .done blank_nil
  | v :: vs, whole => by
    obtain ⟨here, there⟩ := Bool.and_eq_true_iff.mp whole
    have all := spellsElements_cons blank_nil (spells_compact v here)
      (spellsElements_compact vs there)
    simpa [compactElements] using all

theorem spellsMembers_compact : ∀ ms : List (String × Value), Value.membersWhole ms = true →
    SpellsMembers false ms (compactMembers ms ++ ['\x7d'])
  | [], _ => .done blank_nil
  | (key, v) :: ms, whole => by
    obtain ⟨here, there⟩ := Bool.and_eq_true_iff.mp whole
    have all := spellsMembers_member key blank_nil blank_nil (spells_compact v here)
      (spellsMembers_compact ms there)
    simpa [compactMembers] using all

end

mutual

theorem spells_pretty : ∀ (level : Nat) (v : Value), v.isWhole = true →
    Spells v (prettyChars level v)
  | _, .null, _ => .null
  | _, .boolean true, _ => .yes
  | _, .boolean false, _ => .no
  | _, .number (.integer n), _ => .integer n
  | _, .string s, _ => .string s
  | _, .list [], _ => .list (.done blank_nil)
  | level, .list (v :: vs), whole => by
    obtain ⟨here, there⟩ := isWhole_list_cons.mp whole
    have list := spells_cons (blank_newline (level + 1)) (spells_pretty (level + 1) v here)
      (spellsElements_pretty level vs there)
    simpa [prettyChars] using list
  | _, .object [], _ => .object (.done blank_nil)
  | level, .object ((key, v) :: ms), whole => by
    obtain ⟨here, there⟩ := isWhole_object_cons.mp whole
    have object := spells_member key (blank_newline (level + 1)) blank_space
      (spells_pretty (level + 1) v here) (spellsMembers_pretty level ms there)
    simpa [prettyChars] using object

theorem spellsElements_pretty : ∀ (level : Nat) (vs : List Value), Value.areWhole vs = true →
    SpellsElements false vs (prettyElements (level + 1) vs ++ (newline level ++ [']']))
  | level, [], _ => .done (blank_newline level)
  | level, v :: vs, whole => by
    obtain ⟨here, there⟩ := Bool.and_eq_true_iff.mp whole
    have all := spellsElements_cons (blank_newline (level + 1)) (spells_pretty (level + 1) v here)
      (spellsElements_pretty level vs there)
    simpa [prettyElements] using all

theorem spellsMembers_pretty : ∀ (level : Nat) (ms : List (String × Value)),
    Value.membersWhole ms = true →
    SpellsMembers false ms (prettyMembers (level + 1) ms ++ (newline level ++ ['\x7d']))
  | level, [], _ => .done (blank_newline level)
  | level, (key, v) :: ms, whole => by
    obtain ⟨here, there⟩ := Bool.and_eq_true_iff.mp whole
    have all := spellsMembers_member key (blank_newline (level + 1)) blank_space
      (spells_pretty (level + 1) v here) (spellsMembers_pretty level ms there)
    simpa [prettyMembers] using all

end

section Choices

variable {α : Type}

/-- Values that stand beside a tag: those without brackets, and of numbers those that are integers. -/
inductive Plain : Value → Prop
  | null : Plain .null
  | boolean (b : Bool) : Plain (.boolean b)
  | integer {n : Int} : Fits n → Plain (.number (.integer n))
  | string (s : String) : Plain (.string s)

theorem readScalar_plain {v : Value} (plain : Plain v) {text : List Char}
    (renders : Renders v.term text) {rest : List Char} (closed : Closed rest) :
    readScalar (text ++ rest) = .ok (v, rest) := by
  cases plain with
  | null =>
    cases renders
    rfl
  | boolean b => cases renders <;> rfl
  | integer fits =>
    rw [renders_integer_iff.mp renders]
    exact readScalar_integer fits closed
  | string s =>
    cases renders with
    | string quotes =>
      obtain ⟨inner, writes, rfl⟩ := quotes
      simp only [List.cons_append, List.append_assoc, List.nil_append, readScalar,
        readQuoted_writes writes, bind, Except.bind]

theorem decodes_plain {v : Value} (plain : Plain v) : Decodes readValue 0 v.term (some v) := by
  rintro room gap text rest - blank renders closed
  have spaced := dropSpace_renders blank renders rest
  have scalar := readScalar_plain plain renders closed
  have bracket : ∀ s, text ++ rest ≠ '[' :: s ∧ text ++ rest ≠ '\x7b' :: s := by
    intro s
    constructor <;> intro same
    · rw [same] at scalar
      cases scalar
    · rw [same] at scalar
      cases scalar
  -- a value without brackets is read as a scalar, whatever room there is
  have read : readValue room (gap ++ (text ++ rest)) = readScalar (text ++ rest) := by
    rw [readValue, readValueFrom.eq_def]
    dsimp only
    rw [spaced]
    split
    · exact absurd ‹_› (bracket _).1
    · exact absurd ‹_› (bracket _).2
    · rfl
  rw [read, scalar]
  rfl

theorem Choice.readMembersFrom_renders (c : Choice α) (room : Nat) (tag : Option (Choice.Variant α))
    {ms : List (String × Value)} (plain : ∀ m ∈ ms, m.1 ≠ c.key ∧ Plain m.2) {text : List Char}
    (renders : RendersMembers false (Value.memberTerms ms) text) {fuel : Nat}
    (steps : ms.length < fuel) (rest : List Char) :
    ∃ gap, Blank gap ∧
      c.readMembersFrom room fuel false tag (text ++ rest) =
        .ok ((tag, ms), gap ++ '\x7d' :: rest) := by
  induction ms generalizing text fuel with
  | nil =>
    obtain ⟨fuel, rfl⟩ := Nat.exists_eq_add_one.mpr steps
    cases renders with
    | done blank =>
      refine ⟨_, blank, ?_⟩
      simp only [List.append_assoc, List.cons_append, List.nil_append, Choice.readMembersFrom,
        nextKey_done blank, bind, Except.bind]
  | cons m ms ih =>
    obtain ⟨fuel, rfl⟩ := Nat.exists_eq_add_one.mpr (Nat.zero_lt_of_lt steps)
    rw [List.forall_mem_cons] at plain
    cases renders with
    | @member _ _ _ _ before space _ text _ more leads quotes colon blank renders others =>
      obtain ⟨gap, ends, left⟩ := ih plain.2 others (Nat.lt_of_succ_lt_succ steps)
      obtain ⟨t, next, name⟩ := nextKey_quotes leads quotes
        (before ++ ':' :: (space ++ (text ++ (more ++ rest))))
      have now := toOption_eq_some_iff.mp <| decodes_plain plain.1.2 room _ _ _ (Nat.zero_le _) blank
        renders (others.closed rest)
      have other : (m.1 == c.key) = false := beq_eq_false_iff_ne.mpr plain.1.1
      refine ⟨gap, ends, ?_⟩
      simp only [List.append_assoc, List.cons_append, Choice.readMembersFrom, next, name, other,
        readColon_spelled colon, now, left, bind, Except.bind]
      rfl

theorem Choice.readTag_quotes (c : Choice α) {tag : String} {variant : Choice.Variant α}
    (known : c.variants.lookup tag = some variant) {gap quoted : List Char} (blank : Blank gap)
    (quotes : Quotes tag quoted) (rest : List Char) :
    c.readTag (gap ++ (quoted ++ rest)) = .ok (variant, rest) := by
  have spaced := dropSpace_renders blank (Renders.string quotes) rest
  obtain ⟨inner, writes, rfl⟩ := quotes
  simp only [List.cons_append, List.append_assoc, List.nil_append] at spaced ⊢
  simp only [Choice.readTag, spaced, readQuoted_writes writes, known, bind, Except.bind]

theorem Choice.readMembersFrom_tag (c : Choice α) {tag : String} {variant : Choice.Variant α}
    (known : c.variants.lookup tag = some variant) (room : Nat) {ms : List (String × Value)}
    {text : List Char}
    (renders : RendersMembers true ((c.key, .string tag) :: Value.memberTerms ms) text) {fuel : Nat}
    (steps : ms.length < fuel) (plain : ∀ m ∈ ms, m.1 ≠ c.key ∧ Plain m.2) (rest : List Char) :
    ∃ gap, Blank gap ∧
      c.readMembersFrom room (fuel + 1) true none (text ++ rest) =
        .ok ((some variant, ms), gap ++ '\x7d' :: rest) := by
  cases renders with
  | @member _ _ _ _ before space _ value _ more leads quotes colon blank renders others =>
    obtain ⟨gap, ends, left⟩ := c.readMembersFrom_renders room (some variant) plain others steps rest
    obtain ⟨t, next, name⟩ := nextKey_quotes leads quotes
      (before ++ ':' :: (space ++ (value ++ (more ++ rest))))
    refine ⟨gap, ends, ?_⟩
    cases renders with
    | string quotes =>
      simp only [List.cons_append, List.append_assoc, Choice.readMembersFrom, next, name, BEq.rfl,
        if_true, Option.isSome_none, Bool.false_eq_true, if_false, readColon_spelled colon,
        c.readTag_quotes known blank quotes, left, bind, Except.bind]

theorem length_memberTerms (ms : List (String × Value)) :
    (Value.memberTerms ms).length = ms.length := by
  induction ms with
  | nil => rfl
  | cons m ms ih => rw [Value.memberTerms, List.length_cons, List.length_cons, ih]

theorem Choice.decodes (c : Choice α) {tag : String} {variant : Choice.Variant α}
    (known : c.variants.lookup tag = some variant) {ms : List (String × Value)} {a : α}
    (settles : variant (.members ms) = .ok a) (plain : ∀ m ∈ ms, m.1 ≠ c.key ∧ Plain m.2) :
    Decodes c.read 1 (Value.object ((c.key, .string tag) :: ms)).term (some a) := by
  intro room gap text rest enough blank renders closed
  have spaced := dropSpace_renders blank renders rest
  obtain ⟨room, rfl⟩ := Nat.exists_eq_add_one.mpr enough
  cases renders with
  | @object _ text members =>
    have steps : ms.length < (text ++ rest).length := by
      have := members.length_lt
      rw [Value.memberTerms, List.length_cons, length_memberTerms] at this
      rw [List.length_append]
      omega
    obtain ⟨gap, ends, left⟩ := c.readMembersFrom_tag known room members steps plain rest
    rw [List.cons_append] at spaced ⊢
    simp only [Choice.read, spaced, openBracket, left, endObject_spelled ends, Choice.settle, settles,
      bind, Except.bind]
    rfl

end Choices

end ServerKeeper.Json

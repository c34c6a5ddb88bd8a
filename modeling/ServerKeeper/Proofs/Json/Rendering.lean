import ServerKeeper.Json.Skip
import ServerKeeper.Proofs.Json.Scalar

namespace ServerKeeper.Json

def Blank (gap : List Char) : Prop := ∀ c ∈ gap, isSpace c = true

/-- What stands in front of an element: a comma, unless it is the first, and space. -/
inductive Lead : Bool → List Char → Prop
  | first {gap} : Blank gap → Lead true gap
  | next {before gap} : Blank before → Blank gap → Lead false (before ++ ',' :: gap)

theorem blank_nil : Blank [] := nofun

theorem blank_newline (level : Nat) : Blank (newline level) := by
  intro c member
  rcases List.mem_cons.mp member with rfl | member
  · rfl
  · obtain rfl := List.eq_of_mem_replicate member
    rfl

theorem dropSpace_cons {gap : List Char} (blank : Blank gap) {c : Char} (filled : isSpace c = false)
    (s : List Char) : dropSpace (gap ++ c :: s) = c :: s :=
  Text.dropWhile_run blank (Text.stops_cons filled s)

theorem dropSpace_blank {gap : List Char} (blank : Blank gap) : dropSpace gap = [] := by
  simpa [dropSpace] using Text.dropWhile_run blank (Text.stops_nil _)

theorem blank_space : Blank [' '] := by
  intro c member
  obtain rfl := List.mem_singleton.mp member
  rfl

section Parts

variable {first : Bool} {gap lead : List Char}

theorem nextElement_done (blank : Blank gap) (rest : List Char) :
    nextElement first (gap ++ ']' :: rest) = .ok none := by
  simp only [nextElement, dropSpace_cons blank (show isSpace ']' = false by decide)]

theorem nextElement_comma (blank : Blank gap) (s : List Char) :
    nextElement false (gap ++ ',' :: s) =
      match dropSpace s with
      | [] => .error (.peek (.unfinished .value) [])
      | ']' :: s => .error (.peek (refuse .trailingComma) (']' :: s))
      | s => .ok (some s) := by
  rw [nextElement, dropSpace_cons blank (by decide)]
  rfl

theorem nextElement_cons {c : Char} (leads : Lead first lead) (filled : isSpace c = false)
    (bracket : c ≠ ']') (rest : List Char) :
    nextElement first (lead ++ c :: rest) = .ok (some (c :: rest)) := by
  cases leads with
  | first blank => simp [nextElement, dropSpace_cons blank filled]
  | next before blank =>
    rw [List.append_assoc, List.cons_append, nextElement_comma before, dropSpace_cons blank filled]
    split <;> simp_all

theorem nextKey_done (blank : Blank gap) (rest : List Char) :
    nextKey first (gap ++ '\x7d' :: rest) = .ok none := by
  simp only [nextKey, dropSpace_cons blank (show isSpace '\x7d' = false by decide)]

theorem nextKey_spelled (leads : Lead first lead) (rest : List Char) :
    nextKey first (lead ++ '"' :: rest) = .ok (some rest) := by
  have quote : isSpace '"' = false := by decide
  cases leads with
  | first blank => simp [nextKey, dropSpace_cons blank quote]
  | next before blank =>
    have comma := dropSpace_cons before (show isSpace ',' = false by decide)
    simp [nextKey, comma, dropSpace_cons blank quote]

theorem readColon_spelled (blank : Blank gap) (rest : List Char) :
    readColon (gap ++ ':' :: rest) = .ok ((), rest) := by
  simp only [readColon, dropSpace_cons blank (show isSpace ':' = false by decide)]

theorem endList_spelled (blank : Blank gap) (rest : List Char) :
    endList (gap ++ ']' :: rest) = .ok ((), rest) := by
  simp only [endList, dropSpace_cons blank (show isSpace ']' = false by decide)]

theorem endObject_spelled (blank : Blank gap) (rest : List Char) :
    endObject (gap ++ '\x7d' :: rest) = .ok ((), rest) := by
  simp only [endObject, dropSpace_cons blank (show isSpace '\x7d' = false by decide)]

end Parts

theorem closed_space {c : Char} (space : isSpace c = true) (rest : List Char) : Closed (c :: rest) := by
  refine closed_cons ?_ rest
  simp only [isSpace, Bool.or_eq_true, beq_iff_eq] at space
  rcases space with ((rfl | rfl) | rfl) | rfl <;> decide

theorem closed_blank {trail : List Char} (blank : Blank trail) : Closed trail := by
  cases trail with
  | nil => exact closed_nil
  | cons c trail => exact closed_space (blank c (List.mem_cons_self ..)) trail

theorem closed_lead {before : List Char} {c : Char} (blank : Blank before)
    (out : (Numeral.isDigit c || c == '.' || c == 'e' || c == 'E') = false) (rest : List Char) :
    Closed (before ++ c :: rest) := by
  cases before with
  | nil => exact closed_cons out rest
  | cons first before => exact closed_space (blank first (List.mem_cons_self ..)) _

theorem Lead.closed {lead : List Char} (leads : Lead false lead) (rest : List Char) :
    Closed (lead ++ rest) := by
  cases leads with
  | next before =>
    rw [List.append_assoc]
    exact closed_lead before (by decide) _

inductive Term
  | null
  | boolean (b : Bool)
  | number (n : Numeral)
  | string (s : String)
  | list (elements : List Term)
  | object (members : List (String × Term))

structure Run (digits : List Char) : Prop where
  filled : digits ≠ []
  ascii : ∀ c ∈ digits, Numeral.isDigit c = true

inductive RendersFraction : Option (List Char) → List Char → Prop
  | none : RendersFraction none []
  | some {digits} : Run digits → RendersFraction (some digits) ('.' :: digits)

inductive RendersSign : Bool → List Char → Prop
  | none : RendersSign false []
  | plus : RendersSign false ['+']
  | minus : RendersSign true ['-']

inductive RendersExponent : Option (Bool × List Char) → List Char → Prop
  | none : RendersExponent none []
  | some {mark negative sign digits} : mark = 'e' ∨ mark = 'E' → RendersSign negative sign →
      Run digits → RendersExponent (some (negative, digits)) (mark :: (sign ++ digits))

inductive RendersNumeral (negative : Bool) : Numeral → List Char → Prop
  | mk {whole fraction exponent front back} : Numeral.Whole whole → RendersFraction fraction front →
      RendersExponent exponent back →
      RendersNumeral negative ⟨negative, whole, fraction, exponent⟩ (whole ++ (front ++ back))

section Numbers

variable {fraction : Option (List Char)} {exponent : Option (Bool × List Char)}
  {digits text rest : List Char}

theorem RendersExponent.stops (renders : RendersExponent exponent text) (closed : Closed rest) :
    Text.Stops (fun c => Numeral.isDigit c || c == '.') (text ++ rest) := by
  cases renders with
  | none =>
    intro c head
    have out := closed c head
    simp only [Bool.or_eq_false_iff] at out ⊢
    exact out.1.1
  | some mark _ _ => rcases mark with rfl | rfl <;> exact Text.stops_cons (by decide) _

theorem RendersFraction.stops (renders : RendersFraction fraction text)
    (stops : Text.Stops (fun c => Numeral.isDigit c || c == '.') rest) :
    Text.Stops Numeral.isDigit (text ++ rest) := by
  cases renders with
  | none =>
    intro c head
    have out := stops c head
    simp only [Bool.or_eq_false_iff] at out
    exact out.1
  | some _ => exact Text.stops_cons (by decide) _

theorem readFraction_renders (renders : RendersFraction fraction text)
    (stops : Text.Stops (fun c => Numeral.isDigit c || c == '.') rest) (cut : Cause) :
    Numeral.readFraction cut (text ++ rest) = .ok (fraction, rest) := by
  cases renders with
  | none =>
    rw [List.nil_append]
    unfold Numeral.readFraction
    split
    · exact absurd (stops '.' rfl) (by decide)
    · rfl
  | some run =>
    have ends : Text.Stops Numeral.isDigit rest := RendersFraction.none.stops stops
    obtain ⟨c, digits, rfl⟩ := List.exists_cons_of_ne_nil run.filled
    have first := run.ascii c List.mem_cons_self
    rw [List.cons_append, List.cons_append, Numeral.readFraction, if_pos first,
      ← List.cons_append, Text.takeWhile_run run.ascii ends, Text.dropWhile_run run.ascii ends]

theorem readSign_renders {negative : Bool} {sign : List Char} (renders : RendersSign negative sign)
    {c : Char} (digit : Numeral.isDigit c = true) (rest : List Char) :
    Numeral.readSign (sign ++ c :: rest) = (negative, c :: rest) := by
  cases renders with
  | none =>
    have plus : c ≠ '+' := by
      rintro rfl
      cases digit
    have minus : c ≠ '-' := by
      rintro rfl
      cases digit
    simp [Numeral.readSign, plus, minus]
  | plus | minus => rfl

theorem readExponent_renders (renders : RendersExponent exponent text) (closed : Closed rest)
    (cut : Cause) : Numeral.readExponent cut (text ++ rest) = .ok (exponent, rest) := by
  cases renders with
  | none => exact Numeral.readExponent_closed closed cut
  | some mark signed run =>
    obtain ⟨c, digits, rfl⟩ := List.exists_cons_of_ne_nil run.filled
    obtain ⟨digit, others⟩ := List.forall_mem_cons.mp run.ascii
    have sign := readSign_renders signed digit (digits ++ rest)
    rcases mark with rfl | rfl <;>
      simp only [List.cons_append, List.append_assoc, Numeral.readExponent, sign, digit, if_true,
        Text.takeWhile_run others closed.stops, Text.dropWhile_run others closed.stops]

theorem read_renders {negative : Bool} {n : Numeral} (renders : RendersNumeral negative n text)
    (closed : Closed rest) (cut : Cause) :
    Numeral.read cut negative (text ++ rest) = .ok (n, rest) := by
  cases renders with
  | mk whole fraction exponent =>
    have stops := exponent.stops closed
    simp only [Numeral.read, List.append_assoc, Numeral.readWhole_run whole (fraction.stops stops),
      readFraction_renders fraction stops, readExponent_renders exponent closed, bind, Except.bind]

end Numbers

mutual

inductive Renders : Term → List Char → Prop
  | null : Renders .null ['n', 'u', 'l', 'l']
  | yes : Renders (.boolean true) ['t', 'r', 'u', 'e']
  | no : Renders (.boolean false) ['f', 'a', 'l', 's', 'e']
  | number {n text} : RendersNumeral false n text → Renders (.number n) text
  | negative {n text} : RendersNumeral true n text → Renders (.number n) ('-' :: text)
  | string {s text} : Quotes s text → Renders (.string s) text
  | list {vs text} : RendersElements true vs text → Renders (.list vs) ('[' :: text)
  | object {ms text} : RendersMembers true ms text → Renders (.object ms) ('\x7b' :: text)

inductive RendersElements : Bool → List Term → List Char → Prop
  | done {first gap} : Blank gap → RendersElements first [] (gap ++ [']'])
  | element {first lead v text vs more} : Lead first lead → Renders v text →
      RendersElements false vs more → RendersElements first (v :: vs) (lead ++ (text ++ more))

inductive RendersMembers : Bool → List (String × Term) → List Char → Prop
  | done {first gap} : Blank gap → RendersMembers first [] (gap ++ ['\x7d'])
  | member {first lead key quoted before gap v text ms more} : Lead first lead → Quotes key quoted →
      Blank before → Blank gap → Renders v text → RendersMembers false ms more →
      RendersMembers first ((key, v) :: ms)
        (lead ++ (quoted ++ (before ++ ':' :: (gap ++ (text ++ more)))))

end

def Term.Begins : Term → Char → Prop
  | .null, c => c = 'n'
  | .boolean true, c => c = 't'
  | .boolean false, c => c = 'f'
  | .number _, c => c = '-' ∨ Numeral.isDigit c = true
  | .string _, c => c = '"'
  | .list _, c => c = '['
  | .object _, c => c = '\x7b'

section Values

variable {v : Term} {vs : List Term} {ms : List (String × Term)} {c : Char} {first : Bool}
  {text more gap rest : List Char}

theorem RendersNumeral.head {negative : Bool} {n : Numeral} (renders : RendersNumeral negative n text) :
    ∃ c more, text = c :: more ∧ Numeral.isDigit c = true := by
  cases renders with
  | mk whole =>
    obtain ⟨c, digits, rfl⟩ := List.exists_cons_of_ne_nil whole.filled
    exact ⟨c, _, rfl, whole.ascii c List.mem_cons_self⟩

theorem Renders.head (renders : Renders v text) : ∃ c more, text = c :: more ∧ v.Begins c := by
  cases renders with
  | null | yes | no | list | object => exact ⟨_, _, rfl, rfl⟩
  | number renders =>
    obtain ⟨c, more, rfl, digit⟩ := renders.head
    exact ⟨c, more, rfl, .inr digit⟩
  | negative => exact ⟨_, _, rfl, .inl rfl⟩
  | string quotes =>
    obtain ⟨inner, -, rfl⟩ := quotes
    exact ⟨_, _, rfl, rfl⟩

theorem Renders.length_pos (renders : Renders v text) : 0 < text.length := by
  obtain ⟨c, more, rfl, -⟩ := renders.head
  exact Nat.zero_lt_succ _

structure Term.Shape (v : Term) (c : Char) : Prop where
  space : isSpace c = false
  listEnd : c ≠ ']'
  objectEnd : c ≠ '\x7d'
  null : c = 'n' → v = .null
  yes : c = 't' → v = .boolean true
  no : c = 'f' → v = .boolean false
  string : c = '"' → ∃ s, v = .string s
  list : c = '[' → ∃ vs, v = .list vs
  object : c = '\x7b' → ∃ ms, v = .object ms

theorem Term.Begins.shape (begins : v.Begins c) : v.Shape c := by
  cases v with
  | number n =>
    have apart (d : Char) (other : d ≠ '-' ∧ Numeral.isDigit d = false) : c ≠ d := by
      rintro rfl
      rcases begins with sign | digit
      · exact other.1 sign
      · rw [other.2] at digit
        cases digit
    constructor
    case space =>
      simp only [isSpace, Bool.or_eq_false_iff, beq_eq_false_iff_ne]
      exact ⟨⟨⟨apart _ (by decide), apart _ (by decide)⟩, apart _ (by decide)⟩, apart _ (by decide)⟩
    case listEnd | objectEnd => exact apart _ (by decide)
    all_goals exact fun same => absurd same (apart _ (by decide))
  | boolean b => cases b <;> obtain rfl := begins <;> constructor <;> simp [isSpace]
  | null | string | list | object =>
    obtain rfl := begins
    constructor <;> simp [isSpace]

theorem RendersElements.closed (renders : RendersElements false vs text) (rest : List Char) :
    Closed (text ++ rest) := by
  cases renders with
  | done blank =>
    rw [List.append_assoc]
    exact closed_lead blank (by decide) _
  | element leads =>
    rw [List.append_assoc]
    exact leads.closed _

theorem RendersMembers.closed (renders : RendersMembers false ms text) (rest : List Char) :
    Closed (text ++ rest) := by
  cases renders with
  | done blank =>
    rw [List.append_assoc]
    exact closed_lead blank (by decide) _
  | member leads =>
    rw [List.append_assoc]
    exact leads.closed _

theorem RendersElements.length_pos (renders : RendersElements first vs text) : 0 < text.length := by
  cases renders with
  | done => simp
  | element _ renders =>
    have := renders.length_pos
    simp only [List.length_append]
    omega

theorem RendersMembers.length_pos (renders : RendersMembers first ms text) : 0 < text.length := by
  cases renders with
  | done => simp
  | member =>
    simp only [List.length_append, List.length_cons]
    omega

theorem dropSpace_renders (blank : Blank gap) (renders : Renders v text) (rest : List Char) :
    dropSpace (gap ++ (text ++ rest)) = text ++ rest := by
  obtain ⟨c, more, rfl, begins⟩ := renders.head
  exact dropSpace_cons blank begins.shape.space _

theorem skipScalar_digit (digit : Numeral.isDigit c = true) (s : List Char) :
    skipScalar (c :: s) = passNumber false (c :: s) := by
  unfold skipScalar
  split
  case h_7 head =>
    obtain ⟨rfl, rfl⟩ := List.cons.inj head
    exact if_pos digit
  all_goals simp_all [Numeral.isDigit]

theorem passNumber_renders {negative : Bool} {n : Numeral} (renders : RendersNumeral negative n text)
    (closed : Closed rest) : passNumber negative (text ++ rest) = .ok ((), rest) := by
  simp only [passNumber, read_renders renders closed, bind, Except.bind]

theorem skipScalar_renders (renders : Renders v text) (closed : Closed rest)
    (list : ∀ vs, v ≠ .list vs) (object : ∀ ms, v ≠ .object ms) :
    skipScalar (text ++ rest) = .ok ((), rest) := by
  cases renders with
  | null | yes | no => rfl
  | number renders =>
    have passed := passNumber_renders renders closed
    obtain ⟨c, more, rfl, digit⟩ := renders.head
    rw [List.cons_append, skipScalar_digit digit]
    exact passed
  | negative renders => exact passNumber_renders renders closed
  | string quotes =>
    obtain ⟨inner, writes, rfl⟩ := quotes
    simp only [List.cons_append, List.append_assoc, List.nil_append, skipScalar,
      passQuoted_writes writes]
  | list => exact absurd rfl (list _)
  | object => exact absurd rfl (object _)

section Steps

variable {fuel : Nat} {s t u : List Char}

theorem skipValueFrom_scalar (blank : Blank gap) (renders : Renders v text)
    (list : ∀ vs, v ≠ .list vs) (object : ∀ ms, v ≠ .object ms) (rest : List Char) :
    skipValueFrom (fuel + 1) (gap ++ (text ++ rest)) = skipScalar (text ++ rest) := by
  have spaced := dropSpace_renders blank renders rest
  obtain ⟨c, more, rfl, begins⟩ := renders.head
  have bracket : c ≠ '[' := fun same =>
    have ⟨vs, eq⟩ := begins.shape.list same
    list vs eq
  have brace : c ≠ '\x7b' := fun same =>
    have ⟨ms, eq⟩ := begins.shape.object same
    object ms eq
  rw [List.cons_append] at spaced ⊢
  simp [skipValueFrom, spaced, bracket, brace]

theorem skipValueFrom_empty_list (opened : dropSpace s = '[' :: t) (next : dropSpace t = ']' :: u) :
    skipValueFrom (fuel + 1) s = .ok ((), u) := by
  simp [skipValueFrom, opened, next]

theorem skipValueFrom_elements (opened : dropSpace s = '[' :: t) (next : dropSpace t = c :: u)
    (filled : c ≠ ']') : skipValueFrom (fuel + 1) s = skipElements fuel (c :: u) := by
  simp [skipValueFrom, opened, next, filled]

theorem skipValueFrom_empty_object (opened : dropSpace s = '\x7b' :: t)
    (next : dropSpace t = '\x7d' :: u) : skipValueFrom (fuel + 1) s = .ok ((), u) := by
  simp [skipValueFrom, opened, next]

theorem skipValueFrom_members (opened : dropSpace s = '\x7b' :: t) (next : dropSpace t = c :: u)
    (filled : c ≠ '\x7d') : skipValueFrom (fuel + 1) s = skipMembers fuel (c :: u) := by
  simp [skipValueFrom, opened, next, filled]

theorem skipMembers_member {key : String} {quoted before : List Char} (blank : Blank gap)
    (quotes : Quotes key quoted) (colon : Blank before) (passed : skipValueFrom fuel s = .ok ((), t)) :
    (dropSpace t = '\x7d' :: u →
      skipMembers (fuel + 1) (gap ++ (quoted ++ (before ++ ':' :: s))) = .ok ((), u)) ∧
    (dropSpace t = ',' :: u →
      skipMembers (fuel + 1) (gap ++ (quoted ++ (before ++ ':' :: s))) = skipMembers fuel u) := by
  obtain ⟨inner, writes, rfl⟩ := quotes
  have opened : openKey (gap ++ '"' :: (inner ++ '"' :: (before ++ ':' :: s))) =
      .ok ((), inner ++ '"' :: (before ++ ':' :: s)) := by
    simp only [openKey, dropSpace_cons blank (show isSpace '"' = false by decide)]
  constructor <;> intro next <;>
    simp only [skipMembers, List.append_assoc, List.cons_append, List.nil_append, opened,
      passQuoted_writes writes, readColon_spelled colon, passed, next, bind, Except.bind]

end Steps

mutual

theorem skipValueFrom_renders (fuel : Nat) {v : Term} {text gap rest : List Char}
    (renders : Renders v text) (enough : text.length ≤ fuel) (blank : Blank gap)
    (closed : Closed rest) : skipValueFrom fuel (gap ++ (text ++ rest)) = .ok ((), rest) := by
  have spaced := dropSpace_renders blank renders rest
  have filled := renders.length_pos
  cases fuel with
  | zero => omega
  | succ fuel =>
    have scalar (list : ∀ vs, v ≠ .list vs) (object : ∀ ms, v ≠ .object ms) :
        skipValueFrom (fuel + 1) (gap ++ (text ++ rest)) = skipScalar (text ++ rest) :=
      skipValueFrom_scalar blank renders list object rest
    have skipped := skipScalar_renders renders closed
    cases renders with
    | list elements =>
      cases elements with
      | done ends =>
        rw [List.cons_append, List.append_assoc] at spaced ⊢
        exact skipValueFrom_empty_list spaced (dropSpace_cons ends (by decide) rest)
      | @element _ lead v text vs more leads first others =>
        obtain ⟨ends⟩ := leads
        have passed := skipElements_renders fuel first others
          (by simp at enough; omega) blank_nil rest
        have next := dropSpace_renders ends first (more ++ rest)
        obtain ⟨c, tail, rfl, begins⟩ := first.head
        rw [List.cons_append, List.append_assoc, List.append_assoc] at spaced ⊢
        rw [skipValueFrom_elements spaced next begins.shape.listEnd]
        exact passed
    | object members =>
      cases members with
      | done ends =>
        rw [List.cons_append, List.append_assoc] at spaced ⊢
        exact skipValueFrom_empty_object spaced (dropSpace_cons ends (by decide) rest)
      | @member _ lead key quoted before gap v text ms more leads quotes colon space value others =>
        obtain ⟨ends⟩ := leads
        have passed := skipMembers_renders fuel quotes colon space value others
          (by simp at enough; omega) blank_nil rest
        obtain ⟨inner, -, rfl⟩ := quotes
        have next := dropSpace_cons ends (show isSpace '"' = false by decide)
          (inner ++ ['"'] ++ (before ++ ':' :: (gap ++ (text ++ (more ++ rest)))))
        simp only [List.cons_append, List.append_assoc] at spaced next passed ⊢
        rw [skipValueFrom_members spaced next (by decide)]
        exact passed
    | null | yes | no | number | negative | string =>
      exact (scalar nofun nofun).trans (skipped nofun nofun)
termination_by fuel

theorem skipElements_renders (fuel : Nat) {v : Term} {vs : List Term} {text more gap : List Char}
    (renders : Renders v text) (others : RendersElements false vs more)
    (enough : text.length + more.length ≤ fuel) (blank : Blank gap) (rest : List Char) :
    skipElements fuel (gap ++ (text ++ (more ++ rest))) = .ok ((), rest) := by
  have filled := others.length_pos
  cases fuel with
  | zero => omega
  | succ fuel =>
    have now := skipValueFrom_renders fuel renders (by omega) blank (others.closed rest)
    rw [skipElements, now]
    cases others with
    | done ends =>
      have left := dropSpace_cons ends (show isSpace ']' = false by decide) rest
      simp only [List.append_assoc, List.cons_append, List.nil_append, left, bind, Except.bind]
    | element leads second others =>
      cases leads with
      | @next before space ends blank =>
        have passed := skipElements_renders fuel second others
          (by simp at enough; omega) blank rest
        have left := dropSpace_cons ends (show isSpace ',' = false by decide)
        simp only [List.append_assoc, List.cons_append, left, passed, bind, Except.bind]
termination_by fuel

theorem skipMembers_renders (fuel : Nat) {key : String} {v : Term} {ms : List (String × Term)}
    {quoted before space text more gap : List Char} (quotes : Quotes key quoted)
    (colon : Blank before) (blank : Blank space) (renders : Renders v text)
    (others : RendersMembers false ms more)
    (enough : text.length + more.length ≤ fuel) (first : Blank gap) (rest : List Char) :
    skipMembers fuel (gap ++ (quoted ++ (before ++ ':' :: (space ++ (text ++ (more ++ rest)))))) =
      .ok ((), rest) := by
  have filled := others.length_pos
  cases fuel with
  | zero => omega
  | succ fuel =>
    have now := skipValueFrom_renders fuel renders (by omega) blank (others.closed rest)
    cases others with
    | done ends =>
      have left := dropSpace_cons ends (show isSpace '\x7d' = false by decide) rest
      simp only [List.append_assoc, List.cons_append, List.nil_append] at now ⊢
      exact (skipMembers_member first quotes colon now).1 left
    | member leads quoted colons spaces value others =>
      cases leads with
      | @next before lead ends blank =>
        have passed := skipMembers_renders fuel quoted colons spaces value others
          (by simp at enough; omega) blank rest
        have left := dropSpace_cons ends (show isSpace ',' = false by decide)
        simp only [List.append_assoc, List.cons_append] at now left ⊢
        rw [(skipMembers_member first quotes colon now).2 (left _), passed]
termination_by fuel

end

theorem skipValue_renders (renders : Renders v text) (blank : Blank gap) (closed : Closed rest) :
    skipValue (gap ++ (text ++ rest)) = .ok ((), rest) := by
  refine skipValueFrom_renders _ renders ?_ blank closed
  simp only [List.length_append]
  omega

end Values

end ServerKeeper.Json

import ServerKeeper.Json.Record
import ServerKeeper.Proofs.Json.Rendering

namespace ServerKeeper.Json

variable {α β σ : Type}

/-- A reader makes `result` of each text of `v`, or refuses them all where there is none, if as many
brackets as `depth` may be opened. -/
def Decodes (read : Typed α) (depth : Nat) (v : Term) (result : Option α) : Prop :=
  ∀ room gap text rest, depth ≤ room → Blank gap → Renders v text → Closed rest →
    (read room (gap ++ (text ++ rest))).toOption = result.map (·, rest)

theorem toOption_bind (x : Except Fault α) (f : α → Except Fault β) :
    (x >>= f).toOption = x.toOption.bind fun a => (f a).toOption := by
  cases x <;> rfl

theorem toOption_eq_some_iff {ε : Type} {x : Except ε α} {a : α} :
    x.toOption = some a ↔ x = .ok a := by
  cases x <;> simp [Except.toOption]

namespace Term

def string? : Term → Option String
  | .string s => some s
  | _ => none

def boolean? : Term → Option Bool
  | .boolean b => some b
  | _ => none

def orNull (decode : Term → Option α) : Term → Option (Option α)
  | .null => some none
  | v => (decode v).map some

theorem orNull_of_ne {v : Term} (proper : v ≠ .null) (decode : Term → Option α) :
    v.orNull decode = (decode v).map some := by
  cases v <;> first | rfl | exact absurd rfl proper

def listOf? (decode : Term → Option α) : Term → Option (List α)
  | .list vs => vs.mapM decode
  | _ => none

end Term

theorem decodes_none {read : Typed α} {depth : Nat} {v : Term}
    (stuck : ∀ room s c rest, v.Shape c → dropSpace s = c :: rest → (read room s).toOption = none) :
    Decodes read depth v none := by
  rintro room gap text rest - blank renders -
  have spaced := dropSpace_renders blank renders rest
  obtain ⟨c, more, rfl, begins⟩ := renders.head
  exact stuck room _ c (more ++ rest) begins.shape spaced

section Scalars

variable {v : Term}

theorem decodes_string (v : Term) : Decodes readString 0 v v.string? := by
  by_cases string : ∃ s, v = .string s
  · obtain ⟨s, rfl⟩ := string
    rintro room gap text rest - blank renders -
    have spaced := dropSpace_renders blank renders rest
    cases renders with
    | string quotes =>
      obtain ⟨inner, writes, rfl⟩ := quotes
      simp only [List.cons_append, List.append_assoc, List.nil_append] at spaced ⊢
      simp only [readString, spaced, readQuoted_writes writes]
      rfl
  · have none : v.string? = none := by
      cases v <;> first | rfl | exact absurd ⟨_, rfl⟩ string
    rw [none]
    refine decodes_none fun room s c rest shape spaced => ?_
    have other : c ≠ '"' := fun same => string (shape.string same)
    simp [readString, spaced, other, Except.toOption]

theorem listOf?_string?_iff {v : Term} {words : List String} :
    v.listOf? Term.string? = some words ↔ v = .list (words.map .string) := by
  have all (vs : List Term) : vs.mapM Term.string? = some words ↔ vs = words.map .string := by
    induction vs generalizing words with
    | nil => cases words <;> simp
    | cons w vs ih =>
      rw [List.mapM_cons]
      cases w with
      | string s =>
        cases words with
        | nil => simp [Term.string?, Option.bind_eq_some_iff]
        | cons word words => simpa [Term.string?, ih, Option.bind_eq_some_iff] using and_comm
      | null | boolean | number | list | object => cases words <;> simp [Term.string?]
  cases v with
  | list vs => simp [Term.listOf?, all]
  | null | boolean | number | string | object => simp [Term.listOf?]

theorem decodes_bool (v : Term) : Decodes readBool 0 v v.boolean? := by
  by_cases boolean : ∃ b, v = .boolean b
  · obtain ⟨b, rfl⟩ := boolean
    rintro room gap text rest - blank renders -
    have spaced := dropSpace_renders blank renders rest
    cases renders <;> simp only [readBool, spaced] <;> rfl
  · have none : v.boolean? = none := by
      cases v <;> first | rfl | exact absurd ⟨_, rfl⟩ boolean
    rw [none]
    refine decodes_none fun room s c rest shape spaced => ?_
    have yes : c ≠ 't' := fun same => boolean ⟨_, shape.yes same⟩
    have no : c ≠ 'f' := fun same => boolean ⟨_, shape.no same⟩
    simp [readBool, spaced, yes, no, Except.toOption]

theorem decodes_orNull {read : Typed α} {depth : Nat} {decode : Term → Option α}
    (decodes : v ≠ .null → Decodes read depth v (decode v)) :
    Decodes (readOption read) depth v (v.orNull decode) := by
  intro room gap text rest enough blank renders closed
  have spaced := dropSpace_renders blank renders rest
  by_cases null : v = .null
  · subst null
    cases renders
    simp only [readOption, spaced]
    rfl
  · have whole := decodes null room [] text rest enough blank_nil renders closed
    obtain ⟨c, more, rfl, begins⟩ := renders.head
    have other : c ≠ 'n' := fun same => null (begins.shape.null same)
    rw [List.nil_append, List.cons_append] at whole
    rw [List.cons_append] at spaced ⊢
    have read : readOption read room (gap ++ c :: (more ++ rest)) =
        (read room (c :: (more ++ rest)) >>= fun p => .ok (some p.1, p.2)) := by
      simp [readOption, spaced, other, bind, Except.bind]
    rw [read, toOption_bind, whole, Term.orNull_of_ne null]
    cases decode v <;> rfl

end Scalars

section Lists

variable {read : Typed α} {depth room fuel : Nat} {decode : Term → Option α} {vs : List Term}
  {first : Bool} {text : List Char}

theorem RendersElements.length_lt (renders : RendersElements first vs text) :
    vs.length < text.length := by
  induction vs generalizing first text with
  | nil => exact renders.length_pos
  | cons v vs ih =>
    cases renders with
    | element _ renders others =>
      have := renders.length_pos
      have := ih others
      simp only [List.length_append, List.length_cons]
      omega

theorem readListFrom_renders (enough : depth ≤ room)
    (decodes : ∀ v ∈ vs, Decodes read depth v (decode v)) (renders : RendersElements first vs text)
    (steps : vs.length < fuel) (rest : List Char) :
    ∃ gap, Blank gap ∧ (readListFrom (read room) fuel first (text ++ rest)).toOption =
      (vs.mapM decode).map (·, gap ++ ']' :: rest) := by
  induction vs generalizing first text fuel with
  | nil =>
    obtain ⟨fuel, rfl⟩ := Nat.exists_eq_add_one.mpr steps
    cases renders with
    | done blank =>
      refine ⟨_, blank, ?_⟩
      simp only [List.append_assoc, List.cons_append, List.nil_append, readListFrom,
        nextElement_done blank, bind, Except.bind]
      rfl
  | cons v vs ih =>
    obtain ⟨fuel, rfl⟩ := Nat.exists_eq_add_one.mpr (Nat.zero_lt_of_lt steps)
    rw [List.forall_mem_cons] at decodes
    cases renders with
    | @element _ lead _ text _ more leads renders others =>
      obtain ⟨gap, blank, left⟩ := ih decodes.2 others (Nat.lt_of_succ_lt_succ steps)
      have now := decodes.1 room [] _ _ enough blank_nil renders (others.closed rest)
      refine ⟨gap, blank, ?_⟩
      have next : nextElement first (lead ++ (text ++ (more ++ rest))) =
          .ok (some (text ++ (more ++ rest))) := by
        obtain ⟨c, tail, rfl, begins⟩ := renders.head
        exact nextElement_cons leads begins.shape.space begins.shape.listEnd _
      rw [List.append_assoc, List.append_assoc, readListFrom, next]
      change (read room ([] ++ (text ++ (more ++ rest))) >>= fun x =>
        readListFrom (read room) fuel false x.2 >>= fun y => .ok (x.1 :: y.1, y.2)).toOption = _
      rw [toOption_bind, now, List.mapM_cons]
      cases decode v with
      | none => rfl
      | some a =>
        change (readListFrom (read room) fuel false (more ++ rest) >>= _).toOption = _
        rw [toOption_bind, left]
        cases vs.mapM decode <;> rfl

theorem decodes_list {v : Term}
    (decodes : ∀ vs, v = .list vs → ∀ w ∈ vs, Decodes read depth w (decode w)) :
    Decodes (readList read) (depth + 1) v (v.listOf? decode) := by
  by_cases list : ∃ vs, v = .list vs
  · obtain ⟨vs, rfl⟩ := list
    intro room gap text rest enough blank renders closed
    have spaced := dropSpace_renders blank renders rest
    obtain ⟨room, rfl⟩ := Nat.exists_eq_add_one.mpr (Nat.zero_lt_of_lt enough)
    cases renders with
    | @list _ text elements =>
      have steps : vs.length < (text ++ rest).length + 1 := by
        have := elements.length_lt
        rw [List.length_append]
        omega
      obtain ⟨gap', ends, left⟩ := readListFrom_renders (Nat.le_of_succ_le_succ enough)
        (decodes vs rfl) elements steps rest
      rw [List.cons_append] at spaced ⊢
      simp only [readList, spaced, openBracket]
      change (readListFrom (read room) _ true (text ++ rest) >>= fun x => endList x.2 >>= fun y =>
        .ok (x.1, y.2)).toOption = _
      rw [toOption_bind, left, Term.listOf?]
      cases vs.mapM decode with
      | none => rfl
      | some as =>
        simp only [Option.map_some, Option.bind_some, endList_spelled ends, bind, Except.bind]
        rfl
  · have none : v.listOf? decode = none := by
      cases v <;> first | rfl | exact absurd ⟨_, rfl⟩ list
    rw [none]
    refine decodes_none fun room s c rest shape spaced => ?_
    have other : c ≠ '[' := fun same => list (shape.list same)
    simp [readList, spaced, other, Except.toOption]

end Lists

section Records

variable {depth room fuel : Nat} {fields : List (Field σ)} {ms : List (String × Term)}
  {take : String → Term → σ → Option σ} {first : Bool} {text : List Char}

def Field.Takes (field : Field σ) (depth : Nat) (v : Term) (take : σ → Option σ) : Prop :=
  ∀ done, Decodes (fun room => field.read room done) depth v (take done)

theorem Field.takes_of {name : String} {get : σ → Option β} {put : σ → β → σ} {read : Typed β}
    {omissible : Bool} {v : Term} {result : Option β} (decodes : Decodes read depth v result) :
    (Field.of name get put read omissible).Takes depth v fun done => result.map (put done) := by
  intro done room gap text rest enough blank renders closed
  change (read room (gap ++ (text ++ rest)) >>= fun x => .ok (put done x.1, x.2)).toOption = _
  rw [toOption_bind, decodes room gap text rest enough blank renders closed]
  cases result <;> rfl

/-- What members make of the fields before them, if they make anything: a field may come only once,
and members that are no fields are left out. -/
inductive Gathers (fields : List (Field σ)) (depth : Nat) :
    σ → List (String × Term) → Option σ → Prop
  | done {before} : Gathers fields depth before [] (some before)
  | other {before key v ms result} : fields.find? (·.name == key) = none →
      Gathers fields depth before ms result → Gathers fields depth before ((key, v) :: ms) result
  | again {before key v ms field} : fields.find? (·.name == key) = some field →
      field.given before = true → Gathers fields depth before ((key, v) :: ms) none
  | refused {before key v ms field} : fields.find? (·.name == key) = some field →
      Decodes (fun room => field.read room before) depth v none →
      Gathers fields depth before ((key, v) :: ms) none
  | taken {before after key v ms field result} : fields.find? (·.name == key) = some field →
      field.given before = false →
      Decodes (fun room => field.read room before) depth v (some after) →
      Gathers fields depth after ms result → Gathers fields depth before ((key, v) :: ms) result

theorem Gathers.field {name : String} {get : σ → Option β} {put : σ → β → σ} {read : Typed β}
    {omissible : Bool} {v : Term} {b : β} {before : σ} {result : Option σ}
    (named : fields.find? (·.name == name) = some (.of name get put read omissible))
    (fresh : get before = none) (decodes : Decodes read depth v (some b))
    (others : Gathers fields depth (put before b) ms result) :
    Gathers fields depth before ((name, v) :: ms) result :=
  .taken named (by simp [Field.of, fresh]) (Field.takes_of decodes before) others

/-- Members one after the other: those that are fields are taken once, all others are left out. -/
def Record.gather (fields : List (Field σ)) (take : String → Term → σ → Option σ) :
    σ → List (String × Term) → Option σ
  | done, [] => some done
  | done, (key, v) :: ms =>
    match fields.find? (·.name == key) with
    | none => gather fields take done ms
    | some field =>
      if field.given done then none else (take key v done).bind fun done => gather fields take done ms

theorem Record.gather_field {key : String} {field : Field σ} {done : σ} (v : Term)
    (ms : List (String × Term)) (named : fields.find? (·.name == key) = some field)
    (fresh : field.given done = false) :
    gather fields take done ((key, v) :: ms) =
      (take key v done).bind fun done => gather fields take done ms := by
  simp only [gather, named, fresh, Bool.false_eq_true, if_false]

theorem Record.gather_of {name : String} {get : σ → Option β} {put : σ → β → σ} {read : Typed β}
    {omissible : Bool} {done : σ} (v : Term) (ms : List (String × Term))
    (named : fields.find? (·.name == name) = some (.of name get put read omissible))
    (fresh : get done = none) :
    gather fields take done ((name, v) :: ms) =
      (take name v done).bind fun done => gather fields take done ms :=
  gather_field v ms named (by simp [Field.of, fresh])

theorem Record.gather_other {key : String} {done : σ} (v : Term) (ms : List (String × Term))
    (unnamed : fields.find? (·.name == key) = none) :
    gather fields take done ((key, v) :: ms) = gather fields take done ms := by
  simp only [gather, unnamed]

theorem Record.gathers (takes : ∀ m ∈ ms, ∀ field, fields.find? (·.name == m.1) = some field →
    field.Takes depth m.2 (take m.1 m.2)) (done : σ) :
    Gathers fields depth done ms (gather fields take done ms) := by
  induction ms generalizing done with
  | nil => exact .done
  | cons m ms ih =>
    obtain ⟨key, v⟩ := m
    rw [List.forall_mem_cons] at takes
    cases named : fields.find? (·.name == key) with
    | none =>
      rw [gather_other v ms named]
      exact .other named (ih takes.2 done)
    | some field =>
      have here := takes.1 field named done
      cases fresh : field.given done with
      | true =>
        simp only [gather, named, fresh, if_true]
        exact .again named fresh
      | false =>
        rw [gather_field v ms named fresh]
        cases made : take key v done with
        | none =>
          rw [made] at here
          exact .refused named here
        | some after =>
          rw [made] at here
          exact .taken named fresh here (ih takes.2 after)

theorem RendersMembers.length_lt (renders : RendersMembers first ms text) :
    ms.length < text.length := by
  induction ms generalizing first text with
  | nil => exact renders.length_pos
  | cons m ms ih =>
    cases renders with
    | member _ _ _ _ renders others =>
      have := ih others
      simp only [List.length_append, List.length_cons]
      omega

theorem nextKey_quotes {key : String} {lead quoted : List Char} (leads : Lead first lead)
    (quotes : Quotes key quoted) (rest : List Char) :
    ∃ s, nextKey first (lead ++ (quoted ++ rest)) = .ok (some s) ∧ readQuoted s = .ok (key, rest) := by
  obtain ⟨inner, writes, rfl⟩ := quotes
  refine ⟨inner ++ '"' :: rest, ?_, readQuoted_writes writes rest⟩
  simp only [List.cons_append, List.append_assoc, List.nil_append, nextKey_spelled leads]

section Members

variable {before : σ} {key : String} {lead quoted space : List Char}

theorem readMembersFrom_field {field : Field σ} (leads : Lead first lead) (quotes : Quotes key quoted)
    (colon : Blank space) (named : fields.find? (·.name == key) = some field) (s : List Char) :
    (Record.readMembersFrom fields room (fuel + 1) first before
      (lead ++ (quoted ++ (space ++ ':' :: s)))).toOption =
      if field.given before then none
      else (field.read room before s).toOption.bind fun (after, rest) =>
        (Record.readMembersFrom fields room fuel false after rest).toOption := by
  obtain ⟨t, next, name⟩ := nextKey_quotes leads quotes (space ++ ':' :: s)
  simp only [Record.readMembersFrom, next, name, named, readColon_spelled colon, bind, Except.bind]
  split
  · rfl
  · cases field.read room before s <;> rfl

theorem readMembersFrom_other {v : Term} {gap rest : List Char} (leads : Lead first lead)
    (quotes : Quotes key quoted) (colon : Blank space) (blank : Blank gap) (renders : Renders v text)
    (closed : Closed rest) (unnamed : fields.find? (·.name == key) = none) :
    Record.readMembersFrom fields room (fuel + 1) first before
      (lead ++ (quoted ++ (space ++ ':' :: (gap ++ (text ++ rest))))) =
      Record.readMembersFrom fields room fuel false before rest := by
  obtain ⟨t, next, name⟩ := nextKey_quotes leads quotes (space ++ ':' :: (gap ++ (text ++ rest)))
  simp only [Record.readMembersFrom, next, name, unnamed, readColon_spelled colon,
    skipValue_renders renders blank closed, bind, Except.bind]

end Members

theorem readMembersFrom_renders (enough : depth ≤ room) {before : σ} {result : Option σ}
    (gathers : Gathers fields depth before ms result) (renders : RendersMembers first ms text)
    (steps : ms.length < fuel) (rest : List Char) :
    ∃ gap, Blank gap ∧
      (Record.readMembersFrom fields room fuel first before (text ++ rest)).toOption =
        result.map (·, gap ++ '\x7d' :: rest) := by
  induction gathers generalizing first text fuel with
  | done =>
    obtain ⟨fuel, rfl⟩ := Nat.exists_eq_add_one.mpr steps
    cases renders with
    | done blank =>
      refine ⟨_, blank, ?_⟩
      simp only [List.append_assoc, List.cons_append, List.nil_append, Record.readMembersFrom,
        nextKey_done blank, bind, Except.bind]
      rfl
  | other unnamed _ ih =>
    obtain ⟨fuel, rfl⟩ := Nat.exists_eq_add_one.mpr (Nat.zero_lt_of_lt steps)
    cases renders with
    | member leads quotes colon blank renders others =>
      obtain ⟨gap, ends, left⟩ := ih others (Nat.lt_of_succ_lt_succ steps)
      refine ⟨gap, ends, ?_⟩
      simp only [List.append_assoc, List.cons_append, left,
        readMembersFrom_other leads quotes colon blank renders (others.closed rest) unnamed]
  | again named given =>
    obtain ⟨fuel, rfl⟩ := Nat.exists_eq_add_one.mpr (Nat.zero_lt_of_lt steps)
    cases renders with
    | member leads quotes colon =>
      refine ⟨[], blank_nil, ?_⟩
      simp only [List.append_assoc, List.cons_append, readMembersFrom_field leads quotes colon named,
        given, if_true, Option.map_none]
  | refused named decodes =>
    obtain ⟨fuel, rfl⟩ := Nat.exists_eq_add_one.mpr (Nat.zero_lt_of_lt steps)
    cases renders with
    | member leads quotes colon blank renders others =>
      have now := decodes room _ _ _ enough blank renders (others.closed rest)
      refine ⟨[], blank_nil, ?_⟩
      simp only [List.append_assoc, List.cons_append, readMembersFrom_field leads quotes colon named,
        now, Option.map_none, Option.bind_none, ite_self]
  | taken named fresh decodes _ ih =>
    -- the only case in which the fields change, so only here `before` moves on
    obtain ⟨fuel, rfl⟩ := Nat.exists_eq_add_one.mpr (Nat.zero_lt_of_lt steps)
    cases renders with
    | member leads quotes colon blank renders others =>
      have now := decodes room _ _ _ enough blank renders (others.closed rest)
      obtain ⟨gap, ends, left⟩ := ih others (Nat.lt_of_succ_lt_succ steps)
      refine ⟨gap, ends, ?_⟩
      simp only [List.append_assoc, List.cons_append, readMembersFrom_field leads quotes colon named,
        fresh, Bool.false_eq_true, if_false, now, Option.map_some, Option.bind_some, left]

theorem Record.decodes (r : Record σ α) {result : Option σ}
    (gathers : Gathers r.fields depth r.start ms result) :
    Decodes r.read (depth + 1) (.object ms) (result.bind fun done => (r.finish done).toOption) := by
  intro room gap text rest enough blank renders closed
  have spaced := dropSpace_renders blank renders rest
  obtain ⟨room, rfl⟩ := Nat.exists_eq_add_one.mpr (Nat.zero_lt_of_lt enough)
  cases renders with
  | @object _ text members =>
    have steps : ms.length < (text ++ rest).length + 1 := by
      have := members.length_lt
      rw [List.length_append]
      omega
    obtain ⟨gap', ends, left⟩ := readMembersFrom_renders (Nat.le_of_succ_le_succ enough) gathers
      members steps rest
    rw [List.cons_append] at spaced ⊢
    simp only [Record.read, spaced, openBracket]
    change (Record.readMembersFrom r.fields room _ true r.start (text ++ rest) >>= fun x =>
      r.finishAt '\x7d' x.1 x.2 >>= fun a => endObject x.2 >>= fun y => .ok (a, y.2)).toOption = _
    rw [toOption_bind, left]
    cases result with
    | none => rfl
    | some after =>
      simp only [Option.map_some, Option.bind_some, finishAt, endObject_spelled ends, bind,
        Except.bind]
      cases r.finish after <;> rfl

theorem Record.decodes_of_finish (r : Record σ α) {after : σ} {a : α}
    (gathers : Gathers r.fields depth r.start ms (some after)) (finish : r.finish after = .ok a) :
    Decodes r.read (depth + 1) (.object ms) (some a) := by
  have read := r.decodes gathers
  rwa [Option.bind_some, finish] at read

theorem Record.decodes_gather (r : Record σ α) {build : σ → α}
    (finish : ∀ done, r.finish done = .ok (build done))
    (takes : ∀ m ∈ ms, ∀ field, r.fields.find? (·.name == m.1) = some field →
      field.Takes depth m.2 (take m.1 m.2)) :
    Decodes r.read (depth + 1) (.object ms) ((gather r.fields take r.start ms).map build) := by
  have read := r.decodes (gathers takes r.start)
  simp only [finish] at read
  rwa [Option.map_eq_bind]

theorem Record.decodes_none (r : Record σ α) {v : Term} (list : ∀ vs, v ≠ .list vs)
    (object : ∀ ms, v ≠ .object ms) : Decodes r.read depth v none := by
  refine Json.decodes_none fun room s c rest shape spaced => ?_
  have bracket : c ≠ '[' := fun same =>
    have ⟨vs, eq⟩ := shape.list same
    list vs eq
  have brace : c ≠ '\x7b' := fun same =>
    have ⟨ms, eq⟩ := shape.object same
    object ms eq
  simp [Record.read, spaced, bracket, brace, Except.toOption]

end Records

def RendersText (v : Term) (text : String) : Prop :=
  ∃ lead inner trail, Blank lead ∧ Renders v inner ∧ Blank trail ∧
    text = String.ofList (lead ++ (inner ++ trail))

theorem readText_renders {read : Typed α} {depth : Nat} {v : Term} {result : Option α}
    (decodes : Decodes read depth v result) (enough : depth ≤ maxDepth) {text : String}
    (renders : RendersText v text) : (readText (read maxDepth) text).toOption = result := by
  obtain ⟨lead, inner, trail, before, renders, behind, rfl⟩ := renders
  have now := decodes maxDepth lead inner trail enough before renders (closed_blank behind)
  rw [readText, String.toList_ofList]
  cases made : read maxDepth (lead ++ (inner ++ trail)) with
  | error f => cases result <;> simp_all [Except.toOption]
  | ok x =>
    cases result with
    | none => simp [made, Except.toOption] at now
    | some a =>
      obtain rfl : x = (a, trail) := by simpa [made, Except.toOption] using now
      simp [dropSpace_blank behind, Except.toOption]

end ServerKeeper.Json

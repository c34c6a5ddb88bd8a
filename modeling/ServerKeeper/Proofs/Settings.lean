import ServerKeeper.Proofs.Json.Decoding
import ServerKeeper.Settings.Load

namespace ServerKeeper

open Json (Term Record Decodes RendersText)

namespace Json

variable {α : Type}

def ifGiven (decode : Term → Option α) : Option Term → Option (Option α)
  | none => some none
  | some v => (decode v).map some

theorem lookup_of_notMem {key : String} {ms : List (String × Term)}
    (absent : key ∉ ms.map Prod.fst) : ms.lookup key = none := by
  rw [List.lookup_eq_none_iff]
  rintro m member
  have other : key ≠ m.1 := fun same => absent (same ▸ List.mem_map_of_mem member)
  simpa using other

theorem lookup_cons_other {name key : String} (other : key ≠ name) (v : Term)
    (ms : List (String × Term)) : ((key, v) :: ms).lookup name = ms.lookup name := by
  rw [List.lookup_cons, beq_false_of_ne other.symm]

end Json

namespace ServerSettings

def ofTerm? : Term → Option ServerSettings
  | .object ms =>
    (Json.ifGiven Term.boolean? (ms.lookup "manageGoplsBinary")).map fun flag => ⟨flag.getD true⟩
  | _ => none

def take (v : Term) (g : Given) : Option Given :=
  v.boolean?.map fun flag => { g with manageBinary := some flag }

theorem gather_eq {ms : List (String × Term)} (distinct : (ms.map Prod.fst).Nodup) (g : Given)
    (free : g.manageBinary ≠ none → "manageGoplsBinary" ∉ ms.map Prod.fst) :
    Record.gather record.fields (fun _ => take) g ms =
      (Json.ifGiven Term.boolean? (ms.lookup "manageGoplsBinary")).map fun flag =>
        ⟨flag <|> g.manageBinary⟩ := by
  induction ms generalizing g with
  | nil => rfl
  | cons m ms ih =>
    obtain ⟨key, v⟩ := m
    obtain ⟨fresh, apart⟩ := List.nodup_cons.mp distinct
    by_cases known : key = "manageGoplsBinary"
    · subst known
      have ungiven : g.manageBinary = none := by
        by_contra given
        exact free given (by simp)
      rw [Record.gather_of v ms rfl ungiven, List.lookup_cons_self, Json.ifGiven, take]
      cases v.boolean? with
      | none => rfl
      | some flag =>
        have rest := ih apart ⟨some flag⟩ fun _ => fresh
        rwa [Json.lookup_of_notMem fresh] at rest
    · have rest := ih apart g fun given member => free given (List.mem_cons_of_mem _ member)
      rw [Json.lookup_cons_other known, ← rest]
      exact Record.gather_other v ms (by simp [record, Json.Field.of, Ne.symm known])

theorem decodes {v : Term} (unlisted : ∀ vs, v ≠ .list vs)
    (distinct : ∀ ms, v = .object ms → (ms.map Prod.fst).Nodup) :
    Decodes record.read 1 v (ofTerm? v) := by
  by_cases object : ∃ ms, v = .object ms
  · obtain ⟨ms, rfl⟩ := object
    have takes : ∀ m ∈ ms, ∀ field, record.fields.find? (·.name == m.1) = some field →
        field.Takes 0 m.2 (take m.2) := by
      rintro ⟨key, v⟩ - field named
      obtain rfl := List.mem_singleton.mp (List.mem_of_find?_eq_some named)
      exact Json.Field.takes_of (Json.decodes_bool v)
    have read : Decodes record.read 1 (.object ms)
        ((Record.gather record.fields (fun _ => take) record.start ms).map fun g =>
          ⟨g.manageBinary.getD true⟩) :=
      record.decodes_gather (fun _ => rfl) takes
    rw [gather_eq (distinct ms rfl) record.start fun given => absurd rfl given] at read
    have same : ofTerm? (.object ms) =
        ((Json.ifGiven Term.boolean? (ms.lookup "manageGoplsBinary")).map fun flag =>
          (⟨flag <|> record.start.manageBinary⟩ : Given)).map
            fun g => ⟨g.manageBinary.getD true⟩ := by
      rw [ofTerm?, Option.map_map]
      congr 1
      funext flag
      cases flag <;> rfl
    rw [same]
    exact read
  · have none : ofTerm? v = none := by
      cases v <;> first | rfl | exact absurd ⟨_, rfl⟩ object
    rw [none]
    exact record.decodes_none unlisted fun ms same => object ⟨ms, same⟩

end ServerSettings

namespace Settings

def commandOf? (v : Term) : Option (Option (List String)) :=
  v.orNull (Term.listOf? Term.string?)

def take (key : String) (v : Term) (g : Given) : Option Given :=
  if key = "command" then (commandOf? v).map fun words => { g with command := some words }
  else (ServerSettings.ofTerm? v).map fun block => { g with server := some block }

theorem gather_eq {ms : List (String × Term)} (distinct : (ms.map Prod.fst).Nodup) (g : Given)
    (command : g.command ≠ none → "command" ∉ ms.map Prod.fst)
    (server : g.server ≠ none → "settings" ∉ ms.map Prod.fst) :
    Record.gather record.fields take g ms =
      (Json.ifGiven commandOf? (ms.lookup "command")).bind fun words =>
        (Json.ifGiven ServerSettings.ofTerm? (ms.lookup "settings")).map fun block =>
          ⟨words <|> g.command, block <|> g.server⟩ := by
  induction ms generalizing g with
  | nil => rfl
  | cons m ms ih =>
    obtain ⟨key, v⟩ := m
    obtain ⟨fresh, apart⟩ := List.nodup_cons.mp distinct
    have first : g.command ≠ none → "command" ∉ ms.map Prod.fst :=
      fun given member => command given (List.mem_cons_of_mem _ member)
    have second : g.server ≠ none → "settings" ∉ ms.map Prod.fst :=
      fun given member => server given (List.mem_cons_of_mem _ member)
    by_cases isCommand : key = "command"
    · subst isCommand
      have ungiven : g.command = none := by
        by_contra given
        exact command given (by simp)
      rw [Record.gather_of v ms rfl ungiven, List.lookup_cons_self,
        Json.lookup_cons_other (by decide), Json.ifGiven, take, if_pos rfl]
      cases commandOf? v with
      | none => rfl
      | some words =>
        have rest := ih apart ⟨some words, g.server⟩ (fun _ => fresh) second
        rwa [Json.lookup_of_notMem fresh] at rest
    by_cases isBlock : key = "settings"
    · subst isBlock
      have ungiven : g.server = none := by
        by_contra given
        exact server given (by simp)
      rw [Record.gather_of v ms rfl ungiven, List.lookup_cons_self,
        Json.lookup_cons_other isCommand, take, if_neg isCommand]
      cases read : ServerSettings.ofTerm? v with
      | none => cases Json.ifGiven commandOf? (ms.lookup "command") <;> simp [Json.ifGiven, read]
      | some block =>
        have rest := ih apart ⟨g.command, some block⟩ first fun _ => fresh
        rw [Json.lookup_of_notMem fresh] at rest
        refine rest.trans ?_
        cases Json.ifGiven commandOf? (ms.lookup "command") <;> simp [Json.ifGiven, *]
    · have rest := ih apart g first second
      rw [Json.lookup_cons_other isCommand, Json.lookup_cons_other isBlock, ← rest]
      exact Record.gather_other v ms
        (by simp [record, Json.Field.of, Ne.symm isCommand, Ne.symm isBlock])

/-- Objects whose names are distinct, at the top and in the block of the server, and whose block is
not given as a list. -/
structure Regular (ms : List (String × Term)) : Prop where
  distinct : (ms.map Prod.fst).Nodup
  unlisted : ∀ vs, ("settings", .list vs) ∉ ms
  block : ∀ inner, ("settings", .object inner) ∈ ms → (inner.map Prod.fst).Nodup

def ofMembers? (ms : List (String × Term)) : Option Settings :=
  (Json.ifGiven commandOf? (ms.lookup "command")).bind fun words =>
    (Json.ifGiven ServerSettings.ofTerm? (ms.lookup "settings")).map fun block =>
      ⟨words.getD none, block.getD .default⟩

theorem decodes {ms : List (String × Term)} (regular : Regular ms) :
    Decodes record.read 2 (.object ms) (ofMembers? ms) := by
  have takes : ∀ m ∈ ms, ∀ field, record.fields.find? (·.name == m.1) = some field →
      field.Takes 1 m.2 (take m.1 m.2) := by
    rintro ⟨key, v⟩ member field named
    have name := List.find?_some named
    have known : field ∈ record.fields := List.mem_of_find?_eq_some named
    simp only [record, List.mem_cons, List.not_mem_nil, or_false] at known
    rcases known with rfl | rfl
    · obtain rfl : "command" = key := by simpa [Json.Field.of] using name
      exact Json.Field.takes_of
        (Json.decodes_orNull fun _ => Json.decodes_list fun _ _ w _ => Json.decodes_string w)
    · obtain rfl : "settings" = key := by simpa [Json.Field.of] using name
      have block := ServerSettings.decodes (v := v)
        (fun vs same => regular.unlisted vs (same ▸ member))
        (fun inner same => regular.block inner (same ▸ member))
      exact Json.Field.takes_of block
  have read : Decodes record.read 2 (.object ms) ((Record.gather record.fields take record.start ms).map
      fun g => ⟨g.command.getD none, g.server.getD .default⟩) :=
    record.decodes_gather (fun _ => rfl) takes
  rw [gather_eq regular.distinct record.start (fun given => absurd rfl given)
    (fun given => absurd rfl given)] at read
  have same : ofMembers? ms = Option.map (fun g => ⟨g.command.getD none, g.server.getD .default⟩)
      ((Json.ifGiven commandOf? (ms.lookup "command")).bind fun words =>
        (Json.ifGiven ServerSettings.ofTerm? (ms.lookup "settings")).map fun block =>
          (⟨words <|> record.start.command, block <|> record.start.server⟩ : Given)) := by
    rw [ofMembers?]
    cases Json.ifGiven commandOf? (ms.lookup "command") with
    | none => rfl
    | some words =>
      cases Json.ifGiven ServerSettings.ofTerm? (ms.lookup "settings") with
      | none => rfl
      | some block => cases words <;> cases block <;> rfl
  rw [same]
  exact read

theorem fromJson?_renders {ms : List (String × Term)} (regular : Regular ms) {text : String}
    (renders : RendersText (.object ms) text) : (fromJson? text).toOption = ofMembers? ms :=
  Json.readText_renders (decodes regular) (by decide) renders

/-- The command that a member stands for: absent or `null`, or a list of texts. -/
inductive CommandOf : Option Term → Option (List String) → Prop
  | absent : CommandOf none none
  | null : CommandOf (some .null) none
  | words (words : List String) : CommandOf (some (.list (words.map .string))) (some words)

/-- Whether the binary is managed by what a member tells: true where it is absent or does not say. -/
inductive ManagedBy : Option Term → Bool → Prop
  | absent : ManagedBy none true
  | silent {inner} : inner.lookup "manageGoplsBinary" = none → ManagedBy (some (.object inner)) true
  | told {inner b} : inner.lookup "manageGoplsBinary" = some (.boolean b) →
      ManagedBy (some (.object inner)) b

theorem ifGiven_commandOf?_iff {given : Option Term} {command : Option (List String)} :
    (Json.ifGiven commandOf? given).map (·.getD none) = some command ↔ CommandOf given command := by
  constructor
  · intro read
    cases given with
    | none =>
      obtain rfl : none = command := by simpa [Json.ifGiven] using read
      exact .absent
    | some v =>
      obtain rfl | proper := eq_or_ne v .null
      · obtain rfl : none = command := by
          simpa [Json.ifGiven, commandOf?, Term.orNull] using read
        exact .null
      · obtain ⟨words, list, rfl⟩ : ∃ words, v.listOf? Term.string? = some words ∧
            some words = command := by
          simpa [Json.ifGiven, commandOf?, Term.orNull_of_ne proper] using read
        rw [Json.listOf?_string?_iff] at list
        rw [list]
        exact .words words
  · rintro (_ | _ | words)
    · rfl
    · rfl
    · have list := Json.listOf?_string?_iff.mpr (Eq.refl (Term.list (words.map .string)))
      simp [Json.ifGiven, commandOf?, Term.orNull_of_ne, list]

theorem ofTerm?_eq_some_iff {v : Term} {server : ServerSettings} :
    ServerSettings.ofTerm? v = some server ↔ ManagedBy (some v) server.manageBinary := by
  obtain ⟨managed⟩ := server
  constructor
  · intro read
    cases v with
    | object inner =>
      cases given : inner.lookup "manageGoplsBinary" with
      | none =>
        obtain rfl : true = managed := by
          simpa [ServerSettings.ofTerm?, given, Json.ifGiven] using read
        exact .silent given
      | some flag =>
        obtain ⟨b, isFlag, rfl⟩ : ∃ b, flag.boolean? = some b ∧ b = managed := by
          simpa [ServerSettings.ofTerm?, given, Json.ifGiven] using read
        cases flag with
        | boolean =>
          cases isFlag
          exact .told given
        | null | number | string | list | object => cases isFlag
    | null | boolean | number | string | list => cases read
  · intro tells
    cases tells with
    | silent given => simp [ServerSettings.ofTerm?, given, Json.ifGiven]
    | told given => simp [ServerSettings.ofTerm?, given, Json.ifGiven, Term.boolean?]

theorem ifGiven_ofTerm?_iff {given : Option Term} {server : ServerSettings} :
    (Json.ifGiven ServerSettings.ofTerm? given).map (·.getD .default) = some server ↔
      ManagedBy given server.manageBinary := by
  cases given with
  | some v => simp [Json.ifGiven, ← ofTerm?_eq_some_iff]
  | none =>
    obtain ⟨managed⟩ := server
    constructor
    · intro read
      obtain rfl : true = managed := by simpa [Json.ifGiven, ServerSettings.default] using read
      exact .absent
    · rintro ⟨⟩
      rfl

theorem ofMembers?_iff {ms : List (String × Term)} {s : Settings} :
    ofMembers? ms = some s ↔ CommandOf (ms.lookup "command") s.command ∧
      ManagedBy (ms.lookup "settings") s.server.manageBinary := by
  rw [← ifGiven_commandOf?_iff, ← ifGiven_ofTerm?_iff, ofMembers?]
  obtain ⟨command, server⟩ := s
  cases Json.ifGiven commandOf? (ms.lookup "command") <;>
    cases Json.ifGiven ServerSettings.ofTerm? (ms.lookup "settings") <;> simp

inductive SameBlock : Option Term → Option Term → Prop
  | same (given : Option Term) : SameBlock given given
  | objects {inner inner'} :
      inner.lookup "manageGoplsBinary" = inner'.lookup "manageGoplsBinary" →
      SameBlock (some (.object inner)) (some (.object inner'))

theorem SameBlock.symm {given given' : Option Term} (same : SameBlock given given') :
    SameBlock given' given := by
  cases same with
  | same => exact .same _
  | objects flags => exact .objects flags.symm

theorem ManagedBy.congr {given given' : Option Term} {managed : Bool} (tells : ManagedBy given managed)
    (same : SameBlock given given') : ManagedBy given' managed := by
  cases same with
  | same => exact tells
  | objects flags =>
    cases tells with
    | silent none => exact .silent (flags ▸ none)
    | told some => exact .told (flags ▸ some)

/-- Only the command and what the block tells of the binary matter: an object is read where these are
well formed, however it is written, and two objects that agree in them stand for the same settings,
or neither for any. -/
theorem parse_renders {ms : List (String × Term)} (regular : Regular ms) {text : String}
    (renders : RendersText (.object ms) text) (origin : String) :
    (∀ s, parse text origin = .ok s ↔ CommandOf (ms.lookup "command") s.command ∧
      ManagedBy (ms.lookup "settings") s.server.manageBinary) ∧
    ∀ (others : List (String × Term)) (other origin' : String), Regular others →
      RendersText (.object others) other → ms.lookup "command" = others.lookup "command" →
      SameBlock (ms.lookup "settings") (others.lookup "settings") →
      (parse other origin').toOption = (parse text origin).toOption := by
  have read (ms : List (String × Term)) (regular : Regular ms) (text : String)
      (renders : RendersText (.object ms) text) (origin : String) :
      (parse text origin).toOption = ofMembers? ms := by
    rw [← fromJson?_renders regular renders, parse]
    cases fromJson? text <;> rfl
  refine ⟨fun s => ?_, fun others other origin' regular' renders' command block => ?_⟩
  · rw [← ofMembers?_iff, ← read ms regular text renders origin]
    cases parse text origin <;> simp [Except.toOption]
  · rw [read ms regular text renders, read others regular' other renders']
    refine Option.ext fun s => ?_
    rw [ofMembers?_iff, ofMembers?_iff, command]
    exact and_congr_right fun _ => ⟨fun tells => tells.congr block.symm, fun tells => tells.congr block⟩

def mixed (others : List (String × Term)) : List (String × Term) :=
  others ++ [("settings", .object [("manageGoplsBinary", .boolean false)])]

theorem regular_mixed : Regular (mixed [("other", .list [.null])]) ∧ Regular (mixed []) := by
  constructor <;> constructor <;> simp [mixed]

theorem renders_block : Json.Renders (.object [("manageGoplsBinary", .boolean false)])
    "\x7b\"manageGoplsBinary\":false\x7d".toList :=
  .object (.member (.first Json.blank_nil) (Json.quotes_quote _) Json.blank_nil Json.blank_nil .no
    (.done Json.blank_nil))

theorem rendersText_mixed : RendersText (.object (mixed [("other", .list [.null])]))
    "\x7b \"other\": [null],\n\"settings\" :\x7b\"manageGoplsBinary\":false\x7d\x7d\n" := by
  have nil := Json.blank_nil
  have space := Json.blank_space
  have line : Json.Blank ['\n'] := Json.blank_newline 0
  have list : Json.Renders (.list [.null]) "[null]".toList :=
    .list (.element (.first nil) .null (.done nil))
  exact ⟨[], _, ['\n'], nil, .object (.member (.first space) (Json.quotes_quote _) nil space list
    (.member (.next nil line) (Json.quotes_quote _) space nil renders_block (.done nil))), line, rfl⟩

theorem rendersText_bare : RendersText (.object (mixed []))
    "\x7b\"settings\":\x7b\"manageGoplsBinary\":false\x7d\x7d" := by
  have nil := Json.blank_nil
  exact ⟨[], _, [], nil, .object (.member (.first nil) (Json.quotes_quote _) nil nil renders_block
    (.done nil)), nil, rfl⟩

theorem parse_mixed :
    parse "\x7b \"other\": [null],\n\"settings\" :\x7b\"manageGoplsBinary\":false\x7d\x7d\n" "here" =
        .ok ⟨none, ⟨false⟩⟩ ∧
      (parse "\x7b\"settings\":\x7b\"manageGoplsBinary\":false\x7d\x7d" "there").toOption =
        some ⟨none, ⟨false⟩⟩ := by
  have read := parse_renders regular_mixed.1 rendersText_mixed "here"
  have whole := (read.1 ⟨none, ⟨false⟩⟩).mpr ⟨.absent, .told rfl⟩
  have alike := read.2 (mixed []) _ "there" regular_mixed.2 rendersText_bare rfl (.same _)
  rw [whole] at alike
  exact ⟨whole, alike⟩

end Settings

end ServerKeeper

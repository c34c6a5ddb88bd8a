import ServerKeeper.CommandLine.Execution
import ServerKeeper.Proofs.Json.Spelling
import ServerKeeper.Wire.InstallError

namespace ServerKeeper

namespace Json

variable {α : Type}

structure Faithful (write : α → Value) (read : String → Except Error α) : Prop where
  spelled : ∀ a lead text trail, Blank lead → Spells (write a) text → Blank trail →
    read (String.ofList (lead ++ (text ++ trail))) = .ok a
  compact : ∀ a, read (compact (write a)) = .ok a
  pretty : ∀ a, read (pretty (write a)) = .ok a
  distinct : Function.Injective fun a => Json.compact (write a)
  stable : ∀ text a, read text = .ok a → read (Json.compact (write a)) = .ok a

theorem readText_spelled {read : Typed α} {depth : Nat} {a : α} {v : Value}
    (decodes : Decodes read depth v.term (some a)) (enough : depth ≤ maxDepth)
    {lead text trail : List Char} (blank : Blank lead) (spells : Spells v text)
    (ends : Blank trail) : readText (read maxDepth) (String.ofList (lead ++ (text ++ trail))) = .ok a := by
  have renders : RendersText v.term (String.ofList (lead ++ (text ++ trail))) :=
    ⟨lead, text, trail, blank, spells.renders, ends, rfl⟩
  exact toOption_eq_some_iff.mp (readText_renders decodes enough renders)

theorem faithful {write : α → Value} {read : Typed α} {depth : Nat}
    (decodes : ∀ a, Decodes read depth (write a).term (some a)) (enough : depth ≤ maxDepth)
    (whole : ∀ a, (write a).isWhole = true) : Faithful write (readText (read maxDepth)) := by
  have spelled a lead text trail (blank : Blank lead) (spells : Spells (write a) text)
      (ends : Blank trail) :
      readText (read maxDepth) (String.ofList (lead ++ (text ++ trail))) = .ok a :=
    readText_spelled (decodes a) enough blank spells ends
  have bare a text (spells : Spells (write a) text) :
      readText (read maxDepth) (String.ofList text) = .ok a := by
    simpa using spelled a [] text [] blank_nil spells blank_nil
  have line a : readText (read maxDepth) (compact (write a)) = .ok a :=
    bare a _ (spells_compact (write a) (whole a))
  refine ⟨spelled, line, fun a => bare a _ (spells_pretty 0 (write a) (whole a)), ?_, ?_⟩
  · intro a b same
    have alike : compact (write a) = compact (write b) := same
    have twice := line a
    rw [alike, line b] at twice
    exact (Except.ok.inj twice).symm
  · exact fun _ a _ => line a

theorem decodes_option {read : Typed α} {depth : Nat} (write : α → Value)
    (proper : ∀ a, (write a).term ≠ .null)
    (decodes : ∀ a, Decodes read depth (write a).term (some a)) (o : Option α) :
    Decodes (readOption read) depth (o.elim .null write).term (some o) := by
  cases o with
  | none =>
    have none : Decodes (readOption read) depth .null (Term.null.orNull fun _ => (none : Option α)) :=
      decodes_orNull fun proper => absurd rfl proper
    exact none
  | some a =>
    have read : Decodes (readOption read) depth (write a).term
        ((write a).term.orNull fun _ => some a) := decodes_orNull fun _ => decodes a
    rwa [Term.orNull_of_ne (proper a)] at read

theorem terms_strings (ws : List String) : Value.terms (ws.map .string) = ws.map .string := by
  induction ws with
  | nil => rfl
  | cons w ws ih => rw [List.map_cons, Value.terms, ih, List.map_cons, Value.term]

section Variants

variable {β ρ : Type} {title : String} {first : Slot α} {second : Slot β} {v w : Value} {a : α} {b : β}

theorem oneField_members {build : α → ρ} (decodes : first.decode v = .ok a) :
    oneField title first build (.members [(first.name, v)]) = .ok (build a) := by
  simp [oneField, gatherOne, decodes, Slot.require, bind, Except.bind]

theorem twoFields_members {build : α → β → ρ} (apart : second.name ≠ first.name)
    (decodes : first.decode v = .ok a) (others : second.decode w = .ok b) :
    twoFields title first second build (.members [(first.name, v), (second.name, w)]) =
      .ok (build a b) := by
  simp [twoFields, gatherTwo, decodes, others, apart, Slot.require, bind, Except.bind]

end Variants

end Json

open Json

namespace InstallError

theorem decode_exitCodeJson (name : String) (code : Option Int32) :
    (Slot.int32? name).decode (exitCodeJson code) = .ok code := by
  cases code with
  | none => rfl
  | some code =>
    have within : Int32.minValue.toInt ≤ code.toInt ∧ code.toInt ≤ Int32.maxValue.toInt :=
      ⟨code.minValue_le_toInt, code.toInt_le⟩
    simp only [Slot.int32?, exitCodeJson, if_pos within, Int32.ofInt_toInt]

theorem plain_exitCodeJson (code : Option Int32) : Plain (exitCodeJson code) := by
  cases code with
  | none => exact .null
  | some code =>
    have low := code.le_toInt
    have high := code.toInt_lt
    refine .integer ⟨?_, ?_⟩ <;> simp only [UInt64.size] <;> omega

theorem settled (e : InstallError) :
    ∃ variant, choice.variants.lookup e.kind = some variant ∧ variant (.members e.fieldsJson) = .ok e := by
  cases e with
  | toolchainNotFound | io => exact ⟨_, rfl, oneField_members rfl⟩
  | markerWriteFailed => exact ⟨_, rfl, twoFields_members (by decide) rfl rfl⟩
  | versionProbeFailed | installCommandFailed =>
    exact ⟨_, rfl, twoFields_members (by decide) rfl (decode_exitCodeJson ..)⟩

theorem plain_fieldsJson (e : InstallError) : ∀ m ∈ e.fieldsJson, m.1 ≠ choice.key ∧ Plain m.2 := by
  cases e <;>
    simp [fieldsJson, choice, Plain.string, plain_exitCodeJson]

theorem decodes_toJson (e : InstallError) : Decodes choice.read 1 e.toJson.term (some e) := by
  obtain ⟨variant, known, settles⟩ := settled e
  exact choice.decodes known settles (plain_fieldsJson e)

theorem isWhole_toJson (e : InstallError) : e.toJson.isWhole = true := by
  cases e with
  | versionProbeFailed _ code | installCommandFailed _ code => cases code <;> rfl
  | toolchainNotFound | markerWriteFailed | io => rfl

end InstallError

namespace LifecycleState

theorem decodes_toJson (s : LifecycleState) : Decodes choice.read 1 s.toJson.term (some s) := by
  cases s with
  | notChecked | needsInstall | upToDate =>
    exact choice.decodes rfl rfl (by simp)
  | error message =>
    exact choice.decodes rfl (oneField_members rfl) (by simp [choice, Slot.text, Plain.string])

theorem isWhole_toJson (s : LifecycleState) : s.toJson.isWhole = true := by
  cases s <;> rfl

end LifecycleState

namespace Release

theorem decodes_toJson (r : Release) : Decodes record.read 1 r.toJson.term (some r) := by
  have name : Decodes (readOption readString) 0 (r.name.elim .null .string : Value).term
      (some r.name) :=
    decodes_option .string (fun _ => nofun) (fun s => decodes_string (.string s)) r.name
  have written : r.toJson = .object [("tag_name", .string r.tag),
      ("name", r.name.elim .null .string)] := by
    unfold toJson
    cases r.name <;> rfl
  rw [written]
  exact record.decodes_of_finish
    (.field rfl rfl (decodes_string (.string r.tag)) (.field rfl rfl name .done)) rfl

theorem isWhole_toJson (r : Release) : r.toJson.isWhole = true := by
  unfold toJson
  cases r.name <;> rfl

end Release

namespace ServerSettings

theorem decodes_toJson (s : ServerSettings) : Decodes record.read 1 s.toJson.term (some s) :=
  record.decodes_of_finish (.field rfl rfl (decodes_bool (.boolean s.manageBinary)) .done) rfl

end ServerSettings

namespace Settings

theorem decodes_toJson (s : Settings) : Decodes record.read 2 s.toJson.term (some s) := by
  have words (ws : List String) :
      Decodes (readList readString) 1 (Value.list (ws.map .string)).term (some ws) := by
    have list := Json.listOf?_string?_iff.mpr (Eq.refl (Term.list (ws.map .string)))
    rw [Value.term, terms_strings, ← list]
    exact decodes_list fun _ _ w _ => decodes_string w
  have command : Decodes (readOption (readList readString)) 1
      (s.command.elim .null fun ws => .list (ws.map .string) : Value).term (some s.command) :=
    decodes_option (fun ws => .list (ws.map .string)) (fun _ => nofun) words s.command
  have written : s.toJson = .object
      [("command", s.command.elim .null fun ws => .list (ws.map .string)),
       ("settings", s.server.toJson)] := by
    unfold toJson
    cases s.command <;> rfl
  rw [written]
  exact record.decodes_of_finish
    (.field rfl rfl command (.field rfl rfl s.server.decodes_toJson .done)) rfl

theorem isWhole_toJson (s : Settings) : s.toJson.isWhole = true := by
  have words (ws : List String) : Value.areWhole (ws.map .string) = true := by
    induction ws with
    | nil => rfl
    | cons w ws ih => simp [Value.areWhole, Value.isWhole, ih]
  unfold toJson
  cases s.command with
  | none => rfl
  | some ws => simp [Value.isWhole, Value.membersWhole, words, ServerSettings.toJson]

end Settings

namespace Status

theorem decodes_toJson (s : Status) : Decodes record.read 1 s.toJson.term (some s) := by
  have texts (o : Option String) :
      Decodes (readOption readString) 0 (textOrNull o).term (some o) := by
    have written : textOrNull o = o.elim .null .string := by cases o <;> rfl
    rw [written]
    exact decodes_option .string (fun _ => nofun) (fun s => decodes_string (.string s)) o
  have flag : Decodes (readOption readBool) 0 (s.updateAvailable.elim .null .boolean : Value).term
      (some s.updateAvailable) :=
    decodes_option .boolean (fun _ => nofun) (fun b => decodes_bool (.boolean b)) s.updateAvailable
  have written : s.toJson = .object
      [("serverName", .string s.serverName), ("installed", .boolean s.installed),
       ("installedVersion", textOrNull s.installedVersion),
       ("desiredVersion", .string s.desiredVersion),
       ("latestVersion", textOrNull s.latestVersion),
       ("updateAvailable", s.updateAvailable.elim .null .boolean),
       ("binPath", .string s.binaryPath), ("managed", .boolean s.managed),
       ("needsInstall", .boolean s.needsInstall)] := by
    unfold toJson
    cases s.updateAvailable <;> rfl
  rw [written]
  refine record.decodes_of_finish
    (.field rfl rfl (decodes_string (.string s.serverName)) <|
      .field rfl rfl (decodes_bool (.boolean s.installed)) <|
      .field rfl rfl (texts s.installedVersion) <|
      .field rfl rfl (decodes_string (.string s.desiredVersion)) <|
      .field rfl rfl (texts s.latestVersion) <|
      .field rfl rfl flag <|
      .field rfl rfl (decodes_string (.string s.binaryPath)) <|
      .field rfl rfl (decodes_bool (.boolean s.managed)) <|
      .field rfl rfl (decodes_bool (.boolean s.needsInstall)) .done) rfl

theorem isWhole_toJson (s : Status) : s.toJson.isWhole = true := by
  unfold toJson textOrNull
  cases s.installedVersion <;> cases s.latestVersion <;> cases s.updateAvailable <;> rfl

end Status

namespace CommandLine

open Toolchain (Machine)

theorem fromJson_printed {α : Type} {write : α → Value} {read : String → Except Error α}
    (faithful : Faithful write read) {a : α} {text : List Char} (spells : Spells (write a) text) :
    read (Outcome.printed (String.ofList text)).stdout = .ok a := by
  have line := faithful.spelled a [] text ['\n'] blank_nil spells (blank_newline 0)
  have shown : (Outcome.printed (String.ofList text)).stdout = String.ofList (text ++ ['\n']) := by
    simp [Outcome.printed, String.ofList_append]
  rwa [shown]

end CommandLine

/-- Each type that travels as JSON comes back from what it is written as, and a status comes back
from what the command line prints. -/
theorem wire_faithful :
    Faithful InstallError.toJson InstallError.fromJson? ∧
      Faithful LifecycleState.toJson LifecycleState.fromJson? ∧
      Faithful Status.toJson Status.fromJson? ∧
      Faithful Settings.toJson Settings.fromJson? ∧
      Faithful ServerSettings.toJson ServerSettings.fromJson? ∧
      Faithful Release.toJson Release.fromJson? ∧
      ∀ m path machine listing, CommandLine.releases path machine.files = .ok listing →
        Status.fromJson? (CommandLine.status m path machine).stdout =
          .ok (m.status listing machine.files) := by
  have status : Faithful Status.toJson Status.fromJson? :=
    faithful Status.decodes_toJson (by decide) Status.isWhole_toJson
  refine ⟨faithful InstallError.decodes_toJson (by decide) InstallError.isWhole_toJson,
    faithful LifecycleState.decodes_toJson (by decide) LifecycleState.isWhole_toJson, status,
    faithful Settings.decodes_toJson (by decide) Settings.isWhole_toJson,
    faithful ServerSettings.decodes_toJson (by decide) fun _ => rfl,
    faithful Release.decodes_toJson (by decide) Release.isWhole_toJson, ?_⟩
  intro m path machine listing known
  simp only [CommandLine.status, known]
  exact CommandLine.fromJson_printed status (spells_pretty 0 _ (Status.isWhole_toJson _))

end ServerKeeper

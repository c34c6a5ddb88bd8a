import Mathlib.Tactic
import ServerKeeper.Proofs.Manager.Marker
import ServerKeeper.Proofs.Text

namespace ServerKeeper

namespace Template

open Text (FirstAt)

def placeholder : List Char := ['\x7b', 't', 'a', 'g', '\x7d']

/-- A text is cut from the left at a mark: each piece goes up to the first place where the mark stands,
and what is behind that mark is cut in turn. -/
inductive CutAt (mark : List Char) : List Char → List (List Char) → Prop
  | last {text} : ¬mark <:+: text → CutAt mark text [text]
  | next {text front rest pieces} : FirstAt (mark <+: ·) text front (mark ++ rest) →
      CutAt mark rest pieces → CutAt mark text (front :: pieces)

variable {mark text template front rest : List Char} {pieces : List (List Char)}

theorem CutAt.ne_nil (cut : CutAt mark text pieces) : pieces ≠ [] := by
  cases cut <;> exact List.cons_ne_nil _ _

theorem CutAt.intercalate (cut : CutAt mark text pieces) : mark.intercalate pieces = text := by
  induction cut with
  | last => exact List.intercalate_singleton
  | next first cut ih =>
    rw [List.intercalate_cons_of_ne_nil cut.ne_nil, ih, first.split, List.append_assoc]

theorem infix_of_firstAt (first : FirstAt (mark <+: ·) text front (mark ++ rest)) : mark <:+: text :=
  ⟨front, rest, by rw [List.append_assoc, first.split]⟩

theorem exists_firstAt_of_infix (marked : mark <:+: text) :
    ∃ front rest, FirstAt (mark <+: ·) text front (mark ++ rest) := by
  obtain ⟨before, behind, whole⟩ := marked
  obtain ⟨front, _, first⟩ :=
    Text.exists_firstAt (p := (mark <+: ·)) (whole.symm.trans (List.append_assoc _ _ _))
      (List.prefix_append mark behind)
  obtain ⟨rest, rfl⟩ := first.here
  exact ⟨front, rest, first⟩

theorem exists_cutAt (filled : mark ≠ []) (text : List Char) : ∃ pieces, CutAt mark text pieces := by
  induction length : text.length using Nat.strong_induction_on generalizing text with
  | _ n shorter =>
    subst length
    by_cases marked : mark <:+: text
    · obtain ⟨front, rest, first⟩ := exists_firstAt_of_infix marked
      have less : rest.length < text.length := by
        have positive := List.length_pos_of_ne_nil filled
        rw [first.split, List.length_append, List.length_append]
        omega
      obtain ⟨pieces, cut⟩ := shorter _ less rest rfl
      exact ⟨front :: pieces, .next first cut⟩
    · exact ⟨[text], .last marked⟩

theorem CutAt.unique {others : List (List Char)} (cut : CutAt mark text pieces)
    (other : CutAt mark text others) : pieces = others := by
  induction cut generalizing others with
  | last unmarked =>
    cases other with
    | last => rfl
    | next first => exact absurd (infix_of_firstAt first) unmarked
  | next first _ ih =>
    cases other with
    | last unmarked => exact absurd (infix_of_firstAt first) unmarked
    | next again later =>
      obtain ⟨rfl, same⟩ := first.unique again
      obtain rfl := List.append_cancel_left same
      rw [ih later]

theorem existsUnique_cutAt (template : List Char) : ∃! pieces, CutAt placeholder template pieces := by
  obtain ⟨pieces, cut⟩ := exists_cutAt (List.cons_ne_nil _ _) template
  exact ⟨pieces, cut, fun _ other => other.unique cut⟩

theorem fillTagChars_placeholder (text rest : List Char) :
    fillTagChars text (placeholder ++ rest) = text ++ fillTagChars text rest := rfl

theorem fillTagChars_cons {c : Char} (later : ¬placeholder <+: c :: rest) (text : List Char) :
    fillTagChars text (c :: rest) = c :: fillTagChars text rest := by
  rw [fillTagChars]
  rintro behind rfl rfl
  exact later (List.prefix_append placeholder behind)

theorem fillTagChars_of_unmarked (unmarked : ¬placeholder <:+: template) (text : List Char) :
    fillTagChars text template = template := by
  induction template with
  | nil => rfl
  | cons c template ih =>
    rw [List.infix_cons_iff, not_or] at unmarked
    rw [fillTagChars_cons unmarked.1, ih unmarked.2]

theorem fillTagChars_firstAt (first : FirstAt (placeholder <+: ·) template front rest)
    (text : List Char) : fillTagChars text template = front ++ fillTagChars text rest := by
  induction front generalizing template with
  | nil =>
    obtain rfl : template = rest := first.split
    rfl
  | cons c front ih =>
    obtain rfl : template = c :: (front ++ rest) := first.split
    -- the placeholder does not stand here, since the first one comes later
    have later : ¬placeholder <+: c :: (front ++ rest) := by
      intro here
      exact absurd (first.first [] _ rfl here) (Nat.not_succ_le_zero _)
    rw [fillTagChars_cons later, ih first.of_cons, List.cons_append]

/-- Filling puts a text between the pieces of a template, and reads neither the text again nor what it
makes with the pieces beside it. -/
theorem CutAt.fillTagChars (cut : CutAt placeholder template pieces) (text : List Char) :
    Template.fillTagChars text template = text.intercalate pieces := by
  induction cut with
  | last unmarked => rw [fillTagChars_of_unmarked unmarked, List.intercalate_singleton]
  | next first cut ih =>
    rw [fillTagChars_firstAt first, fillTagChars_placeholder, ih,
      List.intercalate_cons_of_ne_nil cut.ne_nil, List.append_assoc]

theorem length_intercalate (text : List Char) (filled : pieces ≠ []) :
    (text.intercalate pieces).length = pieces.flatten.length + (pieces.length - 1) * text.length := by
  induction pieces with
  | nil => exact absurd rfl filled
  | cons piece pieces ih =>
    cases pieces with
    | nil => simp
    | cons next pieces =>
      rw [List.intercalate_cons_cons, List.length_append, List.length_append,
        ih (List.cons_ne_nil _ _)]
      simp only [List.flatten_cons, List.length_append, List.length_cons, Nat.add_sub_cancel,
        Nat.succ_mul]
      omega

/-- Texts of different lengths make wholes of different lengths, and of texts of one length the first
stands in the same place in both wholes. -/
theorem intercalate_injective (piece next : List Char) (pieces : List (List Char)) :
    Function.Injective fun text : List Char => text.intercalate (piece :: next :: pieces) := by
  intro text other same
  have lengths := congrArg List.length same
  simp only [length_intercalate _ (List.cons_ne_nil _ _), Nat.add_left_cancel_iff] at lengths
  have length : text.length = other.length :=
    Nat.eq_of_mul_eq_mul_left (Nat.succ_pos pieces.length) lengths
  simp only [List.intercalate_cons_cons, List.append_assoc] at same
  exact (List.append_inj (List.append_cancel_left same) length).1

theorem CutAt.exists_two (cut : CutAt mark text pieces) (marked : mark <:+: text) :
    ∃ piece next others, pieces = piece :: next :: others := by
  cases cut with
  | last unmarked => exact absurd marked unmarked
  | next _ later =>
    obtain ⟨next, others, rfl⟩ := List.exists_cons_of_ne_nil later.ne_nil
    exact ⟨_, next, others, rfl⟩

theorem fillTag_injective {template : String} (marked : placeholder <:+: template.toList) :
    Function.Injective (fillTag template) := by
  intro text other same
  obtain ⟨pieces, cut, -⟩ := existsUnique_cutAt template.toList
  obtain ⟨piece, next, others, rfl⟩ := cut.exists_two marked
  have wholes := String.ofList_injective same
  rw [cut.fillTagChars, cut.fillTagChars] at wholes
  exact String.toList_injective (intercalate_injective piece next others wholes)

theorem fillTag_of_unmarked {template : String} (unmarked : ¬placeholder <:+: template.toList)
    (text : String) : fillTag template text = template := by
  rw [fillTag, fillTagChars_of_unmarked unmarked, String.ofList_toList]

end Template

open Template (CutAt placeholder)
open Toolchain (Machine Verb)

namespace Config

variable {c d : Config}

theorem toList_modulePath {pieces : List (List Char)}
    (cut : CutAt placeholder c.moduleTemplate.toList pieces) :
    c.modulePath.toList = c.desiredVersion.toList.intercalate pieces := by
  rw [modulePath, Template.fillTag, String.toList_ofList, cut.fillTagChars]

theorem modulePath_eq_iff (template : c.moduleTemplate = d.moduleTemplate)
    (marked : placeholder <:+: c.moduleTemplate.toList) :
    c.modulePath = d.modulePath ↔ c.desiredVersion = d.desiredVersion := by
  rw [modulePath, modulePath, ← template]
  exact (Template.fillTag_injective marked).eq_iff

theorem modulePath_of_unmarked (unmarked : ¬placeholder <:+: c.moduleTemplate.toList) :
    c.modulePath = c.moduleTemplate :=
  Template.fillTag_of_unmarked unmarked c.desiredVersion

end Config

namespace Manager

variable {m n : Manager} {s s' : Machine}

def LastBuilt (s : Machine) (module : String) : Prop :=
  ∃ (verb : Verb) (command : Toolchain.Command) (files : FileTree),
    s.calls.getLast? = some (.run command files) ∧ command.arguments = [verb.name, module]

theorem LastBuilt.unique {module other : String} (built : LastBuilt s module)
    (again : LastBuilt s other) : module = other := by
  obtain ⟨_, command, files, last, arguments⟩ := built
  obtain ⟨_, _, _, same, others⟩ := again
  obtain ⟨rfl, rfl⟩ := Toolchain.Call.run.inj (Option.some.inj (last.symm.trans same))
  exact (List.cons.inj (List.cons.inj (arguments.symm.trans others)).2).1

theorem lastBuilt_of_ok (ok : m.install.outcome s = (.ok (), s')) :
    LastBuilt s' m.config.modulePath := by
  obtain ⟨program, verb, s₁, s₂, s₃, s₄, -, -, -, builds, marks⟩ :=
    steps_ok_iff.mp ((outcome_iff_steps .begun s s' (.ok ())).mp ok)
  cases builds with
  | build invokes =>
    obtain ⟨⟨scratch, files⟩, calls⟩ := invokes.ran
    cases marks with
    | mark =>
      refine ⟨verb, m.command program [verb.name, m.config.modulePath] scratch, files, ?_, rfl⟩
      rw [calls, List.getLast?_concat]

theorem installedVersion?_congr (path : n.config.markerPath = m.config.markerPath)
    (files : FileTree) : n.installedVersion? files = m.installedVersion? files := by
  rw [installedVersion?, installedVersion?, path]

/-- The marker that an install leaves names the version of a configuration with the same template just
where the module that was built is the one of that configuration. -/
theorem named_iff_lastBuilt (template : n.config.moduleTemplate = m.config.moduleTemplate)
    (path : n.config.markerPath = m.config.markerPath)
    (marked : placeholder <:+: m.config.moduleTemplate.toList)
    (ok : m.install.outcome s = (.ok (), s')) :
    n.installedVersion? s'.files = some n.config.desiredVersion ↔
      LastBuilt s' n.config.modulePath := by
  have built := lastBuilt_of_ok ok
  have same := Config.modulePath_eq_iff template.symm marked
  rw [installedVersion?_congr path, installedVersion?_of_ok ok, Option.some.injEq, ← same]
  constructor
  · intro modules
    rwa [← modules]
  · exact built.unique

/-- A template has its version in all places that wait for one, and in a template with such places no
two versions make one module. So the marker of an install tells the modules of one template apart. -/
theorem modulePath_identifies :
    (∀ c : Config, (∃! pieces, CutAt placeholder c.moduleTemplate.toList pieces) ∧
      ∀ pieces, CutAt placeholder c.moduleTemplate.toList pieces →
        placeholder.intercalate pieces = c.moduleTemplate.toList ∧
          c.modulePath.toList = c.desiredVersion.toList.intercalate pieces) ∧
    (∀ c d : Config, c.moduleTemplate = d.moduleTemplate →
      placeholder <:+: c.moduleTemplate.toList →
        (c.modulePath = d.modulePath ↔ c.desiredVersion = d.desiredVersion)) ∧
    (∀ (m n : Manager) (s s' : Machine), n.config.moduleTemplate = m.config.moduleTemplate →
      n.config.markerPath = m.config.markerPath →
      placeholder <:+: m.config.moduleTemplate.toList →
      m.install.outcome s = (.ok (), s') →
        (n.installedVersion? s'.files = some n.config.desiredVersion ↔
          LastBuilt s' n.config.modulePath)) ∧
    ∀ c : Config, ¬placeholder <:+: c.moduleTemplate.toList → c.modulePath = c.moduleTemplate := by
  refine ⟨fun c => ⟨Template.existsUnique_cutAt _, fun pieces cut => ⟨cut.intercalate, ?_⟩⟩,
    fun c d template marked => ?_, fun m n s s' template path marked ok => ?_, fun c unmarked => ?_⟩
  · exact Config.toList_modulePath cut
  · exact Config.modulePath_eq_iff template marked
  · exact named_iff_lastBuilt template path marked ok
  · exact Config.modulePath_of_unmarked unmarked

def nestedTemplate : String := "\x7b\x7btag\x7dtag\x7d"

theorem cutAt_nestedTemplate :
    CutAt placeholder nestedTemplate.toList [['\x7b'], "tag\x7d".toList] :=
  have behind : placeholder <+: placeholder ++ "tag\x7d".toList := List.prefix_append _ _
  .next ((Text.firstAt_start behind).cons (by decide)) (.last (by decide))

def nested (version : String) : Config :=
  { Config.ofRoot "store" with moduleTemplate := nestedTemplate, desiredVersion := version }

def updating : Manager :=
  { rehearsed [binary] 0 with
    config := { (rehearsed [binary] 0).config with desiredVersion := "0.12.0" } }

theorem modulePath_identifies_rehearsed :
    (nested "").modulePath.toList = placeholder ∧
      (nested "").modulePath ≠ (nested "\x7btag\x7d").modulePath ∧
      (∃ s', (rehearsed [binary] 0).install.outcome ⟨rehearsedFiles [], []⟩ = (.ok (), s') ∧
        LastBuilt s' (rehearsed [binary] 0).config.modulePath ∧
        ¬LastBuilt s' updating.config.modulePath) ∧
      { nested "1" with moduleTemplate := "gopls" }.modulePath = "gopls" := by
  obtain ⟨fills, differ, built, unmarked⟩ := modulePath_identifies
  refine ⟨?_, ?_, ?_, unmarked { nested "1" with moduleTemplate := "gopls" } (by decide)⟩
  · exact ((fills (nested "")).2 _ cutAt_nestedTemplate).2
  · rw [Ne, differ (nested "") (nested "\x7btag\x7d") rfl (by decide)]
    decide
  · have ok : ((rehearsed [binary] 0).install.outcome ⟨rehearsedFiles [], []⟩).1.toBool = true := by
      decide +kernel
    have outcome := outcome_of_toBool ok
    have named := installedVersion?_of_ok outcome
    refine ⟨_, outcome, (built (rehearsed [binary] 0) _ _ _ rfl rfl (by decide) outcome).mp named, ?_⟩
    rw [← built (rehearsed [binary] 0) updating _ _ rfl rfl (by decide) outcome,
      installedVersion?_congr (n := updating) (m := rehearsed [binary] 0) rfl, named]
    decide

end Manager

end ServerKeeper

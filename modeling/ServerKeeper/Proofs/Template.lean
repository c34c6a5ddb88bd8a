import Mathlib.Data.List.Basic
import Mathlib.Tactic
import ServerKeeper.Config
import ServerKeeper.Proofs.Text.Pattern

namespace ServerKeeper.Template

open Text (Run Stops Pattern Match run?)

/-- What a reference needs of its name, and, where no brace closes it, of what stands behind. -/
structure Fits (name : List Char) (braced : Bool) (behind : List Char) : Prop where
  run : Run Text.isWord name
  whole : braced = false → Stops Text.isWord behind

def Begins (text : List Char) : Prop :=
  ∃ name braced behind, Fits name braced behind ∧
    text = (Piece.reference name braced).source ++ behind

def Plain (literal behind : List Char) : Prop :=
  ∀ front back, literal = front ++ '$' :: back → ¬Begins ('$' :: (back ++ behind))

/-- A text that is cut up: literal pieces, any of which may be empty, with references between them. -/
inductive Cut
  | last (literal : List Char)
  | reference (literal name : List Char) (braced : Bool) (behind : Cut)

namespace Cut

def source : Cut → List Char
  | last literal => literal
  | reference literal name braced behind =>
    literal ++ ((Piece.reference name braced).source ++ behind.source)

/-- The pieces put together again, with its text in place of each reference whose name has one. -/
def filled (value? : List Char → Option (List Char)) : Cut → List Char
  | last literal => literal
  | reference literal name braced behind =>
    literal ++ ((value? name).getD (Piece.reference name braced).source ++ behind.filled value?)

def Proper : Cut → Prop
  | last literal => Plain literal []
  | reference literal name braced behind =>
    Plain literal ((Piece.reference name braced).source ++ behind.source) ∧
      Fits name braced behind.source ∧ behind.Proper

def pieces : Cut → List Piece
  | last literal => literal.map Piece.literal
  | reference literal name braced behind =>
    literal.map Piece.literal ++ Piece.reference name braced :: behind.pieces

end Cut

theorem Piece.length_source_pos (piece : Piece) : 0 < piece.source.length := by
  cases piece with
  | literal c => exact Nat.one_pos
  | reference name braced => cases braced <;> exact Nat.succ_pos _

theorem closing_stops (rest : List Char) : Stops Text.isWord ('\x7d' :: rest) :=
  Text.stops_cons (by decide) rest

theorem fits_of_reference? {text behind : List Char} {piece : Piece}
    (found : reference? text = some (piece, behind)) :
    ∃ name braced, piece = .reference name braced ∧ Fits name braced behind ∧
      text = piece.source ++ behind := by
  unfold reference? at found
  split at found
  · rename_i rest
    split at found
    · cases found
    · rename_i filled
      have run := Text.run_takeWhile (p := Text.isWord) (by simpa using filled)
      split at found
      · rename_i closed
        obtain ⟨rfl, rfl⟩ := Prod.mk.inj (Option.some.inj found)
        have whole := List.takeWhile_append_dropWhile (p := Text.isWord) (l := rest)
        rw [closed] at whole
        exact ⟨_, true, rfl, ⟨run, nofun⟩, by simp [Piece.source, whole]⟩
      · cases found
  · rename_i rest _
    split at found
    · cases found
    · rename_i filled
      have run := Text.run_takeWhile (p := Text.isWord) (by simpa using filled)
      have stops := Text.stops_dropWhile Text.isWord rest
      obtain ⟨rfl, rfl⟩ := Prod.mk.inj (Option.some.inj found)
      exact ⟨_, false, rfl, ⟨run, fun _ => stops⟩, by simp [Piece.source]⟩
  · cases found

theorem Fits.reference? {name behind : List Char} {braced : Bool} (fits : Fits name braced behind) :
    Template.reference? ((Piece.reference name braced).source ++ behind) =
      some (.reference name braced, behind) := by
  have run := fits.run
  cases braced with
  | true =>
    have closed := closing_stops behind
    simp [Template.reference?, Piece.source, Text.takeWhile_run run.inside closed,
      Text.dropWhile_run run.inside closed, run.filled]
  | false =>
    have stops := fits.whole rfl
    have taken := Text.takeWhile_run run.inside stops
    have dropped := Text.dropWhile_run run.inside stops
    obtain ⟨c, name, rfl⟩ := List.exists_cons_of_ne_nil run.filled
    have letter := run.inside c List.mem_cons_self
    have noBrace : c ≠ '\x7b' := by
      rintro rfl
      exact absurd letter (by decide)
    rw [List.cons_append] at taken dropped
    simp [Template.reference?, Piece.source, noBrace, taken, dropped]

theorem reference?_eq_none_iff {text : List Char} : reference? text = none ↔ ¬Begins text := by
  rw [Option.eq_none_iff_forall_not_mem]
  constructor
  · rintro none ⟨name, braced, behind, fits, rfl⟩
    exact none _ fits.reference?
  · rintro plain ⟨piece, behind⟩ found
    obtain ⟨name, braced, rfl, fits, rfl⟩ := fits_of_reference? found
    exact plain ⟨name, braced, behind, fits, rfl⟩

/-- The reference that a match of the pattern stands for: the name is in the first group, or else in
the second one. -/
def ofMatch (m : Match) : Piece × List Char :=
  (.reference (((m.group? 1).or (m.group? 2)).getD []) (m.group? 1).isSome, m.rest)

theorem reference?_eq_matchAt? (text : List Char) :
    reference? text = (pattern.matchAt? text).map ofMatch := by
  rw [pattern, Pattern.matchAt?_either]
  unfold reference?
  split
  · rename_i rest
    -- a brace is no word character, so behind one the second alternative has nothing to offer
    rw [Pattern.matchAt?_char_seq, Pattern.matchAt?_char_seq,
      Pattern.matchAt?_group_many_seq (Pattern.declines_char (by decide)), run?,
      Pattern.matchAt?_char_seq, Pattern.matchAt?_group, Pattern.matchAt?_many,
      Text.run?_cons_of_not (by decide)]
    simp only [Option.map_none, Option.or_none]
    split
    · rfl
    · simp only [Option.bind_some]
      split
      · rename_i behind closed
        rw [closed]
        rfl
      · rename_i other
        rw [Pattern.matchAt?_char_of_ne other]
        rfl
  · rename_i rest other
    have noBrace : ∀ more, rest ≠ '\x7b' :: more := by
      rintro more rfl
      exact other more rfl
    rw [Pattern.matchAt?_char_seq, Pattern.matchAt?_char_seq_of_ne noBrace, Pattern.matchAt?_char_seq,
      Pattern.matchAt?_group, Pattern.matchAt?_many, run?]
    split <;> rfl
  · rename_i _ other
    rw [Pattern.matchAt?_char_seq_of_ne other, Pattern.matchAt?_char_seq_of_ne other]
    rfl

theorem pieces_reference {name behind : List Char} {braced : Bool} (fits : Fits name braced behind) :
    pieces ((Piece.reference name braced).source ++ behind) =
      .reference name braced :: pieces behind := by
  have found := fits.reference?
  rw [pieces]
  split
  · rename_i again
    obtain ⟨rfl, rfl⟩ := Prod.mk.inj (Option.some.inj (found.symm.trans again))
    rfl
  · rename_i none
    exact absurd (found.symm.trans none) (Option.some_ne_none _)

theorem pieces_nil : pieces [] = [] := by
  rw [pieces]
  rfl

theorem pieces_cons {c : Char} {text : List Char} (plain : ¬Begins (c :: text)) :
    pieces (c :: text) = .literal c :: pieces text := by
  have none := reference?_eq_none_iff.mpr plain
  rw [pieces]
  split
  · rename_i found
    exact absurd (found.symm.trans none) (Option.some_ne_none _)
  · rfl

theorem Begins.head {c : Char} {text : List Char} (begins : Begins (c :: text)) : c = '$' := by
  obtain ⟨name, braced, behind, -, same⟩ := begins
  cases braced <;> exact (List.cons.inj same).1

theorem plain_nil (behind : List Char) : Plain [] behind := by
  intro front back same
  simp at same

theorem plain_cons_iff {c : Char} {literal behind : List Char} :
    Plain (c :: literal) behind ↔ ¬Begins (c :: (literal ++ behind)) ∧ Plain literal behind := by
  constructor
  · intro plain
    refine ⟨fun begins => ?_, fun front back same => ?_⟩
    · obtain rfl := begins.head
      exact plain [] literal rfl begins
    · exact plain (c :: front) back (by rw [same, List.cons_append])
  · rintro ⟨here, later⟩ front back same
    cases front with
    | nil =>
      obtain ⟨rfl, rfl⟩ := List.cons.inj same
      exact here
    | cons b front => exact later front back (List.cons.inj same).2

theorem pieces_plain {literal behind : List Char} (plain : Plain literal behind) :
    pieces (literal ++ behind) = literal.map Piece.literal ++ pieces behind := by
  induction literal with
  | nil => rfl
  | cons c literal ih =>
    obtain ⟨here, later⟩ := plain_cons_iff.mp plain
    rw [List.cons_append, pieces_cons here, ih later, List.map_cons, List.cons_append]

/-- A text is read from the left: a reference is passed where one begins, and a character where none
does. -/
@[elab_as_elim]
theorem reading_induction {motive : List Char → Prop} (text : List Char) (nil : motive [])
    (reference : ∀ name braced behind, Fits name braced behind → motive behind →
      motive ((Piece.reference name braced).source ++ behind))
    (literal : ∀ c text, ¬Begins (c :: text) → motive text → motive (c :: text)) : motive text := by
  induction length : text.length using Nat.strong_induction_on generalizing text with
  | _ n shorter =>
    subst length
    by_cases begins : Begins text
    · obtain ⟨name, braced, behind, fits, rfl⟩ := begins
      have filled := (Piece.reference name braced).length_source_pos
      have less : behind.length < ((Piece.reference name braced).source ++ behind).length := by
        rw [List.length_append]
        omega
      exact reference name braced behind fits (shorter _ less behind rfl)
    · cases text with
      | nil => exact nil
      | cons c text => exact literal c text begins (shorter _ (Nat.lt_succ_self _) text rfl)

namespace Cut

theorem Proper.pieces_source {cut : Cut} (proper : cut.Proper) :
    Template.pieces cut.source = cut.pieces := by
  induction cut with
  | last literal =>
    have read := pieces_plain proper
    rwa [pieces_nil, List.append_nil, List.append_nil] at read
  | reference literal name braced behind ih =>
    obtain ⟨plain, fits, later⟩ := proper
    rw [source, pieces_plain plain, pieces_reference fits, ih later, Cut.pieces]

def cons (c : Char) : Cut → Cut
  | last literal => last (c :: literal)
  | reference literal name braced behind => reference (c :: literal) name braced behind

def ofPieces : List Piece → Cut
  | [] => last []
  | .literal c :: pieces => (ofPieces pieces).cons c
  | .reference name braced :: pieces => reference [] name braced (ofPieces pieces)

theorem ofPieces_pieces (cut : Cut) : ofPieces cut.pieces = cut := by
  induction cut with
  | last literal =>
    induction literal with
    | nil => rfl
    | cons c literal ih => exact congrArg (Cut.cons c) ih
  | reference literal name braced behind later =>
    induction literal with
    | nil => exact congrArg (reference [] name braced) later
    | cons c literal ih => exact congrArg (Cut.cons c) ih

theorem pieces_injective : Function.Injective Cut.pieces :=
  Function.LeftInverse.injective ofPieces_pieces

theorem source_cons (c : Char) (cut : Cut) : (cut.cons c).source = c :: cut.source := by
  cases cut <;> rfl

theorem Proper.cons {c : Char} {cut : Cut} (proper : cut.Proper) (plain : ¬Begins (c :: cut.source)) :
    (cut.cons c).Proper := by
  cases cut with
  | last literal =>
    rw [source] at plain
    exact plain_cons_iff.mpr ⟨by rwa [List.append_nil], proper⟩
  | reference literal name braced behind =>
    obtain ⟨first, rest⟩ := proper
    exact ⟨plain_cons_iff.mpr ⟨plain, first⟩, rest⟩

theorem exists_proper (text : List Char) : ∃ cut : Cut, cut.source = text ∧ cut.Proper := by
  induction text using reading_induction with
  | nil => exact ⟨last [], rfl, plain_nil []⟩
  | reference name braced behind fits ih =>
    obtain ⟨cut, rfl, proper⟩ := ih
    exact ⟨reference [] name braced cut, rfl, plain_nil _, fits, proper⟩
  | literal c text plain ih =>
    obtain ⟨cut, rfl, proper⟩ := ih
    exact ⟨cut.cons c, source_cons c cut, proper.cons plain⟩

theorem existsUnique_proper (text : List Char) : ∃! cut : Cut, cut.source = text ∧ cut.Proper := by
  obtain ⟨cut, rfl, proper⟩ := exists_proper text
  refine ⟨cut, ⟨rfl, proper⟩, fun other ⟨same, also⟩ => ?_⟩
  apply pieces_injective
  rw [← also.pieces_source, ← proper.pieces_source, same]

end Cut

def value? (bindings : List (String × String)) (name : List Char) : Option (List Char) :=
  (bindings.find? fun binding => binding.1.toList = name).map fun binding => binding.2.toList

theorem map_lookup? (bindings : List (String × String)) (name : List Char) :
    (lookup? bindings name).map String.toList = value? bindings name := by
  induction bindings with
  | nil => rfl
  | cons binding bindings ih =>
    obtain ⟨key, text⟩ := binding
    by_cases same : key.toList = name
    · subst same
      simp [lookup?, value?]
    · have other : (String.ofList name == key) = false := by
        rw [beq_eq_false_iff_ne]
        rintro rfl
        exact same String.toList_ofList
      simpa [lookup?, value?, List.lookup_cons, other, same] using ih

theorem expand_reference (bindings : List (String × String)) (name : List Char) (braced : Bool) :
    (Piece.reference name braced).expand bindings =
      (value? bindings name).getD (Piece.reference name braced).source := by
  rw [← map_lookup?, Piece.expand]
  cases lookup? bindings name <;> rfl

theorem flatMap_literals (bindings : List (String × String)) (literal : List Char) :
    (literal.map Piece.literal).flatMap (Piece.expand bindings) = literal := by
  induction literal with
  | nil => rfl
  | cons c literal ih => exact congrArg (c :: ·) ih

theorem Cut.flatMap_pieces (bindings : List (String × String)) (cut : Cut) :
    cut.pieces.flatMap (Piece.expand bindings) = cut.filled (value? bindings) := by
  induction cut with
  | last literal => exact flatMap_literals bindings literal
  | reference literal name braced behind ih =>
    rw [Cut.pieces, List.flatMap_append, flatMap_literals, List.flatMap_cons, ih, expand_reference,
      filled]

theorem Cut.Proper.toList_expand {cut : Cut} (proper : cut.Proper) {text : String}
    (same : cut.source = text.toList) (bindings : List (String × String)) :
    (expand bindings text).toList = cut.filled (value? bindings) := by
  rw [expand, String.toList_ofList, ← same, proper.pieces_source, Cut.flatMap_pieces]

def Apart (text : List Char) : Prop :=
  ∀ c, text.head? = some c → Text.isWord c = false ∧ c ≠ '\x7b' ∧ c ≠ '\x7d'

theorem Fits.append {name behind right : List Char} {braced : Bool} (fits : Fits name braced behind)
    (apart : Apart right) : Fits name braced (behind ++ right) := by
  refine ⟨fits.run, fun bare c head => ?_⟩
  cases behind with
  | nil => exact (apart c head).1
  | cons d behind => exact fits.whole bare c head

theorem Fits.of_append {name behind right : List Char} {braced : Bool}
    (fits : Fits name braced (behind ++ right)) : Fits name braced behind := by
  refine ⟨fits.run, fun bare c head => ?_⟩
  cases behind with
  | nil => cases head
  | cons d behind => exact fits.whole bare c head

theorem mem_tail_source {name : List Char} {braced : Bool} (run : Run Text.isWord name) {c : Char}
    (member : c ∈ (Piece.reference name braced).source.tail) :
    Text.isWord c = true ∨ c = '\x7b' ∨ c = '\x7d' := by
  cases braced with
  | true =>
    have cases : c = '\x7b' ∨ c ∈ name ∨ c = '\x7d' := by simpa [Piece.source] using member
    rcases cases with opening | inside | closing
    · exact .inr (.inl opening)
    · exact .inl (run.inside c inside)
    · exact .inr (.inr closing)
  | false => exact .inl (run.inside c member)

theorem Begins.of_append {c : Char} {left right : List Char} (begins : Begins (c :: left ++ right))
    (apart : Apart right) : Begins (c :: left) := by
  obtain ⟨name, braced, behind, fits, same⟩ := begins
  rcases List.append_eq_append_iff.mp same with ⟨more, whole, rfl⟩ | ⟨rest, whole, rfl⟩
  · cases more with
    | nil =>
      rw [List.append_nil] at whole
      have ended : Fits name braced [] := ⟨fits.run, fun _ => Text.stops_nil _⟩
      exact ⟨name, braced, [], ended, by rw [whole, List.append_nil]⟩
    | cons d more =>
      have member : d ∈ (Piece.reference name braced).source.tail := by simp [whole]
      obtain ⟨out, noOpening, noClosing⟩ := apart d rfl
      rcases mem_tail_source fits.run member with letter | opening | closing
      · exact absurd letter (by simp [out])
      · exact absurd opening noOpening
      · exact absurd closing noClosing
  · exact ⟨name, braced, rest, fits.of_append, whole⟩

theorem pieces_append (left : List Char) {right : List Char} (apart : Apart right) :
    pieces (left ++ right) = pieces left ++ pieces right := by
  induction left using reading_induction with
  | nil => rw [pieces_nil, List.nil_append, List.nil_append]
  | reference name braced behind fits ih =>
    rw [List.append_assoc, pieces_reference (fits.append apart), pieces_reference fits, ih,
      List.cons_append]
  | literal c left plain ih =>
    have later : ¬Begins (c :: (left ++ right)) := fun begins => plain (begins.of_append apart)
    rw [List.cons_append, pieces_cons later, pieces_cons plain, ih, List.cons_append]

theorem expand_append (bindings : List (String × String)) (left : String) {right : String}
    (apart : Apart right.toList) :
    expand bindings (left ++ right) = expand bindings left ++ expand bindings right := by
  rw [← String.toList_inj]
  simp only [expand, String.toList_append, String.toList_ofList, pieces_append _ apart,
    List.flatMap_append]

theorem value?_single (name text : String) :
    value? [(name, text)] = fun key => if key = name.toList then some text.toList else none := by
  funext key
  by_cases same : key = name.toList
  · simp [value?, same]
  · simp [value?, same, Ne.symm same]

def defaultCut : Cut :=
  .reference [] "storage_path".toList true (.last "/LSP-gopls/bin/gopls".toList)

theorem plain_of_notMem {literal behind : List Char} (free : '$' ∉ literal) :
    Plain literal behind := by
  rintro front back rfl
  exact absurd (by simp) free

theorem proper_defaultCut : defaultCut.Proper :=
  ⟨plain_nil _, ⟨by decide, nofun⟩, plain_of_notMem (by decide)⟩

theorem source_defaultCut : defaultCut.source = Config.defaultCommand.toList := by decide

theorem toList_binaryPath {c : Config} {cut : Cut}
    (same : cut.source = (c.command.getD Config.defaultCommand).toList) (proper : cut.Proper) :
    c.binaryPath.toList = cut.filled fun name =>
      if name = "storage_path".toList then some c.storageRoot.toList else none := by
  rw [Config.binaryPath, proper.toList_expand same, value?_single]

theorem binaryPath_of_unset {c : Config} (unset : c.command = none) :
    c.binaryPath = c.storageRoot ++ "/LSP-gopls/bin/gopls" := by
  have source : defaultCut.source = (c.command.getD Config.defaultCommand).toList := by
    rw [unset, Option.getD_none, source_defaultCut]
  rw [← String.toList_inj, toList_binaryPath source proper_defaultCut, String.toList_append,
    defaultCut, Cut.filled, Cut.filled, if_pos rfl, Option.getD_some, List.nil_append]

/-- There is one way to cut a text at all references in it, and expanding the text puts in place of each
the text of the first variable with its name. So texts are expanded part by part where no reference
goes on, and the place of the binary has the storage root in it as that is written. -/
theorem expand_exact :
    (∀ text : String, (∃! cut : Cut, cut.source = text.toList ∧ cut.Proper) ∧
      ∀ cut : Cut, cut.source = text.toList → cut.Proper → ∀ bindings : List (String × String),
        (expand bindings text).toList = cut.filled (value? bindings)) ∧
    (∀ (bindings : List (String × String)) (left right : String), Apart right.toList →
      expand bindings (left ++ right) = expand bindings left ++ expand bindings right) ∧
    ∀ c : Config,
      (∀ cut : Cut, cut.source = (c.command.getD Config.defaultCommand).toList → cut.Proper →
        c.binaryPath.toList = cut.filled fun name =>
          if name = "storage_path".toList then some c.storageRoot.toList else none) ∧
      (c.command = none → c.binaryPath = c.storageRoot ++ "/LSP-gopls/bin/gopls") := by
  refine ⟨fun text => ⟨Cut.existsUnique_proper _, fun cut same proper bindings => ?_⟩,
    fun bindings left right apart => ?_, fun c => ⟨fun cut same proper => ?_, fun unset => ?_⟩⟩
  · exact proper.toList_expand same bindings
  · exact expand_append bindings left apart
  · exact toList_binaryPath same proper
  · exact binaryPath_of_unset unset

/-- Neither a text that is put in nor a storage root that reads like a reference is read again. -/
theorem expand_exact_unread :
    (expand [("x", "1"), ("y", "$x")] "$\x7bx\x7d$y$\x7by").toList = "1$x$\x7by".toList ∧
      expand [("x", "1")] ("$x" ++ "-$x") = expand [("x", "1")] "$x" ++ expand [("x", "1")] "-$x" ∧
      (Config.ofRoot "/srv/$\x7bstorage_path\x7d$x").binaryPath =
        "/srv/$\x7bstorage_path\x7d$x/LSP-gopls/bin/gopls" := by
  have unclosed : Plain "$\x7by".toList [] := by
    refine plain_cons_iff.mpr ⟨reference?_eq_none_iff.mp (by decide), plain_of_notMem (by decide)⟩
  have proper : (Cut.reference [] ['x'] true
      (.reference [] ['y'] false (.last "$\x7by".toList))).Proper :=
    ⟨plain_nil _, ⟨by decide, nofun⟩, plain_nil _,
      ⟨by decide, fun _ => Text.stops_cons (by decide) _⟩, unclosed⟩
  have apart : Apart "-$x".toList := by
    rintro c head
    obtain rfl : '-' = c := Option.some.inj head
    decide
  refine ⟨?_, expand_exact.2.1 _ _ _ apart, (expand_exact.2.2 (Config.ofRoot _)).2 rfl⟩
  rw [(expand_exact.1 _).2 _ (by decide) proper]
  decide

end ServerKeeper.Template

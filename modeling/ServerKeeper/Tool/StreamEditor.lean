import ServerKeeper.Tool.StreamEditor.Running

namespace ServerKeeper.Tool.StreamEditor

open Job Host

inductive Piece
  | argument (text : String)
  | file (path text : String)

namespace Piece

def text : Piece → String
  | argument text => text
  | file _ text => text

end Piece

/-- How many characters of a text were read when so many of all pieces were, and the number and the
piece that they are in. -/
def placeIn : List Piece → Nat → Nat → Option (Nat × Piece × Nat)
  | [], _, _ => none
  | [p], position, number => some (number, p, min position p.text.length)
  | p :: rest, position, number =>
    let size := p.text.length
    let isArgument :=
      match p with
      | .argument _ => true
      | .file .. => false
    if position ≤ size then some (number, p, position)
    else placeIn rest (position - size - 1) (if isArgument then number + 1 else number)

def complaint (pieces : List Piece) (r : Refusal) : String :=
  match r.position with
  | none => r.text
  | some position =>
    match placeIn pieces position 1 with
    | some (_, .file path text, n) =>
      let line := ((text.toList.take n).filter (· = '\n')).length + 1
      "file " ++ path ++ " line " ++ toString line ++ ": " ++ r.text
    | some (number, .argument _, n) =>
      "-e expression #" ++ toString number ++ ", char " ++ toString n ++ ": " ++ r.text
    | none => r.text

def usage {α : Type} (status : Nat) : Job α := do
  tell ("Usage: " ++ (← get).name ++
    " [OPTION]... \x7bscript-only-if-no-other-script\x7d [input-file]...\n")
  throw status

def optionTable : OptionTable :=
  .ofTexts "bsnrzuEe:f:l:i::V:hs"
    ["binary b", "debug debug", "expression= e", "file= f", "follow-symlinks follow",
     "in-place? i", "line-length= l", "null-data z", "zero-terminated z", "quiet n", "silent n",
     "posix posix", "regexp-extended E", "sandbox sandbox", "separate s", "unbuffered u"] true 1

def withoutLastEnd (text : String) : String :=
  if text.endsWith "\n" then (text.dropEnd 1).toString else text

def piecesOf : List Chosen → Job (List Piece)
  | [] => return []
  | (key, value) :: rest => do
    let value := value.getD ""
    if key == "e" then return .argument value :: (← piecesOf rest)
    else if key == "f" then
      match ← readInput value with
      | .ok text => return .file value (withoutLastEnd text) :: (← piecesOf rest)
      | .error fault =>
        let action := match fault with
          | .isADirectory => "read error on " ++ value
          | _ => "couldn't open file " ++ value
        failWith 4 (action ++ ": " ++ fault.text)
    else piecesOf rest

def touchesFiles (c : Command) : Bool :=
  match c.action with
  | .readFile _ | .readLineOf _ | .writeAll _ | .writeLine _ | .execute _ => true
  | .substitute s => s.file.isSome || s.executes
  | _ => false

def sed : Utility where
  name := "sed"
  title := "sed (GNU sed) 4.9"
  operands := "[OPTION]... \x7bscript-only-if-no-other-script\x7d [input-file]..."
  work arguments := do
    let (found, operands) ←
      match optionTable.read arguments with
      | .ok found => pure found
      | .error text =>
        complainWith 1 text
        usage 1
    let has := Chosen.has found
    OptionTable.answerAbout found
    if has "h" then usage 1
    let given ← piecesOf found
    let (pieces, paths) ←
      match given, operands with
      | [], text :: paths => pure ([Piece.argument text], paths)
      | [], [] => usage 1
      | pieces, paths => pure (pieces, paths)
    let mark := if has "z" then '\x00' else '\n'
    let text := "\n".intercalate (pieces.map Piece.text)
    match readScript (has "E" || has "r") mark text with
    | .error (r, outputs) =>
      for path in outputs do
        if path != "/dev/stdout" && path != "/dev/stderr" then
          match ← ask (.openFile path .toWrite 0o666) with
          | .ok _ => pure ()
          | .error fault => failWith 4 ("couldn't open file " ++ path ++ ": " ++ fault.text)
      failWith (if r.position.isNone then 4 else 1) (complaint pieces r)
    | .ok script =>
      if has "sandbox" && script.commands.any touchesFiles then
        fail (complaint pieces ⟨"e/r/w commands disabled in sandbox mode", some 1⟩)
      let width ←
        match Chosen.value? found "l" with
        | none => pure 70
        | some text =>
          match natural? text with
          | some n => pure n
          | none => usage 1
      let inPlace := if has "i" then some ((Chosen.value? found "i").getD "") else none
      let setup : Setup :=
        { script
          isSilent := has "n" || script.isQuiet
          isSeparate := has "s" || has "i"
          isUnbuffered := has "u"
          inPlace
          mark
          width }
      let start : Work :=
        { space := ""
          isEnded := true
          held := ""
          isHeldEnded := true
          lineNumber := 0
          hasReplaced := false
          additions := []
          activities := script.activities
          lastUsed := none
          paths := if paths.isEmpty then ["-"] else paths
          path := "-"
          source := none
          startsAnew := false
          outputs := #[⟨1, false⟩, ⟨2, false⟩]
          main := 0
          replacement := none
          sources := [] }
      let _ ← Edit.whole setup start

end ServerKeeper.Tool.StreamEditor

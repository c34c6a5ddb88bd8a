import ServerKeeper.Host.Accounts
import ServerKeeper.Shell.Arithmetic
import ServerKeeper.Shell.Field
import ServerKeeper.Shell.Script
import ServerKeeper.Shell.Session

namespace ServerKeeper.Shell.Glob

open Action

def closes : Nat → List Char → Bool
  | 0, _ => false
  | fuel + 1, cs =>
    let cs :=
      match cs with
      | '\\' :: rest => rest
      | cs => cs
    match cs with
    | [] => false
    | _ :: ']' :: _ => true
    | _ :: rest => closes fuel rest

def isOpen : Nat → List Char → Bool
  | 0, _ | _, [] => false
  | _ + 1, '*' :: _ | _ + 1, '?' :: _ => true
  | fuel + 1, '[' :: rest =>
    let inside :=
      match rest with
      | '!' :: inside => inside
      | inside => inside
    closes (inside.length + 1) inside || isOpen fuel rest
  | fuel + 1, '\\' :: _ :: rest | fuel + 1, _ :: rest => isOpen fuel rest

def names : Nat → List Char → List Char → List (List Char)
  | 0, acc, _ | _, acc, [] => [acc.reverse]
  | fuel + 1, acc, '\\' :: '/' :: rest | fuel + 1, acc, '/' :: rest =>
    acc.reverse :: names fuel [] rest
  | fuel + 1, acc, '\\' :: c :: rest => names fuel (c :: '\\' :: acc) rest
  | fuel + 1, acc, c :: rest => names fuel (c :: acc) rest

def plain : List Char → List Char
  | '\\' :: c :: rest => c :: plain rest
  | c :: rest => c :: plain rest
  | [] => []

def search : List (List Char) → String → Action (List String)
  | [], _ => return []
  | name :: rest, above => do
    let fuel := name.length + 1
    if !isOpen fuel name then
      let path := above ++ String.ofList (plain name)
      if rest.isEmpty then
        match ← ask (.status path false) with
        | .ok _ => return [path]
        | .error _ => return []
      else search rest (path ++ "/")
    else
      match ← ask (.list (if above.isEmpty then "." else above)) with
      | .error _ => return []
      | .ok entries =>
        let pattern := Pattern.ofChars name
        let showsHidden := (plain name).head? = some '.'
        let isShown (entry : String) : Bool :=
          (showsHidden || !entry.startsWith ".") && Pattern.fits pattern entry.toList
        let found := ("." :: ".." :: entries).filter isShown
        if rest.isEmpty then return found.map (above ++ ·)
        else
          let mut all := []
          for entry in found do all := all ++ (← search rest (above ++ entry ++ "/"))
          return all

def expand (field : List Mark) : Action (List String) := do
  let word := String.ofList (field.map (·.1))
  let mayBeOpen := field.any fun (c, isQuoted) => !isQuoted && (c == '*' || c == '?' || c == '[')
  if !mayBeOpen || (← get).isOn "noglob" then return [word]
  else
    let cs := patternText field
    let parts := names (cs.length + 1) [] cs
    if parts.any fun name => isOpen (name.length + 1) name then
      let found ← search parts ""
      return if found.isEmpty then [word] else found.mergeSort (· ≤ ·)
    else return [word]

end ServerKeeper.Shell.Glob

namespace ServerKeeper.Shell

open Host

structure Use where
  splits : Bool
  colons : Bool
  isValue : Bool

namespace Use

def ofFields : Use := ⟨true, false, false⟩

def ofText : Use := ⟨false, false, false⟩

def ofAssignment : Use := ⟨false, true, false⟩

end Use

namespace Action

/-- The pieces of a text that starts with a tilde. `isWhole` says whether the word ends behind it.
-/
def tildePieces (s : Session) (u : Use) (isWhole : Bool) (text : String) : List Piece :=
  let split : Split := if u.isValue then .anywhere else .nowhere
  let plain : List Piece := [.ofText text false split]
  match text.toList with
  | '~' :: cs =>
    let name := cs.takeWhile fun c => c ≠ '/' && !(u.colons && c == ':')
    let rest := cs.drop name.length
    let home :=
      if rest.isEmpty && !isWhole then none
      else if name.isEmpty then s.value? "HOME"
      else (User.named? (String.ofList name)).map (·.home)
    match home with
    | some home => [⟨home, true, .nowhere, false⟩, .ofText (String.ofList rest) false split]
    | none => plain
  | _ => plain

def textPieces (s : Session) (u : Use) (tilde isWhole : Bool) (text : String) : List Piece :=
  let split : Split := if u.isValue then .anywhere else .nowhere
  if u.colons && text.contains ':' then
    let parts := text.splitOn ":"
    parts.zipIdx.flatMap fun (part, i) =>
      let isLast := i + 1 = parts.length
      let here :=
        if tilde || i ≠ 0 then tildePieces s u (isWhole || !isLast) part
        else [.ofText part false split]
      if isLast then here else here ++ [.ofText ":" false split]
  else if tilde then tildePieces s u isWhole text
  else [.ofText text false split]

def joint (s : Session) : String :=
  match s.value? "IFS" with
  | some separators => (separators.take 1).toString
  | none => " "

def parametersPiece (s : Session) (name : String) (u : Use) (isQuoted : Bool) : Option Piece :=
  if isQuoted && name == "@" && u.splits then
    if s.parameters.isEmpty then none
    else some ⟨"\x00".intercalate s.parameters, true, .atEnds, false⟩
  else if !isQuoted && u.splits then
    let between := if (s.value? "IFS").isSome then "\x00" else " "
    some (.ofValue (between.intercalate s.parameters) false)
  else some (.ofValue ((joint s).intercalate s.parameters) isQuoted)

def parameterValue? (s : Session) (name : String) : Option String :=
  match name with
  | "$" => some (toString s.self)
  | "?" => some (toString s.status)
  | "#" => some (toString s.parameters.length)
  | "!" => s.background.map toString
  | "-" => some s.letters
  | name =>
    if name.all Char.isDigit then
      match name.toNat? with
      | some 0 => some s.name
      | some n => s.parameters[n - 1]?
      | none => none
    else s.value? name

def calculate (text : String) : Action Int64 := do
  let s ← get
  let vs : Arithmetic.Variables :=
    { value := s.value?
      isReadOnly := fun name => (s.bindings.lookup name).any (·.isReadOnly) }
  let (result, assigned) := Arithmetic.evaluate vs text
  for (name, n) in assigned do assign name (toString n.toInt) false
  match result with
  | .ok n => return n
  | .error (.malformed why) =>
    fail ("arithmetic expression: " ++ why ++ ": \"" ++ text ++ "\"")
  | .error (.illegalNumber text) => fail ("Illegal number: " ++ text)
  | .error (.readOnly name) => fail (name ++ ": is read only")

def withoutLastLines (text : String) : String :=
  if text.endsWith "\n" then
    String.ofList ((text.toList.reverse.dropWhile (· == '\n')).reverse)
  else text

section

variable (evaluate : Evaluator)

def outputOf (body : Command) : Action String := do
  match body with
  | .nothing => return ""
  | body =>
    let (text, status) ← captured (conclude evaluate (evaluate .last body))
    modify fun s => { s with outputStatus := status }
    let hasNul := text.contains '\x00'
    let text := if hasNul then String.ofList (text.toList.filter (· ≠ '\x00')) else text
    return withoutLastLines text

mutual

def pieces (fuel : Nat) (u : Use) (tilde : Bool) (w : Word) : Action (List Piece) :=
  match fuel with
  | 0 => fail "Word too deep"
  | fuel + 1 =>
    match w with
    | [] => return []
    | .text text isQuoted :: rest => do
      let here ←
        if isQuoted then pure [Piece.ofText text true .nowhere]
        else do
          let isWhole := rest.isEmpty
          pure (textPieces (← get) u tilde isWhole text)
      return here ++ (← pieces fuel u false rest)
    | .parameter name t orEmpty word isQuoted :: rest => do
      let here ← parameterPieces fuel u name t orEmpty word isQuoted
      return here ++ (← pieces fuel u false rest)
    | .arithmetic expression isQuoted :: rest => do
      let text ← pieces fuel .ofText false expression
      let n ← calculate (joinedText text)
      return .ofValue (toString n.toInt) isQuoted :: (← pieces fuel u false rest)
    | .output body isQuoted :: rest => do
      let text ← outputOf evaluate body
      return .ofValue text isQuoted :: (← pieces fuel u false rest)

def parameterPieces (fuel : Nat) (u : Use) (name : String) (t : Treatment) (orEmpty : Bool)
    (word : Word) (isQuoted : Bool) : Action (List Piece) :=
  match fuel with
  | 0 => fail "Word too deep"
  | fuel + 1 => do
    let s ← get
    let isList := name == "@" || name == "*"
    let value :=
      if isList then some ((parametersPiece s name u isQuoted).elim "" (·.text))
      else parameterValue? s name
    let isAbsent := value.isNone || orEmpty && value = some ""
    let held (s : Session) : List Piece :=
      if isList then (parametersPiece s name u isQuoted).toList
      else [.ofValue ((parameterValue? s name).getD "") isQuoted]
    let insist : Action Unit := do
      if isAbsent && !isList && s.isOn "nounset" then fail (name ++ ": parameter not set")
    let cut (f : Pattern → List Char → List Char) : Action (List Piece) := do
      insist
      let marks :=
        (← pieces fuel { u with splits := false, isValue := false } true word).flatMap marksOf
      let pattern := Pattern.ofChars (patternText marks)
      let text := String.ofList (f pattern (value.getD "").toList)
      match held (← get) with
      | p :: _ => return [{ p with text }]
      | [] => return []
    match t with
    | .unknown => fail "Bad substitution"
    | .plain | .always =>
      insist
      return held s
    | .length =>
      insist
      return [.ofValue (toString (value.getD "").length) isQuoted]
    | .otherwise =>
      if isAbsent then pieces fuel { u with isValue := !isQuoted } true word
      else return held s
    | .instead =>
      if isAbsent then return []
      else pieces fuel { u with isValue := !isQuoted } true word
    | .assign =>
      if isAbsent then
        let text :=
          joinedText (← pieces fuel { u with splits := false, isValue := false } true word)
        assignChecked name text false
        return held (← get)
      else return held s
    | .insist =>
      if isAbsent then
        let text :=
          joinedText (← pieces fuel { u with splits := false, isValue := false } true word)
        let message :=
          if word.isEmpty then "parameter not set" ++ if orEmpty then " or null" else "" else text
        fail (name ++ ": " ++ message)
      else return held s
    | .cutStart longest => cut fun p cs => p.dropStart longest cs
    | .cutEnd longest => cut fun p cs => p.dropEnd longest cs

end

def expandText (u : Use) (w : Word) : Action String := do
  match w with
  | [.text text true] => return text
  | w => return joinedText (← pieces evaluate maxReading u true w)

def expandPattern (w : Word) : Action Pattern := do
  let ps ← pieces evaluate maxReading .ofText true w
  return Pattern.ofChars (patternText (ps.flatMap marksOf))

def separators (s : Session) : String := (s.value? "IFS").getD " \t\n"

def isPlain (text : String) : Bool :=
  !text.isEmpty && !text.any fun c => c == '*' || c == '?' || c == '[' || c == '~' || c == '\\'

def expandWord (w : Word) : Action (List String) := do
  let general : Action (List String) := do
    let ps ← pieces evaluate maxReading .ofFields true w
    let mut all := []
    for field in fieldsOf (separators (← get)) none ps do
      all := all ++ (← Glob.expand field)
    return all
  match w with
  | [.text text isQuoted] =>
    if isQuoted || isPlain text then return [text] else general
  | _ => general

def expandWords : List Word → Action (List String)
  | [] => return []
  | w :: ws => do
    let here ← expandWord evaluate w
    return here ++ (← expandWords ws)

end

end Action

end ServerKeeper.Shell

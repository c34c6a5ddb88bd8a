import ServerKeeper.Shell.Word

namespace ServerKeeper.Shell

open Reading

def reservedWords : List String :=
  ["!", "case", "do", "done", "elif", "else", "esac", "fi", "for", "if", "in", "then", "until",
    "while", "\x7b", "\x7d"]

namespace Token

def shown : Token → String
  | lineEnd => "newline"
  | endOfFile => "end of file"
  | symbol text | reserved text => "\"" ++ text ++ "\""
  | arrow _ => "redirection"
  | word .. => "word"

def endsList : Token → Bool
  | symbol text => text == ")" || text == ";;"
  | reserved text =>
    ["do", "done", "elif", "else", "esac", "fi", "then", "\x7d"].contains text
  | _ => false

def isSymbol (text : String) : Token → Bool
  | symbol s => s == text
  | _ => false

def isReserved (text : String) : Token → Bool
  | reserved s => s == text
  | _ => false

end Token

structure Outlook where
  skipsLines : Bool
  reserved : Bool
  aliases : Bool
  isDelimiter : Bool

namespace Outlook

def plain : Outlook := ⟨false, false, false, false⟩

def start : Outlook := ⟨false, true, true, false⟩

def onward : Outlook := ⟨true, true, true, false⟩

def pattern : Outlook := ⟨true, true, false, false⟩

def name : Outlook := ⟨false, false, true, false⟩

def delimiter : Outlook := ⟨false, false, false, true⟩

end Outlook

def passComment : Nat → Reading Unit
  | 0 => return
  | fuel + 1 => do
    match ← look with
    | none | some '\n' => return
    | some _ =>
      skip
      passComment fuel

def arrowSymbol (first : Char) : Reading String := do
  let onward := if first = '>' then ['>', '|', '&'] else ['<', '&', '>']
  match ← lookJoined with
  | some c =>
    if onward.contains c then
      skip
      let symbol := String.ofList [first, c]
      if symbol == "<<" then
        if ← accept '-' then return "<<-" else return symbol
      else return symbol
    else return String.singleton first
  | none => return String.singleton first

section

variable (commands : Bool → Reading Command)

def descriptorBefore (s : Stretch) : Option (Option Nat) :=
  if s.hasQuote then none
  else
    match s.parts with
    | [] => some none
    | [.text text false] =>
      match text.toList with
      | [c] => if c.isDigit then some (some (c.toNat - 48)) else none
      | _ => none
    | _ => none

def wordToken (purpose : Purpose) : Reading Token := do
  let s ← stretch commands purpose maxReading 0 Level.bare [] false
  match ← lookJoined, descriptorBefore s with
  | some c, some fd =>
    if c = '<' || c = '>' then
      skip
      let symbol ← arrowSymbol c
      return .arrow ⟨fd.getD (if c = '<' then 0 else 1), symbol⟩
    else return .word s.parts.reverse s.hasQuote
  | _, _ => return .word s.parts.reverse s.hasQuote

def freshToken (purpose : Purpose) : Nat → Reading Token
  | 0 => return .endOfFile
  | fuel + 1 => do
    let doubled (c : Char) : Reading Token := do
      skip
      if ← accept c then return .symbol (String.ofList [c, c])
      else return .symbol (String.singleton c)
    match ← lookJoined with
    | none => return .endOfFile
    | some c =>
      if c = ' ' || c = '\t' then
        skip
        freshToken purpose fuel
      else if c = '#' then
        passComment maxReading
        freshToken purpose fuel
      else if c = '\n' then
        skip
        nextLine
        return .lineEnd
      else if c = '&' || c = '|' || c = ';' then doubled c
      else if c = '(' || c = ')' then
        skip
        return .symbol (String.singleton c)
      else wordToken commands purpose

def nextToken (isDelimiter : Bool) : Reading Token := do
  match (← get).held with
  | some t =>
    modify fun r => { r with held := none }
    return t
  | none =>
    modify fun r => { r with nextMayBeAlias := false, spent := [] }
    freshToken commands (if isDelimiter then .delimiter else .command) maxReading

def document (a : Announced) : Reading Word := do
  let _ ← if a.isQuoted then look else lookJoined
  if ← endsHere a then return []
  else
    let level := if a.isQuoted then Level.single else Level.double
    let s ← stretch commands (.document a) maxReading 0 level [] false
    return s.parts.reverse

def readDocuments : Reading Unit := do
  let announced := (← get).announced
  modify fun r => { r with announced := [] }
  for a in announced do
    let w ← document commands a
    modify fun r => { r with documents := r.documents.setIfInBounds a.number w }

def passLines : Nat → Token → Reading Token
  | fuel + 1, .lineEnd => do
    readDocuments commands
    passLines fuel (← nextToken commands false)
  | _, t => return t

def putAlias (name value : String) : Reading Unit :=
  if value.isEmpty then return
  else
    modify fun r => { r with
      interrupted := ⟨name, value.endsWith " " || value.endsWith "\t", r.rest⟩ :: r.interrupted
      rest := value.toList }

def tokenFrom (o : Outlook) : Nat → Bool → Reading Token
  | 0, _ => return .endOfFile
  | fuel + 1, aliases => do
    let t ← nextToken commands o.isDelimiter
    let t ← if o.skipsLines then passLines commands maxReading t else pure t
    match t with
    | .word w false =>
      match Part.bareText? w with
      | some text =>
        let r ← get
        let aliases := aliases || r.nextMayBeAlias
        if o.reserved && reservedWords.contains text then return .reserved text
        else if aliases then
          match r.aliases.lookup text with
          | some value =>
            if r.spent.contains text || r.interrupted.any (·.name == text) then return t
            else
              putAlias text value
              tokenFrom o fuel aliases
          | none => return t
        else return t
      | none => return t
    | t => return t

def token (o : Outlook) : Reading Token := tokenFrom commands o maxReading o.aliases

end

end ServerKeeper.Shell

import ServerKeeper.Tool.Job

namespace ServerKeeper.Tool

inductive Arity
  | never
  | always
  | perhaps
  deriving DecidableEq

structure NamedOption where
  name : String
  arity : Arity
  key : String

structure OptionTable where
  /-- The letters; a colon follows one that has a value, two where it may have one. -/
  letters : String
  named : List NamedOption
  mixes : Bool
  misuse : Nat

abbrev Chosen := String × Option String

namespace OptionTable

/-- Options with the names of some tools: a name, and `=` or `?` behind it if there is or may be a
value; and the key behind a blank, unless it is the name. -/
def ofTexts (letters : String) (texts : List String) (mixes : Bool) (misuse : Nat) : OptionTable :=
  let named (text : String) : NamedOption :=
    let (name, key) :=
      match text.splitOn " " with
      | [name, key] => (name, key)
      | _ => (text, "")
    let (name, arity) :=
      if name.endsWith "=" then ((name.dropEnd 1).toString, Arity.always)
      else if name.endsWith "?" then ((name.dropEnd 1).toString, Arity.perhaps)
      else (name, Arity.never)
    ⟨name, arity, if key.isEmpty then name else key⟩
  ⟨letters, texts.map named ++ [⟨"help", .never, "help"⟩, ⟨"version", .never, "version"⟩], mixes,
    misuse⟩

def letter? (t : OptionTable) (c : Char) : Option Arity :=
  let rec go : List Char → Option Arity
    | [] => none
    | d :: ':' :: ':' :: rest => if c = d then some .perhaps else go rest
    | d :: ':' :: rest => if c = d then some .always else go rest
    | d :: rest => if c = d then some .never else go rest
  if c = ':' then none else go t.letters.toList

def lookUp (t : OptionTable) (name shown : String) : Except String NamedOption :=
  match t.named.find? (·.name == name) with
  | some o => .ok o
  | none =>
    match t.named.filter (·.name.startsWith name) with
    | [] => .error ("unrecognized option '" ++ shown ++ "'")
    | o :: others =>
      if others.all fun p => p.key == o.key && p.arity = o.arity then .ok o
      else
        let names := (o :: others).map fun p => " '--" ++ p.name ++ "'"
        .error ("option '" ++ shown ++ "' is ambiguous; possibilities:" ++ String.join names)

/-- The letters of one argument. Gives what was found, and whether a value is wanted still. -/
def letters? (t : OptionTable) : List Char → List Chosen → Except String (List Chosen × Option Char)
  | [], found => .ok (found, none)
  | c :: cs, found =>
    let text := String.ofList cs
    match t.letter? c with
    | none => .error ("invalid option -- '" ++ c.toString ++ "'")
    | some .never => letters? t cs ((c.toString, none) :: found)
    | some .perhaps => .ok ((c.toString, if cs.isEmpty then none else some text) :: found, none)
    | some .always =>
      if cs.isEmpty then .ok (found, some c) else .ok ((c.toString, some text) :: found, none)

def asksAboutTool (key : String) : Bool := key == "help" || key == "version"

/-- Goes over arguments, as far as they do not ask about the tool. What is found comes last one first;
an operand has an empty key. -/
def scan (t : OptionTable) : Nat → List String → List Chosen → Except String (List Chosen)
  | 0, _, found => .ok found
  | fuel + 1, arguments, found =>
    match arguments with
    | [] => .ok found
    | first :: rest =>
      if first == "--" then .ok (operandsOf rest ++ found)
      else if first.startsWith "--" then
        let name := String.ofList ((first.toList.drop 2).takeWhile (· ≠ '='))
        let value :=
          if name.length + 2 < first.length then some (first.drop (name.length + 3)).toString
          else none
        match t.lookUp name first with
        | .error text => .error text
        | .ok o =>
          match o.arity, value, rest with
          | .never, none, _ =>
            let found := (o.key, none) :: found
            if asksAboutTool o.key then .ok found else scan t fuel rest found
          | .never, some _, _ => .error ("option '--" ++ o.name ++ "' doesn't allow an argument")
          | .always, none, [] => .error ("option '--" ++ o.name ++ "' requires an argument")
          | .always, none, value :: rest => scan t fuel rest ((o.key, some value) :: found)
          | _, value, rest => scan t fuel rest ((o.key, value) :: found)
      else if first.startsWith "-" && first.length > 1 then
        match t.letters? (first.toList.drop 1) found, rest with
        | .error text, _ => .error text
        | .ok (found, none), rest => scan t fuel rest found
        | .ok (found, some c), value :: rest => scan t fuel rest ((c.toString, some value) :: found)
        | .ok (_, some c), [] => .error ("option requires an argument -- '" ++ c.toString ++ "'")
      else if t.mixes then scan t fuel rest (("", some first) :: found)
      else .ok (operandsOf arguments ++ found)
where
  operandsOf (texts : List String) : List Chosen := texts.reverse.map fun text => ("", some text)

/-- The options and the operands among arguments in their order, or what is wrong with them. An
operand has an empty key. -/
def readInOrder (t : OptionTable) (arguments : List String) : Except String (List Chosen) :=
  (t.scan (arguments.length + 1) arguments []).map List.reverse

def read (t : OptionTable) (arguments : List String) :
    Except String (List Chosen × List String) :=
  (t.readInOrder arguments).map fun found =>
    let (operands, options) := found.partition (·.1.isEmpty)
    (options, operands.filterMap (·.2))

def answerAbout (found : List Chosen) : Job Unit := do
  match found.getLast? with
  | some ("version", _) => Job.tellVersion
  | some ("help", _) => Job.tellUsage
  | _ => pure ()

def parseInOrder (t : OptionTable) (arguments : List String) : Job (List Chosen) := do
  match t.readInOrder arguments with
  | .ok found =>
    answerAbout found
    return found
  | .error text => Job.misuseWith t.misuse text

def parse (t : OptionTable) (arguments : List String) : Job (List Chosen × List String) := do
  match t.read arguments with
  | .ok (found, operands) =>
    answerAbout found
    return (found, operands)
  | .error text => Job.misuseWith t.misuse text

end OptionTable

namespace Chosen

def has (found : List Chosen) (key : String) : Bool := found.any (·.1 == key)

def value? (found : List Chosen) (key : String) : Option String :=
  (found.reverse.find? (·.1 == key)).bind (·.2)

def last? (found : List Chosen) (keys : List String) : Option String :=
  (found.reverse.find? fun p => keys.contains p.1).map (·.1)

end Chosen

end ServerKeeper.Tool

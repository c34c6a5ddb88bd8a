namespace ServerKeeper.CommandLine

inductive Subcommand
  | check
  | install
  | status
  | uninstall
  deriving DecidableEq, Repr

def Subcommand.ofName? : String → Option Subcommand
  | "check" => some check
  | "install" => some install
  | "status" => some status
  | "uninstall" => some uninstall
  | _ => none

inductive Setting
  | storagePath
  | settings
  | serverVersion
  | releases
  deriving DecidableEq, Repr

namespace Setting

def ofName? : String → Option Setting
  | "storage-path" => some storagePath
  | "settings" => some settings
  | "server-version" => some serverVersion
  | "releases" => some releases
  | _ => none

/-- A listing of releases is only asked for a status; the rest may stand anywhere. -/
def allowed (s : Setting) (subcommand : Option Subcommand) : Bool :=
  s ≠ releases || subcommand = some .status

/-- Only a version may be empty; the rest are paths. -/
def accepts (s : Setting) (value : String) : Bool :=
  s = serverVersion || value ≠ ""

end Setting

structure Given where
  values : List (Setting × String)
  force : Bool
  deriving DecidableEq, Repr

def Given.none : Given := ⟨[], false⟩

structure Arguments where
  subcommand : Subcommand
  force : Bool
  storagePath : Option String
  settings : Option String
  serverVersion : Option String
  releases : Option String
  deriving DecidableEq, Repr

inductive Stop
  | version
  | help
  | usage
  deriving DecidableEq, Repr

inductive Word
  | escape
  /-- Two hyphens and a name, with what stands behind the first equals sign. -/
  | long (name : String) (value : Option String)
  | short (letters : List Char)
  | plain (text : String)
  deriving DecidableEq, Repr

def Word.ofText (text : String) : Word :=
  match text.toList with
  | ['-', '-'] => escape
  | '-' :: '-' :: body =>
    let name := String.ofList (body.takeWhile (· != '='))
    match body.dropWhile (· != '=') with
    | _ :: value => long name (some (String.ofList value))
    | [] => long name none
  | '-' :: c :: rest => short (c :: rest)
  | _ => plain text

structure Reading where
  before : Given
  subcommand : Option (Subcommand × Given)
  pending : Option Setting
  escaped : Bool
  /-- Whether a help page was asked for, and whether its subject was named. -/
  helping : Option Bool
  deriving DecidableEq, Repr

namespace Reading

def start : Reading := ⟨.none, none, none, false, none⟩

/-- Takes the value of an option; it may be given once in each place. -/
def give (r : Reading) (s : Setting) (value : String) : Except Stop Reading :=
  let place := (r.subcommand.map Prod.snd).getD r.before
  if !s.accepts value || place.values.any (·.1 == s) then .error .usage
  else
    let place := { place with values := (s, value) :: place.values }
    .ok
      { r with
        pending := none
        before := if r.subcommand.isSome then r.before else place
        subcommand := r.subcommand.map fun (c, _) => (c, place) }

def giveForce (r : Reading) : Except Stop Reading :=
  match r.subcommand with
  | some (.install, place) =>
    if place.force then .error .usage
    else .ok { r with subcommand := some (.install, { place with force := true }) }
  | _ => .error .usage

def long (r : Reading) (name : String) (value : Option String) : Except Stop Reading :=
  match Setting.ofName? name, value with
  | some s, some value =>
    if s.allowed (r.subcommand.map Prod.fst) then r.give s value else .error .usage
  | some s, none =>
    if s.allowed (r.subcommand.map Prod.fst) then .ok { r with pending := some s }
    else .error .usage
  | none, none =>
    if name = "help" then .error .help
    else if name = "version" ∧ r.subcommand.isNone then .error .version
    else if name = "force" then r.giveForce
    else .error .usage
  | none, some _ => .error .usage

def short (r : Reading) : List Char → Except Stop Reading
  | 'h' :: _ => .error .help
  | 'V' :: _ => .error (if r.subcommand.isNone then .version else .usage)
  | _ => .error .usage

def plain (r : Reading) (text : String) : Except Stop Reading :=
  if r.subcommand.isSome || r.escaped then .error .usage
  else if text = "help" then .ok { r with helping := some false }
  else
    match Subcommand.ofName? text with
    | some c => .ok { r with subcommand := some (c, .none) }
    | none => .error .usage

def subject (r : Reading) (named : Bool) (text : String) : Except Stop Reading :=
  if named = false ∧ (text = "help" ∨ (Subcommand.ofName? text).isSome) then
    .ok { r with helping := some true }
  else .error .usage

def step (r : Reading) (text : String) : Except Stop Reading :=
  match r.helping, r.pending, Word.ofText text with
  | some named, _, _ => r.subject named text
  | none, some s, .plain value => r.give s value
  | none, some _, _ => .error .usage
  | none, none, word =>
    if r.escaped then .error .usage
    else
      match word with
      | .escape => .ok { r with escaped := true }
      | .long name value => r.long name value
      | .short letters => r.short letters
      | .plain text => r.plain text

/-- The value of an option: the one behind the subcommand if there is one. -/
def value? (r : Reading) (place : Given) (s : Setting) : Option String :=
  (place.values.lookup s).or (r.before.values.lookup s)

def finish (r : Reading) : Except Stop Arguments :=
  if r.helping.isSome then .error .help
  else
    match r.pending, r.subcommand with
    | none, some (c, place) =>
      .ok
        { subcommand := c
          force := place.force
          storagePath := r.value? place .storagePath
          settings := r.value? place .settings
          serverVersion := r.value? place .serverVersion
          releases := r.value? place .releases }
    | _, _ => .error .usage

end Reading

/-- Reads the arguments from the left; the first that asks for a page or is wrong decides. -/
def Arguments.parse (texts : List String) : Except Stop Arguments := do
  (← texts.foldlM Reading.step Reading.start).finish

end ServerKeeper.CommandLine

import ServerKeeper.Host.Kernel
import ServerKeeper.Host.Tools
import ServerKeeper.Path
import ServerKeeper.Text.Lossy
import ServerKeeper.Text.Basic

namespace ServerKeeper.Host

inductive Image
  | native (tool : String)
  /-- A script whose first line names its interpreter, with at most one argument. -/
  | interpreted (interpreter : String) (argument : Option String)

namespace Image

def headSize : Nat := 256

def isBlank (c : Char) : Bool := c == ' ' || c == '\t'

def upToNul (cs : List Char) : List Char := cs.takeWhile (· != '\x00')

/-- An interpreter and its argument. The name ends at a blank, and may not be all that there is if
the line is cut off. -/
def ofLine (isWhole : Bool) (line : List Char) : Except FileFault Image :=
  let line := if isWhole then (line.reverse.dropWhile isBlank).reverse else line
  let line := line.dropWhile isBlank
  let name := line.takeWhile fun c => !isBlank c && c != '\x00'
  let rest := line.drop name.length
  if name.isEmpty || rest.isEmpty && !isWhole then .error .notExecutableFormat
  else
    let argument :=
      match rest with
      | c :: _ => if c = '\x00' then [] else upToNul (rest.dropWhile isBlank)
      | [] => []
    let trimmed := (argument.reverse.dropWhile isBlank).reverse
    .ok (.interpreted (String.ofList name)
      (if trimmed.isEmpty then none else some (String.ofList trimmed)))

def ofContent (content : ByteArray) : Except FileFault Image :=
  let mark := nativeMark.map fun b => Char.ofNat b.toNat
  let head := (Text.ofBytes (content.extract 0 headSize)).toList
  match head with
  | '#' :: '!' :: line =>
    let first := line.takeWhile (· != '\n')
    if first.length < line.length then ofLine true first
    else ofLine false (if head.length < headSize then first ++ ['\x00'] else first.dropLast)
  | _ =>
    if mark.isPrefixOf head then .ok (.native (String.ofList (head.drop mark.length)))
    else .error .notExecutableFormat

def atPath (k : Kernel) (pid : Nat) (path : String) : Except FileFault Image := do
  match ← k.lookUp pid true path with
  | .inr _ => throw .permissionDenied
  | .inl n =>
    let node := k.disk.node n
    match node.content with
    | .file bytes => if node.mode &&& 0o111 = 0 then throw .permissionDenied else ofContent bytes
    | _ => throw .permissionDenied

def maxInterpreters : Nat := 5

def resolve (k : Kernel) (pid : Nat) :
    Nat → String → List String → Except FileFault (String × List String)
  | depth, path, arguments => do
    match ← atPath k pid path with
    | .native tool => return (tool, arguments)
    | .interpreted interpreter argument =>
      match depth with
      | 0 => throw .tooManyLinks
      | depth + 1 =>
        resolve k pid depth interpreter
          (interpreter :: argument.toList ++ path :: arguments.drop 1)

def maxArgument : Nat := 131071

def maxArguments : Nat := 2097152

def isOversized (arguments : List String) (environment : List (String × String)) : Bool :=
  let sizes := arguments.map (·.length) ++ environment.map fun (n, v) => n.length + v.length + 1
  sizes.any (maxArgument < ·) || maxArguments < sizes.foldl (fun sum n => sum + n + 9) 0

end Image

def defaultPath : String := "/bin:/usr/bin"

def candidates (searchPath name : String) : List String :=
  if name.contains '/' then [name]
  else (Text.splitOn ':' searchPath.toList).map fun dir => Path.join (String.ofList dir) name

/-- The native program behind the one at a path, and its arguments. A file of no known format is a
script, if there is a shell to read it. -/
def programAt (k : Kernel) (pid : Nat) (inShell : Bool) (path : String)
    (arguments : List String) : Except FileFault (String × List String) :=
  match Image.resolve k pid Image.maxInterpreters path arguments with
  | .error .notExecutableFormat =>
    if inShell then
      Image.resolve k pid Image.maxInterpreters "/bin/sh" ("/bin/sh" :: path :: arguments.drop 1)
    else .error .notExecutableFormat
  | found => found

/-- The first program among some paths. If there is none, that one was denied counts most, and else
how the last one failed. -/
def firstProgram (k : Kernel) (pid : Nat) (inShell : Bool) (arguments : List String) :
    FileFault → List String → Except FileFault (String × List String)
  | fault, [] => .error fault
  | fault, path :: more =>
    match programAt k pid inShell path arguments with
    | .ok program => .ok program
    | .error .permissionDenied => firstProgram k pid inShell arguments .permissionDenied more
    | .error found =>
      if found = .notFound ∨ found = .notADirectory then
        firstProgram k pid inShell arguments
          (if fault = .permissionDenied then .permissionDenied else found) more
      else .error found

end ServerKeeper.Host

import ServerKeeper.Tool.Options
import ServerKeeper.Path

namespace ServerKeeper.Tool

open Job Host

inductive Extent
  | whole
  | allButLast
  | nothing
  deriving DecidableEq

namespace Canonical

def absolute (names : List String) : String := "/" ++ "/".intercalate names.reverse

def isLast (rest : List String) : Bool := rest.all (·.isEmpty)

def needsDirectory : List String → Bool
  | [] => false
  | [""] => true
  | "" :: rest => needsDirectory rest
  | "." :: _ | ".." :: _ => true
  | _ => false

def isDirectory (path : String) : Job (Except FileFault Unit) := do
  match ← ask (.status path true) with
  | .ok s => return if s.content.isDirectory then .ok () else .error .notADirectory
  | .error fault => return .error fault

def resolve (extent : Extent) (followsLinks : Bool) :
    Nat → Nat → List String → List String → Job (Except FileFault (List String))
  | 0, _, _, _ => return .error .tooManyLinks
  | _, _, done, [] => return .ok done
  | fuel + 1, links, done, name :: rest => do
    let go := resolve extent followsLinks fuel
    match name with
    | "" | "." => go links done rest
    | ".." => go links (done.drop 1) rest
    | name =>
      let here := absolute (name :: done)
      let target ← if followsLinks then ask (.readLink here) else pure (.error .invalidArgument)
      match target with
      | .ok target =>
        if links ≥ 40 then
          if extent = .nothing then go links (name :: done) rest else return .error .tooManyLinks
        else
          let base := if target.startsWith "/" then [] else done
          go (links + 1) base (target.splitOn "/" ++ rest)
      | .error fault =>
        let verdict ←
          if fault = .invalidArgument then
            if needsDirectory rest || !followsLinks && !isLast rest then isDirectory here
            else if followsLinks then pure (.ok ())
            else
              match ← ask (.status here false) with
              | .ok _ => pure (.ok ())
              | .error fault => pure (.error fault)
          else pure (.error fault)
        match verdict with
        | .ok () => go links (name :: done) rest
        | .error fault =>
          let isFine : Bool :=
            match extent with
            | .whole => false
            | .allButLast => fault = .notFound && isLast rest
            | .nothing => true
          if isFine then go links (name :: done) rest else return .error fault

end Canonical

namespace Job

def canonical (extent : Extent) (followsLinks : Bool) (path : String) :
    Job (Except FileFault String) := do
  if path.isEmpty then return .error .notFound
  let start ←
    if path.startsWith "/" then pure (some [])
    else
      match ← ask .here with
      | some here => pure (some ((here.splitOn "/").filter (· ≠ "")).reverse)
      | none => pure none
  match start with
  | none => return .error .notFound
  | some start =>
    let parts := path.splitOn "/"
    let fuel := 10000 + parts.length
    return (← Canonical.resolve extent followsLinks fuel 0 start parts).map Canonical.absolute

end Job

namespace Canonical

def names (path : String) : List String := (path.splitOn "/").filter (· ≠ "")

def relative (base path : String) : String :=
  let rec go : List String → List String → List String
    | a :: as, b :: bs => if a == b then go as bs else (a :: as).map (fun _ => "..") ++ (b :: bs)
    | as, bs => as.map (fun _ => "..") ++ bs
  let parts := go (names base) (names path)
  if parts.isEmpty then "." else "/".intercalate parts

def isBelow (base path : String) : Bool := (names base).isPrefixOf (names path)

def readlink : Utility where
  name := "readlink"
  operands := "[OPTION]... FILE..."
  work arguments := do
    let t := OptionTable.ofTexts "efmnqsvz"
      ["canonicalize f", "canonicalize-existing e", "canonicalize-missing m", "no-newline n",
       "quiet q", "silent s", "verbose v", "zero z"] true 1
    let (found, paths) ← t.parse arguments
    let has := Chosen.has found
    if paths.isEmpty then misuse "missing operand"
    let isQuiet := Chosen.last? found ["q", "s", "v"] ≠ some "v"
    let isBare := has "n" && paths.length = 1
    if has "n" && paths.length > 1 then
      tell ((← get).name ++ ": ignoring --no-newline with multiple arguments\n")
    for path in paths do
      let r ←
        match Chosen.last? found ["e", "f", "m"] with
        | some "e" => canonical .whole true path
        | some "f" => canonical .allButLast true path
        | some _ => canonical .nothing true path
        | none => ask (.readLink path)
      match r with
      | .ok target =>
        print (target ++ if isBare then "" else if has "z" then "\x00" else "\n")
      | .error fault =>
        setStatus 1
        unless isQuiet do complain (about path fault)

def realpath : Utility where
  name := "realpath"
  operands := "[OPTION]... FILE..."
  work arguments := do
    let t := OptionTable.ofTexts "eLmPqsz"
      ["canonicalize-existing e", "canonicalize-missing m", "relative-to= to",
       "relative-base= base", "quiet q", "strip s", "no-symlinks s", "zero z", "logical L",
       "physical P"] true 1
    let (found, paths) ← t.parse arguments
    let has := Chosen.has found
    if paths.isEmpty then misuse "missing operand"
    let extent :=
      match Chosen.last? found ["e", "m"] with
      | some "e" => Extent.whole
      | some _ => .nothing
      | none => .allButLast
    let followsLinks := !has "s"
    let base ← (Chosen.value? found "base").mapM fun path => do
      match ← canonical extent followsLinks path with
      | .ok path => pure path
      | .error fault => fail (about path fault)
    let place ← (Chosen.value? found "to").mapM fun path => do
      match ← canonical extent followsLinks path with
      | .ok path => pure path
      | .error fault => fail (about path fault)
    for path in paths do
      match ← canonical extent followsLinks path with
      | .ok path =>
        let shown :=
          match place, base with
          | some place, some base =>
            if isBelow base place && isBelow base path then relative place path else path
          | some place, none => relative place path
          | none, some base => if isBelow base path then relative base path else path
          | none, none => path
        print (shown ++ if has "z" then "\x00" else "\n")
      | .error fault =>
        setStatus 1
        unless has "q" do complain (about path fault)

end Canonical

end ServerKeeper.Tool

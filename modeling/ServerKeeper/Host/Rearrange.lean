import ServerKeeper.Host.Disk

namespace ServerKeeper.Host

/-- Where a path ends: a name in a directory, the node there, and whether a slash follows. A dot
ends at a directory itself. -/
structure Place where
  directory : Nat
  name : String
  node? : Option Nat
  slash : Bool

namespace Disk

def steps (path : String) : List String :=
  let names := Path.segments path
  if names ≠ [] ∧ path.toList.getLast? = some '/' then names ++ [""] else names

def maxName : Nat := 255

def maxPath : Nat := 4095

def maxLinks : Nat := 40

/-- Goes over names, starting in a directory. `onLink` takes over where a link has to be followed;
the last node is a link only if `followLast` is false. -/
def follow (d : Disk) (followLast : Bool)
    (onLink : Nat → List String → Except FileFault Place) :
    Nat → List String → Except FileFault Place
  | here, [] => .ok ⟨here, ".", some here, false⟩
  | here, name :: rest =>
    if name = "" ∨ name = "." then follow d followLast onLink here rest
    else if name = ".." then follow d followLast onLink (d.above here) rest
    else if maxName < name.length then .error .nameTooLong
    else
      let isLast := rest.isEmpty || rest == [""]
      match d.find? here name with
      | none => if isLast then .ok ⟨here, name, none, !rest.isEmpty⟩ else .error .notFound
      | some n =>
        match d.content n with
        | .directory .. =>
          if isLast then .ok ⟨here, name, some n, !rest.isEmpty⟩
          else follow d followLast onLink n rest
        | .link target =>
          if rest.isEmpty && !followLast then .ok ⟨here, name, some n, false⟩
          else if target = "" then .error .notFound
          else
            let onward :=
              if rest.isEmpty then steps target else Path.segments target ++ rest
            onLink (if Path.isAbsolute target then root else here) onward
        | _ =>
          if isLast then .ok ⟨here, name, some n, !rest.isEmpty⟩ else .error .notADirectory

def walk (d : Disk) (followLast : Bool) : Nat → Nat → List String → Except FileFault Place
  | 0 => d.follow followLast fun _ _ => .error .tooManyLinks
  | links + 1 => d.follow followLast (walk d followLast links)

def placeAlong (d : Disk) (here : Nat) (followLast : Bool) (path : String) (names : List String) :
    Except FileFault Place :=
  if path = "" then .error .notFound
  else if maxPath < path.length then .error .nameTooLong
  else if (d.node here).links = 0 && !Path.isAbsolute path && path ≠ "." then .error .notFound
  else walk d followLast maxLinks (if Path.isAbsolute path then root else here) names

/-- The place that a path leads to from a directory. A link with a slash behind it is followed. -/
def place (d : Disk) (here : Nat) (followLast : Bool) (path : String) : Except FileFault Place :=
  d.placeAlong here followLast path (steps path)

/-- The place of the last name of a path itself: a link there is not followed, also with a slash
behind it. -/
def entry (d : Disk) (here : Nat) (path : String) : Except FileFault Place := do
  let p ← d.placeAlong here false path (Path.segments path)
  return { p with slash := path.endsWith "/" }

def existing (d : Disk) (here : Nat) (followLast : Bool) (path : String) :
    Except FileFault Nat := do
  let p ← d.place here followLast path
  match p.node? with
  | none => .error .notFound
  | some n => if p.slash && !(d.content n).isDirectory then .error .notADirectory else .ok n

def pathTo (d : Disk) : Nat → Nat → Option (List String)
  | 0, _ => none
  | fuel + 1, n =>
    if n = root then some []
    else if (d.node n).links = 0 then none
    else do
      let above := d.above n
      let (name, _) ← (d.names above).find? (·.2 = n)
      return (← pathTo d fuel above) ++ [name]

def locate (d : Disk) (n : Nat) : Option String :=
  (d.pathTo (d.nodes.size + 1) n).map fun names => "/" ++ "/".intercalate names

end Disk

end ServerKeeper.Host

namespace ServerKeeper.Host.Disk

variable (d : Disk) (now : Moment) (here : Nat)

def makeDirectory (path : String) (mode : Nat) : Except FileFault Disk := do
  let p ← d.entry here path
  match p.node? with
  | some _ => .error .alreadyExists
  | none =>
    let (d, _) := d.add now p.directory p.name (.directory p.directory []) mode
    .ok d

def makeNode (path : String) (content : Content) (mode : Nat) : Except FileFault Disk := do
  let p ← d.entry here path
  match p.node? with
  | some _ => .error .alreadyExists
  | none =>
    if p.slash then .error .notFound
    else
      let (d, _) := d.add now p.directory p.name content mode
      .ok d

def makeName (source path : String) : Except FileFault Disk := do
  let n ← d.existing here false source
  let p ← d.entry here path
  if (d.content n).isDirectory then .error .notPermitted
  else if p.node?.isSome then .error .alreadyExists
  else if p.slash then .error .notFound
  else .ok (d.enter now p.directory p.name n)

def removeName (path : String) : Except FileFault Disk := do
  let p ← d.entry here path
  match p.node? with
  | none => .error .notFound
  | some n =>
    if (d.content n).isDirectory then .error .isADirectory
    else if p.slash then .error .notADirectory
    else .ok (d.leave now p.directory p.name)

def removeDirectory (path : String) : Except FileFault Disk := do
  let p ← d.entry here path
  match p.node? with
  | none => .error .notFound
  | some n =>
    match (Path.segments path).getLast? with
    | none => .error .busy
    | some "." => .error .invalidArgument
    | some ".." => .error .notEmpty
    | some _ =>
      if !(d.content n).isDirectory then .error .notADirectory
      else if !(d.names n).isEmpty then .error .notEmpty
      else .ok (d.leave now p.directory p.name)

def isWithin : Nat → Nat → Nat → Bool
  | 0, _, _ => false
  | fuel + 1, n, top => n = top || n ≠ root && isWithin fuel (d.above n) top

def isDotted (path : String) : Bool :=
  match (Path.segments path).getLast? with
  | none | some "." | some ".." => true
  | some _ => false

def directoriesIn (n : Nat) : Nat := (d.names n).countP fun (_, m) => (d.content m).isDirectory

def move (source path : String) : Except FileFault Disk := do
  let p ← d.entry here source
  let q ← d.entry here path
  let n ← p.node?.elim (.error .notFound) .ok
  let isDirectory := (d.content n).isDirectory
  if isDotted source || isDotted path then throw .busy
  if !isDirectory && (p.slash || q.slash) then throw .notADirectory
  if isDirectory && d.isWithin (d.nodes.size + 1) q.directory n then throw .invalidArgument
  if q.node? = some n then return d
  let d ← match q.node? with
    | none => pure d
    | some m =>
      if isDirectory && !(d.content m).isDirectory then throw .notADirectory
      else if !isDirectory && (d.content m).isDirectory then throw .isADirectory
      else if !(d.names m).isEmpty then throw .notEmpty
      else pure (d.leave now q.directory q.name)
  let d := (d.leave now p.directory p.name).enter now q.directory q.name n
  if isDirectory then
    return d.update n fun node =>
      { node with content := .directory q.directory (d.names n), links := 2 + d.directoriesIn n }
  else return d

end ServerKeeper.Host.Disk

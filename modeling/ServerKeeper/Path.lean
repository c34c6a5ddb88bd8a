import ServerKeeper.Text.Basic

namespace ServerKeeper.Path

def isAbsolute (path : String) : Bool :=
  path.toList.head? == some '/'

/-- A path read from inside another. An absolute path stands alone; a slash goes between unless one
is there or there is nothing before it. -/
def join (base path : String) : String :=
  if isAbsolute path || base.isEmpty then path
  else if base.toList.getLast? == some '/' then base ++ path
  else base ++ "/" ++ path

inductive Component
  | root
  | current
  | parent
  | name (text : String)
  deriving DecidableEq, Repr

def segments (path : String) : List String :=
  ((Text.splitOn '/' path.toList).filter (!·.isEmpty)).map String.ofList

def Component.ofSegment (s : String) : Component :=
  if s = ".." then parent else name s

/-- The components of a path. A dot counts only at the start of a relative path. -/
def components (path : String) : List Component :=
  let named := (segments path).filter (· != ".") |>.map Component.ofSegment
  if isAbsolute path then .root :: named
  else if (segments path).head? == some "." then .current :: named
  else named

def Component.text : Component → String
  | root => ""
  | current => "."
  | parent => ".."
  | name s => s

def ofComponents (cs : List Component) : String :=
  match cs with
  | [.root] => "/"
  | cs => "/".intercalate (cs.map Component.text)

/-- The path without its last component; a root and an empty path have none. -/
def parent? (path : String) : Option String :=
  match (components path).getLast? with
  | none | some .root => none
  | _ => some (ofComponents (components path).dropLast)

def searchList (text : String) : List String :=
  ((Text.splitOn ':' text.toList).filter (!·.isEmpty)).map String.ofList

end ServerKeeper.Path

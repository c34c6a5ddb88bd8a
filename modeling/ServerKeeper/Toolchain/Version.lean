import ServerKeeper.Text.Pattern

namespace ServerKeeper.Toolchain

structure Version where
  major : UInt32
  minor : UInt32
  patch : UInt32
  deriving DecidableEq, Repr, Inhabited

namespace Version

def zero : Version := ⟨0, 0, 0⟩

instance : Ord Version where
  compare a b :=
    (compare a.major b.major).then ((compare a.minor b.minor).then (compare a.patch b.patch))

def render (v : Version) : String :=
  s!"{v.major.toNat}.{v.minor.toNat}.{v.patch.toNat}"

/-- The pattern `go(\d+)\.(\d+)(?:\.(\d+))?`. -/
def pattern : Text.Pattern :=
  .seq (.char 'g') <| .seq (.char 'o') <| .seq (.group (.many Text.isDigit)) <|
    .seq (.char '.') <| .seq (.group (.many Text.isDigit)) <|
    .optional (.seq (.char '.') (.group (.many Text.isDigit)))

structure Written where
  major : List Char
  minor : List Char
  patch : List Char

def patchAt : List Char → List Char
  | '.' :: rest => rest.takeWhile Text.isDigit
  | _ => []

/-- A version at the very start of a text: `go`, digits, a dot, digits. Runs of digits are taken
whole. -/
def writtenAt? : List Char → Option Written
  | 'g' :: 'o' :: rest =>
    match rest.dropWhile Text.isDigit with
    | '.' :: rest' =>
      let major := rest.takeWhile Text.isDigit
      let minor := rest'.takeWhile Text.isDigit
      if major.isEmpty || minor.isEmpty then none
      else some ⟨major, minor, patchAt (rest'.dropWhile Text.isDigit)⟩
    | _ => none
  | _ => none

def written? : List Char → Option Written
  | [] => none
  | c :: rest =>
    match writtenAt? (c :: rest) with
    | some w => some w
    | none => written? rest

/-- A component that is not an ASCII number of 32 bits counts as zero. -/
def component (digits : List Char) : UInt32 :=
  UInt32.ofNat ((Text.natural? (UInt32.size - 1) digits).getD 0)

/-- Reads the output of the toolchain's `version` subcommand; without a version in it, `0.0.0`. -/
def parse (output : String) : Version :=
  match written? output.toList with
  | some w => ⟨component w.major, component w.minor, component w.patch⟩
  | none => zero

end Version

inductive Verb
  | get
  | install
  deriving DecidableEq, Repr

namespace Verb

/-- The first version whose `install` takes a module with a version. -/
def installSince : Version := ⟨1, 16, 0⟩

def ofVersion (v : Version) : Verb :=
  if (compare v installSince).isLT then get else install

def name : Verb → String
  | get => "get"
  | install => "install"

end Verb

end ServerKeeper.Toolchain

import ServerKeeper.Text.Pattern

namespace ServerKeeper.Release

/-- A version read from a tag: three dotted numbers, and the suffix of a pre-release. Both are kept
as written. -/
structure Version where
  number : String
  prerelease : Option String
  deriving DecidableEq, Repr

namespace Version

def isPrerelease (v : Version) : Bool := v.prerelease.isSome

def render (v : Version) : String :=
  match v.prerelease with
  | some suffix => v.number ++ "-" ++ suffix
  | none => v.number

/-- The pattern `\d+\.\d+\.\d+`. -/
def numberPattern : Text.Pattern :=
  .seq (.many Text.isDigit) <| .seq (.char '.') <| .seq (.many Text.isDigit) <|
    .seq (.char '.') (.many Text.isDigit)

/-- The pattern `\w+\.\d+`. -/
def suffixPattern : Text.Pattern :=
  .seq (.many Text.isWord) <| .seq (.char '.') (.many Text.isDigit)

/-- The pattern `(\d+\.\d+\.\d+)-?(\w+\.\d+)?`. -/
def pattern : Text.Pattern :=
  .seq (.group numberPattern) <| .seq (.optional (.char '-')) <|
    .optional (.group suffixPattern)

/-- A run of digits at the start of a text, if there is one, and what follows it. -/
def digits? (cs : List Char) : Option (List Char × List Char) :=
  if (cs.takeWhile Text.isDigit).isEmpty then none
  else some (cs.takeWhile Text.isDigit, cs.dropWhile Text.isDigit)

def dottedDigits? : List Char → Option (List Char × List Char)
  | '.' :: rest => digits? rest
  | _ => none

/-- Three dotted numbers at the start of a text, and what follows them. -/
def number? (cs : List Char) : Option (List Char × List Char) := do
  let (major, cs) ← digits? cs
  let (minor, cs) ← dottedDigits? cs
  let (patch, cs) ← dottedDigits? cs
  return (major ++ '.' :: minor ++ '.' :: patch, cs)

/-- The suffix of a pre-release at the start of a text: a word, a dot and digits. -/
def suffix? (cs : List Char) : Option (List Char) := do
  guard !(cs.takeWhile Text.isWord).isEmpty
  let (count, _) ← dottedDigits? (cs.dropWhile Text.isWord)
  return cs.takeWhile Text.isWord ++ '.' :: count

/-- One hyphen may stand before the suffix. -/
def dropHyphen : List Char → List Char
  | '-' :: rest => rest
  | cs => cs

/-- The first three dotted numbers in a text, and what follows them. -/
def firstNumber? : List Char → Option (List Char × List Char)
  | [] => none
  | c :: rest =>
    match number? (c :: rest) with
    | some found => some found
    | none => firstNumber? rest

/-- Reads a version such as `0.14.2` or `0.15.0-pre.1` from anywhere in a text. -/
def parse? (raw : String) : Option Version :=
  (firstNumber? raw.toList).map fun (number, rest) =>
    ⟨String.ofList number, (suffix? (dropHyphen rest)).map String.ofList⟩

end Version

/-- A part of a dotted version as a number of 64 bits, with one plus sign allowed before it;
anything else counts as zero. -/
def partValue (cs : List Char) : Nat :=
  let digits := match cs with
    | '+' :: rest => rest
    | cs => cs
  (Text.natural? (UInt64.size - 1) digits).getD 0

def parts (version : String) : List Nat :=
  (Text.splitOn '.' version.toList).map partValue

/-- Dotted versions are compared part by part; of two that agree as far as the shorter goes, the
longer comes later. -/
def compareVersions (a b : String) : Ordering :=
  compare (parts a) (parts b)

/-- Whether `latest` is a stable release and later than the version at hand. -/
def isNewer (current : String) (latest : Version) : Bool :=
  !latest.isPrerelease && (compareVersions current latest.number).isLT

end ServerKeeper.Release

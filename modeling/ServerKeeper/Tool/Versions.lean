namespace ServerKeeper.Tool.Versions

/-- The place of a character where names differ; the end of a name has one too. A tilde comes in
front of the end, then digits, letters, and all else. -/
def weight (c? : Option Char) : Nat :=
  match c? with
  | none => 1
  | some c =>
    if c = '~' then 0 else if c.isDigit then 2 else if c.isAlpha then 3 + c.toNat else 300 + c.toNat

def isNoDigit (cs : List Char) : Bool := cs.head?.any fun c => !c.isDigit

def compareParts : Nat → List Char → List Char → Ordering
  | 0, _, _ => .eq
  | fuel + 1, as, bs =>
    if as.isEmpty && bs.isEmpty then .eq
    else if isNoDigit as || isNoDigit bs then
      match compare (weight as.head?) (weight bs.head?) with
      | .eq => compareParts fuel (as.drop 1) (bs.drop 1)
      | o => o
    else
      let da := as.takeWhile Char.isDigit
      let db := bs.takeWhile Char.isDigit
      let value (ds : List Char) : Nat := ds.foldl (fun n c => 10 * n + (c.toNat - 48)) 0
      match compare (value da) (value db) with
      | .eq => compareParts fuel (as.drop da.length) (bs.drop db.length)
      | o => o

def compareTexts (as bs : List Char) : Ordering := compareParts (as.length + bs.length + 1) as bs

/-- What follows the endings that stand at a start: a point, a letter, and letters or digits. -/
def behindEndings : Nat → List Char → List Char
  | fuel + 1, '.' :: c :: rest =>
    if c.isAlpha || c = '~' then
      behindEndings fuel (rest.dropWhile fun c => c.isAlphanum || c = '~')
    else '.' :: c :: rest
  | _, cs => cs

/-- How many characters stand in front of the endings of a name. There is at least one, unless the
name is empty. -/
def stemLength (size : Nat) : Nat → List Char → Nat
  | 0, _ | _, [] => size
  | fuel + 1, _ :: rest =>
    let behind := behindEndings rest.length rest
    if behind.isEmpty then size - rest.length else stemLength size fuel behind

/-- Hidden names come first: a point alone, two points, and then all others with a point in front.
-/
def rank (cs : List Char) : Nat :=
  match cs with
  | [] => 0
  | ['.'] => 1
  | ['.', '.'] => 2
  | '.' :: _ => 3
  | _ => 4

/-- Compares names by the numbers in them. Names that differ only in their endings are compared as a
whole. -/
def compareNames (as bs : List Char) : Ordering :=
  match compare (rank as) (rank bs) with
  | .eq =>
    if rank as < 3 then .eq
    else
      let stem (cs : List Char) : List Char := cs.take (stemLength cs.length cs.length cs)
      match compareTexts (stem as) (stem bs) with
      | .eq => compareTexts as bs
      | o => o
  | o => o

end ServerKeeper.Tool.Versions

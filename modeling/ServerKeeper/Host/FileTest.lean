import ServerKeeper.Host.Process

namespace ServerKeeper.Host.FileTest

def isCharacterDevice : Content → Bool
  | .device _ => true
  | _ => false

def isQueue : Content → Bool
  | .queue => true
  | _ => false

def question? (letter : Char) : Option (FileStatus → Bool) :=
  match letter with
  | 'e' | 'r' | 'w' => some fun _ => true
  | 'O' => some fun s => s.owner = 0
  | 'G' => some fun s => s.group = 0
  | 'f' => some fun s => s.content.isFile
  | 'd' => some fun s => s.content.isDirectory
  | 'c' => some fun s => isCharacterDevice s.content
  | 'p' => some fun s => isQueue s.content
  | 'b' | 'S' => some fun _ => false
  | 'u' => some fun s => s.mode &&& 0o4000 ≠ 0
  | 'g' => some fun s => s.mode &&& 0o2000 ≠ 0
  | 'k' => some fun s => s.mode &&& 0o1000 ≠ 0
  | 's' => some fun s => s.content.size ≠ 0
  | 'x' => some fun s => s.content.isDirectory || s.mode &&& 0o111 ≠ 0
  | 'h' | 'L' => some fun s => s.content.isLink
  | 'N' => some fun s => s.accessed ≤ s.modified
  | _ => none

def status? (path : String) (followLast : Bool) : Program (Option FileStatus) := do
  match ← Program.ask (.status path followLast) with
  | .ok s => return some s
  | .error _ => return none

/-- The answer to a question about what a path leads to. Nothing is true of what is not there. -/
def ask (letter : Char) (question : FileStatus → Bool) (path : String) : Program Bool := do
  let s ← status? path (letter ≠ 'h' && letter ≠ 'L')
  return s.any question

def isNewer (a b : String) : Program Bool := do
  match ← status? a true, ← status? b true with
  | some s, some t => return t.modified < s.modified
  | _, _ => return false

def isSame (a b : String) : Program Bool := do
  match ← status? a true, ← status? b true with
  | some s, some t => return s.number = t.number
  | _, _ => return false

end ServerKeeper.Host.FileTest

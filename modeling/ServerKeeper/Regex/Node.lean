namespace ServerKeeper.Regex

inductive Edge
  | lineStart
  | lineEnd
  | textStart
  | textEnd
  | wordStart
  | wordEnd
  | word
  | notWord
  | noWordBefore
  | noWordBehind
  deriving DecidableEq, Repr

structure ByteSet where
  members : Array Bool

namespace ByteSet

def ofTest (p : Char → Bool) : ByteSet :=
  ⟨((List.range 256).map fun n => p (Char.ofNat n)).toArray⟩

def contains (s : ByteSet) (c : Char) : Bool := s.members.getD c.toNat false

end ByteSet

inductive Node
  | empty
  | char (c : Char)
  | set (s : ByteSet)
  | edge (e : Edge)
  | sequence (first second : Node)
  | choice (first second : Node)
  | times (least : Nat) (most : Option Nat) (body : Node)
  | group (number : Nat) (body : Node)
  | reference (number : Nat)

namespace Node

def hasReference : Node → Bool
  | reference _ => true
  | sequence a b | choice a b => a.hasReference || b.hasReference
  | times _ _ body | group _ body => body.hasReference
  | _ => false

end Node

def isLetter (c : Char) : Bool := 'a' ≤ c && c ≤ 'z' || 'A' ≤ c && c ≤ 'Z'

def isDigit (c : Char) : Bool := '0' ≤ c && c ≤ '9'

def isWord (c : Char) : Bool := isLetter c || isDigit c || c = '_'

def isSpace (c : Char) : Bool := c = ' ' || '\t' ≤ c && c ≤ '\x0d'

def classTest? (name : String) : Option (Char → Bool) :=
  match name with
  | "alpha" => some isLetter
  | "digit" => some isDigit
  | "alnum" => some fun c => isLetter c || isDigit c
  | "upper" => some fun c => 'A' ≤ c && c ≤ 'Z'
  | "lower" => some fun c => 'a' ≤ c && c ≤ 'z'
  | "space" => some isSpace
  | "blank" => some fun c => c = ' ' || c = '\t'
  | "punct" => some fun c => '!' ≤ c && c ≤ '~' && !isLetter c && !isDigit c
  | "print" => some fun c => ' ' ≤ c && c ≤ '~'
  | "graph" => some fun c => '!' ≤ c && c ≤ '~'
  | "cntrl" => some fun c => c < ' ' || c = '\x7f'
  | "xdigit" => some fun c => isDigit c || 'a' ≤ c && c ≤ 'f' || 'A' ≤ c && c ≤ 'F'
  | _ => none

def lowered (c : Char) : Char := if 'A' ≤ c && c ≤ 'Z' then Char.ofNat (c.toNat + 32) else c

def raised (c : Char) : Char := if 'a' ≤ c && c ≤ 'z' then Char.ofNat (c.toNat - 32) else c

end ServerKeeper.Regex

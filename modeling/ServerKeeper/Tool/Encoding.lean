import ServerKeeper.Tool.Lines

namespace ServerKeeper.Tool.Encoding

open Job Host

/-- An alphabet: so many bits go into a letter, and so many letters into a group. -/
structure Alphabet where
  letters : Array Char
  bits : Nat
  group : Nat

def alphabet64 : Alphabet :=
  ⟨"ABCDEFGHIJKLMNOPQRSTUVWXYZabcdefghijklmnopqrstuvwxyz0123456789+/".toList.toArray, 6, 4⟩

def alphabet32 : Alphabet := ⟨"ABCDEFGHIJKLMNOPQRSTUVWXYZ234567".toList.toArray, 5, 8⟩

namespace Alphabet

def bytesOfGroup (a : Alphabet) : Nat := a.bits * a.group / 8

def groupText (a : Alphabet) (cs : List Char) : List Char :=
  let n := cs.foldl (fun n c => 256 * n + c.toNat) 0
  let used := (8 * cs.length + a.bits - 1) / a.bits
  let n := n * Nat.pow 2 (used * a.bits - 8 * cs.length)
  let letter (i : Nat) : Char :=
    a.letters.getD (n / Nat.pow 2 (a.bits * (used - 1 - i)) % Nat.pow 2 a.bits) 'A'
  (List.range used).map letter ++ List.replicate (a.group - used) '='

def encoded (a : Alphabet) : Nat → List Char → List Char
  | 0, _ | _, [] => []
  | fuel + 1, cs => a.groupText (cs.take a.bytesOfGroup) ++ a.encoded fuel (cs.drop a.bytesOfGroup)

def groupBytes (a : Alphabet) (ns : List Nat) : List Char :=
  let whole := a.bits * ns.length / 8
  let n :=
    ns.foldl (fun n m => Nat.pow 2 a.bits * n + m) 0 / Nat.pow 2 (a.bits * ns.length - 8 * whole)
  (List.range whole).map fun i => Char.ofNat (n / Nat.pow 256 (whole - 1 - i) % 256)

def isLength (a : Alphabet) (n : Nat) : Bool :=
  a.bits * n % 8 < a.bits && n > 0 && (a.bits * n / 8) * 8 + a.bits > a.bits * n

def decoded (a : Alphabet) : Nat → List Char → List Char × Bool
  | 0, _ | _, [] => ([], true)
  | fuel + 1, cs =>
    let first := cs.take a.group
    let letters := first.takeWhile (a.letters.contains ·)
    let ns := letters.map fun c => (a.letters.idxOf? c).getD 0
    let rest := cs.drop a.group
    if letters.length = a.group then
      let (more, isRight) := a.decoded fuel rest
      (a.groupBytes ns ++ more, isRight)
    else
      let filler := first.drop letters.length
      let isRight := first.length = a.group && filler.all (· = '=') && a.isLength letters.length
      if isRight then
        let (more, isRight) := a.decoded fuel rest
        (a.groupBytes ns ++ more, isRight)
      else if a.group = 8 then ([], false)
      else (a.groupBytes ns, false)

end Alphabet

def wrapped (width : Nat) : Nat → List Char → List Char
  | 0, _ | _, [] => []
  | fuel + 1, cs => cs.take width ++ '\n' :: wrapped width fuel (cs.drop width)

def encodingTool (name : String) (a : Alphabet) : Utility where
  name := name
  work arguments := do
    let t := OptionTable.ofTexts "diw:" ["decode d", "ignore-garbage i", "wrap= w"] true 1
    let (found, paths) ← t.parse arguments
    let width ←
      match Chosen.value? found "w" with
      | none => pure 76
      | some text =>
        match natural? text with
        | some n => pure n
        | none => fail ("invalid wrap size: " ++ ShownPath.literal text)
    let path ←
      match paths with
      | [] => pure "-"
      | [path] => pure path
      | _ :: other :: _ => misuse ("extra operand " ++ ShownPath.literal other)
    match ← readInput path with
    | .error .isADirectory => fail ("read error: " ++ FileFault.isADirectory.text)
    | .error fault => fail (about path fault)
    | .ok text =>
      let cs := text.toList
      let fuel := cs.length + 1
      if Chosen.has found "d" then
        let kept := cs.filter fun c =>
          if Chosen.has found "i" then a.letters.contains c || c = '=' else c ≠ '\n'
        let (decoded, isRight) := a.decoded fuel kept
        print (String.ofList decoded)
        if !isRight then fail "invalid input"
      else
        let letters := a.encoded fuel cs
        let shown := if width = 0 then letters else wrapped width (letters.length + 1) letters
        print (String.ofList shown)

def base64 : Utility := encodingTool "base64" alphabet64

def base32 : Utility := encodingTool "base32" alphabet32

end ServerKeeper.Tool.Encoding

namespace ServerKeeper.Text

/-- A character of which some bytes are still to come: its value so far, the bounds of its next
byte, and how many bytes follow that one. -/
structure OpenChar where
  value : Nat
  low : UInt8
  high : UInt8
  more : Nat

def replacement : Char := '\ufffd'

/-- What a byte at the start of a character gives: a whole character, or an open one. -/
def startChar (b : UInt8) : List Char × Option OpenChar :=
  let n := b.toNat
  if n < 0x80 then ([Char.ofNat n], none)
  else if n < 0xc2 then ([replacement], none)
  else if n < 0xe0 then ([], some ⟨n % 0x20, 0x80, 0xbf, 0⟩)
  else if n < 0xf0 then
    ([], some ⟨n % 0x10, if n = 0xe0 then 0xa0 else 0x80, if n = 0xed then 0x9f else 0xbf, 1⟩)
  else if n < 0xf5 then
    ([], some ⟨n % 0x08, if n = 0xf0 then 0x90 else 0x80, if n = 0xf4 then 0x8f else 0xbf, 2⟩)
  else ([replacement], none)

/-- Takes one byte. A byte that cannot continue the open character closes it as a replacement
character and is read again as a start. -/
def stepChar (pending : Option OpenChar) (b : UInt8) : List Char × Option OpenChar :=
  match pending with
  | none => startChar b
  | some c =>
    if c.low ≤ b ∧ b ≤ c.high then
      let value := c.value * 0x40 + b.toNat % 0x40
      match c.more with
      | 0 => ([Char.ofNat value], none)
      | more + 1 => ([], some ⟨value, 0x80, 0xbf, more⟩)
    else
      let (chars, next) := startChar b
      (replacement :: chars, next)

def lossyChars (pending : Option OpenChar) : List UInt8 → List Char
  | [] => if pending.isSome then [replacement] else []
  | b :: rest =>
    let (chars, next) := stepChar pending b
    chars ++ lossyChars next rest

def lossy (bytes : List UInt8) : String :=
  String.ofList (lossyChars none bytes)

def ofBytes (bytes : ByteArray) : String :=
  bytes.foldl (fun s b => s.push (Char.ofNat b.toNat)) ""

def appendBytes (bytes : ByteArray) (s : String) : ByteArray :=
  s.foldl (fun bs c => bs.push (UInt8.ofNat c.toNat)) bytes

def toBytes (s : String) : ByteArray := appendBytes .empty s

def encode (text : String) : String := ofBytes text.toUTF8

def decode (s : String) : String := lossy (toBytes s).toList

end ServerKeeper.Text
